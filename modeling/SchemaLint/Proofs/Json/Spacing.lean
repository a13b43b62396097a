import SchemaLint.Proofs.Json.Layout

/-!
# What a layout takes over of the spacing

The pretty printer drops three of the four characters that JSON allows between tokens: spaces, tabs and line feeds.  A
carriage return is written where it stands, so that a text whose lines end in a carriage return and a line feed is laid
out with carriage returns at the beginnings of its lines.

The main result says that this is all that two layouts of the same tokens can differ in.  Without its whitespace a text
is its ink; with its carriage returns it is its residue.  Two texts with the same ink are laid out alike exactly if they
have the same residue, whatever the indent is.

That different residues are laid out differently does not follow from reading the layouts, which hold the indent as well.
It is seen at the first place where the residues differ: one of them goes on with a carriage return there, and the other
one with a part that is written with something else in front.
-/

namespace SchemaLint

namespace Json

open Token (points)

/-- Whether a part is whitespace that the pretty printer drops. -/
def Part.isDropped : Part -> Bool
  | between c => c = ' ' || c = '\t' || c = '\n'
  | literal _ | unclosed _ => false

/-- What is left of a text without the spaces, tabs and line feeds between its tokens. -/
def residue (t : Text) : List Part :=
  (parts t).filter fun p => !p.isDropped

theorem Part.isBlank_of_isDropped {p : Part} (dropped : p.isDropped = true) : p.isBlank = true := by
  cases p with
  | between c =>
      have among : c = ' ' ∨ c = '\t' ∨ c = '\n' := by simpa [isDropped, or_assoc] using dropped
      apply isBlank_iff.mpr
      rcases among with space | tab | line
      · exact .inl space
      · exact .inr (.inl tab)
      · exact .inr (.inr (.inl line))
  | literal body => cases dropped
  | unclosed rest => cases dropped

/-- What is not dropped is a carriage return or no whitespace. -/
theorem Part.return_or_ink {p : Part} (kept : p.isDropped = false) :
    p = .between (.scalar '\r') ∨ p.isBlank = false := by
  cases blank : p.isBlank with
  | false => exact .inr rfl
  | true =>
      left
      cases p with
      | between c => rcases isBlank_iff.mp blank with rfl | rfl | rfl | rfl <;> first | rfl | cases kept
      | literal body => cases blank
      | unclosed rest => cases blank

theorem ink_eq_filter_residue (t : Text) : ink t = (residue t).filter fun p => !p.isBlank := by
  unfold ink residue
  rw [List.filter_filter]
  apply List.filter_congr
  intro p _
  cases dropped : p.isDropped with
  | false => simp
  | true => simp [Part.isBlank_of_isDropped dropped]

/-- Without carriage returns between its tokens nothing is left of a text but its ink. -/
theorem residue_eq_ink {t : Text} (none : .between (.scalar '\r') ∉ parts t) : residue t = ink t := by
  rw [ink_eq_filter_residue]
  symm
  apply List.filter_eq_self.mpr
  intro p member
  obtain ⟨inside, kept⟩ := List.mem_filter.mp member
  rcases Part.return_or_ink (by simpa using kept) with rfl | inked
  · exact absurd inside none
  · simp [inked]

/-- Whether a part is no literal with a backslash right before its closing quote. -/
def Part.endsPlainly : Part -> Bool
  | literal body => body.getLast? != some (.scalar '\\')
  | between _ | unclosed _ => true

instance (t : Text) : Decidable (EndsPlainly t) :=
  decidable_of_iff (forall p, p ∈ parts t -> p.endsPlainly = true) <| by
    constructor
    · intro all body member
      simpa [Part.endsPlainly] using all _ member
    · intro plain p member
      cases p with
      | literal body => simpa [Part.endsPlainly] using plain body member
      | between c => rfl
      | unclosed rest => rfl

/-- String literals are ink. -/
theorem endsPlainly_of_ink {t t' : Text} (same : ink t = ink t') (plain : EndsPlainly t) : EndsPlainly t' := by
  intro body member
  have inked : Part.literal body ∈ ink t' := List.mem_filter.mpr ⟨member, rfl⟩
  rw [← same] at inked
  exact plain body (List.mem_filter.mp inked).1

namespace Layout

/-! ## The layout of parts -/

/-- The scan between tokens, whatever stands before. -/
def between (depth : Int) : State :=
  { depth, inString := false, previous := none }

/-- How a part is written at a depth. -/
def layPart (indent : Text) (depth : Int) : Part -> Text
  | .between c => emit indent (between depth) c
  | .literal body => .scalar '"' :: (body ++ [.scalar '"'])
  | .unclosed rest => .scalar '"' :: rest

/-- The depth behind a part. -/
def depthPast (depth : Int) : Part -> Int
  | .between c => (next (between depth) c).depth
  | .literal _ | .unclosed _ => depth

/-- How parts are written from a depth on. -/
def layParts (indent : Text) (depth : Int) : List Part -> Text
  | [] => []
  | p :: ps => layPart indent depth p ++ layParts indent (depthPast depth p) ps

variable {indent : Text} {depth : Int}

theorem outside_between (depth : Int) : Outside (between depth) depth :=
  ⟨rfl, nofun, rfl⟩

/-- A lexeme of one character is one part. -/
theorem layParts_character {c : CodePoint} {l : Lexeme} (isValid : l.IsValid) (plain : l.EndsPlainly) (text : l.text = [c])
    (rest : List Part) :
    layParts indent depth (.between c :: rest) =
      textOf (lay indent depth l) ++ layParts indent (depthBehind depth l) rest := by
  obtain ⟨written, -, outside⟩ := scan_lexeme indent (outside_between depth) isValid plain
  rw [text] at written outside
  have depths : (next (between depth) c).depth = depthBehind depth l := outside.depth
  rw [layParts, layPart, depthPast, depths, ← written, chars, chars, List.append_nil]

theorem layParts_points {cs : List Char} (inner : AreInner cs) (rest : List Part) :
    layParts indent depth ((points cs).map .between ++ rest) = points cs ++ layParts indent depth rest := by
  induction cs with
  | nil => rfl
  | cons c cs ih =>
      have single : AreInner [c] := List.forall_mem_singleton.mpr (inner c List.mem_cons_self)
      obtain ⟨written, -, outside⟩ := scan_points indent (outside_between depth) single
      have emitted : emit indent (between depth) c = [.scalar c] := (List.append_nil _).symm.trans written
      have depths : (next (between depth) c).depth = depth := outside.depth
      rw [Token.points_cons, List.map_cons, List.cons_append, layParts, layPart, depthPast, emitted, depths,
        ih fun d member => inner d (List.mem_cons_of_mem c member)]
      rfl

/-- The parts of lexemes are written as the lexemes are. -/
theorem layParts_lexemes {ls : List Lexeme} (areLexemes : AreLexemes ls) (plain : forall l, l ∈ ls -> l.EndsPlainly) :
    layParts indent depth (ls.flatMap Lexeme.parts) = textOf (layAll indent depth ls) := by
  induction areLexemes generalizing depth with
  | nil => rfl
  | @cons l ls isValid isBounded rest ih =>
      have own : l.EndsPlainly := plain l List.mem_cons_self
      have later : forall depth, layParts indent depth (ls.flatMap Lexeme.parts) = textOf (layAll indent depth ls) :=
        fun _ => ih fun l' member => plain l' (List.mem_cons_of_mem l member)
      rw [List.flatMap_cons, layAll, textOf_append, ← later]
      cases l with
      | blank c => exact layParts_character isValid own rfl _
      | mark c token => exact layParts_character isValid own rfl _
      | atom cs token =>
          rw [Lexeme.parts, layParts_points (areInner_of_atom isValid)]
          exact congrArg (· ++ _) (List.append_nil _).symm
      | literal body said => exact congrArg (· ++ _) (List.append_nil _).symm

/-- A text that can be read is written part by part if the scan is right about its literals. -/
theorem layoutText_eq_layParts {t : Text} {v : Value} (accepted : read .strict t = .ok v) (plain : EndsPlainly t)
    (indent : Text) : layoutText t indent = layParts indent 0 (parts t) := by
  obtain ⟨ls, areLexemes, rfl, -⟩ := exists_lexemes_of_read accepted
  have plain' := (endsPlainly_textOf areLexemes).mp plain
  rw [layoutText_eq_chars, chars_textOf indent areLexemes plain' outside_start, parts_textOf areLexemes,
    layParts_lexemes areLexemes plain']

/-! ## What the layout tells of the parts -/

theorem layPart_dropped {p : Part} (dropped : p.isDropped = true) :
    layPart indent depth p = [] ∧ depthPast depth p = depth := by
  cases p with
  | between c =>
      have among : c = ' ' ∨ c = '\t' ∨ c = '\n' := by simpa [Part.isDropped, or_assoc] using dropped
      rcases among with rfl | rfl | rfl <;> exact ⟨rfl, rfl⟩
  | literal body => cases dropped
  | unclosed rest => cases dropped

/-- What is dropped has no part in what is written. -/
theorem layParts_filter (ps : List Part) :
    layParts indent depth (ps.filter fun p => !p.isDropped) = layParts indent depth ps := by
  induction ps generalizing depth with
  | nil => rfl
  | cons p ps ih =>
      cases dropped : p.isDropped with
      | true =>
          obtain ⟨nothing, same⟩ : layPart indent depth p = [] ∧ depthPast depth p = depth := layPart_dropped dropped
          rw [List.filter_cons_of_neg (by simp [dropped]), ih, layParts, nothing, same, List.nil_append]
      | false => rw [List.filter_cons_of_pos (by simp [dropped]), layParts, layParts, ih]

/-- A carriage return is written as it is. -/
theorem layParts_return (ps : List Part) :
    layParts indent depth (.between (.scalar '\r') :: ps) = .scalar '\r' :: layParts indent depth ps :=
  rfl

/-- What is written for anything but whitespace does not begin with a carriage return. -/
theorem exists_front_of_ink {p : Part} (inked : p.isBlank = false) :
    exists c more, layPart indent depth p = c :: more ∧ c ≠ .scalar '\r' := by
  cases p with
  | literal body => exact ⟨_, _, rfl, by decide⟩
  | unclosed rest => exact ⟨_, _, rfl, by decide⟩
  | between c =>
      have other : c ≠ .scalar '\r' := by
        rintro rfl
        cases inked
      have notDropped : ¬ (c = ' ' || c = '\t' || c = '\n') = true := by
        intro among
        rw [Part.isBlank_of_isDropped (p := .between c) among] at inked
        cases inked
      change exists d more, emit indent (between depth) c = d :: more ∧ d ≠ .scalar '\r'
      unfold emit
      rw [if_neg notDropped]
      split
      · exact ⟨c, [], rfl, other⟩
      split
      · exact ⟨c, _, rfl, other⟩
      split
      · exact ⟨.scalar '\n', _, rfl, by decide⟩
      split
      · exact ⟨c, _, rfl, other⟩
      split
      · exact ⟨c, _, rfl, other⟩
      · exact ⟨c, [], rfl, other⟩

theorem layParts_ne_return {p : Part} (inked : p.isBlank = false) (ps : List Part) (t : Text) :
    layParts indent depth (p :: ps) ≠ .scalar '\r' :: t := by
  obtain ⟨c, more, front, other⟩ : exists c more, layPart indent depth p = c :: more ∧ c ≠ .scalar '\r' :=
    exists_front_of_ink inked
  rw [layParts, front]
  exact fun same => other (List.cons.inj same).1

theorem filter_ink {p : Part} (inked : p.isBlank = false) (ps : List Part) :
    ((p :: ps).filter fun p => !p.isBlank) = p :: ps.filter fun p => !p.isBlank :=
  List.filter_cons_of_pos (by simp [inked])

/-- Parts with the same ink that are written alike are the same, where nothing among them is dropped. -/
theorem eq_of_layParts {ps qs : List Part} (kept : forall p, p ∈ ps -> p.isDropped = false)
    (kept' : forall q, q ∈ qs -> q.isDropped = false)
    (ink : (ps.filter fun p => !p.isBlank) = qs.filter fun p => !p.isBlank)
    (written : layParts indent depth ps = layParts indent depth qs) : ps = qs := by
  -- Both lists are taken apart side by side; only carriage returns can make them differ at the front.
  induction ps generalizing depth qs with
  | nil =>
      cases qs with
      | nil => rfl
      | cons q qs =>
          rcases Part.return_or_ink (kept' q List.mem_cons_self) with rfl | inked
          · cases written
          · rw [filter_ink inked] at ink
            cases ink
  | cons p ps ih =>
      obtain ⟨own, later⟩ := List.forall_mem_cons.mp kept
      cases qs with
      | nil =>
          rcases Part.return_or_ink own with rfl | inked
          · cases written
          · rw [filter_ink inked] at ink
            cases ink
      | cons q qs =>
          obtain ⟨own', later'⟩ := List.forall_mem_cons.mp kept'
          rcases Part.return_or_ink own with rfl | inked
          · rcases Part.return_or_ink own' with rfl | inked'
            · rw [layParts_return, layParts_return] at written
              rw [ih later later' ink (List.cons.inj written).2]
            · exact absurd written.symm (layParts_ne_return inked' qs _)
          · rcases Part.return_or_ink own' with rfl | inked'
            · exact absurd written (layParts_ne_return inked ps _)
            · rw [filter_ink inked, filter_ink inked'] at ink
              obtain ⟨rfl, others⟩ := List.cons.inj ink
              rw [layParts, layParts] at written
              rw [ih later later' others (List.append_cancel_left written)]

end Layout

/-- Two texts of the same tokens are laid out alike exactly if they have the same carriage returns at the same places
between their tokens, and so always if they have none. -/
theorem layoutText_eq_iff_of_ink {t t' : Text} {v v' : Value} (accepted : read .strict t = .ok v)
    (accepted' : read .strict t' = .ok v') (plain : EndsPlainly t) (same : ink t = ink t') (indent : Text) :
    (layoutText t indent = layoutText t' indent <-> residue t = residue t') ∧
      (.between (.scalar '\r') ∉ parts t -> .between (.scalar '\r') ∉ parts t' ->
        layoutText t indent = layoutText t' indent) := by
  have laid : layoutText t indent = Layout.layParts indent 0 (residue t) :=
    (Layout.layoutText_eq_layParts accepted plain indent).trans (Layout.layParts_filter _).symm
  have laid' : layoutText t' indent = Layout.layParts indent 0 (residue t') :=
    (Layout.layoutText_eq_layParts accepted' (endsPlainly_of_ink same plain) indent).trans (Layout.layParts_filter _).symm
  have kept : forall t : Text, forall p, p ∈ residue t -> p.isDropped = false := by
    intro t p member
    simpa using (List.mem_filter.mp member).2
  have alike : layoutText t indent = layoutText t' indent <-> residue t = residue t' := by
    rw [laid, laid']
    constructor
    · apply Layout.eq_of_layParts (kept t) (kept t')
      rw [← ink_eq_filter_residue, ← ink_eq_filter_residue, same]
    · intro equal
      rw [equal]
  refine ⟨alike, fun none none' => alike.mpr ?_⟩
  rw [residue_eq_ink none, residue_eq_ink none', same]

/-! ### Line ends -/

/-- An array whose lines end in a carriage return and a line feed. -/
def returnedArray : Text :=
  Text.ofString "[1,\r\n\"a b\"\r\n]"

/-- The array with carriage returns in the same places and other whitespace around them. -/
def respacedArray : Text :=
  Text.ofString " [1 ,\r\"a b\"\t\r ]\n"

/-- The array whose lines end in a line feed. -/
def plainArray : Text :=
  Text.ofString "[1,\n\"a b\"\n]"

theorem layoutText_respacedArray :
    exists v v', read .strict returnedArray = .ok v ∧ read .strict respacedArray = .ok v' ∧ EndsPlainly returnedArray ∧
      ink returnedArray = ink respacedArray ∧
      layoutText returnedArray (Text.ofString "  ") = layoutText respacedArray (Text.ofString "  ") := by
  obtain ⟨v, accepted⟩ : exists v, read .strict returnedArray = .ok v := ⟨_, by rfl⟩
  obtain ⟨v', accepted'⟩ : exists v', read .strict respacedArray = .ok v' := ⟨_, by rfl⟩
  have plain : EndsPlainly returnedArray := by decide +kernel
  have same : ink returnedArray = ink respacedArray := by decide +kernel
  have residues : residue returnedArray = residue respacedArray := by decide +kernel
  have alike := (layoutText_eq_iff_of_ink accepted accepted' plain same (Text.ofString "  ")).1
  exact ⟨v, v', accepted, accepted', plain, same, alike.mpr residues⟩

/-- With the one kind of line end the array is laid out otherwise than with the other kind. -/
theorem layoutText_returnedArray_ne :
    exists v v', read .strict returnedArray = .ok v ∧ read .strict plainArray = .ok v' ∧ EndsPlainly returnedArray ∧
      EndsPlainly plainArray ∧ ink returnedArray = ink plainArray ∧
      layoutText returnedArray (Text.ofString defaultIndent) = Text.ofString "[\n\t\t1,\n\t\t\r\"a b\"\r\n]" ∧
      layoutText plainArray (Text.ofString defaultIndent) = Text.ofString "[\n\t\t1,\n\t\t\"a b\"\n]" ∧
      layoutText returnedArray (Text.ofString defaultIndent) ≠ layoutText plainArray (Text.ofString defaultIndent) := by
  obtain ⟨v, accepted⟩ : exists v, read .strict returnedArray = .ok v := ⟨_, by rfl⟩
  obtain ⟨v', accepted'⟩ : exists v', read .strict plainArray = .ok v' := ⟨_, by rfl⟩
  refine ⟨v, v', accepted, accepted', ?_⟩
  decide +kernel

end Json

end SchemaLint
