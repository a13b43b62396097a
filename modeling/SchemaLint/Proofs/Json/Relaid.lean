import Mathlib.Data.List.Induction
import SchemaLint.Proofs.Json.Tree

/-!
# Layouts of layouts

A layout does not remember how its text was laid out before.  The pretty printer drops the whitespace that an earlier pass
has written, and it tells string literals apart as that pass did, whether the text is JSON or not.

What could go wrong is the look back.  Before the second pass whitespace has come and gone, so that other characters stand
before the quotes.  What is written before or behind a mark is no backslash, and neither is the mark, so that whitespace
which comes in changes nothing.  Whitespace that is dropped can bring a quote right behind a backslash, and then the
second pass takes it for an escaped one.  The result is about all texts in which this does not happen.

The induction is on the text from its end, because what the passes do at a quote hangs on what stands before it.
-/

namespace SchemaLint

namespace Json

namespace Layout

variable {indent t : Text} {s s' : State} {c : CodePoint}

/-- A text that ends with a backslash and a gap behind it, neither of which the scan takes for a part of a literal. -/
def EndsParted (t : Text) : Prop :=
  exists front gap, t = front ++ .scalar '\\' :: gap ∧ IsGap gap ∧ gap ≠ [] ∧ (behind start front).inString = false

/-- Outside of what the scan takes for literals, no quote is parted from a backslash by a gap and nothing else. -/
def KeepsQuotes (t : Text) : Prop :=
  forall front back, t = front ++ .scalar '"' :: back -> ¬ EndsParted front

/-! ## One character -/

theorem previous_next (s : State) (c : CodePoint) : (next s c).previous = some c := by
  unfold next
  split
  · rfl
  split
  · rfl
  split
  · rfl
  split <;> rfl

theorem behind_concat (s : State) (t : Text) (c : CodePoint) : behind s (t ++ [c]) = next (behind s t) c := by
  unfold behind
  rw [List.foldl_append]
  rfl

/-- Only a quote begins or ends a literal. -/
theorem inString_next (notQuote : c ≠ '"') : (next s c).inString = s.inString := by
  unfold next
  rw [if_neg notQuote]
  split
  · rfl
  split
  · rfl
  split <;> rfl

/-- The scan knows of what came before the depth, whether it is inside of a literal, and which quotes count. -/
theorem next_eq (depth : s'.depth = s.depth) (inString : s'.inString = s.inString)
    (toggles_eq : c = '"' -> toggles s' c = toggles s c) : next s' c = next s c := by
  unfold next
  by_cases quote : c = '"'
  · rw [if_pos quote, if_pos quote, toggles_eq quote, depth, inString]
  · rw [if_neg quote, if_neg quote, depth, inString]

theorem emit_eq (depth : s'.depth = s.depth) (inString : s'.inString = s.inString) : emit indent s' c = emit indent s c := by
  unfold emit
  rw [depth, inString]

theorem isGap_newline (isGap : IsGap indent) (depth : Int) : IsGap (newline indent depth) := by
  intro c member
  rcases List.mem_cons.mp member with rfl | member
  · exact .inr (.inr rfl)
  · obtain ⟨copy, isCopy, member⟩ := List.mem_flatten.mp member
    rw [List.eq_of_mem_replicate isCopy] at member
    exact isGap c member

/-- What is written for a character at a state. -/
inductive Emitted (indent : Text) (s : State) (c : CodePoint) : Prop
  | dropped (outside : s.inString = false) (blank : IsGap [c]) (written : emit indent s c = [])
  | copied (written : emit indent s c = [c])
  /-- A mark, which brings whitespace with it. -/
  | spaced (outside : s.inString = false) (notQuote : c ≠ '"') (notBackslash : c ≠ '\\') (before after : Text)
      (isGap : IsGap before) (isGap' : IsGap after) (written : emit indent s c = before ++ c :: after)

theorem emitted (isGap : IsGap indent) (s : State) (c : CodePoint) : Emitted indent s c := by
  by_cases verbatim : c = '"' ∨ s.inString = true
  · refine .copied ?_
    unfold emit
    rw [if_pos (by simpa using verbatim)]
  obtain ⟨notQuote, outside⟩ := not_or.mp verbatim
  rw [Bool.not_eq_true] at outside
  have written : emit indent s c =
      if c = '{' || c = '[' then c :: newline indent (s.depth + 1)
      else if c = '}' || c = ']' then newline indent (s.depth - 1) ++ [c]
      else if c = ',' then c :: newline indent s.depth
      else if c = ':' then [c, .scalar ' ']
      else if c = ' ' || c = '\t' || c = '\n' then []
      else [c] := by
    unfold emit
    rw [if_neg (by simp [notQuote, outside])]
  have line : forall depth, IsGap (newline indent depth) := isGap_newline isGap
  have nothing : IsGap [] := nofun
  split at written
  next opens =>
    refine .spaced outside notQuote ?_ [] _ nothing (line _) written
    rintro rfl
    simp at opens
  split at written
  next closes =>
    refine .spaced outside notQuote ?_ _ [] (line _) nothing written
    rintro rfl
    simp at closes
  split at written
  next comma => exact .spaced outside notQuote (by simp [comma]) [] _ nothing (line _) written
  split at written
  next colon =>
    refine .spaced outside notQuote (by simp [colon]) [] [.scalar ' '] nothing ?_ written
    exact fun d member => .inl (List.mem_singleton.mp member)
  split at written
  next blank =>
    refine .dropped outside ?_ written
    intro d member
    rw [List.mem_singleton.mp member]
    simpa [or_assoc] using blank
  next => exact .copied written

/-! ## The two passes side by side -/

/-- The second pass stands at the same depth as the first one, and inside of a literal if that does.  It looks back at a
backslash where the first one does, and otherwise only if whitespace behind a backslash was dropped. -/
structure Beside (t : Text) (s s' : State) : Prop where
  depth : s'.depth = s.depth
  inString : s'.inString = s.inString
  escaped : s.previous = some (.scalar '\\') -> s'.previous = some (.scalar '\\')
  parted : s'.previous = some (.scalar '\\') -> s.previous = some (.scalar '\\') ∨ EndsParted t

theorem beside_self (t : Text) (s : State) : Beside t s s :=
  ⟨rfl, rfl, id, .inl⟩

/-- Both passes take the same quotes for the ends of literals. -/
theorem Beside.toggles_eq (beside : Beside t s s') (whole : ¬ EndsParted t) (c : CodePoint) :
    toggles s' c = toggles s c := by
  have same : s'.previous = some (.scalar '\\') <-> s.previous = some (.scalar '\\') :=
    ⟨fun escaped => (beside.parted escaped).resolve_right whole, beside.escaped⟩
  unfold toggles
  congr 1
  rw [Bool.eq_iff_iff, bne_iff_ne, bne_iff_ne]
  exact not_congr same

/-- Whitespace that is dropped behind a backslash parts it from what comes next. -/
theorem endsParted_concat (outside : (behind start t).inString = false) (blank : IsGap [c])
    (parted : (behind start t).previous = some (.scalar '\\') ∨ EndsParted t) : EndsParted (t ++ [c]) := by
  rcases parted with escaped | ⟨front, gap, rfl, isGap, -, outside'⟩
  · induction t using List.reverseRecOn with
    | nil => cases escaped
    | append_singleton front d _ =>
      rw [behind_concat] at escaped outside
      rw [previous_next] at escaped
      cases escaped
      rw [inString_next (by decide)] at outside
      exact ⟨front, [c], List.append_assoc .., blank, List.cons_ne_nil _ _, outside⟩
  · refine ⟨front, gap ++ [c], by simp, ?_, by simp, outside'⟩
    exact List.forall_mem_append.mpr ⟨isGap, blank⟩

/-- Where the first pass writes a character, the second one writes what the first one would have written with its
indent. -/
theorem Beside.step (isGap : IsGap indent) (indent' : Text) (beside : Beside t (behind start t) s')
    (whole : c = '"' -> ¬ EndsParted t) :
    chars indent' s' (emit indent (behind start t) c) = emit indent' (behind start t) c ∧
      Beside (t ++ [c]) (behind start (t ++ [c])) (behind s' (emit indent (behind start t) c)) := by
  rw [behind_concat]
  cases emitted isGap (behind start t) c with
  | dropped outside blank written =>
    have other : c ≠ '"' ∧ c ≠ '\\' ∧ emit indent' (behind start t) c = [] ∧
        (next (behind start t) c).depth = (behind start t).depth := by
      rcases blank c List.mem_cons_self with rfl | rfl | rfl <;> simp [emit, next, outside]
    obtain ⟨notQuote, notBackslash, dropped, sameDepth⟩ := other
    rw [written, dropped]
    refine ⟨rfl, beside.depth.trans sameDepth.symm, beside.inString.trans (inString_next notQuote).symm, ?_, ?_⟩
    · rw [previous_next]
      exact fun same => absurd (Option.some.inj same) notBackslash
    · exact fun escaped => .inr (endsParted_concat outside blank (beside.parted escaped))
  | copied written =>
    have same : next s' c = next (behind start t) c :=
      next_eq beside.depth beside.inString fun quote => beside.toggles_eq (whole quote) c
    rw [written]
    refine ⟨?_, ?_⟩
    · rw [chars, chars, List.append_nil, emit_eq beside.depth beside.inString]
    · change Beside _ _ (next s' c)
      rw [same]
      exact beside_self _ _
  | spaced outside notQuote notBackslash before after isGap isGap' written =>
    have outside' : s'.inString = false := beside.inString.trans outside
    obtain ⟨dropped, stands⟩ := scan_gap indent' outside' isGap
    have same : next (behind s' before) c = next (behind start t) c := by
      rw [stands]
      exact next_eq beside.depth beside.inString fun quote => absurd quote notQuote
    have outside'' : (next (behind start t) c).inString = false := (inString_next notQuote).trans outside
    obtain ⟨dropped', stands'⟩ := scan_gap indent' outside'' isGap'
    rw [written]
    refine ⟨?_, ?_⟩
    · rw [chars_append, dropped, List.nil_append, chars, same, dropped', List.append_nil, stands]
      exact emit_eq beside.depth beside.inString
    · have after' : behind s' (before ++ c :: after) = behind (next (behind start t) c) after := by
        rw [← same]
        exact List.foldl_append
      rw [after', stands']
      refine ⟨rfl, rfl, ?_, fun escaped => .inl (previous_gap isGap' escaped)⟩
      rw [previous_next]
      exact fun same => absurd (Option.some.inj same) notBackslash

theorem KeepsQuotes.of_append {front back : Text} (keeps : KeepsQuotes (front ++ back)) : KeepsQuotes front := by
  rintro front' back' rfl
  exact keeps front' (back' ++ back) (List.append_assoc ..)

/-- The passes stay side by side over a whole text. -/
theorem beside_of_keepsQuotes (isGap : IsGap indent) (indent' : Text) (keeps : KeepsQuotes t) :
    chars indent' start (chars indent start t) = chars indent' start t ∧
      Beside t (behind start t) (behind start (chars indent start t)) := by
  induction t using List.reverseRecOn with
  | nil => exact ⟨rfl, beside_self _ _⟩
  | append_singleton t c ih =>
    obtain ⟨relaid, beside⟩ := ih keeps.of_append
    have whole : c = '"' -> ¬ EndsParted t := by
      rintro rfl
      exact keeps t [] rfl
    obtain ⟨written, beside'⟩ := beside.step isGap indent' whole
    have split : chars indent start (t ++ [c]) = chars indent start t ++ emit indent (behind start t) c := by
      rw [chars_append, chars, chars, List.append_nil]
    have behind_split : behind start (chars indent start (t ++ [c])) =
        behind (behind start (chars indent start t)) (emit indent (behind start t) c) := by
      rw [split]
      exact List.foldl_append
    refine ⟨?_, ?_⟩
    · rw [split, chars_append, relaid, written, chars_append, chars, chars, List.append_nil]
    · rw [behind_split]
      exact beside'

end Layout

/-- Laying out a text, JSON or not, undoes that it was laid out before. -/
theorem layoutText_layoutText {t indent : Text} (keeps : Layout.KeepsQuotes t) (isGap : IsGap indent) (indent' : Text) :
    layoutText (layoutText t indent) indent' = layoutText t indent' := by
  rw [Layout.layoutText_eq_chars, Layout.layoutText_eq_chars, Layout.layoutText_eq_chars]
  exact (Layout.beside_of_keepsQuotes isGap indent' keeps).1

/-! ### A text that is not JSON -/

/-- Where every backslash before whitespace is inside of a literal, no quote is parted from one. -/
theorem Layout.keepsQuotes_of_inside {t : Text}
    (inside : forall n, n < t.length -> t[n]? = some (.scalar '\\') ->
      t[n + 1]? ∈ [some (.scalar ' '), some (.scalar '\t'), some (.scalar '\n')] ->
      (behind start (t.take n)).inString = true) : KeepsQuotes t := by
  rintro _ back split ⟨front, gap, rfl, isGap, nonempty, outside⟩
  obtain ⟨c, gap, rfl⟩ := List.exists_cons_of_ne_nil nonempty
  have blank : some c ∈ [some (.scalar ' '), some (.scalar '\t'), some (.scalar '\n')] := by
    simpa using isGap c List.mem_cons_self
  have inside := inside front.length (by simp [split]) (by simp [split]) (by simpa [split] using blank)
  rw [split] at inside
  simp [outside] at inside

/-- A closing bracket without an opening one, a literal that is none because of a backslash before it, and one that holds a
backslash and a space before its end. -/
def spoiledText : Text :=
  Text.ofString "\x7d\\\"a\\\\\",[\"x\\ \" ,1"

theorem layoutText_layoutText_spoiled : Layout.KeepsQuotes spoiledText ∧ IsGap (Text.ofString "\t") ∧
    layoutText spoiledText (Text.ofString "\t") = Text.ofString "\n\x7d\\\"a\\\\\",\n[\n\"x\\ \",\n1" ∧
    layoutText (layoutText spoiledText (Text.ofString "\t")) (Text.ofString "  ") =
      layoutText spoiledText (Text.ofString "  ") := by
  have keeps : Layout.KeepsQuotes spoiledText := Layout.keepsQuotes_of_inside (by decide +kernel)
  have isGap : IsGap (Text.ofString "\t") := fun c member => .inr (.inl (List.mem_singleton.mp member))
  exact ⟨keeps, isGap, by decide +kernel, layoutText_layoutText keeps isGap _⟩

/-- A quote that comes to stand behind a backslash begins no literal any more, and a space is lost. -/
example : layoutText (Text.ofString "\\ \"x y\"") [] = Text.ofString "\\\"x y\"" ∧
    layoutText (Text.ofString "\\\"x y\"") [] = Text.ofString "\\\"xy\"" := by
  decide +kernel

end Json

end SchemaLint
