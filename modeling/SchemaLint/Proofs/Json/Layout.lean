import SchemaLint.Proofs.Json.Scan

/-!
# What the pretty printer keeps

The pretty printer keeps track of string literals by one look back.  For a text that can be read it is right about all of
it just if no literal has a backslash right before its closing quote.  It then writes every token as it was and changes
nothing but whitespace between tokens, so that what it writes is read as the same value.
-/

namespace SchemaLint

namespace Json

open Token (points mark? IsBody IsNumeral)

/-! ## The parts of lexemes -/

/-- Characters within words and numbers. -/
def IsInner (c : Char) : Prop :=
  c ∉ ['"', '\\', '{', '}', '[', ']', ':', ',', ' ', '\t', '\n', '\r']

theorem isInner_of_digit {c : Char} (digit : c.isDigit = true) : IsInner c := by
  intro member
  simp only [List.mem_cons, List.not_mem_nil, or_false] at member
  rcases member with rfl | rfl | rfl | rfl | rfl | rfl | rfl | rfl | rfl | rfl | rfl | rfl <;> cases digit

/-- Characters none of which stands for itself in the grammar of texts. -/
def AreInner (cs : List Char) : Prop :=
  forall c, c ∈ cs -> IsInner c

theorem areInner_append {front back : List Char} (first : AreInner front) (second : AreInner back) :
    AreInner (front ++ back) :=
  List.forall_mem_append.mpr ⟨first, second⟩

theorem areInner_cons {c : Char} {cs : List Char} (first : IsInner c) (others : AreInner cs) : AreInner (c :: cs) :=
  List.forall_mem_cons.mpr ⟨first, others⟩

theorem areInner_digits {ds : List Char} (all : Token.AreDigits ds) : AreInner ds :=
  fun c member => isInner_of_digit (all c member)

theorem areInner_minus (negative : Bool) : AreInner (Token.minus negative) := by
  cases negative with
  | false => exact nofun
  | true => exact areInner_cons (by unfold IsInner; decide) nofun

theorem areInner_pointed {part : List Char} (all : Token.AreDigits part) : AreInner (Token.pointed part) := by
  cases part with
  | nil => exact nofun
  | cons d ds => exact areInner_cons (by unfold IsInner; decide) (areInner_digits all)

theorem areInner_exponent {cs : List Char} {power : Int} (isExponent : Token.IsExponent cs power) : AreInner cs := by
  obtain ⟨e, sign, negative, ds, letter, isSign, -, all⟩ := isExponent
  have inner : IsInner e := by
    unfold IsInner
    rcases letter with rfl | rfl <;> decide
  have signs : AreInner sign := by
    cases isSign with
    | none => exact nofun
    | plus => exact areInner_cons (by unfold IsInner; decide) nofun
    | minus => exact areInner_cons (by unfold IsInner; decide) nofun
  exact areInner_cons inner (areInner_append signs (areInner_digits all))

theorem areInner_of_numeral {cs : List Char} {literal : NumberLiteral} (isNumeral : IsNumeral cs literal) :
    AreInner cs := by
  cases isNumeral with
  | int negative ds isWhole => exact areInner_append (areInner_minus negative) (areInner_digits isWhole.all)
  | fraction negative ds part isWhole nonempty all =>
    exact areInner_append (areInner_minus negative) (areInner_append (areInner_digits isWhole.all) (areInner_pointed all))
  | exponent negative ds part exponent power isWhole all isExponent =>
    exact areInner_append (areInner_minus negative) (areInner_append (areInner_digits isWhole.all)
      (areInner_append (areInner_pointed all) (areInner_exponent isExponent)))

theorem areInner_of_atom {cs : List Char} {token : Token} (isValid : (Lexeme.atom cs token).IsValid) :
    AreInner cs := by
  cases isValid with
  | word name token isWord =>
    have noMark : Token.words.all (fun word => word.1.toList.all fun c =>
        not (['"', '\\', '{', '}', '[', ']', ':', ',', ' ', '\t', '\n', '\r'].contains c)) = true := by
      decide
    intro c member
    simpa [IsInner] using List.all_eq_true.mp (List.all_eq_true.mp noMark _ isWord) c member
  | number cs literal isNumeral => exact areInner_of_numeral isNumeral

namespace Lexeme

/-- The parts of a lexeme. -/
def parts : Lexeme -> List Part
  | blank c => [.between c]
  | mark c _ => [.between c]
  | atom cs _ => (points cs).map .between
  | literal body _ => [.literal body]

/-- A literal has no backslash right before its closing quote. -/
def EndsPlainly : Lexeme -> Prop
  | literal body _ => body.getLast? ≠ some (.scalar '\\')
  | _ => True

end Lexeme

theorem partsFrom_skip (front behind : Text) : partsFrom front.length (front ++ behind) = partsFrom 0 behind := by
  induction front with
  | nil => rfl
  | cons c front ih => exact ih

theorem partsFrom_between {c : CodePoint} (notQuote : c ≠ '"') (rest : Text) :
    partsFrom 0 (c :: rest) = .between c :: partsFrom 0 rest := by
  rw [partsFrom, if_neg notQuote]

theorem partsFrom_points {cs : List Char} (inner : AreInner cs) (rest : Text) :
    partsFrom 0 (points cs ++ rest) = (points cs).map .between ++ partsFrom 0 rest := by
  induction cs with
  | nil => rfl
  | cons c cs ih =>
    have notQuote : CodePoint.scalar c ≠ '"' := by
      intro same
      cases same
      exact inner '"' (List.mem_cons_self ..) (by simp)
    rw [Token.points_cons, List.cons_append, partsFrom_between notQuote,
      ih fun d member => inner d (List.mem_cons_of_mem c member)]
    rfl

theorem partsFrom_literal {body said : Text} (isBody : IsBody body said) (rest : Text) :
    partsFrom 0 (.scalar '"' :: (body ++ .scalar '"' :: rest)) = .literal body :: partsFrom 0 rest := by
  have length : 0 + body.length + 1 = (body ++ [CodePoint.scalar '"']).length := by
    rw [List.length_append, List.length_singleton, Nat.zero_add]
  have split : body ++ .scalar '"' :: rest = (body ++ [.scalar '"']) ++ rest := by
    rw [List.append_assoc, List.singleton_append]
  rw [partsFrom, if_pos rfl, isBody.read]
  simp only
  rw [Nat.add_sub_cancel, Nat.zero_add, List.take_left, ← Nat.zero_add body.length, length, split, partsFrom_skip]

theorem parts_textOf {ls : List Lexeme} (areLexemes : AreLexemes ls) : parts (textOf ls) = ls.flatMap Lexeme.parts := by
  unfold parts
  induction areLexemes with
  | nil => rfl
  | @cons l ls isValid isBounded rest ih =>
    unfold textOf
    rw [List.flatMap_cons, List.flatMap_cons, ← ih]
    cases isValid with
    | blank c blank =>
      refine partsFrom_between ?_ (textOf ls)
      rintro rfl
      cases blank
    | mark c token isMark =>
      refine partsFrom_between ?_ (textOf ls)
      rintro rfl
      cases isMark
    | word name token isWord => exact partsFrom_points (areInner_of_atom (.word name token isWord)) (textOf ls)
    | number cs literal isNumeral => exact partsFrom_points (areInner_of_numeral isNumeral) (textOf ls)
    | literal body said isBody =>
      change partsFrom 0 (.scalar '"' :: ((body ++ [.scalar '"']) ++ textOf ls)) = _
      rw [List.append_assoc, List.singleton_append, partsFrom_literal isBody]
      rfl

/-- A text of lexemes has no literal with a backslash at its end just if none of the lexemes is one. -/
theorem endsPlainly_textOf {ls : List Lexeme} (areLexemes : AreLexemes ls) :
    EndsPlainly (textOf ls) <-> forall l, l ∈ ls -> l.EndsPlainly := by
  unfold EndsPlainly
  rw [parts_textOf areLexemes]
  constructor
  · intro all l member
    cases l with
    | literal body said =>
      exact all body (List.mem_flatMap.mpr ⟨_, member, List.mem_singleton.mpr rfl⟩)
    | _ => trivial
  · intro all body inside
    obtain ⟨l, member, part⟩ := List.mem_flatMap.mp inside
    cases l with
    | literal body' said =>
      cases List.mem_singleton.mp part
      exact all _ member
    | blank c => cases List.mem_singleton.mp part
    | mark c token => cases List.mem_singleton.mp part
    | atom cs token =>
      obtain ⟨c, -, same⟩ := List.mem_map.mp part
      cases same

/-! ## The scan of the pretty printer -/

namespace Layout

/-- The state behind a text. -/
def behind (s : State) (t : Text) : State :=
  t.foldl next s

theorem chars_append (indent : Text) (s : State) (front back : Text) :
    chars indent s (front ++ back) = chars indent s front ++ chars indent (behind s front) back := by
  induction front generalizing s with
  | nil => rfl
  | cons c front ih =>
    rw [List.cons_append, chars, ih, chars, List.append_assoc]
    rfl

theorem flags_append (s : State) (front back : Text) :
    flags s (front ++ back) = flags s front ++ flags (behind s front) back := by
  induction front generalizing s with
  | nil => rfl
  | cons c front ih =>
    rw [List.cons_append, flags, ih, flags, List.cons_append]
    rfl

/-- Every quote of a text stands right behind a backslash. -/
def IsMuted : Option CodePoint -> Text -> Prop
  | _, [] => True
  | previous, c :: rest => (c = '"' -> previous = some (.scalar '\\')) ∧ IsMuted (some c) rest

theorem isMuted_append {previous : Option CodePoint} {front back : Text} (noQuote : CodePoint.scalar '"' ∉ front)
    (back' : forall previous, IsMuted previous back) : IsMuted previous (front ++ back) := by
  induction front generalizing previous with
  | nil => exact back' previous
  | cons c front ih =>
    refine ⟨?_, ih fun member => noQuote (List.mem_cons_of_mem c member)⟩
    rintro rfl
    exact absurd (List.mem_cons_self ..) noQuote

theorem quote_not_mem_of_hex4 {digits : Text} {n : Nat} (read : Token.hex4? digits = some (n, [])) :
    CodePoint.scalar '"' ∉ digits := by
  intro member
  unfold Token.hex4? at read
  split at read
  next a b c d rest =>
    simp only [Option.bind_eq_bind, Option.bind_eq_some_iff] at read
    obtain ⟨x, isX, y, isY, z, isZ, w, isW, same⟩ := read
    cases same
    simp only [List.mem_cons, List.not_mem_nil, or_false] at member
    rcases member with rfl | rfl | rfl | rfl
    · cases isX
    · cases isY
    · cases isZ
    · cases isW
  next => cases read

/-- Within the body of a literal every quote stands right behind a backslash. -/
theorem isMuted_of_isBody {body said : Text} (isBody : IsBody body said) (previous : Option CodePoint) :
    IsMuted previous body := by
  induction isBody generalizing previous with
  | nil => trivial
  | plain c notQuote notBackslash notControl rest ih => exact ⟨fun same => absurd same notQuote, ih _⟩
  | letter c e simple rest ih => exact ⟨nofun, fun _ => rfl, ih _⟩
  | unit digits unit e spelled isPoint alone rest ih =>
    exact ⟨nofun, nofun, isMuted_append (quote_not_mem_of_hex4 spelled) ih⟩
  | pair digits digits' high low e spelled spelled' isHigh isLow isPoint rest ih =>
    refine ⟨nofun, nofun, isMuted_append (quote_not_mem_of_hex4 spelled) fun _ => ⟨nofun, nofun, ?_⟩⟩
    exact isMuted_append (quote_not_mem_of_hex4 spelled') ih

theorem next_inside {s : State} {c : CodePoint} (inside : s.inString = true) (muted : c = '"' -> s.previous = some (.scalar '\\')) :
    next s c = { s with previous := some c } := by
  unfold next
  by_cases quote : c = '"'
  · have keeps : toggles s c = false := by simp [toggles, muted quote]
    rw [if_pos quote, keeps]
    simp
  · rw [if_neg quote, if_pos inside]

/-- Within a literal everything is written as it is. -/
theorem muted_inside (indent : Text) {s : State} (inside : s.inString = true) {t : Text} (muted : IsMuted s.previous t) :
    chars indent s t = t ∧ flags s t = t.map (fun _ => true) ∧
      behind s t = { s with previous := t.getLast?.or s.previous } := by
  induction t generalizing s with
  | nil => exact ⟨rfl, rfl, rfl⟩
  | cons c t ih =>
    have step : next s c = { s with previous := some c } := next_inside inside muted.1
    obtain ⟨written, flags', after⟩ := ih (s := { s with previous := some c }) inside muted.2
    have emitted : emit indent s c = [c] := by
      unfold emit
      rw [if_pos (by simp [inside])]
    refine ⟨?_, ?_, ?_⟩
    · rw [chars, step, emitted, written]
      rfl
    · rw [flags, step, flags', inside]
      rfl
    · change behind (next s c) t = _
      rw [step, after, List.getLast?_cons]
      cases t.getLast? <;> rfl

/-- The scan stands between tokens, at a depth. -/
structure Outside (s : State) (depth : Int) : Prop where
  notInside : s.inString = false
  notEscaped : s.previous ≠ some (.scalar '\\')
  depth : s.depth = depth

/-- Whitespace as lexemes. -/
def blanks (t : Text) : List Lexeme :=
  t.map .blank

/-- The whitespace that is written before a mark. -/
def before (indent : Text) (depth : Int) (c : CodePoint) : Text :=
  if c = '}' || c = ']' then newline indent (depth - 1) else []

/-- The whitespace that is written behind a mark. -/
def after (indent : Text) (depth : Int) (c : CodePoint) : Text :=
  if c = '{' || c = '[' then newline indent (depth + 1)
  else if c = '}' || c = ']' then []
  else if c = ',' then newline indent depth
  else [.scalar ' ']

/-- How a lexeme is written at a depth. -/
def lay (indent : Text) (depth : Int) : Lexeme -> List Lexeme
  | .blank c => if c = ' ' || c = '\t' || c = '\n' then [] else [.blank c]
  | .mark c token => blanks (before indent depth c) ++ .mark c token :: blanks (after indent depth c)
  | .atom cs token => [.atom cs token]
  | .literal body said => [.literal body said]

/-- The depth behind a lexeme. -/
def depthBehind (depth : Int) : Lexeme -> Int
  | .mark c _ => if c = '{' || c = '[' then depth + 1 else if c = '}' || c = ']' then depth - 1 else depth
  | .blank _ | .atom _ _ | .literal _ _ => depth

/-- How lexemes are written from a depth on. -/
def layAll (indent : Text) (depth : Int) : List Lexeme -> List Lexeme
  | [] => []
  | l :: ls => lay indent depth l ++ layAll indent (depthBehind depth l) ls

theorem textOf_append (front back : List Lexeme) : textOf (front ++ back) = textOf front ++ textOf back :=
  List.flatMap_append

theorem textOf_blanks (t : Text) : textOf (blanks t) = t := by
  unfold textOf blanks
  rw [List.flatMap_map]
  exact List.flatMap_singleton' t

/-- Words and numbers are written as they are. -/
theorem scan_points (indent : Text) {s : State} {depth : Int} (outside : Outside s depth) {cs : List Char}
    (inner : AreInner cs) :
    chars indent s (points cs) = points cs ∧ flags s (points cs) = (points cs).map (fun _ => false) ∧
      Outside (behind s (points cs)) depth := by
  induction cs generalizing s with
  | nil => exact ⟨rfl, rfl, outside⟩
  | cons c cs ih =>
    have isInner := inner c (List.mem_cons_self ..)
    have other : forall d, d ∈ ['"', '\\', '{', '}', '[', ']', ':', ',', ' ', '\t', '\n', '\r'] ->
        CodePoint.scalar c ≠ .scalar d := by
      rintro d member same
      cases same
      exact isInner member
    have notInside := outside.notInside
    have step : next s (.scalar c) = { s with previous := some (.scalar c) } := by
      unfold next
      rw [if_neg (other '"' (by simp)), if_neg (by simp [notInside]),
        if_neg (by simp [other '{' (by simp), other '[' (by simp)]),
        if_neg (by simp [other '}' (by simp), other ']' (by simp)])]
    have emitted : emit indent s (.scalar c) = [.scalar c] := by
      unfold emit
      rw [if_neg (by simp [other '"' (by simp), notInside]), if_neg (by simp [other '{' (by simp), other '[' (by simp)]),
        if_neg (by simp [other '}' (by simp), other ']' (by simp)]), if_neg (other ',' (by simp)),
        if_neg (other ':' (by simp)),
        if_neg (by simp [other ' ' (by simp), other '\t' (by simp), other '\n' (by simp)])]
    have after : Outside { s with previous := some (.scalar c) } depth :=
      ⟨notInside, fun same => other '\\' (by simp) (Option.some.inj same), outside.depth⟩
    obtain ⟨written, flags', outside'⟩ := ih after fun d member => inner d (List.mem_cons_of_mem c member)
    refine ⟨?_, ?_, ?_⟩
    · rw [Token.points_cons, chars, step, emitted, written]
      rfl
    · rw [Token.points_cons, flags, step, flags', notInside]
      rfl
    · change Outside (behind (next s (.scalar c)) (points cs)) depth
      rw [step]
      exact outside'

/-- A literal is written as it is, and the scan finds its end unless there is a backslash before it. -/
theorem scan_literal (indent : Text) {s : State} {depth : Int} (outside : Outside s depth) {body said : Text}
    (isBody : IsBody body said) :
    chars indent s (.scalar '"' :: (body ++ [.scalar '"'])) = .scalar '"' :: (body ++ [.scalar '"']) ∧
      flags s (.scalar '"' :: (body ++ [.scalar '"'])) =
        true :: (body.map (fun _ => true) ++ [decide (body.getLast? = some (.scalar '\\'))]) ∧
      behind s (.scalar '"' :: (body ++ [.scalar '"'])) =
        ⟨depth, decide (body.getLast? = some (.scalar '\\')), some (.scalar '"')⟩ := by
  obtain ⟨notInside, notEscaped, sameDepth⟩ := outside
  have opening : next s (.scalar '"') = ⟨depth, true, some (.scalar '"')⟩ := by
    simp [next, toggles, notInside, notEscaped, sameDepth]
  have emitted : forall s : State, emit indent s (.scalar '"') = [.scalar '"'] := fun _ => rfl
  have muted := isMuted_of_isBody isBody (some (.scalar '"'))
  obtain ⟨written, flags', after⟩ := muted_inside indent (s := ⟨depth, true, some (.scalar '"')⟩) rfl muted
  have closing : next ⟨depth, true, body.getLast?.or (some (.scalar '"'))⟩ (.scalar '"') =
      ⟨depth, decide (body.getLast? = some (.scalar '\\')), some (.scalar '"')⟩ := by
    cases last : body.getLast? with
    | none => rfl
    | some c => by_cases backslash : c = .scalar '\\' <;> simp [next, toggles, backslash]
  refine ⟨?_, ?_, ?_⟩
  · rw [chars, opening, chars_append, written, emitted, chars, emitted]
    rfl
  · rw [flags, opening, flags_append, flags', after, flags, closing]
    rfl
  · unfold behind at after ⊢
    rw [List.foldl_cons, opening, List.foldl_append, after]
    exact closing

theorem insides_between (t : Text) : (t.map Part.between).flatMap Part.insides = t.map fun _ => false := by
  rw [List.flatMap_map]
  exact (List.map_eq_flatMap ..).symm

/-- How a lexeme is scanned and written. -/
theorem scan_lexeme (indent : Text) {s : State} {depth : Int} (outside : Outside s depth) {l : Lexeme}
    (isValid : l.IsValid) (plain : l.EndsPlainly) :
    chars indent s l.text = textOf (lay indent depth l) ∧ flags s l.text = l.parts.flatMap Part.insides ∧
      Outside (behind s l.text) (depthBehind depth l) := by
  cases isValid with
  | blank c blank =>
    obtain ⟨notInside, notEscaped, sameDepth⟩ := outside
    rcases isBlank_iff.mp blank with rfl | rfl | rfl | rfl <;>
      refine ⟨?_, ?_, ?_, ?_, ?_⟩ <;>
      simp [Lexeme.text, Lexeme.parts, Part.insides, chars, emit, flags, next, behind, lay, depthBehind, textOf,
        notInside, sameDepth]
  | mark c token isMark =>
    obtain ⟨notInside, notEscaped, sameDepth⟩ := outside
    have written : forall t, (blanks t).flatMap Lexeme.text = t := textOf_blanks
    cases isMark_of_mark? isMark <;>
      refine ⟨?_, ?_, ?_, ?_, ?_⟩ <;>
      simp [Lexeme.text, Lexeme.parts, Part.insides, chars, emit, flags, next, behind, lay, before, after, depthBehind,
        textOf, notInside, sameDepth, written]
  | word name token isWord =>
    obtain ⟨written, flags', outside'⟩ := scan_points indent outside (areInner_of_atom (.word name token isWord))
    exact ⟨written.trans (List.append_nil _).symm, flags'.trans (insides_between _).symm, outside'⟩
  | number cs literal isNumeral =>
    obtain ⟨written, flags', outside'⟩ := scan_points indent outside (areInner_of_numeral isNumeral)
    exact ⟨written.trans (List.append_nil _).symm, flags'.trans (insides_between _).symm, outside'⟩
  | literal body said isBody =>
    obtain ⟨written, flags', after⟩ := scan_literal indent outside isBody
    have noEscape : decide (body.getLast? = some (.scalar '\\')) = false := decide_eq_false plain
    rw [noEscape] at flags' after
    refine ⟨written.trans (List.append_nil _).symm, flags'.trans (List.append_nil _).symm, ?_⟩
    change Outside (behind s (.scalar '"' :: (body ++ [.scalar '"']))) depth
    rw [after]
    exact ⟨rfl, by simp, rfl⟩

/-- The scan is right about all of a text just if no literal has a backslash right before its closing quote. -/
theorem flags_textOf {ls : List Lexeme} (areLexemes : AreLexemes ls) {s : State} {depth : Int} (outside : Outside s depth) :
    flags s (textOf ls) = (ls.flatMap Lexeme.parts).flatMap Part.insides <-> forall l, l ∈ ls -> l.EndsPlainly := by
  induction areLexemes generalizing s depth with
  | nil => simp [textOf, flags]
  | @cons l ls isValid isBounded rest ih =>
    unfold textOf
    rw [List.flatMap_cons, List.flatMap_cons, List.flatMap_append, flags_append, List.forall_mem_cons]
    by_cases plain : l.EndsPlainly
    · obtain ⟨-, flags', outside'⟩ := scan_lexeme [] outside isValid plain
      rw [flags', List.append_cancel_left_eq]
      exact (ih outside').trans (by simp [plain])
    · refine ⟨fun same => ?_, fun all => absurd all.1 plain⟩
      cases isValid with
      | literal body said isBody =>
        obtain ⟨-, flags', -⟩ := scan_literal [] outside isBody
        have escaped : decide (body.getLast? = some (.scalar '\\')) = true :=
          decide_eq_true (Classical.not_not.mp plain)
        change flags s (.scalar '"' :: (body ++ [.scalar '"'])) ++ _ =
          (true :: (body.map (fun _ => true) ++ [false])) ++ [] ++ _ at same
        rw [flags', escaped, List.append_nil] at same
        obtain ⟨front, -⟩ := List.append_inj same (by simp)
        simp at front
      | blank c blank => exact absurd trivial plain
      | mark c token isMark => exact absurd trivial plain
      | word name token isWord => exact absurd trivial plain
      | number cs literal isNumeral => exact absurd trivial plain

/-- How a text of lexemes is written. -/
theorem chars_textOf (indent : Text) {ls : List Lexeme} (areLexemes : AreLexemes ls)
    (plain : forall l, l ∈ ls -> l.EndsPlainly) {s : State} {depth : Int} (outside : Outside s depth) :
    chars indent s (textOf ls) = textOf (layAll indent depth ls) := by
  induction areLexemes generalizing s depth with
  | nil => rfl
  | @cons l ls isValid isBounded rest ih =>
    obtain ⟨written, -, outside'⟩ := scan_lexeme indent outside isValid (plain l (List.mem_cons_self ..))
    unfold textOf
    rw [List.flatMap_cons, chars_append, written]
    change _ ++ chars indent (behind s l.text) (textOf ls) = textOf _
    rw [ih (fun l' member => plain l' (List.mem_cons_of_mem l member)) outside', layAll, textOf_append]

/-! ## What is written -/

/-- An indent of whitespace. -/
def IsBlankText (indent : Text) : Prop :=
  forall c, c ∈ indent -> Token.isBlank c = true

theorem isBlank_of_newline {indent : Text} (blank : IsBlankText indent) (depth : Int) :
    IsBlankText (newline indent depth) := by
  intro c member
  rcases List.mem_cons.mp member with rfl | inside
  · rfl
  · obtain ⟨one, isIndent, inside⟩ := List.mem_flatten.mp inside
    cases (List.mem_replicate.mp isIndent).2
    exact blank c inside

/-- Whitespace and marks can stand before any lexemes. -/
theorem areLexemes_append {front back : List Lexeme} (valid : forall l, l ∈ front -> l.IsValid ∧ ¬ l.IsAtom)
    (areLexemes : AreLexemes back) : AreLexemes (front ++ back) := by
  induction front with
  | nil => exact areLexemes
  | cons l front ih =>
    obtain ⟨isValid, notAtom⟩ := valid l (List.mem_cons_self ..)
    exact .cons isValid (fun isAtom => absurd isAtom notAtom)
      (ih fun l' member => valid l' (List.mem_cons_of_mem l member))

theorem valid_blanks {t : Text} (blank : IsBlankText t) {l : Lexeme} (member : l ∈ blanks t) :
    l.IsValid ∧ ¬ l.IsAtom := by
  obtain ⟨c, inside, rfl⟩ := List.mem_map.mp member
  exact ⟨.blank c (blank c inside), nofun⟩

theorem isBlank_before {indent : Text} (blank : IsBlankText indent) (depth : Int) (c : CodePoint) :
    IsBlankText (before indent depth c) := by
  unfold before
  split
  · exact isBlank_of_newline blank _
  · nofun

theorem isBlank_after {indent : Text} (blank : IsBlankText indent) (depth : Int) (c : CodePoint) :
    IsBlankText (after indent depth c) := by
  unfold after
  split
  · exact isBlank_of_newline blank _
  split
  · nofun
  split
  · exact isBlank_of_newline blank _
  · intro d member
    cases List.mem_singleton.mp member
    rfl

theorem valid_lay {indent : Text} (blank : IsBlankText indent) (depth : Int) {l : Lexeme} (isValid : l.IsValid)
    (notAtom : ¬ l.IsAtom) {l' : Lexeme} (member : l' ∈ lay indent depth l) : l'.IsValid ∧ ¬ l'.IsAtom := by
  cases l with
  | blank c =>
    simp only [lay] at member
    split at member
    · cases member
    · cases List.mem_singleton.mp member
      exact ⟨isValid, nofun⟩
  | mark c token =>
    rcases List.mem_append.mp member with inside | inside
    · exact valid_blanks (isBlank_before blank depth c) inside
    rcases List.mem_cons.mp inside with rfl | inside
    · exact ⟨isValid, nofun⟩
    · exact valid_blanks (isBlank_after blank depth c) inside
  | atom cs token => exact absurd trivial notAtom
  | literal body said =>
    cases List.mem_singleton.mp member
    exact ⟨isValid, nofun⟩

theorem tokensOf_blanks (t : Text) : tokensOf (blanks t) = [] := by
  unfold tokensOf blanks
  rw [List.flatMap_map]
  exact List.flatMap_eq_nil_iff.mpr fun _ _ => rfl

theorem tokensOf_append (front back : List Lexeme) : tokensOf (front ++ back) = tokensOf front ++ tokensOf back :=
  List.flatMap_append

theorem tokensOf_cons (l : Lexeme) (ls : List Lexeme) : tokensOf (l :: ls) = l.tokens ++ tokensOf ls :=
  List.flatMap_cons ..

/-- A lexeme is written with its own token and no other. -/
theorem tokensOf_lay (indent : Text) (depth : Int) (l : Lexeme) : tokensOf (lay indent depth l) = l.tokens := by
  cases l with
  | blank c =>
    simp only [lay]
    split
    · rfl
    · rfl
  | mark c token =>
    rw [lay, tokensOf_append, tokensOf_cons, tokensOf_blanks, tokensOf_blanks]
    rfl
  | atom cs token => rfl
  | literal body said => rfl

theorem tokensOf_layAll (indent : Text) (depth : Int) (ls : List Lexeme) :
    tokensOf (layAll indent depth ls) = tokensOf ls := by
  induction ls generalizing depth with
  | nil => rfl
  | cons l ls ih => rw [layAll, tokensOf_append, tokensOf_lay, ih, tokensOf_cons]

/-- Whitespace can come before what a word or a number can end at. -/
theorem isBounded_append {t rest : Text} (blank : IsBlankText t) (isBounded : IsBounded rest) : IsBounded (t ++ rest) := by
  cases t with
  | nil => exact isBounded
  | cons c t =>
    rintro d rest' same
    cases same
    exact Or.inl (blank c (List.mem_cons_self ..))

/-- Where a token that closes comes next, a word or a number can end in what is written. -/
theorem isBounded_layAll {indent : Text} (blank : IsBlankText indent) (depth : Int) {ls : List Lexeme} (areLexemes : AreLexemes ls)
    (closes : forall token rest, tokensOf ls ++ [.stop] = token :: rest -> token.Closes) :
    IsBounded (textOf (layAll indent depth ls)) := by
  induction areLexemes generalizing depth with
  | nil => nofun
  | @cons l ls isValid isBounded rest ih =>
    rw [layAll, textOf_append]
    cases isValid with
    | blank c isBlank =>
      simp only [lay]
      split
      · exact ih depth closes
      · rintro d rest' same
        cases same
        exact Or.inl isBlank
    | mark c token isMark =>
      rw [lay, textOf_append, textOf_blanks, List.append_assoc]
      refine isBounded_append (isBlank_before blank depth c) ?_
      rintro d rest' same
      cases same
      exact Or.inr ⟨token, isMark⟩
    | word name token isWord =>
      have closing := closes token _ rfl
      cases isWord_of_mem isWord <;> cases closing
    | number cs literal isNumeral => cases closes (.number literal) _ rfl
    | literal body said isBody => cases closes (.string said) _ rfl

theorem apart_of_append {front back : List Token} (apart : AreApart (front ++ back)) : AreApart back := by
  induction front with
  | nil => exact apart
  | cons token front ih => exact ih apart.2.2

/-- What is written is made of lexemes again. -/
theorem areLexemes_layAll {indent : Text} (blank : IsBlankText indent) (depth : Int) {ls : List Lexeme}
    (areLexemes : AreLexemes ls) (apart : AreApart (tokensOf ls ++ [.stop])) :
    AreLexemes (layAll indent depth ls) := by
  induction areLexemes generalizing depth with
  | nil => exact .nil
  | @cons l ls isValid isBounded rest ih =>
    rw [tokensOf_cons, List.append_assoc] at apart
    have later := fun depth => ih depth (apart_of_append apart)
    rw [layAll]
    cases l with
    | atom cs token =>
      have atomic : token.IsAtomic := by
        cases isValid with
        | word name token isWord => exact isAtomic_of_word isWord
        | number cs literal isNumeral => trivial
      exact .cons isValid (fun _ => isBounded_layAll blank depth rest (apart.2.1 atomic)) (later depth)
    | blank c => exact areLexemes_append (fun _ => valid_lay blank depth isValid nofun) (later _)
    | mark c token => exact areLexemes_append (fun _ => valid_lay blank depth isValid nofun) (later _)
    | literal body said => exact areLexemes_append (fun _ => valid_lay blank depth isValid nofun) (later _)

/-! ## What is left without whitespace -/

theorem ink_blanks {t : Text} (blank : IsBlankText t) :
    ((blanks t).flatMap Lexeme.parts).filter (fun p => !p.isBlank) = [] := by
  refine List.filter_eq_nil_iff.mpr fun p member => ?_
  obtain ⟨l, inside, part⟩ := List.mem_flatMap.mp member
  obtain ⟨c, isIn, rfl⟩ := List.mem_map.mp inside
  cases List.mem_singleton.mp part
  simp [Part.isBlank, blank c isIn]

theorem ink_lay {indent : Text} (blank : IsBlankText indent) (depth : Int) {l : Lexeme} (isValid : l.IsValid) :
    ((lay indent depth l).flatMap Lexeme.parts).filter (fun p => !p.isBlank) = l.parts.filter fun p => !p.isBlank := by
  cases l with
  | blank c =>
    simp only [lay]
    split
    next =>
      cases isValid with
      | blank c isBlank => simp [Lexeme.parts, Part.isBlank, isBlank]
    next => rw [List.flatMap_singleton]
  | mark c token =>
    rw [lay, List.flatMap_append, List.flatMap_cons, List.filter_append, List.filter_append,
      ink_blanks (isBlank_before blank depth c), ink_blanks (isBlank_after blank depth c), List.nil_append, List.append_nil]
  | atom cs token => rw [lay, List.flatMap_singleton]
  | literal body said => rw [lay, List.flatMap_singleton]

theorem ink_layAll {indent : Text} (blank : IsBlankText indent) (depth : Int) {ls : List Lexeme}
    (areLexemes : AreLexemes ls) :
    ((layAll indent depth ls).flatMap Lexeme.parts).filter (fun p => !p.isBlank) =
      (ls.flatMap Lexeme.parts).filter fun p => !p.isBlank := by
  induction areLexemes generalizing depth with
  | nil => rfl
  | @cons l ls isValid isBounded rest ih =>
    rw [layAll, List.flatMap_append, List.filter_append, ink_lay blank depth isValid, ih, List.flatMap_cons,
      List.filter_append]

theorem outside_start : Outside start 0 :=
  ⟨rfl, nofun, rfl⟩

theorem layoutText_eq_chars (source indent : Text) : layoutText source indent = chars indent start source := by
  unfold layoutText
  rw [flatten_pieces]
  rfl

end Layout

/-- For a text that can be read, the pretty printer is right about where its literals are just if none has a backslash
right before its closing quote.  Then what it writes with an indent of whitespace is read as the same value and differs
in whitespace between tokens alone. -/
theorem layoutText_of_read {t : Text} {v : Value} (accepted : read .strict t = .ok v) :
    (Layout.flags Layout.start t = insides t <-> EndsPlainly t) ∧
      (EndsPlainly t -> forall indent : Text, (forall c, c ∈ indent -> Token.isBlank c = true) ->
        read .strict (layoutText t indent) = .ok v ∧ ink (layoutText t indent) = ink t) := by
  obtain ⟨ls, areLexemes, rfl, apart⟩ := exists_lexemes_of_read accepted
  rw [endsPlainly_textOf areLexemes]
  constructor
  · unfold insides
    rw [parts_textOf areLexemes]
    exact Layout.flags_textOf areLexemes Layout.outside_start
  · intro plain indent blank
    have areLexemes' : AreLexemes (Layout.layAll indent 0 ls) := Layout.areLexemes_layAll blank 0 areLexemes apart
    rw [Layout.layoutText_eq_chars, Layout.chars_textOf indent areLexemes plain Layout.outside_start]
    refine ⟨read_of_tokens areLexemes areLexemes' (Layout.tokensOf_layAll indent 0 ls) accepted, ?_⟩
    unfold ink
    rw [parts_textOf areLexemes, parts_textOf areLexemes']
    exact Layout.ink_layAll blank 0 areLexemes

/-- A literal with an escaped quote and an escaped backslash inside is laid out, and read, as it was. -/
theorem layoutText_nestedList :
    exists v, read .strict (Text.ofString "[1.0 ,[\"a \\\"\\\\n\"]]") = .ok v ∧
      EndsPlainly (Text.ofString "[1.0 ,[\"a \\\"\\\\n\"]]") ∧
      read .strict (layoutText (Text.ofString "[1.0 ,[\"a \\\"\\\\n\"]]") [.scalar '\t']) = .ok v := by
  obtain ⟨v, accepted⟩ : exists v, read .strict (Text.ofString "[1.0 ,[\"a \\\"\\\\n\"]]") = .ok v := ⟨_, by rfl⟩
  obtain ⟨right, keeps⟩ := layoutText_of_read accepted
  have plain : EndsPlainly (Text.ofString "[1.0 ,[\"a \\\"\\\\n\"]]") := right.mp (by decide +kernel)
  exact ⟨v, accepted, plain, (keeps plain _ (by decide)).1⟩

end Json

end SchemaLint
