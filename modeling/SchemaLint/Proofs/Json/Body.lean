import SchemaLint.Json.Token

/-!
# The bodies of string literals

A grammar of what stands between the quotes of a string literal, beside the reader of it.  A backslash begins an escape
of one letter or of a unit of four hexadecimal digits; two units that make a pair are one escape.  What the reader takes
up to the closing quote is such a body, and it takes every body up to the quote behind it.
-/

namespace SchemaLint

namespace Json

namespace Token

/-- A unit has no partner behind it. -/
def IsAlone (unit : Nat) (behind : Text) : Prop :=
  isHigh unit = true -> forall more next rest, behind = .scalar '\\' :: .scalar 'u' :: more ->
    hex4? more = some (next, rest) -> isLow next = false

/-- What stands between the quotes of a string literal, and what the literal says. -/
inductive IsBody : Text -> Text -> Prop
  | nil : IsBody [] []
  | plain (c : CodePoint) (notQuote : c ≠ '"') (notBackslash : c ≠ '\\') (notControl : ¬ c.val <= 0x1F)
      {b s : Text} (rest : IsBody b s) : IsBody (c :: b) (c :: s)
  | letter (c : CodePoint) (e : Char) (simple : simpleEscape? c = some e) {b s : Text} (rest : IsBody b s) :
      IsBody (.scalar '\\' :: c :: b) (e :: s)
  | unit (digits : Text) (unit : Nat) (e : CodePoint) (spelled : hex4? digits = some (unit, []))
      (isPoint : CodePoint.ofNat? unit = some e) {b s : Text} (alone : IsAlone unit b) (rest : IsBody b s) :
      IsBody (.scalar '\\' :: .scalar 'u' :: (digits ++ b)) (e :: s)
  | pair (digits digits' : Text) (high low : Nat) (e : CodePoint) (spelled : hex4? digits = some (high, []))
      (spelled' : hex4? digits' = some (low, [])) (isHigh : isHigh high = true) (isLow : isLow low = true)
      (isPoint : CodePoint.ofNat? (0x10000 + (high - 0xD800) * 0x400 + (low - 0xDC00)) = some e) {b s : Text}
      (rest : IsBody b s) :
      IsBody (.scalar '\\' :: .scalar 'u' :: (digits ++ .scalar '\\' :: .scalar 'u' :: (digits' ++ b))) (e :: s)

/-! ## Hexadecimal digits -/

/-- Four hexadecimal digits are read whatever follows them. -/
theorem exists_hex4 {t rest : Text} {n : Nat} (read : hex4? t = some (n, rest)) :
    exists a b c d, t = a :: b :: c :: d :: rest ∧ forall more, hex4? (a :: b :: c :: d :: more) = some (n, more) := by
  unfold hex4? at read
  split at read
  next a b c d rest' =>
    refine ⟨a, b, c, d, ?_, fun more => ?_⟩
    · simp only [Option.bind_eq_bind, Option.bind_eq_some_iff] at read
      obtain ⟨x, -, y, -, z, -, w, -, same⟩ := read
      cases same
      rfl
    · simp only [Option.bind_eq_bind, Option.bind_eq_some_iff] at read
      obtain ⟨x, isX, y, isY, z, isZ, w, isW, same⟩ := read
      cases same
      simp [hex4?, isX, isY, isZ, isW]
  next => cases read

theorem hex4?_append {digits : Text} {n : Nat} {rest : Text} (read : hex4? digits = some (n, rest)) (more : Text) :
    hex4? (digits ++ more) = some (n, rest ++ more) := by
  obtain ⟨a, b, c, d, rfl, any⟩ := exists_hex4 read
  exact any (rest ++ more)

theorem length_of_hex4 {digits : Text} {n : Nat} (read : hex4? digits = some (n, [])) : digits.length = 4 := by
  obtain ⟨a, b, c, d, rfl, -⟩ := exists_hex4 read
  rfl

/-- The digits that are read, and what follows them. -/
theorem exists_digits_of_hex4 {t rest : Text} {n : Nat} (read : hex4? t = some (n, rest)) :
    exists digits, t = digits ++ rest ∧ hex4? digits = some (n, []) := by
  obtain ⟨a, b, c, d, rfl, any⟩ := exists_hex4 read
  exact ⟨[a, b, c, d], rfl, any []⟩

/-! ## Escapes -/

theorem point_eq_point_iff {n length length' : Nat} {e : CodePoint} :
    point n length = .point e length' <-> CodePoint.ofNat? n = some e ∧ length = length' := by
  unfold point
  split
  next c found => simp [found]
  next found => simp [found]

theorem readEscape_letter {c : CodePoint} {e : Char} (simple : simpleEscape? c = some e) (behind : Text) :
    readEscape (c :: behind) = .point e 1 := by
  unfold readEscape
  split
  next same => cases same
  next digits same =>
    cases same
    cases simple
  next c' rest same =>
    cases same
    rw [simple]

theorem readEscape_u {digits : Text} {unit : Nat} {behind : Text} (spelled : hex4? digits = some (unit, []))
    (nonempty : behind ≠ []) : readEscape (.scalar 'u' :: (digits ++ behind)) = readUnit unit behind := by
  have read : hex4? (digits ++ behind) = some (unit, behind) := hex4?_append spelled behind
  have notEmpty : ¬ behind.isEmpty = true := by simpa using nonempty
  simp only [readEscape, read, if_neg notEmpty]

/-- What a unit can give: itself if nothing makes a pair with it, or a pair. -/
theorem readUnit_sound {unit : Nat} {behind : Text} {e : CodePoint} {length : Nat}
    (read : readUnit unit behind = .point e length) :
    (CodePoint.ofNat? unit = some e ∧ length = 5 ∧
        (isHigh unit = true -> forall more, behind = .scalar '\\' :: .scalar 'u' :: more ->
          (more.drop 4).isEmpty = true ∨ exists next rest, hex4? more = some (next, rest) ∧ isLow next = false)) ∨
      (exists digits low rest, behind = .scalar '\\' :: .scalar 'u' :: (digits ++ rest) ∧
        hex4? digits = some (low, []) ∧ isHigh unit = true ∧ isLow low = true ∧
        CodePoint.ofNat? (0x10000 + (unit - 0xD800) * 0x400 + (low - 0xDC00)) = some e ∧ length = 11) := by
  unfold readUnit at read
  split at read
  next high =>
    split at read
    next more =>
      split at read
      next short =>
        obtain ⟨isPoint, rfl⟩ := point_eq_point_iff.mp read
        refine Or.inl ⟨isPoint, rfl, ?_⟩
        rintro - more' same
        cases same
        exact Or.inl short
      next =>
        split at read
        next => cases read
        next next rest hex =>
          split at read
          next low =>
            obtain ⟨digits, rfl, spelled⟩ := exists_digits_of_hex4 hex
            obtain ⟨isPoint, rfl⟩ := point_eq_point_iff.mp read
            exact Or.inr ⟨digits, next, rest, rfl, spelled, high, low, isPoint, rfl⟩
          next low =>
            obtain ⟨isPoint, rfl⟩ := point_eq_point_iff.mp read
            refine Or.inl ⟨isPoint, rfl, ?_⟩
            rintro - more' same
            cases same
            exact Or.inr ⟨next, rest, hex, by simpa using low⟩
    next other =>
      obtain ⟨isPoint, rfl⟩ := point_eq_point_iff.mp read
      refine Or.inl ⟨isPoint, rfl, ?_⟩
      rintro - more same
      exact absurd same (other more)
  next noHigh =>
    obtain ⟨isPoint, rfl⟩ := point_eq_point_iff.mp read
    exact Or.inl ⟨isPoint, rfl, fun high => absurd high noHigh⟩

/-- What an escape that can be read begins with: a letter, or a unit. -/
theorem readEscape_sound {t : Text} {e : CodePoint} {length : Nat} (read : readEscape t = .point e length) :
    (exists c d behind, t = c :: behind ∧ simpleEscape? c = some d ∧ e = .scalar d ∧ length = 1) ∨
      (exists digits unit behind, t = .scalar 'u' :: (digits ++ behind) ∧ hex4? digits = some (unit, []) ∧
        readUnit unit behind = .point e length) := by
  unfold readEscape at read
  split at read
  next => cases read
  next =>
    split at read
    next => cases read
    next unit behind hex =>
      split at read
      next => cases read
      next =>
        obtain ⟨digits, rfl, spelled⟩ := exists_digits_of_hex4 hex
        exact Or.inr ⟨digits, unit, behind, rfl, spelled, read⟩
  next c behind other =>
    split at read
    next d simple =>
      cases read
      exact Or.inl ⟨c, d, behind, rfl, simple, rfl, rfl⟩
    next => cases read

/-! ## Reading up to the closing quote -/

theorem readString_skip (start : Nat) (content : Text) (offset : Nat) {front : Text} (behind : Text) :
    readString start content offset front.length (front ++ behind) =
      readString start content (offset + front.length) 0 behind := by
  induction front generalizing offset with
  | nil => rfl
  | cons c front ih =>
    change readString start content (offset + 1) front.length (front ++ behind) = _
    rw [ih, List.length_cons]
    congr 1
    omega

theorem readString_plain {c : CodePoint} (notQuote : c ≠ '"') (notBackslash : c ≠ '\\') (notControl : ¬ c.val <= 0x1F)
    (start : Nat) (content : Text) (offset : Nat) (rest : Text) :
    readString start content offset 0 (c :: rest) = readString start (c :: content) (offset + 1) 0 rest := by
  rw [readString, if_neg notQuote, if_neg notBackslash, if_neg notControl]

theorem readString_escape {front behind : Text} {e : CodePoint}
    (escape : readEscape (front ++ behind) = .point e front.length) (start : Nat) (content : Text) (offset : Nat) :
    readString start content offset 0 (.scalar '\\' :: (front ++ behind)) =
      readString start (e :: content) (offset + 1 + front.length) 0 behind := by
  rw [readString, if_neg (by simp), if_pos rfl, escape]
  exact readString_skip start (e :: content) (offset + 1) behind

/-- A unit that a body begins with can be read. -/
theorem IsBody.exists_unit {b s : Text} {more : Text} (isBody : IsBody b s)
    (front : b = .scalar '\\' :: .scalar 'u' :: more) : exists next rest, hex4? more = some (next, rest) := by
  cases isBody with
  | nil => cases front
  | plain c notQuote notBackslash notControl rest =>
    cases front
    exact absurd rfl notBackslash
  | letter c e simple rest =>
    cases front
    cases simple
  | unit digits unit e spelled isPoint alone rest =>
    cases front
    exact ⟨unit, _, hex4?_append spelled _⟩
  | pair digits digits' high low e spelled spelled' isHigh isLow isPoint rest =>
    cases front
    exact ⟨high, _, hex4?_append spelled _⟩

/-- What follows a unit begins with a backslash and a letter if the body behind it does. -/
theorem eq_of_escape {b r more : Text} (same : b ++ .scalar '"' :: r = .scalar '\\' :: .scalar 'u' :: more) :
    exists more', b = .scalar '\\' :: .scalar 'u' :: more' ∧ more = more' ++ .scalar '"' :: r := by
  cases b with
  | nil => cases same
  | cons c b =>
    cases b with
    | nil => cases same
    | cons c' b =>
      cases same
      exact ⟨b, rfl, rfl⟩

theorem readEscape_unit {digits b r : Text} {unit : Nat} {e : CodePoint} {s : Text}
    (spelled : hex4? digits = some (unit, [])) (isPoint : CodePoint.ofNat? unit = some e) (alone : IsAlone unit b)
    (rest : IsBody b s) : readEscape (.scalar 'u' :: (digits ++ (b ++ .scalar '"' :: r))) = .point e 5 := by
  have one : point unit 5 = .point e 5 := point_eq_point_iff.mpr ⟨isPoint, rfl⟩
  rw [readEscape_u spelled (by simp)]
  unfold readUnit
  split
  next high =>
    split
    next more same =>
      obtain ⟨more', front, rfl⟩ := eq_of_escape same
      obtain ⟨next, rest', hex⟩ := rest.exists_unit front
      have notLow : isLow next = false := alone high more' next rest' front hex
      rw [hex4?_append hex]
      simp only [notLow, Bool.false_eq_true, if_false]
      split
      · exact one
      · exact one
    next => exact one
  next => exact one

theorem readEscape_pair {digits digits' behind : Text} {high low : Nat} {e : CodePoint}
    (spelled : hex4? digits = some (high, [])) (spelled' : hex4? digits' = some (low, []))
    (isHigh' : isHigh high = true) (isLow' : isLow low = true)
    (isPoint : CodePoint.ofNat? (0x10000 + (high - 0xD800) * 0x400 + (low - 0xDC00)) = some e) (nonempty : behind ≠ []) :
    readEscape (.scalar 'u' :: (digits ++ .scalar '\\' :: .scalar 'u' :: (digits' ++ behind))) = .point e 11 := by
  have long : ¬ ((digits' ++ behind).drop 4).isEmpty = true := by
    have four := length_of_hex4 spelled'
    rw [← four, List.drop_left]
    simpa using nonempty
  rw [readEscape_u spelled (by simp), readUnit, if_pos isHigh']
  simp only [if_neg long, hex4?_append spelled', isLow', if_true]
  exact point_eq_point_iff.mpr ⟨isPoint, rfl⟩

/-- Every body is read up to the quote behind it. -/
theorem IsBody.read {b s : Text} (isBody : IsBody b s) (start : Nat) (content : Text) (offset : Nat) (r : Text) :
    readString start content offset 0 (b ++ .scalar '"' :: r) =
      .closed (content.reverse ++ s) r (offset + b.length + 1) := by
  induction isBody generalizing content offset with
  | nil =>
    rw [List.nil_append, readString, if_pos rfl, List.append_nil]
    rfl
  | plain c notQuote notBackslash notControl rest ih =>
    rw [List.cons_append, readString_plain notQuote notBackslash notControl, ih]
    simp only [List.reverse_cons, List.append_assoc, List.singleton_append, List.length_cons]
    congr 1
    omega
  | @letter c e simple b s rest ih =>
    have escape : readEscape ([c] ++ (b ++ .scalar '"' :: r)) = .point e 1 := readEscape_letter simple _
    have read := readString_escape escape start content offset
    simp only [List.cons_append, List.nil_append, List.length_cons, List.length_nil] at read ⊢
    rw [read, ih]
    simp only [List.reverse_cons, List.append_assoc, List.singleton_append]
    congr 1
    omega
  | @unit digits unit e spelled isPoint b s alone rest ih =>
    have four := length_of_hex4 spelled
    have length : (.scalar 'u' :: digits : Text).length = 5 := by rw [List.length_cons, four]
    have escape : readEscape ((.scalar 'u' :: digits) ++ (b ++ .scalar '"' :: r)) =
        .point e (.scalar 'u' :: digits : Text).length := by
      rw [length]
      exact readEscape_unit spelled isPoint alone rest
    have read := readString_escape escape start content offset
    simp only [List.cons_append, List.append_assoc, List.length_cons, List.length_append] at read ⊢
    rw [read, ih]
    simp only [List.reverse_cons, List.append_assoc, List.singleton_append]
    congr 1
    omega
  | @pair digits digits' high low e spelled spelled' isHigh isLow isPoint b s rest ih =>
    have length : (.scalar 'u' :: (digits ++ .scalar '\\' :: .scalar 'u' :: digits') : Text).length = 11 := by
      rw [List.length_cons, List.length_append, List.length_cons, List.length_cons, length_of_hex4 spelled,
        length_of_hex4 spelled']
    have split : .scalar 'u' :: (digits ++ .scalar '\\' :: .scalar 'u' :: (digits' ++ (b ++ .scalar '"' :: r))) =
        (.scalar 'u' :: (digits ++ .scalar '\\' :: .scalar 'u' :: digits') : Text) ++ (b ++ .scalar '"' :: r) := by
      simp only [List.cons_append, List.append_assoc]
    have escape := readEscape_pair spelled spelled' isHigh isLow isPoint
      (List.append_ne_nil_of_right_ne_nil b (List.cons_ne_nil (.scalar '"') r))
    rw [split, ← length] at escape
    have read := readString_escape escape start content offset
    rw [← split, length] at read
    simp only [List.cons_append, List.append_assoc] at read ⊢
    rw [read, ih]
    simp only [List.reverse_cons, List.append_assoc, List.singleton_append, List.length_cons, List.length_append,
      length_of_hex4 spelled, length_of_hex4 spelled']
    refine congrArg (Ending.closed _ _) ?_
    omega

/-- A unit that was read by itself stands alone before the body that follows it. -/
theorem isAlone_of_read {unit : Nat} {b r : Text}
    (alone : isHigh unit = true -> forall more, b ++ .scalar '"' :: r = .scalar '\\' :: .scalar 'u' :: more ->
      (more.drop 4).isEmpty = true ∨ exists next rest, hex4? more = some (next, rest) ∧ isLow next = false) :
    IsAlone unit b := by
  rintro high more next rest rfl hex
  have longer := hex4?_append hex (.scalar '"' :: r)
  rcases alone high (more ++ .scalar '"' :: r) rfl with short | ⟨next', rest', hex', notLow⟩
  · obtain ⟨a, b, c, d, rfl, -⟩ := exists_hex4 hex
    simp at short
  · cases longer.symm.trans hex'
    exact notLow

/-- An escape that is read makes a longer body of whatever body follows it. -/
theorem exists_front_of_escape {t : Text} {e : CodePoint} {length : Nat} (escape : readEscape t = .point e length) :
    exists front behind, t = front ++ behind ∧ length = front.length ∧
      forall b s r, behind = b ++ .scalar '"' :: r -> IsBody b s -> IsBody (.scalar '\\' :: (front ++ b)) (e :: s) := by
  rcases readEscape_sound escape with
    ⟨c, d, behind, rfl, simple, rfl, rfl⟩ | ⟨digits, unit, behind, rfl, spelled, isUnit⟩
  · exact ⟨[c], behind, rfl, rfl, fun b s r _ isBody => .letter c d simple isBody⟩
  · have four := length_of_hex4 spelled
    rcases readUnit_sound isUnit with
      ⟨isPoint, rfl, alone⟩ | ⟨digits', low, rest, rfl, spelled', isHigh, isLow, isPoint, rfl⟩
    · refine ⟨.scalar 'u' :: digits, behind, rfl, by simp [four], ?_⟩
      rintro b s r rfl isBody
      exact .unit digits unit e spelled isPoint (isAlone_of_read alone) isBody
    · have four' := length_of_hex4 spelled'
      refine ⟨.scalar 'u' :: (digits ++ .scalar '\\' :: .scalar 'u' :: digits'), rest, by simp, by simp [four, four'], ?_⟩
      intro b s r _ isBody
      have pair := IsBody.pair digits digits' unit low e spelled spelled' isHigh isLow isPoint isBody
      simpa using pair

/-- What is read up to the closing quote is a body. -/
theorem exists_body {start : Nat} {content : Text} {offset : Nat} {t said r : Text} {n : Nat}
    (read : readString start content offset 0 t = .closed said r n) :
    exists b s, t = b ++ .scalar '"' :: r ∧ said = content.reverse ++ s ∧ n = offset + b.length + 1 ∧ IsBody b s := by
  -- The text behind an escape is shorter, but it is no tail that the text is built from.
  obtain ⟨size, within⟩ : exists size, t.length <= size := ⟨_, Nat.le_refl _⟩
  induction size generalizing content offset t with
  | zero =>
    cases List.eq_nil_of_length_eq_zero (Nat.eq_zero_of_le_zero within)
    cases read
  | succ size ih =>
    cases t with
    | nil => cases read
    | cons c t =>
      have shorter : t.length <= size := Nat.le_of_succ_le_succ within
      by_cases quote : c = .scalar '"'
      · subst quote
        rw [readString, if_pos rfl] at read
        cases read
        exact ⟨[], [], rfl, (List.append_nil _).symm, rfl, .nil⟩
      by_cases backslash : c = .scalar '\\'
      · subst backslash
        rw [readString, if_neg quote, if_pos rfl] at read
        cases escape : readEscape t with
        | fault f behind =>
          rw [escape] at read
          cases f <;> cases read
        | point e length =>
          rw [escape] at read
          obtain ⟨front, behind, rfl, rfl, makes⟩ := exists_front_of_escape escape
          change readString start (e :: content) (offset + 1) front.length (front ++ behind) = _ at read
          rw [readString_skip] at read
          rw [List.length_append] at shorter
          obtain ⟨b, s, rfl, rfl, rfl, isBody⟩ := ih read (by omega)
          refine ⟨.scalar '\\' :: (front ++ b), e :: s, by simp, by simp, ?_, makes b s r rfl isBody⟩
          rw [List.length_cons, List.length_append]
          omega
      · by_cases control : c.val <= 0x1F
        · rw [readString, if_neg quote, if_neg backslash, if_pos control] at read
          cases read
        · rw [readString_plain quote backslash control] at read
          obtain ⟨b, s, rfl, rfl, rfl, isBody⟩ := ih read shorter
          refine ⟨c :: b, c :: s, rfl, by simp, ?_, .plain c quote backslash control isBody⟩
          rw [List.length_cons]
          omega

end Token

end Json

end SchemaLint
