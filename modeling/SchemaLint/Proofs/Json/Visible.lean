import SchemaLint.Report.Message

/-!
# Limits are shown in visible characters

Whatever a limit holds, its text consists of printable ASCII characters: control characters and characters beyond ASCII
in strings and keys are escaped, and numbers need no others.  So the text of a limit has no line breaks.
-/

namespace SchemaLint

/-- A printable ASCII character. -/
def IsVisible (c : Char) : Prop :=
  0x20 <= c.toNat ∧ c.toNat <= 0x7E

instance (c : Char) : Decidable (IsVisible c) :=
  inferInstanceAs (Decidable (_ ∧ _))

/-- Printable ASCII characters only. -/
def AreVisible (cs : List Char) : Prop :=
  forall c, c ∈ cs -> IsVisible c

instance (cs : List Char) : Decidable (AreVisible cs) :=
  List.decidableBAll IsVisible cs

@[simp] theorem areVisible_nil : AreVisible [] :=
  nofun

@[simp] theorem areVisible_cons {c : Char} {cs : List Char} : AreVisible (c :: cs) <-> IsVisible c ∧ AreVisible cs :=
  List.forall_mem_cons

@[simp] theorem areVisible_append {front back : List Char} :
    AreVisible (front ++ back) <-> AreVisible front ∧ AreVisible back :=
  List.forall_mem_append

theorem AreVisible.sublist {cs ds : List Char} (visible : AreVisible cs) (inside : forall c, c ∈ ds -> c ∈ cs) :
    AreVisible ds :=
  fun c member => visible c (inside c member)

/-- There is no line break among visible characters. -/
theorem AreVisible.no_lineFeed {cs : List Char} (visible : AreVisible cs) : '\n' ∉ cs :=
  fun member => absurd (visible '\n' member) (by decide)

/-! ## Numbers -/

theorem isVisible_of_isDigit {c : Char} (digit : c.isDigit = true) : IsVisible c := by
  simp only [Char.isDigit, Bool.and_eq_true, decide_eq_true_eq, UInt32.le_iff_toNat_le, ge_iff_le] at digit
  change 48 <= c.toNat ∧ c.toNat <= 57 at digit
  exact ⟨by omega, by omega⟩

theorem areVisible_repr (n : Nat) : AreVisible n.repr.toList := by
  rw [Nat.toList_repr]
  exact fun c member => isVisible_of_isDigit (Nat.isDigit_of_mem_toDigits (by omega) (Nat.le_refl 10) member)

theorem areVisible_int (n : Int) : AreVisible (toString n).toList := by
  cases n with
  | ofNat m => exact areVisible_repr m
  | negSucc m =>
    change AreVisible ("-" ++ (m + 1).repr).toList
    rw [String.toList_append, areVisible_append]
    exact ⟨by decide, areVisible_repr (m + 1)⟩

namespace Binary64

theorem areVisible_zeros (n : Nat) : AreVisible (zeros n).toList := by
  rw [zeros, String.toList_ofList]
  intro c member
  rw [List.eq_of_mem_replicate member]
  decide

/-- A decimal is written with digits, a point, a letter and signs. -/
theorem areVisible_decimal (d : Decimal) (shape : Layout) : AreVisible (d.text shape).toList := by
  have digits := areVisible_repr d.digits
  have front : forall n, AreVisible (d.digits.repr.toList.take n) := fun n => digits.sublist fun _ => List.mem_of_mem_take
  have back : forall n, AreVisible (d.digits.repr.toList.drop n) := fun n => digits.sublist fun _ => List.mem_of_mem_drop
  have point : AreVisible ".".toList := by decide
  unfold Decimal.text
  dsimp only
  split
  · split
    · simp only [String.toList_append, areVisible_append]
      exact ⟨⟨by decide, areVisible_zeros _⟩, digits⟩
    · split
      · simp only [String.toList_append, areVisible_append]
        exact ⟨⟨digits, areVisible_zeros _⟩, by decide⟩
      · simp only [String.toList_append, areVisible_append]
        simp only [String.toList_ofList]
        exact ⟨⟨front _, point⟩, back _⟩
  · have tail : forall s : String, AreVisible s.toList -> AreVisible (if s.isEmpty then "" else "." ++ s).toList := by
      intro s visible
      split
      · exact areVisible_nil
      · rw [String.toList_append, areVisible_append]
        exact ⟨point, visible⟩
    have sign : forall power : Int, AreVisible (if power < 0 then "-" else "+").toList := by
      intro power
      split <;> decide
    have first : AreVisible (String.ofList (d.digits.repr.toList.take 1)).toList := by
      rw [String.toList_ofList]
      exact front 1
    have others : AreVisible (String.ofList (d.digits.repr.toList.drop 1)).toList := by
      rw [String.toList_ofList]
      exact back 1
    simp only [String.toList_append, areVisible_append]
    exact ⟨⟨⟨⟨⟨first, tail _ others⟩, by decide⟩, sign _⟩, areVisible_zeros _⟩, areVisible_repr _⟩

theorem areVisible_text (x : Binary64) : AreVisible x.text.toList := by
  cases x with
  | nan => decide
  | infinite negative => cases negative <;> decide
  | finite negative significand exponent =>
    rw [text, String.toList_append, areVisible_append]
    constructor
    · cases negative <;> decide
    · split
      · decide
      · exact areVisible_decimal _ _

end Binary64

/-! ## Other values -/

namespace Json

namespace Escaped

theorem isVisible_digitChar : forall n, n < 16 -> IsVisible (Nat.digitChar n) := by
  decide

theorem areVisible_unit (n : Nat) : AreVisible (unit n) := by
  have digit : forall m, IsVisible (Nat.digitChar (m % 16)) := fun m => isVisible_digitChar _ (Nat.mod_lt m (by decide))
  rw [unit, areVisible_cons, areVisible_cons]
  refine ⟨by decide, by decide, ?_⟩
  simp only [List.map_cons, List.map_nil, areVisible_cons, digit, areVisible_nil, and_self]

theorem areVisible_codePoint (c : CodePoint) : AreVisible (codePoint c) := by
  unfold codePoint
  dsimp only
  -- The characters with a letter of their own come first.
  iterate 7
    split
    · decide
  split
  next visible =>
    rw [areVisible_cons]
    refine ⟨?_, areVisible_nil⟩
    simp only [Bool.and_eq_true, decide_eq_true_eq] at visible
    cases c with
    | scalar c => exact visible
    | surrogate offset =>
      change 0x20 <= 0xD800 + offset.val ∧ 0xD800 + offset.val <= 0x7E at visible
      omega
  next =>
    split
    · exact areVisible_unit _
    · rw [areVisible_append]
      exact ⟨areVisible_unit _, areVisible_unit _⟩

theorem areVisible_literal (t : Text) : AreVisible (literal t) := by
  rw [literal, areVisible_append, areVisible_cons]
  refine ⟨⟨by decide, ?_⟩, by decide⟩
  intro c member
  obtain ⟨point, -, inside⟩ := List.mem_flatMap.mp member
  exact areVisible_codePoint point c inside

theorem areVisible_float (x : Binary64) : AreVisible (float x) := by
  unfold float
  split
  · decide
  · split <;> decide
  · exact x.areVisible_text

mutual

/-- A value is written in visible characters. -/
theorem areVisible_value : forall v, AreVisible (value v)
  | .null => by decide
  | .bool b => by cases b <;> decide
  | .int n => areVisible_int n
  | .float x => areVisible_float x
  | .string s => areVisible_literal s
  | .array items => by
    rw [value, areVisible_append, areVisible_cons]
    exact ⟨⟨by decide, areVisible_items items⟩, by decide⟩
  | .object members => by
    rw [value, areVisible_append, areVisible_cons]
    exact ⟨⟨by decide, areVisible_members members⟩, by decide⟩

theorem areVisible_items : forall items, AreVisible (itemsText items)
  | [] => by decide
  | [v] => areVisible_value v
  | v :: w :: rest => by
    rw [itemsText, areVisible_append, areVisible_cons, areVisible_cons]
    exact ⟨areVisible_value v, by decide, by decide, areVisible_items (w :: rest)⟩

theorem areVisible_members : forall members, AreVisible (membersText members)
  | [] => by decide
  | [(k, v)] => by
    rw [membersText, areVisible_append, areVisible_cons, areVisible_cons]
    exact ⟨areVisible_literal k, by decide, by decide, areVisible_value v⟩
  | (k, v) :: m :: rest => by
    rw [membersText, areVisible_append, areVisible_cons, areVisible_cons, areVisible_append, areVisible_cons,
      areVisible_cons]
    exact ⟨areVisible_literal k, by decide, by decide, areVisible_value v, by decide, by decide,
      areVisible_members (m :: rest)⟩

end

end Escaped

end Json

/-- The limit of a rule is shown in visible characters. -/
theorem Failure.areVisible_limitText (v : Json.Value) : AreVisible (limitText v).toList := by
  unfold limitText
  split
  · exact areVisible_int _
  · exact Binary64.areVisible_text _
  · rw [Json.Value.escaped, String.toList_ofList]
    exact Json.Escaped.areVisible_value _

end SchemaLint
