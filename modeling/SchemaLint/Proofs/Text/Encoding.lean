import SchemaLint.Text.Encoding

/-!
# Texts in UTF-8

What was encoded is decoded again.  The bytes of a character are read as this character whatever comes behind them, and
so a string is read character by character.
-/

namespace SchemaLint

namespace Encoding

/-- Bytes that are to be passed over are passed over. -/
theorem decodeFrom_skip (name : String) (front : Bytes -> Front) (seen : Text) (offset : Nat) (passed rest : Bytes) :
    decodeFrom name front seen offset passed.length (passed ++ rest) =
      decodeFrom name front seen (offset + passed.length) 0 rest := by
  induction passed generalizing offset with
  | nil => rfl
  | cons b passed ih =>
    rw [List.length_cons, List.cons_append, decodeFrom, ih, Nat.add_right_comm, Nat.add_assoc]

namespace Utf8

theorem point_toNat (c : Char) (length : Nat) : point c.toNat length = .point (.scalar c) length := by
  have valid : c.toNat.isValidChar := c.valid
  have same : Char.ofNatAux c.toNat valid = c := rfl
  rw [point, CodePoint.ofNat?, dif_pos valid, same]

/-! ## The front of bytes -/

variable {a b c d : UInt8} {rest : Bytes}

theorem front_one (first : a.toNat < 0x80) : front (a :: rest) = point a.toNat 1 := by
  simp only [front, if_pos first]

theorem front_two (first : 0xC2 <= a.toNat ∧ a.toNat < 0xE0) (second : isTail b = true) :
    front (a :: b :: rest) = point (a.toNat % 32 * 64 + low b) 2 := by
  have notOne : ¬ a.toNat < 0x80 := by omega
  have fits : ¬ (a.toNat < 0xC2 || 0xF5 <= a.toNat) = true := by
    simp only [Bool.or_eq_true, decide_eq_true_eq]
    omega
  simp only [front, if_neg notOne, if_neg fits, if_pos first.2, if_pos second]

theorem front_three (first : 0xE0 <= a.toNat ∧ a.toNat < 0xF0) (second : isSecond a b = true) (third : isTail c = true) :
    front (a :: b :: c :: rest) = point (a.toNat % 16 * 4096 + low b * 64 + low c) 3 := by
  have notOne : ¬ a.toNat < 0x80 := by omega
  have notTwo : ¬ a.toNat < 0xE0 := by omega
  have fits : ¬ (a.toNat < 0xC2 || 0xF5 <= a.toNat) = true := by
    simp only [Bool.or_eq_true, decide_eq_true_eq]
    omega
  simp only [front, if_neg notOne, if_neg fits, if_neg notTwo, if_pos first.2, second, third, Bool.not_true,
    Bool.false_eq_true, if_false]

theorem front_four (first : 0xF0 <= a.toNat ∧ a.toNat < 0xF5) (second : isSecond a b = true) (third : isTail c = true)
    (fourth : isTail d = true) :
    front (a :: b :: c :: d :: rest) = point (a.toNat % 8 * 262144 + low b * 4096 + low c * 64 + low d) 4 := by
  have notOne : ¬ a.toNat < 0x80 := by omega
  have notTwo : ¬ a.toNat < 0xE0 := by omega
  have notThree : ¬ a.toNat < 0xF0 := by omega
  have fits : ¬ (a.toNat < 0xC2 || 0xF5 <= a.toNat) = true := by
    simp only [Bool.or_eq_true, decide_eq_true_eq]
    omega
  simp only [front, if_neg notOne, if_neg fits, if_neg notTwo, if_neg notThree, second, third, fourth, Bool.not_true,
    Bool.false_eq_true, if_false]

/-! ## Characters -/

theorem toNat_byte {n : Nat} (small : n < 256) : (UInt8.ofNat n).toNat = n :=
  UInt8.toNat_ofNat_of_lt' small

theorem isTail_byte (n : Nat) : isTail (UInt8.ofNat (n % 0x40 + 0x80)) = true := by
  rw [isTail, toNat_byte (by omega), Bool.and_eq_true, decide_eq_true_eq, decide_eq_true_eq]
  omega

theorem low_byte (n : Nat) : low (UInt8.ofNat (n % 0x40 + 0x80)) = n % 0x40 := by
  rw [low, toNat_byte (by omega)]
  omega

/-- A second byte lies in the range that the first byte leaves open. -/
theorem isSecond_byte {first m : Nat} (small : first < 256) (lowest : first = 0xE0 -> 0x20 <= m % 0x40)
    (surrogates : first = 0xED -> m % 0x40 < 0x20) (planes : first = 0xF0 -> 0x10 <= m % 0x40)
    (highest : first = 0xF4 -> m % 0x40 < 0x10) :
    isSecond (UInt8.ofNat first) (UInt8.ofNat (m % 0x40 + 0x80)) = true := by
  rw [isSecond, toNat_byte small, toNat_byte (by omega), Bool.and_eq_true, decide_eq_true_eq, decide_eq_true_eq,
    secondRange]
  split
  · omega
  · split
    · omega
    · split
      · omega
      · split <;> omega

/-- The bytes of a character are read as the character, whatever comes behind them. -/
theorem front_utf8EncodeChar (c : Char) (rest : Bytes) :
    front (String.utf8EncodeChar c ++ rest) = .point (.scalar c) (String.utf8EncodeChar c).length := by
  have valid : c.toNat < 0xD800 ∨ 0xDFFF < c.toNat ∧ c.toNat < 0x110000 := c.valid
  by_cases one : c.toNat <= 0x7f
  · have bytes : String.utf8EncodeChar c = [UInt8.ofNat c.toNat] := if_pos one
    have first : (UInt8.ofNat c.toNat).toNat = c.toNat := toNat_byte (by omega)
    rw [bytes, List.singleton_append, front_one (by omega), first, point_toNat]
    rfl
  by_cases two : c.toNat <= 0x7ff
  · have bytes : String.utf8EncodeChar c =
        [UInt8.ofNat (c.toNat / 64 % 0x20 + 0xc0), UInt8.ofNat (c.toNat % 0x40 + 0x80)] :=
      (if_neg one).trans (if_pos two)
    have first : (UInt8.ofNat (c.toNat / 64 % 0x20 + 0xc0)).toNat = c.toNat / 64 % 0x20 + 0xc0 := toNat_byte (by omega)
    have number : (c.toNat / 64 % 0x20 + 0xc0) % 32 * 64 + c.toNat % 0x40 = c.toNat := by omega
    rw [bytes, List.cons_append, List.singleton_append, front_two (by omega) (isTail_byte _), low_byte, first, number,
      point_toNat]
    rfl
  by_cases three : c.toNat <= 0xffff
  · have bytes : String.utf8EncodeChar c = [UInt8.ofNat (c.toNat / 4096 % 0x10 + 0xe0),
        UInt8.ofNat (c.toNat / 64 % 0x40 + 0x80), UInt8.ofNat (c.toNat % 0x40 + 0x80)] :=
      (if_neg one).trans ((if_neg two).trans (if_pos three))
    have first : (UInt8.ofNat (c.toNat / 4096 % 0x10 + 0xe0)).toNat = c.toNat / 4096 % 0x10 + 0xe0 :=
      toNat_byte (by omega)
    have number : (c.toNat / 4096 % 0x10 + 0xe0) % 16 * 4096 + c.toNat / 64 % 0x40 * 64 + c.toNat % 0x40 = c.toNat := by
      omega
    have second : isSecond (UInt8.ofNat (c.toNat / 4096 % 0x10 + 0xe0)) (UInt8.ofNat (c.toNat / 64 % 0x40 + 0x80)) = true := by
      apply isSecond_byte <;> omega
    rw [bytes, List.cons_append, List.cons_append, List.singleton_append, front_three (by omega) second (isTail_byte _),
      low_byte, low_byte, first, number, point_toNat]
    rfl
  · have bytes : String.utf8EncodeChar c = [UInt8.ofNat (c.toNat / 262144 % 0x08 + 0xf0),
        UInt8.ofNat (c.toNat / 4096 % 0x40 + 0x80), UInt8.ofNat (c.toNat / 64 % 0x40 + 0x80),
        UInt8.ofNat (c.toNat % 0x40 + 0x80)] :=
      (if_neg one).trans ((if_neg two).trans (if_neg three))
    have first : (UInt8.ofNat (c.toNat / 262144 % 0x08 + 0xf0)).toNat = c.toNat / 262144 % 0x08 + 0xf0 :=
      toNat_byte (by omega)
    have number : (c.toNat / 262144 % 0x08 + 0xf0) % 8 * 262144 + c.toNat / 4096 % 0x40 * 4096 +
        c.toNat / 64 % 0x40 * 64 + c.toNat % 0x40 = c.toNat := by
      omega
    have second : isSecond (UInt8.ofNat (c.toNat / 262144 % 0x08 + 0xf0)) (UInt8.ofNat (c.toNat / 4096 % 0x40 + 0x80)) =
        true := by
      apply isSecond_byte <;> omega
    rw [bytes, List.cons_append, List.cons_append, List.cons_append, List.singleton_append,
      front_four (by omega) second (isTail_byte _) (isTail_byte _), low_byte, low_byte, low_byte, first, number,
      point_toNat]
    rfl

/-- What was encoded is decoded again. -/
theorem decodeFrom_encode (cs : List Char) (seen : Text) (offset : Nat) :
    decodeFrom "utf-8" front seen offset 0 (cs.flatMap String.utf8EncodeChar) =
      .ok (seen.reverse ++ cs.map CodePoint.scalar) := by
  induction cs generalizing seen offset with
  | nil => rw [List.map_nil, List.append_nil]; rfl
  | cons c cs ih =>
    rw [List.flatMap_cons]
    have read := front_utf8EncodeChar c (cs.flatMap String.utf8EncodeChar)
    cases bytes : String.utf8EncodeChar c with
    | nil => exact absurd bytes String.utf8EncodeChar_ne_nil
    | cons b more =>
      rw [bytes, List.cons_append] at read
      rw [List.cons_append, decodeFrom]
      simp only [read, List.length_cons, Nat.add_sub_cancel]
      rw [decodeFrom_skip, ih, List.reverse_cons, List.append_assoc, List.singleton_append, List.map_cons]

theorem decode_encode (s : String) : decode (encode s) = .ok (Text.ofString s) :=
  decodeFrom_encode s.toList [] 0

end Utf8

end Encoding

end SchemaLint
