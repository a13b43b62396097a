import Mathlib.Tactic.Conv
import SchemaLint.Json.Token

/-!
# Spelled numbers

A grammar of number literals beside the reader of them.  What the reader takes from the front of a text is spelled by
the grammar, and what the grammar spells is taken by the reader as a whole, provided that what follows cannot go on with
the number.
-/

namespace SchemaLint

namespace Json

namespace Token

/-- Characters as a text. -/
def points (cs : List Char) : Text :=
  cs.map CodePoint.scalar

theorem points_append (front back : List Char) : points (front ++ back) = points front ++ points back :=
  List.map_append

theorem points_cons (c : Char) (cs : List Char) : points (c :: cs) = .scalar c :: points cs :=
  rfl

theorem length_points (cs : List Char) : (points cs).length = cs.length :=
  List.length_map _

/-- What is left of a text behind some characters. -/
theorem drop_of_points {t rest : Text} {cs : List Char} (split : t = points cs ++ rest) : t.drop cs.length = rest := by
  rw [split, ← length_points, List.drop_left]

/-- Characters that are digits only. -/
def AreDigits (cs : List Char) : Prop :=
  forall c, c ∈ cs -> c.isDigit = true

/-- A text that does not begin with a digit. -/
def NoDigit (t : Text) : Prop :=
  forall c rest, t = c :: rest -> isDigit c = false

/-! ## Digits -/

theorem digits_cons_of_digit {c : CodePoint} (digit : isDigit c = true) (t : Text) :
    digits (c :: t) = c.toChar :: digits t := by
  unfold digits
  rw [List.takeWhile_cons_of_pos digit, List.map_cons]

theorem digits_of_noDigit {t : Text} (noDigit : NoDigit t) : digits t = [] := by
  cases t with
  | nil => rfl
  | cons c rest =>
    unfold digits
    rw [List.takeWhile_cons_of_neg (by simp [noDigit c rest rfl]), List.map_nil]

theorem digits_points {cs : List Char} (all : AreDigits cs) {t : Text} (noDigit : NoDigit t) :
    digits (points cs ++ t) = cs := by
  induction cs with
  | nil => exact digits_of_noDigit noDigit
  | cons c cs ih =>
    have digit : isDigit (.scalar c) = true := all c (List.mem_cons_self ..)
    rw [points_cons, List.cons_append, digits_cons_of_digit digit,
      ih fun d member => all d (List.mem_cons_of_mem c member)]
    rfl

/-- The digits at the front of a text, and what follows them. -/
theorem exists_digits (t : Text) :
    exists rest, t = points (digits t) ++ rest ∧ AreDigits (digits t) ∧ NoDigit rest := by
  induction t with
  | nil => exact ⟨[], rfl, nofun, nofun⟩
  | cons c t ih =>
    by_cases digit : isDigit c = true
    · obtain ⟨rest, split, all, noDigit⟩ := ih
      rw [digits_cons_of_digit digit]
      cases c with
      | surrogate offset => cases digit
      | scalar c =>
        refine ⟨rest, ?_, ?_, noDigit⟩
        · rw [points_cons, List.cons_append, ← split]
          rfl
        · intro d member
          rcases List.mem_cons.mp member with rfl | later
          · exact digit
          · exact all d later
    · have noDigit : NoDigit (c :: t) := by
        intro d rest same
        cases same
        simpa using digit
      rw [digits_of_noDigit noDigit]
      exact ⟨c :: t, rfl, nofun, noDigit⟩

/-! ## Exponents -/

/-- The ways to write the sign of an exponent, and whether the exponent is negative. -/
inductive IsSign : List Char -> Bool -> Prop
  | none : IsSign [] false
  | plus : IsSign ['+'] false
  | minus : IsSign ['-'] true

/-- An exponent as it is spelled. -/
inductive IsExponent : List Char -> Int -> Prop
  | mk (e : Char) (sign : List Char) (negative : Bool) (ds : List Char) (letter : e = 'e' ∨ e = 'E')
      (isSign : IsSign sign negative) (some : ds ≠ []) (all : AreDigits ds) :
      IsExponent (e :: (sign ++ ds)) (if negative then -(spell ds : Int) else (spell ds : Int))

theorem exponentSign_sound (t : Text) : exists sign, IsSign sign (exponentSign t).negative ∧
    (exponentSign t).length = sign.length ∧ t = points sign ++ (exponentSign t).rest := by
  unfold exponentSign
  split
  next rest => exact ⟨['-'], .minus, rfl, rfl⟩
  next rest => exact ⟨['+'], .plus, rfl, rfl⟩
  next => exact ⟨[], .none, rfl, rfl⟩

theorem exponentSign_complete {sign : List Char} {negative : Bool} (isSign : IsSign sign negative) {d : Char}
    (digit : d.isDigit = true) (t : Text) :
    exponentSign (points sign ++ .scalar d :: t) = ⟨negative, sign.length, .scalar d :: t⟩ := by
  cases isSign with
  | plus => rfl
  | minus => rfl
  | none =>
    change exponentSign (.scalar d :: t) = _
    unfold exponentSign
    split
    next rest same =>
      cases same
      cases digit
    next rest same =>
      cases same
      cases digit
    next => rfl

theorem exponent?_eq_none {t : Text} (other : forall e rest, t = .scalar e :: rest -> e ≠ 'e' ∧ e ≠ 'E') :
    exponent? t = none := by
  unfold exponent?
  split
  next e rest =>
    obtain ⟨small, large⟩ := other e rest rfl
    rw [if_neg (by simp [small, large])]
  next => rfl

theorem exponent?_sound {t : Text} {power : Int} {n : Nat} (taken : exponent? t = some (power, n)) :
    exists cs rest, t = points cs ++ rest ∧ cs.length = n ∧ IsExponent cs power := by
  unfold exponent? at taken
  split at taken
  next e behind =>
    split at taken
    next letter =>
      have isLetter : e = 'e' ∨ e = 'E' := by simpa using letter
      obtain ⟨sign, isSign, length, front⟩ := exponentSign_sound behind
      obtain ⟨rest, back, all, -⟩ := exists_digits (exponentSign behind).rest
      simp only at taken
      split at taken
      next => cases taken
      next nonempty =>
        cases taken
        refine ⟨_, rest, ?_, ?_, .mk e sign _ _ isLetter isSign nonempty all⟩
        · conv_lhs => rw [front, back]
          rw [points_cons, points_append, List.cons_append, List.append_assoc]
        · rw [List.length_cons, List.length_append, length]
          omega
    next => cases taken
  next => cases taken

theorem exponent?_complete {cs : List Char} {power : Int} (isExponent : IsExponent cs power) {t : Text}
    (noDigit : NoDigit t) : exponent? (points cs ++ t) = some (power, cs.length) := by
  obtain ⟨e, sign, negative, ds, letter, isSign, nonempty, all⟩ := isExponent
  have read : digits (points ds ++ t) = ds := digits_points all noDigit
  obtain ⟨d, ds, rfl⟩ := List.exists_cons_of_ne_nil nonempty
  have behind : exponentSign (points (sign ++ d :: ds) ++ t) = ⟨negative, sign.length, points (d :: ds) ++ t⟩ := by
    rw [points_append, List.append_assoc]
    exact exponentSign_complete isSign (all d (List.mem_cons_self ..)) (points ds ++ t)
  have isLetter : (e = 'e' || e = 'E') = true := by simpa using letter
  rw [points_cons, List.cons_append]
  unfold exponent?
  simp only [if_pos isLetter, behind, read]
  have length : 1 + sign.length + (d :: ds).length = (e :: (sign ++ d :: ds)).length := by
    simp only [List.length_cons, List.length_append]
    omega
  rw [← length]

/-! ## Fractions -/

/-- The point before a fraction, and the fraction itself. -/
def pointed : List Char -> List Char
  | [] => []
  | part => '.' :: part

theorem length_pointed (part : List Char) :
    (pointed part).length = if part.isEmpty then 0 else part.length + 1 := by
  cases part <;> rfl

theorem fraction_sound (t : Text) : exists rest, t = points (pointed (fraction t)) ++ rest ∧ AreDigits (fraction t) := by
  unfold fraction
  split
  next behind =>
    obtain ⟨rest, split, all, -⟩ := exists_digits behind
    cases found : digits behind with
    | nil => exact ⟨.scalar '.' :: behind, rfl, nofun⟩
    | cons d ds =>
      rw [found] at split all
      refine ⟨rest, ?_, all⟩
      conv_lhs => rw [split]
      rfl
  next => exact ⟨t, rfl, nofun⟩

theorem fraction_of_no_point {t : Text} (other : forall rest, t ≠ .scalar '.' :: rest) : fraction t = [] := by
  unfold fraction
  split
  next rest => exact absurd rfl (other rest)
  next => rfl

theorem fraction_complete {part : List Char} (all : AreDigits part) {t : Text} (noDigit : NoDigit t)
    (other : part = [] -> forall rest, t ≠ .scalar '.' :: rest) : fraction (points (pointed part) ++ t) = part := by
  cases part with
  | nil => exact fraction_of_no_point (other rfl)
  | cons d ds => exact digits_points all noDigit

/-! ## Numbers -/

/-- The minus of a number. -/
def minus (negative : Bool) : List Char :=
  if negative then ['-'] else []

/-- Digits before the point: a zero alone, or digits that begin with another one. -/
structure IsWhole (ds : List Char) : Prop where
  nonempty : ds ≠ []
  all : AreDigits ds
  zero : forall rest, ds = '0' :: rest -> rest = []

/-- A number as it is spelled. -/
inductive IsNumeral : List Char -> NumberLiteral -> Prop
  | int (negative : Bool) (ds : List Char) (isWhole : IsWhole ds) : IsNumeral (minus negative ++ ds) (.int negative ds)
  | fraction (negative : Bool) (ds part : List Char) (isWhole : IsWhole ds) (nonempty : part ≠ [])
      (all : AreDigits part) : IsNumeral (minus negative ++ (ds ++ pointed part)) (.float negative ds part 0)
  | exponent (negative : Bool) (ds part exponent : List Char) (power : Int) (isWhole : IsWhole ds)
      (all : AreDigits part) (isExponent : IsExponent exponent power) :
      IsNumeral (minus negative ++ (ds ++ (pointed part ++ exponent))) (.float negative ds part power)

theorem numberSign_sound (t : Text) :
    (numberSign t).length = (minus (numberSign t).negative).length ∧
      t = points (minus (numberSign t).negative) ++ (numberSign t).rest := by
  unfold numberSign
  split
  next rest => exact ⟨rfl, rfl⟩
  next => exact ⟨rfl, rfl⟩

theorem numberSign_complete (negative : Bool) {d : Char} (digit : d.isDigit = true) (t : Text) :
    numberSign (points (minus negative) ++ .scalar d :: t) = ⟨negative, (minus negative).length, .scalar d :: t⟩ := by
  cases negative with
  | true => rfl
  | false =>
    change numberSign (.scalar d :: t) = _
    unfold numberSign
    split
    next rest same =>
      cases same
      cases digit
    next => rfl

theorem whole_sound (t : Text) : exists rest, t = points (whole t) ++ rest ∧ (whole t ≠ [] -> IsWhole (whole t)) := by
  obtain ⟨rest, split, all, -⟩ := exists_digits t
  unfold whole
  split
  next ds found =>
    rw [found] at split
    refine ⟨points ds ++ rest, split, fun _ => ⟨by simp, ?_, ?_⟩⟩
    · intro c member
      cases List.mem_singleton.mp member
      rfl
    · intro ds' same
      cases same
      rfl
  next other =>
    refine ⟨rest, split, fun nonempty => ⟨nonempty, all, ?_⟩⟩
    intro ds same
    exact absurd same (other ds)

theorem whole_complete {ds : List Char} (isWhole : IsWhole ds) {t : Text} (noDigit : NoDigit t) :
    whole (points ds ++ t) = ds := by
  unfold whole
  rw [digits_points isWhole.all noDigit]
  split
  next rest => rw [isWhole.zero rest rfl]
  next => rfl

/-- What is read as a number is spelled like one. -/
theorem number?_sound {t : Text} {literal : NumberLiteral} {n : Nat} (taken : number? t = some (literal, n)) :
    exists cs rest, t = points cs ++ rest ∧ cs.length = n ∧ IsNumeral cs literal := by
  obtain ⟨signLength, signSplit⟩ := numberSign_sound t
  obtain ⟨behind, wholeSplit, isWhole⟩ := whole_sound (numberSign t).rest
  unfold number? at taken
  by_cases empty : (whole (numberSign t).rest).isEmpty = true
  · simp only [if_pos empty] at taken
    cases taken
  have isWhole := isWhole (by simpa using empty)
  have dropWhole := drop_of_points wholeSplit
  obtain ⟨more, fractionSplit, all⟩ := fraction_sound behind
  have dropFraction := drop_of_points fractionSplit
  simp only [if_neg empty, dropWhole, ← length_pointed, dropFraction] at taken
  have split : t = points (minus (numberSign t).negative) ++ (points (whole (numberSign t).rest) ++
      (points (pointed (fraction behind)) ++ more)) := by
    rw [← fractionSplit, ← wholeSplit, ← signSplit]
  split at taken
  next power powerLength found =>
    cases taken
    obtain ⟨cs, rest, exponentSplit, length, isExponent⟩ := exponent?_sound found
    refine ⟨_, rest, ?_, ?_, .exponent _ _ _ cs power isWhole all isExponent⟩
    · conv_lhs => rw [split, exponentSplit]
      simp only [points_append, List.append_assoc]
    · simp only [List.length_append, signLength, length]
      omega
  next =>
    split at taken
    next none =>
      cases taken
      have noFraction : fraction behind = [] := List.isEmpty_iff.mp none
      rw [noFraction] at split
      refine ⟨_, more, ?_, ?_, .int _ _ isWhole⟩
      · conv_lhs => rw [split]
        rw [points_append, List.append_assoc]
        rfl
      · rw [List.length_append, signLength]
    next some =>
      cases taken
      refine ⟨_, more, ?_, ?_, .fraction _ _ _ isWhole (by simpa using some) all⟩
      · conv_lhs => rw [split]
        simp only [points_append, List.append_assoc]
      · simp only [List.length_append, signLength]
        omega

/-- A text with which no number can go on. -/
structure EndsNumber (t : Text) : Prop where
  noDigit : NoDigit t
  noPoint : forall rest, t ≠ .scalar '.' :: rest
  noExponent : forall e rest, t = .scalar e :: rest -> e ≠ 'e' ∧ e ≠ 'E'

theorem IsExponent.head {cs : List Char} {power : Int} (isExponent : IsExponent cs power) (t : Text) :
    NoDigit (points cs ++ t) ∧ forall rest, points cs ++ t ≠ .scalar '.' :: rest := by
  obtain ⟨e, sign, negative, ds, letter, -, -, -⟩ := isExponent
  constructor
  · rintro c rest same
    cases same
    rcases letter with rfl | rfl <;> rfl
  · rintro rest same
    cases same
    rcases letter with impossible | impossible <;> cases impossible

theorem noDigit_pointed {part : List Char} {t : Text} (noDigit : NoDigit t) : NoDigit (points (pointed part) ++ t) := by
  cases part with
  | nil => exact noDigit
  | cons d ds =>
    rintro c rest same
    cases same
    rfl

/-- How a number is read whose sign and digits before the point are known. -/
theorem number?_of_whole (negative : Bool) {ds : List Char} (isWhole : IsWhole ds) {t : Text} (noDigit : NoDigit t) :
    number? (points (minus negative) ++ (points ds ++ t)) =
      match exponent? (t.drop (pointed (fraction t)).length) with
      | some (power, powerLength) =>
        some (.float negative ds (fraction t) power,
          (minus negative).length + ds.length + (pointed (fraction t)).length + powerLength)
      | none =>
        if (fraction t).isEmpty then some (.int negative ds, (minus negative).length + ds.length)
        else some (.float negative ds (fraction t) 0,
          (minus negative).length + ds.length + (pointed (fraction t)).length) := by
  obtain ⟨d, ds', rfl⟩ := List.exists_cons_of_ne_nil isWhole.nonempty
  have sign : numberSign (points (minus negative) ++ (points (d :: ds') ++ t)) =
      ⟨negative, (minus negative).length, points (d :: ds') ++ t⟩ :=
    numberSign_complete negative (isWhole.all d (List.mem_cons_self ..)) (points ds' ++ t)
  have isWhole' : whole (points (d :: ds') ++ t) = d :: ds' := whole_complete isWhole noDigit
  have behind : (points (d :: ds') ++ t).drop (d :: ds').length = t := drop_of_points rfl
  unfold number?
  rcases found : exponent? (t.drop (pointed (fraction t)).length) with _ | ⟨power, powerLength⟩ <;>
    simp only [sign, isWhole', behind, found, List.isEmpty_cons, Bool.false_eq_true, if_false, ← length_pointed]

/-- What is spelled like a number is read as one, if it cannot go on behind. -/
theorem number?_complete {cs : List Char} {literal : NumberLiteral} (isNumeral : IsNumeral cs literal) {t : Text}
    (ends : EndsNumber t) : number? (points cs ++ t) = some (literal, cs.length) := by
  cases isNumeral with
  | int negative ds isWhole =>
    have noFraction : fraction t = [] := fraction_of_no_point ends.noPoint
    rw [points_append, List.append_assoc, number?_of_whole negative isWhole ends.noDigit, noFraction]
    have behind : t.drop (pointed []).length = t := List.drop_zero
    rw [behind, exponent?_eq_none ends.noExponent, List.length_append]
    rfl
  | fraction negative ds part isWhole nonempty all =>
    have read : Token.fraction (points (pointed part) ++ t) = part :=
      fraction_complete all ends.noDigit fun none => absurd none nonempty
    have behind : (points (pointed part) ++ t).drop (pointed part).length = t := drop_of_points rfl
    have some : ¬ part.isEmpty = true := by simpa using nonempty
    rw [points_append, points_append, List.append_assoc, List.append_assoc,
      number?_of_whole negative isWhole (noDigit_pointed ends.noDigit), read, behind,
      exponent?_eq_none ends.noExponent]
    simp only [if_neg some, List.length_append, Option.some.injEq, Prod.mk.injEq, true_and]
    omega
  | exponent negative ds part exponent power isWhole all isExponent =>
    obtain ⟨noDigit, noPoint⟩ := isExponent.head t
    have read : Token.fraction (points (pointed part) ++ (points exponent ++ t)) = part :=
      fraction_complete all noDigit fun _ => noPoint
    have behind : (points (pointed part) ++ (points exponent ++ t)).drop (pointed part).length =
        points exponent ++ t := drop_of_points rfl
    simp only [points_append, List.append_assoc]
    rw [number?_of_whole negative isWhole (noDigit_pointed noDigit), read, behind,
      exponent?_complete isExponent ends.noDigit]
    simp only [List.length_append, Option.some.injEq, Prod.mk.injEq, true_and]
    omega

end Token

end Json

end SchemaLint
