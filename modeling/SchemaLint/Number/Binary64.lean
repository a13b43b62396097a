/-!
# Binary floating-point numbers

A number of a document that has a fraction or an exponent is kept as the nearest binary number of 53 bits.  The
type holds that number exactly, as an integer times a power of two, so that comparing, dividing and printing are
integer arithmetic and can be reasoned about; the machine's own floating-point type is not used.

The one way in is `ofRatio`, which rounds a quotient of naturals to the nearest representable number, a tie going to
the even significand.
-/

namespace SchemaLint

/--
A binary number of 53 bits.  A finite number is its significand times a power of two; the significand of a number
made by `ofRatio` has 53 bits unless the exponent is the lowest one.
-/
inductive Binary64
  | nan
  | infinite (negative : Bool)
  | finite (negative : Bool) (significand : Nat) (exponent : Int)
  deriving DecidableEq

namespace Binary64

def precision : Nat := 53

def lowestExponent : Int := -1074

def highestExponent : Int := 971

/-- Zero, with its sign. -/
def zero (negative : Bool) : Binary64 :=
  finite negative 0 lowestExponent

/-- The quotient rounded to the nearest natural, a tie going to the even neighbour. -/
def roundDiv (num den : Nat) : Nat :=
  let quotient := num / den
  let rest := num % den
  if 2 * rest < den || (2 * rest = den && quotient % 2 = 0) then quotient else quotient + 1

/-- The quotient `num / (den * 2 ^ exponent)` as a quotient of naturals. -/
def scaled (num den : Nat) (exponent : Int) : Nat × Nat :=
  if 0 ≤ exponent then (num, den * Nat.pow 2 exponent.toNat) else (num * Nat.pow 2 (-exponent).toNat, den)

/-- The exponent at which the whole part of the quotient has 53 bits, or the lowest exponent if that is higher. -/
def exponentOf (num den : Nat) : Int :=
  let guess : Int := (num.log2 : Int) - (den.log2 : Int) - (precision : Int)
  let bits (e : Int) : Nat := (scaled num den e).1 / (scaled num den e).2
  let exponent := if bits guess < Nat.pow 2 precision then guess else guess + 1
  max lowestExponent exponent

/-- The representable number nearest to a quotient of naturals, infinite when it lies past the largest one. -/
def ofRatio (negative : Bool) (num den : Nat) : Binary64 :=
  if num = 0 then zero negative
  else
    let exponent := exponentOf num den
    let parts := scaled num den exponent
    let rounded := roundDiv parts.1 parts.2
    let carried := rounded = Nat.pow 2 precision
    let significand := if carried then Nat.pow 2 (precision - 1) else rounded
    let exponent := if carried then exponent + 1 else exponent
    if significand = 0 then zero negative
    else if highestExponent < exponent then infinite negative
    else finite negative significand exponent

def ofInt (n : Int) : Binary64 :=
  ofRatio (n < 0) n.natAbs 1

/--
The number nearest to `digits * 10 ^ exponent`.  Exponents far outside the range of finite numbers are answered
without computing the power.
-/
def ofDecimal (negative : Bool) (digits : Nat) (exponent : Int) : Binary64 :=
  if digits = 0 then zero negative
  else
    let size : Int := (Nat.toDigits 10 digits).length
    if 400 < size + exponent then infinite negative
    else if size + exponent < -400 then zero negative
    else if 0 ≤ exponent then ofRatio negative (digits * Nat.pow 10 exponent.toNat) 1
    else ofRatio negative digits (Nat.pow 10 (-exponent).toNat)

/-- A finite number as an integer over a positive natural. -/
def toRatio? : Binary64 → Option (Int × Nat)
  | finite negative significand exponent =>
    let sign : Int := if negative then -1 else 1
    if 0 ≤ exponent then some (sign * (significand * Nat.pow 2 exponent.toNat : Nat), 1)
    else some (sign * significand, Nat.pow 2 (-exponent).toNat)
  | _ => none

def isWhole (x : Binary64) : Bool :=
  match x.toRatio? with
  | some (num, den) => num % (den : Int) = 0
  | none => false

def isZero : Binary64 → Bool
  | finite _ significand _ => significand = 0
  | _ => false

def negate : Binary64 → Binary64
  | nan => nan
  | infinite negative => infinite (!negative)
  | finite negative significand exponent => finite (!negative) significand exponent

/-- The number nearest to a quotient of an integer and a positive natural; zero has no sign. -/
def ofSigned (num : Int) (den : Nat) : Binary64 :=
  ofRatio (num < 0) num.natAbs den

/-- The sum, rounded; for finite numbers. -/
def add (x y : Binary64) : Binary64 :=
  match x.toRatio?, y.toRatio? with
  | some (a, b), some (c, d) => ofSigned (a * d + c * b) (b * d)
  | none, _ => x
  | _, none => y

/-- The product with a natural, rounded; for finite numbers. -/
def scale (x : Binary64) (n : Nat) : Binary64 :=
  match x.toRatio?, (ofInt n).toRatio? with
  | some (a, b), some (c, d) => ofSigned (a * c) (b * d)
  | _, _ => x

end Binary64

end SchemaLint
