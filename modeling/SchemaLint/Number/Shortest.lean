import SchemaLint.Number.Binary64

/-!
# The shortest decimal of a binary number

A binary number is printed with the fewest digits that still read back as it.  The reals that round to a
number form an interval around it; its ends belong to it when the significand is even.  For one digit, two digits and
so on, the two neighbours of the number on the decimal grid of that many digits are tried, and the first grid with
a neighbour inside the interval gives the digits.  No shorter decimal can lie in the interval, because a grid that
has any point there has one of the two neighbours there.
-/

namespace SchemaLint

namespace Binary64

/-- A decimal: digits times a power of ten. -/
structure Decimal where
  digits : Nat
  exponent : Int
  deriving DecidableEq

/-- The interval of reals that round to a number, in units of a quarter of its last place over `den`. -/
structure Interval where
  low : Nat
  value : Nat
  high : Nat
  den : Nat
  closed : Bool

/--
The interval of a positive finite number.  Below a power of two the numbers lie twice as densely, so the lower half
gap is only half as wide there.
-/
def interval (significand : Nat) (exponent : Int) : Interval :=
  let unit := if 0 ≤ exponent then Nat.pow 2 exponent.toNat else 1
  let den := if 0 ≤ exponent then 1 else Nat.pow 2 (-exponent).toNat
  let below := if significand = Nat.pow 2 (precision - 1) && lowestExponent < exponent then 1 else 2
  { low := (4 * significand - below) * unit
    value := 4 * significand * unit
    high := (4 * significand + 2) * unit
    den := 4 * den
    closed := significand % 2 = 0 }

/-- The number of decimal digits of a positive natural. -/
def digitCount (n : Nat) : Nat :=
  (Nat.toDigits 10 n).length

/-- The power of ten at the first digit of a positive quotient. -/
def magnitude (num den : Nat) : Int :=
  if den ≤ num then (digitCount (num / den) : Int) - 1 else -(digitCount ((den - 1) / num) : Int)

/-- The neighbour of the interval's value on the grid of `count` digits that lies inside it, the nearer of two. -/
def onGrid? (i : Interval) (leading : Int) (count : Nat) : Option Decimal :=
  let exponent : Int := leading - (count - 1 : Nat)
  let grid := if 0 ≤ exponent then i.den * Nat.pow 10 exponent.toNat else i.den
  let scale := if 0 ≤ exponent then 1 else Nat.pow 10 (-exponent).toNat
  let inside (c : Nat) : Bool :=
    if i.closed then i.low * scale ≤ c * grid && c * grid ≤ i.high * scale
    else i.low * scale < c * grid && c * grid < i.high * scale
  let lower := i.value * scale / grid
  let upper := lower + 1
  match inside lower, inside upper with
  | true, true =>
    let down := i.value * scale - lower * grid
    let up := upper * grid - i.value * scale
    if down < up || (down = up && lower % 2 = 0) then some ⟨lower, exponent⟩ else some ⟨upper, exponent⟩
  | true, false => some ⟨lower, exponent⟩
  | false, true => some ⟨upper, exponent⟩
  | false, false => none

/-- The digits of a decimal without the zeros at their end. -/
def Decimal.strip (d : Decimal) : Nat → Decimal
  | 0 => d
  | fuel + 1 => if d.digits % 10 = 0 then Decimal.strip ⟨d.digits / 10, d.exponent + 1⟩ fuel else d

/-- The shortest decimal that rounds to a positive finite number; 17 digits always suffice. -/
def shortest (significand : Nat) (exponent : Int) : Decimal :=
  let i := interval significand exponent
  let leading := magnitude i.value i.den
  let found := (List.range 17).findSome? (fun n => onGrid? i leading (n + 1))
  let decimal := found.getD ⟨i.value / i.den, 0⟩
  decimal.strip 20

/--
How a decimal is laid out: positions of the decimal point from which an exponent is written instead, and the least
number of digits of that exponent.
-/
structure Layout where
  /-- The point is written in place when it stands behind more than `after` digits left of the first one … -/
  after : Int
  /-- … and at most `upTo` digits right of it. -/
  upTo : Int
  exponentDigits : Nat

/-- Numbers from 0.0001 up to below 10 to the 16th are written with a point, all others with an exponent. -/
def layout : Layout :=
  { after := -4, upTo := 16, exponentDigits := 2 }

def zeros (n : Nat) : String :=
  String.ofList (List.replicate n '0')

/-- Write a decimal; a whole number keeps one zero behind its point. -/
def Decimal.text (d : Decimal) (shape : Layout) : String :=
  let digits := Nat.repr d.digits
  let size : Int := digits.length
  let point := size + d.exponent
  if shape.after < point && point ≤ shape.upTo then
    if point ≤ 0 then "0." ++ zeros (-point).toNat ++ digits
    else if size ≤ point then digits ++ zeros (point - size).toNat ++ ".0"
    else
      let cut := point.toNat
      String.ofList (digits.toList.take cut) ++ "." ++ String.ofList (digits.toList.drop cut)
  else
    let power := point - 1
    let shown := Nat.repr power.natAbs
    let tail := String.ofList (digits.toList.drop 1)
    String.ofList (digits.toList.take 1) ++ (if tail.isEmpty then "" else "." ++ tail) ++ "e" ++
      (if power < 0 then "-" else "+") ++ zeros (shape.exponentDigits - shown.length) ++ shown

/-- The text of a number; those that are no finite number have short names. -/
def text : Binary64 → String
  | nan => "nan"
  | infinite negative => if negative then "-inf" else "inf"
  | finite negative significand exponent =>
    (if negative then "-" else "") ++
      (if significand = 0 then "0.0" else (shortest significand exponent).text layout)

end Binary64

end SchemaLint
