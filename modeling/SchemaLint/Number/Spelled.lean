import SchemaLint.Text.Word
import SchemaLint.Text.Blank
import SchemaLint.Number.Binary64

/-!
# Spelled numbers

The integers of pointers and group names are read generously: whitespace around them, a sign, digits of any
script and single low lines between digits are all accepted.  Fractions are read in the same way, but without low lines.
-/

namespace SchemaLint

namespace Spelled

/-- The value of a decimal digit: digits of a script come in runs of ten. -/
def digitValue? (c : Char) : Option Nat :=
  let n := c.toNat
  if 0x30 ≤ n && n ≤ 0x39 then some (n - 0x30)
  else (Word.decimal.find? fun range => range.1 ≤ n && n ≤ range.2).map fun range => (n - range.1) % 10

/-- The value of digits in which a low line may stand between two of them. -/
def digits? (sofar : Nat) : List Char → Option Nat
  | [] => some sofar
  | '_' :: c :: rest => (digitValue? c).bind fun d => digits? (sofar * 10 + d) rest
  | c :: rest => (digitValue? c).bind fun d => digits? (sofar * 10 + d) rest

/-- The value of at least one digit. -/
def natural? : List Char → Option Nat
  | [] => none
  | '_' :: _ => none
  | cs => digits? 0 cs

def integer? (cs : List Char) : Option Int :=
  match strip cs with
  | '-' :: rest => (natural? rest).map fun n => -(n : Int)
  | '+' :: rest => (natural? rest).map fun n => (n : Int)
  | rest => (natural? rest).map fun n => (n : Int)

/-! ## Fractions -/

/-- Digits at the beginning of some characters, and what follows them. -/
def digitRun (cs : List Char) : List Nat × List Char :=
  let digits := cs.takeWhile fun c => (digitValue? c).isSome
  (digits.filterMap digitValue?, cs.drop digits.length)

/-- The exponent that some characters spell; no characters spell none. -/
def exponent? : List Char → Option Int
  | [] => some 0
  | e :: rest =>
    if e = 'e' || e = 'E' then
      let (negative, rest) : Bool × List Char :=
        match rest with
        | '-' :: rest => (true, rest)
        | '+' :: rest => (false, rest)
        | rest => (false, rest)
      match digitRun rest with
      | ([], _) | (_, _ :: _) => none
      | (digits, []) =>
        let n : Nat := digits.foldl (fun n d => n * 10 + d) 0
        some (if negative then -(n : Int) else (n : Int))
    else none

/-- The number that some characters without a sign spell. -/
def magnitude? (negative : Bool) (cs : List Char) : Option Binary64 :=
  let word := String.ofList (cs.map Char.toLower)
  if word = "inf" || word = "infinity" then some (.infinite negative)
  else if word = "nan" then some .nan
  else
    let (whole, rest) := digitRun cs
    let (fraction, rest) : List Nat × List Char :=
      match rest with
      | '.' :: rest => digitRun rest
      | rest => ([], rest)
    if whole.isEmpty && fraction.isEmpty then none
    else
      (exponent? rest).map fun power =>
        .ofDecimal negative ((whole ++ fraction).foldl (fun n d => n * 10 + d) 0) (power - fraction.length)

def fraction? (cs : List Char) : Option Binary64 :=
  match strip cs with
  | '-' :: rest => magnitude? true rest
  | '+' :: rest => magnitude? false rest
  | rest => magnitude? false rest

end Spelled

end SchemaLint
