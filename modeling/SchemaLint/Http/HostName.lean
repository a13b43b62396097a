import SchemaLint.Text.Lowercase
import SchemaLint.Text.Split
import SchemaLint.Text.Word

/-!
# Host names

A host name is a row of labels with dots between them.  A label of letters of any script is sent in a spelling of ASCII
letters, digits and hyphens.  In it the ASCII characters of the label come first; behind a hyphen follow the places of
the others, taken in the order of their code points, each as its distance from the place before.  A distance is a number
in base 36 that shows by its digits where it ends, and the thresholds of those digits adapt to the distances written so
far.  A label that is ASCII already stays as it is.
-/

namespace SchemaLint

namespace Http

namespace HostName

/-! ## Distances -/

def digit (n : Nat) : Char :=
  if n < 26 then Char.ofNat (0x61 + n) else Char.ofNat (0x30 + (n - 26))

/-- The least digit behind which a number goes on; places are counted in steps of 36. -/
def threshold (place bias : Nat) : Nat :=
  max 1 (min 26 (place - bias))

/-- The digits of a number, the lowest first.  The last one is the only one below its threshold, so that numbers can
follow one another without a sign between them.  The fuel exceeds the number. -/
def digits (bias : Nat) : Nat → Nat → Nat → List Char
  | 0, _, _ => []
  | fuel + 1, place, n =>
    let least := threshold place bias
    if n < least then [digit n]
    else digit (least + (n - least) % (36 - least)) :: digits bias fuel (place + 36) ((n - least) / (36 - least))

/-- How often a number has to be divided by 35 until it is at most 455, and what is left then. -/
def reduced : Nat → Nat → Nat × Nat
  | 0, n => (0, n)
  | fuel + 1, n =>
    if n ≤ 455 then (0, n)
    else
      let (steps, rest) := reduced fuel (n / 35)
      (steps + 1, rest)

/-- The bias behind a distance, which was that of the character that makes `count` characters.  The first distance says
less about the next ones, because it spans the gap between ASCII and the script of the label. -/
def adapt (isFirst : Bool) (distance count : Nat) : Nat :=
  let damped := distance / (if isFirst then 700 else 2)
  let (steps, rest) := reduced damped (damped + damped / count)
  36 * steps + 36 * rest / (rest + 38)

/-! ## Labels -/

/-- How far the spelling of a label has come: the code point whose places are written next, the distance since the place
before, the bias, how many characters are written, and the digits. -/
structure Progress where
  point : Nat
  distance : Nat
  bias : Nat
  count : Nat
  written : List Char

namespace Progress

/-- Pass a character of the label, of which `plain` are ASCII, while the places of one code point are written. -/
def pass (plain : Nat) (p : Progress) (c : Char) : Progress :=
  if c.toNat < p.point then { p with distance := p.distance + 1 }
  else if c.toNat = p.point then
    { p with
      distance := 0
      bias := adapt (p.count = plain) p.distance (p.count + 1)
      count := p.count + 1
      written := p.written ++ digits p.bias (p.distance + 1) 36 p.distance }
  else p

/-- Write all places of a code point. -/
def place (plain : Nat) (label : List Char) (p : Progress) (point : Nat) : Progress :=
  let found := label.foldl (pass plain)
    { p with point, distance := p.distance + (point - p.point) * (p.count + 1) }
  { found with point := point + 1, distance := found.distance + 1 }

end Progress

def isAscii (c : Char) : Bool :=
  c.toNat < 0x80

/-- The spelling of a label by its ASCII characters and the places of the others. -/
def spelled (label : List Char) : List Char :=
  let plain := label.filter isAscii
  let others := ((label.filter (!isAscii ·)).map Char.toNat).eraseDups.mergeSort Nat.ble
  let p := others.foldl (Progress.place plain.length label) ⟨0x80, 0, 72, plain.length, []⟩
  (if plain.isEmpty then [] else plain ++ ['-']) ++ p.written

/-- A hyphen, or a letter or digit in lower case. -/
def fits (c : Char) : Bool :=
  c = '-' || (c != '_' && isWordPoint c.toNat && lowercase c.toNat = c.toNat)

/-- What stands before the spelling of a label that is not ASCII. -/
def mark : List Char := "xn--".toList

/-- Whether a label holds only what may stand in one, and no hyphen where none may stand.  Two hyphens behind two
characters are left to spellings. -/
def isLabel (label : List Char) : Bool :=
  !label.isEmpty && label.all fits && label.head? != some '-' && label.getLast? != some '-' &&
    ((label.drop 2).take 2 != ['-', '-'] || mark.isPrefixOf label)

/-- The form of a label that is sent. -/
def sentLabel? (label : List Char) : Option (List Char) :=
  let sent := if label.all isAscii then label else mark ++ spelled label
  if isLabel label && sent.length ≤ 63 then some sent else none

/-! ## Names -/

/-- The dots of all scripts. -/
def dots : List Char := ['.', '\u3002', '\uFF0E', '\uFF61']

/-- The form of a host name that is sent, if it is one.  A dot at its end stays there. -/
def sent? (name : List Char) : Option (List Char) :=
  let name := name.map fun c => if dots.contains c then '.' else Char.ofNat (lowercase c.toNat)
  let labels := splitChars '.' name
  let (inner, tail) := if labels.getLast? = some [] then (labels.dropLast, ['.']) else (labels, [])
  match inner.mapM sentLabel? with
  | some (label :: rest) =>
    let sent := rest.foldl (fun seen l => seen ++ '.' :: l) label
    if sent.length ≤ 253 then some (sent ++ tail) else none
  | _ => none

end HostName

end Http

end SchemaLint
