import SchemaLint.Text.Encoding

/-!
# Base 64

Reading is lenient: characters outside of the alphabet are passed over, and a filling sign counts only where it can complete a
group.  What is refused is a group that stays incomplete.
-/

namespace SchemaLint

namespace Base64

def value? (c : Char) : Option Nat :=
  if 'A' ≤ c && c ≤ 'Z' then some (c.toNat - 65)
  else if 'a' ≤ c && c ≤ 'z' then some (c.toNat - 71)
  else if c.isDigit then some (c.toNat + 4)
  else if c = '+' then some 62
  else if c = '/' then some 63
  else none

/-- Read characters; `place` counts the characters of the current group, `left` holds the bits that are left of the last
one, and `fill` counts the filling signs since then. -/
def readFrom (place left fill : Nat) : List Char → Option Bytes
  | [] => if place = 0 then some [] else none
  | c :: rest =>
    if c = '=' then
      if 2 ≤ place then
        if 4 ≤ place + fill + 1 then some [] else readFrom place left (fill + 1) rest
      else readFrom place left fill rest
    else
      match value? c with
      | none => readFrom place left fill rest
      | some v =>
        let byte (n : Nat) : UInt8 := UInt8.ofNat n
        match place with
        | 0 => readFrom 1 v 0 rest
        | 1 => (readFrom 2 (v % 16) 0 rest).map fun bytes => byte (left * 4 + v / 16) :: bytes
        | 2 => (readFrom 3 (v % 4) 0 rest).map fun bytes => byte (left * 16 + v / 4) :: bytes
        | _ => (readFrom 0 0 0 rest).map fun bytes => byte (left * 64 + v) :: bytes

/-- The bytes that the characters in bytes stand for. -/
def readBytes (bytes : Bytes) : Option Bytes :=
  readFrom 0 0 0 (bytes.map fun b => Char.ofNat b.toNat)

/-- The bytes that characters stand for; all of them have to be ASCII. -/
def read (cs : List Char) : Option Bytes :=
  if cs.all fun c => c.toNat < 0x80 then readFrom 0 0 0 cs else none

end Base64

end SchemaLint
