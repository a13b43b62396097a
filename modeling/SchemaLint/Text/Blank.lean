import SchemaLint.Text.Range

/-!
# Whitespace and line boundaries

Whitespace here is the set that is stripped from the lines of an ignore file and that a pattern's blank class matches.
It is wider than the whitespace of JSON text.
-/

namespace SchemaLint

namespace Blank

def ranges : Ranges :=
  [(0x9, 0xD), (0x1C, 0x20), (0x85, 0x85), (0xA0, 0xA0), (0x1680, 0x1680), (0x2000, 0x200A), (0x2028, 0x2029),
    (0x202F, 0x202F), (0x205F, 0x205F), (0x3000, 0x3000)]

end Blank

def isBlankPoint (n : Nat) : Bool :=
  Blank.ranges.contains n

def isBlank (c : Char) : Bool :=
  isBlankPoint c.toNat

/-- Without the whitespace at both ends. -/
def strip (cs : List Char) : List Char :=
  (((cs.dropWhile isBlank).reverse).dropWhile isBlank).reverse

end SchemaLint
