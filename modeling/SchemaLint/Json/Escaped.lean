import SchemaLint.Json.Value
import SchemaLint.Number.Shortest

/-!
# ASCII JSON text

A value is written on one line, with a blank behind every comma and colon, and in printable ASCII alone: a code point
outside of it is written as an escape, one past U+FFFF as the escapes of a pair of units.  Floats that are no finite
numbers have names that strict readers refuse.
-/

namespace SchemaLint

namespace Json

namespace Escaped

/-- The escape of one unit: four lower-case hexadecimal digits. -/
def unit (n : Nat) : List Char :=
  '\\' :: 'u' :: [n / 4096 % 16, n / 256 % 16, n / 16 % 16, n % 16].map Nat.digitChar

def codePoint (c : CodePoint) : List Char :=
  let n := c.val
  if n = 0x22 then ['\\', '"']
  else if n = 0x5C then ['\\', '\\']
  else if n = 0x0A then ['\\', 'n']
  else if n = 0x0D then ['\\', 'r']
  else if n = 0x09 then ['\\', 't']
  else if n = 0x0C then ['\\', 'f']
  else if n = 0x08 then ['\\', 'b']
  else if 0x20 ≤ n && n ≤ 0x7E then [c.toChar]
  else if n < 0x10000 then unit n
  else unit (0xD800 + (n - 0x10000) / 0x400) ++ unit (0xDC00 + (n - 0x10000) % 0x400)

def literal (t : Text) : List Char :=
  '"' :: t.flatMap codePoint ++ ['"']

/-- A float, with the names that JSON lacks. -/
def float : Binary64 → List Char
  | .nan => "NaN".toList
  | .infinite negative => (if negative then "-Infinity" else "Infinity").toList
  | x => x.text.toList

mutual

def value : Value → List Char
  | .null => "null".toList
  | .bool b => (if b then "true" else "false").toList
  | .int n => (toString n).toList
  | .float x => float x
  | .string s => literal s
  | .array items => '[' :: itemsText items ++ [']']
  | .object members => '\x7b' :: membersText members ++ ['\x7d']

/-- The items of an array, a comma and a blank between them. -/
def itemsText : List Value → List Char
  | [] => []
  | [v] => value v
  | v :: w :: rest => value v ++ ',' :: ' ' :: itemsText (w :: rest)

/-- The members of an object, a comma and a blank between them. -/
def membersText : List (Text × Value) → List Char
  | [] => []
  | [(k, v)] => literal k ++ ':' :: ' ' :: value v
  | (k, v) :: m :: rest => literal k ++ ':' :: ' ' :: (value v ++ ',' :: ' ' :: membersText (m :: rest))

end

end Escaped

/-- The value as one line of ASCII. -/
def Value.escaped (v : Value) : String :=
  String.ofList (Escaped.value v)

end Json

end SchemaLint
