import SchemaLint.Text.CodePoint
import SchemaLint.Text.Printable

/-!
# Quoted text

A text inside a message is quoted so that it can be told apart from what surrounds it.  Single quotes are preferred;
double quotes are taken when the text holds a single quote and no double one.  The quote in use, backslashes and
everything that is not printable are escaped.
-/

namespace SchemaLint

namespace Quoted

/-- A number in at least `width` lower-case hexadecimal digits. -/
def hex (width n : Nat) : List Char :=
  let digits := Nat.toDigits 16 n
  List.replicate (width - digits.length) '0' ++ digits

/-- A code point between quotes of the given kind. -/
def codePoint (quote : Char) (c : CodePoint) : List Char :=
  let n := c.val
  if n = quote.toNat || n = 0x5C then ['\\', c.toChar]
  else if n = 0x09 then ['\\', 't']
  else if n = 0x0A then ['\\', 'n']
  else if n = 0x0D then ['\\', 'r']
  else if isPrintable n then [c.toChar]
  else if n < 0x100 then '\\' :: 'x' :: hex 2 n
  else if n < 0x10000 then '\\' :: 'u' :: hex 4 n
  else '\\' :: 'U' :: hex 8 n

def quote (t : Text) : Char :=
  if t.contains '\'' && !t.contains '"' then '"' else '\''

end Quoted

def Text.quoted (t : Text) : List Char :=
  let q := Quoted.quote t
  q :: t.flatMap (Quoted.codePoint q) ++ [q]

def quoted (s : String) : String :=
  String.ofList (Text.quoted s)

end SchemaLint
