/-!
# Code points and texts

A JSON string may hold a surrogate that has no partner, written as an escape, and a lenient byte decoder
may let one through.  A `Char` cannot be such a code point, so the strings of a document are lists of
`CodePoint`: a scalar value, or one of the 2048 surrogates.  Everything that the linter prints is an ordinary
`String`; `Text.toString` is the one place where a lone surrogate is given up.
-/

namespace SchemaLint

/-- A code point is a Unicode scalar value or one of the surrogates, counted from the first of them. -/
inductive CodePoint
  | scalar (c : Char)
  | surrogate (offset : Fin 2048)
  deriving DecidableEq

namespace CodePoint

/-- The number of a code point, by which texts are ordered. -/
def val : CodePoint → Nat
  | scalar c => c.toNat
  | surrogate offset => 0xD800 + offset.val

/-- The code point of a number; numbers past the last code point have none. -/
def ofNat? (n : Nat) : Option CodePoint :=
  if h : n.isValidChar then some (scalar (Char.ofNatAux n h))
  else if h : 0xD800 ≤ n ∧ n < 0xE000 then some (surrogate ⟨n - 0xD800, by omega⟩)
  else none

/-- The character of a code point, unless it is a surrogate. -/
def char? : CodePoint → Option Char
  | scalar c => some c
  | surrogate _ => none

/-- The character that stands for a code point in printed text: a surrogate becomes U+FFFD. -/
def toChar : CodePoint → Char
  | scalar c => c
  | surrogate _ => '\uFFFD'

instance : Coe Char CodePoint := ⟨scalar⟩

end CodePoint

/-- A text is a sequence of code points, surrogates included. -/
abbrev Text := List CodePoint

namespace Text

def ofString (s : String) : Text :=
  s.toList.map CodePoint.scalar

/-- The printed form of a text, in which a lone surrogate is replaced by U+FFFD. -/
def toString (t : Text) : String :=
  String.ofList (t.map CodePoint.toChar)

instance : Coe String Text := ⟨ofString⟩

/-- Texts are ordered code point by code point, a proper beginning first. -/
def compare : Text → Text → Ordering
  | [], [] => .eq
  | [], _ :: _ => .lt
  | _ :: _, [] => .gt
  | a :: s, b :: t =>
    if a.val < b.val then .lt else if b.val < a.val then .gt else compare s t

/-- `s.le t` when `s` does not come after `t`. -/
def le (s t : Text) : Bool :=
  compare s t != .gt

/-- A text without its lone surrogates is the string it was made from. -/
theorem toString_ofString (s : String) : toString (ofString s) = s := by
  simp [toString, ofString, Function.comp_def, CodePoint.toChar]

end Text

end SchemaLint
