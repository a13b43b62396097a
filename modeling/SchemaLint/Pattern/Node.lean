import SchemaLint.Text.CodePoint
import SchemaLint.Text.Lowercase
import SchemaLint.Text.Word
import SchemaLint.Text.Blank

/-!
# Patterns

A pattern is a tree whose leaves read one code point or test a place between two.  What a leaf accepts can depend on
flags that are switched on for a part of a pattern; the reader of patterns resolves them, so a leaf carries the flags
that hold for it and a tree means the same wherever it stands.
-/

namespace SchemaLint

namespace Pattern

/-- The switches of a part of a pattern. -/
structure Flags where
  ignoreCase : Bool
  multiline : Bool
  dotAll : Bool
  /-- Blanks and comments are skipped when the pattern is read. -/
  verbose : Bool
  /-- The classes and letters are those of ASCII. -/
  ascii : Bool
  /-- The classes and letters were asked to be those of all scripts. -/
  unicode : Bool
  /-- Nothing may be repeated. -/
  unrepeated : Bool
  deriving DecidableEq

def Flags.none : Flags :=
  { ignoreCase := false, multiline := false, dotAll := false, verbose := false, ascii := false, unicode := false
    unrepeated := false }

/-- The named classes; each has a negation. -/
inductive Category
  | digit
  | blank
  | word
  deriving DecidableEq

/-- A member of a bracketed class. -/
inductive ClassItem
  | range (low high : Nat)
  | category (negated : Bool) (c : Category)
  deriving DecidableEq

/-- A test of a place between two code points. -/
inductive Anchor
  | lineStart
  | lineEnd
  | textStart
  | textEnd
  | boundary (negated : Bool)
  deriving DecidableEq

/-- How a repetition chooses among its possible lengths. -/
inductive Greed
  | greedy
  | lazy
  | possessive
  deriving DecidableEq

/-- A pattern. -/
inductive Node
  | empty
  | point (flags : Flags) (n : Nat)
  | any (flags : Flags)
  | oneOf (flags : Flags) (negated : Bool) (items : List ClassItem)
  | anchor (flags : Flags) (a : Anchor)
  | seq (first second : Node)
  | alt (first second : Node)
  | repetition (greed : Greed) (low : Nat) (high : Option Nat) (body : Node)
  | group (index : Nat) (body : Node)
  | atomic (body : Node)
  | backReference (flags : Flags) (index : Nat)
  | ahead (negated : Bool) (body : Node)
  | behind (negated : Bool) (width : Nat) (body : Node)
  | conditional (index : Nat) (yes no : Node)
  deriving DecidableEq

def Node.repeats : Node → Bool
  | .repetition _ _ _ _ => true
  | .seq first second | .alt first second | .conditional _ first second => first.repeats || second.repeats
  | .group _ body | .atomic body | .ahead _ body | .behind _ _ body => body.repeats
  | _ => false

/-! ## Widths -/

/-- The least and the greatest number of code points that a pattern reads; none where there is no greatest. -/
structure Width where
  low : Nat
  high : Option Nat
  deriving DecidableEq

namespace Width

/-- Reads nothing. -/
def zero : Width := ⟨0, some 0⟩

/-- One part behind the other. -/
def add (v w : Width) : Width :=
  ⟨v.low + w.low, v.high.bind fun a => w.high.map fun b => a + b⟩

/-- One part or the other. -/
def join (v w : Width) : Width :=
  ⟨min v.low w.low, v.high.bind fun a => w.high.map fun b => max a b⟩

/-- A part repeated. -/
def times (low : Nat) (high : Option Nat) (w : Width) : Width :=
  ⟨w.low * low,
    match w.high, high with
    | some 0, _ => some 0
    | some a, some b => some (a * b)
    | _, some 0 => some 0
    | _, _ => none⟩

/-- The number of code points, if there is only one. -/
def fixed? (w : Width) : Option Nat :=
  if w.high = some w.low then some w.low else none

end Width

/-- The width of a pattern, given those of the groups it refers to. -/
def Node.width (groups : Nat → Width) : Node → Width
  | empty | anchor _ _ | ahead _ _ | behind _ _ _ => .zero
  | point _ _ | any _ | oneOf _ _ _ => ⟨1, some 1⟩
  | seq first second => (first.width groups).add (second.width groups)
  | alt first second => (first.width groups).join (second.width groups)
  | repetition _ low high body => (body.width groups).times low high
  | group _ body | atomic body => body.width groups
  | backReference _ index => groups index
  | conditional _ yes no => (yes.width groups).join (no.width groups)

/-! ## What leaves accept -/

def asciiLowercase (n : Nat) : Nat :=
  if 0x41 ≤ n && n ≤ 0x5A then n + 32 else n

/-- The form in which code points are compared when case is ignored. -/
def Flags.lower (flags : Flags) (n : Nat) : Nat :=
  if !flags.ignoreCase then n else if flags.ascii then asciiLowercase n else lowercase n

/-- The code points that count as the given one. -/
def Flags.variants (flags : Flags) (n : Nat) : List Nat :=
  if flags.ignoreCase then
    if flags.ascii then
      let low := asciiLowercase n
      if 0x61 ≤ low && low ≤ 0x7A then [low, low - 32] else [n]
    else caseVariants (lowercase n)
  else [n]

/-- Whether two code points count as the same. -/
def Flags.alike (flags : Flags) (m n : Nat) : Bool :=
  m = n || (flags.ignoreCase && (flags.variants m).contains n)

def Category.contains (ascii : Bool) (c : Category) (n : Nat) : Bool :=
  if ascii && 0x80 ≤ n then false
  else
    match c with
    | digit => isDecimalDigit n
    | blank => if ascii then n = 0x20 || (0x09 ≤ n && n ≤ 0x0D) else isBlankPoint n
    | word => isWordPoint n

/-- Whether a member of a class holds a code point. -/
def ClassItem.contains (flags : Flags) (n : Nat) : ClassItem → Bool
  | range low high => (flags.variants n).any fun v => low ≤ v && v ≤ high
  | category negated c => c.contains flags.ascii n != negated

/-- Whether a code point counts as part of a word. -/
def Flags.isWord (flags : Flags) (n : Nat) : Bool :=
  Category.word.contains flags.ascii n

end Pattern

end SchemaLint
