import SchemaLint.Json.Value

/-!
# Key order

Sorting puts the members of every object into the order of their keys, code point by code point, and leaves the
order of arrays alone.  It is defined for every value; the linter refuses to sort a document that nests more deeply
than `sortDepth`.
-/

namespace SchemaLint

namespace Json

namespace Value

mutual

/-- Every object of the value with its members in the order of their keys. -/
def sorted : Value → Value
  | null => null
  | bool b => bool b
  | int n => int n
  | float x => float x
  | string s => string s
  | array items => array (sortedItems items)
  | object members => object ((sortedMembers members).mergeSort fun a b => Text.le a.1 b.1)

def sortedItems : List Value → List Value
  | [] => []
  | v :: rest => sorted v :: sortedItems rest

def sortedMembers : List (Text × Value) → List (Text × Value)
  | [] => []
  | (k, v) :: rest => (k, sorted v) :: sortedMembers rest

end

mutual

/-- How many arrays and objects lie inside one another. -/
def depth : Value → Nat
  | array items => depthItems items + 1
  | object members => depthMembers members + 1
  | _ => 0

def depthItems : List Value → Nat
  | [] => 0
  | v :: rest => max (depth v) (depthItems rest)

def depthMembers : List (Text × Value) → Nat
  | [] => 0
  | (_, v) :: rest => max (depth v) (depthMembers rest)

end

/-- The deepest value that the linter sorts. -/
def sortDepth : Nat := 480

/-- The sorted value, unless it nests too deeply. -/
def sorted? (v : Value) : Option Value :=
  if v.depth ≤ sortDepth then some v.sorted else none

end Value

end Json

end SchemaLint
