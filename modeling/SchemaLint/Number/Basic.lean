import SchemaLint.Number.Binary64

/-!
# Numbers of a document

A number is an integer of any size or a binary floating-point number.  The two kinds are compared by value and
exactly: neither is rounded to the other's kind first.  A number that is no number compares as nothing.
-/

namespace SchemaLint

/-- A number of a document keeps the kind in which it was written. -/
inductive Number
  | int (n : Int)
  | float (x : Binary64)
  deriving DecidableEq

namespace Number

/-- Where a number lies on the extended real line. -/
inductive Place
  | below
  | at (num : Int) (den : Nat)
  | above

/-- The place of a number; the one that is no number has none. -/
def place? : Number → Option Place
  | int n => some (.at n 1)
  | float .nan => none
  | float (.infinite negative) => some (if negative then .below else .above)
  | float x => x.toRatio?.map fun (num, den) => .at num den

/-- The order of two places. -/
def Place.compare : Place → Place → Ordering
  | below, below => .eq
  | below, _ => .lt
  | _, below => .gt
  | above, above => .eq
  | above, _ => .gt
  | _, above => .lt
  | .at a b, .at c d => Ord.compare (a * (d : Int)) (c * (b : Int))

/-- The order of two numbers, if they have one. -/
def compare? (x y : Number) : Option Ordering :=
  match x.place?, y.place? with
  | some p, some q => some (p.compare q)
  | _, _ => none

def lt (x y : Number) : Bool :=
  compare? x y == some .lt

def le (x y : Number) : Bool :=
  compare? x y == some .lt || compare? x y == some .eq

def same (x y : Number) : Bool :=
  compare? x y == some .eq

/-- Whether a number is whole, however it is written. -/
def isWhole : Number → Bool
  | int _ => true
  | float x => x.isWhole

def isZero : Number → Bool
  | int n => n = 0
  | float x => x.isZero

end Number

end SchemaLint
