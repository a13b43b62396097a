/-!
# Ranges of code points

The character properties that the linter needs are tables of inclusive ranges in increasing order.
-/

namespace SchemaLint

/-- A set of code points as inclusive ranges. -/
abbrev Ranges := List (Nat × Nat)

/-- Whether a number lies in one of the ranges. -/
def Ranges.contains (ranges : Ranges) (n : Nat) : Bool :=
  ranges.any fun range => range.1 ≤ n && n ≤ range.2

end SchemaLint
