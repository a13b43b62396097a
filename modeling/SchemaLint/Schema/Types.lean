import SchemaLint.Schema.Dialect
import SchemaLint.LintError

/-!
# Types and arithmetic of schemas

The simple types, and whether a number is a multiple of another.
-/

namespace SchemaLint

namespace Schema

open Json

/-- The simple types by name. -/
inductive SimpleType
  | any
  | array
  | boolean
  | integer
  | null
  | number
  | object
  | string
  deriving DecidableEq

namespace SimpleType

/-- The type of a name; only the oldest draft knows the type of everything. -/
def ofName? (d : Dialect) (name : Text) : Option SimpleType :=
  if name = "array" then some array
  else if name = "boolean" then some boolean
  else if name = "integer" then some integer
  else if name = "null" then some null
  else if name = "number" then some number
  else if name = "object" then some object
  else if name = "string" then some string
  else if name = "any" && d = .draft3 then some any
  else none

/-- Whether a value is of a type.  From draft 6 on a whole number is an integer however it is written. -/
def holds (d : Dialect) : SimpleType → Value → Bool
  | any, _ => true
  | array, .array _ => true
  | boolean, .bool _ => true
  | integer, .int _ => true
  | integer, .float x => !d.oldStyle && x.isWhole
  | null, .null => true
  | number, .int _ => true
  | number, .float _ => true
  | object, .object _ => true
  | string, .string _ => true
  | _, _ => false

end SimpleType

/-! ## Multiples -/

/-- A number as a binary one; an integer past the largest is too large. -/
def toBinary (x : Number) : Except Crash Binary64 :=
  match x with
  | .float x => .ok x
  | .int n =>
    match Binary64.ofInt n with
    | .infinite _ => .error .overflow
    | x => .ok x

/-- Whether a quotient of integers is whole; the divisor is not zero. -/
def wholeQuotient (a b : Int × Nat) : Bool :=
  (a.1 * b.2) % (b.1 * a.2) = 0

/-- The quotient of two binary numbers; one of them may be no finite number. -/
def quotient (x y : Binary64) : Except Crash Binary64 :=
  if y.isZero then .error .divisionByZero
  else
    match x, y with
    | .nan, _ | _, .nan => .ok .nan
    | .infinite _, .infinite _ => .ok .nan
    | .infinite n, .finite m _ _ => .ok (.infinite (n != m))
    | .finite n _ _, .infinite m => .ok (.zero (n != m))
    | .finite n s e, .finite m t f =>
      let shift := e - f
      let num := s * Nat.pow 2 (max shift 0).toNat
      let den := t * Nat.pow 2 (max (-shift) 0).toNat
      .ok (.ofRatio (n != m) num den)

/--
Whether a number fails to be a multiple of a divisor.  A binary divisor divides with rounding, and the quotient has to be
whole; a quotient past the largest number is checked exactly.  An integer divisor leaves an exact remainder, but a binary
number is divided by the binary number nearest to it.
-/
def failsMultiple (x divisor : Number) : Except Crash Bool :=
  match divisor with
  | .float y => do
    match ← quotient (← toBinary x) y with
    | .nan => throw .value
    | .infinite _ =>
      match (match x with | .int n => some (n, 1) | .float x => x.toRatio?), y.toRatio? with
      | some a, some b => return !wholeQuotient a b
      | _, _ => throw .overflow
    | q => return !q.isWhole
  | .int n =>
    match x with
    | .int m => if n = 0 then .error .divisionByZero else .ok (m % n != 0)
    | .float x => do
      let y ← toBinary divisor
      if y.isZero then throw .divisionByZero
      match x.toRatio?, y.toRatio? with
      | some a, some b => return !wholeQuotient a b
      | _, _ => return true

end Schema

end SchemaLint
