import SchemaLint.Text.CodePoint
import SchemaLint.Number.Basic

/-!
# JSON values

A value keeps what a later answer can show: whether a number was written as an integer, and the order of an
object's members.  Members are pairs in order of first appearance; a repeated key keeps its first place and
its last value, which is what `Members.put` says.
-/

namespace SchemaLint

namespace Json

/-- A JSON value. -/
inductive Value
  | null
  | bool (b : Bool)
  | int (n : Int)
  | float (x : Binary64)
  | string (s : Text)
  | array (items : List Value)
  | object (members : List (Text × Value))

abbrev Members := List (Text × Value)

namespace Members

def get? (key : Text) : Members → Option Value
  | [] => none
  | (k, v) :: rest => if k = key then some v else get? key rest

def has (key : Text) (members : Members) : Bool :=
  (get? key members).isSome

/-- Set a key: its value is replaced where it stands, a new key comes last. -/
def put (key : Text) (value : Value) : Members → Members
  | [] => [(key, value)]
  | (k, v) :: rest => if k = key then (k, value) :: rest else (k, v) :: put key value rest

/-- The members of a sequence of pairs, written one after the other. -/
def ofPairs (pairs : List (Text × Value)) : Members :=
  pairs.foldl (fun members pair => put pair.1 pair.2 members) []

def keys (members : Members) : List Text :=
  members.map Prod.fst

/-- Setting a key leaves every other key alone. -/
theorem get?_put_of_ne {key other : Text} (value : Value) (members : Members) (h : other ≠ key) :
    get? other (put key value members) = get? other members := by
  induction members with
  | nil => simp [put, get?, Ne.symm h]
  | cons member rest ih =>
    obtain ⟨k, v⟩ := member
    by_cases hk : k = key
    · subst hk
      simp [put, get?, Ne.symm h]
    · by_cases ho : k = other
      · subst ho
        simp [put, get?, h]
      · simp [put, get?, hk, ho, ih]

end Members

namespace Value

/-- The number of a value; a truth value is not a number. -/
def number? : Value → Option Number
  | int n => some (.int n)
  | float x => some (.float x)
  | _ => none

/-- The members of an object; other values have none. -/
def members? : Value → Option Members
  | object members => some members
  | _ => none

def get? (v : Value) (key : Text) : Option Value :=
  v.members?.bind (Members.get? key)

/-- Whether the value is an object with this key. -/
def has (v : Value) (key : Text) : Bool :=
  (v.get? key).isSome

def text? : Value → Option Text
  | string s => some s
  | _ => none

end Value

end Json

end SchemaLint
