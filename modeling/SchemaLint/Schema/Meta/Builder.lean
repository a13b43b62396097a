import SchemaLint.Schema.Dialect

/-!
# Building schemas

The schemas for schemas are values written out in full.  They refer to themselves and to one another by name.
-/

namespace SchemaLint

namespace Schema

namespace Meta

open Json

def obj (members : List (String × Value)) : Value :=
  .object (members.map fun (key, value) => (Text.ofString key, value))

def arr (items : List Value) : Value :=
  .array items

def str (s : String) : Value :=
  .string (Text.ofString s)

def num (n : Int) : Value :=
  .int n

def flag (b : Bool) : Value :=
  .bool b

/-- The text of a name, with an empty fragment behind it if asked for. -/
def name (u : Uri) (fragment : Bool) : Text :=
  (u.render ++ if fragment then ['#'] else []).map CodePoint.scalar

/-- The string of a name. -/
def named (u : Uri) (fragment : Bool) : Value :=
  .string (name u fragment)

end Meta

end Schema

end SchemaLint
