import SchemaLint.Json.Value
import SchemaLint.Number.Shortest
import SchemaLint.Text.Quoted

/-!
# Values in messages

A value that is part of a message is spelled out for people: the truth values and the null value as words with a
capital, strings as they are when they stand alone and quoted when they stand inside an array or an object.
-/

namespace SchemaLint

namespace Json

namespace Display

mutual

def value : Value → List Char
  | .null => "None".toList
  | .bool b => (if b then "True" else "False").toList
  | .int n => (toString n).toList
  | .float x => x.text.toList
  | .string s => s.quoted
  | .array items => '[' :: itemsText items ++ [']']
  | .object members => '\x7b' :: membersText members ++ ['\x7d']

/-- Items with a comma and a blank between them. -/
def itemsText : List Value → List Char
  | [] => []
  | [v] => value v
  | v :: w :: rest => value v ++ ',' :: ' ' :: itemsText (w :: rest)

/-- Members with a comma and a blank between them. -/
def membersText : List (Text × Value) → List Char
  | [] => []
  | [(k, v)] => k.quoted ++ ':' :: ' ' :: value v
  | (k, v) :: m :: rest => k.quoted ++ ':' :: ' ' :: (value v ++ ',' :: ' ' :: membersText (m :: rest))

end

end Display

def Value.quoted (v : Value) : String :=
  String.ofList (Display.value v)

/-- A value as part of a message; a string stands as it is. -/
def Value.display : Value → String
  | .string s => Text.toString s
  | v => v.quoted

end Json

end SchemaLint
