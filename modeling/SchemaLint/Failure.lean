import SchemaLint.Schema.Assertion
import SchemaLint.Schema.Keywords.Objects
import SchemaLint.Json.Display

/-!
# Failures

A violation says which keyword of which schema a part of the document violates.  A failure says it about a field: the
dotted path of that part, or of the member that is missing or should not be there.  Several violations can come
down to one failure, and one violation to several, so the names are worked out anew from the violated schema.
-/

namespace SchemaLint

open Json Schema

/-- One violated rule of one field. -/
structure Failure where
  field : Text
  rule : Text
  limit : Value
  /-- What the document holds; null if the field is unset. -/
  observed : Value
  description : String

namespace Failure

def stepText : PathPart → Text
  | .key k => k
  | .index i => toString i

/-- The field that stands for the whole document. -/
def rootField : Text := "(root)"

/-- The dotted text of a way; one without text is taken for the whole document. -/
def fieldOf (path : List Text) : Text :=
  match List.intercalate (Text.ofString ".") path with
  | [] => rootField
  | field => field

/-- The names that an array demands and an object lacks; a name that is no string is looked for as one that is not
there. -/
def missingNames (demanded : List Value) (members : Members) : Except Crash (List Text) := do
  let missing ← allWhere (fun name => do return !(← hasMember members name)) demanded
  return missing.map fun name =>
    match name with
    | .string s => s
    | other => other.display

/-- Whether a schema leaves a member's name alone: it is none of its properties and no pattern matches it. -/
def isExtra (schema : Members) (name : Text) : Except Crash Bool := do
  let named ←
    match Members.get? "properties" schema with
    | some v => holdsName v name
    | none => pure false
  if named then return false
  let patterns ←
    match Members.get? "patternProperties" schema with
    | some v => elements v
    | none => pure []
  return !(← anyWhere (fun pattern => searchesValue pattern name) patterns)

def descriptionOf (schema : Members) : String :=
  ((Members.get? "description" schema).map Value.display).getD ""

/-- The failures that a violation comes down to. -/
def ofViolation (v : Violation) : Except Crash (List Failure) :=
  let path := v.path.map stepText
  let schema := v.schema.members?.getD []
  let unset (path : List Text) : Failure :=
    { field := fieldOf path, rule := "required", limit := v.limit, observed := .null, description := "" }
  let whole : Failure :=
    { field := fieldOf path, rule := v.keyword.getD (Text.ofString "None"), limit := v.limit, observed := v.subject
      description := descriptionOf schema }
  if v.keyword = some (Text.ofString "required") then
    match v.limit, v.subject with
    | .array demanded, .object members => do
      return (← missingNames demanded members).map fun name => unset (path ++ [name])
    | .array _, _ => .ok []
    | _, _ => .ok [unset path]
  else if v.keyword = some (Text.ofString "additionalProperties") then
    match v.subject with
    | .object members => do
      let extra ← allWhere (fun (member : Text × Value) => isExtra schema member.1) members
      return extra.map fun member =>
        { field := fieldOf (path ++ [member.1]), rule := "additional", limit := v.limit, observed := member.2
          description := "" }
    | _ => .ok [whole]
  else .ok [whole]

def ofViolations : List Violation → Except Crash (List Failure)
  | [] => .ok []
  | v :: rest => do
    let first ← ofViolation v
    let others ← ofViolations rest
    return first ++ others

end Failure

/-- Failures by field and, within a field, by rule; fields and rules are in order of discovery. -/
abbrev Findings := List (Text × List (Text × Failure))

namespace Findings

/-- Add a failure to those of its field; the first one of a rule stays. -/
def addRule (f : Failure) : List (Text × Failure) → List (Text × Failure)
  | [] => [(f.rule, f)]
  | (rule, first) :: rest => if rule = f.rule then (rule, first) :: rest else (rule, first) :: addRule f rest

def add (f : Failure) : Findings → Findings
  | [] => [(f.field, [(f.rule, f)])]
  | (field, rules) :: rest =>
    if field = f.field then (field, addRule f rules) :: rest else (field, rules) :: add f rest

/-- Sort failures by field and rule. -/
def ofFailures (failures : List Failure) : Findings :=
  failures.foldl (fun findings f => findings.add f) []

def toList (findings : Findings) : List Failure :=
  findings.flatMap fun entry => entry.2.map Prod.snd

end Findings

end SchemaLint
