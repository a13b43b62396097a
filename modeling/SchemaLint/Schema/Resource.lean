import SchemaLint.Schema.Dialect
import SchemaLint.Uri.Percent
import SchemaLint.Number.Spelled
import SchemaLint.LintError

/-!
# Schema resources

A schema and the subschemas that name themselves are resources, which references reach by name, by anchor or by
a pointer from one of them.  Subschemas are looked for only where the draft allows a schema to stand.  A place that
holds something else there was never checked, and looking into it is a crash, not a missing resource.
-/

namespace SchemaLint

namespace Schema

open Json

/-- Where subschemas stand in the schemas of a draft. -/
structure Places where
  value : List String
  list : List String
  map : List String

/-- The places of a draft, apart from those whose value can have more than one shape. -/
def Places.ofDialect : Dialect → Places
  | .draft3 =>
    { value := [], list := ["extends"], map := ["definitions", "patternProperties", "properties"] }
  | .draft4 =>
    { value := ["not"], list := ["allOf", "anyOf", "oneOf"]
      map := ["definitions", "patternProperties", "properties"] }
  | .draft6 =>
    { value := ["additionalItems", "additionalProperties", "contains", "not", "propertyNames"]
      list := ["allOf", "anyOf", "oneOf"]
      map := ["definitions", "patternProperties", "properties"] }
  | .draft7 =>
    { value := ["additionalItems", "additionalProperties", "contains", "else", "if", "not", "propertyNames", "then"]
      list := ["allOf", "anyOf", "oneOf"]
      map := ["definitions", "patternProperties", "properties"] }
  | .draft2019 =>
    { value :=
        ["additionalItems", "additionalProperties", "contains", "contentSchema", "else", "if", "not", "propertyNames",
          "then", "unevaluatedItems", "unevaluatedProperties"]
      list := ["allOf", "anyOf", "oneOf"]
      map := ["$defs", "definitions", "dependentSchemas", "patternProperties", "properties"] }
  | .draft2020 =>
    { value :=
        ["additionalProperties", "contains", "contentSchema", "else", "if", "items", "not", "propertyNames", "then",
          "unevaluatedItems", "unevaluatedProperties"]
      list := ["allOf", "anyOf", "oneOf", "prefixItems"]
      map := ["$defs", "definitions", "dependentSchemas", "patternProperties", "properties"] }

/-- A schema together with the draft that it is read in. -/
structure Resource where
  dialect : Dialect
  contents : Value

namespace Resource

/-- A name without the empty fragments at its end. -/
def dropHashes (cs : List Char) : List Char :=
  (cs.reverse.dropWhile (· = '#')).reverse

def nameChars : Value → Except Crash (List Char)
  | .string s => .ok (Text.toString s).toList
  | _ => .error .attribute

/-- The name that a schema gives itself; a reference beside it hides it in the older drafts. -/
def id? (r : Resource) : Except Crash (Option (List Char)) :=
  match r.contents with
  | .object members =>
    let named (key : String) (fragments : Bool) : Except Crash (Option (List Char)) :=
      match Members.get? key members with
      | none | some .null => .ok none
      | some v => do
        let name ← nameChars v
        return if !fragments && name.head? = some '#' then none else some (dropHashes name)
    match r.dialect with
    | .draft3 | .draft4 => if Members.has "$ref" members then .ok none else named "id" false
    | .draft6 | .draft7 => if Members.has "$ref" members then .ok none else named "$id" false
    | .draft2019 | .draft2020 => named "$id" true
  | .bool _ => if r.dialect.oldStyle then .error .type else .ok none
  | .string _ | .array _ => .error .attribute
  | _ => if r.dialect.referenceHides then .error .type else .error .attribute

/-- A subschema with its draft: its own if it names one that is known, else that of the schema around it. -/
def child (d : Dialect) (contents : Value) : Except Crash Resource :=
  match contents.get? "$schema" with
  | none | some .null => .ok ⟨d, contents⟩
  | some v => do
    let name ← nameChars v
    return ⟨(Dialect.ofId? (dropHashes name)).getD d, contents⟩

/-- The items that a list of schemas offers. -/
def listed : Value → Except Crash (List Value)
  | .array items => .ok items
  | .object members => .ok (members.map fun m => .string m.1)
  | .string s => .ok (s.map fun c => .string [c])
  | _ => .error .type

/-- The values of a map of schemas. -/
def mapped : Value → Except Crash (List Value)
  | .object members => .ok (members.map Prod.snd)
  | _ => .error .attribute

/-- The schemas under `items`, which is a schema or a list of them. -/
def itemSchemas (members : Members) : List Value :=
  match Members.get? "items" members with
  | none | some .null => []
  | some (.array items) => items
  | some (.string s) => s.map fun c => .string [c]
  | some v => [v]

/-- The schemas under `dependencies`: all values if the first of them is a schema, else none. -/
def dependencySchemas (members : Members) : Except Crash (List Value) :=
  match Members.get? "dependencies" members with
  | none | some .null => .ok []
  | some v => do
    match ← mapped v with
    | .object first :: rest => return .object first :: rest
    | _ => return []

/-- The schema under a keyword that may also be a truth value. -/
def schemaOnly (members : Members) (key : String) : List Value :=
  match Members.get? key members with
  | some (.object inner) => [.object inner]
  | _ => []

def subschemas (r : Resource) : Except Crash (List Value) :=
  match r.contents with
  | .bool _ => .ok []
  | .object members => do
    let places := Places.ofDialect r.dialect
    let present (keys : List String) : List Value := keys.filterMap fun (key : String) => Members.get? key members
    let lists ← (present places.list).mapM listed
    let maps ← (present places.map).mapM mapped
    let common := present places.value ++ lists.flatten ++ maps.flatten
    match r.dialect with
    | .draft3 | .draft4 =>
      return common ++ schemaOnly members "additionalItems" ++ schemaOnly members "additionalProperties" ++
        itemSchemas members ++ (← dependencySchemas members)
    | .draft6 | .draft7 => return common ++ itemSchemas members ++ (← dependencySchemas members)
    | .draft2019 => return common ++ itemSchemas members
    | .draft2020 => return common
  | _ => .error .type

/-- An anchor by which a schema can be reached; a dynamic one yields to anchors of its name further out. -/
structure Anchor where
  name : List Char
  dynamic : Bool

def anchors (r : Resource) : Except Crash (List Anchor) :=
  match r.contents with
  | .object members =>
    let declared (key : String) (dynamic : Bool) : Except Crash (List Anchor) :=
      match Members.get? key members with
      | none | some .null => .ok []
      | some v => do return [⟨← nameChars v, dynamic⟩]
    let fragment (key : String) : Except Crash (List Anchor) :=
      match Members.get? key members with
      | none => .ok []
      | some v => do
        match ← nameChars v with
        | '#' :: name => return [⟨name, false⟩]
        | _ => return []
    match r.dialect with
    | .draft3 | .draft4 => fragment "id"
    | .draft6 | .draft7 => fragment "$id"
    | .draft2019 => declared "$anchor" false
    | .draft2020 => do return (← declared "$anchor" false) ++ (← declared "$dynamicAnchor" true)
  | _ => .ok []

/-- One step of a pointer: a place in a list, or a key. -/
inductive Segment
  | index (n : Int)
  | key (k : String)
  deriving DecidableEq

/-- Whether some steps from one schema, the last of which led to `contents`, lead to another schema. -/
def leadsToSchema (d : Dialect) (contents : Value) : List Segment → Bool
  | [] => true
  | s :: rest =>
    let places := Places.ofDialect d
    let isKey (keys : List String) : Bool :=
      match s with
      | .key k => keys.contains k
      | .index _ => false
    let flexible : List String :=
      match d with
      | .draft2020 => []
      | .draft2019 => ["items"]
      | _ => ["items", "dependencies"]
    let values :=
      if d.oldStyle then places.value ++ ["additionalItems", "additionalProperties"] else places.value
    if isKey flexible && contents.members?.isSome then true
    else if isKey values then leadsToSchema d contents rest
    else if isKey (places.list ++ places.map) then
      match rest with
      | [] => false
      | _ :: rest => leadsToSchema d contents rest
    else false

end Resource

end Schema

end SchemaLint
