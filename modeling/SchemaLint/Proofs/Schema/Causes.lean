import SchemaLint.Proofs.Schema.Looking

/-!
# Why evaluations crash

Evaluating a schema crashes for a reason that stands in a schema that is applied on the way: one of its keywords says
what it has no use for, a pattern cannot be read, a reference leads nowhere, a division of numbers has no answer, or the
schemas within each other are too many.  Here stands which schemas an evaluation may come to, and what may be wrong with
each of them.
-/

namespace SchemaLint
namespace Schema

open Json

/-! ## Where an evaluation comes to -/

/-- A schema says a value under one of some keywords. -/
def Says (schema : Members) (names : List String) (v : Value) : Prop :=
  exists name, name ∈ names ∧ (Text.ofString name, v) ∈ schema

/-- The keywords under which a schema stands. -/
def schemaNames : List String :=
  ["additionalItems", "additionalProperties", "contains", "else", "extends", "if", "items", "not", "propertyNames",
    "then", "unevaluatedItems", "unevaluatedProperties"]

/-- The keywords under which schemas are listed. -/
def schemaListNames : List String :=
  ["allOf", "anyOf", "extends", "items", "oneOf", "prefixItems", "type"]

/-- The keywords under which names are mapped to schemas. -/
def schemaMapNames : List String :=
  ["dependencies", "dependentSchemas", "patternProperties", "properties"]

/-- The schemas that a schema may apply as its own parts.  A type that is disallowed is applied as the schema of that
type. -/
inductive Part (schema : Members) : Value -> Prop
  | whole {v : Value} (said : Says schema schemaNames v) : Part schema v
  | listed {v part : Value} {parts : List Value} (said : Says schema schemaListNames v) (lists : elements v = .ok parts)
    (member : part ∈ parts) : Part schema part
  | mapped {entries : Members} {entry : Text × Value} (said : Says schema schemaMapNames (.object entries))
    (member : entry ∈ entries) : Part schema entry.2
  | disallowed {v part : Value} {parts : List Value} (said : Says schema ["disallow"] v) (lists : listOf v = .ok parts)
    (member : part ∈ parts) : Part schema (.object [(Text.ofString "type", .array [part])])

/-- A schema that stands at a position refers to a target. -/
inductive Refers (rules : Rules) (p : Position) (schema : Members) : Target -> Prop
  | reference {ref : Text} {target : Target} (said : Says schema ["$ref", "$dynamicRef"] (.string ref))
    (found : Target.ofReference rules.retrieval p.scope (Text.toString ref).toList = .ok target) :
    Refers rules p schema target
  | recursion {v : Value} {target : Target} (said : Says schema ["$recursiveRef"] v)
    (found : Target.ofRecursion rules.retrieval p.scope = .ok target) : Refers rules p schema target

/-- A part of a schema stands where the schema does, or a step further inside, in the same draft or in its own. -/
structure Onward (p : Position) (part : Value) (p' : Position) : Prop where
  scope : p'.scope = p.scope ∨ p.scope.inside ⟨p.dialect, part⟩ = .ok p'.scope
  dialect : p'.dialect = p.dialect ∨ dialectOf p.dialect part = .ok p'.dialect

/-- What a schema may apply its parts to: the value, its items and members, and the names of its members. -/
inductive Offers (subject : Value) : Value -> Prop
  | whole : Offers subject subject
  | item {items : List Value} {item : Value} (array : subject = .array items) (member : item ∈ items) :
    Offers subject item
  | member {members : Members} {m : Text × Value} (object : subject = .object members) (member : m ∈ members) :
    Offers subject m.2
  | name {members : Members} {m : Text × Value} (object : subject = .object members) (member : m ∈ members) :
    Offers subject (.string m.1)

/-- An evaluation comes to a schema, at a position, for a value, within a number of others. -/
inductive Comes (rules : Rules) (d : Dialect) (schema document : Value) : Nat -> Position -> Value -> Value -> Prop
  | top {scope : Scope} (starts : Scope.ofSchema d schema = .ok scope) :
    Comes rules d schema document 0 ⟨d, scope⟩ schema document
  | part {n : Nat} {p p' : Position} {members : Members} {part subject subject' : Value}
    (here : Comes rules d schema document n p (.object members) subject) (isPart : Part members part)
    (onward : Onward p part p') (offers : Offers subject subject') :
    Comes rules d schema document (n + 1) p' part subject'
  | target {n : Nat} {p : Position} {members : Members} {subject : Value} {target : Target} {inner : Dialect}
    (here : Comes rules d schema document n p (.object members) subject) (refers : Refers rules p members target)
    (dialect : dialectOf p.dialect target.schema = .ok inner) :
    Comes rules d schema document (n + 1) ⟨inner, target.scope⟩ target.schema subject

/-! ## What may be wrong with a schema -/

/-- The keywords that say numbers. -/
def numberNames : List String :=
  ["divisibleBy", "exclusiveMaximum", "exclusiveMinimum", "maxContains", "maxItems", "maxLength", "maxProperties",
    "maximum", "minContains", "minItems", "minLength", "minProperties", "minimum", "multipleOf"]

/-- What is not of the shape that a keyword needs: no list, no map, no number. -/
inductive Misshapen (schema : Members) : Crash -> Prop
  | list {v : Value} {c : Crash}
    (said : Says schema ("disallow" :: "enum" :: "patternProperties" :: "required" :: schemaListNames) v)
    (unlisted : elements v = .error c) : Misshapen schema c
  | map {v : Value} {c : Crash} (said : Says schema ("dependentRequired" :: schemaMapNames) v)
    (unmapped : entries v = .error c) : Misshapen schema c
  | innerList {entries : Members} {entry : Text × Value} {c : Crash}
    (said : Says schema ["dependencies", "dependentRequired"] (.object entries)) (member : entry ∈ entries)
    (unlisted : elements entry.2 = .error c) : Misshapen schema c
  | innerMap {inner : Members} {entry : Text × Value} {c : Crash} (said : Says schema ["properties"] (.object inner))
    (member : entry ∈ inner) (unmapped : entries entry.2 = .error c) : Misshapen schema c
  | number {v : Value} (said : Says schema numberNames v) (unranked : v.rank? = none) : Misshapen schema .type
  | reference {v : Value} {c : Crash} (said : Says schema ["$ref", "$dynamicRef"] v)
    (untold : Assertion.referenceText v = .error c) : Misshapen schema c
  | names {v : Value} {name : Text} {c : Crash} (said : Says schema ["properties"] v)
    (nameless : holdsName v name = .error c) : Misshapen schema c

/-- What cannot be read as a pattern. -/
inductive Illegible (schema : Members) : Crash -> Prop
  | one {v : Value} {s : Text} {c : Crash} (said : Says schema ["pattern"] v) (unread : searchesValue v s = .error c) :
    Illegible schema c
  | listed {v pattern : Value} {patterns : List Value} {s : Text} {c : Crash}
    (said : Says schema ["patternProperties"] v) (lists : elements v = .ok patterns) (member : pattern ∈ patterns)
    (unread : searchesValue pattern s = .error c) : Illegible schema c
  | joined {pattern s : Text} {c : Crash} (joins : Assertion.joinedPatterns schema = .ok pattern)
    (unread : searches pattern s = .error c) : Illegible schema c

/-- References that lead nowhere. -/
inductive Lost (rules : Rules) (p : Position) (schema : Members) : Crash -> Prop
  | reference {ref : Text} {c : Crash} (said : Says schema ["$ref", "$dynamicRef"] (.string ref))
    (lost : Target.ofReference rules.retrieval p.scope (Text.toString ref).toList = .error c) : Lost rules p schema c
  /-- A reference that is applied. -/
  | applied {ref : Text} {c : Crash} (said : Says schema ["$ref", "$dynamicRef"] (.string ref))
    (lost : Target.ofReference rules.retrieval p.scope (Text.toString ref).toList = .error c) :
    Lost rules p schema (Assertion.deadEndAsReference c)
  | recursion {v : Value} {c : Crash} (said : Says schema ["$recursiveRef"] v)
    (lost : Target.ofRecursion rules.retrieval p.scope = .error c) : Lost rules p schema c

/-- A schema demands that an object has a member of a name. -/
inductive Demands (schema : Members) : Value -> Prop
  | always {v name : Value} {names : List Value} (said : Says schema ["required"] v) (lists : elements v = .ok names)
    (member : name ∈ names) : Demands schema name
  | beside {entries : Members} {entry : Text × Value} {name : Value} {names : List Value}
    (said : Says schema ["dependencies", "dependentRequired"] (.object entries)) (inside : entry ∈ entries)
    (lists : elements entry.2 = .ok names) (member : name ∈ names) : Demands schema name

/-- What is wrong with a schema that stands at a position and is applied to a value. -/
inductive Unfit (rules : Rules) (p : Position) (schema : Members) (subject : Value) : Crash -> Prop
  | misshapen {c : Crash} (misshapen : Misshapen schema c) : Unfit rules p schema subject c
  | illegible {c : Crash} (illegible : Illegible schema c) : Unfit rules p schema subject c
  | lost {c : Crash} (lost : Lost rules p schema c) : Unfit rules p schema subject c
  /-- A type that the draft does not know. -/
  | type {v type : Value} {types : List Value} {c : Crash} (said : Says schema ["type"] v)
    (lists : listOf v = .ok types) (member : type ∈ types)
    (unknown : Assertion.isOfType p.dialect subject type = .error c) : Unfit rules p schema subject c
  /-- A name that nothing can have. -/
  | name {name : Value} {members : Members} {c : Crash} (demands : Demands schema name)
    (object : subject = .object members) (impossible : hasMember members name = .error c) :
    Unfit rules p schema subject c
  /-- A number that cannot be divided, or not by this one. -/
  | multiple {v : Value} {x divisor : Number} {c : Crash} (said : Says schema ["divisibleBy", "multipleOf"] v)
    (ranked : v.rank? = some divisor) (isNumber : subject.number? = some x)
    (undivided : failsMultiple x divisor = .error c) : Unfit rules p schema subject c
  /-- A text that should be a pattern but is beyond what patterns can be. -/
  | format {s : Text} {fault : Pattern.Fault} (asserted : rules.formats = true)
    (said : Says schema ["format"] (.string "regex")) (isText : subject = .string s)
    (unread : Pattern.read s = .error fault) (beyond : fault ≠ .malformed) :
    Unfit rules p schema subject (patternCrash fault)
  /-- A part that gives itself a name which is none. -/
  | scope {part : Value} {c : Crash} (isPart : Part schema part)
    (outside : p.scope.inside ⟨p.dialect, part⟩ = .error c) : Unfit rules p schema subject c
  /-- A part that gives itself a draft which is none. -/
  | dialect {part : Value} {c : Crash} (isPart : Part schema part) (undrafted : dialectOf p.dialect part = .error c) :
    Unfit rules p schema subject c
  | targetDialect {target : Target} {c : Crash} (refers : Refers rules p schema target)
    (undrafted : dialectOf p.dialect target.schema = .error c) : Unfit rules p schema subject c

/-- What evaluating a schema for a document may crash for. -/
inductive Blame (rules : Rules) (d : Dialect) (schema document : Value) : Crash -> Prop
  /-- The schema gives itself a name which is none. -/
  | start {c : Crash} (nowhere : Scope.ofSchema d schema = .error c) : Blame rules d schema document c
  /-- Too many schemas are applied within each other. -/
  | deep {p : Position} {v subject : Value} (comes : Comes rules d schema document (levels + 1) p v subject) :
    Blame rules d schema document .recursion
  /-- What is no schema is applied as one. -/
  | stray {n : Nat} {p : Position} {v subject : Value} {c : Crash} (comes : Comes rules d schema document n p v subject)
    (notTruth : forall b, v ≠ .bool b) (notObject : v.members? = none) (kind : c = .attribute ∨ c = .type) :
    Blame rules d schema document c
  | unfit {n : Nat} {p : Position} {members : Members} {subject : Value} {c : Crash} (depth : n ≤ levels)
    (comes : Comes rules d schema document n p (.object members) subject) (unfit : Unfit rules p members subject c) :
    Blame rules d schema document c

end Schema
end SchemaLint
