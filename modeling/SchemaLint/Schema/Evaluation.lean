import SchemaLint.Schema.Keywords.Scalars
import SchemaLint.Schema.Keywords.Arrays
import SchemaLint.Schema.Keywords.Objects
import SchemaLint.Schema.Keywords.Combinations
import SchemaLint.Schema.Keywords.Unevaluated

/-!
# Evaluation

A schema is evaluated keyword by keyword in its own order.  Levels of evaluators are stacked on top of one
that always crashes, so a reference that leads back to itself without consuming the document ends in that crash
and not in an endless loop.
-/

namespace SchemaLint

namespace Schema

open Json

def Assertion.check (a : Assertion) (rules : Rules) (ev : Evaluator) : Keyword → Outcome
  | .reference => a.reference rules ev
  | .recursiveReference => a.recursiveReference rules ev
  | .additionalItems => a.additionalItems ev
  | .additionalProperties => a.additionalProperties ev
  | .allOf => a.allOf ev
  | .anyOf => a.anyOf ev
  | .oneOf => a.oneOf ev
  | .not => a.negation ev
  | .conditional => a.conditional ev
  | .const => a.const
  | .enum => a.enum
  | .contains => a.contains ev
  | .containsBetween => a.containsBetween ev
  | .dependenciesOfAnyKind => a.dependenciesOfAnyKind ev
  | .dependencies => a.dependencies ev
  | .dependentRequired => a.dependentRequired
  | .dependentSchemas => a.dependentSchemas ev
  | .disallow => a.disallow ev
  | .extended => a.extended ev
  | .exclusiveMaximum => a.exclusiveMaximum
  | .exclusiveMinimum => a.exclusiveMinimum
  | .maximumOrBelow => a.maximumOrBelow
  | .minimumOrAbove => a.minimumOrAbove
  | .maximum => a.maximum
  | .minimum => a.minimum
  | .multipleOf => a.multipleOf
  | .format => a.format rules
  | .itemsOrList => a.itemsOrList ev
  | .items => a.items ev
  | .remainingItems => a.remainingItems ev
  | .leadingItems => a.leadingItems ev
  | .maxItems => a.maxItems
  | .minItems => a.minItems
  | .maxLength => a.maxLength
  | .minLength => a.minLength
  | .maxProperties => a.maxProperties
  | .minProperties => a.minProperties
  | .pattern => a.pattern
  | .patternProperties => a.patternProperties ev
  | .properties => a.properties ev
  | .propertiesAndRequired => a.propertiesAndRequired ev
  | .propertyNames => a.propertyNames ev
  | .required => a.required
  | .type => a.type
  | .typeOrSchema => a.typeOrSchema ev
  | .unevaluatedItems => a.unevaluatedItems rules ev
  | .unevaluatedProperties => a.unevaluatedProperties rules ev
  | .uniqueItems => a.uniqueItems

/-- The keywords of a schema that count: in the older drafts a reference hides all others. -/
def effective (d : Dialect) (members : Members) : Members :=
  if d.referenceHides then
    match Members.get? "$ref" members with
    | none | some .null => members
    | some ref => [("$ref", ref)]
  else members

/-- Check one member of a schema; names that the draft does not know assert nothing. -/
def checkMember (rules : Rules) (ev : Evaluator) (demand : Demand) (p : Position) (schema : Members)
    (subject : Value) (member : Text × Value) : Outcome :=
  match Keyword.ofName? p.dialect member.1 with
  | none => .clean
  | some keyword =>
    Assertion.check ⟨demand, p, schema, member.1, member.2, subject⟩ rules ev keyword

/-- Evaluate a schema in the draft of its position; `outer` says which of its keywords count. -/
def evaluate (rules : Rules) (ev : Evaluator) (demand : Demand) (outer : Dialect) (p : Position)
    (schema subject : Value) : Outcome :=
  match schema with
  | .bool true => .clean
  | .bool false => .one (.unsatisfiable subject)
  | .object members =>
    Outcome.each demand (checkMember rules ev demand p members subject) (effective outer members)
  | _ => .crashed .attribute

def Evaluator.above (rules : Rules) (ev : Evaluator) : Evaluator :=
  { apply := evaluate rules ev
    keys := evaluatedKeys rules ev
    places := evaluatedPlaces rules ev }

def Evaluator.ofLevel (rules : Rules) : Nat → Evaluator
  | 0 =>
    { apply := fun _ _ _ _ _ => .crashed .recursion
      keys := fun _ _ _ _ => .error .recursion
      places := fun _ _ _ _ => .error .recursion }
  | n + 1 => .above rules (.ofLevel rules n)

/-- How deep schemas may be applied within each other. -/
def levels : Nat := 470

def run (rules : Rules) (d : Dialect) (demand : Demand) (schema subject : Value) : Outcome :=
  .ofExcept (Scope.ofSchema d schema) fun scope =>
    evaluate rules (.ofLevel rules levels) demand d ⟨d, scope⟩ schema subject

/-- Whether a schema satisfies the schema for the schemas of a draft, which refers to nothing that has to be retrieved. -/
def isWellFormed (d : Dialect) (schema : Value) : Except Crash Bool :=
  (run { retrieval := fun _ => none, formats := true } d .first (metaSchema d) schema).isClean

/-- What is found when a document is checked to the end: violations in the order in which they are found. -/
def judge (retrieval : Retrieval) (d : Dialect) (schema document : Value) : Outcome :=
  run { retrieval, formats := false } d .all schema document

end Schema

end SchemaLint
