import SchemaLint.Schema.Keywords.Arrays

/-!
# What a schema has looked at

Some keywords speak of the members and items that no other keyword of the schema has looked at, whether in this schema
or in one that it applies to the same value.  What a schema that is not satisfied has looked at does not count.

Draft 2019-09 has an account of its own: there a schema for further members has looked at all of them if it is true,
and otherwise at those that go by the name of one of its own keywords, whether they satisfy it or not.
-/

namespace SchemaLint

namespace Schema

open Json

/-- The members of a schema that has to be an object. -/
def keywordsOf : Value → Except Crash Members
  | .object members => .ok members
  | _ => .error .attribute

/-- Collect over the schemas that references of a schema lead to, one after the other. -/
def behindReferences {α : Type} (survey : Survey) (rules : Rules) (p : Position) (schema : Members)
    (collect : Position → Value → Except Crash (List α)) : Except Crash (List α) := do
  let collectAt (target : Target) : Except Crash (List α) := do
    collect (← Position.adopt { p with scope := target.scope } target.schema) target.schema
  let follow (key : String) : Except Crash (List α) :=
    match Members.get? key schema with
    | none | some .null => .ok []
    | some (.string ref) => do collectAt (← Target.ofReference rules.retrieval p.scope (Text.toString ref).toList)
    | some _ => .error .attribute
  let plain ← follow "$ref"
  match survey with
  | .early =>
    if Members.has "$recursiveRef" schema then
      return plain ++ (← collectAt (← Target.ofRecursion rules.retrieval p.scope))
    return plain
  | .late => return plain ++ (← follow "$dynamicRef")

/-- The parts of a condition whose looking counts: the condition where it is satisfied, and what follows from it. -/
def conditionParts (ev : Evaluator) (p : Position) (schema : Members) (subject : Value) :
    Except Crash (List Value) :=
  match Members.get? "if" schema with
  | none => .ok []
  | some condition => do
    if ← ev.accepts p condition subject then return condition :: (Members.get? "then" schema).toList
    return (Members.get? "else" schema).toList

/-- The schemas of a choice that are satisfied. -/
def satisfiedParts (ev : Evaluator) (p : Position) (schema : Members) (subject : Value) :
    Except Crash (List Value) := do
  let parts ← ["allOf", "oneOf", "anyOf"].mapM fun (key : String) =>
    match Members.get? key schema with
    | none => .ok []
    | some schemas => do allWhere (fun part => ev.acceptsWithin p part subject) (← elements schemas)
  return parts.flatten

/-! ## Members -/

/-- The members that one keyword for a schema has looked at: those that satisfy it. -/
def keysSatisfying (ev : Evaluator) (p : Position) (schema : Members) (subject : Members) (key : String) :
    Except Crash (List Text) :=
  match Members.get? key schema with
  | none | some .null => .ok []
  | some part => do
    let kept ← allWhere (fun (member : Text × Value) => ev.acceptsWithin p part member.2) subject
    return Members.keys kept

/-- The members of an object that go by the names in another. -/
def keysNamed (names subject : Members) : List Text :=
  (Members.keys names).filter fun name => Members.has name subject

/-- The members that one keyword has looked at in the early account: all if it is true, else those that its value names. -/
def keysNamedBy (schema : Members) (subject : Members) (key : String) : List Text :=
  match Members.get? key schema with
  | some (.bool true) => Members.keys subject
  | some (.object names) => keysNamed names subject
  | _ => []

/-- The members that the keywords for members by name, and those for all further ones, have looked at. -/
def keysSpokenOf (survey : Survey) (ev : Evaluator) (p : Position) (schema : Members) (subject : Members) :
    Except Crash (List Text) :=
  match survey with
  | .early =>
    .ok (["properties", "additionalProperties", "unevaluatedProperties"].flatMap (keysNamedBy schema subject))
  | .late => do
    let named :=
      match Members.get? "properties" schema with
      | some (.object properties) => keysNamed properties subject
      | _ => []
    let satisfying ← ["additionalProperties", "unevaluatedProperties"].mapM (keysSatisfying ev p schema subject)
    return named ++ satisfying.flatten

/-- The members whose names a pattern of the schema matches. -/
def keysMatching (schema : Members) (subject : Members) : Except Crash (List Text) :=
  match Members.get? "patternProperties" schema with
  | none => .ok []
  | some patterns => do
    let kept ← allWhere
      (fun (member : Text × Value) => do
        let patterns ← elements patterns
        let found ← allWhere (fun pattern => searchesValue pattern member.1) patterns
        return !found.isEmpty)
      subject
    return Members.keys kept

def demandedSchemas (schema : Members) (subject : Members) : Except Crash (List Value) :=
  match Members.get? "dependentSchemas" schema with
  | none => .ok []
  | some dependencies => do
    let present := (← entries dependencies).filter fun entry => Members.has entry.1 subject
    return present.map Prod.snd

/-- The members of an object that a schema has looked at. -/
def evaluatedKeys (rules : Rules) (ev : Evaluator) (survey : Survey) (p : Position) (schema : Value)
    (subject : Members) : Except Crash (List Text) :=
  match schema with
  | .bool _ => .ok []
  | _ => do
    let schema ← keywordsOf schema
    let collect (p : Position) (part : Value) : Except Crash (List Text) := ev.keys survey p part subject
    let behind ← behindReferences survey rules p schema collect
    let spokenOf ← keysSpokenOf survey ev p schema subject
    let matching ← keysMatching schema subject
    let demanded ← (← demandedSchemas schema subject).mapM (collect p)
    let chosen ← (← satisfiedParts ev p schema (.object subject)).mapM (collect p)
    let conditional ← (← conditionParts ev p schema (.object subject)).mapM (collect p)
    return behind ++ spokenOf ++ matching ++ demanded.flatten ++ chosen.flatten ++ conditional.flatten

/-! ## Items -/

/-- The places of the items that satisfy a schema. -/
def placesSatisfying (ev : Evaluator) (p : Position) (schema : Members) (subject : List Value) (key : String) :
    Except Crash (List Nat) :=
  match Members.get? key schema with
  | none => .ok []
  | some part => do
    let kept ← allWhere (fun (item : Nat × Value) => ev.accepts p part item.2) (Assertion.placed 0 subject)
    return kept.map Prod.fst

/-- The number of the first items that have schemas of their own; none if all items are spoken of. -/
def leadingPlaces (survey : Survey) (schema : Members) : Except Crash (Option Nat) :=
  match survey with
  | .early =>
    match Members.get? "items" schema with
    | none => .ok (some 0)
    | some items =>
      if Members.has "additionalItems" schema || items.members?.isSome then .ok none
      else (countOf items).map some
  | .late =>
    match Members.get? "prefixItems" schema with
    | none => .ok (some 0)
    | some schemas => (countOf schemas).map some

/-- Whether a schema speaks of all items before anything else is looked into. -/
def speaksOfAllItems (survey : Survey) (schema : Value) : Except Crash Bool :=
  match survey with
  | .early => .ok false
  | .late => holdsName schema "items"

/-- The places of an array that a schema has looked at. -/
def evaluatedPlaces (rules : Rules) (ev : Evaluator) (survey : Survey) (p : Position) (schema : Value)
    (subject : List Value) : Except Crash (List Nat) :=
  match schema with
  | .bool _ => .ok []
  | _ => do
    let whole := List.range subject.length
    if ← speaksOfAllItems survey schema then return whole
    let schema ← keywordsOf schema
    let collect (p : Position) (part : Value) : Except Crash (List Nat) := ev.places survey p part subject
    let behind ← behindReferences survey rules p schema collect
    match ← leadingPlaces survey schema with
    | none => return whole
    | some leading =>
      let conditional ← (← conditionParts ev p schema (.array subject)).mapM (collect p)
      let satisfying ← ["contains", "unevaluatedItems"].mapM (placesSatisfying ev p schema subject)
      let chosen ← (← satisfiedParts ev p schema (.array subject)).mapM (collect p)
      return behind ++ List.range leading ++ conditional.flatten ++ satisfying.flatten ++ chosen.flatten

namespace Assertion

/-- The account that the draft of the keyword gives. -/
def survey (a : Assertion) : Survey :=
  if a.position.dialect = .draft2019 then .early else .late

def unevaluatedItems (a : Assertion) (rules : Rules) (ev : Evaluator) : Outcome :=
  a.ofArray fun items =>
    a.failsWhen do
      let seen ← evaluatedPlaces rules ev a.survey a.position (.object a.schema) items
      return (List.range items.length).any fun i => !seen.contains i

/-- Whether a member that the schema has not looked at violates the limit; it is applied to its end. -/
def isUnwelcome (a : Assertion) (ev : Evaluator) (member : Text × Value) : Except Crash Bool := do
  let found ← (ev.descend .all a.position a.limit member.2 (some (.key member.1))).complete
  return !found.isEmpty

/-- The members that the schema has not looked at satisfy the limit. -/
def unevaluatedProperties (a : Assertion) (rules : Rules) (ev : Evaluator) : Outcome :=
  match a.subject with
  | .object members =>
    a.failsWhen do
      let seen ← evaluatedKeys rules ev a.survey a.position (.object a.schema) members
      let unseen := members.filter fun member => !seen.contains member.1
      let unwelcome ← allWhere (a.isUnwelcome ev) unseen
      return !unwelcome.isEmpty
  | _ => .clean

end Assertion

end Schema

end SchemaLint
