import SchemaLint.Schema.Outcome
import SchemaLint.Schema.Registry
import SchemaLint.Schema.Keyword
import SchemaLint.Pattern.Reader
import SchemaLint.Pattern.Matcher
import SchemaLint.Json.Equal

/-!
# Assertions

A keyword of a schema asserts something about a value.  What a keyword says about subschemas is stated against an
evaluator, which applies them; the evaluator that a keyword is given can go one level less deep than the one that
the keyword belongs to.  So no keyword is recursive, and a bound on the depth is a bound on the whole evaluation.
-/

namespace SchemaLint

namespace Schema

open Json

/-- Where in the schemas an evaluation stands, and in which draft they are read there. -/
structure Position where
  dialect : Dialect
  scope : Scope

/-- The two accounts of what a schema has looked at: that of draft 2019-09, and that of the drafts since. -/
inductive Survey
  | early
  | late
  deriving DecidableEq

/-- What applies schemas to values.  A schema is applied in the draft of the position; `outer` is the draft that says
whether a reference hides the keywords beside it. -/
structure Evaluator where
  /-- Apply a schema to a value. -/
  apply (demand : Demand) (outer : Dialect) (p : Position) (schema subject : Value) : Outcome
  /-- The members of an object that a schema has looked at. -/
  keys (survey : Survey) (p : Position) (schema : Value) (subject : Members) : Except Crash (List Text)
  /-- The places of an array that a schema has looked at. -/
  places (survey : Survey) (p : Position) (schema : Value) (subject : List Value) : Except Crash (List Nat)

/-- What a whole evaluation goes by. -/
structure Rules where
  /-- How resources that no schema at hand names are had. -/
  retrieval : Retrieval
  formats : Bool

/-- The violation of the schema that nothing satisfies. -/
def Violation.unsatisfiable (subject : Value) : Violation :=
  { path := [], keyword := none, limit := .null, subject, schema := .bool false }

/-! ## Changing the draft -/

def isWithin (part : Text) : Text → Bool
  | [] => part.isEmpty
  | c :: rest => part.isPrefixOf (c :: rest) || isWithin part rest

/-- Whether a value that should be an object holds a name: as a member, as an item or as a part of a text. -/
def holdsName (v : Value) (name : Text) : Except Crash Bool :=
  match v with
  | .object members => .ok (Members.has name members)
  | .array items => .ok (items.any fun item => item.same (.string name))
  | .string s => .ok (isWithin name s)
  | _ => .error .type

/-- The draft that a schema is evaluated in: its own if it names one that is known, else the one around it. -/
def dialectOf (d : Dialect) (schema : Value) : Except Crash Dialect :=
  match schema with
  | .bool _ => .ok d
  | .object members =>
    match Members.get? "$schema" members with
    | none => .ok d
    | some (.string name) =>
      match Uri.normal? (Text.toString name).toList with
      | some name => .ok ((Dialect.ofId? name).getD d)
      | none => .error .value
    | some (.array _) | some (.object _) => .error .type
    | some v => if isGiven v then .error .attribute else .ok d
  | v => do if ← holdsName v "$schema" then throw .type else return d

/-- Go over to the draft of a schema. -/
def Position.adopt (p : Position) (schema : Value) : Except Crash Position := do
  return { p with dialect := ← dialectOf p.dialect schema }

namespace Evaluator

/-- Apply a schema that was reached from a position; what the drafts disagree on in combining keywords goes by the draft of
the position that it was reached from. -/
def enter (ev : Evaluator) (demand : Demand) (p : Position) (scope : Except Crash Scope) (schema subject : Value) :
    Outcome :=
  match schema with
  | .bool true => .clean
  | .bool false => .one (.unsatisfiable subject)
  | _ =>
    .ofExcept scope fun scope =>
      .ofExcept (Position.adopt { p with scope } schema) fun inner => ev.apply demand p.dialect inner schema subject

/-- Apply a schema where it stands; the step to the subject is not part of the way if nothing can satisfy the schema. -/
def descend (ev : Evaluator) (demand : Demand) (p : Position) (schema subject : Value) (part : Option PathPart) :
    Outcome :=
  match schema with
  | .bool _ => ev.enter demand p (.ok p.scope) schema subject
  | _ => (ev.enter demand p (p.scope.inside ⟨p.dialect, schema⟩) schema subject).under part

def accepts (ev : Evaluator) (p : Position) (schema subject : Value) : Except Crash Bool := do
  let inner ← p.adopt schema
  (ev.apply .first inner.dialect inner schema subject).isClean

/-- Whether a value satisfies a schema where it stands. -/
def acceptsWithin (ev : Evaluator) (p : Position) (schema subject : Value) : Except Crash Bool :=
  (ev.descend .first p schema subject none).isClean

end Evaluator

/-- One keyword of a schema about one value. -/
structure Assertion where
  demand : Demand
  position : Position
  schema : Members
  keyword : Text
  limit : Value
  subject : Value

namespace Assertion

def violation (a : Assertion) : Violation :=
  { path := [], keyword := some a.keyword, limit := a.limit, subject := a.subject, schema := .object a.schema }

def fails (a : Assertion) : Outcome :=
  .one a.violation

/-- The keyword is violated if something is the case. -/
def failsIf (a : Assertion) (bad : Bool) : Outcome :=
  if bad then a.fails else .clean

/-- The keyword is violated if something turns out to be the case. -/
def failsWhen (a : Assertion) (bad : Except Crash Bool) : Outcome :=
  .ofExcept bad a.failsIf

/-- Apply a subschema to a part of the value. -/
def descend (a : Assertion) (ev : Evaluator) (schema subject : Value) (part : Option PathPart) : Outcome :=
  ev.descend a.demand a.position schema subject part

/-- Apply one thing after another. -/
def each {α : Type} (a : Assertion) (search : α → Outcome) (xs : List α) : Outcome :=
  Outcome.each a.demand search xs

/-- What the schema says under another keyword. -/
def beside? (a : Assertion) (key : Text) : Option Value :=
  Members.get? key a.schema

end Assertion

/-! ## Reading limits

The schema for schemas has vouched for the shapes of most limits, but a reference can lead to a schema that it never
saw.  A limit of the wrong shape is then a crash. -/

/-- The items that a value offers one by one. -/
def elements : Value → Except Crash (List Value)
  | .array items => .ok items
  | .object members => .ok (members.map fun m => .string m.1)
  | .string s => .ok (s.map fun c => .string [c])
  | _ => .error .type

/-- The members of a value that has to be an object. -/
def entries : Value → Except Crash Members
  | .object members => .ok members
  | _ => .error .attribute

/-- The number of things in a value. -/
def countOf : Value → Except Crash Nat
  | .array items => .ok items.length
  | .object members => .ok members.length
  | .string s => .ok s.length
  | _ => .error .type

/-- A value as a list: itself if it is one, and else the list of it alone; text is never cut up. -/
def listOf (v : Value) : Except Crash (List Value) :=
  match v with
  | .string _ => .ok [v]
  | _ => elements v

/-- Whether an object has a member of a name; only what can be a name is looked up. -/
def hasMember (members : Members) : Value → Except Crash Bool
  | .string s => .ok (Members.has s members)
  | .array _ | .object _ => .error .type
  | _ => .ok false

/-- The crash that a pattern which cannot be read ends in. -/
def patternCrash : Pattern.Fault → Crash
  | .malformed => .pattern
  | .tooMany => .overflow
  | .conflict => .value

/-- Whether a pattern matches somewhere in a text. -/
def searches (pattern subject : Text) : Except Crash Bool :=
  match Pattern.read pattern with
  | .ok node => .ok (node.found subject)
  | .error fault => .error (patternCrash fault)

/-- Whether a value that should be a pattern matches somewhere in a text. -/
def searchesValue (pattern : Value) (subject : Text) : Except Crash Bool :=
  match pattern with
  | .string p => searches p subject
  | _ => .error .type

/-- Whether some value satisfies a test which may crash; those behind the first one that does are not tested. -/
def anyWhere {α : Type} (test : α → Except Crash Bool) : List α → Except Crash Bool
  | [] => .ok false
  | x :: rest => do
    if ← test x then return true
    anyWhere test rest

/-- The values that satisfy a test which may crash. -/
def allWhere {α : Type} (test : α → Except Crash Bool) : List α → Except Crash (List α)
  | [] => .ok []
  | x :: rest => do
    let kept ← test x
    let others ← allWhere test rest
    return if kept then x :: others else others

end Schema

end SchemaLint
