import SchemaLint.Schema.Assertion

/-!
# Keywords about objects

Which schemas apply to which members, which members there have to be, and what their presence demands.
-/

namespace SchemaLint

namespace Schema

open Json

namespace Assertion

def ofObject (a : Assertion) (check : Members → Outcome) : Outcome :=
  match a.subject with
  | .object members => check members
  | _ => .clean

def properties (a : Assertion) (ev : Evaluator) : Outcome :=
  a.ofObject fun members =>
    .ofExcept (entries a.limit) fun schemas =>
      a.each
        (fun entry =>
          match Members.get? entry.1 members with
          | some v => a.descend ev entry.2 v (some (.key entry.1))
          | none => .clean)
        schemas

/-- The violation of a schema for a member that says the member is required. -/
def unsetMember (a : Assertion) (name : Text) (limit : Value) : Violation :=
  { a.violation with path := [.key name], keyword := some (Text.ofString "required"), limit }

/-- Schemas for members by name, each of which may say that its member is required. -/
def propertiesAndRequired (a : Assertion) (ev : Evaluator) : Outcome :=
  a.ofObject fun members =>
    .ofExcept (entries a.limit) fun schemas =>
      a.each
        (fun entry =>
          match Members.get? entry.1 members with
          | some v => a.descend ev entry.2 v (some (.key entry.1))
          | none =>
            .ofExcept (entries entry.2) fun schema =>
              match Members.get? "required" schema with
              | some limit => if isGiven limit then .one (a.unsetMember entry.1 limit) else .clean
              | none => .clean)
        schemas

/-- Schemas for the members whose names a pattern matches. -/
def patternProperties (a : Assertion) (ev : Evaluator) : Outcome :=
  a.ofObject fun members =>
    .ofExcept (entries a.limit) fun schemas =>
      a.each
        (fun entry =>
          a.each
            (fun (member : Text × Value) =>
              .ofExcept (searches entry.1 member.1) fun found =>
                if found then a.descend ev entry.2 member.2 (some (.key member.1)) else .clean)
            members)
        schemas

/-- The names of the patterns beside, joined to one pattern that matches what one of them matches. -/
def joinedPatterns (schema : Members) : Except Crash Text :=
  match Members.get? "patternProperties" schema with
  | none => .ok []
  | some v => do
    let names ← (← elements v).mapM fun name =>
      match name with
      | .string s => Except.ok s
      | _ => .error Crash.type
    return List.intercalate (Text.ofString "|") names

/-- The members that neither a name nor a pattern of a schema speaks of. -/
def extraMembers (schema : Members) (members : Members) : Except Crash Members := do
  let patterns ← joinedPatterns schema
  let named (name : Text) : Except Crash Bool :=
    match Members.get? "properties" schema with
    | some v => holdsName v name
    | none => .ok false
  allWhere
    (fun (member : Text × Value) => do
      if ← named member.1 then return false
      if patterns.isEmpty then return true
      return !(← searches patterns member.1))
    members

/-- A schema for the members that nothing else in this schema speaks of, or none of them may be there. -/
def additionalProperties (a : Assertion) (ev : Evaluator) : Outcome :=
  a.ofObject fun members =>
    .ofExcept (extraMembers a.schema members) fun extra =>
      match a.limit with
      | .object _ =>
        a.each (fun (member : Text × Value) => a.descend ev a.limit member.2 (some (.key member.1))) extra
      | limit => a.failsIf (!isGiven limit && !extra.isEmpty)

def propertyNames (a : Assertion) (ev : Evaluator) : Outcome :=
  a.ofObject fun members =>
    a.each (fun (member : Text × Value) => a.descend ev a.limit (.string member.1) none) members

def minProperties (a : Assertion) : Outcome :=
  a.ofObject fun members =>
    match a.limit.rank? with
    | some limit => a.failsIf ((Number.int members.length).lt limit)
    | none => .crashed .type

def maxProperties (a : Assertion) : Outcome :=
  a.ofObject fun members =>
    match a.limit.rank? with
    | some limit => a.failsIf (limit.lt (.int members.length))
    | none => .crashed .type

/-! ## Presence -/

/-- The keyword is violated once for each name that no member has. -/
def demands (a : Assertion) (members : Members) (names : List Value) : Outcome :=
  a.each (fun name => a.failsWhen ((hasMember members name).map not)) names

def required (a : Assertion) : Outcome :=
  a.ofObject fun members => .ofExcept (elements a.limit) (a.demands members)

/-- What is demanded for each name of a member that is there. -/
def eachPresent (a : Assertion) (check : Members → Value → Outcome) : Outcome :=
  a.ofObject fun members =>
    .ofExcept (entries a.limit) fun dependencies =>
      a.each
        (fun (entry : Text × Value) => if Members.has entry.1 members then check members entry.2 else .clean)
        dependencies

/-- Members demand others by name. -/
def dependentRequired (a : Assertion) : Outcome :=
  a.eachPresent fun members names => .ofExcept (elements names) (a.demands members)

/-- Members demand that a schema is satisfied. -/
def dependentSchemas (a : Assertion) (ev : Evaluator) : Outcome :=
  a.eachPresent fun _ schema => a.descend ev schema a.subject none

/-- Members demand others by a list of names, or that a schema is satisfied. -/
def dependencies (a : Assertion) (ev : Evaluator) : Outcome :=
  a.eachPresent fun members dependency =>
    match dependency with
    | .array names => a.demands members names
    | schema => a.descend ev schema a.subject none

/-- Members demand another by its name, others by a list of names, or that a schema is satisfied. -/
def dependenciesOfAnyKind (a : Assertion) (ev : Evaluator) : Outcome :=
  a.eachPresent fun members dependency =>
    match dependency with
    | .object _ => a.descend ev dependency a.subject none
    | .string _ => a.demands members [dependency]
    | names => .ofExcept (elements names) (a.demands members)

end Assertion

end Schema

end SchemaLint
