import SchemaLint.Json.Display

/-!
# Errors of the linter

An error is a kind, a text and details.  The kind says which details an error of it has and which of them are shown
behind the text.  Errors of these kinds fail one document or the configuration; whatever else can go wrong is a
`Crash` and ends the run.
-/

namespace SchemaLint

open Json (Value Members)

/-- The kinds of errors. -/
inductive ErrorKind
  | general
  | document
  | schemaUnavailable
  | violations
  | unknownEnvironment
  | config
  | cacheWrite
  | http
  | timeout
  deriving DecidableEq

/-- A detail that an error has: its value when none is given, unless it must be given. -/
structure DetailRule where
  name : String
  required : Bool
  fallback : Value

namespace ErrorKind

def details : ErrorKind → List DetailRule
  | general => [⟨"context", false, .null⟩]
  | document => [⟨"line", false, .null⟩, ⟨"column", false, .null⟩]
  | schemaUnavailable => [⟨"reference", false, .null⟩]
  | violations => [⟨"messages", true, .null⟩]
  | unknownEnvironment => [⟨"env", true, .null⟩]
  | config => [⟨"path", false, .null⟩]
  | cacheWrite => [⟨"path", false, .null⟩]
  | http => [⟨"status_code", false, .null⟩, ⟨"url", false, .null⟩, ⟨"method", false, .string "GET"⟩]
  | timeout => [⟨"timeout_seconds", false, .null⟩]

end ErrorKind

/-- What is wrong with the value of a setting. -/
inductive SettingProblem
  | notText
  /-- Bytes that are not UTF-8, or a surrogate where none can stand. -/
  | notUnicode
  | notFlag
  /-- A text or a number that is no truth value. -/
  | unreadableFlag
  | notList
  deriving DecidableEq

/-- A setting with a wrong value: its name, and below it a place in a list. -/
structure SettingFault where
  place : List String
  problem : SettingProblem
  deriving DecidableEq

/-- An error and everything that a report may show of it. -/
structure LintError where
  kind : ErrorKind
  text : String
  details : Members
  faults : List SettingFault := []

/-- Whether a value counts as given: null, false, zero and whatever is empty do not. -/
def isGiven : Value → Bool
  | .null => false
  | .bool b => b
  | .int n => n != 0
  | .float x => !x.isZero
  | .string s => !s.isEmpty
  | .array items => !items.isEmpty
  | .object members => !members.isEmpty

def isNull : Value → Bool
  | .null => true
  | _ => false

namespace LintError

/-- Build an error from a text and some of its details; none if one is missing or not of this kind. -/
def build? (kind : ErrorKind) (text : String) (given : Members) : Option LintError :=
  let rules := kind.details
  let known := given.all fun member => rules.any fun rule => Text.ofString rule.name = member.1
  let complete := rules.all fun rule => !rule.required || Members.has rule.name given
  if known && complete then
    some
      { kind, text
        details := rules.map fun rule =>
          (Text.ofString rule.name, (Members.get? rule.name given).getD rule.fallback) }
  else none

def context (e : LintError) : Members :=
  match e.kind with
  | .general =>
    match Members.get? "context" e.details with
    | some (.object members) => members
    | _ => []
  | .document | .violations => []
  | .unknownEnvironment => e.details
  | .http => e.details.filter fun detail => !isNull detail.2
  | .schemaUnavailable | .config | .cacheWrite | .timeout => e.details.filter fun detail => isGiven detail.2

/-- The text, and behind it the context in parentheses if there is any. -/
def message (e : LintError) : String :=
  match e.context with
  | [] => e.text
  | context =>
    let shown := String.intercalate ", " (context.map fun (name, value) => Text.toString name ++ "=" ++ value.quoted)
    s!"{e.text} ({shown})"

/-! ## The errors that the linter raises -/

/-- The document is not JSON. -/
def document (text : String) (place : Option (Nat × Nat)) : LintError :=
  let (line, column) : Value × Value :=
    match place with
    | some (line, column) => (.int line, .int column)
    | none => (.null, .null)
  { kind := .document, text, details := [("line", line), ("column", column)] }

def schemaUnavailable (text : String) (reference : Option String) : LintError :=
  { kind := .schemaUnavailable, text
    details := [("reference", (reference.map fun r => Value.string r).getD .null)] }

/-- The document violates its schema. -/
def violations (text : String) (messages : List String) : LintError :=
  { kind := .violations, text, details := [("messages", .array (messages.map fun (m : String) => .string m))] }

def unknownEnvironment (text : String) (env : Text) : LintError :=
  { kind := .unknownEnvironment, text, details := [("env", .string env)] }

/-- A config file cannot be used, or its settings are invalid. -/
def config (text : String) (path : Option String) : LintError :=
  { kind := .config, text, details := [("path", (path.map fun p => Value.string p).getD .null)] }

/-- Settings have wrong values. -/
def settings (faults : List SettingFault) : LintError :=
  { kind := .config, text := "Invalid settings: <detail>", details := [("path", .null)], faults }

def cacheWrite (text path : String) : LintError :=
  { kind := .cacheWrite, text, details := [("path", .string path)] }

def http (text url method : String) : LintError :=
  { kind := .http, text, details := [("status_code", .null), ("url", .string url), ("method", .string method)] }

def timeout (text : String) (seconds : Binary64) : LintError :=
  { kind := .timeout, text, details := [("timeout_seconds", .float seconds)] }

end LintError

/-- Why a reference of a schema leads nowhere. -/
inductive DeadEnd
  /-- Nothing goes by the name. -/
  | name
  /-- The resource does not have the anchor. -/
  | anchor
  /-- The anchor is one that no resource can have. -/
  | badAnchor
  /-- The pointer steps on something that is not there. -/
  | pointer
  deriving DecidableEq

/-- What ends a run because no document and no setting can be blamed for it in an orderly way. -/
inductive Crash
  | recursion
  | pattern
  /-- A reference that should be applied leads nowhere. -/
  | reference
  /-- A reference that is looked into, but not applied, leads nowhere. -/
  | deadEnd (why : DeadEnd)
  /-- An anchor is looked for in a resource that was entered but is not known. -/
  | resource
  /-- A schema names a type that its draft does not have. -/
  | unknownType
  | overflow
  | divisionByZero
  /-- A value of the right kind that cannot be used. -/
  | value
  /-- A value of the wrong kind. -/
  | type
  /-- A value lacks what is asked of it. -/
  | attribute
  /-- A word that means nothing. -/
  | key
  /-- A place where nothing is. -/
  | index
  | memory
  | decoding
  | address
  | runtime
  | os (message : String)
  deriving DecidableEq

def DeadEnd.message : DeadEnd → String
  | .name => "a schema refers to a name that nothing goes by"
  | .anchor => "a schema refers to an anchor that is not there"
  | .badAnchor => "a schema refers to an anchor that cannot be one"
  | .pointer => "a schema refers to a place that is not there"

def Crash.message : Crash → String
  | .recursion => "nested or referred too deeply"
  | .pattern => "a pattern cannot be read"
  | .reference => "a reference of the schema leads nowhere"
  | .deadEnd why => why.message
  | .resource => "an anchor is looked for where nothing is known"
  | .unknownType => "the schema names an unknown type"
  | .overflow => "a number is too large"
  | .divisionByZero => "division by zero"
  | .value => "a value cannot be used"
  | .type => "a value of the wrong kind"
  | .attribute => "a value lacks what is asked of it"
  | .key => "an unknown word"
  | .index => "nothing is there"
  | .memory => "out of memory"
  | .decoding => "bytes that are not UTF-8"
  | .address => "not a URL"
  | .runtime => "a path that cannot be followed"
  | .os message => message

/-- How an operation can fail. -/
inductive Failed
  | error (e : LintError)
  | crash (c : Crash)

end SchemaLint
