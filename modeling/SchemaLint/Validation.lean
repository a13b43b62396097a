import SchemaLint.Schema.Evaluation
import SchemaLint.Schema.Retrieval
import SchemaLint.Failure
import SchemaLint.Json.Reader
import SchemaLint.Text.Encoding

/-!
# Validating a document

A document is validated against a schema in the draft that an environment names.  The schema has to satisfy the schema
for schemas of that draft first; it is unavailable otherwise.
-/

namespace SchemaLint

open Json

namespace Schema

/-! ## Reading a schema -/

/-- The raw form of a schema. -/
inductive Source
  | text (t : Text)
  | bytes (b : Bytes)

/-- The error of a schema that is not JSON. -/
def notJson (reference reason : String) : Failed :=
  .error (.schemaUnavailable s!"Schema is not valid JSON: {reason}" (some reference))

/-- What reading fails with: numbers with too many digits and nesting that is too deep are not the schema's fault. -/
def readFailure (reference : String) : ReadError → Failed
  | .tooManyDigits _ => .crash .value
  | .tooDeep => .crash .recursion
  | e => notJson reference e.message

/-- Read a schema; bytes may be in any of the encodings that JSON may be written in. -/
def read (reference : String) : Source → Except Failed Value
  | .text t => (Json.read .lenient t).mapError (readFailure reference)
  | .bytes b =>
    match Encoding.decodeDetected b with
    | .error fault => .error (notJson reference fault.message)
    | .ok t => (Json.readDecoded .lenient t).mapError (readFailure reference)

end Schema

/-! ## Validating -/

/-- The environments that are known, as messages list them. -/
def environmentList : String :=
  String.intercalate ", " (Dialect.all.map Dialect.environment)

def dialectOf (env : Text) : Except LintError Dialect :=
  match Dialect.ofEnvironment? env with
  | some d => .ok d
  | none =>
    .error (.unknownEnvironment s!"Unknown schema environment, expected one of: {environmentList}" env)

/-- What an invalid schema is reported with; the reason given by the schema for schemas is left out. -/
def invalidSchema : LintError :=
  .schemaUnavailable "Schema is invalid: <detail>" none

/-- What is found in a document by a schema that satisfies the schema for schemas. -/
def judge (disk : Disk) (document schema : Value) (env : Text) : Except Failed Schema.Outcome := do
  let d ← (dialectOf env).mapError .error
  let wellFormed ← (Schema.isWellFormed d schema).mapError .crash
  if !wellFormed then throw (.error invalidSchema)
  return Schema.judge (.ofDisk disk) d schema document

/-- The failures of all violations; what goes wrong first on the way is what the whole fails with. -/
def failuresOf (o : Schema.Outcome) : Except Crash (List Failure) := do
  let failures ← Failure.ofViolations o.found
  match o.crash with
  | some c => throw c
  | none => return failures

/-- What a document fails in; references of the schema may lead to files of the disk. -/
def validate (disk : Disk) (document schema : Value) (env : Text) : Except Failed Findings := do
  let outcome ← judge disk document schema env
  let failures ← (failuresOf outcome).mapError .crash
  return Findings.ofFailures failures

end SchemaLint
