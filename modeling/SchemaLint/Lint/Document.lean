import SchemaLint.Config.Settings
import SchemaLint.Json.Layout
import SchemaLint.Json.Sorted
import SchemaLint.Report.Message
import SchemaLint.Resolver.Basic

/-!
# Linting a document

A document is read, sorted if its settings say so, printed if they say so, and validated if they name a schema.  The
first error ends this with a verdict of failure; a crash ends it without a verdict.  Only validation has to wait, for
its schema, and so linting comes in two parts: what happens before the schema is called for, and what happens once it is
there.

Printing comes before validation and has no part in the verdict: an output that refuses a text is worth a warning.
-/

namespace SchemaLint

open Json (Value)

/-- A document, and the settings it is linted with. -/
structure Document where
  /-- The real path; standard input has none. -/
  path : Option Path
  source : Schema.Source
  settings : Settings

/-- The verdict on a document: it passes if there is no error. -/
structure Verdict where
  path : Option Path
  error : Option LintError
  message : Option String

def Verdict.passed (v : Verdict) : Bool :=
  v.error.isNone

/-- How an output takes what is printed. -/
inductive Output
  | sound
  | refusing (reason : String)
  | broken

/-- What is said while documents are linted. -/
structure Said where
  printed : List String
  warnings : List String

namespace Said

def nothing : Said :=
  { printed := [], warnings := [] }

def append (s more : Said) : Said :=
  { printed := s.printed ++ more.printed, warnings := s.warnings ++ more.warnings }

end Said

namespace Document

/-- What reports call a document. -/
def label (d : Document) : String :=
  match d.path with
  | some p => p.text
  | none => "<stdin>"

def pass (d : Document) : Verdict :=
  { path := d.path, error := none, message := none }

/-- What is told about an error: a report stands for itself, every other error behind the label. -/
def messageOf (d : Document) (e : LintError) : Option String :=
  if d.settings.quiet then none
  else if e.kind = .violations then some e.text
  else some s!"{d.label} {e.message}"

/-- The verdict that a document fails with an error. -/
def fail (d : Document) (e : LintError) : Verdict :=
  { path := d.path, error := some e, message := d.messageOf e }

/-! ## Reading and printing -/

/-- The error of a text that is not JSON. -/
def unreadable (e : Json.ReadError) : LintError :=
  match e with
  | .malformed _ p => .document e.message (some (p.line, p.column))
  | e => .document e.message none

/-- The text of a document; bytes have to be UTF-8. -/
def text (d : Document) : Except LintError Text :=
  match d.source with
  | .text t => .ok t
  | .bytes b => (Encoding.Utf8.decode b).mapError fun fault => .document s!"Invalid UTF-8 at byte {fault.start}" none

/-- The value that a text is, sorted if the settings say so. -/
def value (d : Document) (t : Text) : Except LintError Value := do
  let v ← (Json.read .strict t).mapError unreadable
  if d.settings.sort then
    match v.sorted? with
    | some v => return v
    | none => throw (unreadable .tooDeep)
  else return v

/-- Print a text anew if the settings say so. -/
def print (d : Document) (out : Output) (t : Text) : Except Crash Said :=
  if d.settings.pretty && !d.settings.quiet then
    match out with
    | .sound => .ok { printed := [Text.toString (Json.layoutText t d.settings.indent)], warnings := [] }
    | .refusing reason => .ok { printed := [], warnings := [s!"{d.label} could not be pretty-printed: {reason}"] }
    | .broken => .error .runtime
  else .ok .nothing

/-- What is left to do once a document was read and printed. -/
inductive Step
  | ended (v : Verdict)
  | waiting (v : Value) (reference : String)

/-- Whether a schema is asked for, and which. -/
def reference? (d : Document) : Option String :=
  (d.settings.schema.filter fun reference => !reference.isEmpty).map Text.toString

/-- The part of linting before the schema is called for. -/
def start (d : Document) (out : Output) : Except Crash (Said × Step) :=
  match (do let t ← d.text; return (t, ← d.value t) : Except LintError (Text × Value)) with
  | .error e => .ok (.nothing, .ended (d.fail e))
  | .ok (t, v) => do
    let said ← d.print out t
    match d.reference? with
    | some reference => return (said, .waiting v reference)
    | none => return (said, .ended d.pass)

/-! ## Validating -/

/-- The verdict on a value that was validated. -/
def judged (d : Document) (reference : String) : Except Failed Findings → Except Crash Verdict
  | .error (.crash c) => .error c
  | .error (.error e) => .ok (d.fail e)
  | .ok [] => .ok d.pass
  | .ok findings => .ok (d.fail (.violations (report d.label reference findings.messages) findings.messages))

/-- The part of linting once the schema is there, or is known not to be had. -/
def finish (d : Document) (disk : Disk) (v : Value) (reference : String) (schema : Except Failed Value) :
    Except Crash Verdict :=
  d.judged reference (schema.bind fun schema => validate disk v schema d.settings.env)

end Document

end SchemaLint
