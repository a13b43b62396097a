import SchemaLint.Config.Discovery
import SchemaLint.Files.Glob
import SchemaLint.Lint.Single

/-!
# Linting many documents

A run lints standard input, or every file that its arguments select.  Each file has the settings of its own folder, and
all files share one resolver.  All documents are started before the first schema is loaded, so that documents with the
same reference share one load; the verdicts come in the order of the files, whatever the loads did.

The first document that crashes ends the run; what was printed until then stays printed.
-/

namespace SchemaLint

open Json (Value)

/-- What a run is asked to do. -/
structure Task where
  /-- Files and globs; none mean standard input. -/
  arguments : List String
  overrides : Yaml.Entries
  /-- Where arguments and configuration begin. -/
  base : Path
  input : Except Crash Text

namespace Task

def bytesOf (d : Disk) (file : Path) : Except Failed Bytes :=
  (d.readFile file.text).mapError fun fault => .crash (fault.crash file.text)

/-- The settings of a file, which are those of its folder. -/
def settingsOf (t : Task) (d : Disk) (file : Path) : Except Failed Settings :=
  Config.resolve d t.overrides (some file.parent)

/-- The document that the bytes and the settings of a file make. -/
def opened (d : Disk) (file : Path) (bytes : Bytes) (settings : Settings) : Except Failed Document := do
  let path ← (d.realPath file).mapError .crash
  return { path := some path, source := .bytes bytes, settings }

def document (t : Task) (d : Disk) (file : Path) : Except Failed Document := do
  let bytes ← bytesOf d file
  let settings ← t.settingsOf d file
  opened d file bytes settings

def inputDocument (t : Task) (d : Disk) : Except Failed Document := do
  let text ← t.input.mapError .crash
  let settings ← Config.resolve d t.overrides none
  return { path := none, source := .text text, settings }

def files (t : Task) (d : Disk) : Except Failed (List Path) := do
  let settings ← Config.resolve d t.overrides (some t.base)
  (selectFiles d t.arguments (settings.ignore.map Text.toString) t.base).mapError .crash

def start (out : Output) (document : Except Failed Document) : Except Failed (Said × Document × Document.Step) := do
  let document ← document
  let (said, step) ← (document.start out).mapError .crash
  return (said, document, step)

/-- Start documents one after the other until one fails to start. -/
def startAll (out : Output) : List (Except Failed Document) → Said × Except Failed (List (Document × Document.Step))
  | [] => (.nothing, .ok [])
  | document :: rest =>
    match start out document with
    | .error failed => (.nothing, .error failed)
    | .ok (said, started) =>
      let (more, others) := startAll out rest
      (said.append more, others.map fun others => started :: others)

/-- The references that documents wait for. -/
def references (started : List (Document × Document.Step)) : List String :=
  started.filterMap fun (_, step) =>
    match step with
    | .waiting _ reference => some reference
    | .ended _ => none

/-- The verdict on a document that was started, given the schemas that came. -/
def finish (disk : Disk) (schemas : List (String × Except Failed Value)) (started : Document × Document.Step) :
    Except Crash Verdict :=
  match started with
  | (_, .ended v) => .ok v
  | (d, .waiting v reference) => d.finish disk v reference ((schemas.lookup reference).getD (.error (.crash .runtime)))

def lintFile (t : Task) (out : Output) (s : Sources) (r : Resolver) (w : World) (file : Path) : Linted Verdict :=
  match t.document w.disk file with
  | .error failed => ⟨.error failed, .nothing, r, w⟩
  | .ok d => d.lint out s r w

/-- Lint a file as if there were no other, with a resolver of its own. -/
def alone (t : Task) (out : Output) (s : Sources) (w : World) (file : Path) : Linted Verdict :=
  t.lintFile out s .fresh w file

def lintAll (out : Output) (s : Sources) (r : Resolver) (w : World) (documents : List (Except Failed Document)) :
    Linted (List Verdict) :=
  match startAll out documents with
  | (said, .error failed) => ⟨.error failed, said, r, w⟩
  | (said, .ok started) =>
    let wanted := references started
    let (outcomes, r, w) := r.resolveAll s w wanted
    ⟨(started.mapM (finish w.disk (wanted.zip outcomes))).mapError .crash, said, r, w⟩

/-- The warning that arguments select no file. -/
def noFiles (t : Task) : Said :=
  let shown := String.intercalate " " t.arguments
  { printed := [], warnings := [s!"No files matched: {shown}"] }

/-- Lint everything that a task asks for. -/
def execute (t : Task) (out : Output) (s : Sources) (r : Resolver) (w : World) : Linted (List Verdict) :=
  if t.arguments.isEmpty then lintAll out s r w [t.inputDocument w.disk]
  else
    match t.files w.disk with
    | .error failed => ⟨.error failed, .nothing, r, w⟩
    | .ok [] => ⟨.ok [], t.noFiles, r, w⟩
    | .ok files => lintAll out s r w (files.map (t.document w.disk))

end Task

/-! ## Reporting -/

/-- What is told about verdicts: one message for each document that fails and may be talked about, in their order. -/
def reports (verdicts : List Verdict) : List String :=
  verdicts.filterMap Verdict.message

/-- The exit code of a run: zero if every document passes. -/
def exitCode (verdicts : List Verdict) : UInt32 :=
  if verdicts.all Verdict.passed then 0 else 1

namespace Task

/-- Run a task on a sound output and report what failed. -/
def run (t : Task) (s : Sources) (w : World) : Linted UInt32 :=
  let linted := t.execute .sound s .fresh w
  match linted.outcome with
  | .error failed => ⟨.error failed, linted.said, linted.resolver, linted.world⟩
  | .ok verdicts =>
    ⟨.ok (exitCode verdicts), linted.said.append { printed := reports verdicts, warnings := [] }, linted.resolver,
      linted.world⟩

end Task

end SchemaLint
