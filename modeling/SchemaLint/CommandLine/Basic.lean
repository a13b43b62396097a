import SchemaLint.CommandLine.Argument
import SchemaLint.Lint.Run

/-!
# The command line

The arguments either ask for help or for the version, of which the first one wins, or they ask for a run.  Options that
are given override what the configuration says; options that are not given leave it alone.  Configuration that cannot be
used and refusals of the file system are told in one line; every other crash ends the program as such.
-/

namespace SchemaLint

namespace CommandLine

def version : String := "0.1.0"

def helpText : String :=
  String.intercalate "\n"
    ["Usage: jsonlint [OPTIONS] [FILES]...", "",
      "  Lint JSON files, or standard input when no files are given.", "",
      "  Settings from .jsonlintrc and .jsonlintignore files are merged per file;",
      "  options given here override them.", "", "Options:",
      "  -i, --ignore TEXT    glob pattern to exclude from linting",
      "  -s, --validate TEXT  reference of the schema to validate against",
      "  -w, --indent TEXT    whitespace to use for pretty printing",
      "  -e, --env TEXT       draft of the schema",
      "  -q, --quiet          suppress all output",
      "  -p, --pretty         pretty-print the input",
      "      --sort           sort object keys before validation",
      "      --verbose        say more about what happens",
      "  -v, --version        show the version",
      "  -h, --help           show this text"]

/-- What the arguments ask for. -/
inductive Wish
  | help
  | version
  | run (files : List String) (overrides : Yaml.Entries)
  deriving Inhabited

def filesOf (given : List Given) : List String :=
  given.filterMap fun g =>
    match g with
    | .file name => some name
    | _ => none

def valuesOf (f : Field) (given : List Given) : List String :=
  given.filterMap fun g =>
    match g with
    | .field f' value => if f' = f then some value else none
    | _ => none

/-- A text as a raw value of a setting. -/
def rawText (s : String) : Yaml.Value :=
  .string (Text.ofString s)

/-- The setting of an option that counts once: the last value wins. -/
def lastValue (f : Field) (name : String) (given : List Given) : Yaml.Entries :=
  match (valuesOf f given).getLast? with
  | some value => [(rawText name, rawText value)]
  | none => []

def flagValue (f : Flag) (name : String) (given : List Given) : Yaml.Entries :=
  if given.contains (.flag f) then [(rawText name, .bool true)] else []

def overridesOf (given : List Given) : Yaml.Entries :=
  let ignored := valuesOf .ignore given
  let ignore : Yaml.Entries := if ignored.isEmpty then [] else [(rawText "ignore", .list (ignored.map rawText))]
  ignore ++ lastValue .validate "validate" given ++ lastValue .indent "indent" given ++ lastValue .env "env" given ++
    flagValue .quiet "quiet" given ++ flagValue .pretty "pretty" given ++ flagValue .sort "sort" given

/-- What was asked for. -/
def wishOf (given : List Given) : Wish :=
  match given.find? fun g => g = .flag .help || g = .flag .version with
  | some (.flag .help) => .help
  | some _ => .version
  | none => .run (filesOf given) (overridesOf given)

/-- A text in which every kind of line break is a line feed. -/
def unifyLines : Text → Text
  | [] => []
  | .scalar '\r' :: .scalar '\n' :: rest => .scalar '\n' :: unifyLines rest
  | .scalar '\r' :: rest => .scalar '\n' :: unifyLines rest
  | c :: rest => c :: unifyLines rest

def inputText (bytes : Bytes) : Except Crash Text :=
  match Encoding.Utf8.decode bytes with
  | .ok t => .ok (unifyLines t)
  | .error _ => .error .decoding

/-- What a call of the program leaves behind. -/
structure Transcript where
  exit : UInt32
  /-- The texts that were printed, each of which ends a line. -/
  printed : List String
  warnings : List String
  complaint : Option String
  usage : Option UsageFault
  crash : Option Crash
  world : World

namespace Transcript

def print (printed : List String) (w : World) : Transcript :=
  { exit := 0, printed, warnings := [], complaint := none, usage := none, crash := none, world := w }

def ofRun (linted : Linted UInt32) : Transcript :=
  let transcript := { print linted.said.printed linted.world with exit := 1, warnings := linted.said.warnings }
  match linted.outcome with
  | .ok exit => { transcript with exit }
  | .error (.error e) =>
    match e.kind with
    | .config => { transcript with complaint := some s!"Config Error: {e.message}" }
    | _ => { transcript with crash := some .runtime }
  | .error (.crash (.os reason)) => { transcript with complaint := some s!"Error: {reason}" }
  | .error (.crash c) => { transcript with crash := some c }

end Transcript

/-- Whether a call reads standard input: it is a run without files. -/
def readsInput (arguments : List String) : Bool :=
  match (readAll arguments).map wishOf with
  | .ok (.run [] _) => true
  | _ => false

def call (arguments : List String) (input : Bytes) (s : Sources) (w : World) : Transcript :=
  match readAll arguments with
  | .error fault => { Transcript.print [] w with exit := 2, usage := some fault }
  | .ok given =>
    match wishOf given with
    | .help => Transcript.print [helpText] w
    | .version => Transcript.print [version] w
    | .run files overrides =>
      let task : Task := { arguments := files, overrides, base := w.disk.current, input := inputText input }
      .ofRun (task.run s w)

end CommandLine

end SchemaLint
