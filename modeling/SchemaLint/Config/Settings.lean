import SchemaLint.LintError
import SchemaLint.Schema.Dialect
import SchemaLint.Text.Encoding
import SchemaLint.Yaml.Value

/-!
# Settings

Settings are made from layers of raw values, of which later ones win key by key.  Raw values are taken generously:
a single pattern stands for a list of one, a number of spaces for the spaces, and a number or a word for a truth
value.  All wrong values are reported together in the order of the settings.
-/

namespace SchemaLint

open Yaml (Value Entries)

/-- The settings for linting a document. -/
structure Settings where
  /-- The patterns of files that are left out. -/
  ignore : List Text
  schema : Option Text
  indent : Text
  env : Text
  quiet : Bool
  pretty : Bool
  sort : Bool
  deriving DecidableEq

namespace Settings

def defaults : Settings :=
  { ignore := ["node_modules/**/*"], schema := none, indent := "  ", env := Dialect.defaultEnvironment
    quiet := false, pretty := false, sort := false }

/-- What became of a raw value: a setting, or faults, or a crash. -/
inductive Taken (α : Type)
  | value (a : α)
  | faults (fs : List SettingFault)
  | crash (c : Crash)

def Taken.fault {α : Type} (place : List String) (problem : SettingProblem) : Taken α :=
  .faults [⟨place, problem⟩]

def Taken.found {α : Type} : Taken α → List SettingFault
  | faults fs => fs
  | _ => []

/-- A text; bytes are text if they are UTF-8. -/
def textOf? : Value → Option Text
  | .string t => some t
  | .bytes b => (Encoding.Utf8.decode b).toOption
  | _ => none

/-- What is wrong with a value that is no text. -/
def textProblem : Value → SettingProblem
  | .bytes _ => .notUnicode
  | _ => .notText

def takeText (name : String) (v : Value) : Taken Text :=
  match textOf? v with
  | some t => .value t
  | none => .fault [name] (textProblem v)

def takeTextOrNone (name : String) (v : Value) : Taken (Option Text) :=
  match v with
  | .null => .value none
  | v =>
    match textOf? v with
    | some t => .value (some t)
    | none => .fault [name] (textProblem v)

/-- The items of a value that is a list of some sort. -/
def itemsOf? : Value → Option (List Value)
  | .list items => some items
  | .set items => some items
  | .pair first second => some [first, second]
  | _ => none

def itemFaults (name : String) (items : List Value) : List SettingFault :=
  items.zipIdx.filterMap fun (v, i) =>
    if (textOf? v).isSome then none else some ⟨[name, toString i], textProblem v⟩

/-- Take a list of texts; a single text stands for a list of one. -/
def takeTexts (name : String) (v : Value) : Taken (List Text) :=
  match v with
  | .string t => .value [t]
  | v =>
    match itemsOf? v with
    | none => .fault [name] .notList
    | some items =>
      match itemFaults name items with
      | [] => .value (items.filterMap textOf?)
      | fs => .faults fs

/-- The largest number of 64 bits with a sign, and of characters that a text may be asked to have. -/
def sizeLimit : Nat := 0x7fffffffffffffff

/-- Whether an integer has 64 bits with its sign. -/
def isLong (n : Int) : Bool :=
  -(sizeLimit : Int) - 1 ≤ n && n ≤ sizeLimit

/-- The largest number of spaces that there is room for. -/
def roomLimit : Nat := 0x10000000000

/-- Take an indentation: a text, or a number of spaces. -/
def takeIndent (name : String) (v : Value) : Taken Text :=
  match v with
  | .int n =>
    if !isLong n then .crash .overflow
    else if roomLimit < n then .crash .memory
    else .value (List.replicate n.toNat (.scalar ' '))
  | v => takeText name v

def flagWords : List (String × Bool) :=
  [("0", false), ("off", false), ("f", false), ("false", false), ("n", false), ("no", false), ("1", true),
    ("on", true), ("t", true), ("true", true), ("y", true), ("yes", true)]

/-- A word as a truth value; it must be a string proper. -/
def flagOfWord (name : String) (word : Text) : Taken Bool :=
  match word.mapM CodePoint.char? with
  | none => .fault [name] .notUnicode
  | some word =>
    match flagWords.lookup (String.ofList (word.map Char.toLower)) with
    | some b => .value b
    | none => .fault [name] .unreadableFlag

/-- A number as a truth value: zero or one. -/
def flagOfInt (name : String) (n : Int) : Taken Bool :=
  if !isLong n then .fault [name] .notFlag
  else if n = 0 then .value false
  else if n = 1 then .value true
  else .fault [name] .unreadableFlag

/-- Take a truth value: itself, a word for it, or zero or one. -/
def takeFlag (name : String) (v : Value) : Taken Bool :=
  match v with
  | .bool b => .value b
  | .int n => flagOfInt name n
  | .float x =>
    match x.toRatio? with
    | some (num, den) =>
      if num % (den : Int) != 0 || num / (den : Int) = -(sizeLimit : Int) - 1 then .fault [name] .notFlag
      else flagOfInt name (num / (den : Int))
    | none => .fault [name] .notFlag
  | .string word => flagOfWord name word
  | .bytes b =>
    match Encoding.Utf8.decode b with
    | .ok word => flagOfWord name word
    | .error _ => .fault [name] .unreadableFlag
  | _ => .fault [name] .notFlag

/-- Take the setting of a name from raw values; without one it keeps its default. -/
def takeFrom {α : Type} (raw : Entries) (name : String) (fallback : α) (take : String → Value → Taken α) : Taken α :=
  match raw.get? name with
  | some v => take name v
  | none => .value fallback

/-- The reference of the schema goes by two names, of which the first one wins where both are used together. -/
def takeSchema (raw : Entries) : Taken (Option Text) :=
  match raw.get? "validate" with
  | some v => takeTextOrNone "validate" v
  | none => takeFrom raw "schema_uri" defaults.schema takeTextOrNone

def ofRaw (raw : Entries) : Except Failed Settings :=
  let ignore := takeFrom raw "ignore" defaults.ignore takeTexts
  let schema := takeSchema raw
  let indent := takeFrom raw "indent" defaults.indent takeIndent
  let env := takeFrom raw "env" defaults.env takeText
  let quiet := takeFrom raw "quiet" defaults.quiet takeFlag
  let pretty := takeFrom raw "pretty" defaults.pretty takeFlag
  let sort := takeFrom raw "sort" defaults.sort takeFlag
  match indent with
  | .crash c => .error (.crash c)
  | _ =>
    match ignore, schema, indent, env, quiet, pretty, sort with
    | .value ignore, .value schema, .value indent, .value env, .value quiet, .value pretty, .value sort =>
      .ok { ignore, schema, indent, env, quiet, pretty, sort }
    | _, _, _, _, _, _, _ =>
      .error (.error (.settings (ignore.found ++ schema.found ++ indent.found ++ env.found ++ quiet.found ++
        pretty.found ++ sort.found)))

/-- The layers as one, later ones winning key by key. -/
def layered (layers : List Entries) : Entries :=
  layers.foldl Entries.update []

def ofLayers (layers : List Entries) : Except Failed Settings :=
  ofRaw (layered layers)

end Settings

end SchemaLint
