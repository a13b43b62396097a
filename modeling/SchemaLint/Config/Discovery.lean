import SchemaLint.Config.IgnoreFile
import SchemaLint.Config.Settings
import SchemaLint.Files.Disk
import SchemaLint.Yaml.Reader

/-!
# Finding the configuration

The configuration of a folder lies in files of two names, in the folder itself and in every folder around it.  Nearer
values win over farther ones; ignore patterns add up, the farthest first, and follow those that the values give.
-/

namespace SchemaLint

open Yaml (Value Entries)

namespace Config

def valuesName : String := ".jsonlintrc"

def ignoreName : String := ".jsonlintignore"

/-- The text of a file; bytes that are no text are a crash. -/
def decoded (bytes : Bytes) : Except Failed (List Char) :=
  match Encoding.Utf8.decode bytes with
  | .ok t => .ok (t.map CodePoint.toChar)
  | .error _ => .error (.crash .decoding)

/-- The bytes of a file; a refusal is an error of the configuration. -/
def fileBytes (d : Disk) (p : Path) (what : String) : Except Failed Bytes :=
  match d.readFile p.text with
  | .ok bytes => .ok bytes
  | .error .badCharacter => .error (.crash .value)
  | .error fault =>
    let reason := fault.message p.text
    .error (.error (.config s!"Failed to read {what} file: {reason}" (some p.text)))

/-- What a file that is not YAML fails with.  To come to bytes that are no text is a crash, and so are values that cannot
be. -/
def yamlFailure (p : Path) (stop : Option Yaml.Stop) (fault : Yaml.Fault) : Failed :=
  match fault, stop with
  | .cut, some .undecodable => .crash .decoding
  | .cut, _ | .malformed, _ => .error (.config "Invalid YAML in config file: <detail>" (some p.text))
  | .value, _ => .crash .value
  | .overflow, _ => .crash .overflow
  | .unknownWord, _ => .crash .key
  | .noCharacters, _ => .crash .index
  | .noTime, _ => .crash .attribute
  | .tooDeep, _ => .crash .recursion

/-- The values of a source: a mapping, which may be left out. -/
def valuesIn (p : Path) (source : Yaml.Source) : Except Failed Entries :=
  match Yaml.read source with
  | .error fault => .error (yamlFailure p source.stop fault)
  | .ok .null => .ok []
  | .ok (.mapping entries) => .ok entries
  | .ok _ => .error (.error (.config "Config file must contain a mapping" (some p.text)))

def readValues (d : Disk) (p : Path) : Except Failed Entries := do
  valuesIn p (.ofBytes (← fileBytes d p "config"))

def readIgnore (d : Disk) (p : Path) : Except Failed (List String) := do
  let text ← decoded (← fileBytes d p "ignore")
  return IgnoreFile.read text

/-- The folders in which the configuration of a folder may lie, the farthest first. -/
def searched (d : Disk) (folder : Path) : Except Failed (List Path) :=
  match d.realPath folder with
  | .ok real => .ok real.lineage
  | .error c => .error (.crash c)

/-- The file of a name in a folder, if there is one. -/
def fileIn? (d : Disk) (name : String) (folder : Path) : Except Failed (Option Path) :=
  let p := folder.child name
  match d.isFile p.text with
  | .error fault => .error (.crash (fault.crash p.text))
  | .ok found => .ok (if found then some p else none)

/-- Read the values of folders one after the other. -/
def valuesOf (d : Disk) (values : Entries) : List Path → Except Failed Entries
  | [] => .ok values
  | folder :: rest => do
    match ← fileIn? d valuesName folder with
    | some p => valuesOf d (values.update (← readValues d p)) rest
    | none => valuesOf d values rest

/-- Read the patterns of folders one after the other. -/
def ignoreOf (d : Disk) (patterns : List String) : List Path → Except Failed (List String)
  | [] => .ok patterns
  | folder :: rest => do
    match ← fileIn? d ignoreName folder with
    | some p => ignoreOf d ((← readIgnore d p).foldl IgnoreFile.addOnce patterns) rest
    | none => ignoreOf d patterns rest

def loadValues (d : Disk) (folder : Path) : Except Failed Entries := do
  valuesOf d [] (← searched d folder)

def loadIgnore (d : Disk) (folder : Path) : Except Failed (List String) := do
  ignoreOf d [] (← searched d folder)

/-- Whether a value counts as given. -/
def isGivenValue : Value → Bool
  | .null => false
  | .bool b => b
  | .int n => n != 0
  | .float x => !x.isZero
  | .string t => !t.isEmpty
  | .bytes b => !b.isEmpty
  | .list items => !items.isEmpty
  | .set items => !items.isEmpty
  | .mapping entries => !entries.isEmpty
  | .date _ | .pair _ _ | .endless => true

/-- The patterns that a value gives, as raw values: a list, the keys of a mapping, or a single text. -/
def givenPatterns (v : Option Value) : Except Failed (List Value) :=
  match v with
  | none => .ok []
  | some v =>
    if !isGivenValue v then .ok []
    else
      match v with
      | .string _ => .ok [v]
      | .list items => .ok items
      | .set items => .ok items
      | .pair first second => .ok [first, second]
      | .mapping entries => .ok (entries.map Prod.fst)
      | .bytes b => .ok (b.map fun byte => .int byte.toNat)
      | _ => .error (.crash .type)

/-- The values of a folder with the patterns of its ignore files behind its own. -/
def combined (values : Entries) (patterns : List String) : Except Failed Entries :=
  if patterns.isEmpty then .ok values
  else do
    let own ← givenPatterns (values.get? "ignore")
    let all := own ++ patterns.map fun (p : String) => Value.string p
    return values.put (.string (Text.ofString "ignore")) (.list all)

/-- The settings that hold in a folder, or anywhere if there is none, when some values are given explicitly. -/
def resolve (d : Disk) (overrides : Entries) (folder : Option Path) : Except Failed Settings :=
  match folder with
  | none => Settings.ofLayers [overrides]
  | some folder => do
    let values ← loadValues d folder
    let patterns ← loadIgnore d folder
    Settings.ofLayers [← combined values patterns, overrides]

end Config

end SchemaLint
