/-!
# Arguments of the command line

An argument that begins with a dash names options; every other one is a file, and so is everything behind two dashes
alone.  A long option may have its value behind an equals sign.  Short options may stand together behind one dash: the
first of them that takes a value takes what is left of the argument, or the next argument if nothing is left.

Reading the arguments gives what they say in their order, or the first fault.  Options are never abbreviated.
-/

namespace SchemaLint

namespace CommandLine

/-- An option without a value. -/
inductive Flag
  | quiet
  | pretty
  | sort
  | verbose
  | version
  | help
  deriving DecidableEq

/-- An option with a value. -/
inductive Field
  | ignore
  | validate
  | indent
  | env
  deriving DecidableEq

/-- An option. -/
inductive Choice
  | flag (f : Flag)
  | field (f : Field)
  deriving DecidableEq

def longNames : List (String × Choice) :=
  [("--ignore", .field .ignore), ("--validate", .field .validate), ("--indent", .field .indent), ("--env", .field .env),
    ("--quiet", .flag .quiet), ("--pretty", .flag .pretty), ("--sort", .flag .sort), ("--verbose", .flag .verbose),
    ("--version", .flag .version), ("--help", .flag .help)]

/-- The short names of options, which stand behind a dash. -/
def shortNames : List (Char × Choice) :=
  [('i', .field .ignore), ('s', .field .validate), ('w', .field .indent), ('e', .field .env), ('q', .flag .quiet),
    ('p', .flag .pretty), ('v', .flag .version), ('h', .flag .help)]

/-- What an argument says. -/
inductive Given
  | flag (f : Flag)
  | field (f : Field) (value : String)
  | file (name : String)
  deriving DecidableEq

/-- What is wrong with the arguments. -/
inductive UsageFault
  | unknown (name : String)
  | noValue (name : String)
  /-- A value for an option that takes none. -/
  | needlessValue (name : String)
  deriving DecidableEq

def UsageFault.message : UsageFault → String
  | unknown name => s!"No such option: {name}"
  | noValue name => s!"Option '{name}' requires an argument."
  | needlessValue name => s!"Option '{name}' does not take a value."

/-- What an argument says, and the option that waits for the next argument as its value. -/
structure Reading where
  given : List Given
  waiting : Option (Field × String)

def readShort : List Char → Except UsageFault Reading
  | [] => .ok ⟨[], none⟩
  | c :: rest =>
    let name := String.ofList ['-', c]
    match shortNames.lookup c with
    | none => .error (.unknown name)
    | some (.flag f) => (readShort rest).map fun reading => { reading with given := .flag f :: reading.given }
    | some (.field f) =>
      if rest.isEmpty then .ok ⟨[], some (f, name)⟩ else .ok ⟨[.field f (String.ofList rest)], none⟩

/-- Read an argument that begins with a dash.  It is one long option if it has the name of one, and else short options,
unless it begins with two dashes. -/
def readOptions (argument : List Char) : Except UsageFault Reading :=
  let written := argument.takeWhile (· != '=')
  let name := String.ofList written
  let value := argument.drop (written.length + 1)
  let hasValue := argument.contains '='
  match longNames.lookup name with
  | some (.flag f) => if hasValue then .error (.needlessValue name) else .ok ⟨[.flag f], none⟩
  | some (.field f) => if hasValue then .ok ⟨[.field f (String.ofList value)], none⟩ else .ok ⟨[], some (f, name)⟩
  | none =>
    match argument with
    | '-' :: '-' :: _ => .error (.unknown name)
    | _ => readShort argument.tail

def isOptions (argument : String) : Bool :=
  match argument.toList with
  | '-' :: _ :: _ => true
  | _ => false

def readAll : List String → Except UsageFault (List Given)
  | [] => .ok []
  | argument :: rest =>
    if argument = "--" then .ok (rest.map Given.file)
    else if !isOptions argument then (readAll rest).map fun more => .file argument :: more
    else do
      let reading ← readOptions argument.toList
      match reading.waiting, rest with
      | none, rest => return reading.given ++ (← readAll rest)
      | some (_, name), [] => throw (.noValue name)
      | some (f, _), value :: rest => return reading.given ++ .field f value :: (← readAll rest)

end CommandLine

end SchemaLint
