import SchemaLint.LintError
import SchemaLint.Files.Path
import SchemaLint.Text.Encoding
import SchemaLint.Text.Quoted

/-!
# Disks

A disk is a tree of folders, files and links, together with the folder in which relative paths begin.  A name leads to
what the folder holds under it; a link leads to wherever its own text leads from there.  Only so many links are
followed on one way, so that links that lead to each other end in a refusal.
-/

namespace SchemaLint

/-- What a name in a folder stands for. -/
inductive Entry
  | file (contents : Bytes)
  | folder (entries : List (String × Entry))
  | link (target : String)

abbrev Contents := List (String × Entry)

/-- What a name stands for, whatever lies below it. -/
inductive Kind
  | file (contents : Bytes)
  | folder
  | link (target : String)
  deriving DecidableEq

def Entry.kind : Entry → Kind
  | file contents => .file contents
  | folder _ => .folder
  | link target => .link target

/-- Why a path leads nowhere or cannot be used. -/
inductive FileFault
  | missing
  | present
  | notFolder
  | isFolder
  | nameTooLong
  | tooManyLinks
  | notEmpty
  | badCharacter
  deriving DecidableEq

namespace FileFault

def wording : FileFault → Nat × String
  | missing => (2, "No such file or directory")
  | present => (17, "File exists")
  | notFolder => (20, "Not a directory")
  | isFolder => (21, "Is a directory")
  | nameTooLong => (36, "File name too long")
  | notEmpty => (39, "Directory not empty")
  | tooManyLinks => (40, "Too many levels of symbolic links")
  | badCharacter => (22, "Invalid argument")

/-- The message of a refusal that concerns a path. -/
def message (f : FileFault) (path : String) : String :=
  let (number, words) := f.wording
  let shown := quoted path
  s!"[Errno {number}] {words}: {shown}"

/-- The crash that a refusal ends in where nobody deals with it. -/
def crash (f : FileFault) (path : String) : Crash :=
  match f with
  | badCharacter => .value
  | f => .os (f.message path)

end FileFault

/-- A disk and the folder in which relative paths begin. -/
structure Disk where
  root : Contents
  current : Path

namespace Disk

/-- The number of bytes that a name may have. -/
def nameLimit : Nat := 255

/-- The number of bytes that a written path may have. -/
def pathLimit : Nat := 4095

/-- The number of links that are followed on one way. -/
def linkLimit : Nat := 40

/-- The names that a written path goes through. -/
def steps (path : String) : List String :=
  (splitChars '/' path.toList).map String.ofList

def isRooted (path : String) : Bool :=
  path.toList.head? = some '/'

/-- The entry under the names of a way without links. -/
def entryAt? (entries : Contents) : List String → Option Entry
  | [] => some (.folder entries)
  | name :: rest =>
    match entries.lookup name with
    | some (.folder inner) => entryAt? inner rest
    | some e => if rest.isEmpty then some e else none
    | none => none

/-- What the names of a way without links stand for. -/
def kindAt? (entries : Contents) (way : List String) : Option Kind :=
  (entryAt? entries way).map Entry.kind

/-- Go on from a folder along names up to the first link that is to be followed; `follow` goes on from there.  The last
link is followed only if `last` says so. -/
def stroll (kind : List String → Option Kind) (last : Bool)
    (follow : List String → String → List String → Except FileFault (List String)) :
    List String → List String → Except FileFault (List String)
  | way, [] => .ok way
  | way, name :: rest =>
    if name = "" || name = "." then stroll kind last follow way rest
    else if name = ".." then stroll kind last follow way.dropLast rest
    else if nameLimit < name.utf8ByteSize then .error .nameTooLong
    else
      match kind (way ++ [name]) with
      | none => .error .missing
      | some .folder => stroll kind last follow (way ++ [name]) rest
      | some (.file _) => if rest.isEmpty then .ok (way ++ [name]) else .error .notFolder
      | some (.link target) =>
        if rest.isEmpty && !last then .ok (way ++ [name]) else follow way target rest

/-- Go along names and follow the links on the way, of which there may be only so many. -/
def walk (kind : List String → Option Kind) (last : Bool) : Nat → List String → List String →
    Except FileFault (List String)
  | 0 => stroll kind last fun _ _ _ => .error .tooManyLinks
  | links + 1 => stroll kind last fun way target rest =>
    if target.isEmpty then .error .missing
    else walk kind last links (if isRooted target then [] else way) (steps target ++ rest)

/-- The names on the way from the root to where a written path leads, once all links are followed. -/
def locate (d : Disk) (last : Bool) (path : String) : Except FileFault (List String) :=
  if path.toList.contains '\x00' then .error .badCharacter
  else if path.isEmpty then .error .missing
  else if pathLimit < path.utf8ByteSize then .error .nameTooLong
  else walk (kindAt? d.root) last linkLimit [] (if isRooted path then steps path else d.current.parts ++ steps path)

/-- What a written path leads to, and the names on the way there. -/
def find (d : Disk) (last : Bool) (path : String) : Except FileFault (List String × Entry) :=
  match d.locate last path with
  | .error fault => .error fault
  | .ok way =>
    match entryAt? d.root way with
    | some e => .ok (way, e)
    | none => .error .missing

def readFile (d : Disk) (path : String) : Except FileFault Bytes := do
  match ← d.find true path with
  | (_, .file contents) => return contents
  | _ => throw .isFolder

/-- Whether a path leads to a file; only a name that is too long is worth a refusal. -/
def isFile (d : Disk) (path : String) : Except FileFault Bool :=
  match d.find true path with
  | .ok (_, .file _) => .ok true
  | .error .nameTooLong => .error .nameTooLong
  | _ => .ok false

def isFolder (d : Disk) (path : String) : Bool :=
  match d.find true path with
  | .ok (_, .folder _) => true
  | _ => false

/-- Whether there is something at a path, be it a link that leads nowhere. -/
def isPresent (d : Disk) (path : String) : Bool :=
  (d.find false path).isOk

/-- The entries of the folder that a path leads to. -/
def entriesOf? (d : Disk) (path : String) : Option Contents :=
  match d.find true path with
  | .ok (_, .folder entries) => some entries
  | _ => none

/-! ## Real paths -/

/-- A step that is still to be taken: a name, or the note that the way behind a link is complete. -/
inductive Pending
  | name (n : String)
  | done (link : List String)

/-- The names among pending steps. -/
def namesLeft (pending : List Pending) : List String :=
  pending.filterMap fun p =>
    match p with
    | .name n => some n
    | .done _ => none

/-- Resolve double dots without looking at the disk. -/
def normalize (names : List String) : List String :=
  (names.foldl
    (fun (way : List String) name =>
      if name = "" || name = "." then way else if name = ".." then way.tail else name :: way)
    []).reverse

/-- Follow all links; names that lead nowhere stay as they are.  A way that comes back to a link that is not resolved yet
ends there. -/
def realNames (root : Contents) :
    Nat → List String → List Pending → List (List String × Option (List String)) → List String
  | 0, way, pending, _ => normalize (way ++ namesLeft pending)
  | fuel + 1, way, pending, seen =>
    match pending with
    | [] => way
    | .done link :: rest => realNames root fuel way rest ((link, some way) :: seen)
    | .name name :: rest =>
      if name = "" || name = "." then realNames root fuel way rest seen
      else if name = ".." then realNames root fuel way.dropLast rest seen
      else
        let here := way ++ [name]
        match entryAt? root here with
        | some (.link target) =>
          match seen.lookup here with
          | some (some known) => realNames root fuel known rest seen
          | some none => normalize (here ++ namesLeft rest)
          | none =>
            realNames root fuel (if isRooted target then [] else way)
              ((steps target).map Pending.name ++ .done here :: rest) ((here, none) :: seen)
        | _ => realNames root fuel here rest seen

mutual

/-- The number of steps that all links of a folder can add to a way. -/
def linkSteps : List (String × Entry) → Nat
  | [] => 0
  | (_, e) :: rest => linkStepsOf e + linkSteps rest

/-- The number of steps that the links of an entry can add to a way. -/
def linkStepsOf : Entry → Nat
  | .file _ => 0
  | .folder entries => linkSteps entries
  | .link target => (steps target).length + 1

end

/-- The path with all links followed.  Links that lead to each other are a crash. -/
def realPath (d : Disk) (p : Path) : Except Crash Path :=
  let names := p.parts
  if names.any fun n => n.toList.contains '\x00' then .error .value
  else
    let names := if p.start = .here then d.current.parts ++ names else names
    let real := realNames d.root (names.length + linkSteps d.root + 1) [] (names.map Pending.name) []
    let found : Path := ⟨.root, real⟩
    match d.find true found.text with
    | .error .tooManyLinks => .error .runtime
    | _ => .ok found

/-! ## Changing a disk -/

/-- Let a name in a folder stand for an entry. -/
def putEntry (name : String) (e : Entry) : Contents → Contents
  | [] => [(name, e)]
  | (n, old) :: rest => if n = name then (n, e) :: rest else (n, old) :: putEntry name e rest

/-- Change what a name in a folder stands for; nothing means that the name is taken away. -/
def setEntry (name : String) : Option Entry → Contents → Contents
  | some e, entries => putEntry name e entries
  | none, entries => entries.filter fun entry => entry.1 != name

/-- Change what the names of a way without links stand for. -/
def setAt (e : Option Entry) : List String → Contents → Contents
  | [], entries => entries
  | [name], entries => setEntry name e entries
  | name :: rest, entries =>
    match entries.lookup name with
    | some (.folder inner) => setEntry name (some (.folder (setAt e rest inner))) entries
    | _ => entries

/-- The folder in which the last name of a path lies, as names without links, and that name. -/
def container (d : Disk) (p : Path) : Except FileFault (List String × String) := do
  let name := p.parts.getLast?.getD ""
  if nameLimit < name.utf8ByteSize then throw .nameTooLong
  match ← d.find true p.parent.text with
  | (names, .folder _) => return (names, name)
  | _ => throw .notFolder

def makeFolder (d : Disk) (p : Path) : Except FileFault Disk := do
  match d.find false p.text with
  | .ok _ => throw .present
  | .error .missing =>
    let (names, name) ← d.container p
    return { d with root := setAt (some (.folder [])) (names ++ [name]) d.root }
  | .error fault => throw fault

def ensureFolder (d : Disk) (p : Path) : Except FileFault Disk :=
  match d.makeFolder p with
  | .ok d => .ok d
  | .error fault => if d.isFolder p.text then .ok d else .error fault

/-- The disk after a change that may have been refused, and why it was. -/
def outcome (d : Disk) : Except FileFault Disk → Disk × Option FileFault
  | .ok changed => (changed, none)
  | .error fault => (d, some fault)

/-- Make a folder and the folders around it that are missing; one that is there is left alone.  If one of them is refused,
those around it stay that were made before.  `depth` bounds how many are made. -/
def makeFolders : Nat → Disk → Path → Disk × Option FileFault
  | 0, d, p => d.outcome (d.ensureFolder p)
  | depth + 1, d, p =>
    match d.ensureFolder p with
    | .error .missing =>
      match makeFolders depth d p.parent with
      | (d, none) => d.outcome (d.ensureFolder p)
      | refused => refused
    | made => d.outcome made

/-- Where a new file at a path comes to lie, as names without links: a link that leads nowhere yet is followed. -/
def landing (d : Disk) : Nat → Path → Except FileFault (List String)
  | 0, _ => .error .tooManyLinks
  | links + 1, p => do
    let (names, name) ← d.container p
    match entryAt? d.root (names ++ [name]) with
    | some (.link target) => landing d links (Path.join ⟨.root, names⟩ (.ofString target))
    | _ => return names ++ [name]

/-- Write a file; a link is followed to the file that is written. -/
def writeFile (d : Disk) (p : Path) (contents : Bytes) : Except FileFault Disk := do
  match d.find true p.text with
  | .ok (names, .file _) => return { d with root := setAt (some (.file contents)) names d.root }
  | .ok _ => throw .isFolder
  | .error .missing =>
    let names ← d.landing linkLimit p
    return { d with root := setAt (some (.file contents)) names d.root }
  | .error fault => throw fault

def makeLink (d : Disk) (p : Path) (target : String) : Except FileFault Disk := do
  match d.find false p.text with
  | .ok _ => throw .present
  | .error .missing =>
    let (names, name) ← d.container p
    return { d with root := setAt (some (.link target)) (names ++ [name]) d.root }
  | .error fault => throw fault

def remove (d : Disk) (p : Path) : Except FileFault Disk := do
  match ← d.find false p.text with
  | (_, .folder _) => throw .isFolder
  | (names, _) => return { d with root := setAt none names d.root }

/-- Why nothing can be put at a path, if so: a folder stays where it is, and a path that cannot be is refused. -/
def refusal? (d : Disk) (target : Path) : Option FileFault :=
  match d.find false target.text with
  | .ok (_, .folder _) => some .isFolder
  | .ok _ => none
  | .error .missing => none
  | .error fault => some fault

/-- Put a file in the place of another path, which must be no folder. -/
def replace (d : Disk) (source target : Path) : Except FileFault Disk := do
  match ← d.find false source.text with
  | (_, .folder _) => throw .isFolder
  | (names, moved) =>
    let (folder, name) ← d.container target
    match d.refusal? target with
    | some fault => throw fault
    | none =>
      let without := setAt none names d.root
      return { d with root := setAt (some moved) (folder ++ [name]) without }

end Disk

end SchemaLint
