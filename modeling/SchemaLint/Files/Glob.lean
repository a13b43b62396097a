import SchemaLint.Files.Disk
import SchemaLint.Files.Wildcard

/-!
# Globs

A glob is a written path whose names may be wildcard patterns.  It is expanded from its last name backwards: the part
before it is expanded first if it has patterns of its own, and the last name is then looked for in each folder found.
A name of two stars alone stands for the folder itself and everything below it.  Patterns pass over names that begin
with a dot unless they begin with one themselves.
-/

namespace SchemaLint

namespace Glob

/-- Cut a written path before its last name; slashes at the end of the first part are dropped unless it has nothing
else. -/
def cutLast (path : List Char) : List Char × List Char :=
  let tail := (path.reverse.takeWhile (· != '/')).reverse
  let head := path.take (path.length - tail.length)
  let bare := (head.reverse.dropWhile (· = '/')).reverse
  (if bare.isEmpty then head else bare, tail)

/-- A written path seen from another one. -/
def joined (folder name : List Char) : List Char :=
  if name.head? = some '/' then name
  else if folder.isEmpty || folder.getLast? = some '/' then folder ++ name
  else folder ++ '/' :: name

/-- Like `joined`, but nothing is added to or by an empty path. -/
def joinedLoosely (folder name : List Char) : List Char :=
  if folder.isEmpty then name else if name.isEmpty then folder else joined folder name

def isHidden (name : List Char) : Bool :=
  name.head? = some '.'

/-- Whether a name stands for a folder and everything below it. -/
def isRecursive (name : List Char) : Bool :=
  name = ['*', '*']

/-- The written form of a path for the disk, where an empty one means the current folder. -/
def written (path : List Char) : String :=
  if path.isEmpty then "." else String.ofList path

/-- The names in a folder, or only those that lead to folders. -/
def namesIn (d : Disk) (foldersOnly : Bool) (folder : List Char) : List (List Char) :=
  let entries := (d.entriesOf? (written folder)).getD []
  let leadsToFolder (entry : String × Entry) : Bool :=
    match entry.2 with
    | .folder _ => true
    | .file _ => false
    | .link _ => d.isFolder (written (joined folder entry.1.toList))
  (entries.filter fun entry => !foldersOnly || leadsToFolder entry).map fun entry => entry.1.toList

/-- The names in a folder that a pattern matches. -/
def matching (d : Disk) (foldersOnly : Bool) (folder pattern : List Char) : List (List Char) :=
  let parts := Wildcard.read pattern
  (namesIn d foldersOnly folder).filter fun name =>
    (isHidden pattern || !isHidden name) && Wildcard.fits parts name

/-- A name as it stands; an empty one is there if the path before it is a folder. -/
def literal (d : Disk) (folder name : List Char) : List (List Char) :=
  let found :=
    if name.isEmpty then d.isFolder (written folder) else d.isPresent (written (joinedLoosely folder name))
  if found then [name] else []

/-- Everything below a folder whose names do not begin with a dot.  The bound is on the number of names in a path, which
is limited, so that links that lead back up end somewhere. -/
def below (d : Disk) (foldersOnly : Bool) : Nat → List Char → List (List Char)
  | 0, _ => []
  | depth + 1, folder =>
    (namesIn d foldersOnly folder).flatMap fun name =>
      if isHidden name then []
      else name :: (below d foldersOnly depth (joinedLoosely folder name)).map (joinedLoosely name)

/-- What a last name stands for in a folder.  What lies before two stars may be a file, below which there is nothing. -/
def lastName (d : Disk) (foldersOnly : Bool) (folder name : List Char) : List (List Char) :=
  if Wildcard.hasMagic name then
    if isRecursive name then
      let itself : List (List Char) := if folder.isEmpty || d.isFolder (written folder) then [[]] else []
      itself ++ below d foldersOnly Disk.pathLimit folder
    else matching d foldersOnly folder name
  else literal d folder name

/-- Expand a glob below a base folder; `fuel` bounds the number of names in it. -/
def expandFrom (d : Disk) (base : List Char) : Nat → Bool → List Char → List (List Char)
  | 0, _, _ => []
  | fuel + 1, foldersOnly, path =>
    let (head, name) := cutLast path
    if !Wildcard.hasMagic path then
      let found :=
        if name.isEmpty then d.isFolder (written (joinedLoosely base head))
        else d.isPresent (written (joinedLoosely base path))
      if found then [path] else []
    else if head.isEmpty then lastName d foldersOnly base name
    else
      let folders := if head != path && Wildcard.hasMagic head then expandFrom d base fuel true head else [head]
      folders.flatMap fun folder =>
        (lastName d foldersOnly (joinedLoosely base folder) name).map (joined folder)

/-- The texts that a glob stands for below a base folder.  Two stars at the beginning stand for the base folder itself,
which has no text of its own and is left out. -/
def expand (d : Disk) (base : Path) (glob : List Char) : List (List Char) :=
  let found := expandFrom d base.text.toList (glob.length + 1) false glob
  if glob.isEmpty || isRecursive (glob.take 2) then
    match found with
    | [] :: rest => rest
    | _ => found
  else found

/-- Whether a glob asks for the names in a folder that no path can name; only names before the first wildcard count. -/
def asksForbidden (glob : List Char) : Bool :=
  let names := splitChars '/' glob
  let plain := names.takeWhile fun name => !Wildcard.hasMagic name
  plain.length < names.length && plain.any fun name => name.contains '\x00'

/-- Whether a text comes no later than another in the order of their code points. -/
def inOrder : List Char → List Char → Bool
  | [], _ => true
  | _ :: _, [] => false
  | a :: r, b :: s => if a = b then inOrder r s else a.toNat < b.toNat

/-- The texts in the order of their code points. -/
def sorted (texts : List (List Char)) : List (List Char) :=
  texts.mergeSort inOrder

end Glob

/-! ## Selecting files -/

/-- The candidates of one argument: itself if it names a file, and else what it stands for as a glob. -/
def candidates (d : Disk) (base : Path) (argument : String) : Except Crash (List String) :=
  let named := (base.join (.ofString argument)).text
  match d.isFile named with
  | .error fault => .error (fault.crash named)
  | .ok true => .ok [argument]
  | .ok false =>
    if Glob.asksForbidden argument.toList then .error .value
    else .ok ((Glob.sorted (Glob.expand d base argument.toList)).map String.ofList)

/-- The files that were selected, with their paths once all links are followed. -/
structure Selection where
  paths : List Path
  seen : List Path

/-- Select a candidate if it is a file that is neither ignored nor selected already. -/
def Selection.add (d : Disk) (base : Path) (ignore : List String) (s : Selection) (candidate : String) :
    Except Crash Selection := do
  let path := base.join (.ofString candidate)
  match d.isFile path.text with
  | .error fault => throw (fault.crash path.text)
  | .ok false => return s
  | .ok true =>
    if isIgnored (Path.ofString candidate).text ignore then return s
    let real ← d.realPath path
    if s.seen.contains real then return s
    return { paths := s.paths ++ [path], seen := s.seen ++ [real] }

/-- The files that arguments select, in the order of the arguments and sorted within each. -/
def selectFiles (d : Disk) (arguments ignore : List String) (base : Path) : Except Crash (List Path) := do
  let start : Selection := ⟨[], []⟩
  let selection ← arguments.foldlM
    (fun s argument => do (← candidates d base argument).foldlM (Selection.add d base ignore) s) start
  return selection.paths

end SchemaLint
