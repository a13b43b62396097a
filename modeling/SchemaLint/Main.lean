import SchemaLint.CommandLine.Basic

/-!
# The program

The program looks at the disk once, calls `CommandLine.call` on what it saw, and then prints the transcript and stores
the cache entries that are new.  It sees the folder it was started in with everything below, the configuration in the
folders around it, the cache, and the folders of the files and schemas that its arguments name.  It has no network:
remote schemas come from the cache.
-/

namespace SchemaLint

namespace Program

/-- The entry at a path, with everything below a folder.  A link is seen as a link to where it leads in the end. -/
partial def scan (path : String) : IO Entry := do
  let real ← IO.FS.realPath path
  let found ← real.readDir
  let mut entries : Contents := []
  for item in found do
    let name := item.fileName
    let place := path ++ "/" ++ name
    try
      match (← item.path.symlinkMetadata).type with
      | .dir => entries := (name, ← scan place) :: entries
      | .file => entries := (name, .file (← IO.FS.readBinFile place).toList) :: entries
      | .symlink => entries := (name, .link (← IO.FS.realPath place).toString) :: entries
      | .other => pure ()
    catch _ => pure ()
  return .folder entries

/-- The disk with an entry at a path. -/
def graft (d : Disk) (p : Path) (e : Entry) : Disk :=
  match d.makeFolders p.parts.length p.parent with
  | (made, none) => { made with root := Disk.setAt (some e) p.parts made.root }
  | (_, some _) => d

/-- The disk with the folder at a path as it is now, if there is one. -/
def look (d : Disk) (path : String) : IO Disk := do
  try
    let real := (← IO.FS.realPath path).toString
    return graft d (.ofString real) (← scan real)
  catch _ => return d

/-- The disk with a file as it is now, if there is one. -/
def lookAtFile (d : Disk) (path : String) : IO Disk := do
  try
    let contents ← IO.FS.readBinFile path
    return graft d (.ofString path) (.file contents.toList)
  catch _ => return d

/-- The folder that a written path begins in: what stands before its first name with a wildcard, or before its last
name. -/
def folderOf (base : Path) (argument : String) : Path :=
  let p := base.join (.ofString argument)
  let plain := p.parts.takeWhile fun name => !Wildcard.hasMagic name.toList
  { p with parts := if plain.length = p.parts.length then plain.dropLast else plain }

/-- The paths outside the current folder that a call may need. -/
def neededFolders (homes : Homes) (base : Path) (arguments : List String) : List Path :=
  match CommandLine.readAll arguments with
  | .error _ => []
  | .ok given =>
    let references := CommandLine.valuesOf .validate given
    let local? (reference : String) : Option Path :=
      ((Reference.localPath homes reference).toOption).map fun p => folderOf base p.text
    ((CommandLine.filesOf given).map (folderOf base) ++ references.filterMap local?).filter fun p =>
      !base.parts.isPrefixOf p.parts && !p.parts.isEmpty

/-- All bytes of a stream. -/
partial def readAllBytes (stream : IO.FS.Stream) (seen : ByteArray) : IO ByteArray := do
  let more ← stream.read 65536
  if more.isEmpty then return seen else readAllBytes stream (seen ++ more)

def snapshot (homes : Homes) (cache : Path) (arguments : List String) : IO Disk := do
  let current := (← IO.currentDir).toString
  let base := Path.ofString current
  let mut d : Disk := { root := [], current := base }
  for folder in neededFolders homes base arguments do
    d ← look d folder.text
  for folder in base.lineage do
    d ← lookAtFile d (folder.child Config.valuesName).text
    d ← lookAtFile d (folder.child Config.ignoreName).text
  d ← look d (base.join cache).text
  look d current

def store (cache : Path) (before after : Disk) : IO Unit := do
  let old := (before.entriesOf? cache.text).getD []
  for (name, e) in (after.entriesOf? cache.text).getD [] do
    match e, old.lookup name with
    | .file contents, some (.file same) =>
      if contents != same then IO.FS.writeBinFile (cache.child name).text ⟨contents.toArray⟩
    | .file contents, _ =>
      IO.FS.createDirAll cache.text
      IO.FS.writeBinFile (cache.child name).text ⟨contents.toArray⟩
    | _, _ => pure ()

def print (t : CommandLine.Transcript) : IO Unit := do
  for line in t.printed do
    IO.println line
  for line in t.warnings do
    IO.eprintln line
  if let some line := t.complaint then IO.eprintln line
  if let some fault := t.usage then IO.eprintln fault.message
  if let some crash := t.crash then IO.eprintln crash.message

/-- Where the cache is: where the environment says, or else in the home folder. -/
def cacheFolder (homes : Homes) : IO Path := do
  let named ← IO.getEnv "JSONLINT_CACHE_DIR"
  match Cache.folder? homes none named with
  | .ok (some folder) => return folder
  | _ => return (Path.ofString homes.own).join (.ofString ".cache/jsonlint")

end Program

end SchemaLint

open SchemaLint Program in
def main (arguments : List String) : IO UInt32 := do
  let homes : Homes := { own := (← IO.getEnv "HOME").getD "/", others := [] }
  let cache ← cacheFolder homes
  let disk ← snapshot homes cache arguments
  let input ←
    if CommandLine.readsInput arguments then readAllBytes (← IO.getStdin) ByteArray.empty else pure ByteArray.empty
  let t := CommandLine.call arguments input.toList { homes, cache := { folder := cache } } { disk, network := .silent }
  print t
  store cache disk t.world.disk
  return t.exit
