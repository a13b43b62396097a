import SchemaLint.Cache.Digest
import SchemaLint.Files.Disk
import SchemaLint.Reference

/-!
# The cache of remote schemas

A folder holds one file for each remote reference, named by the digest of the reference.  Whatever goes wrong with a
file is taken for its absence, so that a broken cache is no worse than none.
-/

namespace SchemaLint

/-- A cache is the folder of its entries. -/
structure Cache where
  folder : Path

namespace Cache

def key (reference : String) : String :=
  digest (Encoding.Utf8.encode reference)

/-- The name of the file that holds the schema of a reference. -/
def entryName (reference : String) : String :=
  key reference ++ ".json"

def entry (c : Cache) (reference : String) : Path :=
  c.folder.child (entryName reference)

/-- The entry of a reference, if it can be read. -/
def read (c : Cache) (d : Disk) (reference : String) : Option Bytes :=
  (d.readFile (c.entry reference).text).toOption

/-! ## Where the cache is -/

/-- The folder of a cache that is told where to be: an explicit one, or else the one that the environment names. -/
def folder? (homes : Homes) (explicit named : Option String) : Except Crash (Option Path) :=
  match explicit with
  | some folder => .ok (some (.ofString folder))
  | none =>
    match named with
    | none | some "" => .ok none
    | some folder => (homes.expand (.ofString folder)).map some

end Cache

end SchemaLint
