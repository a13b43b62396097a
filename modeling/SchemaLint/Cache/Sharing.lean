import SchemaLint.Cache.Writing

/-!
# Writers that share a cache

Several entries are written at the same time, by threads or by programs that do not know of each other.  Their steps come
in any order, and the disk may refuse any of them.  What is then read of an entry depends on nothing but the order in
which new files took the place of entries, so that this order is recorded.
-/

namespace SchemaLint

namespace Cache

/-- How a writing ends whose next step is refused. -/
def Writing.refused : Writing → Writing
  | ended written => ended written
  | folder | creation | filling _ | installing _ => ended false

/-- Some contents on their way to the entry of a reference. -/
structure Writer where
  reference : String
  contents : Bytes
  writing : Writing

namespace Writer

/-- What comes of the next step of a writer, and of the disk. -/
def next (c : Cache) (d : Disk) (w : Writer) (granted : Bool) : Writing × Disk :=
  if granted then c.writeStep w.reference w.contents d w.writing else (w.writing.refused, abandon d w.writing)

/-- Whether the next step of a writer puts its file in the place of the entry. -/
def renames (c : Cache) (d : Disk) (w : Writer) (granted : Bool) : Bool :=
  match w.writing with
  | .installing temporary => granted && (d.replace temporary (c.entry w.reference)).isOk
  | _ => false

end Writer

/-- The next step of one of the writers, which the disk may refuse. -/
structure Turn where
  writer : Nat
  granted : Bool

/-- Writers and their disk. -/
structure Sharing where
  writers : List Writer
  disk : Disk

namespace Sharing

/-- Some contents are to be written for each of some references. -/
def start (writes : List (String × Bytes)) (d : Disk) : Sharing :=
  ⟨writes.map fun (reference, contents) => ⟨reference, contents, .folder⟩, d⟩

def take (c : Cache) (σ : Sharing) (t : Turn) : Sharing :=
  match σ.writers[t.writer]? with
  | none => σ
  | some w =>
    let next := w.next c σ.disk t.granted
    ⟨σ.writers.set t.writer { w with writing := next.1 }, next.2⟩

def after (c : Cache) (σ : Sharing) (history : List Turn) : Sharing :=
  history.foldl (take c) σ

/-- Whether a turn puts a file in the place of an entry. -/
def renames (c : Cache) (σ : Sharing) (t : Turn) : Bool :=
  match σ.writers[t.writer]? with
  | none => false
  | some w => w.renames c σ.disk t.granted

/-- The writers whose files took the place of their entries, in the order in which they did. -/
def renamed (c : Cache) (σ : Sharing) : List Turn → List Nat
  | [] => []
  | t :: rest =>
    let later := renamed c (σ.take c t) rest
    if σ.renames c t then t.writer :: later else later

def isOver (σ : Sharing) : Bool :=
  σ.writers.all fun w => w.writing.left == 0

end Sharing

/-- The contents that a writer is there for, if its entry has the name of a reference. -/
def contentsFor? (writes : List (String × Bytes)) (reference : String) (writer : Nat) : Option Bytes :=
  match writes[writer]? with
  | some (other, contents) => if key other = key reference then some contents else none
  | none => none

/-- What was put last in the place of the entry of a reference. -/
def lastFor? (writes : List (String × Bytes)) (renamed : List Nat) (reference : String) : Option Bytes :=
  renamed.reverse.findSome? (contentsFor? writes reference)

end Cache

end SchemaLint
