import SchemaLint.Cache.Basic

/-!
# Writing to the cache

An entry is written in four steps: the folder is made, a new file is made in it under a name that nothing has, the file
is filled, and it takes the place of the entry.  The entry thus changes in the last step alone and is never half
written.  A step that fails ends the writing and takes the new file away again; nobody is told but the caller, because
the schema is at hand with or without the cache.
-/

namespace SchemaLint

namespace Cache

/-- How far the writing of an entry has come. -/
inductive Writing
  | folder
  | creation
  | filling (temporary : Path)
  | installing (temporary : Path)
  | ended (written : Bool)
  deriving DecidableEq

namespace Writing

def left : Writing → Nat
  | folder => 4
  | creation => 3
  | filling _ => 2
  | installing _ => 1
  | ended _ => 0

end Writing

def temporaryName (n : Nat) : String :=
  s!"tmp{n}.tmp"

/-- A name for a new file that nothing has in the folder yet. -/
def freshName (taken : List String) : Nat → Nat → String
  | 0, n => temporaryName n
  | fuel + 1, n => if taken.contains (temporaryName n) then freshName taken fuel (n + 1) else temporaryName n

/-- Where a new file can be made. -/
def temporary (c : Cache) (d : Disk) : Path :=
  let taken := ((d.entriesOf? c.folder.text).getD []).map Prod.fst
  c.folder.child (freshName taken taken.length 0)

/-- The disk without a file, if it can be taken away. -/
def without (d : Disk) (temporary : Path) : Disk :=
  (d.remove temporary).toOption.getD d

/-- The disk after a step of writing was refused: the new file is taken away if there is one. -/
def abandon (d : Disk) : Writing → Disk
  | .folder | .creation | .ended _ => d
  | .filling temporary | .installing temporary => without d temporary

def writeStep (c : Cache) (reference : String) (contents : Bytes) (d : Disk) : Writing → Writing × Disk
  | .folder =>
    match d.makeFolders c.folder.parts.length c.folder with
    | (d, none) => (.creation, d)
    | (d, some _) => (.ended false, d)
  | .creation =>
    let temporary := c.temporary d
    match d.writeFile temporary [] with
    | .ok d => (.filling temporary, d)
    | .error _ => (.ended false, d)
  | .filling temporary =>
    match d.writeFile temporary contents with
    | .ok d => (.installing temporary, d)
    | .error _ => (.ended false, abandon d (.filling temporary))
  | .installing temporary =>
    match d.replace temporary (c.entry reference) with
    | .ok d => (.ended true, d)
    | .error _ => (.ended false, abandon d (.installing temporary))
  | .ended written => (.ended written, d)

def writeSteps (c : Cache) (reference : String) (contents : Bytes) : Nat → Writing → Disk → Writing × Disk
  | 0, w, d => (w, d)
  | n + 1, w, d =>
    let next := c.writeStep reference contents d w
    writeSteps c reference contents n next.1 next.2

/-- Every step leaves fewer of them. -/
theorem left_writeStep (c : Cache) (reference : String) (contents : Bytes) (d : Disk) (w : Writing) :
    (c.writeStep reference contents d w).1.left <= w.left - 1 := by
  cases w <;> simp only [writeStep] <;> (try split) <;> simp [Writing.left]

/-- After as many steps as are left the writing has ended. -/
theorem left_writeSteps (c : Cache) (reference : String) (contents : Bytes) (n : Nat) (w : Writing) (d : Disk) :
    (c.writeSteps reference contents n w d).1.left <= w.left - n := by
  induction n generalizing w d with
  | zero => simp [writeSteps]
  | succ n ih =>
    have one := left_writeStep c reference contents d w
    have rest := ih (c.writeStep reference contents d w).1 (c.writeStep reference contents d w).2
    simp only [writeSteps]
    omega

/-- Write an entry.  The answer says whether it was written. -/
def write (c : Cache) (d : Disk) (reference : String) (contents : Bytes) : Disk × Bool :=
  match c.writeSteps reference contents Writing.folder.left .folder d with
  | (.ended written, d) => (d, written)
  | (_, d) => (d, false)

end Cache

end SchemaLint
