import SchemaLint.Config.Discovery
import SchemaLint.Lint.Run
import SchemaLint.Proofs.Cache.Filled
import SchemaLint.Proofs.Files.Direct

/-!
# Files beside the cache

A file that is reached without links is read the same whatever the cache is filled with, if neither the file nor any
place where its configuration is looked for is a name in the cache.
-/

namespace SchemaLint

open Disk (kindAt? Fits Direct)

namespace Cache

variable {c : Cache} {before d : Disk} {home place : List String} {p : Path}

/-- A place that stays as it is whatever the cache is filled with. -/
def Still (c : Cache) (before : Disk) (place : List String) : Prop :=
  forall d, Filled c before d -> kindAt? d.root place = kindAt? before.root place

/-- Folders stay folders. -/
theorem Filled.folder (filled : Filled c before d) (folder : kindAt? before.root place = some .folder) :
    kindAt? d.root place = some .folder := by
  rcases filled.places place with same | ⟨absent, -⟩ | ⟨home, name, contents, -, -, -, absent | ⟨old, file⟩, -⟩
  · exact same.trans folder
  · rw [folder] at absent
    cases absent
  · rw [folder] at absent
    cases absent
  · rw [folder] at file
    cases file

theorem Filled.direct (filled : Filled c before d) (direct : before.Direct p) : d.Direct p :=
  { direct with folder := filled.folder direct.folder }

/-- If the folder of the cache is there, only names in it can change. -/
theorem still_of_leads (above : forall q, q ∈ c.folder.lineage -> exists place, before.Leads q place)
    (leads : before.Leads c.folder home) (outside : forall name, IsOwnName name -> place ≠ home ++ [name]) :
    c.Still before place := by
  intro d filled
  rcases filled.places place with same | ⟨absent, -, q, inside, leads'⟩ | ⟨home', name, contents, leads', here, own, -⟩
  · exact same
  · obtain ⟨place', leads''⟩ := above q inside
    cases (filled.leads leads'').unique leads'
    rw [leads''.2] at absent
    cases absent
  · cases (filled.leads leads).unique leads'
    exact absurd here (outside name own)

end Cache

namespace Config

variable {d d' : Disk}

theorem fileIn?_eq_some {name : String} {folder p : Path} (found : fileIn? d name folder = .ok (some p)) :
    p = folder.child name := by
  unfold fileIn? at found
  dsimp only at found
  cases isFile : d.isFile (folder.child name).text with
  | error fault =>
    rw [isFile] at found
    cases found
  | ok there =>
    rw [isFile] at found
    cases there with
    | false => cases found
    | true =>
      cases found
      rfl

/-- Two disks hold the same under a name in a folder. -/
def Same (d d' : Disk) (name : String) (folder : Path) : Prop :=
  d'.readFile (folder.child name).text = d.readFile (folder.child name).text ∧
    d'.isFile (folder.child name).text = d.isFile (folder.child name).text

theorem Same.fileIn? {name : String} {folder : Path} (same : Same d d' name folder) :
    Config.fileIn? d' name folder = Config.fileIn? d name folder := by
  unfold Config.fileIn?
  dsimp only
  rw [same.2]

theorem Same.fileBytes {name what : String} {folder p : Path} (same : Same d d' name folder)
    (found : Config.fileIn? d name folder = .ok (some p)) : Config.fileBytes d' p what = Config.fileBytes d p what := by
  rw [fileIn?_eq_some found]
  unfold Config.fileBytes
  rw [same.1]

theorem valuesOf_eq_of_same {folders : List Path} (same : forall q, q ∈ folders -> Same d d' valuesName q)
    (values : Yaml.Entries) : valuesOf d' values folders = valuesOf d values folders := by
  induction folders generalizing values with
  | nil => rfl
  | cons q rest ih =>
    have first := same q (List.mem_cons_self ..)
    have later := ih fun q inside => same q (List.mem_cons_of_mem _ inside)
    unfold valuesOf
    rw [first.fileIn?]
    cases found : fileIn? d valuesName q with
    | error failed => rfl
    | ok there =>
      cases there with
      | none => exact later values
      | some p =>
        have read : readValues d' p = readValues d p := by
          unfold readValues
          rw [first.fileBytes found]
        change (readValues d' p >>= fun more => valuesOf d' (values.update more) rest) =
          (readValues d p >>= fun more => valuesOf d (values.update more) rest)
        simp only [read, later]

theorem ignoreOf_eq_of_same {folders : List Path} (same : forall q, q ∈ folders -> Same d d' ignoreName q)
    (patterns : List String) : ignoreOf d' patterns folders = ignoreOf d patterns folders := by
  induction folders generalizing patterns with
  | nil => rfl
  | cons q rest ih =>
    have first := same q (List.mem_cons_self ..)
    have later := ih fun q inside => same q (List.mem_cons_of_mem _ inside)
    unfold ignoreOf
    rw [first.fileIn?]
    cases found : fileIn? d ignoreName q with
    | error failed => rfl
    | ok there =>
      cases there with
      | none => exact later patterns
      | some p =>
        have read : readIgnore d' p = readIgnore d p := by
          unfold readIgnore
          rw [first.fileBytes found]
        change (readIgnore d' p >>= fun more => ignoreOf d' (more.foldl IgnoreFile.addOnce patterns) rest) =
          (readIgnore d p >>= fun more => ignoreOf d (more.foldl IgnoreFile.addOnce patterns) rest)
        simp only [read, later]

end Config

namespace Task

/-- A name in a folder that is reached without links; it is no link, and it is no name in the cache. -/
structure Plain (c : Cache) (d : Disk) (folder : Path) (name : String) : Prop where
  fits : Fits folder name
  noLink : forall target, kindAt? d.root (folder.parts ++ [name]) ≠ some (.link target)
  still : c.Still d (folder.parts ++ [name])

/-- A file that is reached without links, and whose configuration is looked for in plain files only. -/
structure Beside (c : Cache) (d : Disk) (folder : Path) (name : String) : Prop where
  direct : d.Direct folder
  plain : Plain c d folder name
  values : forall q, q ∈ folder.lineage -> Plain c d q Config.valuesName
  patterns : forall q, q ∈ folder.lineage -> Plain c d q Config.ignoreName

variable {t : Task} {c : Cache} {before d : Disk} {folder : Path} {name : String}

theorem Plain.same (plain : Plain c before folder name) (direct : before.Direct folder)
    (filled : Cache.Filled c before d) : Config.Same before d name folder :=
  Disk.readFile_eq_of_same direct.proper plain.fits direct.leads (filled.direct direct).leads plain.noLink
    (plain.still d filled)

theorem Beside.bytes (beside : Beside c before folder name) (filled : Cache.Filled c before d) :
    bytesOf d (folder.child name) = bytesOf before (folder.child name) := by
  unfold bytesOf
  rw [(beside.plain.same beside.direct filled).1]

theorem Beside.path (beside : Beside c before folder name) (filled : Cache.Filled c before d) :
    d.realPath (folder.child name) = before.realPath (folder.child name) := by
  have noLink : forall target, kindAt? d.root (folder.parts ++ [name]) ≠ some (.link target) := by
    rw [beside.plain.still d filled]
    exact beside.plain.noLink
  rw [beside.direct.realPath_child beside.plain.fits beside.plain.noLink,
    (filled.direct beside.direct).realPath_child beside.plain.fits noLink]

theorem Beside.settings (beside : Beside c before folder name) (filled : Cache.Filled c before d) :
    t.settingsOf d (folder.child name) = t.settingsOf before (folder.child name) := by
  have searched : Config.searched d folder = .ok folder.lineage := by
    unfold Config.searched
    rw [(filled.direct beside.direct).realPath]
  have searchedBefore : Config.searched before folder = .ok folder.lineage := by
    unfold Config.searched
    rw [beside.direct.realPath]
  have values : Config.loadValues d folder = Config.loadValues before folder := by
    unfold Config.loadValues
    rw [searched, searchedBefore]
    exact Config.valuesOf_eq_of_same
      (fun q inside => (beside.values q inside).same (beside.direct.above inside) filled) []
  have patterns : Config.loadIgnore d folder = Config.loadIgnore before folder := by
    unfold Config.loadIgnore
    rw [searched, searchedBefore]
    exact Config.ignoreOf_eq_of_same
      (fun q inside => (beside.patterns q inside).same (beside.direct.above inside) filled) []
  unfold settingsOf Config.resolve
  rw [Disk.parent_child]
  simp only [values, patterns]

end Task

end SchemaLint
