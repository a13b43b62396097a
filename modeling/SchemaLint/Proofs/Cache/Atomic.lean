import Mathlib.Data.List.Induction
import SchemaLint.Cache.Sharing
import SchemaLint.Proofs.Cache.Filled

/-!
# Entries are written as a whole

Whatever the order in which writers take their steps, and whichever of them the disk refuses, an entry holds what was put
in its place last.  Nothing else is ever read of it than that or what was there at first, and once all writers have ended
nothing but folders and entries has come to the disk.

A writer is a load that has its contents already, so that what is known of the folder of the cache holds for writers too.
-/

namespace SchemaLint

open Json (Value)
open Disk (kindAt? Changed Closed Fits Grown)

namespace Cache

/-! ## What is promised -/

/-- A place stands for what it stood for at first, or for a folder that was made where there was nothing. -/
def Kept (before d : Disk) (place : List String) : Prop :=
  kindAt? d.root place = kindAt? before.root place ∨
    (kindAt? before.root place = none ∧ kindAt? d.root place = some .folder)

/-- Wherever the folder of the cache comes to be, the entry of a reference was no link at first. -/
def Unlinked (c : Cache) (before : Disk) (u : String) : Prop :=
  forall d home target, Filled c before d -> d.Leads c.folder home ->
    kindAt? before.root (home ++ [entryName u]) ≠ some (.link target)

/-- The entry of a reference holds what was put in its place last, or else what was there at first. -/
def Stands (writes : List (String × Bytes)) (before : Disk) (log : List Nat) (d : Disk) (home : List String)
    (u : String) : Prop :=
  match lastFor? writes log u with
  | some contents => kindAt? d.root (home ++ [entryName u]) = some (.file contents)
  | none => Kept before d (home ++ [entryName u])

/-- What comes of some writers that share a cache. -/
structure Atomic (c : Cache) (writes : List (String × Bytes)) (before : Disk) : Prop where
  /-- What is read of an entry is what was put in its place last, or what was there at first. -/
  reads : forall history u body, c.Unlinked before u ->
    c.read ((Sharing.start writes before).after c history).disk u = some body ->
      lastFor? writes ((Sharing.start writes before).renamed c history) u = some body ∨
        (lastFor? writes ((Sharing.start writes before).renamed c history) u = none ∧
          exists home, ((Sharing.start writes before).after c history).disk.Leads c.folder home ∧
            kindAt? before.root (home ++ [entryName u]) = some (.file body))
  /-- Every entry always holds what was put in its place last, or else what was there at first. -/
  entries : forall history home u, ((Sharing.start writes before).after c history).disk.Leads c.folder home ->
    Stands writes before ((Sharing.start writes before).renamed c history)
      ((Sharing.start writes before).after c history).disk home u
  /-- As soon as the file of a writer takes the place of the entry, all of its contents are read. -/
  whole : forall history t u contents, ((Sharing.start writes before).after c history).renames c t = true ->
    writes[t.writer]? = some (u, contents) ->
      c.read ((Sharing.start writes before).after c (history ++ [t])).disk u = some contents
  /-- A turn in which no file takes the place of an entry changes none. -/
  still : forall history t home u, ((Sharing.start writes before).after c history).renames c t = false ->
    ((Sharing.start writes before).after c history).disk.Leads c.folder home ->
      kindAt? ((Sharing.start writes before).after c (history ++ [t])).disk.root (home ++ [entryName u]) =
        kindAt? ((Sharing.start writes before).after c history).disk.root (home ++ [entryName u])
  /-- The writers that were told that they have written are those whose files took the place of an entry, each once. -/
  answers : forall history n, n ∈ (Sharing.start writes before).renamed c history <->
    exists w, ((Sharing.start writes before).after c history).writers[n]? = some w ∧ w.writing = .ended true
  once : forall history, ((Sharing.start writes before).renamed c history).Nodup
  /-- Every writer ends with an answer, in four turns at most. -/
  ends : forall history n, n < writes.length -> 4 <= history.countP (fun t => t.writer == n) ->
    exists w written, ((Sharing.start writes before).after c history).writers[n]? = some w ∧ w.writing = .ended written
  /-- When all writers have ended, nothing is left but folders and the entries that were written. -/
  clean : forall history, ((Sharing.start writes before).after c history).isOver = true -> forall place,
    Kept before ((Sharing.start writes before).after c history).disk place ∨
      exists home u contents, ((Sharing.start writes before).after c history).disk.Leads c.folder home ∧
        place = home ++ [entryName u] ∧
        lastFor? writes ((Sharing.start writes before).renamed c history) u = some contents ∧
        kindAt? ((Sharing.start writes before).after c history).disk.root place = some (.file contents)

/-! ## Turns -/

section Turns

variable {c : Cache} {σ : Sharing} {t : Turn} {w : Writer}

theorem Sharing.take_of_found (found : σ.writers[t.writer]? = some w) :
    σ.take c t = ⟨σ.writers.set t.writer { w with writing := (w.next c σ.disk t.granted).1 },
      (w.next c σ.disk t.granted).2⟩ := by
  unfold take
  rw [found]

theorem Sharing.take_of_absent (absent : σ.writers[t.writer]? = none) : σ.take c t = σ := by
  unfold take
  rw [absent]

theorem Sharing.renames_of_found (found : σ.writers[t.writer]? = some w) :
    σ.renames c t = w.renames c σ.disk t.granted := by
  unfold renames
  rw [found]

theorem Sharing.renames_of_absent (absent : σ.writers[t.writer]? = none) : σ.renames c t = false := by
  unfold renames
  rw [absent]

theorem Sharing.after_concat (σ : Sharing) (history : List Turn) (t : Turn) :
    σ.after c (history ++ [t]) = (σ.after c history).take c t :=
  List.foldl_concat ..

theorem Sharing.renamed_concat (σ : Sharing) (history : List Turn) (t : Turn) :
    σ.renamed c (history ++ [t]) =
      σ.renamed c history ++ if (σ.after c history).renames c t then [t.writer] else [] := by
  induction history generalizing σ with
  | nil =>
    change (if σ.renames c t then [t.writer] else []) = [] ++ if σ.renames c t then [t.writer] else []
    rw [List.nil_append]
  | cons first rest ih =>
    have later := ih (σ.take c first)
    change (if σ.renames c first then first.writer :: (σ.take c first).renamed c (rest ++ [t])
      else (σ.take c first).renamed c (rest ++ [t])) = (if σ.renames c first then first.writer ::
        (σ.take c first).renamed c rest else (σ.take c first).renamed c rest) ++
          if ((σ.take c first).after c rest).renames c t then [t.writer] else []
    rw [later]
    split
    · rw [List.cons_append]
    · rfl

/-- A file takes the place of an entry only in the last step of its writer. -/
theorem Writer.renames_iff {d : Disk} {granted : Bool} : w.renames c d granted = true <->
    granted = true ∧ exists temporary d', w.writing = .installing temporary ∧
      d.replace temporary (c.entry w.reference) = .ok d' := by
  unfold renames
  cases w.writing with
  | installing temporary =>
    cases result : d.replace temporary (c.entry w.reference) with
    | ok d' => simp [result, Except.isOk, Except.toBool]
    | error fault => simp [result, Except.isOk, Except.toBool]
  | folder => simp
  | creation => simp
  | filling temporary => simp
  | ended written => simp

/-- A writer is told that it has written just if its file took the place of the entry, now or before. -/
theorem Writer.next_eq_written_iff {d : Disk} {granted : Bool} : (w.next c d granted).1 = .ended true <->
    w.writing = .ended true ∨ w.renames c d granted = true := by
  obtain ⟨reference, contents, writing⟩ := w
  rw [renames_iff]
  cases granted with
  | false => cases writing <;> simp [next, Writing.refused]
  | true =>
    cases writing with
    | folder =>
      simp only [next, writeStep, if_true]
      split <;> simp
    | creation =>
      simp only [next, writeStep, if_true]
      split <;> simp
    | filling temporary =>
      simp only [next, writeStep, if_true]
      split <;> simp
    | installing temporary =>
      simp only [next, writeStep, if_true]
      split
      next d' result => simp [result]
      next fault result => simp [result]
    | ended written => simp [next, writeStep]

theorem Writer.left_next (c : Cache) (w : Writer) (d : Disk) (granted : Bool) :
    (w.next c d granted).1.left <= w.writing.left - 1 := by
  unfold next
  split
  · exact left_writeStep c w.reference w.contents d w.writing
  · cases w.writing <;> simp [Writing.refused, Writing.left]

end Turns

/-! ## Writers are loads -/

section Loads

variable {s : Sources} {σ : Sharing} {t : Turn} {w : Writer} {n : Nat} {network : Http.Network}

/-- The load that stores the contents of a writer. -/
def Writer.load (w : Writer) : Load :=
  .ofWriting .null w.contents w.writing

/-- The loads that store the contents of some writers. -/
def Sharing.loads (σ : Sharing) : Loads := fun key =>
  if key.2 = 0 then (σ.writers[key.1]?).map fun w => (w.reference, w.load) else none

theorem Sharing.loads_of_found (found : σ.writers[n]? = some w) : σ.loads (n, 0) = some (w.reference, w.load) := by
  simp [loads, found]

theorem Sharing.exists_writer {key : Nat × Nat} {u : String} {load : Load} (found : σ.loads key = some (u, load)) :
    exists w, σ.writers[key.1]? = some w ∧ w.reference = u ∧ w.load = load := by
  unfold loads at found
  split at found
  · obtain ⟨w, there, same⟩ := Option.map_eq_some_iff.mp found
    exact ⟨w, there, congrArg Prod.fst same, congrArg Prod.snd same⟩
  · cases found

theorem Sharing.loads_set {d : Disk} (found : σ.writers[n]? = some w) (writing : Writing) :
    (Sharing.mk (σ.writers.set n { w with writing }) d).loads =
      Function.update σ.loads (n, 0) (some (w.reference, .ofWriting .null w.contents writing)) := by
  have inside : n < σ.writers.length := (List.getElem?_eq_some_iff.mp found).1
  funext ⟨m, i⟩
  rw [Function.update_apply]
  by_cases first : i = 0
  · subst first
    by_cases same : m = n
    · subst same
      simp [loads, inside, Writer.load]
    · simp [loads, same, List.getElem?_set_ne (Ne.symm same)]
  · simp [loads, first]

/-- A load that stores contents is no other than the writing. -/
theorem Writer.storing_of_load {schema : Value} {body : Bytes} {writing : Writing}
    (storing : w.load = .storing schema body writing) :
    schema = .null ∧ body = w.contents ∧ writing = w.writing ∧ forall written, writing ≠ .ended written := by
  unfold load at storing
  cases same : w.writing with
  | ended written =>
    rw [same] at storing
    cases storing
  | _ =>
    rw [same] at storing
    cases storing
    exact ⟨rfl, rfl, rfl, nofun⟩

theorem Writer.load_of_open (isOpen : forall written, w.writing ≠ .ended written) :
    w.load = .storing .null w.contents w.writing := by
  unfold load
  cases same : w.writing with
  | ended written => exact absurd same (isOpen written)
  | _ => rfl

/-- What a writer does next is what its load does next. -/
theorem Writer.step_load (s : Sources) (w : Writer) (d : Disk) (network : Http.Network) :
    w.load.step s w.reference ⟨d, network⟩ =
      (.ofWriting .null w.contents (w.next s.cache d true).1, ⟨(w.next s.cache d true).2, network⟩) := by
  unfold load
  cases same : w.writing <;> simp only [next, if_true, same] <;> rfl

theorem Writer.refuse_load (c : Cache) (w : Writer) (d : Disk) (network : Http.Network) :
    w.load.refuse ⟨d, network⟩ =
      (.ofWriting .null w.contents (w.next c d false).1, ⟨(w.next c d false).2, network⟩) := by
  unfold load
  cases same : w.writing <;> simp only [next, Bool.false_eq_true, if_false, same] <;> rfl

end Loads

/-! ## What every turn keeps -/

section Invariant

variable {s : Sources} {σ : Sharing} {writes : List (String × Bytes)} {before d d' : Disk} {log : List Nat} {t : Turn}
  {w : Writer} {home : List String} {u : String}

/-- Contents that are to be written for a reference. -/
def IsMeant (writes : List (String × Bytes)) (u : String) (_ : Value) (body : Bytes) : Prop :=
  (u, body) ∈ writes

theorem kept_of_grown {place : List String} (kept : Kept before d place) (grown : Grown s.cache.folder d d') :
    Kept before d' place := by
  rcases grown.kinds place with still | ⟨absent, made, -⟩
  · unfold Kept
    rw [still]
    exact kept
  · rcases kept with same | ⟨-, folder⟩
    · exact Or.inr ⟨same.symm.trans absent, made⟩
    · rw [folder] at absent
      cases absent

theorem contentsFor?_of_found {n : Nat} {contents : Bytes} (meant : writes[n]? = some (u, contents)) (v : String) :
    contentsFor? writes v n = if key u = key v then some contents else none := by
  unfold contentsFor?
  rw [meant]

theorem lastFor?_concat (writes : List (String × Bytes)) (log : List Nat) (n : Nat) (u : String) :
    lastFor? writes (log ++ [n]) u = (contentsFor? writes u n).or (lastFor? writes log u) := by
  unfold lastFor?
  rw [List.reverse_append, List.reverse_singleton, List.singleton_append, List.findSome?_cons]
  cases contentsFor? writes u n <;> rfl

/-- What is known of the disk after some turns. -/
inductive Phase (c : Cache) (writes : List (String × Bytes)) (before : Disk) (σ : Sharing) (log : List Nat) : Prop
  /-- No writer has got to the folder yet. -/
  | idle (idle : Idle before (fun _ => True) σ.loads σ.disk) (none : log = [])
  | busy (home : List String) (busy : Busy c before (fun _ => True) (IsMeant writes) σ.loads σ.disk home)
      (stands : forall u, Stands writes before log σ.disk home u)

/-- What some turns have left of the writers and of the disk. -/
structure Kempt (c : Cache) (writes : List (String × Bytes)) (before : Disk) (σ : Sharing) (log : List Nat) : Prop where
  meant : forall n : Nat, σ.writers[n]?.map (fun w => (w.reference, w.contents)) = writes[n]?
  filled : Filled c before σ.disk
  phase : Phase c writes before σ log
  answers : forall n, n ∈ log <-> exists w, σ.writers[n]? = some w ∧ w.writing = .ended true
  once : log.Nodup

theorem Kempt.mem (kempt : Kempt s.cache writes before σ log) {n : Nat} (found : σ.writers[n]? = some w) :
    writes[n]? = some (w.reference, w.contents) := by
  rw [← kempt.meant n, found]
  rfl

theorem Kempt.came (kempt : Kempt s.cache writes before σ log) {key : Nat × Nat} {schema : Value} {body : Bytes}
    {writing : Writing} (found : σ.loads key = some (u, .storing schema body writing)) : IsMeant writes u schema body := by
  obtain ⟨w, there, rfl, load⟩ := Sharing.exists_writer found
  obtain ⟨-, rfl, -⟩ := Writer.storing_of_load load
  exact List.mem_of_getElem? (kempt.mem there)

theorem Kempt.tidy (kempt : Kempt s.cache writes before σ log) :
    Tidy s.cache before (fun _ => True) (IsMeant writes) σ.loads σ.disk where
  came := kempt.came
  phase := by
    cases kempt.phase with
    | idle idle none => exact Or.inl idle
    | busy home busy stands => exact Or.inr ⟨home, busy⟩

/-- Wherever the folder of the cache is, the entries stand for what was put in their places. -/
theorem Kempt.stands (kempt : Kempt s.cache writes before σ log) (leads : σ.disk.Leads s.cache.folder home) :
    Stands writes before log σ.disk home u := by
  cases kempt.phase with
  | idle idle none =>
    subst none
    exact idle.places _ trivial
  | busy place busy stands => exact busy.leads.unique leads ▸ stands u

theorem kempt_start (writes : List (String × Bytes)) (before : Disk) :
    Kempt s.cache writes before (.start writes before) [] where
  meant := by
    intro n
    unfold Sharing.start
    rw [List.getElem?_map, Option.map_map]
    exact congrFun Option.map_id writes[n]?
  filled := Filled.refl s.cache before
  phase := by
    refine .idle ⟨?_, fun _ _ => Or.inl rfl⟩ rfl
    intro key u schema body writing found
    obtain ⟨w, there, -, load⟩ := Sharing.exists_writer found
    obtain ⟨-, -, rfl, -⟩ := Writer.storing_of_load load
    unfold Sharing.start at there
    rw [List.getElem?_map, Option.map_eq_some_iff] at there
    obtain ⟨-, -, rfl⟩ := there
    rfl
  answers := by
    intro n
    constructor
    · exact nofun
    rintro ⟨w, there, ended⟩
    unfold Sharing.start at there
    rw [List.getElem?_map, Option.map_eq_some_iff] at there
    obtain ⟨pair, -, same⟩ := there
    rw [← same] at ended
    cases ended
  once := List.nodup_nil

/-! ### Turns of writers on the way to the folder -/

/-- A writer that has not got to the folder makes folders at most. -/
theorem Writer.grown_of_idle (proper : s.cache.folder.IsProper) (w : Writer) (granted : Bool)
    (unopened : (forall written, w.writing ≠ .ended written) -> w.writing = .folder) :
    Grown s.cache.folder d (w.next s.cache d granted).2 ∧ w.renames s.cache d granted = false := by
  obtain ⟨reference, contents, writing⟩ := w
  cases writing with
  | ended written =>
    refine ⟨?_, rfl⟩
    cases granted with
    | false => exact Grown.refl _ d
    | true => exact Grown.refl _ d
  | folder =>
    refine ⟨?_, rfl⟩
    cases granted with
    | false => exact Grown.refl _ d
    | true =>
      simp only [next, if_true, writeStep]
      have grown := (Disk.isMade_makeFolders s.cache.folder.parts.length proper d).1
      rcases result : d.makeFolders s.cache.folder.parts.length s.cache.folder with ⟨made, refused⟩
      rw [result] at grown
      cases refused <;> exact grown
  | creation => cases unopened (by simp)
  | filling temporary => cases unopened (by simp)
  | installing temporary => cases unopened (by simp)

/-! ### Turns of writers in the folder -/

/-- A turn of a writer is a step of its load. -/
theorem Kempt.taken (proper : s.cache.folder.IsProper) (kempt : Kempt s.cache writes before σ log) {n : Nat}
    (found : σ.writers[n]? = some w) (unlinked : s.cache.Unlinked before w.reference) (granted : Bool)
    (network : Http.Network) {next : Load × World}
    (same : next = (.ofWriting .null w.contents (w.next s.cache σ.disk granted).1,
      ⟨(w.next s.cache σ.disk granted).2, network⟩)) :
    (next = w.load.step s w.reference ⟨σ.disk, network⟩ ∧
        Fair s (IsMeant writes) w.reference ⟨σ.disk, network⟩ w.load next) ∨
      next = w.load.refuse ⟨σ.disk, network⟩ := by
  cases granted with
  | false => exact Or.inr (same.trans (Writer.refuse_load ..).symm)
  | true =>
    have isStep := same.trans (Writer.step_load s w σ.disk network).symm
    refine Or.inl ⟨isStep, ?_, ?_⟩
    · intro schema body asking
      unfold Writer.load Load.ofWriting at asking
      split at asking <;> cases asking
    · intro schema body isWritten
      have there := Sharing.loads_of_found found
      rw [isStep]
      cases kempt.phase with
      | idle idle none =>
        obtain ⟨temporary, d, storing, -⟩ := isWritten
        rw [storing] at there
        cases idle.unopened there
      | busy home busy stands =>
        exact Busy.readable (w := ⟨σ.disk, network⟩) proper busy there
          (fun target => unlinked _ home target kempt.filled busy.leads) isWritten

/-- A turn that puts no file in the place of an entry changes no entry. -/
theorem Kempt.alike (proper : s.cache.folder.IsProper) (kempt : Kempt s.cache writes before σ log) {n : Nat}
    (found : σ.writers[n]? = some w) (unlinked : s.cache.Unlinked before w.reference) (granted : Bool)
    (busy : Busy s.cache before (fun _ => True) (IsMeant writes) σ.loads σ.disk home)
    (still : w.renames s.cache σ.disk granted = false) : Alike home σ.disk (w.next s.cache σ.disk granted).2 := by
  have there := Sharing.loads_of_found found
  cases granted with
  | false =>
    by_cases isOpen : forall written, w.writing ≠ .ended written
    · rw [Writer.load_of_open isOpen] at there
      exact (busy.leave proper there (.ok .null)).2
    · obtain ⟨written, ended⟩ := not_forall_not.mp isOpen
      simp only [Writer.next, Bool.false_eq_true, if_false, ended]
      exact Alike.refl home σ.disk
  | true =>
    have taken := kempt.taken proper found unlinked true ⟨[], []⟩ rfl
    obtain ⟨-, course⟩ := Busy.step (w := ⟨σ.disk, ⟨[], []⟩⟩) proper busy there
      (fun storing => kempt.came (storing ▸ there)) taken
    cases course with
    | alike alike => exact alike
    | written schema body middle isWritten =>
      obtain ⟨temporary, d, storing, result⟩ := isWritten
      obtain ⟨-, -, same, -⟩ := Writer.storing_of_load storing
      have renames : w.renames s.cache σ.disk true = true :=
        Writer.renames_iff.mpr ⟨rfl, temporary, d, same.symm, result⟩
      rw [still] at renames
      cases renames

/-- A turn that puts a file in the place of an entry changes this entry alone, and all of the contents can be read. -/
theorem Kempt.renamed (proper : s.cache.folder.IsProper) (kempt : Kempt s.cache writes before σ log) {n : Nat}
    (found : σ.writers[n]? = some w) (unlinked : s.cache.Unlinked before w.reference) (granted : Bool)
    (busy : Busy s.cache before (fun _ => True) (IsMeant writes) σ.loads σ.disk home)
    (renames : w.renames s.cache σ.disk granted = true) :
    s.cache.read (w.next s.cache σ.disk granted).2 w.reference = some w.contents ∧
      kindAt? (w.next s.cache σ.disk granted).2.root (home ++ [entryName w.reference]) = some (.file w.contents) ∧
      forall v, entryName v ≠ entryName w.reference ->
        kindAt? (w.next s.cache σ.disk granted).2.root (home ++ [entryName v]) =
          kindAt? σ.disk.root (home ++ [entryName v]) := by
  have there := Sharing.loads_of_found found
  obtain ⟨rfl, temporary, d, installing, result⟩ := Writer.renames_iff.mp renames
  have next : (w.next s.cache σ.disk true).2 = d := by
    simp only [Writer.next, if_true, installing, writeStep, result]
  rw [Writer.load_of_open (by simp [installing]), installing] at there
  obtain ⟨fits, bare, name, middle, holds, taken, put⟩ := busy.replaced proper there result
  obtain ⟨⟨m, rfl⟩, -, file, -⟩ := busy.file there holds
  have elsewhere : forall v, home ++ [entryName v] ≠ home ++ [temporaryName m] := by
    intro v same
    exact temporaryName_ne_entryName m v (by simpa using same.symm)
  have noLink := fun target => unlinked _ home target kempt.filled busy.leads
  have closed : Closed (kindAt? middle.root) (home ++ [entryName w.reference]) := by
    unfold Closed
    rw [taken.elsewhere (elsewhere _)]
    exact busy.closed_entry bare noLink
  have leads : d.Leads s.cache.folder home := put.leads closed (taken.leads (Or.inr ⟨_, file⟩) busy.leads)
  rw [next]
  refine ⟨read_of_file proper leads fits put.at, put.at, fun v other => ?_⟩
  rw [put.elsewhere (by simpa using other), taken.elsewhere (elsewhere v)]

/-! ### Any turn -/

/-- The log after a turn. -/
def logged (c : Cache) (σ : Sharing) (log : List Nat) (t : Turn) : List Nat :=
  log ++ if σ.renames c t then [t.writer] else []

theorem Kempt.phase_take (proper : s.cache.folder.IsProper) (kempt : Kempt s.cache writes before σ log)
    (found : σ.writers[t.writer]? = some w) (unlinked : s.cache.Unlinked before w.reference) :
    Phase s.cache writes before (σ.take s.cache t) (logged s.cache σ log t) := by
  have there := Sharing.loads_of_found found
  have taken := kempt.taken proper found unlinked t.granted ⟨[], []⟩ rfl
  unfold logged
  rw [Sharing.take_of_found found, Sharing.renames_of_found found]
  cases kempt.phase with
  | idle idle none =>
    subst none
    obtain ⟨grown, still⟩ := w.grown_of_idle (d := σ.disk) proper t.granted
      fun isOpen => idle.unopened ((Writer.load_of_open isOpen) ▸ there)
    rw [still]
    have onwards : _ ∨ exists home, Busy s.cache before _ (IsMeant writes) _ _ home :=
      Idle.step (w := ⟨σ.disk, ⟨[], []⟩⟩) proper idle there (next_of_fair taken)
    rw [← Sharing.loads_set found] at onwards
    rcases onwards with idle' | ⟨home, busy⟩
    · exact .idle idle' rfl
    · exact .busy home busy fun u => kept_of_grown (idle.places _ trivial) grown
  | busy home busy stands =>
    obtain ⟨busy', -⟩ := Busy.step (w := ⟨σ.disk, ⟨[], []⟩⟩) proper busy there
      (fun storing => kempt.came (storing ▸ there)) taken
    refine .busy home ?_ fun u => ?_
    · rw [Sharing.loads_set found]
      exact busy'
    · have earlier := stands u
      cases renames : w.renames s.cache σ.disk t.granted with
      | false =>
        have alike := kempt.alike proper found unlinked t.granted busy renames
        have same : kindAt? (w.next s.cache σ.disk t.granted).2.root (home ++ [entryName u]) =
            kindAt? σ.disk.root (home ++ [entryName u]) :=
          alike.elsewhere fun n equal => temporaryName_ne_entryName n u (by simpa using equal.symm)
        unfold Stands Kept at earlier ⊢
        simp only [Bool.false_eq_true, if_false, List.append_nil, same]
        exact earlier
      | true =>
        obtain ⟨-, put, others⟩ := kempt.renamed proper found unlinked t.granted busy renames
        unfold Stands at earlier ⊢
        simp only [if_true, lastFor?_concat, contentsFor?_of_found (kempt.mem found)]
        by_cases same : key w.reference = key u
        · have name : entryName u = entryName w.reference := congrArg (· ++ ".json") same.symm
          simp only [if_pos same, Option.some_or, name]
          exact put
        · have name : entryName u ≠ entryName w.reference := fun equal => same (key_of_entryName equal).symm
          simp only [if_neg same, Option.none_or, Kept, others u name]
          exact earlier

theorem Kempt.take (proper : s.cache.folder.IsProper) (kempt : Kempt s.cache writes before σ log)
    (unlinked : forall u contents, (u, contents) ∈ writes -> s.cache.Unlinked before u) :
    Kempt s.cache writes before (σ.take s.cache t) (logged s.cache σ log t) := by
  cases found : σ.writers[t.writer]? with
  | none =>
    unfold logged
    rw [Sharing.take_of_absent found, Sharing.renames_of_absent found]
    simpa using kempt
  | some w =>
    have there := Sharing.loads_of_found found
    have meant := kempt.mem found
    have noLink := unlinked _ _ (List.mem_of_getElem? meant)
    have inside : t.writer < σ.writers.length := (List.getElem?_eq_some_iff.mp found).1
    have answers : forall n, (n ∈ logged s.cache σ log t <->
        exists w, (σ.take s.cache t).writers[n]? = some w ∧ w.writing = .ended true) := by
      intro n
      unfold logged
      rw [Sharing.take_of_found found, Sharing.renames_of_found found, List.mem_append, kempt.answers]
      by_cases same : n = t.writer
      · subst same
        have written : (w.next s.cache σ.disk t.granted).1 = .ended true <->
            w.writing = .ended true ∨ w.renames s.cache σ.disk t.granted = true := Writer.next_eq_written_iff
        simp only [found, Option.some.injEq, exists_eq_left', List.getElem?_set_self inside, written]
        cases w.renames s.cache σ.disk t.granted <;> simp
      · have other : ¬ n ∈ if w.renames s.cache σ.disk t.granted then [t.writer] else [] := by
          split
          · simpa using same
          · simp
        simp only [other, or_false, List.getElem?_set_ne (Ne.symm same)]
    refine ⟨?_, ?_, kempt.phase_take proper found noLink, answers, ?_⟩
    · intro n
      rw [← kempt.meant n, Sharing.take_of_found found]
      by_cases same : n = t.writer
      · subst same
        rw [List.getElem?_set_self inside, found]
        rfl
      · rw [List.getElem?_set_ne (Ne.symm same)]
    · have filled := Filled.step (w := ⟨σ.disk, ⟨[], []⟩⟩) proper kempt.filled kempt.tidy there
        (kempt.taken proper found noLink t.granted ⟨[], []⟩ rfl)
        fun _ leads target => noLink _ _ target kempt.filled leads
      rw [Sharing.take_of_found found]
      exact filled
    · unfold logged
      rw [Sharing.renames_of_found found]
      cases renames : w.renames s.cache σ.disk t.granted with
      | false => simpa using kempt.once
      | true =>
        obtain ⟨-, temporary, d, installing, -⟩ := Writer.renames_iff.mp renames
        have new : t.writer ∉ log := by
          rw [kempt.answers]
          rintro ⟨w', there', ended⟩
          cases found.symm.trans there'
          cases installing.symm.trans ended
        exact List.nodup_append'.mpr ⟨kempt.once, List.nodup_singleton _, by simpa using new⟩

/-- What holds of writers that have not begun and is kept by every turn holds after all of them. -/
theorem kempt_after (proper : s.cache.folder.IsProper)
    (unlinked : forall u contents, (u, contents) ∈ writes -> s.cache.Unlinked before u) (history : List Turn) :
    Kempt s.cache writes before ((Sharing.start writes before).after s.cache history)
      ((Sharing.start writes before).renamed s.cache history) := by
  induction history using List.reverseRecOn with
  | nil => exact kempt_start writes before
  | append_singleton history t ih =>
    rw [Sharing.after_concat, Sharing.renamed_concat]
    exact ih.take proper unlinked

/-! ### What is read -/

/-- What is read of an entry is what was put in its place last, or what was there at first. -/
theorem Kempt.reads (proper : s.cache.folder.IsProper) (kempt : Kempt s.cache writes before σ log)
    (noLink : s.cache.Unlinked before u) {body : Bytes} (stored : s.cache.read σ.disk u = some body) :
    lastFor? writes log u = some body ∨ (lastFor? writes log u = none ∧
      exists home, σ.disk.Leads s.cache.folder home ∧ kindAt? before.root (home ++ [entryName u]) = some (.file body)) := by
  obtain ⟨home, leads⟩ := exists_leads_of_read proper stored
  have stands : Stands writes before log σ.disk home u := kempt.stands leads
  unfold Stands at stands
  cases last : lastFor? writes log u with
  | some contents =>
    rw [last] at stands
    have isFile : forall target, kindAt? σ.disk.root (home ++ [entryName u]) ≠ some (.link target) := by
      intro target link
      cases stands.symm.trans link
    obtain ⟨-, file⟩ := file_of_read proper leads isFile stored
    cases stands.symm.trans file
    exact Or.inl rfl
  | none =>
    rw [last] at stands
    have isFile : forall target, kindAt? σ.disk.root (home ++ [entryName u]) ≠ some (.link target) := by
      intro target link
      rcases stands with same | ⟨-, folder⟩
      · exact noLink _ home target kempt.filled leads (same.symm.trans link)
      · cases folder.symm.trans link
    obtain ⟨-, file⟩ := file_of_read proper leads isFile stored
    rcases stands with same | ⟨-, folder⟩
    · exact Or.inr ⟨rfl, home, leads, same.symm.trans file⟩
    · cases folder.symm.trans file

/-- As soon as the file of a writer takes the place of the entry, all of its contents are read. -/
theorem Kempt.whole (proper : s.cache.folder.IsProper) (kempt : Kempt s.cache writes before σ log) {contents : Bytes}
    (noLink : s.cache.Unlinked before u) (renames : σ.renames s.cache t = true)
    (meant : writes[t.writer]? = some (u, contents)) :
    s.cache.read (σ.take s.cache t).disk u = some contents := by
  cases found : σ.writers[t.writer]? with
  | none =>
    rw [Sharing.renames_of_absent found] at renames
    cases renames
  | some w =>
    cases meant.symm.trans (kempt.mem found)
    rw [Sharing.renames_of_found found] at renames
    rw [Sharing.take_of_found found]
    cases kempt.phase with
    | idle idle none =>
      obtain ⟨-, still⟩ := w.grown_of_idle (d := σ.disk) proper t.granted
        fun isOpen => idle.unopened ((Writer.load_of_open isOpen) ▸ Sharing.loads_of_found found)
      cases still.symm.trans renames
    | busy home busy stands => exact (kempt.renamed proper found noLink t.granted busy renames).1

/-- A turn in which no file takes the place of an entry changes none. -/
theorem Kempt.still (proper : s.cache.folder.IsProper) (kempt : Kempt s.cache writes before σ log)
    (unlinked : forall u contents, (u, contents) ∈ writes -> s.cache.Unlinked before u)
    (noRename : σ.renames s.cache t = false) (leads : σ.disk.Leads s.cache.folder home) :
    kindAt? (σ.take s.cache t).disk.root (home ++ [entryName u]) = kindAt? σ.disk.root (home ++ [entryName u]) := by
  cases found : σ.writers[t.writer]? with
  | none => rw [Sharing.take_of_absent found]
  | some w =>
    rw [Sharing.renames_of_found found] at noRename
    rw [Sharing.take_of_found found]
    have noLink := unlinked _ _ (List.mem_of_getElem? (kempt.mem found))
    have alike := kempt.alike proper found noLink t.granted (kempt.tidy.busy leads) noRename
    refine alike.elsewhere fun n same => temporaryName_ne_entryName n u ?_
    simpa using same.symm

/-! ### What is left when all writers have ended -/

theorem bare_of_over (finished : σ.isOver = true) {key : Nat × Nat} {load : Load}
    (found : σ.loads key = some (u, load)) : Bare load := by
  intro schema body writing storing
  obtain ⟨w, there, -, rfl⟩ := Sharing.exists_writer found
  obtain ⟨-, -, rfl, isOpen⟩ := Writer.storing_of_load storing
  have left := List.all_eq_true.mp finished w (List.mem_of_getElem? there)
  cases writing : w.writing with
  | ended written => exact absurd writing (isOpen written)
  | _ =>
    rw [writing] at left
    cases left

theorem Kempt.clean (kempt : Kempt s.cache writes before σ log) (finished : σ.isOver = true) (place : List String) :
    Kept before σ.disk place ∨ exists home u contents, σ.disk.Leads s.cache.folder home ∧
      place = home ++ [entryName u] ∧ lastFor? writes log u = some contents ∧
      kindAt? σ.disk.root place = some (.file contents) := by
  cases kempt.phase with
  | idle idle none => exact Or.inl (idle.places place trivial)
  | busy home busy stands =>
    cases busy.places place trivial with
    | same same => exact Or.inl (Or.inl same)
    | made absent made => exact Or.inl (Or.inr ⟨absent, made⟩)
    | new key u load name contents found holds here => exact absurd holds (bare_of_over finished found).not_holds
    | entry u schema body here came file =>
      have stands := stands u
      unfold Stands at stands
      subst here
      cases last : lastFor? writes log u with
      | none =>
        rw [last] at stands
        exact Or.inl stands
      | some contents =>
        rw [last] at stands
        exact Or.inr ⟨home, u, contents, busy.leads, rfl, last, stands⟩

/-! ### Writers come to an end -/

theorem Sharing.left_after (c : Cache) (σ : Sharing) (history : List Turn) {n : Nat} (found : σ.writers[n]? = some w) :
    exists w', (σ.after c history).writers[n]? = some w' ∧
      w'.writing.left <= w.writing.left - history.countP fun t => t.writer == n := by
  induction history using List.reverseRecOn with
  | nil => exact ⟨w, found, Nat.le_refl _⟩
  | append_singleton history t ih =>
    obtain ⟨w', there, fewer⟩ := ih
    rw [after_concat, List.countP_append, List.countP_singleton]
    by_cases same : t.writer = n
    · subst same
      have inside := (List.getElem?_eq_some_iff.mp there).1
      have step := w'.left_next c (σ.after c history).disk t.granted
      refine ⟨_, by rw [take_of_found there]; exact List.getElem?_set_self inside, ?_⟩
      simp only [beq_self_eq_true, if_true]
      omega
    · have still : ((σ.after c history).take c t).writers[n]? = some w' := by
        cases found' : (σ.after c history).writers[t.writer]? with
        | none =>
          rw [take_of_absent found']
          exact there
        | some other =>
          rw [take_of_found found', List.getElem?_set_ne same]
          exact there
      refine ⟨w', still, ?_⟩
      simpa [same] using fewer

theorem Writing.eq_ended_of_left {writing : Writing} (none : writing.left = 0) :
    exists written, writing = .ended written := by
  cases writing with
  | ended written => exact ⟨written, rfl⟩
  | _ => cases none

/-- Every writer ends in four turns at most. -/
theorem exists_answer (c : Cache) (before : Disk) (history : List Turn) {n : Nat} (inside : n < writes.length)
    (enough : 4 <= history.countP fun t => t.writer == n) :
    exists w written, ((Sharing.start writes before).after c history).writers[n]? = some w ∧
      w.writing = .ended written := by
  obtain ⟨w, found, begun⟩ : exists w, (Sharing.start writes before).writers[n]? = some w ∧ w.writing = .folder := by
    unfold Sharing.start
    rw [List.getElem?_map, List.getElem?_eq_getElem inside]
    exact ⟨_, rfl, rfl⟩
  obtain ⟨w', there, fewer⟩ := Sharing.left_after c (Sharing.start writes before) history found
  rw [begun] at fewer
  have none : w'.writing.left = 0 := by
    change w'.writing.left <= 4 - _ at fewer
    omega
  obtain ⟨written, ended⟩ := Writing.eq_ended_of_left none
  exact ⟨w', written, there, ended⟩

/-- Writers that share a cache write each entry as a whole, if none of their entries was a link. -/
theorem atomic_of_unlinked {c : Cache} (proper : c.folder.IsProper)
    (unlinked : forall u contents, (u, contents) ∈ writes -> c.Unlinked before u) : c.Atomic writes before := by
  have kempt := kempt_after (s := ⟨⟨"/", []⟩, c⟩) proper unlinked
  constructor
  case reads =>
    intro history u body noLink stored
    exact (kempt history).reads proper noLink stored
  case entries =>
    intro history home u leads
    exact (kempt history).stands leads
  case whole =>
    intro history t u contents renames meant
    rw [Sharing.after_concat]
    exact (kempt history).whole proper (unlinked u contents (List.mem_of_getElem? meant)) renames meant
  case still =>
    intro history t home u noRename leads
    rw [Sharing.after_concat]
    exact (kempt history).still proper unlinked noRename leads
  case answers => exact fun history => (kempt history).answers
  case once => exact fun history => (kempt history).once
  case ends => exact fun history n inside enough => exists_answer c before history inside enough
  case clean => exact fun history finished place => (kempt history).clean finished place

end Invariant

/-! ## One writer alone -/

theorem after_replicate (c : Cache) (u : String) (contents : Bytes) (count : Nat) (writing : Writing) (d : Disk) :
    (Sharing.mk [⟨u, contents, writing⟩] d).after c (List.replicate count ⟨0, true⟩) =
      ⟨[⟨u, contents, (c.writeSteps u contents count writing d).1⟩], (c.writeSteps u contents count writing d).2⟩ := by
  induction count generalizing writing d with
  | zero => rfl
  | succ count ih => exact ih (c.writeStep u contents d writing).1 (c.writeStep u contents d writing).2

/-- To write an entry is to let a writer alone take its steps. -/
theorem write_eq_after (c : Cache) (d : Disk) (u : String) (contents : Bytes) :
    exists written, c.write d u contents =
        (((Sharing.start [(u, contents)] d).after c (List.replicate 4 ⟨0, true⟩)).disk, written) ∧
      ((Sharing.start [(u, contents)] d).after c (List.replicate 4 ⟨0, true⟩)).writers =
        [⟨u, contents, .ended written⟩] := by
  have alone : (Sharing.start [(u, contents)] d).after c (List.replicate 4 ⟨0, true⟩) = _ :=
    after_replicate c u contents 4 .folder d
  obtain ⟨written, ended⟩ : exists written, (c.writeSteps u contents 4 .folder d).1 = .ended written :=
    Writing.eq_ended_of_left (Nat.eq_zero_of_le_zero (left_writeSteps c u contents 4 .folder d))
  rw [alone, ended]
  refine ⟨written, ?_, rfl⟩
  have all : c.writeSteps u contents Writing.folder.left .folder d =
      (.ended written, (c.writeSteps u contents 4 .folder d).2) := Prod.ext ended rfl
  unfold write
  rw [all]

/-! ## Two writers of one entry -/

/-- A cache in a folder at the root. -/
def inFolder : Cache :=
  ⟨⟨.root, ["c"]⟩⟩

/-- Two writers of the same entry that take their steps in turn. -/
def bothInTurn : List Turn :=
  (List.replicate 4 [⟨0, true⟩, ⟨1, true⟩]).flatten

theorem isProper_inFolder : inFolder.folder.IsProper := by
  unfold Path.IsProper
  decide

/-- An empty disk has no links. -/
theorem unlinked_of_empty (c : Cache) (u : String) : c.Unlinked ⟨[], ⟨.root, []⟩⟩ u := by
  rintro d home target - -
  cases home <;> exact nofun

/-- Where two writers take their steps in turn, the entry holds what the second one has written. -/
theorem atomic_bothInTurn : inFolder.Atomic [("a", [1]), ("a", [2])] ⟨[], ⟨.root, []⟩⟩ ∧
    inFolder.read ((Sharing.start [("a", [1]), ("a", [2])] ⟨[], ⟨.root, []⟩⟩).after inFolder bothInTurn).disk "a" =
      some [2] :=
  ⟨atomic_of_unlinked isProper_inFolder fun u _ _ => unlinked_of_empty inFolder u, by decide +kernel⟩

/-! ## An entry that is a link -/

/-- A disk with the entry of one reference, to which the entry of another one is a link. -/
def linkedEntries : Disk where
  root := [("c", .folder [(entryName "b", .file [0]), (entryName "a", .link (entryName "b"))])]
  current := ⟨.root, []⟩

/-- What is written for one reference is read for another one, though their keys differ and something else was there to
read. -/
theorem mixed_linkedEntries :
    inFolder.read linkedEntries "a" = some [0] ∧
      inFolder.read ((Sharing.start [("b", [1])] linkedEntries).after inFolder (List.replicate 4 ⟨0, true⟩)).disk "a" =
        some [1] ∧
      key "a" ≠ key "b" := by
  decide +kernel

end Cache

end SchemaLint
