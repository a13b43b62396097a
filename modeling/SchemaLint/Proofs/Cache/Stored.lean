import SchemaLint.Proofs.Cache.Tidy

/-!
# What storing leaves behind

A body is stored while nobody else changes the disk, which may refuse any step.  Up to the last step the disk differs
from what it was only in folders on the way to the cache and in one new file.  In the end the new file is gone: the
entry holds the body, and apart from it all is as it was; or all is as it was.  The folders stay, but none is made if
the folder of the cache was there.
-/

namespace SchemaLint

open Disk (kindAt? Changed Closed Fits Grown)

namespace Disk

variable {d d' d'' : Disk} {place : List String} {kind kind' : Option Kind}

/-- Everything stands on a disk for what it stood for on another one. -/
structure Unchanged (d d' : Disk) : Prop where
  current : d'.current = d.current
  kinds : kindAt? d'.root = kindAt? d.root

theorem Unchanged.refl (d : Disk) : Unchanged d d :=
  ⟨rfl, rfl⟩

theorem Unchanged.locate (same : Unchanged d d') (last : Bool) (path : String) :
    d'.locate last path = d.locate last path := by
  unfold Disk.locate
  rw [same.current, same.kinds]

/-- What can be read depends on nothing but what everything stands for. -/
theorem Unchanged.readFile (same : Unchanged d d') (path : String) : d'.readFile path = d.readFile path := by
  unfold Disk.readFile find
  rw [same.locate]
  cases d.locate true path with
  | error fault => rfl
  | ok way =>
    have kinds : (entryAt? d'.root way).map Entry.kind = (entryAt? d.root way).map Entry.kind := congrFun same.kinds way
    cases there : entryAt? d.root way with
    | none =>
      rw [there, Option.map_none, Option.map_eq_none_iff] at kinds
      simp only [kinds, there]
    | some e =>
      rw [there, Option.map_some] at kinds
      obtain ⟨e', there', same⟩ := Option.map_eq_some_iff.mp kinds
      simp only [there, there']
      cases e <;> cases e' <;> cases same <;> rfl

theorem Changed.again (first : Changed d d' place kind) (second : Changed d' d'' place kind') :
    Changed d d'' place kind' := by
  refine ⟨second.current.trans first.current, ?_⟩
  rw [second.kinds, first.kinds, Function.update_idem]

/-- A place that stands for what it stood for at first leaves nothing changed. -/
theorem Changed.undo (first : Changed d d' place kind) (second : Changed d' d'' place (kindAt? d.root place)) :
    Unchanged d d'' := by
  refine ⟨second.current.trans first.current, ?_⟩
  rw [(first.again second).kinds, Function.update_eq_self]

end Disk

namespace Cache

variable {c : Cache} {u v : String} {before middle d d' : Disk} {home : List String} {body : Bytes}
  {writing : Writing}

/-! ## The course of storing -/

/-- The folder of the cache may have been made, unless it was there. -/
structure Opened (c : Cache) (before middle : Disk) : Prop where
  grown : Grown c.folder before middle
  still : forall {home}, before.Leads c.folder home -> middle = before

theorem Opened.refl (c : Cache) (before : Disk) : Opened c before before :=
  ⟨Grown.refl c.folder before, fun _ => rfl⟩

theorem Opened.make {depth : Nat} {refused : Option FileFault} (proper : c.folder.IsProper)
    (result : before.makeFolders depth c.folder = (middle, refused)) :
    Opened c before middle ∧ (refused = none -> exists home, middle.Leads c.folder home) := by
  obtain ⟨grown, leads⟩ := Disk.makeFolders_new proper result
  refine ⟨⟨grown, fun there => ?_⟩, leads⟩
  rw [Disk.makeFolders_of_leads depth there] at result
  exact (Prod.mk.inj result).1.symm

/-- How the disk stands while a body is being stored. -/
inductive Storing (c : Cache) (before : Disk) (body : Bytes) : Writing -> Disk -> Prop
  | folder : Storing c before body .folder before
  | creation {middle : Disk} {home : List String} (opened : Opened c before middle) (leads : middle.Leads c.folder home) :
    Storing c before body .creation middle
  /-- There is a new file in the folder. -/
  | new {middle d : Disk} {home : List String} {n : Nat} {contents : Bytes} {writing : Writing}
    (opened : Opened c before middle) (leads : middle.Leads c.folder home)
    (absent : kindAt? middle.root (home ++ [temporaryName n]) = none) (fits : Fits c.folder (temporaryName n))
    (file : writing.newFile? body = some (c.folder.child (temporaryName n), contents))
    (changed : Changed middle d (home ++ [temporaryName n]) (some (.file contents))) : Storing c before body writing d

/-- How the disk stands when a body was stored, or was not. -/
inductive Remains (c : Cache) (u : String) (before : Disk) (body : Bytes) : Bool -> Disk -> Prop
  | kept {middle d : Disk} (opened : Opened c before middle) (same : Disk.Unchanged middle d) :
    Remains c u before body false d
  | written {middle d : Disk} {home : List String} (opened : Opened c before middle) (leads : middle.Leads c.folder home)
    (fits : Fits c.folder (entryName u)) (bare : kindAt? middle.root (home ++ [entryName u]) ≠ some .folder)
    (changed : Changed middle d (home ++ [entryName u]) (some (.file body))) : Remains c u before body true d

theorem Storing.ne_ended (storing : Storing c before body writing d) (written : Bool) : writing ≠ .ended written := by
  rintro rfl
  cases storing with
  | new _ _ _ _ file => cases file

/-- The new file is taken away again, and all is as it was. -/
theorem without_new {n : Nat} {contents : Bytes} (proper : c.folder.IsProper) (leads : middle.Leads c.folder home)
    (absent : kindAt? middle.root (home ++ [temporaryName n]) = none) (fits : Fits c.folder (temporaryName n))
    (changed : Changed middle d (home ++ [temporaryName n]) (some (.file contents))) :
    Disk.Unchanged middle (without d (c.folder.child (temporaryName n))) := by
  have leads' : d.Leads c.folder home := changed.leads (.inl absent) leads
  have taken := changed_without proper leads' fits changed.at
  rw [← absent] at taken
  exact changed.undo taken

/-- Storing that is given up leaves all as it was. -/
theorem Storing.abandon (proper : c.folder.IsProper) (storing : Storing c before body writing d) :
    Remains c u before body false (abandon d writing) := by
  cases storing with
  | folder => exact .kept (Opened.refl c before) (.refl before)
  | creation opened leads => exact .kept opened (.refl d)
  | new opened leads absent fits file changed =>
    rw [abandon_eq d body, file]
    exact .kept opened (without_new proper leads absent fits changed)

/-- What comes of storing after a step: it goes on, or it has ended with or without success. -/
inductive Goes (c : Cache) (u : String) (before : Disk) (body : Bytes) : Writing × Disk -> Prop
  | on {writing : Writing} {d : Disk} (storing : Storing c before body writing d) : Goes c u before body (writing, d)
  | out {written : Bool} {d : Disk} (remains : Remains c u before body written d) :
    Goes c u before body (.ended written, d)

/-- Storing goes on step by step, and ends with the body in the entry or with all as it was. -/
theorem Storing.next (proper : c.folder.IsProper) (storing : Storing c before body writing d) :
    Goes c u before body (c.writeStep u body d writing) := by
  have given : Remains c u before body false (Cache.abandon d writing) := storing.abandon proper
  cases storing with
  | folder =>
    rw [writeStep]
    split
    next middle made =>
      obtain ⟨opened, reached⟩ := Opened.make proper made
      obtain ⟨home, leads⟩ := reached rfl
      exact .on (.creation opened leads)
    next middle fault refused => exact .out (.kept (Opened.make proper refused).1 (.refl middle))
  | creation opened leads =>
    obtain ⟨n, same, absent⟩ := kind_temporary leads
    obtain ⟨isName, plain⟩ := isName_temporaryName n
    rw [writeStep, same]
    cases result : d.writeFile (c.folder.child (temporaryName n)) [] with
    | error fault => exact .out given
    | ok d' =>
      obtain ⟨fits, changed⟩ := Disk.writeFile_new proper leads isName plain absent result
      exact .on (.new opened leads absent fits rfl changed)
  | @new middle _ home n contents _ opened leads absent fits file changed =>
    have leads' : d.Leads c.folder home := changed.leads (.inl absent) leads
    cases writing with
    | folder => cases file
    | creation => cases file
    | ended written => cases file
    | filling temporary =>
      cases file
      obtain ⟨written, result, filled⟩ := Disk.writeFile_old proper leads' fits changed.at
      rw [writeStep, result]
      exact .on (.new opened leads absent fits rfl (changed.again filled))
    | installing temporary =>
      cases file
      rw [writeStep]
      cases result : d.replace (c.folder.child (temporaryName n)) (c.entry u) with
      | error fault => exact .out given
      | ok d' =>
        obtain ⟨isName, plain⟩ := isName_entryName u
        have other : entryName u ≠ temporaryName n := fun same => temporaryName_ne_entryName n u same.symm
        obtain ⟨fitsEntry, bare, removed, taken, put⟩ :=
          Disk.replace_file proper leads' fits isName plain other changed.at result
        rw [← absent] at taken
        have gone := changed.undo taken
        have elsewhere : home ++ [entryName u] ≠ home ++ [temporaryName n] :=
          fun same => other (by simpa using same)
        rw [changed.elsewhere elsewhere] at bare
        refine .out (.written opened leads fitsEntry bare ⟨put.current.trans gone.current, ?_⟩)
        rw [put.kinds, gone.kinds]

/-! ## What can be read in the end -/

/-- An entry that was stored can be read, unless it was a link. -/
theorem Remains.read_entry (proper : c.folder.IsProper) (remains : Remains c u before body true d)
    (noLink : forall home target, kindAt? before.root (home ++ [entryName u]) ≠ some (.link target)) :
    c.read d u = some body := by
  cases remains with
  | @written middle _ home opened leads fits bare changed =>
    have noLink' : forall target, kindAt? middle.root (home ++ [entryName u]) ≠ some (.link target) := by
      rcases opened.grown.kinds (home ++ [entryName u]) with same | ⟨-, made, -⟩
      · rw [same]
        exact noLink home
      · exact absurd made bare
    have closed : Closed (kindAt? middle.root) (home ++ [entryName u]) := Disk.closed_of_bare bare noLink'
    exact read_of_file proper (changed.leads closed leads) fits changed.at

/-- Entries that were there can be read as before, apart from the one that was stored, unless they are links. -/
theorem Remains.read_eq {stored : Bool} (proper : c.folder.IsProper) (remains : Remains c u before body stored d)
    (leads : before.Leads c.folder home)
    (other : stored = true -> entryName v ≠ entryName u ∧
      forall name, name ∈ [entryName u, entryName v] -> forall target,
        kindAt? before.root (home ++ [name]) ≠ some (.link target)) : c.read d v = c.read before v := by
  cases remains with
  | kept opened same =>
    cases opened.still leads
    rw [read, same.readFile]
    rfl
  | @written middle _ home' opened leads' fits bare changed =>
    cases opened.still leads
    cases leads.unique leads'
    obtain ⟨different, noLinks⟩ := other rfl
    have closed : Closed (kindAt? before.root) (home ++ [entryName u]) :=
      Disk.closed_of_bare bare (noLinks _ (List.mem_cons_self ..))
    have elsewhere : home ++ [entryName v] ≠ home ++ [entryName u] := fun same => different (by simpa using same)
    exact read_eq_of_same proper leads (changed.leads closed leads) (noLinks _ (by simp)) (changed.elsewhere elsewhere)

end Cache

end SchemaLint
