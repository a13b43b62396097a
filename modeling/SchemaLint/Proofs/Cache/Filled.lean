import SchemaLint.Proofs.Cache.Tidy

/-!
# What storing schemas leaves alone

A disk on which schemas were stored differs from the one before only in folders on the way to the cache and in files of
the cache itself.  Every path that led to a folder leads there still.
-/

namespace SchemaLint

open Json (Value)
open Disk (kindAt? Changed Closed Fits Grown)

namespace Cache

/-- A name that something in the folder of the cache can have. -/
def IsOwnName (name : String) : Prop :=
  (exists u, name = entryName u) ∨ exists n, name = temporaryName n

/-- A disk differs from another one only in folders on the way to the cache and in files of the cache. -/
structure Filled (c : Cache) (before d : Disk) : Prop where
  current : d.current = before.current
  places : forall place, kindAt? d.root place = kindAt? before.root place ∨
    (kindAt? before.root place = none ∧ kindAt? d.root place = some .folder ∧
      exists q, q ∈ c.folder.lineage ∧ d.Leads q place) ∨
    exists home name contents, d.Leads c.folder home ∧ place = home ++ [name] ∧ IsOwnName name ∧
      Closed (kindAt? before.root) place ∧ kindAt? d.root place = some (.file contents)

variable {c : Cache} {before d d' : Disk} {home goal : List String} {p : Path}

theorem Filled.refl (c : Cache) (d : Disk) : Filled c d d :=
  ⟨rfl, fun _ => Or.inl rfl⟩

theorem Filled.leads (filled : Filled c before d) (leads : before.Leads p goal) : d.Leads p goal := by
  refine leads.of_closed filled.current fun place => ?_
  rcases filled.places place with same | ⟨absent, -⟩ | ⟨home, name, contents, -, -, -, closed, -⟩
  · exact Or.inr same
  · exact Or.inl (Or.inl absent)
  · exact Or.inl closed

/-- Where nothing lies behind a place, nothing lay behind it before. -/
theorem Filled.closed (filled : Filled c before d) {place : List String} (closed : Closed (kindAt? d.root) place) :
    Closed (kindAt? before.root) place := by
  rcases filled.places place with same | ⟨-, made, -⟩ | ⟨home, name, contents, -, -, -, closed', -⟩
  · unfold Closed
    rw [← same]
    exact closed
  · rcases closed with absent | ⟨contents, file⟩
    · rw [made] at absent
      cases absent
    · rw [made] at file
      cases file
  · exact closed'

/-- Folders are made on the way. -/
theorem Filled.grow (filled : Filled c before d) (grown : Grown c.folder d d') : Filled c before d' := by
  refine ⟨grown.current.trans filled.current, fun place => ?_⟩
  rcases filled.places place with
    same | ⟨absent, made, q, above, leads⟩ | ⟨home, name, contents, leads, here, own, closed, file⟩
  · rcases grown.kinds place with still | ⟨absent, made, onTheWay⟩
    · exact Or.inl (still.trans same)
    · exact Or.inr (Or.inl ⟨same.symm.trans absent, made, onTheWay⟩)
  · rcases grown.kinds place with still | ⟨absent', -⟩
    · exact Or.inr (Or.inl ⟨absent, still.trans made, q, above, grown.leads leads⟩)
    · rw [made] at absent'
      cases absent'
  · rcases grown.kinds place with still | ⟨absent, -⟩
    · exact Or.inr (Or.inr ⟨home, name, contents, grown.leads leads, here, own, closed, still.trans file⟩)
    · rw [file] at absent
      cases absent

/-- Files of the cache are written, or taken away if they are new. -/
theorem Filled.change (filled : Filled c before d) (leads : d.Leads c.folder home) (current : d'.current = d.current)
    (changes : forall place, kindAt? d'.root place = kindAt? d.root place ∨
      exists name, place = home ++ [name] ∧ IsOwnName name ∧ Closed (kindAt? d.root) place ∧
        (kindAt? d'.root place = kindAt? before.root place ∨
          exists contents, kindAt? d'.root place = some (.file contents))) : Filled c before d' := by
  have still : forall {q place}, d.Leads q place -> d'.Leads q place := by
    intro q place leads
    refine leads.of_closed current fun other => ?_
    rcases changes other with same | ⟨name, -, -, closed, -⟩
    · exact Or.inr same
    · exact Or.inl closed
  refine ⟨current.trans filled.current, fun place => ?_⟩
  rcases changes place with unchanged | ⟨name, here, own, closed, same | ⟨contents, file⟩⟩
  · rcases filled.places place with
      same | ⟨absent, made, q, above, there⟩ | ⟨home', name, contents, there, here, own, closed, file⟩
    · exact Or.inl (unchanged.trans same)
    · exact Or.inr (Or.inl ⟨absent, unchanged.trans made, q, above, still there⟩)
    · exact Or.inr (Or.inr ⟨home', name, contents, still there, here, own, closed, unchanged.trans file⟩)
  · exact Or.inl same
  · exact Or.inr (Or.inr ⟨home, name, contents, still leads, here, own, filled.closed closed, file⟩)

/-! ## Steps of loads -/

section Loads

variable {s : Sources} {good : String -> Value -> Bytes -> Prop} {loads : Loads} {key : Nat × Nat} {u : String} {w : World}
  {load : Load} {next : Load × World}

/-- Nothing lies behind an entry that is about to be written, if it was not a link at first. -/
theorem Busy.closed_entry (busy : Busy c before (fun _ => True) good loads d home)
    (bare : kindAt? d.root (home ++ [entryName u]) ≠ some .folder)
    (noLink : forall target, kindAt? before.root (home ++ [entryName u]) ≠ some (.link target)) :
    Closed (kindAt? d.root) (home ++ [entryName u]) := by
  cases busy.places (home ++ [entryName u]) trivial with
  | same same =>
    rw [← same] at noLink
    exact Disk.closed_of_bare bare noLink
  | made _ made => exact absurd made bare
  | entry v schema body here came file => exact Or.inr ⟨body, file⟩
  | new k v load name contents found holds here =>
    obtain ⟨-, -, file, -⟩ := busy.file found holds
    exact Or.inr ⟨contents, here ▸ file⟩

/-- Where there is nothing there was nothing before. -/
theorem Busy.of_closed (busy : Busy c before (fun _ => True) good loads d home) {place : List String}
    (closed : Closed (kindAt? d.root) place) :
    kindAt? d.root place = kindAt? before.root place ∨ exists contents, kindAt? d.root place = some (.file contents) := by
  rcases closed with absent | file
  · left
    cases busy.places place trivial with
    | same same => exact same
    | made _ made =>
      rw [made] at absent
      cases absent
    | entry v schema body here came file =>
      rw [file] at absent
      cases absent
    | new k v load name contents found holds here =>
      obtain ⟨-, -, file, -⟩ := busy.file found holds
      rw [← here, absent] at file
      cases file
  · exact Or.inr file

/-- An entry that is written can be read, if it was not a link at first. -/
theorem Busy.readable (proper : s.cache.folder.IsProper)
    (busy : Busy s.cache before (fun _ => True) good loads w.disk home)
    (found : loads key = some (u, load))
    (noLink : forall target, kindAt? before.root (home ++ [entryName u]) ≠ some (.link target)) {schema : Value}
    {body : Bytes} (writes : load.Writes s u w schema body) :
    (s.cache.read (load.step s u w).2.disk u).isSome = true := by
  obtain ⟨temporary, d, rfl, result⟩ := writes
  have same : Load.step s u w (.storing schema body (.installing temporary)) =
      (.ended (.ok schema), { w with disk := d }) := by
    simp only [Load.step_storing, writeStep, result, Load.ofWriting]
  obtain ⟨fits, bare, name, middle, holds, taken, put⟩ := busy.replaced proper found result
  obtain ⟨⟨n, isNew⟩, -, file, -⟩ := busy.file found holds
  have elsewhere : home ++ [entryName u] ≠ home ++ [name] := by
    intro equal
    exact temporaryName_ne_entryName n u (isNew.symm.trans (by simpa using equal.symm))
  have closed : Closed (kindAt? middle.root) (home ++ [entryName u]) := by
    unfold Closed
    rw [taken.elsewhere elsewhere]
    exact busy.closed_entry bare noLink
  have leads : d.Leads s.cache.folder home := put.leads closed (taken.leads (Or.inr ⟨body, file⟩) busy.leads)
  rw [same]
  exact Option.isSome_iff_exists.mpr ⟨body, read_of_file proper leads fits put.at⟩

/-- What a step does to the folder changes files of the cache. -/
theorem Filled.course {loads' : Loads} (filled : Filled s.cache before w.disk)
    (busy : Busy s.cache before (fun _ => True) good loads w.disk home)
    (busy' : Busy s.cache before (fun _ => True) good loads' next.2.disk home)
    (noLink : forall target, kindAt? before.root (home ++ [entryName u]) ≠ some (.link target))
    (course : Course s u w load next home) : Filled s.cache before next.2.disk := by
  cases course with
  | alike alike =>
    refine filled.change busy.leads alike.current fun place => ?_
    rcases alike.kinds place with same | ⟨⟨n, rfl⟩, closed, closed'⟩
    · exact Or.inl same
    · refine Or.inr ⟨temporaryName n, rfl, Or.inr ⟨n, rfl⟩, closed, ?_⟩
      exact busy'.of_closed closed'
  | written schema body middle writes ended fits bare alike changed =>
    refine filled.change busy.leads (changed.current.trans alike.current) fun place => ?_
    by_cases here : place = home ++ [entryName u]
    · subst here
      exact Or.inr ⟨entryName u, rfl, Or.inl ⟨u, rfl⟩, busy.closed_entry bare noLink, Or.inr ⟨body, changed.at⟩⟩
    · have still := changed.elsewhere here
      rcases alike.kinds place with same | ⟨⟨n, rfl⟩, closed, closed'⟩
      · exact Or.inl (still.trans same)
      · refine Or.inr ⟨temporaryName n, rfl, Or.inr ⟨n, rfl⟩, closed, busy'.of_closed ?_⟩
        unfold Closed
        rw [still]
        exact closed'

/-- Whatever a load does, it makes folders on the way to the cache or changes files of the cache. -/
theorem Filled.step (proper : s.cache.folder.IsProper) (filled : Filled s.cache before w.disk)
    (tidy : Tidy s.cache before (fun _ => True) good loads w.disk) (found : loads key = some (u, load))
    (taken : (next = load.step s u w ∧ Fair s good u w load next) ∨ next = load.refuse w)
    (noLink : forall {schema body writing home}, load = .storing schema body writing ->
      w.disk.Leads s.cache.folder home -> forall target, kindAt? before.root (home ++ [entryName u]) ≠ some (.link target)) :
    Filled s.cache before next.2.disk := by
  by_cases storing : exists schema body writing, load = .storing schema body writing
  · obtain ⟨schema, body, writing, rfl⟩ := storing
    rcases tidy.phase with idle | ⟨home, busy⟩
    · cases idle.unopened found
      rcases taken with ⟨rfl, -⟩ | rfl
      · rw [Load.step_storing]
        have grown := (Disk.isMade_makeFolders s.cache.folder.parts.length proper w.disk).1
        rcases result : w.disk.makeFolders s.cache.folder.parts.length s.cache.folder with ⟨d', refused⟩
        rw [result] at grown
        cases refused <;> simp only [writeStep, result] <;> exact filled.grow grown
      · exact filled
    · have came : forall {schema' body' writing'}, Load.storing schema body writing = .storing schema' body' writing' ->
          good u schema' body' := by
        rintro schema' body' writing' same
        cases same
        exact tidy.came found
      obtain ⟨busy', course⟩ := busy.step proper found came taken
      exact filled.course busy busy' (noLink rfl busy.leads) course
  · have other : forall schema body writing, load ≠ .storing schema body writing :=
      fun schema body writing same => storing ⟨schema, body, writing, same⟩
    rw [Load.disk_of_next (next_of_fair taken) other]
    exact filled

end Loads

end Cache

end SchemaLint
