import SchemaLint.Proofs.Cache.Entries
import SchemaLint.Proofs.Resolver.Sessions

/-!
# The folder of the cache

What the loads of a session leave on the disk.  Before the folder of the cache is there, they make folders where there
was nothing.  Once it is there, each load that stores a schema may have one new file in it, under a name that was free,
and whatever else is not as it was is an entry that holds what came for its reference.
-/

namespace SchemaLint

open Json (Value)
open Disk (kindAt? Changed Closed Fits)

namespace Cache

/-! ## New files -/

/-- The new file of a writing, and what it holds so far. -/
def Writing.newFile? (body : Bytes) : Writing -> Option (Path × Bytes)
  | filling temporary => some (temporary, [])
  | installing temporary => some (temporary, body)
  | folder => none
  | creation => none
  | ended _ => none

/-- A writing that is given up takes its new file with it. -/
theorem abandon_eq (d : Disk) (body : Bytes) (writing : Writing) :
    abandon d writing = (writing.newFile? body).elim d fun new => without d new.1 := by
  cases writing <;> rfl

/-- A load has a new file of a name in the folder of the cache. -/
def Holds (c : Cache) (load : Load) (name : String) (contents : Bytes) : Prop :=
  exists schema body writing, load = .storing schema body writing ∧
    writing.newFile? body = some (c.folder.child name, contents)

/-- A load has no new file. -/
def Bare (load : Load) : Prop :=
  forall schema body writing, load = .storing schema body writing -> writing.newFile? body = none

theorem Bare.not_holds {c : Cache} {load : Load} {name : String} {contents : Bytes} (bare : Bare load) :
    ¬ c.Holds load name contents := by
  rintro ⟨schema, body, writing, same, file⟩
  rw [bare schema body writing same] at file
  cases file

/-- A load has one new file at most. -/
theorem Holds.unique {c : Cache} {load : Load} {name name' : String} {contents contents' : Bytes}
    (holds : c.Holds load name contents) (holds' : c.Holds load name' contents') :
    name' = name ∧ contents' = contents := by
  obtain ⟨schema, body, writing, rfl, file⟩ := holds
  obtain ⟨schema', body', writing', same, file'⟩ := holds'
  cases same
  rw [file] at file'
  simp only [Option.some.injEq, Prod.mk.injEq, Path.child, Path.mk.injEq, true_and, List.append_cancel_left_eq,
    List.cons.injEq, and_true] at file'
  exact ⟨file'.1.symm, file'.2.symm⟩

theorem bare_ended (outcome : Except Failed Value) : Bare (.ended outcome) :=
  fun _ _ _ impossible => by cases impossible

/-! ## What is on the disk -/

/-- The loads of a session by their numbers, with their references. -/
abbrev Loads := Nat × Nat -> Option (String × Load)

section

variable (c : Cache) (before : Disk) (region : List String -> Prop) (good : String -> Value -> Bytes -> Prop)
  (loads : Loads) (d : Disk)

/-- The loads have made nothing but folders. -/
structure Idle : Prop where
  unopened : forall {key u schema body writing}, loads key = some (u, .storing schema body writing) ->
    writing = .folder
  places : forall place, region place -> kindAt? d.root place = kindAt? before.root place ∨
    (kindAt? before.root place = none ∧ kindAt? d.root place = some .folder)

/-- Why a place stands for what it stands for once the folder of the cache is there. -/
inductive Accounted (home place : List String) : Prop
  | same (same : kindAt? d.root place = kindAt? before.root place)
  | made (absent : kindAt? before.root place = none) (made : kindAt? d.root place = some .folder)
  | entry (u : String) (schema : Value) (body : Bytes) (here : place = home ++ [entryName u])
      (came : good u schema body) (file : kindAt? d.root place = some (.file body))
  | new (key : Nat × Nat) (u : String) (load : Load) (name : String) (contents : Bytes)
      (found : loads key = some (u, load)) (holds : c.Holds load name contents) (here : place = home ++ [name])

/-- The folder of the cache is there, with the entries and the new files of the loads. -/
structure Busy (home : List String) : Prop where
  leads : d.Leads c.folder home
  named : forall {key u load}, loads key = some (u, load) -> Bare load ∨ exists name contents, c.Holds load name contents
  file : forall {key u load name contents}, loads key = some (u, load) -> c.Holds load name contents ->
    (exists n, name = temporaryName n) ∧ Disk.Fits c.folder name ∧
      kindAt? d.root (home ++ [name]) = some (.file contents) ∧
        (region (home ++ [name]) -> kindAt? before.root (home ++ [name]) = none)
  own : forall {left right u v load load' name contents contents'}, loads left = some (u, load) ->
    loads right = some (v, load') -> c.Holds load name contents -> c.Holds load' name contents' -> left = right
  places : forall place, region place -> Accounted c before good loads d home place

/-- Two disks differ only in new files in a folder. -/
structure Alike (home : List String) (d d' : Disk) : Prop where
  current : d'.current = d.current
  kinds : forall place, kindAt? d'.root place = kindAt? d.root place ∨
    ((exists n, place = home ++ [temporaryName n]) ∧ Closed (kindAt? d.root) place ∧ Closed (kindAt? d'.root) place)

theorem Alike.refl (home : List String) (d : Disk) : Alike home d d :=
  ⟨rfl, fun _ => Or.inl rfl⟩

theorem Alike.elsewhere {home place : List String} {d d' : Disk} (alike : Alike home d d')
    (elsewhere : forall n, place ≠ home ++ [temporaryName n]) : kindAt? d'.root place = kindAt? d.root place := by
  rcases alike.kinds place with same | ⟨⟨n, here⟩, -, -⟩
  · exact same
  · exact absurd here (elsewhere n)

/-- What the loads have done to the disk, in a region of which it is known what was there before. -/
structure Tidy : Prop where
  came : forall {key u schema body writing}, loads key = some (u, .storing schema body writing) -> good u schema body
  phase : Idle before region loads d ∨ exists home, Busy c before region good loads d home

end

variable {c : Cache} {before d d' : Disk} {region : List String -> Prop} {good : String -> Value -> Bytes -> Prop}
  {loads : Loads} {home : List String} {key : Nat × Nat} {u : String} {load : Load} {name : String}

theorem update_cases {k : Nat × Nat} {x y : String × Load}
    (found : Function.update loads key (some x) k = some y) : (k = key ∧ y = x) ∨ (k ≠ key ∧ loads k = some y) := by
  rw [Function.update_apply] at found
  by_cases same : k = key
  · rw [if_pos same] at found
    exact Or.inl ⟨same, (Option.some.inj found).symm⟩
  · rw [if_neg same] at found
    exact Or.inr ⟨same, found⟩

theorem update_of_ne {k : Nat × Nat} {x : String × Load} {y : Option (String × Load)} (other : k ≠ key)
    (found : loads k = y) : Function.update loads key (some x) k = y := by
  rw [Function.update_of_ne other, found]

/-! ## What happens in the folder -/

/-- A load without a new file takes the place of none, or of one without a new file. -/
theorem Busy.same (busy : Busy c before region good loads d home) (bare : Bare load)
    (old : forall {v load'}, loads key = some (v, load') -> Bare load') :
    Busy c before region good (Function.update loads key (some (u, load))) d home where
  leads := busy.leads
  named := by
    intro k v load' found
    rcases update_cases found with ⟨-, same⟩ | ⟨-, found⟩
    · cases same
      exact Or.inl bare
    · exact busy.named found
  file := by
    intro k v load' name contents found holds
    rcases update_cases found with ⟨-, same⟩ | ⟨-, found⟩
    · cases same
      exact absurd holds bare.not_holds
    · exact busy.file found holds
  own := by
    intro left right v v' load' load'' name contents contents' foundLeft foundRight holdsLeft holdsRight
    rcases update_cases foundLeft with ⟨-, same⟩ | ⟨-, foundLeft⟩
    · cases same
      exact absurd holdsLeft bare.not_holds
    · rcases update_cases foundRight with ⟨-, same⟩ | ⟨-, foundRight⟩
      · cases same
        exact absurd holdsRight bare.not_holds
      · exact busy.own foundLeft foundRight holdsLeft holdsRight
  places := by
    intro place inside
    cases busy.places place inside with
    | same same => exact .same same
    | made absent made => exact .made absent made
    | entry v schema body here came file => exact .entry v schema body here came file
    | new k v load' name contents found holds here =>
      have other : k ≠ key := by
        rintro rfl
        exact absurd holds (old found).not_holds
      exact .new k v load' name contents (update_of_ne other found) holds here

/-- A load makes its new file, fills it, or takes it away. -/
theorem Busy.renew (busy : Busy c before region good loads d home) {kind : Option Kind}
    (changed : Changed d d' (home ++ [name]) kind) (closed : Closed (kindAt? d.root) (home ++ [name]))
    (isNew : exists n, name = temporaryName n) (fits : Fits c.folder name)
    (free : region (home ++ [name]) -> kindAt? before.root (home ++ [name]) = none)
    (others : forall {k v load' contents}, k ≠ key -> loads k = some (v, load') -> ¬ c.Holds load' name contents)
    (old : forall {v load' name' contents}, loads key = some (v, load') -> c.Holds load' name' contents -> name' = name)
    (new : (kind = none ∧ Bare load) ∨ exists contents, kind = some (.file contents) ∧ c.Holds load name contents) :
    Busy c before region good (Function.update loads key (some (u, load))) d' home where
  leads := changed.leads closed busy.leads
  named := by
    intro k v load' found
    rcases update_cases found with ⟨-, same⟩ | ⟨-, found⟩
    · cases same
      rcases new with ⟨-, bare⟩ | ⟨contents, -, holds⟩
      · exact Or.inl bare
      · exact Or.inr ⟨name, contents, holds⟩
    · exact busy.named found
  file := by
    intro k v load' name' contents found holds
    rcases update_cases found with ⟨-, same⟩ | ⟨other, found⟩
    · cases same
      rcases new with ⟨-, bare⟩ | ⟨contents', here, holds'⟩
      · exact absurd holds bare.not_holds
      · obtain ⟨rfl, rfl⟩ := holds'.unique holds
        exact ⟨isNew, fits, changed.at.trans here, free⟩
    · obtain ⟨isNew', fits', file, free'⟩ := busy.file found holds
      have elsewhere : home ++ [name'] ≠ home ++ [name] := by
        intro same
        have equal : name' = name := by simpa using same
        exact others other found (equal ▸ holds)
      exact ⟨isNew', fits', (changed.elsewhere elsewhere).trans file, free'⟩
  own := by
    intro left right v v' load' load'' name' contents contents' foundLeft foundRight holdsLeft holdsRight
    have mine : forall {k v load' load'' name' contents contents'}, k ≠ key -> loads k = some (v, load') ->
        c.Holds load' name' contents -> load'' = load -> c.Holds load'' name' contents' -> False := by
      intro k v load' load'' name' contents contents' other found holds same holds'
      subst same
      rcases new with ⟨-, bare⟩ | ⟨contents'', -, held⟩
      · exact bare.not_holds holds'
      · exact others other found ((held.unique holds').1 ▸ holds)
    rcases update_cases foundLeft with ⟨atLeft, same⟩ | ⟨notLeft, foundLeft⟩
    · rcases update_cases foundRight with ⟨atRight, -⟩ | ⟨notRight, foundRight⟩
      · exact atLeft.trans atRight.symm
      · exact (mine notRight foundRight holdsRight (congrArg Prod.snd same) holdsLeft).elim
    · rcases update_cases foundRight with ⟨-, same⟩ | ⟨-, foundRight⟩
      · exact (mine notLeft foundLeft holdsLeft (congrArg Prod.snd same) holdsRight).elim
      · exact busy.own foundLeft foundRight holdsLeft holdsRight
  places := by
    intro place inside
    by_cases here : place = home ++ [name]
    · subst here
      rcases new with ⟨absent, -⟩ | ⟨contents, -, holds⟩
      · exact .same (changed.at.trans (absent.trans (free inside).symm))
      · exact .new key u load name contents (Function.update_self ..) holds rfl
    · have still := changed.elsewhere here
      cases busy.places place inside with
      | same same => exact .same (still.trans same)
      | made absent made => exact .made absent (still.trans made)
      | entry v schema body there came file => exact .entry v schema body there came (still.trans file)
      | new k v load' name' contents found holds there =>
        have other : k ≠ key := by
          rintro rfl
          exact here (old found holds ▸ there)
        exact .new k v load' name' contents (update_of_ne other found) holds there

/-- What came for a reference is put in the place of its entry. -/
theorem Busy.enter (busy : Busy c before region good loads d home) {schema : Value} {body : Bytes}
    (changed : Changed d d' (home ++ [entryName u]) (some (.file body))) (came : good u schema body)
    (leads : d'.Leads c.folder home) : Busy c before region good loads d' home where
  leads := leads
  named := busy.named
  file := by
    intro k v load name contents found holds
    obtain ⟨⟨n, isNew⟩, fits, file, free⟩ := busy.file found holds
    have elsewhere : home ++ [name] ≠ home ++ [entryName u] := by
      intro same
      have equal : name = entryName u := by simpa using same
      exact temporaryName_ne_entryName n u (isNew.symm.trans equal)
    exact ⟨⟨n, isNew⟩, fits, (changed.elsewhere elsewhere).trans file, free⟩
  own := busy.own
  places := by
    intro place inside
    by_cases here : place = home ++ [entryName u]
    · subst here
      exact .entry u schema body rfl came changed.at
    · have still := changed.elsewhere here
      cases busy.places place inside with
      | same same => exact .same (still.trans same)
      | made absent made => exact .made absent (still.trans made)
      | entry v schema' body' there came' file => exact .entry v schema' body' there came' (still.trans file)
      | new k v load name contents found holds there => exact .new k v load name contents found holds there

/-! ## Steps of writing -/

section Steps

variable {schema : Value} {body contents : Bytes} {temporary : Path} {writing : Writing}

theorem alike_of_changed {kind : Option Kind} (changed : Changed d d' (home ++ [name]) kind)
    (isNew : exists n, name = temporaryName n) (closed : Closed (kindAt? d.root) (home ++ [name]))
    (closed' : kind = none ∨ exists contents, kind = some (.file contents)) : Alike home d d' := by
  obtain ⟨n, rfl⟩ := isNew
  refine ⟨changed.current, fun place => ?_⟩
  by_cases here : place = home ++ [temporaryName n]
  · subst here
    refine Or.inr ⟨⟨n, rfl⟩, closed, ?_⟩
    unfold Closed
    rw [changed.at]
    exact closed'
  · exact Or.inl (changed.elsewhere here)

theorem Busy.others (busy : Busy c before region good loads d home) (found : loads key = some (u, load))
    (holds : c.Holds load name contents) {k : Nat × Nat} {v : String} {load' : Load} {contents' : Bytes}
    (other : k ≠ key) (found' : loads k = some (v, load')) : ¬ c.Holds load' name contents' :=
  fun holds' => other (busy.own found' found holds' holds)

/-- The new file of a load is changed, or it is taken away. -/
theorem Busy.revise {load' : Load} (busy : Busy c before region good loads d home)
    (found : loads key = some (u, load')) (holds : c.Holds load' name contents) {kind : Option Kind}
    (changed : Changed d d' (home ++ [name]) kind)
    (new : (kind = none ∧ Bare load) ∨ exists contents, kind = some (.file contents) ∧ c.Holds load name contents) :
    Busy c before region good (Function.update loads key (some (u, load))) d' home ∧ Alike home d d' := by
  obtain ⟨isNew, fits, file, free⟩ := busy.file found holds
  refine ⟨busy.renew changed (Or.inr ⟨contents, file⟩) isNew fits free (busy.others found holds) ?_ new,
    alike_of_changed changed isNew (Or.inr ⟨contents, file⟩) ?_⟩
  · intro v load'' name' contents' found' holds'
    cases found.symm.trans found'
    exact (holds.unique holds').1
  · rcases new with ⟨absent, -⟩ | ⟨contents', same, -⟩
    · exact Or.inl absent
    · exact Or.inr ⟨contents', same⟩

/-- The path of a new file is the one of a name in the folder. -/
theorem Busy.exists_name (busy : Busy c before region good loads d home)
    (found : loads key = some (u, .storing schema body writing))
    (file : writing.newFile? body = some (temporary, contents)) :
    exists name, temporary = c.folder.child name ∧ c.Holds (.storing schema body writing) name contents := by
  rcases busy.named found with bare | ⟨name, contents', holds⟩
  · rw [bare schema body writing rfl] at file
    cases file
  · obtain ⟨schema', body', writing', same, file'⟩ := id holds
    cases same
    cases file.symm.trans file'
    exact ⟨name, rfl, holds⟩

/-- A name that nothing has yet is the name of a new file. -/
theorem kind_temporary (leads : d.Leads c.folder home) :
    exists n, c.temporary d = c.folder.child (temporaryName n) ∧
      kindAt? d.root (home ++ [temporaryName n]) = none := by
  obtain ⟨e, found, kind⟩ := Disk.find_of_kind leads.1 leads.2
  cases e with
  | file contents => cases kind
  | link target => cases kind
  | folder entries =>
    have listed : d.entriesOf? c.folder.text = some entries := by
      unfold Disk.entriesOf?
      rw [found]
    obtain ⟨n, same⟩ := exists_freshName (entries.map Prod.fst) (entries.map Prod.fst).length 0
    have free := freshName_not_mem (entries.map Prod.fst)
    rw [same] at free
    refine ⟨n, ?_, ?_⟩
    · unfold temporary
      rw [listed]
      exact congrArg c.folder.child same
    · exact Disk.kindAt?_eq_none_of_not_mem (Disk.find_eq_ok_iff.mp found).2 free

variable (proper : c.folder.IsProper)

include proper

/-- A load makes a new file in the folder. -/
theorem Busy.create (busy : Busy c before region good loads d home)
    (found : loads key = some (u, .storing schema body .creation))
    (result : d.writeFile (c.temporary d) [] = .ok d') :
    Busy c before region good
      (Function.update loads key (some (u, .storing schema body (.filling (c.temporary d))))) d' home ∧
        Alike home d d' := by
  obtain ⟨n, same, absent⟩ := kind_temporary busy.leads
  obtain ⟨isName, plain⟩ := isName_temporaryName n
  rw [same] at result ⊢
  obtain ⟨fits, changed⟩ := Disk.writeFile_new proper busy.leads isName plain absent result
  refine ⟨busy.renew changed (Or.inl absent) ⟨n, rfl⟩ fits ?free ?others ?old ?new,
    alike_of_changed changed ⟨n, rfl⟩ (Or.inl absent) (Or.inr ⟨[], rfl⟩)⟩
  case free =>
    intro inside
    cases busy.places _ inside with
    | same same => exact same.symm.trans absent
    | made _ made =>
      rw [made] at absent
      cases absent
    | entry v schema' body' here came file =>
      rw [file] at absent
      cases absent
    | new k v load' name' contents' found' holds here =>
      obtain ⟨-, -, file, -⟩ := busy.file found' holds
      rw [← here, absent] at file
      cases file
  case others =>
    intro k v load' contents' other found' holds
    obtain ⟨-, -, file, -⟩ := busy.file found' holds
    rw [absent] at file
    cases file
  case old =>
    rintro v load' name' contents' found' ⟨schema', body', writing', rfl, file⟩
    cases found.symm.trans found'
    cases file
  case new =>
    exact Or.inr ⟨[], rfl, schema, body, _, rfl, rfl⟩

/-- A load fills its new file, which is never refused. -/
theorem Busy.fill (busy : Busy c before region good loads d home)
    (found : loads key = some (u, .storing schema body (.filling temporary))) :
    exists written, d.writeFile temporary body = .ok written ∧
      Busy c before region good
        (Function.update loads key (some (u, .storing schema body (.installing temporary)))) written home ∧
          Alike home d written := by
  obtain ⟨name, rfl, holds⟩ := busy.exists_name found rfl
  obtain ⟨-, fits, file, -⟩ := busy.file found holds
  obtain ⟨written, result, changed⟩ := Disk.writeFile_old proper busy.leads fits file
  exact ⟨written, result, busy.revise found holds changed (Or.inr ⟨body, rfl, schema, body, _, rfl, rfl⟩)⟩

/-- A file in the folder can be taken away. -/
theorem changed_without (leads : d.Leads c.folder home) (fits : Fits c.folder name)
    (file : kindAt? d.root (home ++ [name]) = some (.file contents)) :
    Changed d (without d (c.folder.child name)) (home ++ [name]) none := by
  obtain ⟨removed, result, changed⟩ := Disk.remove_file proper leads fits file
  rw [without, result]
  exact changed

/-- A load takes its new file away again. -/
theorem Busy.discard (busy : Busy c before region good loads d home)
    (found : loads key = some (u, .storing schema body writing))
    (file : writing.newFile? body = some (temporary, contents)) (outcome : Except Failed Value) :
    Busy c before region good (Function.update loads key (some (u, .ended outcome))) (without d temporary) home ∧
      Alike home d (without d temporary) := by
  obtain ⟨name, rfl, holds⟩ := busy.exists_name found file
  obtain ⟨-, fits, there, -⟩ := busy.file found holds
  exact busy.revise found holds (changed_without proper busy.leads fits there) (Or.inl ⟨rfl, bare_ended outcome⟩)

/-- What it comes to that the new file of a load takes the place of the entry. -/
theorem Busy.replaced (busy : Busy c before region good loads d home)
    (found : loads key = some (u, .storing schema body (.installing temporary)))
    (result : d.replace temporary (c.entry u) = .ok d') :
    Fits c.folder (entryName u) ∧ kindAt? d.root (home ++ [entryName u]) ≠ some .folder ∧
      exists name middle, c.Holds (.storing schema body (.installing temporary)) name body ∧
        Changed d middle (home ++ [name]) none ∧
        Changed middle d' (home ++ [entryName u]) (some (.file body)) := by
  obtain ⟨name, rfl, holds⟩ := busy.exists_name found rfl
  obtain ⟨⟨n, isNew⟩, fits, there, -⟩ := busy.file found holds
  obtain ⟨isName, plain⟩ := isName_entryName u
  have other : entryName u ≠ name := fun same => temporaryName_ne_entryName n u (isNew.symm.trans same.symm)
  obtain ⟨fitsEntry, bare, middle, taken, put⟩ :=
    Disk.replace_file proper busy.leads fits isName plain other there result
  exact ⟨fitsEntry, bare, name, middle, holds, taken, put⟩

/-- The new file of a load takes the place of the entry, which can be read. -/
theorem Busy.install (busy : Busy c before region good loads d home)
    (found : loads key = some (u, .storing schema body (.installing temporary))) (came : good u schema body)
    (result : d.replace temporary (c.entry u) = .ok d') (readable : (c.read d' u).isSome = true) :
    Busy c before region good (Function.update loads key (some (u, .ended (.ok schema)))) d' home ∧
      Fits c.folder (entryName u) ∧ kindAt? d.root (home ++ [entryName u]) ≠ some .folder ∧
        exists middle, Alike home d middle ∧ Changed middle d' (home ++ [entryName u]) (some (.file body)) := by
  obtain ⟨fits, bare, name, middle, holds, taken, put⟩ := busy.replaced proper found result
  have leads : d'.Leads c.folder home := by
    obtain ⟨stored, there⟩ := Option.isSome_iff_exists.mp readable
    obtain ⟨place, leads⟩ : exists place, d'.Leads c.folder place := exists_leads_of_read proper there
    -- nothing lies behind the two places that changed, so that the path led to the same folder before
    have earlier : d.Leads c.folder place := by
      refine leads.of_closed (taken.current.symm.trans put.current.symm) fun other => ?_
      by_cases entry : other = home ++ [entryName u]
      · exact Or.inl (Or.inr ⟨body, entry ▸ put.at⟩)
      · by_cases new : other = home ++ [name]
        · exact Or.inl (Or.inl ((put.elsewhere entry).trans (new ▸ taken.at)))
        · exact Or.inr ((taken.elsewhere new).symm.trans (put.elsewhere entry).symm)
    exact busy.leads.unique earlier ▸ leads
  obtain ⟨busy', alike⟩ : Busy c before region good (Function.update loads key (some (u, .ended (.ok schema))))
      middle home ∧ Alike home d middle :=
    busy.revise found holds taken (Or.inl ⟨rfl, bare_ended _⟩)
  exact ⟨busy'.enter put came leads, fits, bare, middle, alike, put⟩

/-- Whatever a load was about to do, it can leave it and take its new file away. -/
theorem Busy.leave (busy : Busy c before region good loads d home)
    (found : loads key = some (u, .storing schema body writing)) (outcome : Except Failed Value) :
    Busy c before region good (Function.update loads key (some (u, .ended outcome))) (abandon d writing) home ∧
      Alike home d (abandon d writing) := by
  have bare : writing.newFile? body = none -> Busy c before region good
      (Function.update loads key (some (u, .ended outcome))) d home := by
    intro none
    refine busy.same (bare_ended outcome) ?_
    rintro v load' found' schema' body' writing' rfl
    cases found.symm.trans found'
    exact none
  rw [abandon_eq d body]
  cases file : writing.newFile? body with
  | none => exact ⟨bare file, Alike.refl home d⟩
  | some new => exact busy.discard proper found file outcome

end Steps

/-! ## Steps of loads -/

section Loads

variable {s : Sources} {w : World} {next : Load × World}

/-- What a step of a load does to the folder: it concerns new files alone, or the entry is written. -/
inductive Course (s : Sources) (u : String) (w : World) (load : Load) (next : Load × World) (home : List String) : Prop
  | alike (alike : Alike home w.disk next.2.disk)
  | written (schema : Value) (body : Bytes) (middle : Disk) (writes : load.Writes s u w schema body)
      (ended : next.1 = .ended (.ok schema)) (fits : Fits s.cache.folder (entryName u))
      (bare : kindAt? w.disk.root (home ++ [entryName u]) ≠ some .folder) (alike : Alike home w.disk middle)
      (changed : Changed middle next.2.disk (home ++ [entryName u]) (some (.file body)))

/-- What a load fetches is good, and an entry that it writes can be read. -/
structure Fair (s : Sources) (good : String -> Value -> Bytes -> Prop) (u : String) (w : World) (load : Load)
    (next : Load × World) : Prop where
  fetched : forall {schema body}, load = .asking -> (Load.fetch u w.network).1 = .ok (schema, body) ->
    good u schema body
  readable : forall {schema body}, load.Writes s u w schema body -> (s.cache.read next.2.disk u).isSome = true

theorem next_of_fair (taken : (next = load.step s u w ∧ Fair s good u w load next) ∨ next = load.refuse w) :
    Load.Next s u w load next := by
  rcases taken with ⟨same, -⟩ | same
  · exact Or.inl same
  · exact Or.inr same

theorem bare_of_next (taken : Load.Next s u w load next)
    (other : forall schema body writing, load ≠ .storing schema body writing) : Bare next.1 := by
  intro schema body writing storing
  obtain ⟨rfl, -, -⟩ := Load.writing_of_next taken other storing
  rfl

/-- A load that stores a schema keeps the folder, once it is there. -/
theorem Busy.step_storing (proper : s.cache.folder.IsProper) (busy : Busy s.cache before region good loads w.disk home)
    {schema : Value} {body : Bytes} {writing : Writing} (found : loads key = some (u, .storing schema body writing))
    (came : good u schema body) (fair : Fair s good u w (.storing schema body writing)
      (Load.step s u w (.storing schema body writing))) :
    Busy s.cache before region good
        (Function.update loads key (some (u, (Load.step s u w (.storing schema body writing)).1)))
        (Load.step s u w (.storing schema body writing)).2.disk home ∧
      Course s u w (.storing schema body writing) (Load.step s u w (.storing schema body writing)) home := by
  obtain ⟨left, alike⟩ := busy.leave proper found (.ok schema)
  cases writing with
  | folder =>
    have same : Load.step s u w (.storing schema body .folder) = (.storing schema body .creation, w) := by
      simp only [Load.step_storing, writeStep, Disk.makeFolders_of_leads _ busy.leads, Load.ofWriting]
    rw [same]
    refine ⟨busy.same ?_ ?_, .alike (Alike.refl home w.disk)⟩
    · rintro schema' body' writing' same
      cases same
      rfl
    · rintro v load' found' schema' body' writing' rfl
      cases found.symm.trans found'
      rfl
  | creation =>
    cases result : w.disk.writeFile (s.cache.temporary w.disk) [] with
    | error fault =>
      have same : Load.step s u w (.storing schema body .creation) = (.ended (.ok schema), w) := by
        simp only [Load.step_storing, writeStep, result, Load.ofWriting]
      rw [same]
      exact ⟨left, .alike alike⟩
    | ok d' =>
      have same : Load.step s u w (.storing schema body .creation) =
          (.storing schema body (.filling (s.cache.temporary w.disk)), { w with disk := d' }) := by
        simp only [Load.step_storing, writeStep, result, Load.ofWriting]
      rw [same]
      obtain ⟨busy', alike'⟩ := busy.create proper found result
      exact ⟨busy', .alike alike'⟩
  | filling temporary =>
    obtain ⟨d', result, busy', alike'⟩ := busy.fill proper found
    have same : Load.step s u w (.storing schema body (.filling temporary)) =
        (.storing schema body (.installing temporary), { w with disk := d' }) := by
      simp only [Load.step_storing, writeStep, result, Load.ofWriting]
    rw [same]
    exact ⟨busy', .alike alike'⟩
  | installing temporary =>
    cases result : w.disk.replace temporary (s.cache.entry u) with
    | error fault =>
      have same : Load.step s u w (.storing schema body (.installing temporary)) =
          (.ended (.ok schema), { w with disk := abandon w.disk (.installing temporary) }) := by
        simp only [Load.step_storing, writeStep, result, Load.ofWriting]
      rw [same]
      exact ⟨left, .alike alike⟩
    | ok d' =>
      have same : Load.step s u w (.storing schema body (.installing temporary)) =
          (.ended (.ok schema), { w with disk := d' }) := by
        simp only [Load.step_storing, writeStep, result, Load.ofWriting]
      have writes : Load.Writes s u w (.storing schema body (.installing temporary)) schema body :=
        ⟨temporary, d', rfl, result⟩
      have read := fair.readable writes
      rw [same] at read ⊢
      obtain ⟨busy', fits, bare, middle, alike', changed⟩ := busy.install proper found came result read
      exact ⟨busy', .written schema body middle writes rfl fits bare alike' changed⟩
  | ended written =>
    have same : Load.step s u w (.storing schema body (.ended written)) = (.ended (.ok schema), w) := rfl
    rw [same]
    exact ⟨left, .alike alike⟩

/-- Whatever a load does once the folder is there, the folder is kept. -/
theorem Busy.step (proper : s.cache.folder.IsProper) (busy : Busy s.cache before region good loads w.disk home)
    (found : loads key = some (u, load))
    (came : forall {schema body writing}, load = .storing schema body writing -> good u schema body)
    (taken : (next = load.step s u w ∧ Fair s good u w load next) ∨ next = load.refuse w) :
    Busy s.cache before region good (Function.update loads key (some (u, next.1))) next.2.disk home ∧
      Course s u w load next home := by
  by_cases storing : exists schema body writing, load = .storing schema body writing
  · obtain ⟨schema, body, writing, rfl⟩ := storing
    rcases taken with ⟨rfl, fair⟩ | rfl
    · exact busy.step_storing proper found (came rfl) fair
    · obtain ⟨left, alike⟩ := busy.leave proper found (.ok schema)
      exact ⟨left, .alike alike⟩
  · have other : forall schema body writing, load ≠ .storing schema body writing :=
      fun schema body writing same => storing ⟨schema, body, writing, same⟩
    have isNext := next_of_fair taken
    rw [Load.disk_of_next isNext other]
    refine ⟨busy.same (bare_of_next isNext other) ?_, .alike ?_⟩
    · rintro v load' found' schema body writing rfl
      cases found.symm.trans found'
      exact absurd rfl (other schema body writing)
    · rw [Load.disk_of_next isNext other]
      exact Alike.refl home w.disk

/-- A load that does not store a schema, or is only about to make the folder, takes its place among such loads. -/
theorem Idle.same (idle : Idle before region loads d)
    (unopened : forall {schema body writing}, load = .storing schema body writing -> writing = .folder) :
    Idle before region (Function.update loads key (some (u, load))) d where
  unopened := by
    intro k v schema body writing found
    rcases update_cases found with ⟨-, same⟩ | ⟨-, found⟩
    · cases same
      exact unopened rfl
    · exact idle.unopened found
  places := idle.places

/-- Once a path leads to the folder, it is there, if no load has a new file. -/
theorem busy_of_bare (leads : d.Leads c.folder home)
    (bare : forall {key u load}, loads key = some (u, load) -> Bare load)
    (places : forall place, region place -> kindAt? d.root place = kindAt? before.root place ∨
      (kindAt? before.root place = none ∧ kindAt? d.root place = some .folder)) :
    Busy c before region good loads d home where
  leads := leads
  named := fun found => Or.inl (bare found)
  file := fun found holds => absurd holds (bare found).not_holds
  own := fun found _ holds _ => absurd holds (bare found).not_holds
  places := by
    intro place inside
    rcases places place inside with same | ⟨absent, made⟩
    · exact .same same
    · exact .made absent made

/-- If the path leads to the folder, then the folder is there, whoever has made it. -/
theorem Tidy.busy (tidy : Tidy c before region good loads d) (leads : d.Leads c.folder home) :
    Busy c before region good loads d home := by
  rcases tidy.phase with idle | ⟨place, busy⟩
  · refine busy_of_bare leads ?_ idle.places
    rintro key u load found schema body writing rfl
    rw [idle.unopened found]
    rfl
  · exact busy.leads.unique leads ▸ busy

/-- More folders are made on the way to the cache. -/
theorem Idle.grow {p : Path} (idle : Idle before region loads d) (grown : Disk.Grown p d d') :
    Idle before region loads d' where
  unopened := idle.unopened
  places := by
    intro place inside
    rcases idle.places place inside with same | ⟨absent, made⟩
    · rcases grown.kinds place with still | ⟨absent, made, -⟩
      · exact Or.inl (still.trans same)
      · exact Or.inr ⟨same.symm.trans absent, made⟩
    · rcases grown.kinds place with still | ⟨absent', -⟩
      · exact Or.inr ⟨absent, still.trans made⟩
      · rw [made] at absent'
        cases absent'

/-- A load has made the folder with all folders around it. -/
theorem Idle.make {schema : Value} {body : Bytes} (idle : Idle before region loads d) (leads : d.Leads c.folder home) :
    Busy c before region good (Function.update loads key (some (u, .storing schema body .creation))) d home := by
  refine busy_of_bare leads ?_ idle.places
  rintro k v load' found schema' body' writing' rfl
  rcases update_cases found with ⟨-, same⟩ | ⟨-, found⟩
  · cases same
    rfl
  · rw [idle.unopened found]
    rfl

theorem Idle.step (proper : s.cache.folder.IsProper) (idle : Idle before region loads w.disk)
    (found : loads key = some (u, load)) (taken : Load.Next s u w load next) :
    Idle before region (Function.update loads key (some (u, next.1))) next.2.disk ∨
      exists home, Busy s.cache before region good (Function.update loads key (some (u, next.1))) next.2.disk home := by
  by_cases storing : exists schema body writing, load = .storing schema body writing
  · obtain ⟨schema, body, writing, rfl⟩ := storing
    cases idle.unopened found
    rcases taken with rfl | rfl
    · rcases result : w.disk.makeFolders s.cache.folder.parts.length s.cache.folder with ⟨d', refused⟩
      obtain ⟨grown, reached⟩ := Disk.makeFolders_new proper result
      cases refused with
      | some fault =>
        have same : Load.step s u w (.storing schema body .folder) = (.ended (.ok schema), { w with disk := d' }) := by
          simp only [Load.step_storing, writeStep, result, Load.ofWriting]
        rw [same]
        exact Or.inl ((idle.grow grown).same (by simp))
      | none =>
        have same : Load.step s u w (.storing schema body .folder) =
            (.storing schema body .creation, { w with disk := d' }) := by
          simp only [Load.step_storing, writeStep, result, Load.ofWriting]
        obtain ⟨home, leads⟩ := reached rfl
        rw [same]
        exact Or.inr ⟨home, (idle.grow grown).make leads⟩
    · exact Or.inl (idle.same fun storing => by cases storing)
  · have other : forall schema body writing, load ≠ .storing schema body writing :=
      fun schema body writing same => storing ⟨schema, body, writing, same⟩
    rw [Load.disk_of_next taken other]
    exact Or.inl (idle.same fun storing => (Load.writing_of_next taken other storing).1)

/-! ## What happens to all of it -/

/-- Before a load has begun to store a schema, nothing is out of order on a disk. -/
theorem Tidy.refl (none : forall key, loads key = none) : Tidy c d region good loads d := by
  have nothing : forall {key x}, loads key ≠ some x := fun found => by rw [none] at found; cases found
  exact ⟨fun found => (nothing found).elim, Or.inl ⟨fun found => (nothing found).elim, fun _ _ => Or.inl rfl⟩⟩

/-- A load stores only what it was storing already, or what it has just fetched. -/
theorem came_of_fair {schema : Value} {body : Bytes} {writing : Writing}
    (came : forall {schema body writing}, load = .storing schema body writing -> good u schema body)
    (taken : (next = load.step s u w ∧ Fair s good u w load next) ∨ next = load.refuse w)
    (storing : next.1 = .storing schema body writing) : good u schema body := by
  by_cases already : exists schema body writing, load = .storing schema body writing
  · obtain ⟨schema', body', writing', rfl⟩ := already
    rcases Load.next_of_storing (next_of_fair taken) with ⟨writing'', same⟩ | same
    · cases storing.symm.trans same
      exact came rfl
    · cases storing.symm.trans same
  · have other : forall schema body writing, load ≠ .storing schema body writing :=
      fun schema body writing same => already ⟨schema, body, writing, same⟩
    obtain ⟨-, asking, fetched⟩ := Load.writing_of_next (next_of_fair taken) other storing
    rcases taken with ⟨-, fair⟩ | rfl
    · exact fair.fetched asking fetched
    · subst asking
      cases storing

/-- A step of a load keeps the folder tidy. -/
theorem Tidy.step (proper : s.cache.folder.IsProper) (tidy : Tidy s.cache before region good loads w.disk)
    (found : loads key = some (u, load))
    (taken : (next = load.step s u w ∧ Fair s good u w load next) ∨ next = load.refuse w) :
    Tidy s.cache before region good (Function.update loads key (some (u, next.1))) next.2.disk where
  came := by
    intro k v schema body writing found'
    rcases update_cases found' with ⟨-, same⟩ | ⟨-, found'⟩
    · obtain ⟨rfl, storing⟩ := Prod.mk.inj same
      refine came_of_fair ?_ taken storing.symm
      rintro schema body writing rfl
      exact tidy.came found
    · exact tidy.came found'
  phase := by
    rcases tidy.phase with idle | ⟨home, busy⟩
    · exact idle.step proper found (next_of_fair taken)
    · refine Or.inr ⟨home, (busy.step proper found ?_ taken).1⟩
      rintro schema body writing rfl
      exact tidy.came found

/-- A load that begins leaves the folder alone. -/
theorem Tidy.begin (tidy : Tidy c before region good loads d) (new : loads key = none) :
    Tidy c before region good (Function.update loads key (some (u, .begun))) d where
  came := by
    intro k v schema body writing found
    rcases update_cases found with ⟨-, same⟩ | ⟨-, found⟩
    · cases same
    · exact tidy.came found
  phase := by
    rcases tidy.phase with idle | ⟨home, busy⟩
    · exact Or.inl (idle.same (by simp))
    · refine Or.inr ⟨home, busy.same (fun _ _ _ storing => by cases storing) ?_⟩
      intro v load' found
      rw [new] at found
      cases found

/-- The disk may change elsewhere. -/
theorem Tidy.change (tidy : Tidy c before region good loads d)
    (leads : forall {place}, d.Leads c.folder place -> d'.Leads c.folder place)
    (inside : forall {place name}, d.Leads c.folder place ->
      kindAt? d'.root (place ++ [name]) = kindAt? d.root (place ++ [name]))
    (same : forall {place}, region place -> kindAt? d'.root place = kindAt? d.root place) :
    Tidy c before region good loads d' where
  came := tidy.came
  phase := by
    rcases tidy.phase with idle | ⟨home, busy⟩
    · refine Or.inl ⟨idle.unopened, fun place within => ?_⟩
      rw [same within]
      exact idle.places place within
    · refine Or.inr ⟨home, leads busy.leads, busy.named, ?_, busy.own, fun place within => ?_⟩
      · intro k v load name contents found holds
        rw [inside busy.leads]
        exact busy.file found holds
      · cases busy.places place within with
        | same unchanged => exact .same ((same within).trans unchanged)
        | made absent made => exact .made absent ((same within).trans made)
        | entry v schema body here came file => exact .entry v schema body here came ((same within).trans file)
        | new k v load name contents found holds here => exact .new k v load name contents found holds here

end Loads

end Cache

end SchemaLint
