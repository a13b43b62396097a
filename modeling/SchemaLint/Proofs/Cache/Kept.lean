import SchemaLint.Proofs.Cache.Tidy
import SchemaLint.Proofs.Resolver.SingleFlight

/-!
# The cache over whole sessions

Resolvers share the folder of a cache, and nobody else writes there.  What changes in the folder is then an entry of a
remote reference, and it holds a body that came for the reference and was read as a schema.  Once such an entry is
written, nobody asks for its reference again.

The folder may not be there at first, its path may go along links, and its place on the disk is known only once the path
leads to it.  All that is assumed about it is that others leave it alone, and that an entry that was written can be read.
-/

namespace SchemaLint

open Json (Value)
open Disk (kindAt?)

namespace Session

variable {s : Sources} {σ₀ σ σ' : Session} {events rest left : List Event} {u : String} {home : List String}

/-! ## Orderly runs -/

/-- Some resolver is called for a reference. -/
def IsCalled (events : List Event) (u : String) : Prop :=
  exists j, .act j (.call u) ∈ events

/-- At some time the folder of the cache is at a place. -/
def IsHome (s : Sources) (σ : Session) (events : List Event) (home : List String) : Prop :=
  exists σ' left, Passes s σ events σ' left ∧ σ'.world.disk.Leads s.cache.folder home

/-- A place in the folder of the cache, wherever this is in the course of the run. -/
def IsInside (s : Sources) (σ : Session) (events : List Event) (place : List String) : Prop :=
  exists home below, IsHome s σ events home ∧ below ≠ [] ∧ place = home ++ below

/-- What came for a reference is read as a schema. -/
def IsFetched (s : Sources) (σ : Session) (events : List Event) (u : String) (schema : Value) (body : Bytes) : Prop :=
  exists σ' j i rest reply, Passes s σ events σ' (.act j (.advance i) :: rest) ∧ σ'.loads (j, i) = some (u, .asking) ∧
    (Http.request "GET" u Load.schemaContent σ'.world.network).1 = .ok reply ∧ reply.isOk = true ∧ reply.body = body ∧
      Schema.read u (.bytes body) = .ok schema

/-- References have keys of their own, nobody but the loads writes to the folder of the cache, and the entries that are
written can be read. -/
structure Orderly (s : Sources) (σ : Session) (events : List Event) : Prop where
  proper : s.cache.folder.IsProper
  distinct : forall {u v}, IsCalled events u -> IsCalled events v -> Reference.isRemote u = .ok true ->
    Reference.isRemote v = .ok true -> Cache.key u = Cache.key v -> u = v
  alone : forall {σ' w rest}, Passes s σ events σ' (.change w :: rest) ->
    (forall place, w.disk.Leads s.cache.folder place <-> σ'.world.disk.Leads s.cache.folder place) ∧
      forall place, IsInside s σ events place -> kindAt? w.disk.root place = kindAt? σ'.world.disk.root place
  readable : forall {σ' j i rest u load schema body}, Passes s σ events σ' (.act j (.advance i) :: rest) ->
    σ'.loads (j, i) = some (u, load) -> load.Writes s u σ'.world schema body ->
      (s.cache.read (σ'.take s (.act j (.advance i))).world.disk u).isSome = true

/-- How things are in the course of an orderly run. -/
structure Tended (s : Sources) (σ₀ : Session) (events : List Event) (σ : Session) : Prop where
  tidy : Cache.Tidy s.cache σ₀.world.disk (IsInside s σ₀ events) (IsFetched s σ₀ events) σ.loads σ.world.disk
  called : forall {key u load}, σ.loads key = some (u, load) -> IsCalled events u
  remote : forall {key u load}, σ.loads key = some (u, load) -> load.GoneOut -> Reference.isRemote u = .ok true

theorem isInside_child (passes : Passes s σ₀ events σ left) (leads : σ.world.disk.Leads s.cache.folder home)
    (name : String) : IsInside s σ₀ events (home ++ [name]) :=
  ⟨home, [name], ⟨σ, left, passes, leads⟩, List.cons_ne_nil _ _, rfl⟩

/-- The loads of an orderly run fetch what comes, and what they write can be read. -/
theorem fair_of_taken (orderly : Orderly s σ₀ events) {j i : Nat} {action : Resolver.Action} {load : Load}
    {next : Load × World} (passes : Passes s σ₀ events σ (.act j action :: rest))
    (found : σ.loads (j, i) = some (u, load))
    (taken : (action = .advance i ∧ next = load.step s u σ.world) ∨ (action = .refuse i ∧ next = load.refuse σ.world))
    (world : (σ.take s (.act j action)).world = next.2) :
    (next = load.step s u σ.world ∧ Cache.Fair s (IsFetched s σ₀ events) u σ.world load next) ∨
      next = load.refuse σ.world := by
  rcases taken with ⟨rfl, same⟩ | ⟨-, same⟩
  · refine Or.inl ⟨same, ?fetched, ?readable⟩
    case fetched =>
      rintro schema body rfl came
      obtain ⟨reply, requested, good, content, read⟩ := Load.fetch_eq_ok came
      exact ⟨σ, j, i, rest, reply, passes, found, requested, good, content, read⟩
    case readable =>
      intro schema body writes
      rw [← world]
      exact orderly.readable passes found writes
  · exact Or.inr same

/-- Every event of an orderly run keeps things as they are to be. -/
theorem Tended.take (tended : Tended s σ₀ events σ) (orderly : Orderly s σ₀ events) {event : Event}
    (passes : Passes s σ₀ events σ (event :: rest)) : Tended s σ₀ events (σ.take s event) := by
  cases event with
  | change w =>
    obtain ⟨leads, same⟩ := orderly.alone passes
    refine ⟨tended.tidy.change (fun there => (leads _).mpr there) ?_ (fun inside => same _ inside), tended.called,
      tended.remote⟩
    intro place name there
    exact same _ (isInside_child passes there name)
  | act j action =>
    have concerns := concerns_take s σ j action
    have loads : forall key u load, (σ.take s (.act j action)).loads key = some (u, load) ->
        IsCalled events u ∧ (load.GoneOut -> Reference.isRemote u = .ok true) := by
      refine concerns.all_loads (fun key u load found => ⟨tended.called found, tended.remote found⟩) ?begun ?stepped
      case begun =>
        intro key u called
        exact ⟨⟨j, called ▸ passes.mem⟩, False.elim⟩
      case stepped =>
        intro i u load next found taken world
        have fair := fair_of_taken orderly passes found taken world
        refine ⟨tended.called found, fun out => ?_⟩
        rcases Load.remote_of_next (Cache.next_of_fair fair) out with already | remote
        · exact tended.remote found already
        · exact remote
    refine ⟨?tidy, fun found => (loads _ _ _ found).1, fun found => (loads _ _ _ found).2⟩
    cases concerns with
    | none loads world =>
      rw [loads, world]
      exact tended.tidy
    | begins i u called new loads world =>
      rw [loads, world]
      exact tended.tidy.begin new
    | steps i u load next found taken loads world =>
      have fair := fair_of_taken orderly passes found taken world
      rw [loads, world]
      exact tended.tidy.step orderly.proper found fair

theorem tended_start (count : Nat) (w : World) : Tended s (start count w) events (start count w) where
  tidy := .refl (loads_start count w)
  called := by
    intro key u load found
    rw [loads_start] at found
    cases found
  remote := by
    intro key u load found
    rw [loads_start] at found
    cases found

/-- Throughout an orderly run things are as they are to be. -/
theorem tended_of_passes {count : Nat} {w : World} (orderly : Orderly s (start count w) events)
    (passes : Passes s (start count w) events σ left) : Tended s (start count w) events σ :=
  passes.invariant (tended_start count w) fun passes tended => tended.take orderly passes

/-! ## What changes in the folder -/

/-- A body that came was asked for as a remote reference. -/
theorem IsFetched.remote {count : Nat} {w : World} (orderly : Orderly s (start count w) events) {schema : Value}
    {body : Bytes} (fetched : IsFetched s (start count w) events u schema body) : Reference.isRemote u = .ok true := by
  obtain ⟨σ', j, i, rest, reply, passes, found, -⟩ := fetched
  exact (tended_of_passes orderly passes).remote found trivial

/-- While nothing is being stored, a place in the folder is what it was before or an entry with what came for it, and
folders that are new are on the way to the folder of the cache. -/
theorem Tended.entries (tended : Tended s σ₀ events σ) (passes : Passes s σ₀ events σ left)
    (quiet : forall {key u load}, σ.loads key = some (u, load) -> Cache.Bare load)
    (leads : σ.world.disk.Leads s.cache.folder home) {below : List String} (nonempty : below ≠ []) :
    kindAt? σ.world.disk.root (home ++ below) = kindAt? σ₀.world.disk.root (home ++ below) ∨
      (kindAt? σ₀.world.disk.root (home ++ below) = none ∧
        kindAt? σ.world.disk.root (home ++ below) = some .folder) ∨
      exists u schema body, below = [Cache.entryName u] ∧ IsFetched s σ₀ events u schema body ∧
        kindAt? σ.world.disk.root (home ++ below) = some (.file body) := by
  have inside : IsInside s σ₀ events (home ++ below) := ⟨home, below, ⟨σ, left, passes, leads⟩, nonempty, rfl⟩
  cases (tended.tidy.busy leads).places (home ++ below) inside with
  | same same => exact Or.inl same
  | made absent made => exact Or.inr (Or.inl ⟨absent, made⟩)
  | entry u schema body here came file =>
    exact Or.inr (Or.inr ⟨u, schema, body, List.append_cancel_left here, came, file⟩)
  | new key u load name contents found holds here => exact absurd holds (quiet found).not_holds

/-! ## Loads that store nothing -/

/-- A load has got its schema over the network. -/
def Gets (schema : Value) (load : Load) : Prop :=
  (exists body writing, load = .storing schema body writing) ∨ load = .ended (.ok schema)

theorem gets_of_next {schema : Value} {w : World} {load : Load} {next : Load × World} (gets : Gets schema load)
    (taken : Load.Next s u w load next) : Gets schema next.1 := by
  rcases gets with ⟨body, writing, rfl⟩ | rfl
  · rcases Load.next_of_storing taken with ⟨writing', same⟩ | same
    · exact Or.inl ⟨body, writing', same⟩
    · exact Or.inr same
  · rw [Load.next_of_ended taken]
    exact Or.inr rfl

/-- What holds of a load and of all that it can become holds of it throughout a run. -/
theorem load_of_passes {motive : Load -> Prop} {key : Nat × Nat} {load : Load}
    (step : forall {w load next}, motive load -> Load.Next s u w load next -> motive next.1)
    (passes : Passes s σ events σ' left) (found : σ.loads key = some (u, load)) (holds : motive load) :
    exists load', σ'.loads key = some (u, load') ∧ motive load' := by
  refine passes.invariant (motive := fun σ => exists load', σ.loads key = some (u, load') ∧ motive load')
    ⟨load, found, holds⟩ ?_
  rintro σ event rest - ⟨load', found', holds'⟩
  cases event with
  | change w => exact ⟨load', found', holds'⟩
  | act j action =>
    cases concerns_take s σ j action with
    | none loads world => exact ⟨load', loads ▸ found', holds'⟩
    | begins i v called new loads world =>
      rw [loads]
      have other : key ≠ (j, i) := by
        rintro rfl
        rw [new] at found'
        cases found'
      exact ⟨load', Cache.update_of_ne other found', holds'⟩
    | steps i v load'' next there taken loads world =>
      rw [loads]
      by_cases here : key = (j, i)
      · subst here
        cases there.symm.trans found'
        exact ⟨next.1, Function.update_self .., step holds' (taken.imp And.right And.right)⟩
      · exact ⟨load', Cache.update_of_ne here found', holds'⟩

/-- Whatever changes the disk is a step of a load of a remote reference that has its schema, with which it will end. -/
theorem Tended.still (tended : Tended s σ₀ events σ) {j : Nat} {action : Resolver.Action}
    (passes : Passes s (σ.take s (.act j action)) rest σ' left)
    (fruitless : forall {i u load}, action = .advance i ∨ action = .refuse i -> σ'.loads (j, i) = some (u, load) ->
      Reference.isRemote u ≠ .ok true ∨ exists failed, load = .ended (.error failed)) :
    (σ.take s (.act j action)).world.disk = σ.world.disk := by
  cases concerns_take s σ j action with
  | none loads world => rw [world]
  | begins i v called new loads world => rw [world]
  | steps i u load next found taken loads world =>
    obtain ⟨isNext, isStep⟩ : Load.Next s u σ.world load next ∧ (action = .advance i ∨ action = .refuse i) := by
      rcases taken with ⟨advance, same⟩ | ⟨refuse, same⟩
      · exact ⟨Or.inl same, Or.inl advance⟩
      · exact ⟨Or.inr same, Or.inr refuse⟩
    rw [world]
    refine Load.disk_of_next isNext ?_
    rintro schema body writing rfl
    have now : (σ.take s (.act j action)).loads (j, i) = some (u, next.1) := by
      rw [loads]
      exact Function.update_self ..
    have gets : Gets schema next.1 := gets_of_next (Or.inl ⟨body, writing, rfl⟩) isNext
    obtain ⟨load', later, gets'⟩ := load_of_passes gets_of_next passes now gets
    rcases fruitless isStep later with foreign | ⟨failed, rfl⟩
    · exact foreign (tended.remote found trivial)
    · rcases gets' with ⟨body', writing', same⟩ | same
      · cases same
      · cases same

/-! ## Entries that were written -/

/-- The entry of a reference is a file in the folder at a place. -/
structure HasEntry (s : Sources) (d : Disk) (home : List String) (u : String) (body : Bytes) : Prop where
  leads : d.Leads s.cache.folder home
  fits : Disk.Fits s.cache.folder (Cache.entryName u)
  file : kindAt? d.root (home ++ [Cache.entryName u]) = some (.file body)

theorem HasEntry.read {d : Disk} {body : Bytes} (entry : HasEntry s d home u body)
    (proper : s.cache.folder.IsProper) : s.cache.read d u = some body :=
  Cache.read_of_file proper entry.leads entry.fits entry.file

/-- A load that begins while the cache has a schema ends with it at once. -/
theorem step_begun_of_read {w : World} {schema : Value} {body : Bytes} (remote : Reference.isRemote u = .ok true)
    (stored : s.cache.read w.disk u = some body) (schemaOf : Schema.read u (.bytes body) = .ok schema) :
    Load.step s u w .begun = (.ended (.ok schema), w) := by
  have cached : Load.ofCache? s u w.disk = some (.ok schema) := by
    unfold Load.ofCache?
    rw [stored]
    simp only [schemaOf]
  unfold Load.step
  rw [remote]
  simp only [cached]

/-- Only a load of the reference changes its entry, and it puts there what came for the reference. -/
theorem HasEntry.take {body : Bytes} {event : Event} (entry : HasEntry s σ.world.disk home u body)
    (tended : Tended s σ₀ events σ) (orderly : Orderly s σ₀ events) (passes : Passes s σ₀ events σ (event :: rest))
    (called : IsCalled events u) (remote : Reference.isRemote u = .ok true) :
    HasEntry s (σ.take s event).world.disk home u body ∨
      exists key load schema body', σ.loads key = some (u, load) ∧ load.Writes s u σ.world schema body' ∧
        IsFetched s σ₀ events u schema body' ∧ HasEntry s (σ.take s event).world.disk home u body' := by
  obtain ⟨leads, fits, file⟩ := entry
  cases event with
  | change w =>
    obtain ⟨still, same⟩ := orderly.alone passes
    exact Or.inl ⟨(still home).mpr leads, fits, (same _ (isInside_child passes leads _)).trans file⟩
  | act j action =>
    cases concerns_take s σ j action with
    | none loads world =>
      rw [world]
      exact Or.inl ⟨leads, fits, file⟩
    | begins i v called new loads world =>
      rw [world]
      exact Or.inl ⟨leads, fits, file⟩
    | steps i v load next found taken loads world =>
      obtain ⟨busy, course⟩ := (tended.tidy.busy leads).step orderly.proper found
        (by rintro schema body writing rfl; exact tended.tidy.came found) (fair_of_taken orderly passes found taken world)
      rw [world]
      cases course with
      | alike alike =>
        refine Or.inl ⟨busy.leads, fits, (alike.elsewhere fun n same => ?_).trans file⟩
        exact Cache.temporaryName_ne_entryName n u (by simpa using same.symm)
      | written schema body' middle writes ended fits' bare alike changed =>
        by_cases same : Cache.entryName u = Cache.entryName v
        · obtain ⟨temporary, d, rfl, -⟩ := id writes
          have equal : u = v := orderly.distinct called (tended.called found) remote (tended.remote found trivial)
            (Cache.key_of_entryName same)
          subst equal
          exact Or.inr ⟨(j, i), _, schema, body', found, writes, tended.tidy.came found, busy.leads, fits', changed.at⟩
        · refine Or.inl ⟨busy.leads, fits, ?_⟩
          rw [changed.elsewhere (by simpa using same), alike.elsewhere fun n equal => ?_]
          · exact file
          · exact Cache.temporaryName_ne_entryName n u (by simpa using equal.symm)

/-- After a load has put its body in the place of the entry, the entry is there. -/
theorem hasEntry_of_writes (orderly : Orderly s σ₀ events) (tended : Tended s σ₀ events σ) {j i : Nat} {load : Load}
    {schema : Value} {body : Bytes} (passes : Passes s σ₀ events σ (.act j (.advance i) :: rest))
    (found : σ.loads (j, i) = some (u, load)) (writes : load.Writes s u σ.world schema body) :
    IsFetched s σ₀ events u schema body ∧
      (σ.take s (.act j (.advance i))).loads = Function.update σ.loads (j, i) (some (u, .ended (.ok schema))) ∧
        exists home, HasEntry s (σ.take s (.act j (.advance i))).world.disk home u body := by
  have readable := orderly.readable passes found writes
  obtain ⟨temporary, d, rfl, result⟩ := writes
  have came : IsFetched s σ₀ events u schema body := tended.tidy.came found
  obtain ⟨loads, world⟩ := take_advance (s := s) found
  have same : Load.step s u σ.world (.storing schema body (.installing temporary)) =
      (.ended (.ok schema), { σ.world with disk := d }) := by
    simp only [Load.step_storing, Cache.writeStep, result, Load.ofWriting]
  rw [same] at loads world
  rw [world] at readable ⊢
  rcases tended.tidy.phase with idle | ⟨home, busy⟩
  · cases idle.unopened found
  · obtain ⟨busy', fits, -, middle, -, changed⟩ := busy.install orderly.proper found came result readable
    exact ⟨came, loads, home, busy'.leads, fits, changed.at⟩

/-- Once an entry is written it holds something that came for its reference. -/
theorem hasEntry_of_passes {count : Nat} {w : World} (orderly : Orderly s (start count w) events)
    (passes : Passes s (start count w) events σ rest) (called : IsCalled events u)
    (remote : Reference.isRemote u = .ok true) {schema : Value} {body : Bytes}
    (fetched : IsFetched s (start count w) events u schema body) (entry : HasEntry s σ.world.disk home u body)
    (later : Passes s σ rest σ' left) :
    exists schema body, IsFetched s (start count w) events u schema body ∧ HasEntry s σ'.world.disk home u body := by
  refine later.invariant (motive := fun σ => exists schema body, IsFetched s (start count w) events u schema body ∧
    HasEntry s σ.world.disk home u body) ⟨schema, body, fetched, entry⟩ ?_
  rintro σ event rest onwards ⟨schema, body, fetched, entry⟩
  have here := passes.trans onwards
  rcases entry.take (tended_of_passes orderly here) orderly here called remote with
    still | ⟨key, load, schema', body', -, -, fetched', entry'⟩
  · exact ⟨schema, body, fetched, still⟩
  · exact ⟨schema', body', fetched', entry'⟩

theorem IsFetched.read {schema : Value} {body : Bytes} (fetched : IsFetched s σ₀ events u schema body) :
    Schema.read u (.bytes body) = .ok schema := by
  obtain ⟨σ, j, i, rest, reply, -, -, -, -, -, read⟩ := fetched
  exact read

/-! ## When a reference is written by one load alone -/

/-- The loads of a reference are those that had ended at a time, and others that have not gone out and end with one
schema. -/
def Follows (σ : Session) (u : String) (schema : Value) (σ' : Session) : Prop :=
  forall key load, σ'.loads key = some (u, load) -> load = .begun ∨ load = .ended (.ok schema) ∨
    exists outcome, load = .ended outcome ∧ σ.loads key = some (u, .ended outcome)

/-- Nobody asks for a reference again whose entry was written while no other load of it was under way. -/
theorem follows_of_passes {count : Nat} {w : World} (orderly : Orderly s (start count w) events)
    (passes : Passes s (start count w) events σ rest) (called : IsCalled events u)
    (remote : Reference.isRemote u = .ok true) {schema : Value} {body : Bytes}
    (fetched : IsFetched s (start count w) events u schema body) (entry : HasEntry s σ.world.disk home u body)
    (follows : Follows σ₀ u schema σ) (later : Passes s σ rest σ' left) :
    HasEntry s σ'.world.disk home u body ∧ Follows σ₀ u schema σ' := by
  refine later.invariant (motive := fun σ => HasEntry s σ.world.disk home u body ∧ Follows σ₀ u schema σ)
    ⟨entry, follows⟩ ?_
  rintro σ event rest onwards ⟨entry, follows⟩
  have here := passes.trans onwards
  have entry' : HasEntry s (σ.take s event).world.disk home u body := by
    rcases entry.take (tended_of_passes orderly here) orderly here called remote with
      still | ⟨key, load, schema', body', found, ⟨temporary, d, rfl, -⟩, -⟩
    · exact still
    · rcases follows key _ found with same | same | ⟨outcome, same, -⟩ <;> cases same
  refine ⟨entry', ?_⟩
  cases event with
  | change w => exact follows
  | act j action =>
    intro key load found
    refine (concerns_take s σ j action).all_loads (P := fun key v load => v = u -> load = .begun ∨
      load = .ended (.ok schema) ∨ exists outcome, load = .ended outcome ∧ σ₀.loads key = some (u, .ended outcome))
      ?before ?begun ?stepped key u load found rfl
    case before =>
      rintro key v load there rfl
      exact follows key load there
    case begun => exact fun _ _ _ _ => Or.inl rfl
    case stepped =>
      rintro i v load' next there taken - rfl
      rcases follows _ _ there with rfl | rfl | ⟨outcome, rfl, already⟩
      · have began := step_begun_of_read (s := s) (w := σ.world) remote (entry.read orderly.proper) fetched.read
        rcases taken with ⟨-, rfl⟩ | ⟨-, rfl⟩
        · rw [began]
          exact Or.inr (Or.inl rfl)
        · exact Or.inl rfl
      · rw [Load.next_of_ended (taken.imp And.right And.right)]
        exact Or.inr (Or.inl rfl)
      · rw [Load.next_of_ended (taken.imp And.right And.right)]
        exact Or.inr (Or.inr ⟨outcome, rfl, already⟩)

/-- A call is answered with the outcome of a load. -/
theorem exists_load_of_answer (sound : σ.IsSound) {j : Nat} {r : Resolver} {c : Resolver.Call}
    {outcome : Except Failed Value} (found : σ.resolvers[j]? = some r) (member : c ∈ r.calls)
    (answered : c.answer = some outcome) : exists i, σ.loads (j, i) = some (c.reference, .ended outcome) := by
  obtain ⟨i, f, there, reference, ended⟩ := (sound j r found).exists_of_answer member answered
  refine ⟨i, ?_⟩
  rw [loads_of_found found, Resolver.loadAt, there, Option.map_some, reference, Resolver.Flight.outcome?_eq_some_iff.mp ended]

/-! ## The cache is kept -/

/-- What the loads of a run do to the folder of the cache, and what the folder does for them. -/
structure CacheKept (s : Sources) (σ₀ : Session) (events : List Event) : Prop where
  /-- While nothing is being stored, what is not as it was is an entry with what came for its reference. -/
  entries : forall {σ left home below}, Passes s σ₀ events σ left ->
    (forall {key u schema body writing}, σ.loads key ≠ some (u, .storing schema body writing)) ->
    σ.world.disk.Leads s.cache.folder home -> below ≠ [] ->
    kindAt? σ.world.disk.root (home ++ below) = kindAt? σ₀.world.disk.root (home ++ below) ∨
      (kindAt? σ₀.world.disk.root (home ++ below) = none ∧
        kindAt? σ.world.disk.root (home ++ below) = some .folder) ∨
      exists u schema body, below = [Cache.entryName u] ∧ Reference.isRemote u = .ok true ∧
        IsFetched s σ₀ events u schema body ∧ kindAt? σ.world.disk.root (home ++ below) = some (.file body)
  /-- Only steps of loads change the disk, and none of a load of a local reference or of one that ends in a failure. -/
  still : forall {σ j action rest σ' left}, Passes s σ₀ events σ (.act j action :: rest) ->
    Passes s (σ.take s (.act j action)) rest σ' left ->
    (forall {i u load}, action = .advance i ∨ action = .refuse i -> σ'.loads (j, i) = some (u, load) ->
      Reference.isRemote u ≠ .ok true ∨ exists failed, load = .ended (.error failed)) ->
    (σ.take s (.act j action)).world.disk = σ.world.disk
  /-- Once an entry was written, a load of its reference ends with the schema in the cache before it asks anybody. -/
  stored : forall {σ j i rest u load schema body σ' left}, Passes s σ₀ events σ (.act j (.advance i) :: rest) ->
    σ.loads (j, i) = some (u, load) -> load.Writes s u σ.world schema body ->
    Passes s (σ.take s (.act j (.advance i))) rest σ' left ->
    exists schema body, IsFetched s σ₀ events u schema body ∧ s.cache.read σ'.world.disk u = some body ∧
      Schema.read u (.bytes body) = .ok schema ∧ Load.step s u σ'.world .begun = (.ended (.ok schema), σ'.world)
  /-- If no other load of the reference was under way when its entry was written, then the entry stays, nobody asks for
  the reference again, and whatever is answered for it later is the schema that was written. -/
  lasting : forall {σ j i rest u load schema body σ' left}, Passes s σ₀ events σ (.act j (.advance i) :: rest) ->
    σ.loads (j, i) = some (u, load) -> load.Writes s u σ.world schema body ->
    (forall {key load}, key ≠ (j, i) -> σ.loads key = some (u, load) -> ¬ load.GoneOut) ->
    Passes s (σ.take s (.act j (.advance i))) rest σ' left ->
    s.cache.read σ'.world.disk u = some body ∧ Follows σ u schema σ' ∧
      forall {j r c outcome}, σ'.resolvers[j]? = some r -> c ∈ r.calls -> c.reference = u -> c.answer = some outcome ->
        outcome = .ok schema ∨ exists i, σ.loads (j, i) = some (u, .ended outcome)

/-- In every orderly run of any number of resolvers the cache is kept, whatever the network answers. -/
theorem cacheKept_of_orderly (count : Nat) (w : World) (orderly : Orderly s (start count w) events) :
    CacheKept s (start count w) events where
  entries := by
    intro σ left home below passes quiet leads nonempty
    have tended := tended_of_passes orderly passes
    rcases tended.entries passes (fun found schema body writing same => absurd (same ▸ found) quiet) leads nonempty with
      same | made | ⟨u, schema, body, here, fetched, file⟩
    · exact Or.inl same
    · exact Or.inr (Or.inl made)
    · exact Or.inr (Or.inr ⟨u, schema, body, here, fetched.remote orderly, fetched, file⟩)
  still := by
    intro σ j action rest σ' left passes later fruitless
    exact (tended_of_passes orderly passes).still later fruitless
  stored := by
    intro σ j i rest u load schema body σ' left passes found writes later
    have tended := tended_of_passes orderly passes
    obtain ⟨fetched, -, home, entry⟩ := hasEntry_of_writes orderly tended passes found writes
    have remote := fetched.remote orderly
    obtain ⟨schema', body', fetched', entry'⟩ :=
      hasEntry_of_passes orderly passes.next (tended.called found) remote fetched entry later
    have stored := entry'.read orderly.proper
    exact ⟨schema', body', fetched', stored, fetched'.read, step_begun_of_read remote stored fetched'.read⟩
  lasting := by
    intro σ j i rest u load schema body σ' left passes found writes alone later
    have tended := tended_of_passes orderly passes
    obtain ⟨fetched, loads, home, entry⟩ := hasEntry_of_writes orderly tended passes found writes
    have follows : Follows σ u schema (σ.take s (.act j (.advance i))) := by
      intro key load' found'
      rw [loads] at found'
      rcases Cache.update_cases found' with ⟨-, same⟩ | ⟨other, found'⟩
      · cases same
        exact Or.inr (Or.inl rfl)
      · have inside := alone other found'
        cases load' with
        | begun => exact Or.inl rfl
        | asking => exact absurd trivial inside
        | storing schema body writing => exact absurd trivial inside
        | ended outcome => exact Or.inr (Or.inr ⟨outcome, rfl, found'⟩)
    obtain ⟨entry', follows'⟩ := follows_of_passes orderly passes.next (tended.called found) (fetched.remote orderly)
      fetched entry follows later
    refine ⟨entry'.read orderly.proper, follows', ?_⟩
    intro j r c outcome there member reference answered
    have sound : σ'.IsSound :=
      (passes.next.trans later).invariant (isSound_start count w) fun _ sound => sound.take s _
    obtain ⟨k, ended⟩ := exists_load_of_answer sound there member answered
    rw [reference] at ended
    rcases follows' (j, k) _ ended with same | same | ⟨outcome', same, already⟩
    · cases same
    · cases same
      exact Or.inl rfl
    · cases same
      exact Or.inr ⟨k, already⟩

/-! ## Two loads, and a network that changes -/

/-- A cache in a folder at the root. -/
def atRoot : Sources where
  homes := ⟨"/", []⟩
  cache := ⟨.ofString "/c"⟩

/-- A disk without anything on it, and a network that has one schema. -/
def emptyWorld : World where
  disk := ⟨[], ⟨.root, []⟩⟩
  network := ⟨[("http://a/", [.reply ⟨200, [], [123, 125]⟩])], []⟩

/-- One load from its beginning to its end. -/
def oneLoad : List Event :=
  .act 0 (.call "http://a/") :: List.replicate 6 (.act 0 (.advance 0))

/-- The disk that the load leaves, and a network that does not have the schema any more. -/
def laterWorld : World where
  disk := ((start 2 emptyWorld).after atRoot oneLoad).world.disk
  network := ⟨[("http://a/", [.reply ⟨404, [], []⟩])], []⟩

/-- Once one resolver has loaded the schema and the network has lost it, another resolver loads it. -/
def twoLoads : List Event :=
  oneLoad ++ [.change laterWorld, .act 1 (.call "http://a/"), .act 1 (.advance 0), .act 1 (.callback 0),
    .act 1 (.callback 0)]

/-- Whether an event comes from outside. -/
def isChange : Event -> Bool
  | .change _ => true
  | .act _ _ => false

theorem change_twoLoads :
    ((List.range twoLoads.length).all fun n => !(twoLoads.drop n).head?.any isChange || n = 7) = true := by
  decide

/-- Wherever a new file takes the place of an entry in the run, the entry can be read. -/
theorem readable_twoLoads : ((List.range twoLoads.length).all fun n =>
    let σ := (start 2 emptyWorld).after atRoot (twoLoads.take n)
    [0, 1].all fun j =>
      match σ.loads (j, 0) with
      | some (u, .storing _ _ (.installing _)) =>
        (atRoot.cache.read (σ.take atRoot (.act j (.advance 0))).world.disk u).isSome
      | _ => true) = true := by
  decide +kernel

theorem orderly_twoLoads : Orderly atRoot (start 2 emptyWorld) twoLoads where
  proper := Path.isProper_ofString "/c"
  distinct := by
    have only : forall {u}, IsCalled twoLoads u -> u = "http://a/" := by
      rintro u ⟨j, member⟩
      have one : j = 0 ∧ u = "http://a/" ∨ j = 1 ∧ u = "http://a/" := by simpa [twoLoads, oneLoad] using member
      exact (or_and_right.mpr one).2
    intro u v calledLeft calledRight _ _ _
    rw [only calledLeft, only calledRight]
  alone := by
    intro σ' w rest passes
    obtain ⟨n, inside, left, rfl⟩ := passes.exists_take_lt
    obtain rfl : n = 7 := by
      have here := List.all_eq_true.mp change_twoLoads n (List.mem_range.mpr inside)
      rw [← left] at here
      simpa [isChange] using here
    obtain rfl : w = laterWorld := Event.change.inj (List.cons.inj left).1
    have before : twoLoads.take 7 = oneLoad := rfl
    have same : laterWorld.disk = ((start 2 emptyWorld).after atRoot (twoLoads.take 7)).world.disk := by
      rw [before, laterWorld]
    rw [same]
    exact ⟨fun place => Iff.rfl, fun place _ => rfl⟩
  readable := by
    intro σ' j i rest u load schema body passes found writes
    have member : j = 0 ∧ i = 0 ∨ j = 1 ∧ i = 0 := by simpa [twoLoads, oneLoad] using passes.mem
    obtain ⟨among, rfl⟩ : (j = 0 ∨ j = 1) ∧ i = 0 := or_and_right.mpr member
    obtain ⟨n, inside, -, rfl⟩ := passes.exists_take_lt
    obtain ⟨temporary, d, rfl, -⟩ := writes
    have checked := List.all_eq_true.mp (List.all_eq_true.mp readable_twoLoads n (List.mem_range.mpr inside)) j
      (by simpa using among)
    simpa only [found] using checked

/-- The first load makes the folder and leaves an entry with the schema, and the other resolver answers with it and asks
nobody. -/
theorem cacheKept_twoLoads : CacheKept atRoot (start 2 emptyWorld) twoLoads ∧
    let σ := (start 2 emptyWorld).after atRoot twoLoads
    atRoot.cache.read σ.world.disk "http://a/" = some [123, 125] ∧ σ.world.network.sent = [] ∧
      (σ.resolvers.map fun r => r.calls.map fun c => (c.reference, (c.answer.bind Except.toOption).isSome)) =
        [[("http://a/", false)], [("http://a/", true)]] :=
  ⟨cacheKept_of_orderly 2 emptyWorld orderly_twoLoads, by decide +kernel⟩

end Session

end SchemaLint
