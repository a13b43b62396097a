import SchemaLint.Proofs.Cache.Filled
import SchemaLint.Proofs.Http.Steady
import SchemaLint.Proofs.Resolver.InTurn

/-!
# Loads that do not get in each other's way

Loads share a cache and a network.  If the network is steady, if references have entries of their own in the cache, and
if no local schema lies in it, then every load comes to what it would have come to alone in the world as it was at first.
What a load finds in the cache then is what was there at first, or what it would have fetched itself.
-/

namespace SchemaLint

open Json (Value)
open Disk (kindAt?)

namespace Load

/-- What the load of a reference comes to if nothing else happens in a world. -/
def expected (s : Sources) (u : String) (w : World) : Except Failed Value :=
  match Reference.isRemote u with
  | .error c => .error (.crash c)
  | .ok false => ofFile s u w.disk
  | .ok true =>
    match ofCache? s u w.disk with
    | some outcome => outcome
    | none => (fetch u w.network).1.map Prod.fst

end Load

namespace Session

/-! ## References apart from each other -/

/-- Some references and a world in which their loads cannot get in each other's way. -/
structure Apart (s : Sources) (w : World) (wanted : String -> Prop) : Prop where
  proper : s.cache.folder.IsProper
  steady : w.network.IsSteady
  distinct : forall {u v}, wanted u -> wanted v -> Reference.isRemote u = .ok true -> Reference.isRemote v = .ok true ->
    Cache.key u = Cache.key v -> u = v
  /-- Wherever the folder of the cache comes to be, no entry is a link, and there is none if the folder was elsewhere. -/
  entries : forall {u d home}, wanted u -> Reference.isRemote u = .ok true -> Cache.Filled s.cache w.disk d ->
    d.Leads s.cache.folder home ->
      (forall target, kindAt? w.disk.root (home ++ [Cache.entryName u]) ≠ some (.link target)) ∧
        (w.disk.Leads s.cache.folder home ∨ kindAt? w.disk.root (home ++ [Cache.entryName u]) = none)
  /-- No local schema lies in the cache. -/
  files : forall {u d}, wanted u -> Reference.isRemote u = .ok false -> Cache.Filled s.cache w.disk d ->
    Load.ofFile s u d = Load.ofFile s u w.disk

/-- What is fetched for a reference if the cache does not have it at first. -/
def IsDue (s : Sources) (w : World) (wanted : String -> Prop) (u : String) (schema : Value) (body : Bytes) : Prop :=
  wanted u ∧ Reference.isRemote u = .ok true ∧ Load.ofCache? s u w.disk = none ∧
    (Load.fetch u w.network).1 = .ok (schema, body)

/-- Loads that were begun in a world have not got in each other's way. -/
structure Isolated (s : Sources) (w : World) (wanted : String -> Prop) (σ : Session) : Prop where
  tidy : Cache.Tidy s.cache w.disk (fun _ => True) (IsDue s w wanted) σ.loads σ.world.disk
  filled : Cache.Filled s.cache w.disk σ.world.disk
  gives : σ.world.network.Gives w.network.answerOf
  called : forall {key u load}, σ.loads key = some (u, load) -> wanted u
  asking : forall {key u}, σ.loads key = some (u, .asking) ->
    Reference.isRemote u = .ok true ∧ Load.ofCache? s u w.disk = none
  ended : forall {key u outcome}, σ.loads key = some (u, .ended outcome) -> outcome = Load.expected s u w

variable {s : Sources} {w : World} {wanted : String -> Prop} {σ : Session} {u : String}

theorem IsDue.expected {schema : Value} {body : Bytes} (due : IsDue s w wanted u schema body) :
    Load.expected s u w = .ok schema := by
  obtain ⟨-, remote, uncached, fetched⟩ := due
  unfold Load.expected
  rw [remote]
  simp only [uncached, fetched]
  rfl

theorem IsDue.read {schema : Value} {body : Bytes} (due : IsDue s w wanted u schema body) :
    Schema.read u (.bytes body) = .ok schema := by
  obtain ⟨-, -, -, fetched⟩ := due
  obtain ⟨reply, -, -, -, read⟩ := Load.fetch_eq_ok fetched
  exact read

/-- An entry that was not there at first could not be read then. -/
theorem Isolated.unread (isolated : Isolated s w wanted σ) (proper : s.cache.folder.IsProper) {home : List String}
    (leads : σ.world.disk.Leads s.cache.folder home)
    (absent : kindAt? w.disk.root (home ++ [Cache.entryName u]) = none) : s.cache.read w.disk u = none := by
  cases old : s.cache.read w.disk u with
  | none => rfl
  | some body =>
    obtain ⟨home', leads'⟩ := Cache.exists_leads_of_read proper old
    have equal : home' = home := (isolated.filled.leads leads').unique leads
    subst equal
    obtain ⟨-, file⟩ := Cache.file_of_read proper leads' (by simp [absent]) old
    rw [absent] at file
    cases file

/-- What a load finds in the cache is what was there at first, or what the reference was due. -/
theorem Isolated.cached (isolated : Isolated s w wanted σ) (apart : Apart s w wanted) (isWanted : wanted u)
    (remote : Reference.isRemote u = .ok true) :
    Load.ofCache? s u σ.world.disk = Load.ofCache? s u w.disk ∨
      (Load.ofCache? s u w.disk = none ∧ exists schema body, IsDue s w wanted u schema body ∧
        Load.ofCache? s u σ.world.disk = some (.ok schema)) := by
  have sameRead : s.cache.read σ.world.disk u = s.cache.read w.disk u ->
      Load.ofCache? s u σ.world.disk = Load.ofCache? s u w.disk := by
    intro same
    unfold Load.ofCache?
    rw [same]
  by_cases there : exists home, σ.world.disk.Leads s.cache.folder home
  · obtain ⟨home, leads⟩ := there
    obtain ⟨noLink, atFirst⟩ := apart.entries isWanted remote isolated.filled leads
    have busy := isolated.tidy.busy leads
    cases busy.places (home ++ [Cache.entryName u]) trivial with
    | same same =>
      left
      rcases atFirst with leads' | absent
      · exact sameRead (Cache.read_eq_of_same apart.proper leads' leads noLink same)
      · rw [absent] at same
        have now := Cache.read_eq_none_of_bare (u := u) apart.proper leads (by simp [same]) (by simp [same])
        exact sameRead (now.trans (isolated.unread apart.proper leads absent).symm)
    | made absent made =>
      left
      have now := Cache.read_eq_none_of_bare (u := u) apart.proper leads (by simp [made]) (by simp [made])
      exact sameRead (now.trans (isolated.unread apart.proper leads absent).symm)
    | entry v schema body here due file =>
      have names : Cache.entryName u = Cache.entryName v := by simpa using here
      obtain ⟨wantedToo, remoteToo, -, -⟩ := id due
      have same : u = v := apart.distinct isWanted wantedToo remote remoteToo (Cache.key_of_entryName names)
      subst same
      cases now : s.cache.read σ.world.disk u with
      | none =>
        left
        have uncached := due.2.2.1
        rw [uncached]
        unfold Load.ofCache?
        rw [now]
      | some body' =>
        obtain ⟨-, file'⟩ := Cache.file_of_read apart.proper leads (by simp [file]) now
        rw [file] at file'
        cases file'
        refine Or.inr ⟨due.2.2.1, schema, body, due, ?_⟩
        unfold Load.ofCache?
        rw [now]
        simp only [due.read]
    | new key v load name contents found holds here =>
      obtain ⟨⟨n, isNew⟩, -⟩ := busy.file found holds
      have names : Cache.entryName u = name := by simpa using here
      exact absurd (isNew.symm.trans names.symm) (Cache.temporaryName_ne_entryName n u)
  · left
    have now : s.cache.read σ.world.disk u = none :=
      Cache.read_eq_none_of_nowhere apart.proper fun home leads => there ⟨home, leads⟩
    have old : s.cache.read w.disk u = none :=
      Cache.read_eq_none_of_nowhere apart.proper fun home leads => there ⟨home, isolated.filled.leads leads⟩
    exact sameRead (now.trans old.symm)

/-! ## Every load comes to what is expected -/

theorem isolated_start (apart : Apart s w wanted) (count : Nat) : Isolated s w wanted (start count w) where
  tidy := .refl (loads_start count w)
  filled := Cache.Filled.refl s.cache w.disk
  gives := ⟨apart.steady, fun _ => rfl⟩
  called := by
    intro key u load found
    rw [loads_start] at found
    cases found
  asking := by
    intro key u found
    rw [loads_start] at found
    cases found
  ended := by
    intro key u outcome found
    rw [loads_start] at found
    cases found

/-- A load that begins finds out whether to ask, or comes to what is expected. -/
theorem Isolated.begin (isolated : Isolated s w wanted σ) (apart : Apart s w wanted) (isWanted : wanted u) :
    (Load.step s u σ.world .begun = (.ended (Load.expected s u w), σ.world)) ∨
      (Reference.isRemote u = .ok true ∧ Load.ofCache? s u w.disk = none ∧
        Load.step s u σ.world .begun = (.asking, σ.world)) := by
  unfold Load.step Load.expected
  cases remote : Reference.isRemote u with
  | error c => exact Or.inl rfl
  | ok isRemote =>
    cases isRemote with
    | false =>
      left
      simp only [apart.files isWanted remote isolated.filled]
    | true =>
      rcases isolated.cached apart isWanted remote with same | ⟨uncached, schema, body, due, cached⟩
      · rw [same]
        cases old : Load.ofCache? s u w.disk with
        | some outcome => exact Or.inl rfl
        | none => exact Or.inr ⟨rfl, rfl, rfl⟩
      · left
        simp only [cached, uncached, due.2.2.2]
        rfl

/-- A load asks only for what the cache does not have at first, and it ends with what is expected. -/
structure InAccord (s : Sources) (w : World) (u : String) (load : Load) : Prop where
  asking : load = .asking -> Reference.isRemote u = .ok true ∧ Load.ofCache? s u w.disk = none
  ended : forall {outcome}, load = .ended outcome -> outcome = Load.expected s u w

theorem Isolated.inAccord (isolated : Isolated s w wanted σ) {key : Nat × Nat} {load : Load}
    (found : σ.loads key = some (u, load)) : InAccord s w u load where
  asking := by
    rintro rfl
    exact isolated.asking found
  ended := by
    rintro outcome rfl
    exact isolated.ended found

/-- What a load comes to in a step does not get in the way of other loads. -/
structure Harmless (s : Sources) (w : World) (wanted : String -> Prop) (σ : Session) (u : String) (load : Load)
    (next : Load × World) : Prop where
  gives : next.2.network.Gives w.network.answerOf
  fair : (next = load.step s u σ.world ∧ Cache.Fair s (IsDue s w wanted) u σ.world load next) ∨ next = load.refuse σ.world
  accord : InAccord s w u next.1

theorem Isolated.step_begun (isolated : Isolated s w wanted σ) (apart : Apart s w wanted) (isWanted : wanted u) :
    Harmless s w wanted σ u .begun (Load.step s u σ.world .begun) := by
  have fair : Cache.Fair s (IsDue s w wanted) u σ.world .begun (Load.step s u σ.world .begun) :=
    ⟨nofun, by rintro schema body ⟨temporary, d, same, -⟩; cases same⟩
  rcases isolated.begin apart isWanted with same | ⟨remote, uncached, same⟩
  · refine ⟨?_, Or.inl ⟨rfl, fair⟩, ?_⟩
    · rw [same]
      exact isolated.gives
    · rw [same]
      exact ⟨nofun, fun equal => (Load.ended.inj equal).symm⟩
  · refine ⟨?_, Or.inl ⟨rfl, fair⟩, ?_⟩
    · rw [same]
      exact isolated.gives
    · rw [same]
      exact ⟨fun _ => ⟨remote, uncached⟩, nofun⟩

/-- What a load that asks is given is what its reference was due. -/
theorem Isolated.step_asking (isolated : Isolated s w wanted σ) (apart : Apart s w wanted) {key : Nat × Nat}
    (found : σ.loads key = some (u, .asking)) : Harmless s w wanted σ u .asking (Load.step s u σ.world .asking) := by
  obtain ⟨remote, uncached⟩ := isolated.asking found
  have first : w.network.Gives w.network.answerOf := ⟨apart.steady, fun _ => rfl⟩
  obtain ⟨sameFetch, gives⟩ := Load.fetch_of_gives u isolated.gives first
  have fair : Cache.Fair s (IsDue s w wanted) u σ.world .asking (Load.step s u σ.world .asking) := by
    refine ⟨?_, by rintro schema body ⟨temporary, d, same, -⟩; cases same⟩
    intro schema body _ came
    exact ⟨isolated.called found, remote, uncached, sameFetch.symm.trans came⟩
  rcases Load.step_asking s u σ.world with ⟨failed, came, same⟩ | ⟨schema, body, came, same⟩
  · rw [same] at fair ⊢
    refine ⟨gives, Or.inl ⟨same.symm, fair⟩, nofun, ?_⟩
    intro outcome equal
    cases equal
    unfold Load.expected
    rw [remote]
    simp only [uncached, ← sameFetch, came]
    rfl
  · rw [same] at fair ⊢
    exact ⟨gives, Or.inl ⟨same.symm, fair⟩, nofun, nofun⟩

/-- A load that stores what its reference was due ends with it, if not at once. -/
theorem Isolated.step_storing (isolated : Isolated s w wanted σ) (apart : Apart s w wanted) {key : Nat × Nat}
    {schema : Value} {body : Bytes} {writing : Cache.Writing} {next : Load × World}
    (found : σ.loads key = some (u, .storing schema body writing))
    (taken : Load.Next s u σ.world (.storing schema body writing) next) :
    Harmless s w wanted σ u (.storing schema body writing) next := by
  have due : IsDue s w wanted u schema body := isolated.tidy.came found
  obtain ⟨-, remote, -⟩ := id due
  have accord : InAccord s w u next.1 := by
    rcases Load.next_of_storing taken with ⟨writing', same⟩ | same
    · rw [same]
      exact ⟨nofun, nofun⟩
    · rw [same]
      exact ⟨nofun, fun equal => (Load.ended.inj equal).symm.trans due.expected.symm⟩
  rcases taken with rfl | rfl
  · refine ⟨isolated.gives, Or.inl ⟨rfl, nofun, ?_⟩, accord⟩
    intro schema' body' writes
    obtain ⟨temporary, d, same, -⟩ := id writes
    cases same
    rcases isolated.tidy.phase with idle | ⟨home, busy⟩
    · cases idle.unopened found
    · exact busy.readable apart.proper found (apart.entries (isolated.called found) remote isolated.filled busy.leads).1
        writes
  · exact ⟨isolated.gives, Or.inr rfl, accord⟩

/-- A step of a load keeps the loads out of each other's way. -/
theorem Isolated.step (isolated : Isolated s w wanted σ) (apart : Apart s w wanted) {key : Nat × Nat} {load : Load}
    {next : Load × World} (found : σ.loads key = some (u, load)) (taken : Load.Next s u σ.world load next) :
    Harmless s w wanted σ u load next := by
  cases load with
  | begun =>
    rcases taken with rfl | rfl
    · exact isolated.step_begun apart (isolated.called found)
    · exact ⟨isolated.gives, Or.inr rfl, nofun, nofun⟩
  | asking =>
    rcases taken with rfl | rfl
    · exact isolated.step_asking apart found
    · exact ⟨isolated.gives, Or.inr rfl, isolated.inAccord found⟩
  | storing schema body writing => exact isolated.step_storing apart found taken
  | ended outcome =>
    have same : next = (.ended outcome, σ.world) := Load.next_of_ended taken
    subst same
    exact ⟨isolated.gives, Or.inr rfl, isolated.inAccord found⟩

/-- Whatever a resolver does, the loads stay out of each other's way. -/
theorem Isolated.act (isolated : Isolated s w wanted σ) (apart : Apart s w wanted) (j : Nat)
    (action : Resolver.Action) (calls : forall u, action = .call u -> wanted u) :
    Isolated s w wanted (σ.take s (.act j action)) := by
  have concerns := concerns_take s σ j action
  have loads : forall key u load, (σ.take s (.act j action)).loads key = some (u, load) ->
      wanted u ∧ InAccord s w u load := by
    refine concerns.all_loads (fun key u load found => ⟨isolated.called found, isolated.inAccord found⟩) ?begun ?stepped
    case begun => exact fun _ u called => ⟨calls u called, nofun, nofun⟩
    case stepped =>
      intro i u load next found taken _
      exact ⟨isolated.called found, (isolated.step apart found (taken.imp And.right And.right)).accord⟩
  refine ⟨?tidy, ?filled, ?gives, fun found => (loads _ _ _ found).1, fun found => (loads _ _ _ found).2.asking rfl,
    fun found => (loads _ _ _ found).2.ended rfl⟩
  case tidy =>
    cases concerns with
    | none loads world =>
      rw [loads, world]
      exact isolated.tidy
    | begins i u called new loads world =>
      rw [loads, world]
      exact isolated.tidy.begin new
    | steps i u load next found taken loads world =>
      rw [loads, world]
      exact isolated.tidy.step apart.proper found (isolated.step apart found (taken.imp And.right And.right)).fair
  case filled =>
    cases concerns with
    | none loads world => exact world ▸ isolated.filled
    | begins i u called new loads world => exact world ▸ isolated.filled
    | steps i u load next found taken loads world =>
      have fair := (isolated.step apart found (taken.imp And.right And.right)).fair
      rw [world]
      refine isolated.filled.step apart.proper isolated.tidy found fair ?_
      rintro schema body writing home rfl leads
      have due : IsDue s w wanted u schema body := isolated.tidy.came found
      exact (apart.entries (isolated.called found) due.2.1 isolated.filled leads).1
  case gives =>
    cases concerns with
    | none loads world => exact world ▸ isolated.gives
    | begins i u called new loads world => exact world ▸ isolated.gives
    | steps i u load next found taken loads world =>
      rw [world]
      exact (isolated.step apart found (taken.imp And.right And.right)).gives

/-! ## Resolving references together -/

/-- What a resolver does alone is part of a session. -/
theorem Isolated.run (apart : Apart s w wanted) {r : Resolver} {now : World} (actions : List Resolver.Action)
    (isolated : Isolated s w wanted ⟨[r], now⟩) (calls : forall u, .call u ∈ actions -> wanted u) :
    Isolated s w wanted ⟨[(r.run s now actions).1], (r.run s now actions).2⟩ := by
  induction actions generalizing r now with
  | nil => exact isolated
  | cons action rest ih =>
    have first : Isolated s w wanted ⟨[(r.act s now action).1], (r.act s now action).2⟩ := by
      refine isolated.act apart 0 action ?_
      rintro u rfl
      exact calls u (List.mem_cons_self ..)
    exact ih first fun u later => calls u (List.mem_cons_of_mem _ later)

/-- What is answered in a session is what is expected. -/
theorem Isolated.answer (isolated : Isolated s w wanted σ) {j : Nat} {r : Resolver} {c : Resolver.Call}
    {outcome : Except Failed Value} (sound : r.Sound) (found : σ.resolvers[j]? = some r) (member : c ∈ r.calls)
    (answered : c.answer = some outcome) : outcome = Load.expected s c.reference w := by
  obtain ⟨i, f, there, reference, ended⟩ := sound.exists_of_answer member answered
  rw [← reference]
  have finished : σ.loads (j, i) = some (f.reference, .ended outcome) := by
    rw [loads_of_found found, Resolver.loadAt, there, Option.map_some, Resolver.Flight.outcome?_eq_some_iff.mp ended]
  exact isolated.ended finished

/-- References that are resolved together each come to what they would come to alone. -/
theorem resolveAll_of_apart (apart : Apart s w wanted) (references : List String)
    (calls : forall u, u ∈ references -> wanted u) :
    (Resolver.fresh.resolveAll s w references).1 = references.map (fun u => Load.expected s u w) ∧
      Cache.Filled s.cache w.disk (Resolver.fresh.resolveAll s w references).2.2.disk := by
  have called : (references.foldl Resolver.call .fresh).calls.map Resolver.Call.reference = references :=
    Resolver.callReferences_calls references
  have first : Isolated s w wanted ⟨[references.foldl Resolver.call .fresh], w⟩ := by
    have ran := (isolated_start apart 1).run apart (r := .fresh) (references.map .call) (by simpa using calls)
    rw [Resolver.run_calls] at ran
    exact ran
  have sound : (references.foldl Resolver.call .fresh).Sound := by
    obtain ⟨history, -, same⟩ := Resolver.exists_after_eq_run (r := .fresh) s w (references.map .call)
    have kept := Resolver.Sound.fresh.after s history
    rw [same, Resolver.run_calls] at kept
    exact kept
  rw [Resolver.outcomes_resolveAll, Resolver.world_resolveAll]
  generalize references.foldl Resolver.call .fresh = r at called first sound
  obtain ⟨done, sameCalls⟩ := Resolver.isDone_inTurn s r w
  have last : Isolated s w wanted ⟨[(r.run s w r.inTurn).1], (r.run s w r.inTurn).2⟩ := by
    exact first.run apart r.inTurn fun u member => absurd rfl (Resolver.noCall_of_turn (r.turns_inTurn _ member) u)
  obtain ⟨history, -, same⟩ := Resolver.exists_after_eq_run (r := r) s w r.inTurn
  have lastSound := sound.after s history
  rw [same] at lastSound
  refine ⟨?_, last.filled⟩
  change List.map _ (List.drop 0 _) = _
  rw [List.drop_zero, ← called, ← sameCalls, List.map_map]
  refine List.map_congr_left fun c member => ?_
  obtain ⟨outcome, answered⟩ := lastSound.answered done member
  rw [answered]
  exact last.answer (j := 0) lastSound rfl member answered

/-- A reference that is resolved alone comes to what is expected. -/
theorem resolve_of_apart (apart : Apart s w wanted) (isWanted : wanted u) :
    (Resolver.fresh.resolve s w u).1 = Load.expected s u w ∧
      Cache.Filled s.cache w.disk (Resolver.fresh.resolve s w u).2.2.disk := by
  obtain ⟨outcomes, filled⟩ := resolveAll_of_apart apart [u] (by simpa using isWanted)
  rw [Resolver.resolve_eq_resolveAll]
  refine ⟨?_, filled⟩
  rw [outcomes]
  rfl

end Session

end SchemaLint
