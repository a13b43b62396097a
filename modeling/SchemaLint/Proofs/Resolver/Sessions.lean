import Mathlib.Logic.Function.Basic
import SchemaLint.Proofs.Resolver.Actions
import SchemaLint.Resolver.Session

/-!
# The loads of a session

Of everything that happens in a session only few things concern its loads: one begins, one takes a step, or one is
refused a step by the disk.  A load that stores its schema has it, and ends with it whatever becomes of the storing.
-/

namespace SchemaLint

open Json (Value)

namespace Load

/-- What a load and the world can be after a step of the load, be it taken or refused. -/
def Next (s : Sources) (u : String) (w : World) (load : Load) (next : Load × World) : Prop :=
  next = load.step s u w ∨ next = load.refuse w

theorem next_of_ended {s : Sources} {u : String} {w : World} {outcome : Except Failed Value} {next : Load × World}
    (taken : Next s u w (.ended outcome) next) : next = (.ended outcome, w) := by
  rcases taken with rfl | rfl
  · rfl
  · rfl

theorem step_storing (s : Sources) (u : String) (w : World) (schema : Value) (body : Bytes) (writing : Cache.Writing) :
    step s u w (.storing schema body writing) =
      (ofWriting schema body (s.cache.writeStep u body w.disk writing).1,
        { w with disk := (s.cache.writeStep u body w.disk writing).2 }) :=
  rfl

/-- A load that stores a schema goes on to do so, or ends with it. -/
theorem next_of_storing {s : Sources} {u : String} {w : World} {schema : Value} {body : Bytes}
    {writing : Cache.Writing} {next : Load × World} (taken : Next s u w (.storing schema body writing) next) :
    (exists writing', next.1 = .storing schema body writing') ∨ next.1 = .ended (.ok schema) := by
  rcases taken with rfl | rfl
  · rw [step_storing]
    cases (s.cache.writeStep u body w.disk writing).1 with
    | ended written => exact Or.inr rfl
    | folder => exact Or.inl ⟨_, rfl⟩
    | creation => exact Or.inl ⟨_, rfl⟩
    | filling temporary => exact Or.inl ⟨_, rfl⟩
    | installing temporary => exact Or.inl ⟨_, rfl⟩
  · exact Or.inr rfl

/-- A load that begins ends at once, or it is to ask for a remote reference that the cache does not have. -/
theorem step_begun (s : Sources) (u : String) (w : World) :
    (exists outcome, step s u w begun = (ended outcome, w)) ∨
      (Reference.isRemote u = .ok true ∧ ofCache? s u w.disk = none ∧ step s u w begun = (asking, w)) := by
  unfold step
  cases Reference.isRemote u with
  | error c => exact Or.inl ⟨_, rfl⟩
  | ok remote =>
    cases remote with
    | false => exact Or.inl ⟨_, rfl⟩
    | true =>
      dsimp only
      cases ofCache? s u w.disk with
      | none => exact Or.inr ⟨rfl, rfl, rfl⟩
      | some outcome => exact Or.inl ⟨outcome, rfl⟩

/-- What is fetched is the body of a reply that says that all is well, read as a schema. -/
theorem fetch_eq_ok {u : String} {n : Http.Network} {schema : Value} {body : Bytes}
    (came : (fetch u n).1 = .ok (schema, body)) :
    exists reply, (Http.request "GET" u schemaContent n).1 = .ok reply ∧ reply.isOk = true ∧ reply.body = body ∧
      Schema.read u (.bytes body) = .ok schema := by
  unfold fetch at came
  split at came
  · cases came
  · cases came
  · rename_i reply n' answered
    rw [answered]
    by_cases good : reply.isOk = true
    · rw [if_pos good] at came
      cases read : Schema.read u (.bytes reply.body) with
      | error failed =>
        rw [read] at came
        cases came
      | ok schema' =>
        rw [read] at came
        cases came
        exact ⟨reply, rfl, good, rfl, read⟩
    · rw [if_neg good] at came
      cases came

/-- A load that asks ends without a schema, or it is to store what came. -/
theorem step_asking (s : Sources) (u : String) (w : World) :
    (exists failed, (fetch u w.network).1 = .error failed ∧
        step s u w asking = (ended (.error failed), { w with network := (fetch u w.network).2 })) ∨
      exists schema body, (fetch u w.network).1 = .ok (schema, body) ∧
        step s u w asking = (storing schema body .folder, { w with network := (fetch u w.network).2 }) := by
  unfold step
  rcases fetch u w.network with ⟨failed | ⟨schema, body⟩, n⟩
  · exact Or.inl ⟨failed, rfl, rfl⟩
  · exact Or.inr ⟨schema, body, rfl, rfl⟩

/-- Only a load that stores a schema changes the disk. -/
theorem disk_of_next {s : Sources} {u : String} {w : World} {load : Load} {next : Load × World}
    (taken : Next s u w load next) (other : forall schema body writing, load ≠ .storing schema body writing) :
    next.2.disk = w.disk := by
  rcases taken with rfl | rfl
  · cases load with
    | begun =>
      rcases step_begun s u w with ⟨outcome, same⟩ | ⟨-, -, same⟩ <;> rw [same]
    | asking =>
      rcases step_asking s u w with ⟨failed, -, same⟩ | ⟨schema, body, -, same⟩ <;> rw [same]
    | storing schema body writing => exact absurd rfl (other schema body writing)
    | ended outcome => rfl
  · cases load with
    | storing schema body writing => exact absurd rfl (other schema body writing)
    | begun => rfl
    | asking => rfl
    | ended outcome => rfl

/-- A load is about to put what came in the place of the entry, and the disk lets it. -/
def Writes (s : Sources) (u : String) (w : World) (load : Load) (schema : Value) (body : Bytes) : Prop :=
  exists temporary d, load = .storing schema body (.installing temporary) ∧
    w.disk.replace temporary (s.cache.entry u) = .ok d

/-- A load that does not store a schema yet does not make a new file in its next step. -/
theorem writing_of_next {s : Sources} {u : String} {w : World} {load : Load} {next : Load × World}
    (taken : Next s u w load next) (other : forall schema body writing, load ≠ .storing schema body writing)
    {schema : Value} {body : Bytes} {writing : Cache.Writing} (storing : next.1 = .storing schema body writing) :
    writing = .folder ∧ load = .asking ∧ (fetch u w.network).1 = .ok (schema, body) := by
  rcases taken with rfl | rfl
  · cases load with
    | begun => rcases step_begun s u w with ⟨outcome, same⟩ | ⟨-, -, same⟩ <;> rw [same] at storing <;> cases storing
    | asking =>
      rcases step_asking s u w with ⟨failed, -, same⟩ | ⟨schema', body', came, same⟩
      · rw [same] at storing
        cases storing
      · rw [same] at storing
        cases storing
        exact ⟨rfl, rfl, came⟩
    | storing schema body writing => exact absurd rfl (other schema body writing)
    | ended outcome => cases storing
  · cases load with
    | storing schema body writing => exact absurd rfl (other schema body writing)
    | begun => cases storing
    | asking => cases storing
    | ended outcome => cases storing

/-- A load has found that the reference is remote. -/
def GoneOut : Load -> Prop
  | asking => True
  | storing _ _ _ => True
  | begun => False
  | ended _ => False

theorem remote_of_next {s : Sources} {u : String} {w : World} {load : Load} {next : Load × World}
    (taken : Next s u w load next) (out : next.1.GoneOut) : load.GoneOut ∨ Reference.isRemote u = .ok true := by
  cases load with
  | asking => exact Or.inl trivial
  | storing schema body writing => exact Or.inl trivial
  | ended outcome =>
    rw [next_of_ended taken] at out
    exact out.elim
  | begun =>
    rcases taken with rfl | rfl
    · rcases step_begun s u w with ⟨outcome, same⟩ | ⟨remote, -, -⟩
      · rw [same] at out
        exact out.elim
      · exact Or.inr remote
    · exact out.elim

end Load

namespace Session

variable {s : Sources} {σ : Session} {event : Event}

/-! ## What an event does to the loads -/

theorem loads_set {j : Nat} {r r' : Resolver} {w : World} (found : σ.resolvers[j]? = some r) (key : Nat × Nat) :
    (⟨σ.resolvers.set j r', w⟩ : Session).loads key = if key.1 = j then r'.loadAt key.2 else σ.loads key := by
  unfold loads
  rw [Resolver.getElem?_set_of_found found]
  by_cases same : key.1 = j
  · rw [if_pos same, if_pos same]
    rfl
  · rw [if_neg same, if_neg same]

theorem loads_of_found {j : Nat} {r : Resolver} (found : σ.resolvers[j]? = some r) (i : Nat) :
    σ.loads (j, i) = r.loadAt i := by
  unfold loads
  rw [found]
  rfl

theorem loads_set_same {j : Nat} {r r' : Resolver} {w : World} (found : σ.resolvers[j]? = some r)
    (same : forall i, r'.loadAt i = r.loadAt i) : (⟨σ.resolvers.set j r', w⟩ : Session).loads = σ.loads := by
  funext key
  rw [loads_set found]
  by_cases here : key.1 = j
  · rw [if_pos here, same key.2, ← loads_of_found found, ← here]
  · rw [if_neg here]

theorem loads_set_update {j i : Nat} {r r' : Resolver} {w : World} {load : Option (String × Load)}
    (found : σ.resolvers[j]? = some r) (changed : forall n, r'.loadAt n = if n = i then load else r.loadAt n) :
    (⟨σ.resolvers.set j r', w⟩ : Session).loads = Function.update σ.loads (j, i) load := by
  funext key
  obtain ⟨m, n⟩ := key
  rw [loads_set found, Function.update_apply]
  by_cases here : m = j
  · rw [if_pos here, changed n]
    by_cases same : n = i
    · rw [if_pos same, if_pos (Prod.ext here same)]
    · rw [if_neg same, if_neg (fun equal => same (congrArg Prod.snd equal)), here, loads_of_found found]
  · rw [if_neg here, if_neg (fun equal => here (congrArg Prod.fst equal))]

/-- What is due about a load does not matter to it. -/
theorem loadAt_set_due {r : Resolver} {f g : Resolver.Flight} {n : Nat} (found : r.flights[n]? = some f)
    (reference : g.reference = f.reference) (load : g.load = f.load) (i : Nat) :
    ((r.flights.set n g)[i]?).map (fun f : Resolver.Flight => (f.reference, f.load)) = r.loadAt i := by
  unfold Resolver.loadAt
  rw [Resolver.getElem?_set_of_found found]
  by_cases here : i = n
  · rw [if_pos here, here, found, Option.map_some, Option.map_some, reference, load]
  · rw [if_neg here]

/-- What a resolver does concerns no load, or begins one, or is a step of one. -/
inductive Concerns (s : Sources) (σ σ' : Session) (j : Nat) (action : Resolver.Action) : Prop
  | none (loads : σ'.loads = σ.loads) (world : σ'.world = σ.world)
  | begins (i : Nat) (u : String) (called : action = .call u) (new : σ.loads (j, i) = .none)
      (loads : σ'.loads = Function.update σ.loads (j, i) (some (u, .begun))) (world : σ'.world = σ.world)
  | steps (i : Nat) (u : String) (load : Load) (next : Load × World) (found : σ.loads (j, i) = some (u, load))
      (taken : (action = .advance i ∧ next = load.step s u σ.world) ∨ (action = .refuse i ∧ next = load.refuse σ.world))
      (loads : σ'.loads = Function.update σ.loads (j, i) (some (u, next.1))) (world : σ'.world = next.2)

/-- A step changes the load that takes it. -/
theorem loadAt_progress {r : Resolver} {f : Resolver.Flight} {i : Nat} (w : World) (step : String -> Load -> Load × World)
    (there : r.flights[i]? = some f) (n : Nat) : (r.progress w i step).1.loadAt n =
      if n = i then some (f.reference, (step f.reference f.load).1) else r.loadAt n := by
  unfold Resolver.progress Resolver.loadAt
  rw [there, Resolver.getElem?_set_of_found there]
  by_cases same : n = i
  · rw [if_pos same, if_pos same]
    rfl
  · rw [if_neg same, if_neg same]

theorem loads_progress {j i : Nat} {r : Resolver} {f : Resolver.Flight} (step : String -> Load -> Load × World)
    (found : σ.resolvers[j]? = some r) (there : r.flights[i]? = some f) :
    (⟨σ.resolvers.set j (r.progress σ.world i step).1, (r.progress σ.world i step).2⟩ : Session).loads =
        Function.update σ.loads (j, i) (some (f.reference, (step f.reference f.load).1)) ∧
      (r.progress σ.world i step).2 = (step f.reference f.load).2 := by
  refine ⟨loads_set_update found (loadAt_progress σ.world step there), ?_⟩
  unfold Resolver.progress
  rw [there]

theorem concerns_progress {j i : Nat} {r : Resolver} {action : Resolver.Action}
    {step : String -> Load -> Load × World} (found : σ.resolvers[j]? = some r)
    (taken : forall u load, (action = .advance i ∧ step u load = load.step s u σ.world) ∨
      (action = .refuse i ∧ step u load = load.refuse σ.world)) :
    Concerns s σ ⟨σ.resolvers.set j (r.progress σ.world i step).1, (r.progress σ.world i step).2⟩ j action := by
  cases there : r.flights[i]? with
  | none =>
    unfold Resolver.progress
    rw [there]
    exact .none (loads_set_same found fun _ => rfl) rfl
  | some f =>
    obtain ⟨loads, world⟩ := loads_progress step found there
    refine .steps i f.reference f.load (step f.reference f.load) ?_ (taken f.reference f.load) loads world
    rw [loads_of_found found, Resolver.loadAt, there]
    rfl

theorem loadAt_depart (r : Resolver) (u : String) (n : Nat) :
    (r.depart u).loadAt n = if n = r.flights.length then some (u, .begun) else r.loadAt n := by
  change ((r.flights ++ [_])[n]?).map _ = _
  by_cases same : n = r.flights.length
  · rw [if_pos same, same, List.getElem?_concat_length]
    rfl
  · rw [if_neg same]
    unfold Resolver.loadAt
    by_cases inside : n < r.flights.length
    · rw [List.getElem?_append_left inside]
    · rw [List.getElem?_eq_none_iff.mpr (Nat.le_of_not_lt inside),
        List.getElem?_eq_none_iff.mpr (by rw [List.length_append, List.length_singleton]; omega)]

theorem concerns_call {j : Nat} {r : Resolver} {u : String} (found : σ.resolvers[j]? = some r) :
    Concerns s σ ⟨σ.resolvers.set j (r.call u), σ.world⟩ j (.call u) := by
  rcases r.call_cases u with ⟨v, -, next⟩ | ⟨-, n, f, -, there, next⟩ | ⟨-, -, next⟩
  · rw [next]
    exact .none (loads_set_same found fun _ => rfl) rfl
  · rw [next]
    rcases r.join_cases u n f with ⟨outcome, -, joined⟩ | ⟨-, joined⟩
    · rw [joined]
      exact .none (loads_set_same found fun _ => rfl) rfl
    · rw [joined]
      refine .none (loads_set_same found (loadAt_set_due there ?_ ?_)) rfl
      · rfl
      · rfl
  · rw [next]
    have new : r.flights[r.flights.length]? = none := List.getElem?_eq_none_iff.mpr (Nat.le_refl _)
    refine .begins r.flights.length u rfl ?_ (loads_set_update found (loadAt_depart r u)) rfl
    rw [loads_of_found found, Resolver.loadAt, new]
    rfl

/-- What is due about a load is no step of it. -/
theorem loadAt_callback (r : Resolver) (n i : Nat) : (r.callback n).loadAt i = r.loadAt i := by
  rcases r.callback_cases n with ⟨same, -⟩ | ⟨f, outcome, due, there, -, ⟨-, next⟩ | ⟨k, -, next⟩⟩
  · rw [same]
  · rw [next]
    refine loadAt_set_due there ?_ ?_ i
    · rfl
    · rfl
  · rw [next]
    refine loadAt_set_due there ?_ ?_ i
    · rfl
    · rfl

theorem concerns_callback {j n : Nat} {r : Resolver} (found : σ.resolvers[j]? = some r) :
    Concerns s σ ⟨σ.resolvers.set j (r.callback n), σ.world⟩ j (.callback n) :=
  .none (loads_set_same found (loadAt_callback r n)) rfl

theorem take_act {j : Nat} {r : Resolver} (found : σ.resolvers[j]? = some r) (action : Resolver.Action) :
    σ.take s (.act j action) =
      ⟨σ.resolvers.set j (r.act s σ.world action).1, (r.act s σ.world action).2⟩ := by
  simp only [take, found]

theorem take_act_of_none {j : Nat} (absent : σ.resolvers[j]? = none) (action : Resolver.Action) :
    σ.take s (.act j action) = σ := by
  simp only [take, absent]

/-- A load of a session belongs to a resolver. -/
theorem exists_flight {j i : Nat} {u : String} {load : Load} (found : σ.loads (j, i) = some (u, load)) :
    exists (r : Resolver) (f : Resolver.Flight), σ.resolvers[j]? = some r ∧ r.flights[i]? = some f ∧ f.reference = u ∧
      f.load = load := by
  obtain ⟨r, there, flight⟩ := Option.bind_eq_some_iff.mp found
  obtain ⟨f, here, same⟩ := Option.map_eq_some_iff.mp flight
  cases same
  exact ⟨r, f, there, here, rfl, rfl⟩

/-- What it comes to that a load takes its next step. -/
theorem take_advance {j i : Nat} {u : String} {load : Load} (found : σ.loads (j, i) = some (u, load)) :
    (σ.take s (.act j (.advance i))).loads =
        Function.update σ.loads (j, i) (some (u, (load.step s u σ.world).1)) ∧
      (σ.take s (.act j (.advance i))).world = (load.step s u σ.world).2 := by
  obtain ⟨r, f, there, here, rfl, rfl⟩ := exists_flight found
  rw [take_act there]
  exact loads_progress _ there here

theorem concerns_take (s : Sources) (σ : Session) (j : Nat) (action : Resolver.Action) :
    Concerns s σ (σ.take s (.act j action)) j action := by
  cases found : σ.resolvers[j]? with
  | none =>
    rw [take_act_of_none found]
    exact .none rfl rfl
  | some r =>
    rw [take_act found]
    cases action with
    | call u => exact concerns_call found
    | advance i => exact concerns_progress found fun u load => Or.inl ⟨rfl, rfl⟩
    | refuse i => exact concerns_progress found fun u load => Or.inr ⟨rfl, rfl⟩
    | callback n => exact concerns_callback found

/-- What holds of every load holds of every load after an action too, if it holds of one that begins and of what becomes
of one in a step. -/
theorem Concerns.all_loads {σ' : Session} {j : Nat} {action : Resolver.Action} {P : Nat × Nat -> String -> Load -> Prop}
    (concerns : Concerns s σ σ' j action) (before : forall key u load, σ.loads key = some (u, load) -> P key u load)
    (begun : forall key u, action = .call u -> P key u .begun)
    (stepped : forall (i : Nat) (u : String) (load : Load) (next : Load × World), σ.loads (j, i) = some (u, load) ->
      ((action = .advance i ∧ next = load.step s u σ.world) ∨ (action = .refuse i ∧ next = load.refuse σ.world)) ->
      σ'.world = next.2 -> P (j, i) u next.1) :
    forall key u load, σ'.loads key = some (u, load) -> P key u load := by
  intro key v load found
  cases concerns with
  | none loads world =>
    rw [loads] at found
    exact before key v load found
  | begins i u called new loads world =>
    rw [loads, Function.update_apply] at found
    by_cases here : key = (j, i)
    · rw [if_pos here] at found
      cases found
      exact begun key v called
    · rw [if_neg here] at found
      exact before key v load found
  | steps i u load' next there taken loads world =>
    rw [loads, Function.update_apply] at found
    by_cases here : key = (j, i)
    · rw [if_pos here] at found
      cases found
      exact here ▸ stepped i v load' next there taken world
    · rw [if_neg here] at found
      exact before key v load found

/-! ## Runs -/

/-- A run comes through a session when certain events are left. -/
inductive Passes (s : Sources) : Session -> List Event -> Session -> List Event -> Prop
  | here {σ : Session} {events : List Event} : Passes s σ events σ events
  | later {σ σ' : Session} {event : Event} {rest left : List Event} :
      Passes s (σ.take s event) rest σ' left -> Passes s σ (event :: rest) σ' left

namespace Passes

variable {σ' σ'' : Session} {events left left' rest : List Event}

theorem trans (first : Passes s σ events σ' left) (second : Passes s σ' left σ'' left') :
    Passes s σ events σ'' left' := by
  induction first with
  | here => exact second
  | later _ ih => exact .later (ih second)

theorem next (passes : Passes s σ events σ' (event :: rest)) : Passes s σ events (σ'.take s event) rest :=
  passes.trans (.later .here)

theorem mem (passes : Passes s σ events σ' (event :: rest)) : event ∈ events := by
  generalize same : event :: rest = left at passes
  induction passes with
  | here =>
    rw [← same]
    exact List.mem_cons_self ..
  | later _ ih => exact List.mem_cons_of_mem _ (ih same)

/-- What every event of a run keeps holds throughout the run. -/
theorem invariant {motive : Session -> Prop} (passes : Passes s σ events σ' left) (start : motive σ)
    (step : forall {σ' event rest}, Passes s σ events σ' (event :: rest) -> motive σ' -> motive (σ'.take s event)) :
    motive σ' := by
  induction passes with
  | here => exact start
  | later _ ih => exact ih (step .here start) fun passes holds => step (.later passes) holds

/-- What a run comes through is what comes of its first events. -/
theorem exists_take (passes : Passes s σ events σ' left) :
    exists n, n <= events.length ∧ left = events.drop n ∧ σ' = σ.after s (events.take n) := by
  induction passes with
  | here => exact ⟨0, Nat.zero_le _, rfl, rfl⟩
  | later _ ih =>
    obtain ⟨n, short, rfl, rfl⟩ := ih
    exact ⟨n + 1, Nat.succ_le_succ short, rfl, rfl⟩

/-- Before an event of a run not all of its events have been taken. -/
theorem exists_take_lt {event : Event} {rest : List Event} (passes : Passes s σ events σ' (event :: rest)) :
    exists n, n < events.length ∧ event :: rest = events.drop n ∧ σ' = σ.after s (events.take n) := by
  obtain ⟨n, -, left, same⟩ := passes.exists_take
  refine ⟨n, ?_, left, same⟩
  by_contra outside
  rw [List.drop_eq_nil_of_le (Nat.le_of_not_lt outside)] at left
  cases left

end Passes

theorem loads_start (count : Nat) (w : World) (key : Nat × Nat) : (start count w).loads key = none := by
  unfold loads start
  rw [List.getElem?_replicate]
  by_cases inside : key.1 < count
  · rw [if_pos inside]
    rfl
  · rw [if_neg inside]
    rfl

/-- All resolvers of a session are in order. -/
def IsSound (σ : Session) : Prop :=
  forall (j : Nat) (r : Resolver), σ.resolvers[j]? = some r -> r.Sound

theorem isSound_start (count : Nat) (w : World) : (start count w).IsSound := by
  intro j r found
  unfold start at found
  rw [List.getElem?_replicate] at found
  by_cases inside : j < count
  · rw [if_pos inside] at found
    cases found
    exact Resolver.Sound.fresh
  · rw [if_neg inside] at found
    cases found

theorem IsSound.take (sound : σ.IsSound) (s : Sources) (event : Event) : (σ.take s event).IsSound := by
  cases event with
  | change w => exact sound
  | act j action =>
    cases found : σ.resolvers[j]? with
    | none =>
      rw [take_act_of_none found]
      exact sound
    | some r =>
      rw [take_act found]
      intro k r' there
      rw [Resolver.getElem?_set_of_found found] at there
      by_cases here : k = j
      · rw [if_pos here] at there
        cases there
        exact (sound j r found).act s σ.world action
      · rw [if_neg here] at there
        exact sound k r' there

end Session

end SchemaLint
