import SchemaLint.Proofs.Resolver.SingleFlight

/-!
# Loads in turn

Every step of a load leaves fewer of them.  If every load gets as many turns as it has steps left, and then as many as
there are things due about it, then no load is left unfinished and no call unanswered.
-/

namespace SchemaLint

open Json (Value)

namespace Load

variable {s : Sources} {u : String} {w : World}

theorem left_ofWriting (schema : Value) (body : Bytes) (writing : Cache.Writing) :
    (ofWriting schema body writing).left <= writing.left + 1 := by
  cases writing with
  | ended written => exact Nat.zero_le _
  | folder => exact Nat.le_refl _
  | creation => exact Nat.le_refl _
  | filling temporary => exact Nat.le_refl _
  | installing temporary => exact Nat.le_refl _

/-- Every step of a load leaves fewer of them. -/
theorem left_step (s : Sources) (u : String) (w : World) (load : Load) : (load.step s u w).1.left <= load.left - 1 := by
  cases load with
  | begun =>
    unfold step
    cases Reference.isRemote u with
    | error c => exact Nat.zero_le _
    | ok remote =>
      cases remote with
      | false => exact Nat.zero_le _
      | true =>
        dsimp only
        cases ofCache? s u w.disk with
        | some outcome => exact Nat.zero_le _
        | none => exact Nat.le_refl _
  | asking =>
    unfold step
    rcases fetch u w.network with ⟨failed | ⟨schema, body⟩, n⟩
    · exact Nat.zero_le _
    · exact Nat.le_refl _
  | storing schema body writing =>
    have fewer := s.cache.left_writeStep u body w.disk writing
    have most := left_ofWriting schema body (s.cache.writeStep u body w.disk writing).1
    change (ofWriting schema body (s.cache.writeStep u body w.disk writing).1).left <= writing.left + 1 - 1
    by_cases finished : writing.left = 0
    · cases writing with
      | ended written => exact Nat.zero_le _
      | _ => cases finished
    · omega
  | ended outcome => exact Nat.le_refl _

theorem eq_ended_of_left {load : Load} (none : load.left = 0) : exists outcome, load = .ended outcome := by
  cases load with
  | ended outcome => exact ⟨outcome, rfl⟩
  | begun => cases none
  | asking => cases none
  | storing schema body writing => cases none

end Load

namespace Resolver

variable {r : Resolver} {w : World} {i : Nat} {f : Flight}

/-! ## Runs -/

theorem run_append (s : Sources) (r : Resolver) (w : World) (earlier later : List Action) :
    r.run s w (earlier ++ later) = (r.run s w earlier).1.run s (r.run s w earlier).2 later := by
  induction earlier generalizing r w with
  | nil => rfl
  | cons action rest ih => exact ih (r.act s w action).1 (r.act s w action).2

theorem run_calls (s : Sources) (r : Resolver) (w : World) (references : List String) :
    r.run s w (references.map .call) = (references.foldl call r, w) := by
  induction references generalizing r with
  | nil => rfl
  | cons u rest ih => exact ih (r.call u)

theorem callReferences_call (r : Resolver) (u : String) :
    (r.call u).calls.map Call.reference = r.calls.map Call.reference ++ [u] := by
  rcases r.call_cases u with ⟨v, -, next⟩ | ⟨-, n, f, -, -, next⟩ | ⟨-, -, next⟩
  · rw [next, List.map_append]
    rfl
  · rcases r.join_cases u n f with ⟨outcome, -, joined⟩ | ⟨-, joined⟩
    · rw [next, joined, List.map_append]
      rfl
    · rw [next, joined, List.map_append]
      rfl
  · rw [next]
    unfold depart
    rw [List.map_append]
    rfl

theorem callReferences_calls (references : List String) :
    (references.foldl call r).calls.map Call.reference = r.calls.map Call.reference ++ references := by
  induction references generalizing r with
  | nil => exact (List.append_nil _).symm
  | cons u rest ih =>
    rw [List.foldl_cons, ih, callReferences_call, List.append_assoc]
    rfl

theorem outcomes_resolveAll (s : Sources) (r : Resolver) (w : World) (references : List String) :
    (r.resolveAll s w references).1 =
      (((references.foldl call r).run s w (references.foldl call r).inTurn).1.calls.drop r.calls.length).map
        fun call => call.answer.getD (.error (.crash .runtime)) := by
  rfl

theorem world_resolveAll (s : Sources) (r : Resolver) (w : World) (references : List String) :
    (r.resolveAll s w references).2.2 = ((references.foldl call r).run s w (references.foldl call r).inTurn).2 := by
  rfl

theorem resolve_eq_resolveAll (s : Sources) (r : Resolver) (w : World) (u : String) : r.resolve s w u =
    ((r.resolveAll s w [u]).1.headD (.error (.crash .runtime)), (r.resolveAll s w [u]).2) := by
  rfl

/-! ## Turns -/

/-- A turn of a load that takes it a step further. -/
def IsAdvance (action : Action) : Prop :=
  exists n, action = .advance n

/-- A turn of a load in which something is done that is due. -/
def IsCallback (action : Action) : Prop :=
  exists n, action = .callback n

/-- Only a call changes what was called for. -/
theorem callReferences_act {action : Action} (s : Sources) (w : World) (noCall : forall u, action ≠ .call u) :
    (r.act s w action).1.calls.map Call.reference = r.calls.map Call.reference := by
  have progress : forall {n} {step : String -> Load -> Load × World}, Final step ->
      (r.progress w n step).1.calls.map Call.reference = r.calls.map Call.reference := by
    intro n step final
    rcases r.progress_cases w n final with same | ⟨f, load, -, -, next⟩
    · rw [same]
    · rw [next]
  cases action with
  | call u => exact absurd rfl (noCall u)
  | advance n => exact progress (final_step s w)
  | refuse n => exact progress (final_refuse w)
  | callback n =>
    change (r.callback n).calls.map Call.reference = _
    rcases r.callback_cases n with ⟨same, -⟩ | ⟨f, outcome, due, -, -, ⟨-, next⟩ | ⟨k, -, next⟩⟩
    · rw [same]
    · rw [next]
      rfl
    · rw [next]
      apply List.ext_getElem?
      intro m
      simp only [answer, List.getElem?_map, List.getElem?_modify]
      cases r.calls[m]? with
      | none => rfl
      | some c => by_cases same : k = m <;> simp [same]

theorem noCall_of_turn {action : Action} (turn : IsAdvance action ∨ IsCallback action) (u : String) : action ≠ .call u := by
  rintro rfl
  rcases turn with ⟨n, same⟩ | ⟨n, same⟩ <;> cases same

theorem length_act {action : Action} (s : Sources) (w : World) (turn : IsAdvance action ∨ IsCallback action) :
    (r.act s w action).1.flights.length = r.flights.length := by
  have same : (r.act s w action).1.flights.map Flight.reference = r.flights.map Flight.reference := by
    rcases references_act (r := r) s w action with same | ⟨u, isCall, -⟩
    · exact same
    · exact absurd isCall (noCall_of_turn turn u)
  simpa using congrArg List.length same

theorem length_run (s : Sources) (w : World) (actions : List Action)
    (turns : forall action, action ∈ actions -> IsAdvance action ∨ IsCallback action) :
    (r.run s w actions).1.flights.length = r.flights.length := by
  induction actions generalizing r w with
  | nil => rfl
  | cons action rest ih =>
    have first := length_act (r := r) s w (turns action (List.mem_cons_self ..))
    exact (ih (r := (r.act s w action).1) (r.act s w action).2
      (fun action later => turns action (List.mem_cons_of_mem _ later))).trans first

theorem callReferences_run (s : Sources) (w : World) (actions : List Action)
    (turns : forall action, action ∈ actions -> IsAdvance action ∨ IsCallback action) :
    (r.run s w actions).1.calls.map Call.reference = r.calls.map Call.reference := by
  induction actions generalizing r w with
  | nil => rfl
  | cons action rest ih =>
    have first := callReferences_act (r := r) s w (noCall_of_turn (turns action (List.mem_cons_self ..)))
    exact (ih (r := (r.act s w action).1) (r.act s w action).2
      (fun action later => turns action (List.mem_cons_of_mem _ later))).trans first

/-- As many steps are taken as a load gets turns. -/
theorem left_run (s : Sources) (w : World) (actions : List Action)
    (turns : forall action, action ∈ actions -> IsAdvance action) (found : r.flights[i]? = some f) :
    exists load, (r.run s w actions).1.flights[i]? = some { f with load } ∧
      load.left <= f.load.left - actions.count (.advance i) := by
  induction actions generalizing r w f with
  | nil => exact ⟨f.load, found, Nat.le_refl _⟩
  | cons action rest ih =>
    obtain ⟨n, rfl⟩ := turns action (List.mem_cons_self ..)
    have later : forall action, action ∈ rest -> IsAdvance action :=
      fun action member => turns action (List.mem_cons_of_mem _ member)
    by_cases here : n = i
    · subst here
      have moved : (r.act s w (.advance n)).1.flights[n]? = some { f with load := (f.load.step s f.reference w).1 } := by
        change (r.progress w n _).1.flights[n]? = _
        unfold progress
        rw [found]
        exact found_set found _
      obtain ⟨load, last, left⟩ := ih (r.act s w (.advance n)).2 later moved
      refine ⟨load, last, ?_⟩
      have fewer := Load.left_step s f.reference w f.load
      rw [List.count_cons_self]
      simp only at left
      omega
    · have still : (r.act s w (.advance n)).1.flights[i]? = some f := by
        change (r.progress w n _).1.flights[i]? = _
        unfold progress
        cases there : r.flights[n]? with
        | none => exact found
        | some g => exact found_set_of_ne (Ne.symm here) found _
      obtain ⟨load, last, left⟩ := ih (r.act s w (.advance n)).2 later still
      refine ⟨load, last, ?_⟩
      rw [List.count_cons_of_ne (fun same => here (Action.advance.inj same))]
      exact left

/-! ## All loads in turn -/

/-- Nothing is left to be done about any load. -/
def IsDone (r : Resolver) : Prop :=
  forall (i : Nat) (f : Flight), r.flights[i]? = some f -> (exists outcome, f.outcome? = some outcome) ∧ f.due = []

theorem le_count_turns (l : List Flight) (turns : Flight -> Nat) (action : Nat -> Action)
    (found : l[i]? = some f) :
    turns f <= (l.zipIdx.flatMap fun (f, number) => List.replicate (turns f) (action number)).count (action i) := by
  have member : List.replicate (turns f) (action i) ∈
      l.zipIdx.map fun (f, number) => List.replicate (turns f) (action number) := by
    refine List.mem_map.mpr ⟨(f, i), ?_, rfl⟩
    exact List.mk_mem_zipIdx_iff_getElem?.mpr found
  have part := (List.sublist_flatten_of_mem member).count_le (action i)
  rw [List.count_replicate_self] at part
  exact part

theorem isTurn_of_mem (l : List Flight) (turns : Flight -> Nat) (action : Nat -> Action) {a : Action}
    (member : a ∈ l.zipIdx.flatMap fun (f, number) => List.replicate (turns f) (action number)) :
    exists n, a = action n := by
  obtain ⟨⟨f, n⟩, -, inside⟩ := List.mem_flatMap.mp member
  exact ⟨n, List.eq_of_mem_replicate inside⟩

theorem turns_inTurn (r : Resolver) : forall action, action ∈ r.inTurn -> IsAdvance action ∨ IsCallback action := by
  intro action member
  rcases List.mem_append.mp member with first | second
  · exact Or.inl (isTurn_of_mem r.flights (fun f => f.load.left) .advance first)
  · exact Or.inr (isTurn_of_mem r.flights (fun f => f.due.length) .callback second)

/-- After all turns nothing is left to be done, and no call came. -/
theorem isDone_inTurn (s : Sources) (r : Resolver) (w : World) :
    (r.run s w r.inTurn).1.IsDone ∧
      (r.run s w r.inTurn).1.calls.map Call.reference = r.calls.map Call.reference := by
  have turns := r.turns_inTurn
  refine ⟨?_, callReferences_run s w r.inTurn turns⟩
  let loads := r.flights.zipIdx.flatMap fun (f, number) => List.replicate f.load.left (Action.advance number)
  let callbacks := r.flights.zipIdx.flatMap fun (f, number) => List.replicate f.due.length (Action.callback number)
  change (r.run s w (loads ++ callbacks)).1.IsDone
  change forall action, action ∈ loads ++ callbacks -> _ at turns
  have advances : forall action, action ∈ loads -> IsAdvance action :=
    fun action member => isTurn_of_mem r.flights (fun f => f.load.left) .advance member
  intro i g there
  have inside : i < r.flights.length := by
    rw [← length_run s w (loads ++ callbacks) turns]
    exact (List.getElem?_eq_some_iff.mp there).1
  obtain ⟨f, found⟩ : exists f, r.flights[i]? = some f := ⟨_, List.getElem?_eq_getElem inside⟩
  obtain ⟨load, moved, left⟩ := left_run s w loads advances found
  have enough : f.load.left <= loads.count (.advance i) := le_count_turns r.flights (fun f => f.load.left) .advance found
  have often : f.due.length <= callbacks.count (.callback i) :=
    le_count_turns r.flights (fun f => f.due.length) .callback found
  obtain ⟨outcome, rfl⟩ := Load.eq_ended_of_left (by omega : load.left = 0)
  obtain ⟨history, actions, same⟩ := exists_after_eq_run (r := (r.run s w loads).1) s (r.run s w loads).2 callbacks
  have finished : Flight.outcome? { f with load := .ended outcome } = some outcome := rfl
  have last := ended_after s history moved finished
  rw [same, actions, ← run_append, there] at last
  cases last
  exact ⟨⟨outcome, rfl⟩, List.drop_eq_nil_of_le often⟩

/-- Where nothing is left to be done about the loads, every call is answered. -/
theorem Sound.answered (sound : r.Sound) (done : r.IsDone) {c : Call} (member : c ∈ r.calls) :
    exists outcome, c.answer = some outcome := by
  obtain ⟨k, there⟩ := List.getElem?_of_mem member
  cases belongs : c.flight with
  | none =>
    obtain ⟨v, known, -⟩ := sound.served.fromKnown there belongs
    exact ⟨_, known⟩
  | some i =>
    obtain ⟨g, found, -, ⟨-, due⟩ | ⟨outcome, given, -⟩⟩ := sound.served.fromFlight there belongs
    · rw [(done i g found).2] at due
      cases due
    · exact ⟨outcome, given⟩

end Resolver

end SchemaLint
