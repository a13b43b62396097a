import SchemaLint.Proofs.Resolver.Serving

/-!
# What actions do to a resolver

Each kind of action changes a resolver in one of a few ways, and none of them disturbs the files or the calls.  A load
that has ended keeps its outcome through every history, so that what was once settled about a reference lasts.
-/

namespace SchemaLint

open Json (Value)

namespace Resolver

variable {r : Resolver}

/-! ## The ways in which an action can come out -/

/-- A call finds a schema, or it finds a load, or it begins one. -/
theorem call_cases (r : Resolver) (u : String) :
    (exists v, r.known.lookup u = some v ∧ r.call u = { r with calls := r.calls ++ [⟨u, none, some (.ok v)⟩] }) ∨
      (r.known.lookup u = none ∧ exists n f, r.pending.lookup u = some n ∧ r.flights[n]? = some f ∧
        r.call u = r.join u n f) ∨
      (r.known.lookup u = none ∧ (forall n f, r.pending.lookup u = some n -> r.flights[n]? ≠ some f) ∧
        r.call u = r.depart u) := by
  unfold call
  cases known : r.known.lookup u with
  | some v => exact Or.inl ⟨v, rfl, rfl⟩
  | none =>
    right
    cases pending : r.pending.lookup u with
    | none =>
      right
      exact ⟨rfl, by simp, rfl⟩
    | some n =>
      cases found : r.flights[n]? with
      | some f =>
        left
        exact ⟨rfl, n, f, rfl, found, by simp [found]⟩
      | none =>
        right
        refine ⟨rfl, ?_, by simp [found]⟩
        intro m f same
        rw [← Option.some.inj same, found]
        simp

/-- A call that finds a load takes its outcome or waits for it. -/
theorem join_cases (r : Resolver) (u : String) (n : Nat) (f : Flight) :
    (exists outcome, f.outcome? = some outcome ∧
        r.join u n f = { r with calls := r.calls ++ [⟨u, some n, some outcome⟩] }) ∨
      (f.outcome? = none ∧ r.join u n f =
        { r with
          flights := r.flights.set n { f with due := f.due ++ [.wake r.calls.length] }
          calls := r.calls ++ [⟨u, some n, none⟩] }) := by
  unfold join
  cases ended : f.outcome? with
  | some outcome => exact Or.inl ⟨outcome, rfl, rfl⟩
  | none => exact Or.inr ⟨rfl, rfl⟩

/-- The step of a load changes how far it has come, and nothing if it has ended. -/
theorem progress_cases (r : Resolver) (w : World) (n : Nat) {step : String -> Load -> Load × World} (final : Final step) :
    (r.progress w n step).1 = r ∨
      exists f load, r.flights[n]? = some f ∧ (forall outcome, f.outcome? = some outcome -> load = .ended outcome) ∧
        (r.progress w n step).1 = { r with flights := r.flights.set n { f with load } } := by
  unfold progress
  cases found : r.flights[n]? with
  | none => exact Or.inl rfl
  | some f =>
    refine Or.inr ⟨f, (step f.reference f.load).1, rfl, ?_, rfl⟩
    intro outcome ended
    rw [Flight.outcome?_eq_some_iff.mp ended]
    exact final f.reference outcome

/-- If something is due about a load that has ended, then it is to settle the load or to wake a call. -/
theorem callback_cases (r : Resolver) (n : Nat) :
    (r.callback n = r ∧ forall f outcome, r.flights[n]? = some f -> f.outcome? = some outcome -> f.due = []) ∨
      exists f outcome due, r.flights[n]? = some f ∧ f.outcome? = some outcome ∧
        ((f.due = .settle :: due ∧ r.callback n =
            ({ r with flights := r.flights.set n { f with due } } : Resolver).settle f.reference outcome) ∨
          exists k, f.due = .wake k :: due ∧ r.callback n =
            ({ r with flights := r.flights.set n { f with due } } : Resolver).answer k outcome) := by
  unfold callback
  cases found : r.flights[n]? with
  | none =>
    left
    exact ⟨rfl, by simp⟩
  | some f =>
    cases ended : f.outcome? with
    | none =>
      left
      refine ⟨by simp [ended], ?_⟩
      intro g outcome there finished
      rw [← Option.some.inj there, ended] at finished
      cases finished
    | some outcome =>
      cases queue : f.due with
      | nil =>
        left
        refine ⟨by simp [ended, queue], ?_⟩
        intro g _ there _
        rw [← Option.some.inj there, queue]
      | cons next due =>
        refine Or.inr ⟨f, outcome, due, rfl, ended, ?_⟩
        cases next with
        | settle => exact Or.inl ⟨queue, by simp [ended, queue]⟩
        | wake k => exact Or.inr ⟨k, queue, by simp [ended, queue]⟩

/-! ## Every action keeps the files and the calls in order -/

namespace Sound

variable {n : Nat} {f : Flight} {u : String}

theorem fresh : Resolver.fresh.Sound :=
  ⟨Filed.fresh, Served.fresh⟩

theorem idle_of_absent (sound : r.Sound) (absent : forall n f, r.pending.lookup u = some n -> r.flights[n]? ≠ some f) :
    r.pending.lookup u = none := by
  cases pending : r.pending.lookup u with
  | none => rfl
  | some n =>
    obtain ⟨f, found, -⟩ := (sound.filed.pending u n).mp (Filed.mem_of_lookup_pending pending)
    exact absurd found (absent n f pending)

theorem depart (sound : r.Sound) (unknown : r.known.lookup u = none) (idle : r.pending.lookup u = none) :
    (r.depart u).Sound where
  filed := sound.filed.depart unknown idle
  served := by
    have new : r.flights[r.flights.length]? = none := List.getElem?_eq_none_iff.mpr (Nat.le_refl _)
    refine sound.served.waiting (g := ⟨u, .begun, [.settle, .wake r.calls.length]⟩) _
      (List.getElem?_concat_length ..) rfl ?due ?others ?kept ?own
    case due => exact List.mem_cons_of_mem _ (List.mem_cons_self ..)
    case others =>
      intro i h elsewhere
      constructor
      · intro there
        rcases lookup_concat there with ⟨-, there⟩ | ⟨last, -⟩
        · exact there
        · exact absurd last elsewhere
      · intro there
        have inside : i < r.flights.length := (List.getElem?_eq_some_iff.mp there).1
        exact (List.getElem?_append_left inside).trans there
    case kept =>
      intro h there
      rw [new] at there
      cases there
    case own =>
      intro k member
      simp only [List.mem_cons, List.not_mem_nil, or_false, reduceCtorEq, false_or] at member
      exact Or.inl (Callback.wake.inj member)

theorem join (sound : r.Sound) (pending : (u, n) ∈ r.pending) (found : r.flights[n]? = some f) :
    (r.join u n f).Sound := by
  obtain ⟨g, there, reference, waiting⟩ := (sound.filed.pending u n).mp pending
  have equal : g = f := Option.some.inj (there.symm.trans found)
  subst equal
  rcases r.join_cases u n g with ⟨outcome, ended, next⟩ | ⟨unfinished, next⟩
  · rw [next]
    refine ⟨sound.filed.ofCalls _, sound.served.answered ?_ ?_⟩
    · intro direct
      cases direct
    · intro i belongs
      have same : n = i := Option.some.inj belongs
      subst same
      exact ⟨g, found, reference, outcome, rfl, ended⟩
  · rw [next]
    have queue : Callback.settle ∉ (g.due ++ [Callback.wake r.calls.length]).tail := by
      have rest := sound.filed.first found
      cases due : g.due with
      | nil => simp
      | cons head tail =>
        rw [due] at rest
        simpa using rest
    constructor
    · refine (sound.filed.replace (g := { g with due := g.due ++ [.wake r.calls.length] }) found rfl ?_ ?_ queue).ofCalls _
      · simp [Flight.Settled]
      · exact fun outcome ended => ended
    · refine sound.served.waiting (g := { g with due := g.due ++ [.wake r.calls.length] }) _
        (found_set found _) reference ?due ?others ?kept ?own
      case due => exact List.mem_append_right _ (List.mem_singleton.mpr rfl)
      case others =>
        intro i h elsewhere
        rw [List.getElem?_set_ne elsewhere.symm]
      case kept =>
        intro h there
        have equal : h = g := Option.some.inj (there.symm.trans found)
        subst equal
        exact ⟨rfl, fun outcome ended => ended, fun k member => List.mem_append_left _ member⟩
      case own =>
        intro k member
        rcases List.mem_append.mp member with old | new
        · exact Or.inr ⟨g, found, old⟩
        · exact Or.inl (Callback.wake.inj (List.mem_singleton.mp new))

theorem call (sound : r.Sound) (u : String) : (r.call u).Sound := by
  rcases r.call_cases u with ⟨v, known, next⟩ | ⟨-, n, f, pending, found, next⟩ | ⟨unknown, absent, next⟩
  · rw [next]
    refine ⟨sound.filed.ofCalls _, sound.served.answered ?_ ?_⟩
    · exact fun _ => ⟨v, rfl, sound.filed.lookup_known_eq_some_iff.mp known⟩
    · intro i belongs
      cases belongs
  · rw [next]
    exact sound.join (Filed.mem_of_lookup_pending pending) found
  · rw [next]
    exact sound.depart unknown (sound.idle_of_absent absent)

theorem progress (sound : r.Sound) (w : World) (n : Nat) {step : String -> Load -> Load × World} (final : Final step) :
    (r.progress w n step).1.Sound := by
  rcases r.progress_cases w n final with same | ⟨f, load, found, kept, next⟩
  · rw [same]
    exact sound
  · have outcomes : forall outcome, f.outcome? = some outcome ->
        ({ f with load } : Flight).outcome? = some outcome := by
      intro outcome ended
      exact Flight.outcome?_eq_some_iff.mpr (kept outcome ended)
    rw [next]
    constructor
    · have queue : .settle ∉ f.due.tail := sound.filed.first found
      exact sound.filed.replace (g := { f with load }) found rfl Iff.rfl outcomes queue
    · exact sound.served.replace (g := { f with load }) found rfl outcomes (fun _ => Iff.rfl) r.pending
        (fun _ member => member)

theorem callback (sound : r.Sound) (n : Nat) : (r.callback n).Sound := by
  rcases r.callback_cases n with ⟨same, -⟩ | ⟨f, outcome, due, found, ended, next⟩
  · rw [same]
    exact sound
  · rcases next with ⟨queue, next⟩ | ⟨k, queue, next⟩
    · rw [next]
      refine ⟨sound.filed.settle found ended queue, ?_⟩
      refine sound.served.replace (g := { f with due }) found rfl (fun _ finished => finished) ?_ _ ?_
      · intro m
        simp [queue]
      · intro entry member
        cases outcome with
        | error e => exact member
        | ok v => exact List.mem_cons_of_mem _ member
    · have rest := sound.filed.first found
      rw [queue, List.tail_cons] at rest
      rw [next]
      constructor
      · refine (sound.filed.replace (g := { f with due }) found rfl ?_ (fun _ finished => finished) ?_).ofCalls _
        · simp [Flight.Settled, queue]
        · exact fun member => rest (List.mem_of_mem_tail member)
      · exact sound.served.wake found ended queue

theorem act (sound : r.Sound) (s : Sources) (w : World) (action : Action) : (r.act s w action).1.Sound := by
  cases action with
  | call u => exact sound.call u
  | advance n => exact sound.progress w n (final_step s w)
  | refuse n => exact sound.progress w n (final_refuse w)
  | callback n => exact sound.callback n

theorem after (sound : r.Sound) (s : Sources) (history : List (World × Action)) : (r.after s history).Sound := by
  induction history generalizing r with
  | nil => exact sound
  | cons taken rest ih => exact ih (sound.act s taken.1 taken.2)

end Sound

/-! ## What lasts -/

/-- The number of loads of a reference that were begun. -/
def loads (r : Resolver) (u : String) : Nat :=
  (r.flights.map Flight.reference).count u

/-- The number of loads of a reference that ended without a schema. -/
def losses (r : Resolver) (u : String) : Nat :=
  r.flights.countP fun f => f.reference = u ∧ f.Fruitless

theorem references_set {l : List Flight} {n : Nat} {f g : Flight} (found : l[n]? = some f)
    (same : g.reference = f.reference) : (l.set n g).map Flight.reference = l.map Flight.reference := by
  have there : (l.map Flight.reference)[n]? = some g.reference := by
    rw [List.getElem?_map, found, same]
    rfl
  rw [List.map_set]
  apply List.ext_getElem?
  intro i
  rw [getElem?_set_of_found there]
  by_cases last : i = n
  · rw [if_pos last, last, there]
  · rw [if_neg last]

/-- A load begins only with a call for a reference that is neither known nor pending. -/
theorem references_act (s : Sources) (w : World) (action : Action) :
    (r.act s w action).1.flights.map Flight.reference = r.flights.map Flight.reference ∨
      exists u, action = .call u ∧ r.known.lookup u = none ∧
        (forall n f, r.pending.lookup u = some n -> r.flights[n]? ≠ some f) ∧
          (r.act s w action).1 = r.depart u := by
  have progress : forall n {step : String -> Load -> Load × World}, Final step ->
      (r.progress w n step).1.flights.map Flight.reference = r.flights.map Flight.reference := by
    intro n step final
    rcases r.progress_cases w n final with same | ⟨f, load, found, -, next⟩
    · rw [same]
    · rw [next]
      exact references_set (g := { f with load }) found rfl
  cases action with
  | advance n => exact Or.inl (progress n (final_step s w))
  | refuse n => exact Or.inl (progress n (final_refuse w))
  | callback n =>
    left
    rcases r.callback_cases n with ⟨same, -⟩ | ⟨f, outcome, due, found, -, ⟨-, next⟩ | ⟨k, -, next⟩⟩
    · exact congrArg (fun r => r.flights.map Flight.reference) same
    · refine (congrArg (fun r => r.flights.map Flight.reference) next).trans ?_
      exact references_set (g := { f with due }) found rfl
    · refine (congrArg (fun r => r.flights.map Flight.reference) next).trans ?_
      exact references_set (g := { f with due }) found rfl
  | call u =>
    rcases r.call_cases u with ⟨v, -, next⟩ | ⟨-, n, f, -, found, next⟩ | ⟨unknown, absent, next⟩
    · exact Or.inl (congrArg (fun r => r.flights.map Flight.reference) next)
    · left
      refine (congrArg (fun r => r.flights.map Flight.reference) next).trans ?_
      rcases r.join_cases u n f with ⟨outcome, -, joined⟩ | ⟨-, joined⟩
      · rw [joined]
      · rw [joined]
        exact references_set (g := { f with due := f.due ++ [.wake r.calls.length] }) found rfl
    · exact Or.inr ⟨u, rfl, unknown, absent, next⟩

theorem loads_depart (u x : String) : (r.depart u).loads x = r.loads x + if x = u then 1 else 0 := by
  unfold loads depart
  rw [List.map_append, List.count_append, List.map_singleton, List.count_singleton]
  by_cases same : x = u
  · simp [same]
  · simp [same, Ne.symm same]

/-- No step changes a load that has ended. -/
theorem ended_progress {step : String -> Load -> Load × World} (final : Final step) (w : World) (n : Nat) {i : Nat}
    {f : Flight} {outcome : Except Failed Value} (found : r.flights[i]? = some f) (ended : f.outcome? = some outcome) :
    (r.progress w n step).1.flights[i]? = some f := by
  rcases r.progress_cases w n final with same | ⟨g, load, there, kept, next⟩
  · rw [same, found]
  · rw [next]
    rcases same_or_elsewhere found there with ⟨rfl, rfl⟩ | elsewhere
    · rw [kept outcome ended, ← Flight.outcome?_eq_some_iff.mp ended]
      exact found_set found g
    · exact found_set_of_ne elsewhere.symm found _

/-- What is due about a load that has ended is done one after the other. -/
theorem ended_callback (n : Nat) {i : Nat} {f : Flight} {outcome : Except Failed Value} (found : r.flights[i]? = some f)
    (ended : f.outcome? = some outcome) :
    (r.callback n).flights[i]? = some { f with due := f.due.drop (if n = i then 1 else 0) } := by
  rcases r.callback_cases n with ⟨same, nothing⟩ | ⟨g, outcome', due, there, -, done⟩
  · refine (congrArg (fun r => r.flights[i]?) same).trans (found.trans ?_)
    by_cases here : n = i
    · subst here
      rw [if_pos rfl, nothing f outcome found ended, List.drop_nil, ← nothing f outcome found ended]
    · rw [if_neg here, List.drop_zero]
  · have next : (r.callback n).flights = r.flights.set n { g with due } := by
      rcases done with ⟨-, next⟩ | ⟨k, -, next⟩ <;> rw [next] <;> rfl
    have queue : exists next, g.due = next :: due := by
      rcases done with ⟨queue, -⟩ | ⟨k, queue, -⟩
      · exact ⟨_, queue⟩
      · exact ⟨_, queue⟩
    rw [next]
    rcases same_or_elsewhere found there with ⟨rfl, rfl⟩ | elsewhere
    · obtain ⟨first, queue⟩ := queue
      rw [if_pos rfl, queue, List.drop_one, List.tail_cons]
      exact found_set found _
    · rw [if_neg elsewhere, List.drop_zero]
      exact found_set_of_ne elsewhere.symm found _

/-- A call waits only for a load that has not ended. -/
theorem ended_call (u : String) {i : Nat} {f : Flight} {outcome : Except Failed Value} (found : r.flights[i]? = some f)
    (ended : f.outcome? = some outcome) : (r.call u).flights[i]? = some f := by
  rcases r.call_cases u with ⟨v, -, next⟩ | ⟨-, n, g, -, there, next⟩ | ⟨-, -, next⟩
  · rw [next]
    exact found
  · rw [next]
    rcases r.join_cases u n g with ⟨outcome', -, joined⟩ | ⟨unfinished, joined⟩
    · rw [joined, found]
    · rw [joined]
      rcases same_or_elsewhere found there with ⟨rfl, rfl⟩ | elsewhere
      · rw [ended] at unfinished
        cases unfinished
      · exact found_set_of_ne elsewhere.symm found _
  · rw [next]
    exact (List.getElem?_append_left (List.getElem?_eq_some_iff.mp found).1).trans found

/-- A load that has ended stays as it is, but for what was done about it. -/
theorem ended_act (s : Sources) (w : World) (action : Action) {i : Nat} {f : Flight} {outcome : Except Failed Value}
    (found : r.flights[i]? = some f) (ended : f.outcome? = some outcome) :
    (r.act s w action).1.flights[i]? =
      some { f with due := f.due.drop (if action = .callback i then 1 else 0) } := by
  cases action with
  | advance n => exact ended_progress (final_step s w) w n found ended
  | refuse n => exact ended_progress (final_refuse w) w n found ended
  | callback n =>
    simp only [Action.callback.injEq]
    exact ended_callback n found ended
  | call u => exact ended_call u found ended

/-- A load that has ended stays as it is through a history, but for what was done about it. -/
theorem ended_after (s : Sources) (history : List (World × Action)) {i : Nat} {f : Flight}
    {outcome : Except Failed Value} (found : r.flights[i]? = some f) (ended : f.outcome? = some outcome) :
    (r.after s history).flights[i]? =
      some { f with due := f.due.drop ((history.map Prod.snd).count (.callback i)) } := by
  induction history generalizing r f with
  | nil => exact found
  | cons taken rest ih =>
    have first := ended_act s taken.1 taken.2 found ended
    have later := ih (r := (r.act s taken.1 taken.2).1) first ended
    refine later.trans ?_
    rw [List.drop_drop, List.map_cons, List.count_cons]
    simp only [beq_iff_eq, Nat.add_comm]

/-- A call stays what it is, but for its answer. -/
theorem calls_act (s : Sources) (w : World) (action : Action) {k : Nat} {c : Call} (there : r.calls[k]? = some c) :
    exists c', (r.act s w action).1.calls[k]? = some c' ∧ c'.reference = c.reference ∧ c'.flight = c.flight := by
  have inside : k < r.calls.length := (List.getElem?_eq_some_iff.mp there).1
  have progress : forall n {step : String -> Load -> Load × World}, Final step ->
      (r.progress w n step).1.calls[k]? = some c := by
    intro n step final
    rcases r.progress_cases w n final with same | ⟨g, load, -, -, next⟩
    · rw [same, there]
    · rw [next, there]
  cases action with
  | advance n => exact ⟨c, progress n (final_step s w), rfl, rfl⟩
  | refuse n => exact ⟨c, progress n (final_refuse w), rfl, rfl⟩
  | callback n =>
    rcases r.callback_cases n with ⟨same, -⟩ | ⟨f, outcome, due, -, -, ⟨-, next⟩ | ⟨m, -, next⟩⟩
    · exact ⟨c, (congrArg (fun r => r.calls[k]?) same).trans there, rfl, rfl⟩
    · exact ⟨c, (congrArg (fun r => r.calls[k]?) next).trans there, rfl, rfl⟩
    · have modified : (r.callback n).calls[k]? =
          some (if m = k then { c with answer := some outcome } else c) := by
        refine (congrArg (fun r => r.calls[k]?) next).trans ?_
        refine (List.getElem?_modify ..).trans ?_
        rw [there]
        by_cases same : m = k
        · simp [same]
        · simp [same]
      refine ⟨_, modified, ?_⟩
      by_cases same : m = k
      · rw [if_pos same]
        exact ⟨rfl, rfl⟩
      · rw [if_neg same]
        exact ⟨rfl, rfl⟩
  | call u =>
    refine ⟨c, ?_, rfl, rfl⟩
    have appended : exists new, (r.call u).calls = r.calls ++ [new] := by
      rcases r.call_cases u with ⟨v, -, next⟩ | ⟨-, n, f, -, -, next⟩ | ⟨-, -, next⟩
      · exact ⟨_, congrArg Resolver.calls next⟩
      · rcases r.join_cases u n f with ⟨outcome, -, joined⟩ | ⟨-, joined⟩
        · exact ⟨_, congrArg Resolver.calls (next.trans joined)⟩
        · exact ⟨_, congrArg Resolver.calls (next.trans joined)⟩
      · exact ⟨_, congrArg Resolver.calls next⟩
    obtain ⟨new, next⟩ := appended
    refine (congrArg (fun l => l[k]?) next).trans ?_
    exact (List.getElem?_append_left inside).trans there

theorem calls_after (s : Sources) (history : List (World × Action)) {k : Nat} {c : Call}
    (there : r.calls[k]? = some c) :
    exists c', (r.after s history).calls[k]? = some c' ∧ c'.reference = c.reference ∧ c'.flight = c.flight := by
  induction history generalizing r c with
  | nil => exact ⟨c, there, rfl, rfl⟩
  | cons taken rest ih =>
    obtain ⟨middle, atMiddle, reference, flight⟩ := calls_act s taken.1 taken.2 there
    obtain ⟨last, atLast, reference', flight'⟩ := ih atMiddle
    exact ⟨last, atLast, reference'.trans reference, flight'.trans flight⟩

end Resolver

end SchemaLint
