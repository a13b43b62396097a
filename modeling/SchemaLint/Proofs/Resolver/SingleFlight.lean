import SchemaLint.Proofs.Resolver.Actions

/-!
# One load at a time

Calls of one reference share a load as long as it is pending, and a schema that was loaded is never loaded again.  Both
hold in every state that a resolver can come to, because every action keeps its files in order, and from such a state
they hold for everything that can happen later.
-/

namespace SchemaLint

open Json (Value)

namespace Resolver

variable {r : Resolver} {u : String}

/-- What holds of the loads and the calls of a resolver, now and whatever happens to it from now on. -/
structure SingleFlight (s : Sources) (r : Resolver) : Prop where
  /-- At most one load of a reference has not ended. -/
  oneUnfinished : forall {i j : Nat} {f g : Flight}, r.flights[i]? = some f -> r.flights[j]? = some g ->
    f.reference = g.reference -> f.outcome? = none -> g.outcome? = none -> i = j
  /-- To settle a load takes its own entry off the pending ones, and no other. -/
  ownEntry : forall {i : Nat} {f : Flight} {outcome : Except Failed Value} {due : List Callback},
    r.flights[i]? = some f -> f.outcome? = some outcome -> f.due = .settle :: due ->
      (f.reference, i) ∈ r.pending ∧
        forall entry, entry ∈ (r.callback i).pending <-> entry ∈ r.pending ∧ entry ≠ (f.reference, i)
  /-- Once a load has ended with a schema, no other load of its reference begins. -/
  lastLoad : forall {i : Nat} {f : Flight} {v : Value}, r.flights[i]? = some f -> f.outcome? = some (.ok v) ->
    forall history, (r.after s history).loads f.reference = r.loads f.reference
  /-- Once a load has ended with a schema, every call for its reference that returns a schema returns this one. -/
  oneSchema : forall {i : Nat} {f : Flight} {v : Value}, r.flights[i]? = some f -> f.outcome? = some (.ok v) ->
    forall history {c : Call} {w : Value}, c ∈ (r.after s history).calls -> c.reference = f.reference ->
      c.answer = some (.ok w) -> w = v
  /-- A schema is known for a reference just if a load of it has ended with it and was settled; a load that ended without
  one leaves none. -/
  known : forall u v, r.known.lookup u = some v <->
    exists (i : Nat) (f : Flight), r.flights[i]? = some f ∧ f.reference = u ∧ f.Settled ∧ f.outcome? = some (.ok v)
  /-- What is known for a reference never changes. -/
  knownForever : forall {u v}, r.known.lookup u = some v ->
    forall history, (r.after s history).known.lookup u = some v
  /-- A call for a reference of which a load is pending belongs to that load. -/
  joins : forall {u : String} {i : Nat}, (u, i) ∈ r.pending ->
    exists c, (r.call u).calls = r.calls ++ [c] ∧ c.reference = u ∧ c.flight = some i
  /-- A call that belongs to a load that has ended gets the outcome of it and nothing else, at the latest when all that is
  due about the load has been done. -/
  shared : forall {i k : Nat} {f : Flight} {c : Call} {outcome : Except Failed Value}, r.flights[i]? = some f ->
    f.outcome? = some outcome -> r.calls[k]? = some c -> c.flight = some i ->
      forall history, exists c', (r.after s history).calls[k]? = some c' ∧
        (c'.answer = none ∨ c'.answer = some outcome) ∧
          (f.due.length <= (history.map Prod.snd).count (.callback i) -> c'.answer = some outcome)
  /-- A call begins a load just if all loads of its reference were settled without a schema.  It begins one at most, and
  none of another reference. -/
  begins : forall u,
    ((r.call u).loads u = r.loads u + 1 <->
        forall f, f ∈ r.flights -> f.reference = u -> f.Settled ∧ f.Fruitless) ∧
      (r.call u).loads u <= r.loads u + 1 ∧ forall x, x ≠ u -> (r.call u).loads x = r.loads x
  /-- All loads of a reference but one have ended without a schema. -/
  bounded : forall u, r.loads u <= 1 + r.losses u

namespace Sound

/-- A load that has not ended, or has ended with a schema, is the last one of its reference. -/
theorem no_other (sound : r.Sound) {i j : Nat} {f g : Flight} (left : r.flights[i]? = some f)
    (right : r.flights[j]? = some g) (same : f.reference = g.reference)
    (leftLast : ¬ f.Fruitless) (rightLast : ¬ g.Fruitless) : i = j :=
  sound.filed.same_of_last left right same (fun last => leftLast last.2) (fun last => rightLast last.2)

theorem not_fruitless_of_none {f : Flight} (unfinished : f.outcome? = none) : ¬ f.Fruitless := by
  rintro ⟨e, failed⟩
  rw [unfinished] at failed
  cases failed

theorem ownEntry (sound : r.Sound) {i : Nat} {f : Flight} {outcome : Except Failed Value} {due : List Callback}
    (found : r.flights[i]? = some f) (ended : f.outcome? = some outcome) (queue : f.due = .settle :: due) :
    (f.reference, i) ∈ r.pending ∧
      forall entry, entry ∈ (r.callback i).pending <-> entry ∈ r.pending ∧ entry ≠ (f.reference, i) := by
  have waiting : ¬ f.Settled := fun finished => finished (queue ▸ List.mem_cons_self ..)
  have settled : (r.callback i).pending = r.pending.filter fun entry => entry.1 != f.reference := by
    unfold Resolver.callback
    simp [found, ended, queue, Resolver.settle]
  refine ⟨(sound.filed.pending f.reference i).mpr ⟨f, found, rfl, waiting⟩, ?_⟩
  rintro ⟨x, j⟩
  rw [settled, List.mem_filter, bne_iff_ne]
  constructor
  · rintro ⟨member, other⟩
    exact ⟨member, fun same => other (Prod.mk.inj same).1⟩
  · rintro ⟨member, other⟩
    refine ⟨member, fun same => other ?_⟩
    obtain ⟨g, there, reference, still⟩ := (sound.filed.pending x j).mp member
    have last : j = i :=
      sound.filed.same_of_last there found (reference.trans same)
        (fun finished => still finished.1) (fun finished => waiting finished.1)
    exact Prod.ext same last

/-- A call for a reference that has a load with a schema, or one that is not settled, begins none. -/
theorem loads_act_of_last (sound : r.Sound) (s : Sources) (w : World) (action : Action) {i : Nat} {f : Flight}
    (found : r.flights[i]? = some f) (last : ¬ (f.Settled ∧ f.Fruitless)) :
    (r.act s w action).1.loads f.reference = r.loads f.reference := by
  rcases references_act (r := r) s w action with same | ⟨x, -, unknown, absent, next⟩
  · exact congrArg (List.count f.reference) same
  · have other : f.reference ≠ x := by
      intro same
      exact last (sound.filed.fruitless_of_absent unknown (sound.idle_of_absent absent) found same)
    rw [next, loads_depart, if_neg other, Nat.add_zero]

theorem loads_after_of_ok (sound : r.Sound) (s : Sources) (history : List (World × Action)) {i : Nat} {f : Flight}
    {v : Value} (found : r.flights[i]? = some f) (ok : f.outcome? = some (.ok v)) :
    (r.after s history).loads f.reference = r.loads f.reference := by
  induction history generalizing r f with
  | nil => rfl
  | cons taken rest ih =>
    have still := ended_act s taken.1 taken.2 found ok
    have later := ih (sound.act s taken.1 taken.2) still ok
    have now := sound.loads_act_of_last s taken.1 taken.2 found (fun last => last.2.not_ok ok)
    exact later.trans now

/-- A call that returned a schema returned that of a load. -/
theorem exists_of_answer (sound : r.Sound) {c : Call} {outcome : Except Failed Value} (member : c ∈ r.calls)
    (answered : c.answer = some outcome) :
    exists (j : Nat) (g : Flight), r.flights[j]? = some g ∧ g.reference = c.reference ∧ g.outcome? = some outcome := by
  obtain ⟨k, there⟩ := List.getElem?_of_mem member
  cases belongs : c.flight with
  | none =>
    obtain ⟨v, known, entry⟩ := sound.served.fromKnown there belongs
    have same : .ok v = outcome := Option.some.inj (known.symm.trans answered)
    obtain ⟨j, g, found, reference, -, ok⟩ := (sound.filed.known c.reference v).mp entry
    exact ⟨j, g, found, reference, same ▸ ok⟩
  | some j =>
    obtain ⟨g, found, reference, state⟩ := sound.served.fromFlight there belongs
    refine ⟨j, g, found, reference, ?_⟩
    rcases state with ⟨waiting, -⟩ | ⟨outcome', given, ended⟩
    · rw [waiting] at answered
      cases answered
    · exact ended.trans (given.symm.trans answered)

theorem oneSchema (sound : r.Sound) (s : Sources) {i : Nat} {f : Flight} {v : Value} (found : r.flights[i]? = some f)
    (ok : f.outcome? = some (.ok v)) (history : List (World × Action)) {c : Call} {w : Value}
    (member : c ∈ (r.after s history).calls) (same : c.reference = f.reference) (answered : c.answer = some (.ok w)) :
    w = v := by
  have still := ended_after s history found ok
  have later := sound.after s history
  obtain ⟨j, g, there, reference, also⟩ := later.exists_of_answer member answered
  have last : j = i :=
    later.no_other there still (reference.trans same) (fun fruitless => fruitless.not_ok also)
      (fun fruitless => fruitless.not_ok ok)
  subst last
  have equal := Option.some.inj (there.symm.trans still)
  rw [equal] at also
  exact Except.ok.inj (Option.some.inj (also.symm.trans ok))

theorem lookup_known_iff (sound : r.Sound) (u : String) (v : Value) :
    r.known.lookup u = some v <->
      exists (i : Nat) (f : Flight), r.flights[i]? = some f ∧ f.reference = u ∧ f.Settled ∧
        f.outcome? = some (.ok v) :=
  sound.filed.lookup_known_eq_some_iff.trans (sound.filed.known u v)

theorem known_after (sound : r.Sound) (s : Sources) {v : Value} (known : r.known.lookup u = some v)
    (history : List (World × Action)) : (r.after s history).known.lookup u = some v := by
  obtain ⟨i, f, found, reference, settled, ok⟩ := (sound.lookup_known_iff u v).mp known
  refine ((sound.after s history).lookup_known_iff u v).mpr ?_
  refine ⟨i, _, ended_after s history found ok, reference, ?_, ok⟩
  exact fun member => settled (List.mem_of_mem_drop member)

theorem joins (sound : r.Sound) {i : Nat} (pending : (u, i) ∈ r.pending) :
    exists c, (r.call u).calls = r.calls ++ [c] ∧ c.reference = u ∧ c.flight = some i := by
  obtain ⟨f, found, reference, waiting⟩ := (sound.filed.pending u i).mp pending
  rcases r.call_cases u with ⟨v, known, -⟩ | ⟨-, n, g, first, there, next⟩ | ⟨unknown, absent, -⟩
  · -- A load that ended with a schema would be the last one, and so would be the one that is pending.
    obtain ⟨j, g, there, reference', settled, ok⟩ := (sound.lookup_known_iff u v).mp known
    have same : j = i := sound.filed.same_of_last there found (reference'.trans reference.symm)
      (fun last => last.2.not_ok ok) (fun last => waiting last.1)
    subst same
    cases there.symm.trans found
    exact absurd settled waiting
  · obtain ⟨g', there', reference', waiting'⟩ := (sound.filed.pending u n).mp (Filed.mem_of_lookup_pending first)
    have same : n = i := sound.filed.same_of_last there' found (reference'.trans reference.symm)
      (fun last => waiting' last.1) (fun last => waiting last.1)
    subst same
    rcases r.join_cases u n g with ⟨outcome, -, joined⟩ | ⟨-, joined⟩
    · exact ⟨_, by rw [next, joined], rfl, rfl⟩
    · exact ⟨_, by rw [next, joined], rfl, rfl⟩
  · have settled := sound.filed.fruitless_of_absent unknown (sound.idle_of_absent absent) found reference
    exact absurd settled.1 waiting

theorem shared (sound : r.Sound) (s : Sources) {i k : Nat} {f : Flight} {c : Call} {outcome : Except Failed Value}
    (found : r.flights[i]? = some f) (ended : f.outcome? = some outcome) (there : r.calls[k]? = some c)
    (belongs : c.flight = some i) (history : List (World × Action)) :
    exists c', (r.after s history).calls[k]? = some c' ∧ (c'.answer = none ∨ c'.answer = some outcome) ∧
      (f.due.length <= (history.map Prod.snd).count (.callback i) -> c'.answer = some outcome) := by
  obtain ⟨c', there', -, belongs'⟩ := calls_after s history there
  have still := ended_after s history found ended
  obtain ⟨g, found', -, state⟩ := (sound.after s history).served.fromFlight there' (belongs'.trans belongs)
  have equal := Option.some.inj (found'.symm.trans still)
  refine ⟨c', there', ?_⟩
  rcases state with ⟨waiting, due⟩ | ⟨outcome', answered, ended'⟩
  · refine ⟨Or.inl waiting, fun enough => ?_⟩
    rw [equal, List.drop_eq_nil_of_le enough] at due
    cases due
  · have same : some outcome' = some outcome := by
      rw [equal] at ended'
      exact ended'.symm.trans ended
    rw [answered, same]
    exact ⟨Or.inr rfl, fun _ => rfl⟩

theorem begins (sound : r.Sound) (u : String) :
    ((r.call u).loads u = r.loads u + 1 <->
        forall f, f ∈ r.flights -> f.reference = u -> f.Settled ∧ f.Fruitless) ∧
      (r.call u).loads u <= r.loads u + 1 ∧ forall x, x ≠ u -> (r.call u).loads x = r.loads x := by
  rcases r.call_cases u with ⟨v, known, next⟩ | ⟨-, n, f, pending, found, next⟩ | ⟨unknown, absent, next⟩
  · have same : forall x, (r.call u).loads x = r.loads x := fun x => congrArg (fun r => r.loads x) next
    refine ⟨⟨fun more => ?_, fun all => ?_⟩, ?_, fun x _ => same x⟩
    · rw [same u] at more
      omega
    · obtain ⟨i, f, found, reference, -, ok⟩ := (sound.lookup_known_iff u v).mp known
      exact absurd ok (all f (List.mem_of_getElem? found) reference).2.not_ok
    · rw [same u]
      omega
  · obtain ⟨g, there, reference, waiting⟩ := (sound.filed.pending u n).mp (Filed.mem_of_lookup_pending pending)
    have same : forall x, (r.call u).loads x = r.loads x := by
      intro x
      refine (congrArg (fun r => r.loads x) next).trans ?_
      rcases r.join_cases u n f with ⟨outcome, -, joined⟩ | ⟨-, joined⟩
      · rw [joined]
        rfl
      · rw [joined]
        exact congrArg (List.count x)
          (references_set (g := { f with due := f.due ++ [.wake r.calls.length] }) found rfl)
    refine ⟨⟨fun more => ?_, fun all => ?_⟩, ?_, fun x _ => same x⟩
    · rw [same u] at more
      omega
    · exact absurd (all g (List.mem_of_getElem? there) reference).1 waiting
    · rw [same u]
      omega
  · have one : (r.call u).loads u = r.loads u + 1 := by
      rw [next, loads_depart, if_pos rfl]
    refine ⟨⟨fun _ f member reference => ?_, fun _ => one⟩, Nat.le_of_eq one, fun x other => ?_⟩
    · obtain ⟨i, found⟩ := List.getElem?_of_mem member
      exact sound.filed.fruitless_of_absent unknown (sound.idle_of_absent absent) found reference
    · rw [next, loads_depart, if_neg other, Nat.add_zero]

/-- If all loads of a reference but the last one were in vain, then at most one was not. -/
theorem count_le_of_pairwise {l : List Flight}
    (earlier : l.Pairwise fun f g => f.reference = g.reference -> f.Fruitless) (u : String) :
    (l.map Flight.reference).count u <= 1 + l.countP fun f => f.reference = u ∧ f.Fruitless := by
  induction l with
  | nil => exact Nat.zero_le _
  | cons f rest ih =>
    obtain ⟨head, tail⟩ := List.pairwise_cons.mp earlier
    have less := ih tail
    rw [List.map_cons, List.count_cons, List.countP_cons]
    by_cases own : f.reference = u
    · by_cases vain : f.Fruitless
      · simp only [own, vain, beq_self_eq_true, and_self, decide_true, if_true]
        omega
      · have absent : u ∉ rest.map Flight.reference := by
          intro member
          obtain ⟨g, inside, reference⟩ := List.mem_map.mp member
          exact vain (head g inside (own.trans reference.symm))
        simp only [List.count_eq_zero.mpr absent, own, beq_self_eq_true, if_true]
        omega
    · simp only [own, beq_eq_false_iff_ne.mpr own, false_and, decide_false]
      omega

theorem bounded (sound : r.Sound) (u : String) : r.loads u <= 1 + r.losses u := by
  refine count_le_of_pairwise (List.pairwise_iff_getElem.mpr ?_) u
  intro i j insideLeft insideRight before same
  exact (sound.filed.earlier before (List.getElem?_eq_getElem insideLeft) (List.getElem?_eq_getElem insideRight) same).2

theorem singleFlight (sound : r.Sound) (s : Sources) : SingleFlight s r where
  oneUnfinished := fun left right same leftOpen rightOpen =>
    sound.no_other left right same (not_fruitless_of_none leftOpen) (not_fruitless_of_none rightOpen)
  ownEntry := sound.ownEntry
  lastLoad := fun found ok history => sound.loads_after_of_ok s history found ok
  oneSchema := fun found ok history => sound.oneSchema s found ok history
  known := sound.lookup_known_iff
  knownForever := fun known history => sound.known_after s known history
  joins := sound.joins
  shared := fun found ended there belongs history => sound.shared s found ended there belongs history
  begins := sound.begins
  bounded := sound.bounded

end Sound

/-- In every order in which calls, steps of loads, refusals of the disk and callbacks can come, and whatever the world is
like at each of them, there is one load at a time for each reference, and none after one that ended with a schema. -/
theorem singleFlight_after (s : Sources) (history : List (World × Action)) : SingleFlight s (fresh.after s history) :=
  (Sound.fresh.after s history).singleFlight s

end Resolver

end SchemaLint
