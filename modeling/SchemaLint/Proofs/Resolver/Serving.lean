import SchemaLint.Proofs.Resolver.Filing

/-!
# What calls get

A call either found a known schema and was answered at once, or it belongs to a load.  A call that belongs to a load
waits to be woken by it or has its outcome, and a load wakes no calls but its own.  Together with the files this is kept
by every action, hence by every history.
-/

namespace SchemaLint

open Json (Value)

namespace Resolver

variable {r : Resolver}

/-- Every call waits for its load or has the outcome of it. -/
structure Served (r : Resolver) : Prop where
  fromKnown : forall {k : Nat} {c : Call}, r.calls[k]? = some c -> c.flight = none ->
    exists v, c.answer = some (.ok v) ∧ (c.reference, v) ∈ r.known
  fromFlight : forall {k i : Nat} {c : Call}, r.calls[k]? = some c -> c.flight = some i ->
    exists f : Flight, r.flights[i]? = some f ∧ f.reference = c.reference ∧
      (c.answer = none ∧ .wake k ∈ f.due ∨ exists outcome, c.answer = some outcome ∧ f.outcome? = some outcome)
  woken : forall {i k : Nat} {f : Flight}, r.flights[i]? = some f -> .wake k ∈ f.due ->
    exists c : Call, r.calls[k]? = some c ∧ c.flight = some i

/-- The files are in order, and so are the calls. -/
structure Sound (r : Resolver) : Prop where
  filed : r.Filed
  served : r.Served

namespace Served

variable {n : Nat} {f g : Flight} {u : String} {v : Value}

theorem fresh : Resolver.fresh.Served where
  fromKnown := by simp [Resolver.fresh]
  fromFlight := by simp [Resolver.fresh]
  woken := by simp [Resolver.fresh]

/-- A load may change, and more schemas may become known, if the load keeps its outcome and the calls that it wakes. -/
theorem replace (served : r.Served) (found : r.flights[n]? = some f) (reference : g.reference = f.reference)
    (kept : forall outcome, f.outcome? = some outcome -> g.outcome? = some outcome)
    (wakes : forall k, .wake k ∈ g.due <-> .wake k ∈ f.due) {known : List (String × Value)}
    (pending : List (String × Nat)) (grown : forall entry, entry ∈ r.known -> entry ∈ known) :
    (⟨known, pending, r.flights.set n g, r.calls⟩ : Resolver).Served where
  fromKnown := by
    intro k c there direct
    obtain ⟨v, answered, member⟩ := served.fromKnown there direct
    exact ⟨v, answered, grown _ member⟩
  fromFlight := by
    intro k i c there belongs
    obtain ⟨h, found', reference', state⟩ := served.fromFlight there belongs
    rcases same_or_elsewhere found found' with ⟨rfl, rfl⟩ | elsewhere
    · refine ⟨g, found_set found g, reference.trans reference', ?_⟩
      rcases state with ⟨waiting, due⟩ | ⟨outcome, answered, ended⟩
      · exact Or.inl ⟨waiting, (wakes k).mpr due⟩
      · exact Or.inr ⟨outcome, answered, kept outcome ended⟩
    · exact ⟨h, found_set_of_ne elsewhere found' g, reference', state⟩
  woken := by
    intro i k h there due
    rcases lookup_set found there with ⟨rfl, rfl⟩ | ⟨-, there⟩
    · exact served.woken found ((wakes k).mp due)
    · exact served.woken there due

/-- A load that has ended may wake the call that is next. -/
theorem wake (served : r.Served) {k : Nat} {due : List Callback} {outcome : Except Failed Value}
    (found : r.flights[n]? = some f) (ended : f.outcome? = some outcome) (queue : f.due = .wake k :: due) :
    (({ r with flights := r.flights.set n { f with due } } : Resolver).answer k outcome).Served := by
  obtain ⟨own, ownThere, ownBelongs⟩ := served.woken found (queue ▸ List.mem_cons_self ..)
  have calls : forall m, (r.calls.modify k fun call => { call with answer := some outcome })[m]? =
      if m = k then some { own with answer := some outcome } else r.calls[m]? := by
    intro m
    rw [List.getElem?_modify]
    by_cases same : m = k
    · subst same
      simp [ownThere]
    · simp [same, Ne.symm same]
  have kept : forall {m c}, (r.calls.modify k fun call => { call with answer := some outcome })[m]? = some c ->
      (m = k ∧ c = { own with answer := some outcome }) ∨ (m ≠ k ∧ r.calls[m]? = some c) := by
    intro m c there
    rw [calls m] at there
    by_cases same : m = k
    · rw [if_pos same] at there
      exact Or.inl ⟨same, (Option.some.inj there).symm⟩
    · rw [if_neg same] at there
      exact Or.inr ⟨same, there⟩
  refine ⟨?fromKnown, ?fromFlight, ?woken⟩
  case fromKnown =>
    intro m c there direct
    rcases kept there with ⟨-, rfl⟩ | ⟨-, there⟩
    · rw [ownBelongs] at direct
      cases direct
    · exact served.fromKnown there direct
  case fromFlight =>
    intro m i c there belongs
    rcases kept there with ⟨rfl, rfl⟩ | ⟨other, there⟩
    · have same : n = i := Option.some.inj (ownBelongs.symm.trans belongs)
      subst same
      obtain ⟨h, found', reference, -⟩ := served.fromFlight ownThere ownBelongs
      have equal : h = f := Option.some.inj (found'.symm.trans found)
      subst equal
      exact ⟨{ h with due }, found_set found _, reference, Or.inr ⟨outcome, rfl, ended⟩⟩
    · obtain ⟨h, found', reference, state⟩ := served.fromFlight there belongs
      rcases same_or_elsewhere found found' with ⟨rfl, rfl⟩ | elsewhere
      · refine ⟨{ h with due }, found_set found _, reference, ?_⟩
        rcases state with ⟨waiting, member⟩ | answered
        · rw [queue, List.mem_cons] at member
          rcases member with next | later
          · exact absurd (Callback.wake.inj next) other
          · exact Or.inl ⟨waiting, later⟩
        · exact Or.inr answered
      · exact ⟨h, found_set_of_ne elsewhere found' _, reference, state⟩
  case woken =>
    intro i m h there member
    have before : exists c : Call, r.calls[m]? = some c ∧ c.flight = some i := by
      rcases lookup_set found there with ⟨rfl, rfl⟩ | ⟨-, there⟩
      · exact served.woken found (queue ▸ List.mem_cons_of_mem _ member)
      · exact served.woken there member
    obtain ⟨c, there', belongs⟩ := before
    by_cases same : m = k
    · subst same
      have equal : c = own := Option.some.inj (there'.symm.trans ownThere)
      subst equal
      exact ⟨{ c with answer := some outcome }, (calls m).trans (if_pos rfl), belongs⟩
    · exact ⟨c, (calls m).trans ((if_neg same).trans there'), belongs⟩

/-- A call may come that is answered at once, with a known schema or with the outcome of a load. -/
theorem answered (served : r.Served) {c : Call}
    (direct : c.flight = none -> exists v, c.answer = some (.ok v) ∧ (c.reference, v) ∈ r.known)
    (shared : forall i, c.flight = some i -> exists f : Flight, r.flights[i]? = some f ∧ f.reference = c.reference ∧
      exists outcome, c.answer = some outcome ∧ f.outcome? = some outcome) :
    ({ r with calls := r.calls ++ [c] } : Resolver).Served where
  fromKnown := by
    intro k d there none
    rcases lookup_concat there with ⟨-, there⟩ | ⟨-, rfl⟩
    · exact served.fromKnown there none
    · exact direct none
  fromFlight := by
    intro k i d there belongs
    rcases lookup_concat there with ⟨-, there⟩ | ⟨-, rfl⟩
    · exact served.fromFlight there belongs
    · obtain ⟨f, found, reference, state⟩ := shared i belongs
      exact ⟨f, found, reference, Or.inr state⟩
  woken := by
    intro i k f found due
    obtain ⟨d, there, belongs⟩ := served.woken found due
    have inside : k < r.calls.length := (List.getElem?_eq_some_iff.mp there).1
    exact ⟨d, (List.getElem?_append_left inside).trans there, belongs⟩

/-- A call may come that waits for a load, be the load an old one or a new one. -/
theorem waiting (served : r.Served) {flights : List Flight} (pending : List (String × Nat))
    (found : flights[n]? = some g) (reference : g.reference = u) (due : .wake r.calls.length ∈ g.due)
    (others : forall {i f}, i ≠ n -> (flights[i]? = some f <-> r.flights[i]? = some f))
    (kept : forall {f}, r.flights[n]? = some f -> g.reference = f.reference ∧
      (forall outcome, f.outcome? = some outcome -> g.outcome? = some outcome) ∧
        forall k, .wake k ∈ f.due -> .wake k ∈ g.due)
    (own : forall k, .wake k ∈ g.due -> k = r.calls.length ∨ exists f, r.flights[n]? = some f ∧ .wake k ∈ f.due) :
    (⟨r.known, pending, flights, r.calls ++ [⟨u, some n, none⟩]⟩ : Resolver).Served where
  fromKnown := by
    intro k c there direct
    rcases lookup_concat there with ⟨-, there⟩ | ⟨-, rfl⟩
    · exact served.fromKnown there direct
    · cases direct
  fromFlight := by
    intro k i c there belongs
    rcases lookup_concat there with ⟨-, there⟩ | ⟨rfl, rfl⟩
    · obtain ⟨f, found', reference', state⟩ := served.fromFlight there belongs
      by_cases same : i = n
      · subst same
        obtain ⟨sameReference, outcomes, wakes⟩ := kept found'
        refine ⟨g, found, sameReference.trans reference', ?_⟩
        rcases state with ⟨still, member⟩ | ⟨outcome, got, ended⟩
        · exact Or.inl ⟨still, wakes k member⟩
        · exact Or.inr ⟨outcome, got, outcomes outcome ended⟩
      · exact ⟨f, (others same).mpr found', reference', state⟩
    · have same : n = i := Option.some.inj belongs
      subst same
      exact ⟨g, found, reference, Or.inl ⟨rfl, due⟩⟩
  woken := by
    intro i k f there member
    have old : forall {h : Flight}, r.flights[i]? = some h -> .wake k ∈ h.due ->
        exists c : Call, (r.calls ++ [⟨u, some n, none⟩])[k]? = some c ∧ c.flight = some i := by
      intro h before member
      obtain ⟨c, there, belongs⟩ := served.woken before member
      have inside : k < r.calls.length := (List.getElem?_eq_some_iff.mp there).1
      exact ⟨c, (List.getElem?_append_left inside).trans there, belongs⟩
    rcases same_or_elsewhere found there with ⟨rfl, rfl⟩ | elsewhere
    · rcases own k member with rfl | ⟨h, before, member⟩
      · exact ⟨⟨u, some i, none⟩, List.getElem?_concat_length .., rfl⟩
      · exact old before member
    · exact old ((others elsewhere).mp there) member

end Served

end Resolver

end SchemaLint
