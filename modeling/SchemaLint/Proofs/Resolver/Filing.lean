import Mathlib.Data.List.Basic
import SchemaLint.Resolver.Basic

/-!
# What a resolver has on file

A history is a list of actions, each with the world in which it was taken: between two actions anything may happen to
disk and network, so that nothing here depends on what a load finds.

What a resolver knows and what it takes for pending are determined by its loads.  A load is pending until it is settled,
a schema is known if a settled load ended with it, and of several loads of one reference all but the last were settled
without a schema.  Each kind of action keeps this, in whatever order the actions come.
-/

namespace SchemaLint

open Json (Value)

namespace Resolver

variable {r : Resolver}

/-! ## Loads that have ended -/

namespace Flight

/-- The load was taken off the pending ones. -/
def Settled (f : Flight) : Prop :=
  .settle ∉ f.due

/-- The load ended without a schema. -/
def Fruitless (f : Flight) : Prop :=
  exists e, f.outcome? = some (.error e)

theorem Fruitless.not_ok {f : Flight} {v : Value} (fruitless : f.Fruitless) : f.outcome? ≠ some (.ok v) := by
  obtain ⟨e, failed⟩ := fruitless
  intro found
  rw [failed] at found
  cases found

instance (f : Flight) : Decidable f.Fruitless :=
  match h : f.outcome? with
  | some (.error e) => isTrue ⟨e, h⟩
  | some (.ok _) => isFalse fun fruitless => fruitless.not_ok h
  | none => isFalse fun ⟨_, failed⟩ => by rw [h] at failed; cases failed

theorem outcome?_eq_some_iff {f : Flight} {outcome : Except Failed Value} :
    f.outcome? = some outcome <-> f.load = .ended outcome := by
  obtain ⟨reference, load, due⟩ := f
  cases load <;> simp [outcome?]

end Flight

/-- A step of a load that has ended changes nothing. -/
def Final (step : String -> Load -> Load × World) : Prop :=
  forall reference outcome, (step reference (.ended outcome)).1 = .ended outcome

theorem final_step (s : Sources) (w : World) : Final fun reference load => load.step s reference w :=
  fun _ _ => rfl

theorem final_refuse (w : World) : Final fun _ load => load.refuse w :=
  fun _ _ => rfl

/-! ## Histories -/

/-- The resolver after a history. -/
def after (s : Sources) (r : Resolver) : List (World × Action) -> Resolver
  | [] => r
  | (w, action) :: rest => after s (r.act s w action).1 rest

/-- A run of actions is a history: the world of each action is the one that the action before it left. -/
theorem exists_after_eq_run (s : Sources) (w : World) (actions : List Action) :
    exists history, history.map Prod.snd = actions ∧ r.after s history = (r.run s w actions).1 := by
  induction actions generalizing r w with
  | nil => exact ⟨[], rfl, rfl⟩
  | cons action rest ih =>
      obtain ⟨history, taken, same⟩ := ih (r := (r.act s w action).1) (r.act s w action).2
      exact ⟨(w, action) :: history, congrArg (action :: ·) taken, same⟩

theorem getElem?_set_of_found {α : Type} {l : List α} {n : Nat} {a : α} (found : l[n]? = some a) (b : α) (i : Nat) :
    (l.set n b)[i]? = if i = n then some b else l[i]? := by
  have inside : n < l.length := (List.getElem?_eq_some_iff.mp found).1
  rw [List.getElem?_set]
  by_cases same : n = i
  · rw [if_pos same, if_pos inside, if_pos same.symm]
  · rw [if_neg same, if_neg (Ne.symm same)]

/-- A load takes the place of one that is there. -/
theorem lookup_set {l : List Flight} {n i : Nat} {f g h : Flight} (found : l[n]? = some f)
    (there : (l.set n g)[i]? = some h) : (i = n ∧ h = g) ∨ (i ≠ n ∧ l[i]? = some h) := by
  rw [getElem?_set_of_found found] at there
  by_cases same : i = n
  · rw [if_pos same] at there
    exact Or.inl ⟨same, (Option.some.inj there).symm⟩
  · rw [if_neg same] at there
    exact Or.inr ⟨same, there⟩

/-- Two things of a list are the same one, or they are at different places. -/
theorem same_or_elsewhere {α : Type} {l : List α} {i n : Nat} {a b : α} (found : l[n]? = some a) (there : l[i]? = some b) :
    (i = n ∧ b = a) ∨ i ≠ n := by
  by_cases same : i = n
  · rw [same, found] at there
    exact Or.inl ⟨same, (Option.some.inj there).symm⟩
  · exact Or.inr same

theorem found_set {l : List Flight} {n : Nat} {f : Flight} (found : l[n]? = some f) (g : Flight) :
    (l.set n g)[n]? = some g := by
  rw [getElem?_set_of_found found, if_pos rfl]

theorem found_set_of_ne {l : List Flight} {i n : Nat} {h : Flight} (elsewhere : i ≠ n) (there : l[i]? = some h)
    (g : Flight) : (l.set n g)[i]? = some h := by
  rw [List.getElem?_set_ne elsewhere.symm, there]

theorem lookup_concat {α : Type} {l : List α} {i : Nat} {a b : α} (there : (l ++ [a])[i]? = some b) :
    (i < l.length ∧ l[i]? = some b) ∨ (i = l.length ∧ b = a) := by
  by_cases inside : i < l.length
  · rw [List.getElem?_append_left inside] at there
    exact Or.inl ⟨inside, there⟩
  · rw [List.getElem?_append_right (Nat.le_of_not_lt inside)] at there
    have short : i - l.length < [a].length := (List.getElem?_eq_some_iff.mp there).1
    have last : i = l.length := by
      rw [List.length_singleton] at short
      omega
    rw [last, Nat.sub_self] at there
    exact Or.inr ⟨last, (Option.some.inj there).symm⟩

/-! ## Loads, what is pending, and what is known -/

theorem mem_pending_settle_iff {u u' : String} {i : Nat} {outcome : Except Failed Value} :
    (u, i) ∈ (r.settle u' outcome).pending <-> (u, i) ∈ r.pending ∧ u ≠ u' := by
  have kept : (r.settle u' outcome).pending = r.pending.filter fun entry => entry.1 != u' := rfl
  rw [kept, List.mem_filter, bne_iff_ne]

theorem mem_known_settle_iff {u u' : String} {v : Value} {outcome : Except Failed Value} :
    (u, v) ∈ (r.settle u' outcome).known <-> (u, v) ∈ r.known ∨ (u = u' ∧ outcome = .ok v) := by
  cases outcome with
  | error e => simp [settle]
  | ok w =>
    simp only [settle, List.mem_cons, Prod.mk.injEq, Except.ok.injEq]
    rw [or_comm, eq_comm (a := v)]

/-- What is pending and what is known agrees with the loads. -/
structure Filed (r : Resolver) : Prop where
  /-- A load is settled before anything else is done about it. -/
  first : forall {i : Nat} {f : Flight}, r.flights[i]? = some f -> .settle ∉ f.due.tail
  /-- A load is not settled before it ends. -/
  ended : forall {i : Nat} {f : Flight}, r.flights[i]? = some f -> f.Settled -> exists outcome, f.outcome? = some outcome
  /-- A load begins only after those of the same reference were settled without a schema. -/
  earlier : forall {i j : Nat} {f g : Flight}, i < j -> r.flights[i]? = some f -> r.flights[j]? = some g ->
    f.reference = g.reference -> f.Settled ∧ f.Fruitless
  pending : forall u i, (u, i) ∈ r.pending <->
    exists f : Flight, r.flights[i]? = some f ∧ f.reference = u ∧ ¬ f.Settled
  known : forall u v, (u, v) ∈ r.known <->
    exists (i : Nat) (f : Flight), r.flights[i]? = some f ∧ f.reference = u ∧ f.Settled ∧ f.outcome? = some (.ok v)

namespace Filed

variable {i j n : Nat} {f g : Flight} {u : String} {v w : Value}

/-- Of all loads of a reference only the last one can be pending or have a schema. -/
theorem same_of_last (filed : r.Filed) (left : r.flights[i]? = some f) (right : r.flights[j]? = some g)
    (same : f.reference = g.reference) (leftLast : ¬ (f.Settled ∧ f.Fruitless))
    (rightLast : ¬ (g.Settled ∧ g.Fruitless)) : i = j := by
  rcases Nat.lt_trichotomy i j with before | equal | behind
  · exact absurd (filed.earlier before left right same) leftLast
  · exact equal
  · exact absurd (filed.earlier behind right left same.symm) rightLast

theorem known_unique (filed : r.Filed) (left : (u, v) ∈ r.known) (right : (u, w) ∈ r.known) : v = w := by
  obtain ⟨i, f, foundLeft, referenceLeft, -, okLeft⟩ := (filed.known u v).mp left
  obtain ⟨j, g, foundRight, referenceRight, -, okRight⟩ := (filed.known u w).mp right
  have same : i = j :=
    filed.same_of_last foundLeft foundRight (referenceLeft.trans referenceRight.symm)
      (fun last => last.2.not_ok okLeft) (fun last => last.2.not_ok okRight)
  subst same
  have equal : f = g := Option.some.inj (foundLeft.symm.trans foundRight)
  rw [equal, okRight] at okLeft
  exact (Except.ok.inj (Option.some.inj okLeft)).symm

theorem lookup_known_eq_some_iff (filed : r.Filed) : r.known.lookup u = some v <-> (u, v) ∈ r.known := by
  constructor
  · intro found
    obtain ⟨before, behind, split, -⟩ := List.lookup_eq_some_iff.mp found
    rw [split]
    exact List.mem_append_right before (List.mem_cons_self ..)
  · intro member
    cases found : r.known.lookup u with
    | none =>
      have absent := List.lookup_eq_none_iff.mp found (u, v) member
      rw [bne_self_eq_false] at absent
      cases absent
    | some w =>
      obtain ⟨before, behind, split, -⟩ := List.lookup_eq_some_iff.mp found
      have other : (u, w) ∈ r.known := by
        rw [split]
        exact List.mem_append_right before (List.mem_cons_self ..)
      rw [filed.known_unique member other]

theorem mem_of_lookup_pending (found : r.pending.lookup u = some i) : (u, i) ∈ r.pending := by
  obtain ⟨before, behind, split, -⟩ := List.lookup_eq_some_iff.mp found
  rw [split]
  exact List.mem_append_right before (List.mem_cons_self ..)

/-- If a reference is neither known nor pending, then all its loads were settled without a schema. -/
theorem fruitless_of_absent (filed : r.Filed) (unknown : r.known.lookup u = none)
    (idle : r.pending.lookup u = none) (found : r.flights[i]? = some f) (reference : f.reference = u) :
    f.Settled ∧ f.Fruitless := by
  have settled : f.Settled := by
    by_contra waiting
    have member : (u, i) ∈ r.pending := (filed.pending u i).mpr ⟨f, found, reference, waiting⟩
    have absent := List.lookup_eq_none_iff.mp idle (u, i) member
    rw [bne_self_eq_false] at absent
    cases absent
  obtain ⟨outcome, ended⟩ := filed.ended found settled
  cases outcome with
  | error e => exact ⟨settled, e, ended⟩
  | ok v =>
    have member : (u, v) ∈ r.known := (filed.known u v).mpr ⟨i, f, found, reference, settled, ended⟩
    rw [filed.lookup_known_eq_some_iff.mpr member] at unknown
    cases unknown

/-! ## What keeps the files in order -/

theorem fresh : Resolver.fresh.Filed where
  first := by simp [Resolver.fresh]
  ended := by simp [Resolver.fresh]
  earlier := by simp [Resolver.fresh]
  pending := by simp [Resolver.fresh]
  known := by simp [Resolver.fresh]

/-- Calls are not on file. -/
theorem ofCalls (filed : r.Filed) (calls : List Call) : ({ r with calls } : Resolver).Filed :=
  ⟨filed.first, filed.ended, filed.earlier, filed.pending, filed.known⟩

/-- A load may change if it is as settled as before and keeps its outcome. -/
theorem replace (filed : r.Filed) (found : r.flights[n]? = some f) (reference : g.reference = f.reference)
    (settled : g.Settled <-> f.Settled) (kept : forall outcome, f.outcome? = some outcome -> g.outcome? = some outcome)
    (queue : .settle ∉ g.due.tail) : ({ r with flights := r.flights.set n g } : Resolver).Filed where
  first := by
    intro i h there
    rcases lookup_set found there with ⟨-, rfl⟩ | ⟨-, there⟩
    · exact queue
    · exact filed.first there
  ended := by
    intro i h there finished
    rcases lookup_set found there with ⟨-, rfl⟩ | ⟨-, there⟩
    · obtain ⟨outcome, ended⟩ := filed.ended found (settled.mp finished)
      exact ⟨outcome, kept outcome ended⟩
    · exact filed.ended there finished
  earlier := by
    intro i j h k before left right same
    have last : i = n -> h = g -> f.Settled ∧ f.Fruitless -> h.Settled ∧ h.Fruitless := by
      rintro - rfl ⟨finished, e, failed⟩
      exact ⟨settled.mpr finished, e, kept _ failed⟩
    rcases lookup_set found left with ⟨atLeft, rfl⟩ | ⟨-, oldLeft⟩
    · rcases lookup_set found right with ⟨atRight, rfl⟩ | ⟨-, oldRight⟩
      · omega
      · have oldLeft : r.flights[i]? = some f := atLeft ▸ found
        exact last atLeft rfl (filed.earlier before oldLeft oldRight (reference.symm.trans same))
    · rcases lookup_set found right with ⟨atRight, rfl⟩ | ⟨-, oldRight⟩
      · have oldRight : r.flights[j]? = some f := atRight ▸ found
        exact filed.earlier before oldLeft oldRight (same.trans reference)
      · exact filed.earlier before oldLeft oldRight same
  pending := by
    intro u i
    rw [filed.pending u i]
    constructor
    · rintro ⟨h, there, reference', waiting⟩
      rcases same_or_elsewhere found there with ⟨rfl, rfl⟩ | elsewhere
      · exact ⟨g, found_set found g, reference.trans reference', mt settled.mp waiting⟩
      · exact ⟨h, found_set_of_ne elsewhere there g, reference', waiting⟩
    · rintro ⟨h, there, reference', waiting⟩
      rcases lookup_set found there with ⟨rfl, rfl⟩ | ⟨-, there⟩
      · exact ⟨f, found, reference.symm.trans reference', mt settled.mpr waiting⟩
      · exact ⟨h, there, reference', waiting⟩
  known := by
    intro u v
    rw [filed.known u v]
    constructor
    · rintro ⟨i, h, there, reference', finished, ended⟩
      rcases same_or_elsewhere found there with ⟨rfl, rfl⟩ | elsewhere
      · exact ⟨i, g, found_set found g, reference.trans reference', settled.mpr finished, kept _ ended⟩
      · exact ⟨i, h, found_set_of_ne elsewhere there g, reference', finished, ended⟩
    · rintro ⟨i, h, there, reference', finished, ended⟩
      rcases lookup_set found there with ⟨rfl, rfl⟩ | ⟨-, there⟩
      · obtain ⟨outcome, before⟩ := filed.ended found (settled.mp finished)
        have equal : some outcome = some (.ok v) := (kept _ before).symm.trans ended
        exact ⟨i, f, found, reference.symm.trans reference', settled.mp finished, before.trans equal⟩
      · exact ⟨i, h, there, reference', finished, ended⟩

/-- A load may begin if the reference is neither known nor pending. -/
theorem depart (filed : r.Filed) (unknown : r.known.lookup u = none) (idle : r.pending.lookup u = none) :
    (r.depart u).Filed where
  first := by
    intro i h there
    rcases lookup_concat there with ⟨-, there⟩ | ⟨-, rfl⟩
    · exact filed.first there
    · simp
  ended := by
    intro i h there finished
    rcases lookup_concat there with ⟨-, there⟩ | ⟨-, rfl⟩
    · exact filed.ended there finished
    · exact absurd (List.mem_cons_self ..) finished
  earlier := by
    intro i j h k before left right same
    rcases lookup_concat left with ⟨-, left⟩ | ⟨atLeft, -⟩
    · rcases lookup_concat right with ⟨-, right⟩ | ⟨-, rfl⟩
      · exact filed.earlier before left right same
      · exact filed.fruitless_of_absent unknown idle left same
    · have inside : j < (r.flights ++ [Flight.mk u .begun [.settle, .wake r.calls.length]]).length :=
        (List.getElem?_eq_some_iff.mp right).1
      rw [List.length_append, List.length_singleton] at inside
      omega
  pending := by
    intro x i
    constructor
    · intro member
      rcases List.mem_cons.mp member with new | member
      · obtain ⟨rfl, rfl⟩ := Prod.mk.inj new
        exact ⟨⟨x, .begun, [.settle, .wake r.calls.length]⟩, List.getElem?_concat_length .., rfl,
          fun finished => finished (List.mem_cons_self ..)⟩
      · obtain ⟨h, there, reference, waiting⟩ := (filed.pending x i).mp member
        have inside : i < r.flights.length := (List.getElem?_eq_some_iff.mp there).1
        exact ⟨h, (List.getElem?_append_left inside).trans there, reference, waiting⟩
    · rintro ⟨h, there, reference, waiting⟩
      rcases lookup_concat there with ⟨-, there⟩ | ⟨last, rfl⟩
      · have member : (x, i) ∈ r.pending := (filed.pending x i).mpr ⟨h, there, reference, waiting⟩
        exact List.mem_cons_of_mem _ member
      · subst last
        subst reference
        exact List.mem_cons_self ..
  known := by
    intro x v
    constructor
    · intro member
      obtain ⟨i, h, there, rest⟩ := (filed.known x v).mp member
      have inside : i < r.flights.length := (List.getElem?_eq_some_iff.mp there).1
      exact ⟨i, h, (List.getElem?_append_left inside).trans there, rest⟩
    · rintro ⟨i, h, there, reference, finished, ended⟩
      rcases lookup_concat there with ⟨-, there⟩ | ⟨-, rfl⟩
      · exact (filed.known x v).mpr ⟨i, h, there, reference, finished, ended⟩
      · cases ended

/-- Settling takes away what is pending for the reference, which is the load itself, and keeps its schema. -/
theorem settle (filed : r.Filed) {due : List Callback} {outcome : Except Failed Value}
    (found : r.flights[n]? = some f) (ended : f.outcome? = some outcome) (queue : f.due = .settle :: due) :
    (({ r with flights := r.flights.set n { f with due } } : Resolver).settle f.reference outcome).Filed := by
  have waiting : ¬ f.Settled := fun finished => finished (queue ▸ List.mem_cons_self ..)
  have finished : ({ f with due } : Flight).Settled := by
    have rest := filed.first found
    rw [queue] at rest
    exact rest
  have next : forall {i h}, (r.flights.set n { f with due })[i]? = some h -> h.Settled ∨ (i ≠ n ∧ r.flights[i]? = some h) := by
    intro i h there
    rcases lookup_set found there with ⟨-, rfl⟩ | there
    · exact Or.inl finished
    · exact Or.inr there
  refine ⟨?first, ?ended, ?earlier, ?pending, ?known⟩
  case first =>
    intro i h there
    rcases lookup_set found there with ⟨-, rfl⟩ | ⟨-, there⟩
    · exact fun member => finished (List.mem_of_mem_tail member)
    · exact filed.first there
  case ended =>
    intro i h there settled
    rcases lookup_set found there with ⟨-, rfl⟩ | ⟨-, there⟩
    · exact ⟨outcome, ended⟩
    · exact filed.ended there settled
  case earlier =>
    intro i j h k before left right same
    rcases lookup_set found left with ⟨atLeft, rfl⟩ | ⟨-, oldLeft⟩
    · rcases lookup_set found right with ⟨atRight, rfl⟩ | ⟨-, oldRight⟩
      · omega
      · have oldLeft : r.flights[i]? = some f := atLeft ▸ found
        exact absurd (filed.earlier before oldLeft oldRight same).1 waiting
    · rcases lookup_set found right with ⟨atRight, rfl⟩ | ⟨-, oldRight⟩
      · have oldRight : r.flights[j]? = some f := atRight ▸ found
        exact filed.earlier before oldLeft oldRight same
      · exact filed.earlier before oldLeft oldRight same
  case pending =>
    intro u i
    refine mem_pending_settle_iff.trans ?_
    rw [filed.pending u i]
    constructor
    · rintro ⟨⟨h, there, reference, open_⟩, other⟩
      rcases same_or_elsewhere found there with ⟨rfl, rfl⟩ | elsewhere
      · exact absurd reference.symm other
      · exact ⟨h, found_set_of_ne elsewhere there _, reference, open_⟩
    · rintro ⟨h, there, reference, open_⟩
      rcases next there with settled | ⟨elsewhere, there⟩
      · exact absurd settled open_
      · refine ⟨⟨h, there, reference, open_⟩, ?_⟩
        intro same
        have equal : i = n :=
          filed.same_of_last there found (reference.trans same) (fun last => open_ last.1) (fun last => waiting last.1)
        exact elsewhere equal
  case known =>
    intro u v
    refine mem_known_settle_iff.trans ?_
    rw [filed.known u v]
    constructor
    · rintro (⟨i, h, there, reference, settled, ok⟩ | ⟨rfl, rfl⟩)
      · rcases same_or_elsewhere found there with ⟨rfl, rfl⟩ | elsewhere
        · exact absurd settled waiting
        · exact ⟨i, h, found_set_of_ne elsewhere there _, reference, settled, ok⟩
      · exact ⟨n, { f with due }, found_set found _, rfl, finished, ended⟩
    · rintro ⟨i, h, there, reference, settled, ok⟩
      rcases lookup_set found there with ⟨-, rfl⟩ | ⟨-, there⟩
      · exact Or.inr ⟨reference.symm, Option.some.inj (ended.symm.trans ok)⟩
      · exact Or.inl ⟨i, h, there, reference, settled, ok⟩

end Filed

end Resolver

end SchemaLint
