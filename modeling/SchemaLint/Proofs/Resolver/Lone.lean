import SchemaLint.Proofs.Resolver.InTurn
import SchemaLint.Proofs.Resolver.Sessions

/-!
# A single load

A resolver that knows nothing is called once, and then nobody calls it again.  Whatever happens then, in which order and
with whatever refusals of the disk, concerns its only load.  So a property of loads that every step keeps holds of this
load, and of the outcome that the call is answered with.

A property may depend on whether what was fetched has been stored with success; this happens in one step.
-/

namespace SchemaLint

open Json (Value)

/-- Whether storing succeeds with the next step of a load. -/
def Load.succeeds (s : Sources) (u : String) (w : World) : Load -> Bool
  | .storing _ body writing => (s.cache.writeStep u body w.disk writing).1 = .ended true
  | .begun | .asking | .ended _ => false

namespace Resolver

/-- Whether storing succeeds with an action. -/
def succeeds (s : Sources) (r : Resolver) (w : World) : Action -> Bool
  | .advance n => (r.loadAt n).any fun (u, load) => load.succeeds s u w
  | .call _ | .refuse _ | .callback _ => false

/-- Whether storing succeeds with one of several actions. -/
def stores (s : Sources) (r : Resolver) (w : World) : List Action -> Bool
  | [] => false
  | action :: rest => r.succeeds s w action || stores s (r.act s w action).1 (r.act s w action).2 rest

variable {s : Sources} {u : String} {r : Resolver} {w : World} {load : Load} {stored : Bool}

/-- A resolver has one load, and something holds of it. -/
def Lone (u : String) (holds : Load -> World -> Prop) (r : Resolver) (w : World) : Prop :=
  exists load, (forall n, r.loadAt n = if n = 0 then some (u, load) else none) ∧ holds load w

/-- A property of a load that no step destroys, given whether storing has succeeded. -/
structure Lasts (s : Sources) (u : String) (holds : Bool -> Load -> World -> Prop) : Prop where
  step : forall {stored load w}, holds stored load w ->
    holds (stored || load.succeeds s u w) (load.step s u w).1 (load.step s u w).2
  refuse : forall {stored load w}, holds stored load w -> holds stored (load.refuse w).1 (load.refuse w).2

variable {holds : Bool -> Load -> World -> Prop}

theorem lone_call (u : String) {start : Load -> World -> Prop} (begun : start .begun w) :
    Lone u start (fresh.call u) w :=
  ⟨.begun, Session.loadAt_depart .fresh u, begun⟩

/-- The only load there is is the one of the number zero. -/
theorem eq_of_only {n : Nat} {f : Flight} (only : forall n, r.loadAt n = if n = 0 then some (u, load) else none)
    (there : r.flights[n]? = some f) : n = 0 ∧ f.reference = u ∧ f.load = load := by
  have found : r.loadAt n = some (f.reference, f.load) := by rw [loadAt, there, Option.map_some]
  rw [only n] at found
  split at found
  next first =>
    cases found
    exact ⟨first, rfl, rfl⟩
  next => cases found

/-- A step that a load is to take is taken by the only load, or there is no load that could take it. -/
theorem Lone.progress {held : Load -> World -> Prop} (lone : Lone u held r w) (n : Nat)
    (step : String -> Load -> Load × World) :
    (r.progress w n step = (r, w) ∧ r.loadAt n = none) ∨
      exists load, r.loadAt n = some (u, load) ∧ held load w ∧ forall {next : Load -> World -> Prop},
        next (step u load).1 (step u load).2 -> Lone u next (r.progress w n step).1 (r.progress w n step).2 := by
  obtain ⟨load, only, held⟩ := lone
  cases there : r.flights[n]? with
  | none =>
    refine .inl ⟨?_, ?_⟩
    · rw [Resolver.progress, there]
    · rw [loadAt, there, Option.map_none]
  | some f =>
    obtain ⟨rfl, rfl, rfl⟩ := eq_of_only only there
    refine .inr ⟨f.load, only 0, held, fun holds => ⟨(step f.reference f.load).1, ?_, ?_⟩⟩
    · intro m
      rw [Session.loadAt_progress w step there, only]
      by_cases first : m = 0
      · rw [if_pos first, if_pos first]
      · rw [if_neg first, if_neg first, if_neg first]
    · rw [Resolver.progress, there]
      exact holds

theorem Lone.act {action : Action} (lasts : Lasts s u holds) (lone : Lone u (holds stored) r w)
    (noCall : forall v, action ≠ .call v) :
    Lone u (holds (stored || r.succeeds s w action)) (r.act s w action).1 (r.act s w action).2 := by
  cases action with
  | call v => exact absurd rfl (noCall v)
  | advance n =>
    rw [Resolver.act, succeeds]
    rcases lone.progress n (fun reference load => load.step s reference w) with ⟨same, none⟩ | ⟨load, found, held, next⟩
    · rw [same, none, Option.any_none, Bool.or_false]
      exact lone
    · rw [found, Option.any_some]
      exact next (lasts.step held)
  | refuse n =>
    rw [Resolver.act, succeeds, Bool.or_false]
    rcases lone.progress n (fun _ load => load.refuse w) with ⟨same, -⟩ | ⟨load, -, held, next⟩
    · rw [same]
      exact lone
    · exact next (lasts.refuse held)
  | callback n =>
    obtain ⟨load, only, held⟩ := lone
    refine ⟨load, fun i => (Session.loadAt_callback r n i).trans (only i), ?_⟩
    rw [succeeds, Bool.or_false]
    exact held

theorem Lone.run (lasts : Lasts s u holds) (lone : Lone u (holds stored) r w) (actions : List Action)
    (noCalls : forall v, .call v ∉ actions) :
    Lone u (holds (stored || r.stores s w actions)) (r.run s w actions).1 (r.run s w actions).2 := by
  induction actions generalizing r w stored with
  | nil =>
    rw [stores, Bool.or_false]
    exact lone
  | cons action rest ih =>
    have first := lone.act lasts fun v same => noCalls v (same ▸ List.mem_cons_self ..)
    rw [stores, ← Bool.or_assoc]
    exact ih first fun v later => noCalls v (List.mem_cons_of_mem _ later)

/-- A call is answered with the outcome of the only load. -/
theorem Lone.of_answer {held : Load -> World -> Prop} (lone : Lone u held r w) (sound : r.Sound) {c : Call}
    {outcome : Except Failed Value} (member : c ∈ r.calls) (answered : c.answer = some outcome) :
    held (.ended outcome) w := by
  obtain ⟨load, only, held⟩ := lone
  obtain ⟨i, f, there, -, ended⟩ := sound.exists_of_answer member answered
  obtain ⟨-, -, rfl⟩ := eq_of_only only there
  rw [← Flight.outcome?_eq_some_iff.mp ended]
  exact held

/-- What holds of a load when it begins, and lasts, holds of the outcome that the only call is answered with. -/
theorem holds_of_answer (lasts : Lasts s u holds) (begun : holds false .begun w) {actions : List Action}
    (noCalls : forall v, .call v ∉ actions) {c : Call} {outcome : Except Failed Value}
    (member : c ∈ ((fresh.call u).run s w actions).1.calls) (answered : c.answer = some outcome) :
    holds ((fresh.call u).stores s w actions) (.ended outcome) ((fresh.call u).run s w actions).2 := by
  have lone := (lone_call u begun).run lasts actions noCalls
  rw [Bool.false_or] at lone
  obtain ⟨history, -, same⟩ := exists_after_eq_run (r := fresh.call u) s w actions
  have sound := (Sound.fresh.call u).after s history
  rw [same] at sound
  exact lone.of_answer sound member answered

/-- In turn the only load comes to its end, and the only call is answered. -/
theorem exists_answer_inTurn (s : Sources) (w : World) (u : String) :
    exists c, ((fresh.call u).run s w (fresh.call u).inTurn).1.calls = [c] ∧
      c.answer = some (fresh.resolve s w u).1 := by
  obtain ⟨done, sameCalls⟩ := isDone_inTurn s (fresh.call u) w
  obtain ⟨history, -, same⟩ := exists_after_eq_run (r := fresh.call u) s w (fresh.call u).inTurn
  have sound := (Sound.fresh.call u).after s history
  rw [same] at sound
  obtain ⟨c, calls, -⟩ := List.map_eq_singleton_iff.mp sameCalls
  obtain ⟨outcome, answered⟩ := sound.answered done (calls ▸ List.mem_singleton_self c)
  have none : fresh.calls.length = 0 := rfl
  refine ⟨c, calls, ?_⟩
  rw [resolve_eq_resolveAll, outcomes_resolveAll, List.foldl_cons, List.foldl_nil, calls, none, List.drop_zero,
    List.map_singleton, answered]
  rfl

theorem noCalls_inTurn (r : Resolver) (v : String) : .call v ∉ r.inTurn :=
  fun member => noCall_of_turn (r.turns_inTurn _ member) v rfl

end Resolver

end SchemaLint
