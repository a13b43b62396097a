import Mathlib.Data.List.Flatten
import Mathlib.Data.List.Perm.Basic
import SchemaLint.Proofs.Json.Sorted
import SchemaLint.Proofs.Lists
import SchemaLint.Proofs.Results
import SchemaLint.Schema.Assertion

/-!
# Evaluations that agree

Two evaluations of which one sees the members of objects in another order look at the same things in another order, and so
may crash in different places or not at all.  They agree if they say the same wherever both come to an end: where all
violations are asked for, they find the same ones up to their order and up to the order of keys inside of them; where
only the first one is asked for, neither finds one if the other finds that there is none.
-/

namespace SchemaLint
namespace Schema

open Json

/-! ## Results -/

/-- Two results go along wherever both have come. -/
def Agree {α β : Type} (R : α -> β -> Prop) (x : Except Crash α) (y : Except Crash β) : Prop :=
  forall a b, x = .ok a -> y = .ok b -> R a b

/-- Two lists hold the same things. -/
def SameSet {α : Type} (xs ys : List α) : Prop :=
  forall a, a ∈ xs <-> a ∈ ys

section Results

variable {α β γ δ : Type} {R : α -> β -> Prop} {S : γ -> δ -> Prop} {x : Except Crash α} {y : Except Crash β}

theorem agree_ok {a : α} {b : β} (related : R a b) : Agree R (.ok a) (.ok b) := by
  intro a' b' same same'
  cases same
  cases same'
  exact related

theorem agree_refl (x : Except Crash α) : Agree (· = ·) x x := by
  intro a b same same'
  exact Except.ok.inj (same.symm.trans same')

theorem agree_of_eq {x y : Except Crash α} (same : x = y) : Agree (· = ·) x y :=
  same ▸ agree_refl x

theorem agree_error (c : Crash) (y : Except Crash β) : Agree R (.error c) y := by
  intro a b same
  cases same

theorem Agree.bind {f : α -> Except Crash γ} {g : β -> Except Crash δ} (agree : Agree R x y)
    (later : forall a b, R a b -> Agree S (f a) (g b)) : Agree S (x >>= f) (y >>= g) := by
  intro c d done done'
  obtain ⟨a, first, second⟩ := bind_eq_ok_iff.mp done
  obtain ⟨b, first', second'⟩ := bind_eq_ok_iff.mp done'
  exact later a b (agree a b first first') c d second second'

theorem Agree.imp {T : α -> β -> Prop} (agree : Agree R x y) (weaker : forall a b, R a b -> T a b) : Agree T x y :=
  fun a b same same' => weaker a b (agree a b same same')

/-- The same computation for each member of a list. -/
theorem agree_mapM {ι : Type} {f : ι -> Except Crash α} {g : ι -> Except Crash β} {xs : List ι}
    (each : forall i, i ∈ xs -> Agree R (f i) (g i)) : Agree (List.Forall₂ R) (xs.mapM f) (xs.mapM g) := by
  intro as bs done done'
  have left := (List.forall₂_and_left xs as).mpr ⟨fun i inside => inside, mapM_eq_ok_iff.mp done⟩
  exact forall₂_of_common left (mapM_eq_ok_iff.mp done') fun first second => each _ first.1 _ _ first.2 second

/-- Whether a test succeeds. -/
def succeeds (test : α -> Except Crash Bool) (a : α) : Bool :=
  match test a with
  | .ok b => b
  | .error _ => false

/-- What is kept if no test crashes. -/
theorem allWhere_eq_ok {test : α -> Except Crash Bool} {xs kept : List α} (done : allWhere test xs = .ok kept) :
    (forall a, a ∈ xs -> test a = .ok (succeeds test a)) ∧ kept = xs.filter (succeeds test) := by
  induction xs generalizing kept with
  | nil =>
    cases done
    exact ⟨nofun, rfl⟩
  | cons a rest ih =>
    obtain ⟨b, first, later⟩ := bind_eq_ok_iff.mp done
    obtain ⟨others, more, done⟩ := bind_eq_ok_iff.mp later
    obtain ⟨each, rfl⟩ := ih more
    cases done
    have isFirst : succeeds test a = b := by
      unfold succeeds
      rw [first]
    refine ⟨List.forall_mem_cons.mpr ⟨by rw [isFirst, first], each⟩, ?_⟩
    rw [List.filter_cons, isFirst]

theorem allWhere_of_ok {test : α -> Except Crash Bool} {passes : α -> Bool} {xs : List α}
    (each : forall a, a ∈ xs -> test a = .ok (passes a)) : allWhere test xs = .ok (xs.filter passes) := by
  induction xs with
  | nil => rfl
  | cons a rest ih =>
    rw [allWhere, each a List.mem_cons_self, ih (fun b member => each b (List.mem_cons_of_mem a member)),
      List.filter_cons]
    cases passes a <;> rfl

/-- The values that are kept are those that pass. -/
theorem mem_allWhere_iff {test : α -> Except Crash Bool} {xs kept : List α} (done : allWhere test xs = .ok kept) (a : α) :
    a ∈ kept <-> a ∈ xs ∧ test a = .ok true := by
  rcases allWhere_eq_ok done with ⟨ends, rfl⟩
  rw [List.mem_filter]
  apply and_congr_right
  intro inside
  rw [ends a inside, Except.ok.injEq]

/-- Nothing is kept where nothing passes. -/
theorem allWhere_eq_nil_iff {test : α -> Except Crash Bool} {xs kept : List α} (done : allWhere test xs = .ok kept) :
    kept = [] <-> forall a, a ∈ xs -> test a = .ok false := by
  rcases allWhere_eq_ok done with ⟨ends, rfl⟩
  rw [List.filter_eq_nil_iff]
  apply forall₂_congr
  intro a inside
  rw [ends a inside, Except.ok.injEq, Bool.not_eq_true]

/-- What is kept of the same things in another order is the same, up to the order. -/
theorem agree_allWhere {test : α -> Except Crash Bool} {test' : β -> Except Crash Bool} {xs : List α} {ys : List β}
    {f : α -> β} (perm : ys.Perm (xs.map f)) (each : forall a, a ∈ xs -> Agree (· = ·) (test a) (test' (f a))) :
    Agree (fun kept kept' => kept'.Perm (kept.map f)) (allWhere test xs) (allWhere test' ys) := by
  intro kept kept' done done'
  obtain ⟨ends, rfl⟩ := allWhere_eq_ok done
  obtain ⟨ends', rfl⟩ := allWhere_eq_ok done'
  have same : forall a, a ∈ xs -> succeeds test' (f a) = succeeds test a := by
    intro a inside
    have there : f a ∈ ys := perm.mem_iff.mpr (List.mem_map_of_mem inside)
    exact (each a inside _ _ (ends a inside) (ends' (f a) there)).symm
  have filtered : (xs.map f).filter (succeeds test') = (xs.filter (succeeds test)).map f := by
    rw [List.filter_map]
    exact congrArg (List.map f) (List.filter_congr same)
  rw [← filtered]
  exact perm.filter _

/-- What is kept of the same things in the same order is the same. -/
theorem agree_allWhere_same {test test' : α -> Except Crash Bool} {xs : List α}
    (each : forall a, a ∈ xs -> Agree (· = ·) (test a) (test' a)) :
    Agree (· = ·) (allWhere test xs) (allWhere test' xs) := by
  induction xs with
  | nil => exact agree_ok rfl
  | cons a rest ih =>
    refine (each a (List.mem_cons_self ..)).bind ?_
    rintro kept _ rfl
    refine (ih fun a inside => each a (List.mem_cons_of_mem _ inside)).bind ?_
    rintro others _ rfl
    exact agree_ok rfl

/-- Whether there is one among the same things in the same order. -/
theorem agree_anyWhere {test : α -> Except Crash Bool} {test' : β -> Except Crash Bool} {xs : List α} {f : α -> β}
    (each : forall a, a ∈ xs -> Agree (· = ·) (test a) (test' (f a))) :
    Agree (· = ·) (anyWhere test xs) (anyWhere test' (xs.map f)) := by
  induction xs with
  | nil => exact agree_ok rfl
  | cons a rest ih =>
    refine (each a (List.mem_cons_self ..)).bind ?_
    rintro b _ rfl
    cases b with
    | true => exact agree_ok rfl
    | false => exact ih fun a inside => each a (List.mem_cons_of_mem _ inside)

theorem sameSet_flatten {xs ys : List (List α)} (related : List.Forall₂ SameSet xs ys) :
    SameSet xs.flatten ys.flatten := by
  induction related with
  | nil => exact fun a => Iff.rfl
  | cons first rest ih =>
    intro a
    rw [List.flatten_cons, List.flatten_cons, List.mem_append, List.mem_append, first a, ih a]

theorem sameSet_append {xs ys xs' ys' : List α} (left : SameSet xs ys) (right : SameSet xs' ys') :
    SameSet (xs ++ xs') (ys ++ ys') := by
  intro a
  rw [List.mem_append, List.mem_append, left a, right a]

end Results

/-! ## Outcomes -/

/-- A violation by a value whose keys are in order. -/
def Violation.sorted (v : Violation) : Violation :=
  { v with subject := v.subject.sorted }

namespace Outcome

/-- Nothing is violated, and nothing went wrong. -/
def IsFine (o : Outcome) : Prop :=
  o.found = [] ∧ o.crash = none

/-- What is found in a value and what is found in the value with its keys in order agree. -/
def Match : Demand -> Outcome -> Outcome -> Prop
  | .all, o, o' => o.crash = none -> o'.crash = none -> o'.found.Perm (o.found.map Violation.sorted)
  | .first, o, o' => (o.IsFine -> o'.found = []) ∧ (o'.IsFine -> o.found = [])

variable {demand : Demand} {o o' : Outcome}

theorem match_clean : Match demand clean clean := by
  cases demand with
  | all => exact fun _ _ => .refl _
  | first => exact ⟨fun _ => rfl, fun _ => rfl⟩

theorem match_crashed_left (c : Crash) (o' : Outcome) : Match demand (crashed c) o' := by
  cases demand with
  | all => exact fun fine => (nomatch fine)
  | first => exact ⟨fun fine => (nomatch fine.2), fun _ => rfl⟩

theorem match_crashed_right (o : Outcome) (c : Crash) : Match demand o (crashed c) := by
  cases demand with
  | all => exact fun _ fine => (nomatch fine)
  | first => exact ⟨fun _ => rfl, fun fine => (nomatch fine.2)⟩

theorem match_one (v : Violation) : Match demand (one v) (one v.sorted) := by
  cases demand with
  | all => exact fun _ _ => .refl _
  | first => exact ⟨fun fine => (nomatch fine.1), fun fine => (nomatch fine.1)⟩

theorem match_ofExcept {α β : Type} {R : α -> β -> Prop} {x : Except Crash α} {y : Except Crash β}
    {search : α -> Outcome} {search' : β -> Outcome} (agree : Agree R x y)
    (later : forall a b, R a b -> Match demand (search a) (search' b)) :
    Match demand (ofExcept x search) (ofExcept y search') := by
  cases x with
  | error c => exact match_crashed_left c _
  | ok a =>
    cases y with
    | error c => exact match_crashed_right _ c
    | ok b => exact later a b (agree a b rfl rfl)

theorem match_under (part : Option PathPart) (same : Match demand o o') : Match demand (o.under part) (o'.under part) := by
  cases part with
  | none => exact same
  | some part =>
    cases demand with
    | all =>
      intro fine fine'
      have perm := (same fine fine').map fun v : Violation => { v with path := part :: v.path }
      rw [List.map_map] at perm
      change (o'.found.map _).Perm ((o.found.map _).map Violation.sorted)
      rw [List.map_map]
      exact perm
    | first =>
      have onward : forall {o o' : Outcome}, (o.IsFine -> o'.found = []) ->
          (o.under (some part)).IsFine -> (o'.under (some part)).found = [] := by
        intro o o' same fine
        have nothing : o.found = [] := List.map_eq_nil_iff.mp fine.1
        exact List.map_eq_nil_iff.mpr (same ⟨nothing, fine.2⟩)
      exact ⟨onward same.1, onward same.2⟩

/-! ### One search after another -/

section Each

variable {α β : Type} {search : α -> Outcome} {search' : β -> Outcome}

/-- A search for all violations that does not crash has come to the end of everything. -/
theorem found_each {xs : List α} (fine : (each .all search xs).crash = none) :
    (forall a, a ∈ xs -> (search a).crash = none) ∧
      (each .all search xs).found = xs.flatMap fun a => (search a).found := by
  induction xs with
  | nil => exact ⟨nofun, rfl⟩
  | cons a rest ih =>
    rw [each, andThen] at fine ⊢
    split at fine
    next ends =>
      have crashes : (search a).crash.isSome = true := by simpa [Outcome.ends] using ends
      rw [fine] at crashes
      cases crashes
    next goesOn =>
      obtain ⟨each, found⟩ := ih fine
      have first : (search a).crash = none := by simpa [Outcome.ends] using goesOn
      rw [if_neg goesOn]
      exact ⟨List.forall_mem_cons.mpr ⟨first, each⟩, congrArg ((search a).found ++ ·) found⟩

/-- There is nothing to be found in a whole only if there is nothing in any part. -/
theorem isFine_of_each {xs : List α} (fine : (each .first search xs).IsFine) : forall a, a ∈ xs -> (search a).IsFine := by
  induction xs with
  | nil => exact nofun
  | cons a rest ih =>
    rw [each, andThen] at fine
    split at fine
    next ends =>
      have otherwise : (search a).crash.isSome = true ∨ (search a).found ≠ [] := by
        simpa [Outcome.ends] using ends
      rcases otherwise with crashes | finds
      · rw [fine.2] at crashes
        cases crashes
      · exact absurd fine.1 finds
    next goesOn =>
      have first : (search a).crash = none := by
        have both : (search a).crash = none ∧ (search a).found = [] := by simpa [Outcome.ends] using goesOn
        exact both.1
      obtain ⟨nothing, others⟩ := List.append_eq_nil_iff.mp fine.1
      exact List.forall_mem_cons.mpr ⟨⟨nothing, first⟩, ih ⟨others, fine.2⟩⟩

theorem found_each_eq_nil {xs : List α} (nothing : forall a, a ∈ xs -> (search a).found = []) :
    (each demand search xs).found = [] := by
  induction xs with
  | nil => rfl
  | cons a rest ih =>
    obtain ⟨first, others⟩ := List.forall_mem_cons.mp nothing
    rw [each, andThen]
    split
    · exact first
    · exact List.append_eq_nil_iff.mpr ⟨first, ih others⟩

/-- The same things are searched in another order. -/
theorem match_each {xs : List α} {ys : List β} {f : α -> β} (perm : ys.Perm (xs.map f))
    (same : forall a, a ∈ xs -> Match demand (search a) (search' (f a))) :
    Match demand (each demand search xs) (each demand search' ys) := by
  have there : forall {a}, a ∈ xs -> f a ∈ ys := fun inside => perm.mem_iff.mpr (List.mem_map_of_mem inside)
  cases demand with
  | all =>
    intro fine fine'
    obtain ⟨ends, found⟩ := found_each fine
    obtain ⟨ends', found'⟩ := found_each fine'
    rw [found, found', List.map_flatMap]
    refine (perm.flatMap_right _).trans ?_
    rw [List.flatMap_map]
    exact List.Perm.flatMap_left xs fun a inside => same a inside (ends a inside) (ends' (f a) (there inside))
  | first =>
    constructor
    · intro fine
      apply found_each_eq_nil
      intro b inside
      obtain ⟨a, member, rfl⟩ := List.mem_map.mp (perm.mem_iff.mp inside)
      exact (same a member).1 (isFine_of_each fine a member)
    · intro fine
      apply found_each_eq_nil
      intro a inside
      exact (same a inside).2 (isFine_of_each fine (f a) (there inside))

/-- The same things are searched in the same order. -/
theorem match_each_same {xs : List α} {search'' : α -> Outcome}
    (same : forall a, a ∈ xs -> Match demand (search a) (search'' a)) :
    Match demand (each demand search xs) (each demand search'' xs) :=
  match_each (f := id) (by rw [List.map_id]) same

end Each

/-! ### What an outcome is asked for -/

/-- An outcome is clean just if there is nothing to be found. -/
theorem isFine_of_isClean {o : Outcome} (clean : o.isClean = .ok true) : o.IsFine := by
  unfold isClean at clean
  split at clean
  · cases clean
  · rename_i nothing
    split at clean
    · cases clean
    · rename_i fine
      exact ⟨by simpa using nothing, fine⟩

theorem found_of_isClean {o : Outcome} (unclean : o.isClean = .ok false) : o.found ≠ [] := by
  unfold isClean at unclean
  split at unclean
  · rename_i something
    simpa using something
  · split at unclean <;> cases unclean

theorem agree_isClean (same : Match .first o o') : Agree (· = ·) o.isClean o'.isClean := by
  intro b b' clean clean'
  cases b with
  | true =>
    cases b' with
    | true => rfl
    | false => exact absurd (same.1 (isFine_of_isClean clean)) (found_of_isClean clean')
  | false =>
    cases b' with
    | true => exact absurd (same.2 (isFine_of_isClean clean')) (found_of_isClean clean)
    | false => rfl

theorem complete_eq_ok {o : Outcome} {vs : List Violation} (complete : o.complete = .ok vs) :
    o.crash = none ∧ o.found = vs := by
  unfold Outcome.complete at complete
  split at complete
  · cases complete
  · rename_i fine
    cases complete
    exact ⟨fine, rfl⟩

theorem agree_complete (same : Match .all o o') :
    Agree (fun vs vs' => vs'.Perm (vs.map Violation.sorted)) o.complete o'.complete := by
  intro vs vs' done done'
  obtain ⟨fine, rfl⟩ := complete_eq_ok done
  obtain ⟨fine', rfl⟩ := complete_eq_ok done'
  exact same fine fine'

end Outcome

end Schema
end SchemaLint
