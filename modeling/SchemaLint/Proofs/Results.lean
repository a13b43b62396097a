import Mathlib.Data.List.Forall2
import SchemaLint.LintError

/-!
# Results of computations that may fail

A computation that succeeds has succeeded in each of its parts.
-/

namespace SchemaLint

variable {α β ε δ : Type}

theorem bind_eq_of_ok {x : Except ε α} {a : α} (done : x = .ok a) (f : α -> Except ε β) : (x >>= f) = f a := by
  rw [done]
  rfl

theorem bind_eq_ok_iff {x : Except ε α} {f : α -> Except ε β} {r : β} :
    (x >>= f) = .ok r <-> exists a, x = .ok a ∧ f a = .ok r := by
  cases x with
  | error e =>
      constructor
      · intro done
        cases done
      · rintro ⟨a, failed, _⟩
        cases failed
  | ok a =>
      constructor
      · intro done
        exact ⟨a, rfl, done⟩
      · rintro ⟨b, same, done⟩
        cases same
        exact done

theorem bind_eq_error_iff {x : Except ε α} {f : α -> Except ε β} {e : ε} :
    (x >>= f) = .error e <-> x = .error e ∨ exists a, x = .ok a ∧ f a = .error e := by
  cases x with
  | error e' =>
    constructor
    · intro failed
      cases failed
      exact .inl rfl
    · rintro (same | ⟨a, done, _⟩)
      · cases same
        rfl
      · cases done
  | ok a =>
    constructor
    · intro failed
      exact .inr ⟨a, rfl, failed⟩
    · rintro (failed | ⟨b, same, failed⟩)
      · cases failed
      · cases same
        exact failed

theorem map_eq_ok_iff {x : Except ε α} {f : α -> β} {r : β} :
    x.map f = .ok r <-> exists a, x = .ok a ∧ f a = r := by
  cases x <;> simp [Except.map]

theorem mapError_eq_ok_iff {x : Except ε α} {f : ε -> δ} {r : α} : x.mapError f = .ok r <-> x = .ok r := by
  cases x <;> simp [Except.mapError]

theorem mapError_eq_error_iff {x : Except ε α} {f : ε -> δ} {e : δ} :
    x.mapError f = .error e <-> exists c, x = .error c ∧ f c = e := by
  cases x <;> simp [Except.mapError]

theorem toOption_eq_some_iff {x : Except ε α} {r : α} : x.toOption = some r <-> x = .ok r := by
  cases x <;> simp [Except.toOption]

theorem map_mapError_congr {γ : Type} {x y : Except ε α} {g : α -> γ} {f : ε -> δ} (same : x.map g = y.map g) :
    (x.mapError f).map g = (y.mapError f).map g := by
  have commutes : forall z : Except ε α, (z.mapError f).map g = (z.map g).mapError f := by
    rintro (e | a) <;> rfl
  rw [commutes, commutes, same]

/-- A list of computations succeeds if each of them does. -/
theorem mapM_eq_ok_iff {f : α -> Except ε β} {xs : List α} {ys : List β} :
    xs.mapM f = .ok ys <-> List.Forall₂ (fun x y => f x = .ok y) xs ys := by
  induction xs generalizing ys with
  | nil =>
    rw [List.mapM_nil, List.forall₂_nil_left_iff]
    constructor
    · intro done
      cases done
      rfl
    · rintro rfl
      rfl
  | cons x rest ih =>
    rw [List.mapM_cons, bind_eq_ok_iff]
    constructor
    · rintro ⟨y, first, more⟩
      obtain ⟨ys', later, done⟩ := bind_eq_ok_iff.mp more
      cases done
      exact .cons first (ih.mp later)
    · intro related
      cases related with
      | @cons _ y _ ys' first later => exact ⟨y, first, bind_eq_ok_iff.mpr ⟨ys', ih.mpr later, rfl⟩⟩

theorem exists_ok_of_mapM {f : α -> Except ε β} {xs : List α} {ys : List β} (done : xs.mapM f = .ok ys) {x : α}
    (member : x ∈ xs) : exists y, f x = .ok y := by
  have each := mapM_eq_ok_iff.mp done
  induction each with
  | nil => cases member
  | @cons x' y xs' ys' first later ih =>
    rcases List.mem_cons.mp member with rfl | inside
    · exact ⟨y, first⟩
    · exact ih (mapM_eq_ok_iff.mpr later) inside

theorem exists_of_mem_mapM {f : α -> Except ε β} {xs : List α} {ys : List β} (done : xs.mapM f = .ok ys) {y : β}
    (member : y ∈ ys) : exists x, x ∈ xs ∧ f x = .ok y := by
  have each := mapM_eq_ok_iff.mp done
  induction each with
  | nil => cases member
  | @cons x y' xs' ys' first later ih =>
    rcases List.mem_cons.mp member with rfl | inside
    · exact ⟨x, List.mem_cons_self, first⟩
    · obtain ⟨x', inside', same⟩ := ih (mapM_eq_ok_iff.mpr later) inside
      exact ⟨x', List.mem_cons_of_mem x inside', same⟩

theorem mem_of_mapM {f : α -> Except ε β} {xs : List α} {ys : List β} (done : xs.mapM f = .ok ys) {x : α} {y : β}
    (member : x ∈ xs) (result : f x = .ok y) : y ∈ ys := by
  have each := mapM_eq_ok_iff.mp done
  induction each with
  | nil => cases member
  | @cons x' y' xs' ys' first later ih =>
    rcases List.mem_cons.mp member with rfl | inside
    · rw [Except.ok.inj (result.symm.trans first)]
      exact List.mem_cons_self
    · exact List.mem_cons_of_mem y' (ih (mapM_eq_ok_iff.mpr later) inside)

theorem exists_mapM_iff {f : α -> Except ε β} {xs : List α} :
    (exists ys, xs.mapM f = .ok ys) <-> forall x, x ∈ xs -> exists y, f x = .ok y := by
  constructor
  · rintro ⟨ys, done⟩ x member
    exact exists_ok_of_mapM done member
  · intro each
    induction xs with
    | nil => exact ⟨[], rfl⟩
    | cons x rest ih =>
      obtain ⟨y, first⟩ := each x (List.mem_cons_self ..)
      obtain ⟨ys, later⟩ := ih fun x' inside => each x' (List.mem_cons_of_mem x inside)
      exact ⟨y :: ys, mapM_eq_ok_iff.mpr (.cons first (mapM_eq_ok_iff.mp later))⟩

/-- A list of computations fails as the first of them that does. -/
theorem mapM_eq_error_iff {f : α -> Except ε β} {xs : List α} {e : ε} :
    xs.mapM f = .error e <->
      exists before x after, xs = before ++ x :: after ∧ (forall y, y ∈ before -> exists b, f y = .ok b) ∧
        f x = .error e := by
  induction xs with
  | nil =>
    constructor
    · intro failed
      cases failed
    · rintro ⟨before, x, after, parts, -, -⟩
      exact absurd parts.symm (List.append_ne_nil_of_right_ne_nil before (List.cons_ne_nil x after))
  | cons first rest ih =>
    rw [List.mapM_cons, bind_eq_error_iff]
    constructor
    · rintro (failed | ⟨b, done, failed⟩)
      · exact ⟨[], first, rest, rfl, fun y inside => absurd inside List.not_mem_nil, failed⟩
      · rcases bind_eq_error_iff.mp failed with failed | ⟨ys, -, impossible⟩
        · obtain ⟨before, x, after, rfl, earlier, failed⟩ := ih.mp failed
          refine ⟨first :: before, x, after, rfl, ?_, failed⟩
          intro y inside
          rcases List.mem_cons.mp inside with rfl | inside
          · exact ⟨b, done⟩
          · exact earlier y inside
        · cases impossible
    · rintro ⟨before, x, after, parts, earlier, failed⟩
      cases before with
      | nil =>
        cases parts
        exact .inl failed
      | cons y before =>
        cases parts
        obtain ⟨b, done⟩ := earlier _ (List.mem_cons_self ..)
        refine .inr ⟨b, done, bind_eq_error_iff.mpr (.inl ?_)⟩
        exact ih.mpr ⟨before, x, after, rfl, fun y inside => earlier y (List.mem_cons_of_mem _ inside), failed⟩

end SchemaLint
