import Mathlib.Data.List.Forall2

/-!
# Lists

What exchanging one member does to a list, and lists that go along with one another member by member.
-/

namespace SchemaLint

theorem set_same {α : Type} {l : List α} {n : Nat} {x : α} (found : l[n]? = some x) : l.set n x = l := by
  obtain ⟨inside, rfl⟩ := List.getElem?_eq_some_iff.mp found
  exact List.set_getElem_self inside

/-- What one member of a list adds more, the list adds more, up to the order. -/
theorem perm_flatMap_set {α β : Type} (f : α -> List β) {l : List α} {n : Nat} {x y : α} {more : List β}
    (found : l[n]? = some x) (same : f y = f x ++ more) : (l.flatMap f ++ more).Perm ((l.set n y).flatMap f) := by
  induction l generalizing n with
  | nil => cases found
  | cons z rest ih =>
    cases n with
    | zero =>
      cases found
      rw [List.set_cons_zero, List.flatMap_cons, List.flatMap_cons, same, List.append_assoc, List.append_assoc]
      exact List.Perm.append_left _ List.perm_append_comm
    | succ n =>
      rw [List.set_cons_succ, List.flatMap_cons, List.flatMap_cons, List.append_assoc]
      exact List.Perm.append_left _ (ih found)

/-- What does not stand between parts stands in one of them. -/
theorem mem_intercalate_iff {α : Type} {separator : List α} {parts : List (List α)} {x : α} (other : x ∉ separator) :
    x ∈ separator.intercalate parts <-> exists part, part ∈ parts ∧ x ∈ part := by
  induction parts with
  | nil => simp [List.intercalate]
  | cons first rest ih =>
    cases rest with
    | nil => simp
    | cons second more =>
      rw [List.intercalate_cons_cons, List.mem_append, List.mem_append, ih]
      simp [other]

/-- A list of options is there if each of them is. -/
theorem mapM_eq_some_iff {α β : Type} {f : α -> Option β} {xs : List α} {ys : List β} :
    xs.mapM f = some ys <-> List.Forall₂ (fun x y => f x = some y) xs ys := by
  induction xs generalizing ys with
  | nil =>
    rw [List.mapM_nil, List.forall₂_nil_left_iff]
    constructor
    · intro done
      cases done
      rfl
    · rintro rfl
      rfl
  | cons x rest ih =>
    rw [List.mapM_cons, Option.bind_eq_bind, Option.bind_eq_some_iff]
    constructor
    · rintro ⟨y, first, more⟩
      obtain ⟨ys', later, done⟩ := Option.bind_eq_some_iff.mp more
      cases done
      exact .cons first (ih.mp later)
    · intro related
      cases related with
      | @cons _ y _ ys' first later => exact ⟨y, first, Option.bind_eq_some_iff.mpr ⟨ys', ih.mpr later, rfl⟩⟩

theorem mapM_eq_none {α β : Type} {f : α -> Option β} {l : List α} {x : α} (member : x ∈ l) (none : f x = none) :
    l.mapM f = .none := by
  induction l with
  | nil => cases member
  | cons y rest ih =>
    rw [List.mapM_cons]
    rcases List.mem_cons.mp member with rfl | later
    · rw [none]
      rfl
    · rw [ih later]
      cases f y <;> rfl

theorem lookup_zip_map {α β : Type} [BEq α] [LawfulBEq α] (f : α -> β) {l : List α} {x : α} (member : x ∈ l) :
    (l.zip (l.map f)).lookup x = some (f x) := by
  induction l with
  | nil => cases member
  | cons y rest ih =>
    rw [List.map_cons, List.zip_cons_cons, List.lookup_cons]
    by_cases here : x = y
    · subst here
      rw [beq_self_eq_true]
    · rw [beq_false_of_ne here]
      exact ih ((List.mem_cons.mp member).resolve_left here)

/-- Two lists that go along with the same list go along with each other. -/
theorem forall₂_of_common {α β γ : Type} {R : α -> β -> Prop} {S : α -> γ -> Prop} {T : β -> γ -> Prop}
    {xs : List α} {ys : List β} {zs : List γ} (left : List.Forall₂ R xs ys) (right : List.Forall₂ S xs zs)
    (both : forall {x y z}, R x y -> S x z -> T y z) : List.Forall₂ T ys zs := by
  induction left generalizing zs with
  | nil =>
    cases right
    exact .nil
  | cons first rest ih =>
    cases right with
    | cons first' rest' => exact .cons (both first first') (ih rest')

end SchemaLint
