import Mathlib.Data.List.Forall2
import Mathlib.Data.List.Lex
import SchemaLint.Proofs.Json.Sorted

/-!
# The canonical order of members

Sorting chooses one of all the ways to list the members of the objects in a value.  Two values are sorted to the same
value, order included, just if they differ in nothing but the order of members, at whatever depth.

Where no object uses a key twice, the order of its members is settled by the order of their keys, which is strict.  That
makes the sorted list the only one with these members in this order, so that it can be compared without a look at how
the sorting goes.  Where an object does use a key twice this fails, since the sorting keeps such members as they were.

The linter sorts no value that nests too deeply.  Everything else about sorting holds for all values.
-/

namespace SchemaLint

/-! ## The order of texts -/

namespace CodePoint

/-- A code point is known by its number: no character has the number of a surrogate. -/
theorem val_injective : Function.Injective val := by
  intro a b same
  have apart : forall (c : Char) (offset : Fin 2048), c.toNat ≠ 0xD800 + offset.val := by
    intro c offset same
    have valid : c.toNat < 0xD800 ∨ 0xDFFF < c.toNat ∧ c.toNat < 0x110000 := c.valid
    omega
  cases a with
  | scalar c =>
    cases b with
    | scalar d => exact congrArg scalar (Char.toNat_inj.mp same)
    | surrogate offset => exact absurd same (apart c offset)
  | surrogate offset =>
    cases b with
    | scalar d => exact absurd same.symm (apart d offset)
    | surrogate other => exact congrArg surrogate (Fin.ext (Nat.add_left_cancel same))

end CodePoint

namespace Text

/-- The numbers of the code points of a text. -/
def vals (t : Text) : List Nat :=
  t.map CodePoint.val

theorem vals_injective : Function.Injective vals :=
  List.map_injective_iff.mpr CodePoint.val_injective

/-- Texts are compared as the lists of their numbers are. -/
theorem compare_eq_gt_iff (s t : Text) : compare s t = .gt <-> vals t < vals s := by
  induction s generalizing t with
  | nil => cases t <;> simp [compare, vals]
  | cons a s ih =>
    cases t with
    | nil => simp [compare, vals]
    | cons b t =>
      change _ <-> b.val :: vals t < a.val :: vals s
      rw [compare, List.cons_lt_cons_iff, ← ih]
      by_cases less : a.val < b.val
      · rw [if_pos less]
        exact ⟨nofun, fun greater => by omega⟩
      · rw [if_neg less]
        by_cases greater : b.val < a.val
        · rw [if_pos greater]
          exact ⟨fun _ => .inl greater, fun _ => rfl⟩
        · rw [if_neg greater]
          have same : b.val = a.val := by omega
          simp [same]

theorem le_iff (s t : Text) : le s t = true <-> vals s ≤ vals t := by
  unfold le
  rw [bne_iff_ne, ne_eq, compare_eq_gt_iff, not_lt]

end Text

namespace Json

namespace Members

/-- The keys of members in strictly increasing order. -/
def IsOrdered (ms : Members) : Prop :=
  ms.Pairwise fun m n => Text.vals m.1 < Text.vals n.1

/-- Members are in order in one way only. -/
theorem eq_of_perm {ms ns : Members} (ordered : IsOrdered ms) (ordered' : IsOrdered ns) (perm : ms.Perm ns) : ms = ns :=
  List.Perm.eq_of_pairwise (fun _ _ _ _ less greater => absurd greater (lt_asymm less)) ordered ordered' perm

/-- Sorted members are in order if their keys are distinct. -/
theorem isOrdered_sorted {ms : Members} (distinct : (keys ms).Nodup) : IsOrdered (sorted ms) := by
  have rising : (sorted ms).Pairwise fun m n => Text.le m.1 n.1 = true := by
    refine List.pairwise_mergeSort ?_ ?_ _
    · intro m n p first second
      rw [Text.le_iff] at first second ⊢
      exact first.trans second
    · intro m n
      rw [Bool.or_eq_true, Text.le_iff, Text.le_iff]
      exact le_total _ _
  have differ : (sorted ms).Pairwise fun m n => m.1 ≠ n.1 :=
    List.pairwise_map.mp ((keys_sorted_perm ms).nodup_iff.mpr distinct)
  refine (rising.and differ).imp ?_
  rintro m n ⟨le, ne⟩
  exact lt_of_le_of_ne ((Text.le_iff _ _).mp le) fun same => ne (Text.vals_injective same)

end Members

namespace Value

/-! ## The same members in another order -/

mutual

/-- A value and what it can be changed into by listing the members of its objects in another order, at any depth. -/
inductive Reordered : Value -> Value -> Prop
  | null : Reordered .null .null
  | bool (b : Bool) : Reordered (.bool b) (.bool b)
  | int (n : Int) : Reordered (.int n) (.int n)
  | float (x : Binary64) : Reordered (.float x) (.float x)
  | string (s : Text) : Reordered (.string s) (.string s)
  | array {xs ys : List Value} (items : ReorderedItems xs ys) : Reordered (.array xs) (.array ys)
  | object {ms ms' ns : Members} (members : ReorderedMembers ms ms') (perm : ms'.Perm ns) :
    Reordered (.object ms) (.object ns)

/-- Items that are changed inside, each in its place. -/
inductive ReorderedItems : List Value -> List Value -> Prop
  | nil : ReorderedItems [] []
  | cons {x y : Value} {xs ys : List Value} (first : Reordered x y) (others : ReorderedItems xs ys) :
    ReorderedItems (x :: xs) (y :: ys)

/-- Members of which the values are changed inside, each in its place and under its key. -/
inductive ReorderedMembers : Members -> Members -> Prop
  | nil : ReorderedMembers [] []
  | cons {v w : Value} {ms ns : Members} (key : Text) (first : Reordered v w)
    (others : ReorderedMembers ms ns) : ReorderedMembers ((key, v) :: ms) ((key, w) :: ns)

end

/-- Every object of a value has its keys in strictly increasing order. -/
inductive IsOrdered : Value -> Prop
  | null : IsOrdered .null
  | bool (b : Bool) : IsOrdered (.bool b)
  | int (n : Int) : IsOrdered (.int n)
  | float (x : Binary64) : IsOrdered (.float x)
  | string (s : Text) : IsOrdered (.string s)
  | array {items : List Value} (each : forall v, v ∈ items -> IsOrdered v) : IsOrdered (.array items)
  | object {members : Members} (ordered : members.IsOrdered) (each : forall m, m ∈ members -> IsOrdered m.2) :
    IsOrdered (.object members)

theorem isOrdered_sorted {v : Value} (keyed : v.IsKeyed) : IsOrdered v.sorted := by
  induction keyed with
  | null => exact .null
  | bool b => exact .bool b
  | int n => exact .int n
  | float x => exact .float x
  | string s => exact .string s
  | array items each ih =>
    rw [sorted_array]
    refine .array fun v inside => ?_
    obtain ⟨item, member, rfl⟩ := List.mem_map.mp inside
    exact ih item member
  | object members distinct each ih =>
    rw [sorted_object]
    refine .object (Members.isOrdered_sorted distinct) fun m inside => ?_
    obtain ⟨member, among, rfl⟩ := List.mem_map.mp ((Members.sorted_perm members).mem_iff.mp inside)
    exact ih member among

/-! ### Sorting reorders -/

mutual

theorem reordered_sorted : (v : Value) -> Reordered v v.sorted
  | .null => .null
  | .bool b => .bool b
  | .int n => .int n
  | .float x => .float x
  | .string s => .string s
  | .array items => .array (reordered_sortedItems items)
  | .object members => .object (reordered_sortedMembers members) (List.mergeSort_perm ..).symm

theorem reordered_sortedItems : (items : List Value) -> ReorderedItems items (sortedItems items)
  | [] => .nil
  | v :: rest => .cons (reordered_sorted v) (reordered_sortedItems rest)

theorem reordered_sortedMembers : (members : List (Text × Value)) -> ReorderedMembers members (sortedMembers members)
  | [] => .nil
  | (key, v) :: rest => .cons key (reordered_sorted v) (reordered_sortedMembers rest)

end

/-! ### What is reordered is sorted to the same -/

theorem ReorderedMembers.keys {ms ns : Members} (reordered : ReorderedMembers ms ns) : ms.keys = ns.keys := by
  match reordered with
  | .nil => rfl
  | .cons key _ others => exact congrArg (key :: ·) others.keys

mutual

theorem Reordered.sorted_eq {v w : Value} : Reordered v w -> v.IsKeyed -> v.sorted = w.sorted
  | .null, _ => rfl
  | .bool _, _ => rfl
  | .int _, _ => rfl
  | .float _, _ => rfl
  | .string _, _ => rfl
  | .array items, keyed => by
    rw [sorted, sorted, items.sorted_eq fun v inside => keyed.item inside]
  | @Reordered.object ms ms' ns members perm, keyed => by
    have distinct : (Members.keys ms').Nodup := members.keys ▸ keyed.distinct
    have distinct' : (Members.keys ns).Nodup := (perm.map Prod.fst).nodup_iff.mp distinct
    have same : sortedMembers ms = sortedMembers ms' := members.sorted_eq fun m inside => keyed.member inside
    have ordered : Members.sorted ms' = Members.sorted ns := by
      refine Members.eq_of_perm (Members.isOrdered_sorted distinct) (Members.isOrdered_sorted distinct') ?_
      exact (Members.sorted_perm ms').trans ((perm.map _).trans (Members.sorted_perm ns).symm)
    rw [sorted, same, ← sorted, sorted_object, sorted_object, ordered]

theorem ReorderedItems.sorted_eq {xs ys : List Value} : ReorderedItems xs ys -> (forall v, v ∈ xs -> v.IsKeyed) ->
    sortedItems xs = sortedItems ys
  | .nil, _ => rfl
  | .cons first others, each => by
    rw [sortedItems, sortedItems, first.sorted_eq (each _ List.mem_cons_self),
      others.sorted_eq fun v inside => each v (List.mem_cons_of_mem _ inside)]

theorem ReorderedMembers.sorted_eq {ms ns : Members} : ReorderedMembers ms ns ->
    (forall m, m ∈ ms -> m.2.IsKeyed) -> sortedMembers ms = sortedMembers ns
  | .nil, _ => rfl
  | .cons key first others, each => by
    rw [sortedMembers, sortedMembers, first.sorted_eq (each _ List.mem_cons_self),
      others.sorted_eq fun m inside => each m (List.mem_cons_of_mem _ inside)]

end

/-! ### What is sorted to the same is reordered -/

/-- Members that are the same once their values are sorted, up to their order. -/
theorem exists_perm_of_sortedMembers {ms ns : Members} (perm : (sortedMembers ms).Perm (sortedMembers ns)) :
    exists ms', sortedMembers ms = sortedMembers ms' ∧ ms'.Perm ns := by
  have each : List.Forall₂ (fun sorted n => sorted = (n.1, n.2.sorted)) (sortedMembers ns) ns := by
    rw [sortedMembers_eq, List.forall₂_map_left_iff, List.forall₂_same]
    exact fun _ _ => rfl
  obtain ⟨ms', paired, perm'⟩ := List.perm_comp_forall₂ perm each
  refine ⟨ms', ?_, perm'⟩
  rw [← List.forall₂_eq_eq_eq, sortedMembers_eq ms', List.forall₂_map_right_iff]
  exact paired

mutual

theorem reordered_of_sorted_eq : (v w : Value) -> v.sorted = w.sorted -> Reordered v w
  | .null, w, same => by
    cases w with
    | null => exact .null
    | _ => simp only [sorted, reduceCtorEq] at same
  | .bool b, w, same => by
    cases w with
    | bool _ =>
      simp only [sorted, bool.injEq] at same
      exact same ▸ .bool b
    | _ => simp only [sorted, reduceCtorEq] at same
  | .int n, w, same => by
    cases w with
    | int _ =>
      simp only [sorted, int.injEq] at same
      exact same ▸ .int n
    | _ => simp only [sorted, reduceCtorEq] at same
  | .float x, w, same => by
    cases w with
    | float _ =>
      simp only [sorted, float.injEq] at same
      exact same ▸ .float x
    | _ => simp only [sorted, reduceCtorEq] at same
  | .string s, w, same => by
    cases w with
    | string _ =>
      simp only [sorted, string.injEq] at same
      exact same ▸ .string s
    | _ => simp only [sorted, reduceCtorEq] at same
  | .array items, w, same => by
    cases w with
    | array others =>
      simp only [sorted, array.injEq] at same
      exact .array (reorderedItems_of_sorted_eq items others same)
    | _ => simp only [sorted, reduceCtorEq] at same
  | .object members, w, same => by
    cases w with
    | object others =>
      simp only [sorted, object.injEq] at same
      have perm := List.mergeSort_perm (sortedMembers members) fun a b => Text.le a.1 b.1
      rw [same] at perm
      obtain ⟨between, same', perm'⟩ := exists_perm_of_sortedMembers (perm.symm.trans (List.mergeSort_perm ..))
      exact .object (reorderedMembers_of_sorted_eq members between same') perm'
    | _ => simp only [sorted, reduceCtorEq] at same

theorem reorderedItems_of_sorted_eq : (xs ys : List Value) -> sortedItems xs = sortedItems ys -> ReorderedItems xs ys
  | [], [], _ => .nil
  | [], _ :: _, same => by simp only [sortedItems, reduceCtorEq] at same
  | _ :: _, [], same => by simp only [sortedItems, reduceCtorEq] at same
  | x :: xs, y :: ys, same => by
    obtain ⟨first, others⟩ := List.cons.inj same
    exact .cons (reordered_of_sorted_eq x y first) (reorderedItems_of_sorted_eq xs ys others)

theorem reorderedMembers_of_sorted_eq : (ms ns : Members) -> sortedMembers ms = sortedMembers ns ->
    ReorderedMembers ms ns
  | [], [], _ => .nil
  | [], _ :: _, same => by simp only [sortedMembers, reduceCtorEq] at same
  | _ :: _, [], same => by simp only [sortedMembers, reduceCtorEq] at same
  | (key, v) :: ms, (key', w) :: ns, same => by
    obtain ⟨head, others⟩ := List.cons.inj same
    obtain ⟨sameKey, first⟩ := Prod.mk.inj head
    subst sameKey
    exact .cons key (reordered_of_sorted_eq v w first) (reorderedMembers_of_sorted_eq ms ns others)

end

/-! ### What is reordered is as deep -/

theorem depthMembers_le_iff {ms : Members} {n : Nat} : depthMembers ms ≤ n <-> forall m, m ∈ ms -> m.2.depth ≤ n := by
  induction ms with
  | nil => simp [depthMembers]
  | cons m rest ih =>
    obtain ⟨key, v⟩ := m
    rw [depthMembers, Nat.max_le, ih, List.forall_mem_cons]

theorem depthMembers_of_perm {ms ns : Members} (perm : ms.Perm ns) : depthMembers ms = depthMembers ns := by
  have same : forall n, depthMembers ms ≤ n <-> depthMembers ns ≤ n := by
    intro n
    rw [depthMembers_le_iff, depthMembers_le_iff]
    exact forall_congr' fun m => imp_congr_left perm.mem_iff
  exact Nat.le_antisymm ((same _).mpr (Nat.le_refl _)) ((same _).mp (Nat.le_refl _))

mutual

theorem Reordered.depth_eq {v w : Value} : Reordered v w -> v.depth = w.depth
  | .null => rfl
  | .bool _ => rfl
  | .int _ => rfl
  | .float _ => rfl
  | .string _ => rfl
  | .array items => congrArg (· + 1) items.depth_eq
  | .object members perm => congrArg (· + 1) (members.depth_eq.trans (depthMembers_of_perm perm))

theorem ReorderedItems.depth_eq {xs ys : List Value} : ReorderedItems xs ys -> depthItems xs = depthItems ys
  | .nil => rfl
  | .cons first others => congrArg₂ max first.depth_eq others.depth_eq

theorem ReorderedMembers.depth_eq {ms ns : Members} : ReorderedMembers ms ns -> depthMembers ms = depthMembers ns
  | .nil => rfl
  | .cons _ first others => congrArg₂ max first.depth_eq others.depth_eq

end

/-! ## The canonical form -/

/-- A value that the linter can sort has a canonical form.  That is the same value with its members in another order, namely
that of their keys.  All values that differ from it in nothing else have this canonical form, itself among them, and no
other value has. -/
theorem canonical_of_keyed {v : Value} (keyed : v.IsKeyed) (shallow : v.depth ≤ sortDepth) :
    exists canonical, v.sorted? = some canonical ∧ Reordered v canonical ∧ IsOrdered canonical ∧
      canonical.sorted? = some canonical ∧ forall w, w.sorted? = some canonical <-> Reordered v w := by
  have reaches : forall w, w.sorted? = some v.sorted <-> Reordered v w := by
    intro w
    rw [sorted?_eq_some_iff]
    constructor
    · rintro ⟨_, same⟩
      exact reordered_of_sorted_eq v w same.symm
    · intro reordered
      exact ⟨reordered.depth_eq ▸ shallow, (reordered.sorted_eq keyed).symm⟩
  exact ⟨v.sorted, sorted?_eq_some_iff.mpr ⟨shallow, rfl⟩, reordered_sorted v, isOrdered_sorted keyed,
    (reaches v.sorted).mpr (reordered_sorted v), reaches⟩

/-! ### An object with an object in an array -/

/-- A value of which two objects have their keys out of order. -/
def shuffled : Value :=
  .object
    [(Text.ofString "b", .array [.int 1, .object [(Text.ofString "d", .null), (Text.ofString "c", .int 0)]]),
      (Text.ofString "a", .bool true)]

/-- The same value with the keys of both in order. -/
def tidy : Value :=
  .object
    [(Text.ofString "a", .bool true),
      (Text.ofString "b", .array [.int 1, .object [(Text.ofString "c", .int 0), (Text.ofString "d", .null)]])]

theorem isKeyed_shuffled : shuffled.IsKeyed := by
  have inner : IsKeyed (.object [(Text.ofString "d", .null), (Text.ofString "c", .int 0)]) := by
    refine .object _ (by decide) (List.forall_mem_cons.mpr ⟨.null, List.forall_mem_singleton.mpr (.int 0)⟩)
  refine .object _ (by decide) (List.forall_mem_cons.mpr ⟨.array _ ?_, List.forall_mem_singleton.mpr (.bool true)⟩)
  exact List.forall_mem_cons.mpr ⟨.int 1, List.forall_mem_singleton.mpr inner⟩

theorem canonical_shuffled : shuffled.IsKeyed ∧ shuffled.depth ≤ sortDepth ∧ shuffled.sorted? = some tidy ∧
    Reordered shuffled tidy ∧ IsOrdered tidy ∧ tidy.sorted? = some tidy ∧
    forall w, w.sorted? = some tidy <-> Reordered shuffled w := by
  have shallow : shuffled.depth ≤ sortDepth := by decide
  obtain ⟨canonical, sorts, reordered, ordered, again, reaches⟩ := canonical_of_keyed isKeyed_shuffled shallow
  have outer : Text.le (Text.ofString "b") (Text.ofString "a") = false := by decide
  have inner : Text.le (Text.ofString "d") (Text.ofString "c") = false := by decide
  have same : canonical = tidy := by
    rw [← (sorted?_eq_some_iff.mp sorts).2]
    simp [shuffled, tidy, sorted, sortedItems, sortedMembers, List.mergeSort, outer, inner]
  subst same
  exact ⟨isKeyed_shuffled, shallow, sorts, reordered, ordered, again, reaches⟩

/-! ### A value that is too deep -/

/-- Nothing inside of so many arrays. -/
def boxed : Nat -> Value
  | 0 => .null
  | n + 1 => .array [boxed n]

theorem isKeyed_boxed (n : Nat) : (boxed n).IsKeyed := by
  induction n with
  | zero => exact .null
  | succ n ih => exact .array _ (List.forall_mem_singleton.mpr ih)

theorem depth_boxed (n : Nat) : (boxed n).depth = n := by
  induction n with
  | zero => rfl
  | succ n ih =>
    change max (boxed n).depth 0 + 1 = n + 1
    rw [ih, Nat.max_zero]

/-- There is nothing to reorder in nested arrays, and yet the linter sorts them only up to a depth. -/
theorem not_canonical_boxed : (boxed 600).IsKeyed ∧
    ¬ exists canonical, (boxed 600).sorted? = some canonical ∧ Reordered (boxed 600) canonical := by
  refine ⟨isKeyed_boxed 600, ?_⟩
  rintro ⟨canonical, sorts, -⟩
  have shallow := (sorted?_eq_some_iff.mp sorts).1
  rw [depth_boxed] at shallow
  exact absurd shallow (by decide)

end Value

end Json

end SchemaLint
