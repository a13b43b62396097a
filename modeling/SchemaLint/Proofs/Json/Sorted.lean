import Mathlib.Data.List.Nodup
import Mathlib.Data.List.Perm.Basic
import SchemaLint.Json.Equal
import SchemaLint.Json.Sorted

/-!
# The order of keys

Where no object uses a key twice, sorting is nothing but an exchange of members, and whatever looks up members by their
keys does not notice it.  So sorted values compare and rank as they did before.
-/

namespace SchemaLint

namespace Json

/-! ## Members by their keys -/

namespace Members

variable {ms ns : Members} {key : Text}

theorem get?_eq_none_iff : get? key ms = none <-> key ∉ keys ms := by
  induction ms with
  | nil => simp [get?, keys]
  | cons m rest ih =>
    obtain ⟨k, v⟩ := m
    unfold keys at ih ⊢
    rw [get?, List.map_cons, List.mem_cons, not_or, ← ih]
    by_cases here : k = key
    · simp [here]
    · simp [here, Ne.symm here]

theorem mem_of_get? {v : Value} (found : get? key ms = some v) : (key, v) ∈ ms := by
  induction ms with
  | nil => cases found
  | cons m rest ih =>
    obtain ⟨k, w⟩ := m
    rw [get?] at found
    split at found
    next here =>
      cases here
      cases found
      exact List.mem_cons_self ..
    next => exact List.mem_cons_of_mem _ (ih found)

theorem get?_map (f : Value -> Value) (ms : Members) (key : Text) :
    get? key (ms.map fun m => (m.1, f m.2)) = (get? key ms).map f := by
  induction ms with
  | nil => rfl
  | cons m rest ih =>
    obtain ⟨k, v⟩ := m
    rw [List.map_cons, get?, get?, ih]
    split <;> rfl

/-- The order of members does not matter where no key is used twice. -/
theorem get?_of_perm (perm : ms.Perm ns) (distinct : (keys ms).Nodup) : get? key ms = get? key ns := by
  induction perm with
  | nil => rfl
  | @cons m _ _ _ ih =>
    obtain ⟨k, v⟩ := m
    rw [get?, get?, ih (List.nodup_cons.mp distinct).2]
  | swap m n rest =>
    obtain ⟨k, v⟩ := m
    obtain ⟨l, w⟩ := n
    have differ : l ≠ k := by
      rintro rfl
      exact (List.nodup_cons.mp distinct).1 (List.mem_cons_self ..)
    simp only [get?]
    by_cases here : l = key
    · have other : ¬ k = key := fun same => differ (here.trans same.symm)
      rw [if_pos here, if_neg other, if_pos here]
    · rw [if_neg here, if_neg here]
  | trans first second ihFirst ihSecond =>
    exact (ihFirst distinct).trans (ihSecond ((first.map Prod.fst).nodup_iff.mp distinct))

/-- Members with their values sorted, in the order of their keys. -/
def sorted (ms : Members) : Members :=
  (ms.map fun m => (m.1, m.2.sorted)).mergeSort fun a b => Text.le a.1 b.1

theorem sorted_perm (ms : Members) : (sorted ms).Perm (ms.map fun m => (m.1, m.2.sorted)) :=
  List.mergeSort_perm ..

theorem keys_sorted_perm (ms : Members) : (keys (sorted ms)).Perm (keys ms) := by
  have perm := (sorted_perm ms).map Prod.fst
  rwa [List.map_map] at perm

theorem length_sorted (ms : Members) : (sorted ms).length = ms.length := by
  rw [(sorted_perm ms).length_eq, List.length_map]

theorem get?_sorted (distinct : (keys ms).Nodup) (key : Text) : get? key (sorted ms) = (get? key ms).map Value.sorted := by
  rw [get?_of_perm (sorted_perm ms) ((keys_sorted_perm ms).nodup_iff.mpr distinct), get?_map]

theorem has_iff (key : Text) (ms : Members) : has key ms = true <-> key ∈ keys ms := by
  unfold has
  rw [Option.isSome_iff_ne_none, ne_eq, get?_eq_none_iff, not_not]

/-- Whether a key is used does not depend on how often it is. -/
theorem has_sorted (ms : Members) (key : Text) : has key (sorted ms) = has key ms := by
  rw [Bool.eq_iff_iff, has_iff, has_iff]
  exact (keys_sorted_perm ms).mem_iff

end Members

namespace Value

/-! ## Values without repeated keys -/

/-- No object of a value uses a key twice. -/
inductive IsKeyed : Value -> Prop
  | null : IsKeyed .null
  | bool (b : Bool) : IsKeyed (.bool b)
  | int (n : Int) : IsKeyed (.int n)
  | float (x : Binary64) : IsKeyed (.float x)
  | string (s : Text) : IsKeyed (.string s)
  | array (items : List Value) (each : forall v, v ∈ items -> IsKeyed v) : IsKeyed (.array items)
  | object (members : Members) (distinct : members.keys.Nodup) (each : forall m, m ∈ members -> IsKeyed m.2) :
    IsKeyed (.object members)

theorem IsKeyed.item {items : List Value} (keyed : IsKeyed (.array items)) {v : Value} (member : v ∈ items) :
    v.IsKeyed := by
  cases keyed with
  | array _ each => exact each v member

theorem IsKeyed.distinct {members : Members} (keyed : IsKeyed (.object members)) : members.keys.Nodup := by
  cases keyed with
  | object _ distinct each => exact distinct

theorem IsKeyed.member {members : Members} (keyed : IsKeyed (.object members)) {m : Text × Value} (member : m ∈ members) :
    m.2.IsKeyed := by
  cases keyed with
  | object _ distinct each => exact each m member

theorem sortedItems_eq (items : List Value) : sortedItems items = items.map sorted := by
  induction items with
  | nil => rfl
  | cons v rest ih => rw [sortedItems, ih, List.map_cons]

theorem sortedMembers_eq (members : Members) : sortedMembers members = members.map fun m => (m.1, m.2.sorted) := by
  induction members with
  | nil => rfl
  | cons m rest ih =>
    obtain ⟨k, v⟩ := m
    rw [sortedMembers, ih, List.map_cons]

theorem sorted_array (items : List Value) : (array items).sorted = array (items.map sorted) := by
  rw [sorted, sortedItems_eq]

theorem sorted_object (members : Members) : (object members).sorted = object members.sorted := by
  rw [sorted, sortedMembers_eq]
  rfl

theorem sorted?_eq_some_iff {v w : Value} : v.sorted? = some w <-> v.depth ≤ sortDepth ∧ v.sorted = w := by
  simp [sorted?]

/-! ## Items and members that go along -/

/-- Whether two lists go along item by item. -/
def allItems (f : Value -> Value -> Bool) : List Value -> List Value -> Bool
  | [], [] => true
  | x :: xs, y :: ys => f x y && allItems f xs ys
  | _, _ => false

theorem sameItems_eq (xs ys : List Value) : sameItems xs ys = allItems same xs ys := by
  induction xs generalizing ys with
  | nil => cases ys <;> rfl
  | cons x xs ih =>
    cases ys with
    | nil => rfl
    | cons y ys => rw [sameItems, allItems, ih]

theorem alikeItems_eq (xs ys : List Value) : alikeItems xs ys = allItems alike xs ys := by
  induction xs generalizing ys with
  | nil => cases ys <;> rfl
  | cons x xs ih =>
    cases ys with
    | nil => rfl
    | cons y ys => rw [alikeItems, allItems, ih]

theorem allItems_sorted_left {f : Value -> Value -> Bool} {xs : List Value}
    (same : forall x, x ∈ xs -> forall w, f x.sorted w = f x w) (ys : List Value) :
    allItems f (xs.map sorted) ys = allItems f xs ys := by
  induction xs generalizing ys with
  | nil => rfl
  | cons x xs ih =>
    cases ys with
    | nil => rfl
    | cons y ys =>
      rw [List.map_cons, allItems, allItems, same x (List.mem_cons_self ..),
        ih fun x inside => same x (List.mem_cons_of_mem _ inside)]

theorem allItems_sorted_right {f : Value -> Value -> Bool} {ys : List Value}
    (same : forall y, y ∈ ys -> forall v, f v y.sorted = f v y) (xs : List Value) :
    allItems f xs (ys.map sorted) = allItems f xs ys := by
  induction xs generalizing ys with
  | nil => cases ys <;> rfl
  | cons x xs ih =>
    cases ys with
    | nil => rfl
    | cons y ys =>
      rw [List.map_cons, allItems, allItems, same y (List.mem_cons_self ..),
        ih fun y inside => same y (List.mem_cons_of_mem _ inside)]

/-- Whether every member goes along with the one of the same key. -/
def allMembers (f : Value -> Value -> Bool) (ms ns : Members) : Bool :=
  ms.all fun m =>
    match Members.get? m.1 ns with
    | some w => f m.2 w
    | none => false

theorem sameMembers_eq (ms ns : Members) : sameMembers ms ns = allMembers same ms ns := by
  induction ms with
  | nil => rfl
  | cons m rest ih =>
    obtain ⟨k, v⟩ := m
    rw [sameMembers, ih]
    rfl

theorem alikeMembers_eq (ms ns : Members) : alikeMembers ms ns = allMembers alike ms ns := by
  induction ms with
  | nil => rfl
  | cons m rest ih =>
    obtain ⟨k, v⟩ := m
    rw [alikeMembers, ih]
    rfl

/-- Members of which each goes along just if another one does. -/
theorem allMembers_congr {f g : Value -> Value -> Bool} {ms ns ns' : Members}
    (same : forall m, m ∈ ms -> (Members.get? m.1 ns).any (f m.2) = (Members.get? m.1 ns').any (g m.2)) :
    allMembers f ms ns = allMembers g ms ns' := by
  have asAny : forall (f : Value -> Value -> Bool) (ns : Members) (m : Text × Value),
      (match Members.get? m.1 ns with
        | some w => f m.2 w
        | none => false) = (Members.get? m.1 ns).any (f m.2) := by
    intro f ns m
    cases Members.get? m.1 ns <;> rfl
  unfold allMembers
  simp only [asAny]
  rw [Bool.eq_iff_iff, List.all_eq_true, List.all_eq_true]
  constructor
  · intro all m inside
    exact (same m inside).symm.trans (all m inside)
  · intro all m inside
    exact (same m inside).trans (all m inside)

theorem allMembers_sorted_left {f : Value -> Value -> Bool} {ms ns : Members}
    (same : forall m, m ∈ ms -> forall w, f m.2.sorted w = f m.2 w) :
    allMembers f ms.sorted ns = allMembers f ms ns := by
  have exchanged : allMembers f ms.sorted ns = allMembers (fun v => f v.sorted) ms ns := by
    unfold allMembers
    rw [(Members.sorted_perm ms).all_eq, List.all_map]
    rfl
  rw [exchanged]
  apply allMembers_congr
  intro m inside
  cases Members.get? m.1 ns with
  | none => rfl
  | some w => exact same m inside w

theorem allMembers_sorted_right {f : Value -> Value -> Bool} {ms ns : Members} (distinct : ns.keys.Nodup)
    (same : forall n, n ∈ ns -> forall v, f v n.2.sorted = f v n.2) :
    allMembers f ms ns.sorted = allMembers f ms ns := by
  apply allMembers_congr
  intro m inside
  rw [Members.get?_sorted distinct]
  cases found : Members.get? m.1 ns with
  | none => rfl
  | some w => exact same _ (Members.mem_of_get? found) m.2

/-! ## Equality -/

/-- An equality that compares arrays by their items, objects by their members, and neither with anything else. -/
structure IsDeep (f : Value -> Value -> Bool) : Prop where
  arrays (vs ws : List Value) : f (.array vs) (.array ws) = allItems f vs ws
  objects (ms ns : Members) : f (.object ms) (.object ns) = (ms.length == ns.length && allMembers f ms ns)
  ofArray {w : Value} (vs : List Value) (other : forall ws, w ≠ .array ws) : f (.array vs) w = false
  toArray {v : Value} (ws : List Value) (other : forall vs, v ≠ .array vs) : f v (.array ws) = false
  ofObject {w : Value} (ms : Members) (other : forall ns, w ≠ .object ns) : f (.object ms) w = false
  toObject {v : Value} (ns : Members) (other : forall ms, v ≠ .object ms) : f v (.object ns) = false

theorem isDeep_same : IsDeep same where
  arrays vs ws := by rw [same, sameItems_eq]
  objects ms ns := by rw [same, sameMembers_eq]
  ofArray {w} vs other := by cases w <;> first | rfl | exact absurd rfl (other _)
  toArray {v} ws other := by cases v <;> first | rfl | exact absurd rfl (other _)
  ofObject {w} ms other := by cases w <;> first | rfl | exact absurd rfl (other _)
  toObject {v} ns other := by cases v <;> first | rfl | exact absurd rfl (other _)

theorem isDeep_alike : IsDeep alike where
  arrays vs ws := by rw [alike, alikeItems_eq]
  objects ms ns := by rw [alike, alikeMembers_eq]
  ofArray {w} vs other := by cases w <;> first | rfl | exact absurd rfl (other _)
  toArray {v} ws other := by cases v <;> first | rfl | exact absurd rfl (other _)
  ofObject {w} ms other := by cases w <;> first | rfl | exact absurd rfl (other _)
  toObject {v} ns other := by cases v <;> first | rfl | exact absurd rfl (other _)

namespace IsDeep

variable {f : Value -> Value -> Bool} (deep : IsDeep f)
include deep

theorem sorted_left {v : Value} (keyed : v.IsKeyed) (w : Value) : f v.sorted w = f v w := by
  induction keyed generalizing w with
  | null => rfl
  | bool b => rfl
  | int n => rfl
  | float x => rfl
  | string s => rfl
  | array items each ih =>
    rw [sorted_array]
    cases w with
    | array others => rw [deep.arrays, deep.arrays, allItems_sorted_left ih]
    | _ => rw [deep.ofArray _ (by nofun), deep.ofArray _ (by nofun)]
  | object members distinct each ih =>
    rw [sorted_object]
    cases w with
    | object others => rw [deep.objects, deep.objects, Members.length_sorted, allMembers_sorted_left ih]
    | _ => rw [deep.ofObject _ (by nofun), deep.ofObject _ (by nofun)]

theorem sorted_right {w : Value} (keyed : w.IsKeyed) (v : Value) : f v w.sorted = f v w := by
  induction keyed generalizing v with
  | null => rfl
  | bool b => rfl
  | int n => rfl
  | float x => rfl
  | string s => rfl
  | array items each ih =>
    rw [sorted_array]
    cases v with
    | array others => rw [deep.arrays, deep.arrays, allItems_sorted_right ih]
    | _ => rw [deep.toArray _ (by nofun), deep.toArray _ (by nofun)]
  | object members distinct each ih =>
    rw [sorted_object]
    cases v with
    | object others => rw [deep.objects, deep.objects, Members.length_sorted, allMembers_sorted_right distinct ih]
    | _ => rw [deep.toObject _ (by nofun), deep.toObject _ (by nofun)]

end IsDeep

/-! ## Ranks -/

/-- Sorted values rank as they did before. -/
theorem below?_sorted {v : Value} (keyed : v.IsKeyed) {w : Value} (keyed' : w.IsKeyed) :
    below? v.sorted w.sorted = below? v w := by
  induction keyed generalizing w with
  | null => rfl
  | bool b => cases keyed' <;> rfl
  | int n => cases keyed' <;> rfl
  | float x => cases keyed' <;> rfl
  | string s => cases keyed' <;> rfl
  | array items each ih =>
    rw [sorted_array]
    cases keyed' with
    | array others each' =>
      rw [sorted_array, below?, below?]
      induction items generalizing others with
      | nil => cases others <;> rfl
      | cons v rest ihRest =>
        cases others with
        | nil => rfl
        | cons w others =>
          rw [List.map_cons, List.map_cons, belowItems?, belowItems?, isDeep_alike.sorted_left (each v (List.mem_cons_self ..)),
            isDeep_alike.sorted_right (each' w (List.mem_cons_self ..)),
            ih v (List.mem_cons_self ..) (each' w (List.mem_cons_self ..)),
            ihRest (fun v inside => each v (List.mem_cons_of_mem _ inside))
              (fun v inside => ih v (List.mem_cons_of_mem _ inside)) others
              fun w inside => each' w (List.mem_cons_of_mem _ inside)]
    | _ => rfl
  | object members distinct each ih => rfl

theorem itemBelow?_sorted {v w : Value} (keyed : v.IsKeyed) (keyed' : w.IsKeyed) :
    itemBelow? v.sorted w.sorted = itemBelow? v w := by
  have below := below?_sorted keyed keyed'
  cases keyed <;> cases keyed' <;> first | rfl | exact below

/-! ## Items in the order of their ranks -/

theorem insertRanked?_sorted {v : Value} (keyed : v.IsKeyed) (fuel : Nat) (low : List Value) {high : List Value}
    (each : forall w, w ∈ high -> w.IsKeyed) :
    insertRanked? v.sorted fuel (low.map sorted) (high.map sorted) =
      (insertRanked? v fuel low high).map (List.map sorted) := by
  induction fuel generalizing low high with
  | zero => simp [insertRanked?]
  | succ fuel ih =>
    cases high with
    | nil => simp [insertRanked?]
    | cons h high =>
      generalize isWhole : h :: high = whole at each ⊢
      have nonempty : whole ≠ [] := by
        rw [← isWhole]
        exact List.cons_ne_nil h high
      have middle : (whole.map sorted).length / 2 = whole.length / 2 := by rw [List.length_map]
      rw [insertRanked?, insertRanked?]
      · rw [middle, ← List.map_drop, ← List.map_take]
        cases dropped : whole.drop (whole.length / 2) with
        | nil => simp
        | cons w above =>
          have inside : forall u, u ∈ w :: above -> u.IsKeyed := fun u member =>
            each u (List.mem_of_mem_drop (dropped ▸ member))
          rw [List.map_cons]
          dsimp only
          rw [itemBelow?_sorted keyed (inside w (List.mem_cons_self ..))]
          cases itemBelow? v w with
          | none => rfl
          | some below =>
            cases below with
            | true =>
              dsimp only
              rw [ih low fun u member => each u (List.mem_of_mem_take member)]
              cases insertRanked? v fuel low (whole.take (whole.length / 2)) <;> simp
            | false =>
              have more := ih (low ++ whole.take (whole.length / 2) ++ [w]) fun u member =>
                inside u (List.mem_cons_of_mem _ member)
              simpa using more
      · exact nonempty
      · simpa using nonempty

theorem runLength?_sorted (falling : Bool) {v : Value} (keyed : v.IsKeyed) {items : List Value}
    (each : forall w, w ∈ items -> w.IsKeyed) :
    runLength? falling v.sorted (items.map sorted) = runLength? falling v items := by
  induction items generalizing v with
  | nil => rfl
  | cons w rest ih =>
    have keyed' : w.IsKeyed := each w (List.mem_cons_self ..)
    rw [List.map_cons, runLength?, runLength?, itemBelow?_sorted keyed' keyed,
      ih keyed' fun u inside => each u (List.mem_cons_of_mem _ inside)]

/-- The items that rise or fall from the start on are the same ones. -/
theorem leadingRun?_sorted {items : List Value} (each : forall w, w ∈ items -> w.IsKeyed) :
    leadingRun? (items.map sorted) =
      (leadingRun? items).map fun (run, others) => (run.map sorted, others.map sorted) := by
  match items with
  | [] => rfl
  | [v] => rfl
  | v :: w :: rest =>
    have first : v.IsKeyed := each v (by simp)
    have second : w.IsKeyed := each w (by simp)
    have others : forall u, u ∈ rest -> u.IsKeyed := fun u inside => each u (by simp [inside])
    rw [List.map_cons, List.map_cons, leadingRun?, leadingRun?, itemBelow?_sorted second first]
    cases itemBelow? w v with
    | none => rfl
    | some falling =>
      dsimp only
      rw [runLength?_sorted falling second others]
      cases runLength? falling w rest with
      | none => rfl
      | some more => cases falling <;> simp

/-- A run and the items behind it are the items. -/
theorem perm_of_leadingRun? {items run others : List Value} (found : leadingRun? items = some (run, others)) :
    (run ++ others).Perm items := by
  match items with
  | [] =>
    cases found
    exact .refl _
  | [u] =>
    cases found
    exact .refl _
  | u :: w :: rest =>
    rw [leadingRun?] at found
    split at found
    next => cases found
    next falling _ =>
      rcases Option.map_eq_some_iff.mp found with ⟨more, -, same⟩
      rcases Prod.mk.inj same with ⟨isRun, isOthers⟩
      have whole : u :: w :: rest = (u :: w :: rest.take more) ++ rest.drop more := by
        rw [List.cons_append, List.cons_append, List.take_append_drop]
      rw [whole, ← isRun, ← isOthers]
      apply List.Perm.append_right
      cases falling with
      | false => exact .refl _
      | true => exact List.reverse_perm _

/-- An item is put among the others, and nothing else is. -/
theorem perm_of_insertRanked? {v : Value} {fuel : Nat} {low high placed : List Value}
    (found : insertRanked? v fuel low high = some placed) : placed.Perm (v :: (low ++ high)) := by
  induction fuel generalizing low high placed with
  | zero =>
    cases found
    exact List.perm_middle
  | succ fuel ih =>
    unfold insertRanked? at found
    split at found
    next =>
      cases found
      exact List.perm_middle
    next =>
      dsimp only at found
      split at found
      next =>
        cases found
        exact List.perm_middle
      next w above dropped =>
        have whole : high = high.take (high.length / 2) ++ w :: above := by
          rw [← dropped, List.take_append_drop]
        split at found
        next => cases found
        next =>
          rcases Option.map_eq_some_iff.mp found with ⟨earlier, placed', rfl⟩
          rw [whole, ← List.append_assoc, ← List.cons_append]
          exact (ih placed').append_right _
        next =>
          rw [whole]
          simpa [List.append_assoc] using ih found

/-- Put items into their places one after the other. -/
def insertAll? (items run : List Value) : Option (List Value) :=
  items.foldlM (fun placed v => insertRanked? v (placed.length + 1) [] placed) run

theorem ranked?_eq (items : List Value) :
    ranked? items = (leadingRun? items).bind fun (run, others) => insertAll? others run :=
  rfl

theorem insertAll?_sorted {items run : List Value} (each : forall v, v ∈ items -> v.IsKeyed)
    (each' : forall v, v ∈ run -> v.IsKeyed) :
    insertAll? (items.map sorted) (run.map sorted) = (insertAll? items run).map (List.map sorted) := by
  induction items generalizing run with
  | nil => rfl
  | cons v rest ih =>
    have keyed : v.IsKeyed := each v (List.mem_cons_self ..)
    have first : insertRanked? v.sorted (run.length + 1) [] (run.map sorted) =
        (insertRanked? v (run.length + 1) [] run).map (List.map sorted) := insertRanked?_sorted keyed _ [] each'
    unfold insertAll? at ih ⊢
    rw [List.map_cons, List.foldlM_cons, List.foldlM_cons, List.length_map, first]
    cases placed : insertRanked? v (run.length + 1) [] run with
    | none => rfl
    | some placed' =>
      refine ih (fun u inside => each u (List.mem_cons_of_mem _ inside)) fun u inside => ?_
      rcases List.mem_cons.mp ((perm_of_insertRanked? placed).mem_iff.mp inside) with rfl | old
      · exact keyed
      · exact each' u old

theorem perm_of_insertAll? {items run placed : List Value} (found : insertAll? items run = some placed) :
    placed.Perm (run ++ items) := by
  induction items generalizing run with
  | nil =>
    cases found
    rw [List.append_nil]
  | cons v rest ih =>
    unfold insertAll? at ih found
    rw [List.foldlM_cons] at found
    rcases Option.bind_eq_some_iff.mp found with ⟨first, isFirst, later⟩
    calc
      placed.Perm (first ++ rest) := ih later
      _ |>.Perm (v :: run ++ rest) := (perm_of_insertRanked? isFirst).append_right rest
      _ |>.Perm (run ++ v :: rest) := List.perm_middle.symm

/-- The items are put into the same order. -/
theorem ranked?_sorted {items : List Value} (each : forall w, w ∈ items -> w.IsKeyed) :
    ranked? (items.map sorted) = (ranked? items).map (List.map sorted) := by
  rw [ranked?_eq, ranked?_eq, leadingRun?_sorted each]
  cases found : leadingRun? items with
  | none => rfl
  | some both =>
    obtain ⟨run, others⟩ := both
    have members : forall v, v ∈ run ++ others -> v.IsKeyed := fun v inside =>
      each v ((perm_of_leadingRun? found).mem_iff.mp inside)
    exact insertAll?_sorted (fun v inside => members v (List.mem_append_right run inside))
      fun v inside => members v (List.mem_append_left others inside)

/-- Ranking puts the items into an order. -/
theorem perm_of_ranked? {items placed : List Value} (found : ranked? items = some placed) : placed.Perm items := by
  rw [ranked?_eq] at found
  rcases Option.bind_eq_some_iff.mp found with ⟨⟨run, others⟩, leading, inserted⟩
  exact (perm_of_insertAll? inserted).trans (perm_of_leadingRun? leading)

/-! ## All different -/

theorem same_sorted {v w : Value} (keyed : v.IsKeyed) (keyed' : w.IsKeyed) : v.sorted.same w.sorted = v.same w := by
  rw [isDeep_same.sorted_left keyed, isDeep_same.sorted_right keyed']

theorem sameNeighbours_sorted {items : List Value} (each : forall w, w ∈ items -> w.IsKeyed) :
    sameNeighbours (items.map sorted) = sameNeighbours items := by
  induction items with
  | nil => rfl
  | cons v rest ih =>
    cases rest with
    | nil => rfl
    | cons w rest =>
      have later := ih fun u inside => each u (List.mem_cons_of_mem _ inside)
      rw [List.map_cons] at later
      rw [List.map_cons, List.map_cons, sameNeighbours, sameNeighbours, later,
        same_sorted (each v (List.mem_cons_self ..)) (each w (by simp))]

theorem samePair_sorted {items : List Value} (each : forall w, w ∈ items -> w.IsKeyed) :
    samePair (items.map sorted) = samePair items := by
  induction items with
  | nil => rfl
  | cons v rest ih =>
    have others : (rest.map sorted).any (same v.sorted ·) = rest.any (same v ·) := by
      rw [List.any_map, Bool.eq_iff_iff, List.any_eq_true, List.any_eq_true]
      refine exists_congr fun u => and_congr_right fun inside => ?_
      rw [Function.comp_apply, same_sorted (each v (List.mem_cons_self ..)) (each u (List.mem_cons_of_mem _ inside))]
    rw [List.map_cons, samePair, samePair, others, ih fun u inside => each u (List.mem_cons_of_mem _ inside)]

/-- Items are all different just if they are so once they are sorted. -/
theorem allDifferent_sorted {items : List Value} (each : forall w, w ∈ items -> w.IsKeyed) :
    allDifferent (items.map sorted) = allDifferent items := by
  unfold allDifferent
  rw [ranked?_sorted each]
  cases found : ranked? items with
  | none =>
    dsimp only [Option.map_none]
    rw [samePair_sorted each]
  | some placed =>
    dsimp only [Option.map_some]
    rw [sameNeighbours_sorted fun v inside => each v ((perm_of_ranked? found).mem_iff.mp inside)]

end Value

end Json

end SchemaLint
