import Mathlib.Logic.Function.Basic
import SchemaLint.Files.Disk

/-!
# Places of a disk

A place is the list of names that leads to it from the root without any link.  What places stand for is all that a walk
looks at.  A change at a place at which there is no folder, to something that holds nothing, changes what this one place
stands for and nothing else.
-/

namespace SchemaLint

namespace Disk

variable {root entries : Contents} {name : String} {way : List String}

/-! ## Entries of a folder -/

theorem lookup_cons_eq_ite (x n : String) (e : Entry) (rest : Contents) :
    List.lookup x ((n, e) :: rest) = if x = n then some e else rest.lookup x := by
  rw [List.lookup_cons]
  by_cases same : x = n
  · rw [if_pos same, beq_iff_eq.mpr same]
  · rw [if_neg same, beq_eq_false_iff_ne.mpr same]

theorem lookup_putEntry (name x : String) (e : Entry) (entries : Contents) :
    (putEntry name e entries).lookup x = if x = name then some e else entries.lookup x := by
  induction entries with
  | nil => exact lookup_cons_eq_ite x name e []
  | cons head rest ih =>
    obtain ⟨n, old⟩ := head
    unfold putEntry
    by_cases here : n = name
    · subst here
      rw [if_pos rfl, lookup_cons_eq_ite, lookup_cons_eq_ite]
      by_cases same : x = n <;> simp [same]
    · rw [if_neg here, lookup_cons_eq_ite, lookup_cons_eq_ite, ih]
      by_cases same : x = n
      · subst same
        simp [here]
      · simp [same]

theorem lookup_filter_ne (name x : String) (entries : Contents) :
    (entries.filter fun entry => entry.1 != name).lookup x = if x = name then none else entries.lookup x := by
  induction entries with
  | nil => simp
  | cons head rest ih =>
    obtain ⟨n, old⟩ := head
    by_cases here : n = name
    · subst here
      rw [List.filter_cons_of_neg (by simp), ih, lookup_cons_eq_ite]
      by_cases same : x = n <;> simp [same]
    · rw [List.filter_cons_of_pos (by simpa using here), lookup_cons_eq_ite, lookup_cons_eq_ite, ih]
      by_cases same : x = n
      · subst same
        simp [here]
      · simp [same]

theorem lookup_setEntry (name x : String) (e : Option Entry) (entries : Contents) :
    (setEntry name e entries).lookup x = if x = name then e else entries.lookup x := by
  cases e with
  | some e => exact lookup_putEntry name x e entries
  | none => exact lookup_filter_ne name x entries

/-! ## What places stand for -/

theorem kindAt?_nil (root : Contents) : kindAt? root [] = some .folder :=
  rfl

theorem kindAt?_cons_of_folder {inner : Contents} (found : root.lookup name = some (.folder inner))
    (rest : List String) : kindAt? root (name :: rest) = kindAt? inner rest := by
  simp only [kindAt?, entryAt?, found]

theorem kindAt?_cons_of_not_folder (bare : forall inner, root.lookup name ≠ some (.folder inner))
    (rest : List String) :
    kindAt? root (name :: rest) = if rest = [] then (root.lookup name).map Entry.kind else none := by
  cases found : root.lookup name with
  | none => simp [kindAt?, entryAt?, found]
  | some e =>
    cases e with
    | folder inner => exact absurd found (bare inner)
    | file contents => by_cases last : rest = [] <;> simp [kindAt?, entryAt?, found, last]
    | link target => by_cases last : rest = [] <;> simp [kindAt?, entryAt?, found, last]

/-- A name that no entry of a folder has stands for nothing. -/
theorem kindAt?_eq_none_of_not_mem (found : entryAt? root way = some (.folder entries))
    (absent : name ∉ entries.map Prod.fst) : kindAt? root (way ++ [name]) = none := by
  induction way generalizing root with
  | nil =>
    cases found
    have nothing : entries.lookup name = none := by
      rw [List.lookup_eq_none_iff]
      intro entry member
      rw [bne_iff_ne]
      rintro rfl
      exact absent (List.mem_map_of_mem member)
    simp [kindAt?, entryAt?, nothing]
  | cons first others ih =>
    simp only [entryAt?] at found
    cases there : root.lookup first with
    | none =>
      rw [there] at found
      cases found
    | some e =>
      rw [there] at found
      cases e with
      | folder inner =>
        rw [List.cons_append, kindAt?_cons_of_folder there]
        exact ih found
      | file contents => by_cases last : others.isEmpty = true <;> simp [last] at found
      | link target => by_cases last : others.isEmpty = true <;> simp [last] at found

/-- A folder is a folder at the place of its name. -/
theorem exists_folder_of_kindAt? (folder : kindAt? root (name :: way) = some .folder) :
    exists inner, root.lookup name = some (.folder inner) ∧ kindAt? inner way = some .folder := by
  by_cases inside : exists inner, root.lookup name = some (.folder inner)
  · obtain ⟨inner, found⟩ := inside
    rw [kindAt?_cons_of_folder found] at folder
    exact ⟨inner, found, folder⟩
  · have bare : forall inner, root.lookup name ≠ some (.folder inner) :=
      fun inner found => inside ⟨inner, found⟩
    rw [kindAt?_cons_of_not_folder bare] at folder
    by_cases last : way = []
    · rw [if_pos last] at folder
      obtain ⟨e, found, kind⟩ := Option.map_eq_some_iff.mp folder
      cases e with
      | folder inner => exact absurd found (bare inner)
      | file contents => cases kind
      | link target => cases kind
    · rw [if_neg last] at folder
      cases folder

/-- There is something in folders only. -/
theorem folder_of_below (way : List String) {below : List String} (nonempty : below ≠ [])
    (there : kindAt? root (way ++ below) ≠ none) : kindAt? root way = some .folder := by
  induction way generalizing root with
  | nil => exact kindAt?_nil root
  | cons name rest ih =>
    rw [List.cons_append] at there
    by_cases inside : exists inner, root.lookup name = some (.folder inner)
    · obtain ⟨inner, found⟩ := inside
      rw [kindAt?_cons_of_folder found] at there ⊢
      exact ih there
    · have bare : forall inner, root.lookup name ≠ some (.folder inner) :=
        fun inner found => inside ⟨inner, found⟩
      rw [kindAt?_cons_of_not_folder bare, if_neg (List.append_ne_nil_of_right_ne_nil rest nonempty)] at there
      exact absurd rfl there

/-- An entry that holds nothing. -/
def Hollow (e : Option Entry) : Prop :=
  forall inner, e = some (.folder inner) -> inner = []

/-- What an entry that holds nothing puts at a place and below it. -/
theorem kindAt?_cons_of_hollow {e : Option Entry} (hollow : Hollow e) (found : root.lookup name = e)
    (rest : List String) : kindAt? root (name :: rest) = if rest = [] then e.map Entry.kind else none := by
  by_cases inside : exists inner, root.lookup name = some (.folder inner)
  · obtain ⟨inner, folder⟩ := inside
    have empty : inner = [] := hollow inner (found.symm.trans folder)
    subst empty
    rw [kindAt?_cons_of_folder folder, ← found, folder]
    cases rest with
    | nil => rfl
    | cons next more => rfl
  · rw [kindAt?_cons_of_not_folder fun inner folder => inside ⟨inner, folder⟩, found]

/-- To put something hollow where there is no folder changes what this place stands for and nothing else. -/
theorem kindAt?_setAt {e : Option Entry} (folder : kindAt? root way = some .folder)
    (bare : kindAt? root (way ++ [name]) ≠ some .folder) (hollow : Hollow e) :
    kindAt? (setAt e (way ++ [name]) root) = Function.update (kindAt? root) (way ++ [name]) (e.map Entry.kind) := by
  induction way generalizing root with
  | nil =>
    have old : forall inner, root.lookup name ≠ some (.folder inner) := by
      intro inner found
      rw [List.nil_append, kindAt?_cons_of_folder found] at bare
      exact bare (kindAt?_nil inner)
    funext place
    cases place with
    | nil => rfl
    | cons x rest =>
      have set : (setAt e [name] root).lookup x = if x = name then e else root.lookup x :=
        lookup_setEntry name x e root
      by_cases here : x = name
      · subst here
        rw [if_pos rfl] at set
        rw [List.nil_append, kindAt?_cons_of_hollow hollow set, Function.update_apply,
          kindAt?_cons_of_not_folder old]
        by_cases last : rest = []
        · rw [if_pos last, if_pos (by rw [last])]
        · rw [if_neg last, if_neg (by simpa using last), if_neg last]
      · rw [if_neg here] at set
        rw [List.nil_append, Function.update_of_ne (by simp [here])]
        simp only [kindAt?, entryAt?, set]
  | cons first others ih =>
    obtain ⟨inner, found, deeper⟩ := exists_folder_of_kindAt? folder
    rw [List.cons_append, kindAt?_cons_of_folder found] at bare
    have step : setAt e (first :: (others ++ [name])) root =
        setEntry first (some (.folder (setAt e (others ++ [name]) inner))) root := by
      cases others with
      | nil => simp [setAt, found]
      | cons second more => simp [setAt, found]
    have changed := ih deeper bare
    funext place
    cases place with
    | nil => rfl
    | cons x rest =>
      have set := lookup_setEntry first x (some (.folder (setAt e (others ++ [name]) inner))) root
      rw [List.cons_append, step]
      by_cases here : x = first
      · subst here
        rw [if_pos rfl] at set
        rw [kindAt?_cons_of_folder set, changed, Function.update_apply, Function.update_apply,
          kindAt?_cons_of_folder found]
        simp only [List.cons.injEq, true_and]
      · rw [if_neg here] at set
        rw [Function.update_of_ne (by simp [here])]
        simp only [kindAt?, entryAt?, set]

end Disk

end SchemaLint
