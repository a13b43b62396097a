import SchemaLint.Proofs.Files.Direct
import SchemaLint.Proofs.Results

/-!
# Folders behind a link

A path that begins with a link from the root leads to where the names of the link and its own names lead, and these are
the names of its real path.  So a path that can be written may lead to a folder whose real path is too long to be asked
for.
-/

namespace SchemaLint

namespace Path

/-- What stands in a written path is a slash or stands in one of its names. -/
theorem not_mem_text {p : Path} {c : Char} (nonempty : p.parts ≠ []) (other : c ≠ '/')
    (clean : forall name, name ∈ p.parts -> c ∉ name.toList) : c ∉ p.text.toList := by
  intro inside
  rw [toList_text nonempty, List.mem_append] at inside
  rcases inside with start | inside
  · obtain ⟨s, parts⟩ := p
    cases s <;> simp [Start.text] at start <;> exact other start
  · have notBetween : c ∉ ['/'] := fun slash => other (List.mem_singleton.mp slash)
    obtain ⟨part, member, inside⟩ := (mem_intercalate_iff notBetween).mp inside
    obtain ⟨name, isName, rfl⟩ := List.mem_map.mp member
    exact clean name isName inside

end Path

namespace Disk

variable {d : Disk} {root : Contents} {way names outer : List String} {name target : String} {fuel : Nat}
  {rest : List Pending} {seen : List (List String × Option (List String))}

/-- A path that is too long is refused. -/
theorem locate_of_long {path : String} {last : Bool} (clean : '\x00' ∉ path.toList)
    (long : pathLimit < path.utf8ByteSize) : d.locate last path = .error .nameTooLong := by
  have nonempty : path.isEmpty = false := by
    rw [Bool.eq_false_iff]
    intro empty
    rw [String.isEmpty_iff.mp empty] at long
    exact absurd long (by decide)
  rw [locate, if_neg (by simpa using clean), if_neg (by simp [nonempty]), if_pos long]

theorem isFile_of_long {path : String} (clean : '\x00' ∉ path.toList) (long : pathLimit < path.utf8ByteSize) :
    d.isFile path = .error .nameTooLong := by
  rw [isFile, find_eq_error_iff.mpr (locate_of_long clean long)]

/-! ## Real paths -/

/-- Names that lead along folders are taken as they are. -/
theorem realNames_folders (plain : forall name, name ∈ names -> IsPlain name)
    (folder : kindAt? root (way ++ names) = some .folder) :
    realNames root (names.length + fuel) way (names.map .name ++ rest) seen =
      realNames root fuel (way ++ names) rest seen := by
  induction names generalizing way with
  | nil => rw [List.length_nil, Nat.zero_add, List.map_nil, List.nil_append, List.append_nil]
  | cons name others ih =>
    obtain ⟨notEmpty, notDot, notDots⟩ := plain name (List.mem_cons_self ..)
    rw [List.append_cons] at folder ⊢
    have here : kindAt? root (way ++ [name]) = some .folder := by
      by_cases finished : others = []
      · rw [finished, List.append_nil] at folder
        exact folder
      · refine folder_of_below _ finished ?_
        rw [folder]
        exact Option.some_ne_none _
    obtain ⟨e, found, isFolder⟩ := Option.map_eq_some_iff.mp here
    rw [List.length_cons, Nat.add_right_comm, List.map_cons, List.cons_append, realNames]
    simp only [notEmpty, notDot, notDots, decide_false, Bool.or_self, Bool.false_eq_true, if_false, found]
    have onward := ih (fun n inside => plain n (List.mem_cons_of_mem _ inside)) folder
    cases e with
    | folder inner => exact onward
    | file contents => cases isFolder
    | link target => cases isFolder

/-- The steps that an entry can add are among those of the whole folder. -/
theorem linkStepsOf_le {e : Entry} (found : root.lookup name = some e) : linkStepsOf e <= linkSteps root := by
  induction root with
  | nil => cases found
  | cons entry others ih =>
    obtain ⟨n, first⟩ := entry
    rw [linkSteps]
    rw [List.lookup_cons] at found
    split at found
    · cases found
      exact Nat.le_add_right ..
    · exact Nat.le_trans (ih found) (Nat.le_add_left ..)

theorem length_steps_lt_linkSteps (link : root.lookup name = some (.link target)) :
    (steps target).length < linkSteps root := by
  have added := linkStepsOf_le link
  rw [linkStepsOf] at added
  exact added

/-- There are no links where no steps can be added. -/
theorem kindAt?_ne_link (none : linkSteps root = 0) (place : List String) (target : String) :
    kindAt? root place ≠ some (.link target) := by
  induction place generalizing root with
  | nil =>
    rw [kindAt?_nil]
    nofun
  | cons name rest ih =>
    by_cases inside : exists inner, root.lookup name = some (.folder inner)
    · obtain ⟨inner, found⟩ := inside
      have few : linkSteps inner <= linkSteps root := linkStepsOf_le found
      rw [kindAt?_cons_of_folder found]
      exact ih (Nat.le_zero.mp (none ▸ few))
    · rw [kindAt?_cons_of_not_folder (not_exists.mp inside)]
      split
      · intro link
        obtain ⟨e, found, isLink⟩ := Option.map_eq_some_iff.mp link
        have few : linkStepsOf e <= 0 := none ▸ linkStepsOf_le found
        cases e <;> cases isLink
        rw [linkStepsOf] at few
        exact absurd few (Nat.not_succ_le_zero _)
      · nofun

/-- A link from the root to a folder. -/
structure Linked (d : Disk) (name target : String) (outer names : List String) : Prop where
  link : d.root.lookup name = some (.link target)
  steps : steps target = outer
  relative : isRooted target = false
  nonempty : target.isEmpty = false
  short : forall n, n ∈ name :: (outer ++ names) -> IsShort n ∧ Path.IsName n ∧ '\x00' ∉ n.toList
  folder : kindAt? d.root (outer ++ names) = some .folder
  writable : (⟨.root, name :: names⟩ : Path).text.utf8ByteSize <= pathLimit

namespace Linked

variable (linked : Linked d name target outer names)
include linked

theorem kind : kindAt? d.root [name] = some (.link target) := by
  simp [kindAt?, entryAt?, linked.link, Entry.kind]

/-- A path that begins with the link leads to the folder. -/
theorem leads : d.Leads ⟨.root, name :: names⟩ (outer ++ names) := by
  have among : forall {n}, n ∈ name :: names -> n ∈ name :: (outer ++ names) := by
    intro n member
    rcases List.mem_cons.mp member with rfl | inside
    · exact List.mem_cons_self ..
    · exact List.mem_cons_of_mem _ (List.mem_append_right _ inside)
  refine (leads_iff fun n member => (linked.short n (among member)).2.1).mpr ⟨⟨?_, linked.writable⟩, ?_, linked.folder⟩
  · exact Path.not_mem_text (List.cons_ne_nil _ _) (by decide) fun n member => (linked.short n (among member)).2.2
  · obtain ⟨⟨plain, fits⟩, -⟩ := linked.short name (List.mem_cons_self ..)
    have along : walk (kindAt? d.root) true 39 [] (outer ++ names) = .ok ([] ++ (outer ++ names)) :=
      walk_folders (isTree d.root) (fun n inside => (linked.short n (List.mem_cons_of_mem _ inside)).1) linked.folder
    refine walk_eq_ok_iff.mpr (.follow plain fits linked.kind (fun _ => rfl) linked.nonempty ?_)
    rw [linked.steps, ite_self]
    exact walk_eq_ok_iff.mp along

/-- The real path of the folder goes by the names behind the link, unless that is a way with too many links. -/
theorem realPath (ends : d.find true (⟨.root, outer ++ names⟩ : Path).text ≠ .error .tooManyLinks) :
    d.realPath ⟨.root, name :: names⟩ = .ok ⟨.root, outer ++ names⟩ := by
  obtain ⟨⟨⟨notEmpty, notDot, notDots⟩, -⟩, -, -⟩ := linked.short name (List.mem_cons_self ..)
  have plain : forall n, n ∈ outer ++ names -> IsPlain n :=
    fun n inside => (linked.short n (List.mem_cons_of_mem _ inside)).1.1
  have clean : ((name :: names).any fun n => n.toList.contains '\x00') = false := by
    rw [List.any_eq_false]
    intro n member
    have among : n ∈ name :: (outer ++ names) := by
      rcases List.mem_cons.mp member with rfl | inside
      · exact List.mem_cons_self ..
      · exact List.mem_cons_of_mem _ (List.mem_append_right _ inside)
    simpa using (linked.short n among).2.2
  obtain ⟨left, fuel⟩ : exists left, linkSteps d.root = outer.length + left + 1 :=
    Nat.exists_eq_add_of_lt (linked.steps ▸ length_steps_lt_linkSteps linked.link)
  have outside : kindAt? d.root ([] ++ outer) = some .folder := by
    by_cases finished : names = []
    · rw [List.nil_append, ← List.append_nil outer, ← finished]
      exact linked.folder
    · exact folder_of_below _ finished (by simp [linked.folder])
  have real : realNames d.root ((name :: names).length + linkSteps d.root + 1) [] ((name :: names).map .name) [] =
      outer ++ names := by
    have enough : (name :: names).length + linkSteps d.root + 1 =
        (outer.length + ((names.length + (left + 1)) + 1)) + 1 := by
      rw [fuel, List.length_cons]
      omega
    rw [enough, List.map_cons, realNames]
    have entry : entryAt? d.root ([] ++ [name]) = some (.link target) := by
      simp [entryAt?, linked.link]
    simp only [notEmpty, notDot, notDots, decide_false, Bool.or_self, Bool.false_eq_true, if_false, entry,
      List.lookup_nil, ite_self, linked.steps]
    rw [realNames_folders (fun n inside => plain n (List.mem_append_left _ inside)) outside, realNames,
      ← List.append_nil (names.map Pending.name), List.nil_append outer,
      realNames_folders (fun n inside => plain n (List.mem_append_right _ inside)) linked.folder, realNames]
  unfold Disk.realPath
  simp only [clean, Bool.false_eq_true, if_false, reduceCtorEq, real]

end Linked

/-! ## Folders in one another -/

/-- Folders in one another, the outermost first; the innermost one is empty. -/
def nested : List String -> Contents
  | [] => []
  | name :: rest => [(name, .folder (nested rest))]

theorem kindAt?_nested (names : List String) : kindAt? (nested names) names = some .folder := by
  induction names with
  | nil => rfl
  | cons name rest ih =>
    have first : (nested (name :: rest)).lookup name = some (.folder (nested rest)) := by simp [nested]
    rw [kindAt?_cons_of_folder first]
    exact ih

/-- There are folders only. -/
theorem kindAt?_nested_ne_file (names way : List String) (contents : Bytes) :
    kindAt? (nested names) way ≠ some (.file contents) := by
  induction names generalizing way with
  | nil => cases way <;> simp [kindAt?, entryAt?, nested, Entry.kind]
  | cons name rest ih =>
    cases way with
    | nil => simp [kindAt?, entryAt?, Entry.kind]
    | cons first others =>
      by_cases same : first = name
      · have found : (nested (name :: rest)).lookup first = some (.folder (nested rest)) := by simp [nested, same]
        rw [kindAt?_cons_of_folder found]
        exact ih others
      · have absent : (nested (name :: rest)).lookup first = none := by
          rw [nested, List.lookup_cons, beq_false_of_ne same, List.lookup_nil]
        simp [kindAt?, entryAt?, absent]

/-- A disk that holds folders in one another and a link to one of them. -/
def behind (name : String) (outer names : List String) : Disk where
  root := (name, .link (⟨.here, outer⟩ : Path).text) :: nested (outer ++ names)
  current := ⟨.root, []⟩

theorem kindAt?_behind (different : name ∉ outer ++ names) (way : List String) :
    kindAt? (behind name outer names).root way = kindAt? (nested (outer ++ names)) way ∨
      exists target, kindAt? (behind name outer names).root way = some (.link target) := by
  cases way with
  | nil => exact .inl rfl
  | cons first rest =>
    by_cases same : first = name
    · have link : (behind name outer names).root.lookup first = some (.link (⟨.here, outer⟩ : Path).text) := by
        simp [behind, same]
      by_cases finished : rest = []
      · exact .inr ⟨_, by simp [kindAt?, entryAt?, link, finished, Entry.kind]; rfl⟩
      · refine .inl ?_
        have absent : (nested (outer ++ names)).lookup first = none := by
          cases every : outer ++ names with
          | nil => rfl
          | cons n others =>
            have other : first ≠ n := by
              rintro rfl
              exact different (every ▸ same ▸ List.mem_cons_self ..)
            rw [nested, List.lookup_cons, beq_false_of_ne other, List.lookup_nil]
        simp [kindAt?, entryAt?, link, absent, finished]
    · refine .inl ?_
      have skipped : (behind name outer names).root.lookup first = (nested (outer ++ names)).lookup first := by
        rw [behind, List.lookup_cons, beq_false_of_ne same]
      simp only [kindAt?, entryAt?, skipped]

/-- There are no files. -/
theorem readFile_behind_ne_ok (different : name ∉ outer ++ names) (path : String) (contents : Bytes) :
    (behind name outer names).readFile path ≠ .ok contents := by
  intro read
  obtain ⟨⟨place, e⟩, found, rest⟩ := bind_eq_ok_iff.mp read
  cases e with
  | file held =>
    have kind := kind_of_find found
    rcases kindAt?_behind different place with same | ⟨target, link⟩
    · exact kindAt?_nested_ne_file _ _ _ (same.symm.trans kind)
    · cases link.symm.trans kind
  | folder entries => cases rest
  | link target => cases rest

theorem linked_behind (different : name ∉ outer ++ names) (nonempty : outer ≠ [])
    (short : forall n, n ∈ name :: (outer ++ names) -> IsShort n ∧ Path.IsName n ∧ '\x00' ∉ n.toList)
    (writable : (⟨.root, name :: names⟩ : Path).text.utf8ByteSize <= pathLimit) :
    Linked (behind name outer names) name (⟨.here, outer⟩ : Path).text outer names := by
  have proper : (⟨.here, outer⟩ : Path).IsProper :=
    fun n inside => (short n (List.mem_cons_of_mem _ (List.mem_append_left _ inside))).2.1
  refine ⟨by simp [behind], Path.steps_text_here proper nonempty rfl, Path.isRooted_text_here proper rfl,
    Path.text_ne_empty proper, short, ?_, writable⟩
  obtain ⟨first, others, rfl⟩ := List.exists_cons_of_ne_nil nonempty
  have skipped : (behind name (first :: others) names).root.lookup first =
      (nested (first :: others ++ names)).lookup first := by
    have other : first ≠ name := by
      rintro rfl
      exact different (List.mem_cons_self ..)
    rw [behind, List.lookup_cons, beq_false_of_ne other]
  rw [← kindAt?_nested (first :: others ++ names)]
  simp only [List.cons_append, kindAt?, entryAt?] at skipped ⊢
  rw [skipped]

end Disk

end SchemaLint
