import Mathlib.Data.List.Induction
import SchemaLint.Proofs.Files.Changes
import SchemaLint.Proofs.Lists

/-!
# Paths without links

A path that goes from the root along folders leads to where its names say, and it is its own real path.  So is the path
of anything in such a folder that is no link.
-/

namespace SchemaLint

namespace Path

/-- The names of a path that can be written can be written. -/
theorem IsWritable.name {p : Path} (writable : p.IsWritable) {name : String} (member : name ∈ p.parts) :
    '\x00' ∉ name.toList := by
  intro inside
  refine writable.1 ?_
  rw [toList_text (List.ne_nil_of_mem member)]
  exact List.mem_append_right _ ((mem_intercalate_iff (by decide)).mpr ⟨_, List.mem_map_of_mem member, inside⟩)

end Path

namespace Disk

variable {d : Disk} {p : Path} {name : String} {kind : List String -> Option Kind} {last : Bool} {links : Nat}
  {way names : List String} {contents : Bytes}

/-- A name that stands for an entry of a folder and is not too long. -/
def IsShort (name : String) : Prop :=
  IsPlain name ∧ name.utf8ByteSize <= nameLimit

/-- Names lead to what is there, if it is no link. -/
theorem walk_down (tree : IsTree kind) (short : forall name, name ∈ names -> IsShort name)
    (there : kind (way ++ names) ≠ none) (noLink : forall target, kind (way ++ names) ≠ some (.link target)) :
    walk kind last links way names = .ok (way ++ names) := by
  rw [walk_eq_ok_iff]
  induction names generalizing way with
  | nil => simpa using Arrives.nil links way
  | cons name rest ih =>
    obtain ⟨plain, fits⟩ := short name (List.mem_cons_self ..)
    rw [List.append_cons] at there noLink ⊢
    have later := ih (fun name inside => short name (List.mem_cons_of_mem _ inside)) there noLink
    by_cases final : rest = []
    · rw [final, List.append_nil] at there noLink later ⊢
      cases here : kind (way ++ [name]) with
      | none => exact absurd here there
      | some k =>
        cases k with
        | file contents => exact .file plain fits here
        | folder => exact .folder plain fits here later
        | link target => exact absurd here (noLink target)
    · -- only what is last may be anything but a folder
      exact .folder plain fits (tree.above final there) later

theorem walk_folders (tree : IsTree kind) (short : forall name, name ∈ names -> IsShort name)
    (folder : kind (way ++ names) = some .folder) : walk kind last links way names = .ok (way ++ names) :=
  walk_down tree short (by simp [folder]) (by simp [folder])

/-- A path from the root along folders. -/
structure Direct (d : Disk) (p : Path) : Prop where
  start : p.start = .root
  proper : p.IsProper
  short : forall name, name ∈ p.parts -> IsShort name
  writable : p.IsWritable
  folder : kindAt? d.root p.parts = some .folder

theorem Direct.leads (direct : Direct d p) : d.Leads p p.parts := by
  refine (leads_iff direct.proper).mpr ⟨direct.writable, ?_, direct.folder⟩
  have names : p.names d.current = p.parts := by
    unfold Path.names
    rw [direct.start]
  rw [names]
  exact walk_folders (isTree d.root) direct.short direct.folder

theorem Direct.of_child (direct : Direct d (p.child name)) : Direct d p where
  start := direct.start
  proper := fun n member => direct.proper n (List.mem_append_left _ member)
  short := fun n member => direct.short n (List.mem_append_left _ member)
  writable := direct.writable.of_child
  folder := (isTree d.root).above (List.cons_ne_nil name []) (by
    have there := direct.folder
    unfold Path.child at there
    rw [there]
    exact Option.some_ne_none _)

/-- So are the folders that contain it. -/
theorem Direct.above (direct : Direct d p) {q : Path} (above : q ∈ p.lineage) : Direct d q := by
  obtain ⟨start, parts⟩ := p
  induction parts using List.reverseRecOn with
  | nil =>
    obtain ⟨n, -, rfl⟩ := mem_lineage_iff.mp above
    rw [List.take_nil]
    exact direct
  | append_singleton parts name ih =>
    obtain ⟨n, inside, rfl⟩ := mem_lineage_iff.mp above
    by_cases whole : n = (parts ++ [name]).length
    · rw [whole, List.take_length]
      exact direct
    · have fewer : n <= parts.length := by
        rw [List.length_append, List.length_singleton] at inside whole
        omega
      refine ih direct.of_child (mem_lineage_iff.mpr ⟨n, fewer, ?_⟩)
      rw [List.take_append_of_le_length fewer]

/-! ## Real paths -/

theorem realNames_of_no_link (root : Contents) {fuel : Nat} (seen : List (List String × Option (List String)))
    (enough : names.length < fuel) (plain : forall name, name ∈ names -> IsPlain name)
    (noLink : forall n target, n < names.length -> kindAt? root (way ++ names.take (n + 1)) ≠ some (.link target)) :
    realNames root fuel way (names.map .name) seen = way ++ names := by
  induction names generalizing fuel way with
  | nil =>
    cases fuel with
    | zero => cases enough
    | succ fuel => simp [realNames]
  | cons name rest ih =>
    obtain ⟨fuel, rfl⟩ : exists left, fuel = left + 1 := ⟨fuel - 1, by simp only [List.length_cons] at enough; omega⟩
    obtain ⟨notEmpty, notDot, notDots⟩ := plain name (List.mem_cons_self ..)
    have onward : realNames root fuel (way ++ [name]) (rest.map .name) seen = way ++ name :: rest := by
      have noLater : forall n target, n < rest.length ->
          kindAt? root (way ++ [name] ++ rest.take (n + 1)) ≠ some (.link target) := by
        intro n target inside
        have next := noLink (n + 1) target (Nat.succ_lt_succ inside)
        rw [List.take_succ_cons, List.append_cons] at next
        exact next
      have whole : way ++ name :: rest = way ++ [name] ++ rest := List.append_cons ..
      rw [whole]
      exact ih (Nat.lt_of_succ_lt_succ enough) (fun name inside => plain name (List.mem_cons_of_mem _ inside)) noLater
    rw [List.map_cons, realNames]
    simp only [notEmpty, notDot, notDots, decide_false, Bool.or_self, Bool.false_eq_true, if_false]
    cases found : entryAt? root (way ++ [name]) with
    | none => exact onward
    | some e =>
      cases e with
      | file contents => exact onward
      | folder entries => exact onward
      | link target =>
        refine absurd ?_ (noLink 0 target (Nat.succ_pos _))
        rw [List.take_succ_cons, List.take_zero, kindAt?, found]
        rfl

theorem realPath_of_no_link (start : p.start = .root) (writable : p.IsWritable)
    (plain : forall name, name ∈ p.parts -> IsPlain name)
    (noLink : forall n target, n < p.parts.length -> kindAt? d.root (p.parts.take (n + 1)) ≠ some (.link target))
    (ends : d.find true p.text ≠ .error .tooManyLinks) : d.realPath p = .ok p := by
  obtain ⟨_, parts⟩ := p
  cases start
  have clean : (parts.any fun n => n.toList.contains '\x00') = false := by
    rw [List.any_eq_false]
    intro name member
    have absent := writable.name member
    simpa using absent
  have real : realNames d.root (parts.length + linkSteps d.root + 1) [] (parts.map .name) [] = parts :=
    realNames_of_no_link d.root [] (by omega) plain noLink
  unfold realPath
  simp only [clean, Bool.false_eq_true, if_false, reduceCtorEq, real]

theorem Direct.realPath (direct : Direct d p) : d.realPath p = .ok p := by
  obtain ⟨e, found, -⟩ := find_of_kind direct.leads.1 direct.leads.2
  refine realPath_of_no_link direct.start direct.writable (fun name member => (direct.short name member).1) ?_ ?_
  · intro n target inside
    have above : { p with parts := p.parts.take (n + 1) } ∈ p.lineage := mem_lineage_iff.mpr ⟨n + 1, inside, rfl⟩
    have folder := (direct.above above).folder
    simp only at folder
    rw [folder]
    simp
  · rw [found]
    nofun

theorem Direct.realPath_child (direct : Direct d p) (fits : Fits p name)
    (noLink : forall target, kindAt? d.root (p.parts ++ [name]) ≠ some (.link target)) :
    d.realPath (p.child name) = .ok (p.child name) := by
  refine realPath_of_no_link direct.start fits.writable ?_ ?_ ?_
  · intro n member
    rcases List.mem_append.mp member with inside | here
    · exact (direct.short n inside).1
    · rw [List.mem_singleton.mp here]
      exact fits.plain
  · intro n target inside
    change kindAt? d.root ((p.parts ++ [name]).take (n + 1)) ≠ _
    by_cases whole : n = p.parts.length
    · rw [List.take_of_length_le (by simp [whole])]
      exact noLink target
    · have fewer : n + 1 <= p.parts.length := by
        have short : n < p.parts.length + 1 := by simpa [Path.child] using inside
        omega
      rw [List.take_append_of_le_length fewer]
      have above : { p with parts := p.parts.take (n + 1) } ∈ p.lineage := mem_lineage_iff.mpr ⟨n + 1, fewer, rfl⟩
      have folder := (direct.above above).folder
      simp only at folder
      rw [folder]
      simp
  · have located : d.locate true (p.child name).text = _ :=
      locate_fitting direct.proper fits direct.leads (Or.inr noLink)
    by_cases absent : kindAt? d.root (p.parts ++ [name]) = none
    · rw [if_pos absent] at located
      rw [find_eq_error_iff.mpr located]
      simp
    · rw [if_neg absent] at located
      obtain ⟨k, kind⟩ := Option.ne_none_iff_exists'.mp absent
      obtain ⟨e, found, -⟩ := find_of_kind located kind
      rw [found]
      simp

/-! ## Reading -/

/-- What a name in a folder reads as depends on what it stands for, unless it is a link. -/
theorem readFile_eq_of_same {d' : Disk} {goal : List String} (proper : p.IsProper) (fits : Fits p name)
    (leads : d.Leads p goal) (leads' : d'.Leads p goal)
    (noLink : forall target, kindAt? d.root (goal ++ [name]) ≠ some (.link target))
    (same : kindAt? d'.root (goal ++ [name]) = kindAt? d.root (goal ++ [name])) :
    d'.readFile (p.child name).text = d.readFile (p.child name).text ∧
      d'.isFile (p.child name).text = d.isFile (p.child name).text := by
  have noLink' : forall target, kindAt? d'.root (goal ++ [name]) ≠ some (.link target) := by
    rw [same]
    exact noLink
  have located : d.locate true (p.child name).text = _ := locate_fitting proper fits leads (Or.inr noLink)
  have located' : d'.locate true (p.child name).text = _ := locate_fitting proper fits leads' (Or.inr noLink')
  rw [same] at located'
  cases kind : kindAt? d.root (goal ++ [name]) with
  | none =>
    rw [if_pos kind] at located located'
    unfold readFile isFile
    rw [find_eq_error_iff.mpr located, find_eq_error_iff.mpr located']
    exact ⟨rfl, rfl⟩
  | some k =>
    rw [if_neg (by simp [kind])] at located located'
    obtain ⟨e, found, isKind⟩ := find_of_kind located kind
    obtain ⟨e', found', isKind'⟩ := find_of_kind located' (same.trans kind)
    unfold readFile isFile
    rw [found, found']
    cases e with
    | file contents =>
      cases e' with
      | file contents' =>
        cases isKind.trans isKind'.symm
        exact ⟨rfl, rfl⟩
      | folder entries => cases isKind.trans isKind'.symm
      | link target => cases isKind.trans isKind'.symm
    | folder entries =>
      cases e' with
      | file contents' => cases isKind.trans isKind'.symm
      | folder entries' => exact ⟨rfl, rfl⟩
      | link target => cases isKind.trans isKind'.symm
    | link target =>
      subst isKind
      exact absurd kind (noLink target)

end Disk

end SchemaLint
