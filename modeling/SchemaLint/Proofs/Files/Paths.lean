import SchemaLint.Proofs.Files.Walk
import SchemaLint.Proofs.Text.Split

/-!
# Written paths

A path that was read is written so that reading its names again gives the same names.  Where a written path leads is
therefore a matter of the names of the path alone, as long as the path is not too long to be written and has no character
that no path has.
-/

namespace SchemaLint

namespace Path

/-! ## Proper paths -/

/-- A name that reading a path can leave. -/
def IsName (name : String) : Prop :=
  name ≠ "" ∧ name ≠ "." ∧ '/' ∉ name.toList

instance (name : String) : Decidable (IsName name) :=
  inferInstanceAs (Decidable (_ ∧ _))

/-- All names of a path are names that reading a path can leave. -/
def IsProper (p : Path) : Prop :=
  forall name, name ∈ p.parts -> IsName name

theorem isProper_ofString (s : String) : (ofString s).IsProper := by
  intro name member
  obtain ⟨cs, kept, rfl⟩ := List.mem_map.mp member
  obtain ⟨inside, part⟩ := List.mem_filter.mp kept
  rw [isPart, Bool.and_eq_true, Bool.not_eq_true', List.isEmpty_eq_false_iff, bne_iff_ne] at part
  obtain ⟨nonempty, notDot⟩ := part
  refine ⟨?_, ?_, ?_⟩
  · intro empty
    exact nonempty (by simpa using congrArg String.toList empty)
  · intro dot
    exact notDot (by simpa using congrArg String.toList dot)
  · rw [String.toList_ofList]
    exact not_mem_of_mem_splitChars inside

theorem IsProper.parent {p : Path} (proper : p.IsProper) : p.parent.IsProper :=
  fun name member => proper name (List.dropLast_subset p.parts member)

theorem IsProper.child {p : Path} {name : String} (proper : p.IsProper) (isName : IsName name) :
    (p.child name).IsProper := by
  intro n member
  rcases List.mem_append.mp member with old | new
  · exact proper n old
  · rw [List.mem_singleton.mp new]
    exact isName

/-! ## Texts of paths -/

theorem toList_text {p : Path} (nonempty : p.parts ≠ []) :
    p.text.toList = p.start.text.toList ++ ['/'].intercalate (p.parts.map String.toList) := by
  obtain ⟨start, parts⟩ := p
  cases parts with
  | nil => exact absurd rfl nonempty
  | cons first others =>
    cases start <;> simp [text, String.toList_append, String.toList_intercalate]

/-- The names that are gone through if a path is followed from a folder. -/
def names (p current : Path) : List String :=
  match p.start with
  | .here => current.parts ++ p.parts
  | .root | .doubleRoot => p.parts

theorem names_child (p current : Path) (name : String) :
    (p.child name).names current = p.names current ++ [name] := by
  obtain ⟨start, parts⟩ := p
  cases start <;> simp [names, child, List.append_assoc]

theorem splitChars_text {p : Path} (proper : p.IsProper) (nonempty : p.parts ≠ []) :
    splitChars '/' (['/'].intercalate (p.parts.map String.toList)) = p.parts.map String.toList := by
  rw [splitChars_eq_splitOn]
  apply List.splitOn_intercalate
  · intro cs member
    obtain ⟨name, inside, rfl⟩ := List.mem_map.mp member
    exact (proper name inside).2.2
  · simpa using nonempty

theorem steps_text_here {p : Path} (proper : p.IsProper) (nonempty : p.parts ≠ []) (start : p.start = .here) :
    Disk.steps p.text = p.parts := by
  rw [Disk.steps, toList_text nonempty, start]
  simp only [Start.text, String.toList_empty, List.nil_append]
  rw [splitChars_text proper nonempty]
  simp [List.map_map]

theorem isRooted_text_here {p : Path} (proper : p.IsProper) (start : p.start = .here) :
    Disk.isRooted p.text = false := by
  obtain ⟨s, parts⟩ := p
  cases start
  cases parts with
  | nil => decide
  | cons first others =>
    obtain ⟨notEmpty, -, noSlash⟩ := proper first (List.mem_cons_self ..)
    have nonempty : first.toList ≠ [] := fun empty => notEmpty (by simpa using empty)
    obtain ⟨c, rest, chars⟩ := List.exists_cons_of_ne_nil nonempty
    rw [Disk.isRooted, toList_text (List.cons_ne_nil first others), decide_eq_false_iff_not]
    have other : c ≠ '/' := by
      intro slash
      rw [chars, slash] at noSlash
      exact noSlash (List.mem_cons_self ..)
    cases others with
    | nil => simpa [Start.text, chars] using other
    | cons second more => simpa [Start.text, chars, List.intercalate_cons_cons] using other

/-- A path that begins at the root is written with slashes at its beginning, between which there is nothing. -/
theorem steps_text_root {p : Path} (proper : p.IsProper) (start : p.start ≠ .here) :
    exists blanks, (forall name, name ∈ blanks -> name = "") ∧ Disk.steps p.text = blanks ++ p.parts ∧
      Disk.isRooted p.text = true := by
  obtain ⟨s, parts⟩ := p
  have chars : forall cs, splitChars '/' ('/' :: cs) = [] :: splitChars '/' cs := by
    intro cs
    simp [splitChars]
  cases parts with
  | nil =>
    cases s with
    | here => exact absurd rfl start
    | root => exact ⟨["", ""], by simp, by decide, by decide⟩
    | doubleRoot => exact ⟨["", "", ""], by simp, by decide, by decide⟩
  | cons first others =>
    have text := toList_text (p := ⟨s, first :: others⟩) (List.cons_ne_nil first others)
    have split := splitChars_text proper (List.cons_ne_nil first others)
    cases s with
    | here => exact absurd rfl start
    | root =>
      refine ⟨[""], by simp, ?_, ?_⟩
      · rw [Disk.steps, text]
        simp only [Start.text]
        rw [show "/".toList = ['/'] from rfl, List.singleton_append, chars, split]
        simp [List.map_map]
      · rw [Disk.isRooted, text]
        simp [Start.text]
    | doubleRoot =>
      refine ⟨["", ""], by simp, ?_, ?_⟩
      · rw [Disk.steps, text]
        simp only [Start.text]
        rw [show "//".toList = ['/', '/'] from rfl, List.cons_append, List.singleton_append, chars, chars, split]
        simp [List.map_map]
      · rw [Disk.isRooted, text]
        simp [Start.text]

theorem text_ne_empty {p : Path} (proper : p.IsProper) : p.text.isEmpty = false := by
  by_cases start : p.start = .here
  · by_cases bare : p.parts = []
    · obtain ⟨s, parts⟩ := p
      cases start
      cases bare
      decide
    · have same := steps_text_here proper bare start
      rw [Bool.eq_false_iff]
      intro empty
      rw [String.isEmpty_iff.mp empty] at same
      obtain ⟨first, others, parts⟩ := List.exists_cons_of_ne_nil bare
      rw [parts] at same
      have none : first = "" := by
        have := congrArg List.head? same
        simpa [Disk.steps, splitChars] using this.symm
      exact (proper first (parts ▸ List.mem_cons_self ..)).1 none
  · obtain ⟨-, -, -, rooted⟩ := steps_text_root proper start
    rw [Bool.eq_false_iff]
    intro empty
    rw [String.isEmpty_iff.mp empty] at rooted
    exact absurd rooted (by decide)

/-- A path can be written if it is not too long and has no character that no path has. -/
def IsWritable (p : Path) : Prop :=
  '\x00' ∉ p.text.toList ∧ p.text.utf8ByteSize <= Disk.pathLimit

instance (p : Path) : Decidable p.IsWritable :=
  inferInstanceAs (Decidable (_ ∧ _))

theorem text_child {p : Path} (name : String) (nonempty : p.parts ≠ []) :
    (p.child name).text = p.text ++ "/" ++ name := by
  obtain ⟨start, parts⟩ := p
  have longer : String.intercalate "/" (parts ++ [name]) = String.intercalate "/" parts ++ "/" ++ name := by
    rw [String.intercalate_append_of_ne_nil nonempty (List.cons_ne_nil name []), String.intercalate_singleton]
  obtain ⟨first, others, rfl⟩ := List.exists_cons_of_ne_nil nonempty
  rw [List.cons_append] at longer
  cases start <;> simp only [child, text, List.cons_append, longer, String.append_assoc]

/-- Where a name can be written behind a path, so can the path. -/
theorem IsWritable.of_child {p : Path} {name : String} (writable : (p.child name).IsWritable) : p.IsWritable := by
  by_cases bare : p.parts = []
  · obtain ⟨start, parts⟩ := p
    cases bare
    cases start <;> decide
  · obtain ⟨clean, short⟩ := writable
    rw [text_child name bare] at clean short
    simp only [String.toList_append, List.mem_append, not_or] at clean
    simp only [String.utf8ByteSize_append] at short
    exact ⟨clean.1.1, by omega⟩

end Path

namespace Disk

variable {d : Disk} {p : Path} {last : Bool} {goal : List String}

theorem walk_blanks {kind : List String -> Option Kind} {links : Nat} {way : List String} (blanks names : List String)
    (blank : forall name, name ∈ blanks -> name = "") :
    walk kind last links way (blanks ++ names) = walk kind last links way names := by
  induction blanks with
  | nil => rfl
  | cons name rest ih =>
    have empty : name = "" := blank name (List.mem_cons_self ..)
    rw [List.cons_append, walk_cons, if_pos (by simp [empty])]
    exact ih fun n member => blank n (List.mem_cons_of_mem _ member)

/-- Where a written path leads depends on the names of the path. -/
theorem locate_text (proper : p.IsProper) (writable : p.IsWritable) (nonempty : p.parts ≠ []) :
    d.locate last p.text = walk (kindAt? d.root) last linkLimit [] (p.names d.current) := by
  obtain ⟨clean, short⟩ := writable
  rw [locate, if_neg (by simpa using clean), if_neg (by simp [Path.text_ne_empty proper]),
    if_neg (Nat.not_lt.mpr short)]
  by_cases start : p.start = .here
  · rw [if_neg (by simp [Path.isRooted_text_here proper start]), Path.steps_text_here proper nonempty start,
      Path.names, start]
  · obtain ⟨blanks, blank, steps, rooted⟩ := Path.steps_text_root proper start
    have names : p.names d.current = p.parts := by
      obtain ⟨s, parts⟩ := p
      cases s with
      | here => exact absurd rfl start
      | root => rfl
      | doubleRoot => rfl
    rw [if_pos rooted, steps, walk_blanks blanks _ blank, names]

/-- A written path leads somewhere just if the system takes it and a walk along its names comes to an end. -/
theorem locate_eq_ok_iff {path : String} :
    d.locate last path = .ok goal <-> ('\x00' ∉ path.toList ∧ path.isEmpty = false ∧ path.utf8ByteSize <= pathLimit) ∧
      walk (kindAt? d.root) last linkLimit [] (if isRooted path then steps path else d.current.parts ++ steps path) =
        .ok goal := by
  unfold locate
  by_cases dirty : '\x00' ∈ path.toList
  · simp [dirty]
  by_cases empty : path.isEmpty = true
  · simp [dirty, empty]
  by_cases long : pathLimit < path.utf8ByteSize
  · simp [dirty, empty, long, Nat.not_le.mpr long]
  · simp [dirty, empty, long, Nat.le_of_not_lt long]

theorem isWritable_of_locate (found : d.locate last p.text = .ok goal) : p.IsWritable := by
  obtain ⟨⟨clean, -, short⟩, -⟩ := locate_eq_ok_iff.mp found
  exact ⟨clean, short⟩

theorem isWritable_of_missing (proper : p.IsProper) (found : d.locate last p.text = .error .missing) :
    p.IsWritable := by
  rw [locate] at found
  by_cases dirty : p.text.toList.contains '\x00' = true
  · rw [if_pos dirty] at found
    cases found
  rw [if_neg dirty, if_neg (by simp [Path.text_ne_empty proper])] at found
  by_cases long : pathLimit < p.text.utf8ByteSize
  · rw [if_pos long] at found
    cases found
  exact ⟨by simpa using dirty, Nat.le_of_not_lt long⟩

/-! ## Paths that lead to folders -/

/-- A path leads to the folder at a place. -/
def Leads (d : Disk) (p : Path) (place : List String) : Prop :=
  d.locate true p.text = .ok place ∧ kindAt? d.root place = some .folder

theorem Leads.unique {left right : List String} (one : d.Leads p left) (other : d.Leads p right) : left = right :=
  Except.ok.inj (one.1.symm.trans other.1)

/-- A path leads to a folder if its names do. -/
theorem leads_iff (proper : p.IsProper) :
    d.Leads p goal <-> p.IsWritable ∧ walk (kindAt? d.root) true linkLimit [] (p.names d.current) = .ok goal ∧
      kindAt? d.root goal = some .folder := by
  by_cases bare : p.parts = []
  · -- a single dot is written where there are no names, and leads from a folder to the same folder
    obtain ⟨s, parts⟩ := p
    cases bare
    have writable : Path.IsWritable ⟨s, []⟩ := by cases s <;> decide
    cases s with
    | here =>
      have dot : d.locate true (Path.text ⟨.here, []⟩) =
          walk (kindAt? d.root) true linkLimit [] (d.current.parts ++ ["."]) := rfl
      have names : Path.names ⟨.here, []⟩ d.current = d.current.parts := by simp [Path.names]
      have after : Continued (kindAt? d.root) true ["."] (walk (kindAt? d.root) true linkLimit [] d.current.parts)
          (walk (kindAt? d.root) true linkLimit [] (d.current.parts ++ ["."])) :=
        walk_append (isTree d.root) (kindAt?_nil d.root) (List.cons_ne_nil _ _)
      have still : forall left place, walk (kindAt? d.root) true left place ["."] = .ok place := by
        intro left place
        rw [walk_cons, if_pos (by decide), walk_nil]
      rw [Leads, dot, names]
      constructor
      · rintro ⟨found, folder⟩
        obtain ⟨place, left, earlier, -, later⟩ := after.of_ok found
        rw [still left place, Except.ok.injEq] at later
        exact ⟨writable, later ▸ earlier, folder⟩
      · rintro ⟨-, found, folder⟩
        rw [found] at after
        obtain ⟨left, later⟩ := after.of_folder folder
        exact ⟨later.trans (still left goal), folder⟩
    | root =>
      have top : d.locate true (Path.text ⟨.root, []⟩) = .ok [] := rfl
      rw [Leads, top]
      exact ⟨fun leads => ⟨writable, leads⟩, fun names => names.2⟩
    | doubleRoot =>
      have top : d.locate true (Path.text ⟨.doubleRoot, []⟩) = .ok [] := rfl
      rw [Leads, top]
      exact ⟨fun leads => ⟨writable, leads⟩, fun names => names.2⟩
  · constructor
    · rintro ⟨found, folder⟩
      have writable := isWritable_of_locate found
      rw [locate_text proper writable bare] at found
      exact ⟨writable, found, folder⟩
    · rintro ⟨writable, found, folder⟩
      exact ⟨(locate_text proper writable bare).trans found, folder⟩

/-- A path leads to the same folder on every disk that differs only in places behind which nothing lies. -/
theorem Leads.of_closed {d' : Disk} (leads : d.Leads p goal) (current : d'.current = d.current)
    (agree : forall place, Closed (kindAt? d.root) place ∨ kindAt? d'.root place = kindAt? d.root place) :
    d'.Leads p goal := by
  obtain ⟨found, folder⟩ := leads
  constructor
  · rw [locate_eq_ok_iff] at found ⊢
    rw [current]
    exact ⟨found.1, walk_eq_of_closed agree found.2 folder⟩
  · rcases agree goal with (absent | ⟨contents, file⟩) | same
    · rw [absent] at folder
      cases folder
    · rw [file] at folder
      cases folder
    · exact same.trans folder

/-- Where a name in a folder leads. -/
theorem locate_child {name : String} (proper : p.IsProper) (isName : Path.IsName name)
    (writable : (p.child name).IsWritable) (leads : d.Leads p goal) :
    exists left, d.locate last (p.child name).text = walk (kindAt? d.root) last left goal [name] := by
  obtain ⟨-, found, folder⟩ := (leads_iff proper).mp leads
  have nonempty : (p.child name).parts ≠ [] := List.append_ne_nil_of_right_ne_nil _ (List.cons_ne_nil _ _)
  rw [locate_text (proper.child isName) writable nonempty, Path.names_child]
  have after : Continued (kindAt? d.root) last [name] (walk (kindAt? d.root) true linkLimit [] (p.names d.current))
      (walk (kindAt? d.root) last linkLimit [] (p.names d.current ++ [name])) :=
    walk_append (isTree d.root) (kindAt?_nil d.root) (List.cons_ne_nil _ _)
  rw [found] at after
  exact after.of_folder folder

/-- What a name behind a path leads to lies in a folder to which the path leads. -/
theorem exists_leads_of_locate_child {name : String} (proper : p.IsProper) (isName : Path.IsName name)
    (found : d.locate last (p.child name).text = .ok goal) : exists place, d.Leads p place := by
  have writable := isWritable_of_locate found
  have nonempty : (p.child name).parts ≠ [] := List.append_ne_nil_of_right_ne_nil _ (List.cons_ne_nil _ _)
  rw [locate_text (proper.child isName) writable nonempty, Path.names_child] at found
  have after : Continued (kindAt? d.root) last [name] (walk (kindAt? d.root) true linkLimit [] (p.names d.current))
      (walk (kindAt? d.root) last linkLimit [] (p.names d.current ++ [name])) :=
    walk_append (isTree d.root) (kindAt?_nil d.root) (List.cons_ne_nil _ _)
  obtain ⟨place, left, earlier, folder, -⟩ := after.of_ok found
  exact ⟨place, (leads_iff proper).mpr ⟨writable.of_child, earlier, folder⟩⟩

end Disk

end SchemaLint
