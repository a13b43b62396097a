import SchemaLint.Proofs.Files.Paths

/-!
# Changes of a disk

What the operations on files and folders do, told by the places of the disk.  Each changes one place or, where a file is
moved, two; folders are made only where there was nothing.
-/

namespace SchemaLint

namespace Disk

variable {d d' : Disk} {p : Path} {last : Bool} {goal place : List String} {name : String} {contents : Bytes}

/-! ## Finding -/

theorem kind_of_locate {path : String} (found : d.locate last path = .ok place) : kindAt? d.root place ≠ none :=
  kind_ne_none_of_walk (isTree d.root) (kindAt?_nil d.root) (locate_eq_ok_iff.mp found).2

theorem find_eq_ok_iff {path : String} {e : Entry} :
    d.find last path = .ok (place, e) <-> d.locate last path = .ok place ∧ entryAt? d.root place = some e := by
  unfold find
  cases found : d.locate last path with
  | error fault => exact ⟨nofun, nofun⟩
  | ok way =>
    cases here : entryAt? d.root way with
    | none => exact absurd (by simp [kindAt?, here]) (kind_of_locate found)
    | some e' =>
      simp only [here, Except.ok.injEq, Prod.mk.injEq]
      constructor
      · rintro ⟨rfl, rfl⟩
        exact ⟨rfl, here⟩
      · rintro ⟨rfl, same⟩
        exact ⟨rfl, Option.some.inj (here.symm.trans same)⟩

theorem find_eq_error_iff {path : String} {fault : FileFault} :
    d.find last path = .error fault <-> d.locate last path = .error fault := by
  unfold find
  cases found : d.locate last path with
  | error fault' => simp
  | ok way =>
    cases here : entryAt? d.root way with
    | none => exact absurd (by simp [kindAt?, here]) (kind_of_locate found)
    | some e =>
      simp [here]

theorem find_of_kind {path : String} {k : Kind} (found : d.locate last path = .ok place)
    (kind : kindAt? d.root place = some k) : exists e, d.find last path = .ok (place, e) ∧ e.kind = k := by
  obtain ⟨e, here, same⟩ := Option.map_eq_some_iff.mp kind
  exact ⟨e, find_eq_ok_iff.mpr ⟨found, here⟩, same⟩

theorem kind_of_find {path : String} {e : Entry} (found : d.find last path = .ok (place, e)) :
    kindAt? d.root place = some e.kind := by
  rw [kindAt?, (find_eq_ok_iff.mp found).2]
  rfl

theorem isFolder_iff : d.isFolder p.text = true <-> exists goal, d.Leads p goal := by
  unfold isFolder
  cases found : d.find true p.text with
  | error fault =>
    have nowhere := find_eq_error_iff.mp found
    refine ⟨nofun, ?_⟩
    rintro ⟨goal, somewhere, -⟩
    rw [nowhere] at somewhere
    cases somewhere
  | ok result =>
    obtain ⟨way, e⟩ := result
    have there := (find_eq_ok_iff.mp found).1
    have kind := kind_of_find found
    have other : e.kind ≠ .folder -> (exists goal, d.Leads p goal) -> False := by
      rintro notFolder ⟨goal, somewhere, folder⟩
      have same : way = goal := Except.ok.inj (there.symm.trans somewhere)
      subst same
      rw [folder] at kind
      exact notFolder (Option.some.inj kind).symm
    cases e with
    | folder entries => exact ⟨fun _ => ⟨way, there, kind⟩, fun _ => rfl⟩
    | file contents =>
      exact ⟨nofun, fun leads => (other nofun leads).elim⟩
    | link target =>
      exact ⟨nofun, fun leads => (other nofun leads).elim⟩

/-! ## Changing one place -/

/-- A disk differs from another one only in what a place stands for. -/
structure Changed (d d' : Disk) (place : List String) (kind : Option Kind) : Prop where
  current : d'.current = d.current
  kinds : kindAt? d'.root = Function.update (kindAt? d.root) place kind

theorem Changed.at {kind : Option Kind} (changed : Changed d d' place kind) : kindAt? d'.root place = kind := by
  rw [changed.kinds, Function.update_self]

theorem Changed.elsewhere {kind : Option Kind} {other : List String} (changed : Changed d d' place kind)
    (elsewhere : other ≠ place) : kindAt? d'.root other = kindAt? d.root other := by
  rw [changed.kinds, Function.update_of_ne elsewhere]

/-- A path leads to the same folder as before if nothing lay behind the place that changed. -/
theorem Changed.leads {kind : Option Kind} (changed : Changed d d' place kind) (closed : Closed (kindAt? d.root) place)
    (leads : d.Leads p goal) : d'.Leads p goal := by
  refine leads.of_closed changed.current fun other => ?_
  by_cases here : other = place
  · exact Or.inl (here ▸ closed)
  · exact Or.inr (changed.elsewhere here)

theorem changed_setAt {e : Option Entry} (folder : kindAt? d.root goal = some .folder)
    (bare : kindAt? d.root (goal ++ [name]) ≠ some .folder) (hollow : Hollow e) :
    Changed d { d with root := setAt e (goal ++ [name]) d.root } (goal ++ [name]) (e.map Entry.kind) :=
  ⟨rfl, kindAt?_setAt folder bare hollow⟩

theorem hollow_none : Hollow none :=
  nofun

theorem hollow_file (contents : Bytes) : Hollow (some (.file contents)) :=
  nofun

theorem hollow_folder : Hollow (some (.folder [])) := by
  rintro inner same
  cases same
  rfl

/-! ## Names in a folder -/

/-- A name that can be written behind the path of a folder. -/
structure Fits (p : Path) (name : String) : Prop where
  isName : Path.IsName name
  plain : IsPlain name
  short : name.utf8ByteSize <= nameLimit
  writable : (p.child name).IsWritable

theorem parent_child (p : Path) (name : String) : (p.child name).parent = p := by
  simp [Path.child, Path.parent]

theorem container_child (leads : d.Leads p goal) (short : name.utf8ByteSize <= nameLimit) :
    d.container (p.child name) = .ok (goal, name) := by
  obtain ⟨e, found, kind⟩ := find_of_kind leads.1 leads.2
  have last : (p.child name).parts.getLast?.getD "" = name := by simp [Path.child]
  unfold container
  simp only [last, if_neg (Nat.not_lt.mpr short), parent_child, found]
  cases e with
  | folder entries => rfl
  | file contents => cases kind
  | link target => cases kind

theorem container_child_long (long : nameLimit < name.utf8ByteSize) :
    d.container (p.child name) = .error .nameTooLong := by
  have last : (p.child name).parts.getLast?.getD "" = name := by simp [Path.child]
  unfold container
  simp only [last, if_pos long]
  rfl

/-- What a name in a folder leads to, unless it is a link that is to be followed. -/
theorem locate_fitting (proper : p.IsProper) (fits : Fits p name) (leads : d.Leads p goal)
    (ends : last = false ∨ forall target, kindAt? d.root (goal ++ [name]) ≠ some (.link target)) :
    d.locate last (p.child name).text =
      if kindAt? d.root (goal ++ [name]) = none then .error .missing else .ok (goal ++ [name]) := by
  obtain ⟨left, same⟩ : exists left, d.locate last (p.child name).text =
      walk (kindAt? d.root) last left goal [name] :=
    locate_child proper fits.isName fits.writable leads
  rw [same, walk_name fits.plain fits.short]
  cases kind : kindAt? d.root (goal ++ [name]) with
  | none => rfl
  | some k =>
    cases k with
    | folder => rfl
    | file contents => rfl
    | link target =>
      rcases ends with rfl | never
      · rfl
      · exact absurd kind (never target)

/-! ## Files in a folder -/

section Files

variable (proper : p.IsProper) (leads : d.Leads p goal)

include proper leads

/-- A name of which it is only known that it can be written as part of a path, and not whether it fits the limits. -/
theorem fits_of_locate (isName : Path.IsName name) (plain : IsPlain name)
    (found : (exists place, d.locate last (p.child name).text = .ok place) ∨
      d.locate last (p.child name).text = .error .missing) :
    Fits p name := by
  have writable : (p.child name).IsWritable := by
    rcases found with ⟨place, found⟩ | found
    · exact isWritable_of_locate found
    · exact isWritable_of_missing (proper.child isName) found
  refine ⟨isName, plain, ?_, writable⟩
  by_contra long
  obtain ⟨left, same⟩ : exists left, d.locate last (p.child name).text =
      walk (kindAt? d.root) last left goal [name] :=
    locate_child proper isName writable leads
  rw [same, walk_long_name plain (Nat.lt_of_not_le long)] at found
  rcases found with ⟨place, found⟩ | found <;> cases found

/-- A file can be read. -/
theorem readFile_child (fits : Fits p name) (file : kindAt? d.root (goal ++ [name]) = some (.file contents)) :
    d.readFile (p.child name).text = .ok contents := by
  have located : d.locate true (p.child name).text = .ok (goal ++ [name]) := by
    rw [locate_fitting proper fits leads (Or.inr (by simp [file])), if_neg (by simp [file])]
  obtain ⟨e, found, kind⟩ := find_of_kind located file
  unfold readFile
  cases e with
  | file contents' =>
    cases kind
    rw [found]
    rfl
  | folder entries => cases kind
  | link target => cases kind

/-- To write a file where there is nothing makes it. -/
theorem writeFile_new {written : Disk} (isName : Path.IsName name) (plain : IsPlain name)
    (absent : kindAt? d.root (goal ++ [name]) = none)
    (result : d.writeFile (p.child name) contents = .ok written) :
    Fits p name ∧ Changed d written (goal ++ [name]) (some (.file contents)) := by
  have located : d.locate true (p.child name).text = .error .missing := by
    cases found : d.locate true (p.child name).text with
    | ok place =>
      have fits : Fits p name := fits_of_locate proper leads isName plain (Or.inl ⟨place, found⟩)
      rw [locate_fitting proper fits leads (Or.inr (by simp [absent])), if_pos absent] at found
      cases found
    | error fault =>
      cases fault with
      | missing => rfl
      | _ =>
        unfold writeFile at result
        rw [find_eq_error_iff.mpr found] at result
        cases result
  have fits : Fits p name := fits_of_locate proper leads isName plain (Or.inr located)
  refine ⟨fits, ?_⟩
  have landing : d.landing linkLimit (p.child name) = .ok (goal ++ [name]) := by
    have nothing : entryAt? d.root (goal ++ [name]) = none := Option.map_eq_none_iff.mp absent
    unfold landing linkLimit
    simp only [container_child leads fits.short]
    dsimp only [bind, Except.bind]
    rw [nothing]
    rfl
  unfold writeFile at result
  rw [find_eq_error_iff.mpr located] at result
  simp only [landing] at result
  cases result
  exact changed_setAt leads.2 (by simp [absent]) (hollow_file contents)

/-- To write a file that is there changes its contents. -/
theorem writeFile_old {old : Bytes} (fits : Fits p name) (file : kindAt? d.root (goal ++ [name]) = some (.file old)) :
    exists written, d.writeFile (p.child name) contents = .ok written ∧
      Changed d written (goal ++ [name]) (some (.file contents)) := by
  have located : d.locate true (p.child name).text = .ok (goal ++ [name]) := by
    rw [locate_fitting proper fits leads (Or.inr (by simp [file])), if_neg (by simp [file])]
  obtain ⟨e, found, kind⟩ := find_of_kind located file
  refine ⟨{ d with root := setAt (some (.file contents)) (goal ++ [name]) d.root }, ?_,
    changed_setAt leads.2 (by simp [file]) (hollow_file contents)⟩
  unfold writeFile
  cases e with
  | file contents' =>
    rw [found]
    rfl
  | folder entries => cases kind
  | link target => cases kind

/-- A file can be taken away. -/
theorem remove_file {old : Bytes} (fits : Fits p name) (file : kindAt? d.root (goal ++ [name]) = some (.file old)) :
    exists removed, d.remove (p.child name) = .ok removed ∧ Changed d removed (goal ++ [name]) none := by
  have located : d.locate false (p.child name).text = .ok (goal ++ [name]) := by
    rw [locate_fitting proper fits leads (Or.inl rfl), if_neg (by simp [file])]
  obtain ⟨e, found, kind⟩ := find_of_kind located file
  refine ⟨{ d with root := setAt none (goal ++ [name]) d.root }, ?_,
    changed_setAt leads.2 (by simp [file]) hollow_none⟩
  unfold remove
  cases e with
  | file contents' =>
    rw [found]
    rfl
  | folder entries => cases kind
  | link target => cases kind

/-- Where nothing is refused there is no folder. -/
theorem free_of_refusal (isName : Path.IsName name) (plain : IsPlain name)
    (free : d.refusal? (p.child name) = none) : Fits p name ∧ kindAt? d.root (goal ++ [name]) ≠ some .folder := by
  have written : (exists place, d.locate false (p.child name).text = .ok place) ∨
      d.locate false (p.child name).text = .error .missing := by
    unfold refusal? at free
    cases found : d.find false (p.child name).text with
    | ok result =>
      obtain ⟨place, e⟩ := result
      exact Or.inl ⟨place, (find_eq_ok_iff.mp found).1⟩
    | error fault =>
      cases fault with
      | missing => exact Or.inr (find_eq_error_iff.mp found)
      | _ =>
        rw [found] at free
        cases free
  have fits : Fits p name := fits_of_locate proper leads isName plain written
  refine ⟨fits, fun folder => ?_⟩
  have located : d.locate false (p.child name).text = .ok (goal ++ [name]) := by
    rw [locate_fitting proper fits leads (Or.inl rfl), if_neg (by simp [folder])]
  obtain ⟨e, found, kind⟩ := find_of_kind located folder
  unfold refusal? at free
  rw [found] at free
  cases e with
  | folder entries => cases free
  | file contents => cases kind
  | link target => cases kind

/-- To put a file in the place of another name takes it away from its own. -/
theorem replace_file {target : String} {moved : Disk} (fits : Fits p name) (isName : Path.IsName target)
    (plain : IsPlain target) (other : target ≠ name)
    (file : kindAt? d.root (goal ++ [name]) = some (.file contents))
    (result : d.replace (p.child name) (p.child target) = .ok moved) :
    Fits p target ∧ kindAt? d.root (goal ++ [target]) ≠ some .folder ∧
      exists middle, Changed d middle (goal ++ [name]) none ∧
        Changed middle moved (goal ++ [target]) (some (.file contents)) := by
  have located : d.locate false (p.child name).text = .ok (goal ++ [name]) := by
    rw [locate_fitting proper fits leads (Or.inl rfl), if_neg (by simp [file])]
  obtain ⟨e, found, kind⟩ := find_of_kind located file
  have elsewhere : goal ++ [target] ≠ goal ++ [name] := by simpa using other
  cases e with
  | folder entries => cases kind
  | link target => cases kind
  | file contents' =>
    cases kind
    unfold replace at result
    rw [found] at result
    have short : target.utf8ByteSize <= nameLimit := by
      by_contra long
      change (d.container (p.child target) >>= _) = _ at result
      rw [container_child_long (Nat.lt_of_not_le long)] at result
      cases result
    change (d.container (p.child target) >>= _) = _ at result
    rw [container_child leads short] at result
    dsimp only [bind, Except.bind] at result
    cases refused : d.refusal? (p.child target) with
    | some fault =>
      rw [refused] at result
      cases result
    | none =>
      rw [refused] at result
      cases result
      obtain ⟨fitsTarget, bare⟩ := free_of_refusal proper leads isName plain refused
      have first : Changed d { d with root := setAt none (goal ++ [name]) d.root } (goal ++ [name]) none :=
        changed_setAt leads.2 (by simp [file]) hollow_none
      refine ⟨fitsTarget, bare, _, first, ?_⟩
      refine changed_setAt (d := { d with root := setAt none (goal ++ [name]) d.root }) ?_ ?_ (hollow_file contents)
      · exact (first.elsewhere (by simp)).trans leads.2
      · rw [first.elsewhere elsewhere]
        exact bare

end Files

/-! ## Making folders -/

theorem mem_lineage_iff {q : Path} : q ∈ p.lineage <-> exists n, n <= p.parts.length ∧ q = { p with parts := p.parts.take n } := by
  unfold Path.lineage
  rw [List.mem_map]
  constructor
  · rintro ⟨n, inside, rfl⟩
    exact ⟨n, Nat.le_of_lt_succ (List.mem_range.mp inside), rfl⟩
  · rintro ⟨n, inside, rfl⟩
    exact ⟨n, List.mem_range.mpr (Nat.lt_succ_of_le inside), rfl⟩

theorem mem_lineage_self (p : Path) : p ∈ p.lineage :=
  mem_lineage_iff.mpr ⟨p.parts.length, Nat.le_refl _, by rw [List.take_length]⟩

theorem mem_lineage_of_parent {q : Path} (above : q ∈ p.parent.lineage) : q ∈ p.lineage := by
  obtain ⟨n, inside, rfl⟩ := mem_lineage_iff.mp above
  rw [Path.parent, List.length_dropLast] at inside
  refine mem_lineage_iff.mpr ⟨n, by omega, ?_⟩
  simp only [Path.parent, Path.mk.injEq, true_and]
  rw [List.dropLast_eq_take, List.take_take, Nat.min_eq_left inside]

/-- A disk differs from another one only in folders on the way along a path that were made where there was nothing. -/
structure Grown (p : Path) (d d' : Disk) : Prop where
  current : d'.current = d.current
  kinds : forall place, kindAt? d'.root place = kindAt? d.root place ∨
    (kindAt? d.root place = none ∧ kindAt? d'.root place = some .folder ∧ exists q, q ∈ p.lineage ∧ d'.Leads q place)

theorem Grown.refl (p : Path) (d : Disk) : Grown p d d :=
  ⟨rfl, fun _ => Or.inl rfl⟩

theorem Grown.leads {q : Path} (grown : Grown p d d') (leads : d.Leads q goal) : d'.Leads q goal := by
  refine leads.of_closed grown.current fun place => ?_
  rcases grown.kinds place with same | ⟨absent, -⟩
  · exact Or.inr same
  · exact Or.inl (Or.inl absent)

theorem Grown.trans {d'' : Disk} (first : Grown p d d') (second : Grown p d' d'') : Grown p d d'' := by
  refine ⟨second.current.trans first.current, fun place => ?_⟩
  rcases first.kinds place with same | ⟨absent, made, q, above, leads⟩
  · rcases second.kinds place with still | ⟨absent, made⟩
    · exact Or.inl (still.trans same)
    · exact Or.inr ⟨same.symm.trans absent, made⟩
  · rcases second.kinds place with still | ⟨absent', -⟩
    · exact Or.inr ⟨absent, still.trans made, q, above, second.leads leads⟩
    · rw [made] at absent'
      cases absent'

theorem Grown.of_parent (grown : Grown p.parent d d') : Grown p d d' := by
  refine ⟨grown.current, fun place => ?_⟩
  rcases grown.kinds place with same | ⟨absent, made, q, above, leads⟩
  · exact Or.inl same
  · exact Or.inr ⟨absent, made, q, mem_lineage_of_parent above, leads⟩

/-- What can be followed to its end can be followed up to a last link. -/
theorem exists_walk_of_walk {kind : List String -> Option Kind} {links : Nat} {way names : List String}
    (found : walk kind true links way names = .ok goal) : exists place, walk kind false links way names = .ok place := by
  rw [walk_eq_ok_iff] at found
  induction found with
  | nil links way => exact ⟨way, walk_nil⟩
  | skip empty later ih =>
    obtain ⟨place, found⟩ := ih
    exact ⟨place, (Arrives.skip empty (walk_eq_ok_iff.mp found)).walk⟩
  | up later ih =>
    obtain ⟨place, found⟩ := ih
    exact ⟨place, (Arrives.up (walk_eq_ok_iff.mp found)).walk⟩
  | folder plain fits here later ih =>
    obtain ⟨place, found⟩ := ih
    exact ⟨place, (Arrives.folder plain fits here (walk_eq_ok_iff.mp found)).walk⟩
  | file plain fits here => exact ⟨_, (Arrives.file plain fits here).walk⟩
  | link plain fits here unfollowed => cases unfollowed
  | @follow _ way rest _ name _ plain fits here followed nonempty later ih =>
    by_cases final : rest = []
    · rw [final]
      exact ⟨way ++ [name], (Arrives.link plain fits here rfl).walk⟩
    · obtain ⟨place, found⟩ := ih
      exact ⟨place, (Arrives.follow plain fits here (absurd · final) nonempty (walk_eq_ok_iff.mp found)).walk⟩

theorem exists_locate_of_locate {path : String} (found : d.locate true path = .ok goal) :
    exists place, d.locate false path = .ok place := by
  obtain ⟨taken, along⟩ := locate_eq_ok_iff.mp found
  obtain ⟨place, before⟩ := exists_walk_of_walk along
  exact ⟨place, locate_eq_ok_iff.mpr ⟨taken, before⟩⟩

/-- A folder that is there is left alone. -/
theorem ensureFolder_of_leads (leads : d.Leads p goal) : d.ensureFolder p = .ok d := by
  obtain ⟨place, located⟩ := exists_locate_of_locate leads.1
  obtain ⟨k, kind⟩ := Option.ne_none_iff_exists'.mp (kind_of_locate located)
  obtain ⟨e, found, -⟩ := find_of_kind located kind
  unfold ensureFolder makeFolder
  rw [found]
  change (if d.isFolder p.text then Except.ok d else .error FileFault.present) = .ok d
  rw [if_pos (isFolder_iff.mpr ⟨goal, leads⟩)]

theorem makeFolders_of_leads (depth : Nat) (leads : d.Leads p goal) : d.makeFolders depth p = (d, none) := by
  cases depth with
  | zero =>
    unfold makeFolders
    rw [ensureFolder_of_leads leads]
    rfl
  | succ depth =>
    unfold makeFolders
    rw [ensureFolder_of_leads leads]
    rfl

theorem eq_child_of_nonempty (nonempty : p.parts ≠ []) : p = p.parent.child (p.parts.getLast?.getD "") := by
  obtain ⟨start, parts⟩ := p
  have split := List.dropLast_concat_getLast nonempty
  simp only [Path.parent, Path.child, Path.mk.injEq, true_and]
  rw [List.getLast?_eq_some_getLast nonempty, Option.getD_some, split]

theorem leads_of_container (inside : d.container p = .ok (goal, name)) :
    d.Leads p.parent goal ∧ name = p.parts.getLast?.getD "" ∧ name.utf8ByteSize <= nameLimit := by
  unfold container at inside
  by_cases long : nameLimit < (p.parts.getLast?.getD "").utf8ByteSize
  · simp only [if_pos long] at inside
    cases inside
  simp only [if_neg long] at inside
  change (d.find true p.parent.text >>= _) = _ at inside
  cases found : d.find true p.parent.text with
  | error fault =>
    rw [found] at inside
    cases inside
  | ok there =>
    obtain ⟨way, e⟩ := there
    rw [found] at inside
    cases e with
    | folder entries =>
      cases inside
      exact ⟨⟨(find_eq_ok_iff.mp found).1, kind_of_find found⟩, rfl, Nat.le_of_not_lt long⟩
    | file contents => cases inside
    | link target => cases inside

/-- A path with nothing at its end, but with a folder around it, is that of a name that is free there. -/
theorem fits_of_missing (proper : p.IsProper) (absent : d.locate false p.text = .error .missing)
    (inside : d.container p = .ok (goal, name)) :
    d.Leads p.parent goal ∧ p = p.parent.child name ∧ Fits p.parent name ∧ kindAt? d.root (goal ++ [name]) = none := by
  obtain ⟨leads, last, short⟩ := leads_of_container inside
  have nonempty : p.parts ≠ [] := by
    intro bare
    have same : p.parent = p := by
      obtain ⟨start, parts⟩ := p
      cases bare
      rfl
    obtain ⟨place, there⟩ := exists_locate_of_locate (same ▸ leads).1
    rw [absent] at there
    cases there
  have split : p = p.parent.child name := last ▸ eq_child_of_nonempty nonempty
  have isName : Path.IsName name := by
    refine proper name ?_
    rw [split]
    exact List.mem_append_right _ (List.mem_singleton.mpr rfl)
  have writable : (p.parent.child name).IsWritable := split ▸ isWritable_of_missing proper absent
  obtain ⟨left, same⟩ : exists left, d.locate false (p.parent.child name).text =
      walk (kindAt? d.root) false left goal [name] :=
    locate_child proper.parent isName writable leads
  rw [← split, absent] at same
  have plain : IsPlain name := by
    refine ⟨isName.1, isName.2.1, fun up => ?_⟩
    rw [walk_cons, if_neg (by simp [up]), if_pos up, walk_nil] at same
    cases same
  have fits : Fits p.parent name := ⟨isName, plain, short, writable⟩
  refine ⟨leads, split, fits, ?_⟩
  by_contra there
  have located : d.locate false (p.parent.child name).text = .ok (goal ++ [name]) := by
    rw [locate_fitting proper.parent fits leads (Or.inl rfl), if_neg there]
  rw [← split, absent] at located
  cases located

/-- To make a folder is to add it to the folder around it. -/
theorem makeFolder_eq_ok {made : Disk} (proper : p.IsProper) (result : d.makeFolder p = .ok made) :
    exists goal name, (d.Leads p.parent goal ∧ p = p.parent.child name ∧ Fits p.parent name ∧
        kindAt? d.root (goal ++ [name]) = none) ∧
      made = { d with root := setAt (some (.folder [])) (goal ++ [name]) d.root } := by
  unfold makeFolder at result
  cases found : d.find false p.text with
  | ok there =>
    rw [found] at result
    cases result
  | error fault =>
    rw [found] at result
    cases fault with
    | missing =>
      change (d.container p >>= _) = _ at result
      cases inside : d.container p with
      | error fault =>
        rw [inside] at result
        cases result
      | ok folder =>
        obtain ⟨goal, name⟩ := folder
        rw [inside] at result
        cases result
        exact ⟨goal, name, fits_of_missing proper (find_eq_error_iff.mp found) inside, rfl⟩
    | _ => cases result

/-- A folder is made where there was nothing, and its path leads to it. -/
theorem makeFolder_new {made : Disk} (proper : p.IsProper) (result : d.makeFolder p = .ok made) :
    Grown p d made ∧ exists goal, made.Leads p goal := by
  obtain ⟨goal, name, ⟨leads, split, fits, nothing⟩, rfl⟩ := makeFolder_eq_ok proper result
  have changed : Changed d { d with root := setAt (some (.folder [])) (goal ++ [name]) d.root } (goal ++ [name])
      (some .folder) :=
    changed_setAt leads.2 (by simp [nothing]) hollow_folder
  have still := changed.leads (Or.inl nothing) leads
  have new : Leads { d with root := setAt (some (.folder [])) (goal ++ [name]) d.root } p (goal ++ [name]) := by
    refine ⟨?_, changed.at⟩
    rw [split, locate_fitting proper.parent fits still (Or.inr (by simp [changed.at])),
      if_neg (by simp [changed.at])]
  refine ⟨⟨rfl, fun place => ?_⟩, goal ++ [name], new⟩
  by_cases here : place = goal ++ [name]
  · exact Or.inr ⟨here ▸ nothing, here ▸ changed.at, p, mem_lineage_self p, here ▸ new⟩
  · exact Or.inl (changed.elsewhere here)

theorem ensureFolder_new {made : Disk} (proper : p.IsProper) (result : d.ensureFolder p = .ok made) :
    Grown p d made ∧ exists goal, made.Leads p goal := by
  unfold ensureFolder at result
  cases one : d.makeFolder p with
  | ok new =>
    rw [one] at result
    cases result
    exact makeFolder_new proper one
  | error fault =>
    rw [one] at result
    by_cases there : d.isFolder p.text = true
    · simp only [if_pos there, Except.ok.injEq] at result
      subst result
      exact ⟨Grown.refl p d, isFolder_iff.mp there⟩
    · simp only [if_neg there] at result
      cases result

/-- Folders on the way along a path were made at most, and the path leads to a folder unless one was refused. -/
def IsMade (p : Path) (d : Disk) (made : Disk × Option FileFault) : Prop :=
  Grown p d made.1 ∧ (made.2 = none -> exists goal, made.1.Leads p goal)

theorem isMade_outcome (proper : p.IsProper) (d : Disk) : IsMade p d (d.outcome (d.ensureFolder p)) := by
  cases result : d.ensureFolder p with
  | ok made =>
    obtain ⟨grown, leads⟩ := ensureFolder_new proper result
    exact ⟨grown, fun _ => leads⟩
  | error fault => exact ⟨Grown.refl p d, nofun⟩

/-- To make a folder with all folders around it only adds folders on the way, even if one of them is refused. -/
theorem isMade_makeFolders (depth : Nat) (proper : p.IsProper) (d : Disk) : IsMade p d (d.makeFolders depth p) := by
  induction depth generalizing d p with
  | zero => exact isMade_outcome proper d
  | succ depth ih =>
    have first := isMade_outcome proper d
    unfold makeFolders
    split
    next missing =>
      have around := ih proper.parent d
      split
      next middle made =>
        rw [made] at around
        obtain ⟨grown, leads⟩ := isMade_outcome proper middle
        exact ⟨around.1.of_parent.trans grown, leads⟩
      next refused =>
        refine ⟨around.1.of_parent, fun whole => ?_⟩
        exact (refused _ (Prod.ext rfl whole)).elim
    next => exact first

theorem makeFolders_new {made : Disk} {refused : Option FileFault} {depth : Nat} (proper : p.IsProper)
    (result : d.makeFolders depth p = (made, refused)) : IsMade p d (made, refused) :=
  result ▸ isMade_makeFolders depth proper d

end Disk

end SchemaLint
