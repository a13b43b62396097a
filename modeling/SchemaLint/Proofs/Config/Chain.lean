import SchemaLint.Proofs.Config.Layers

/-!
# The files of a chain of folders

The values of a folder are read from the folders around it one after the other, and so are its patterns.  Here both walks
are taken apart: what each folder holds is found first, and then put together.  A walk that fails does so at the first
folder whose file does.
-/

namespace SchemaLint

open Yaml (Value Entries)

namespace Disk

variable {d : Disk} {path : String}

/-- A file that is found can be read, and only such a file can. -/
theorem isFile_eq_true_iff : d.isFile path = .ok true <-> exists contents, d.readFile path = .ok contents := by
  unfold isFile readFile
  rcases d.find true path with fault | ⟨way, file | entries | target⟩
  · cases fault <;> simp [bind, Except.bind]
  all_goals simp [bind, Except.bind, pure, Except.pure, throw, throwThe, MonadExceptOf.throw]

end Disk

namespace Yaml.Entries

/-- What entries say of a name once they are written one after the other: the last one wins. -/
def says? (entries : Entries) (name : String) : Option Value :=
  (update [] entries).get? name

theorem get?_update_says? (entries later : Entries) (name : String) :
    (entries.update later).get? name = (later.says? name).or (entries.get? name) :=
  get?_update entries later name

/-- Of many layers the last one that speaks of a name is heard. -/
theorem get?_layers (layers : List Entries) (base : Entries) (name : String) :
    (layers.foldl update base).get? name = (layers.reverse.findSome? (says? · name)).or (base.get? name) := by
  induction layers generalizing base with
  | nil => rfl
  | cons layer rest ih =>
    rw [List.foldl_cons, ih, get?_update_says?, List.reverse_cons, List.findSome?_append, Option.or_assoc,
      List.findSome?_singleton]

theorem get?_put_of_ne {key name : String} (other : name ≠ key) (value : Value) (entries : Entries) :
    (entries.put (.string (Text.ofString key)) value).get? name = entries.get? name := by
  rw [get?_put, if_neg]
  intro same
  have names := congrArg Text.toString (Value.string.inj (Value.sameKey_string.mp same))
  rw [Text.toString_ofString, Text.toString_ofString] at names
  exact other names.symm

/-- No key stands twice. -/
def IsKeyed (entries : Entries) : Prop :=
  entries.Pairwise fun a b => a.1.sameKey b.1 = false

theorem key_of_mem_put {key value : Value} {entries : Entries} {e : Value × Value}
    (member : e ∈ entries.put key value) :
    e.1 = key ∨ exists e', e' ∈ entries ∧ e'.1 = e.1 := by
  induction entries with
  | nil =>
    cases List.mem_singleton.mp member
    exact .inl rfl
  | cons first rest ih =>
    rw [put] at member
    split at member
    · rcases List.mem_cons.mp member with rfl | later
      · exact .inr ⟨first, List.mem_cons_self .., rfl⟩
      · exact .inr ⟨e, List.mem_cons_of_mem _ later, rfl⟩
    · rcases List.mem_cons.mp member with rfl | later
      · exact .inr ⟨first, List.mem_cons_self .., rfl⟩
      · rcases ih later with same | ⟨e', inside, same⟩
        · exact .inl same
        · exact .inr ⟨e', List.mem_cons_of_mem _ inside, same⟩

theorem isKeyed_put {key value : Value} {entries : Entries} (keyed : entries.IsKeyed) :
    (entries.put key value).IsKeyed := by
  induction entries with
  | nil => exact List.pairwise_singleton ..
  | cons first rest ih =>
    obtain ⟨apart, others⟩ := List.pairwise_cons.mp keyed
    rw [put]
    split
    · exact List.pairwise_cons.mpr ⟨apart, others⟩
    next other =>
      refine List.pairwise_cons.mpr ⟨?_, ih others⟩
      intro e member
      rcases key_of_mem_put member with same | ⟨e', inside, same⟩
      · rw [same]
        exact Bool.eq_false_iff.mpr other
      · rw [← same]
        exact apart e' inside

theorem isKeyed_update {entries : Entries} (keyed : entries.IsKeyed) (later : Entries) :
    (entries.update later).IsKeyed := by
  induction later generalizing entries with
  | nil => exact keyed
  | cons entry rest ih => exact ih (isKeyed_put keyed)

theorem isKeyed_layers {base : Entries} (keyed : base.IsKeyed) (layers : List Entries) :
    (layers.foldl update base).IsKeyed := by
  induction layers generalizing base with
  | nil => exact keyed
  | cons layer rest ih => exact ih (isKeyed_update keyed layer)

theorem get?_update_of_isKeyed {entries later : Entries} (keyed : later.IsKeyed) (name : String) :
    (entries.update later).get? name = (later.get? name).or (entries.get? name) := by
  induction later generalizing entries with
  | nil => rfl
  | cons entry rest ih =>
    obtain ⟨key, value⟩ := entry
    obtain ⟨apart, others⟩ := List.pairwise_cons.mp keyed
    change (update (put key value entries) rest).get? name = _
    rw [ih others, get?_put, get?]
    by_cases named : key.sameKey (.string (Text.ofString name)) = true
    · have absent : get? name rest = none := by
        cases Value.sameKey_string.mp named
        clear ih keyed others
        induction rest with
        | nil => rfl
        | cons e more ih =>
          have other := apart e (List.mem_cons_self ..)
          rw [get?, if_neg, ih fun e' inside => apart e' (List.mem_cons_of_mem _ inside)]
          intro named'
          rw [Value.sameKey_string.mp named', named] at other
          cases other
      rw [absent, if_pos named, if_pos named]
      rfl
    · rw [if_neg named, if_neg named]

end Yaml.Entries

namespace IgnoreFile

/-- Adding patterns one after the other keeps each once, where it first stands. -/
theorem foldl_addOnce (more : List String) (patterns : List String) :
    more.foldl addOnce patterns = patterns ++ (more.filter fun p => !patterns.contains p).eraseDups := by
  induction more generalizing patterns with
  | nil => rw [List.foldl_nil, List.filter_nil, List.eraseDups_nil, List.append_nil]
  | cons first rest ih =>
    rw [List.foldl_cons, ih, addOnce]
    by_cases known : patterns.contains first = true
    · rw [if_pos known, List.filter_cons_of_neg (by simpa using known)]
    · rw [if_neg known, List.filter_cons_of_pos (by simpa using known), List.eraseDups_cons, List.append_assoc,
        List.singleton_append, List.filter_filter]
      congr 3
      apply List.filter_congr
      intro p _
      by_cases same : p = first <;> simp [same]

theorem foldl_addOnce_nil (more : List String) : more.foldl addOnce [] = more.eraseDups := by
  rw [foldl_addOnce, List.nil_append]
  simp

end IgnoreFile

namespace Config

variable {d : Disk} {name : String} {folder : Path}

section Held

variable {α : Type} {read : Path -> Except Failed α}

/-- What a folder holds in the file of a name, if there is one. -/
def heldIn? (d : Disk) (name : String) (read : Path -> Except Failed α) (folder : Path) : Except Failed (Option α) := do
  match ← fileIn? d name folder with
  | some p => return some (← read p)
  | none => return none

theorem heldIn?_of_absent (absent : d.isFile (folder.child name).text = .ok false) :
    heldIn? d name read folder = .ok none := by
  simp [heldIn?, fileIn?, absent, bind, Except.bind, pure, Except.pure]

theorem heldIn?_of_present (present : d.isFile (folder.child name).text = .ok true) :
    heldIn? d name read folder = (read (folder.child name)).map some := by
  simp only [heldIn?, fileIn?, present, bind, Except.bind, pure, Except.pure, if_true]
  cases read (folder.child name) <;> rfl

theorem heldIn?_of_refused {fault : FileFault} (refused : d.isFile (folder.child name).text = .error fault) :
    heldIn? d name read folder = .error (.crash (fault.crash (folder.child name).text)) := by
  simp [heldIn?, fileIn?, refused, bind, Except.bind]

/-- Where a file can be looked for, and is read if it is there, a folder holds what can be read. -/
theorem heldIn?_of_readable (asked : exists there, d.isFile (folder.child name).text = .ok there)
    (present : d.isFile (folder.child name).text = .ok true -> exists a, read (folder.child name) = .ok a)
    (absent : d.isFile (folder.child name).text = .ok false -> exists e, read (folder.child name) = .error e) :
    heldIn? d name read folder = .ok (read (folder.child name)).toOption := by
  obtain ⟨there, asked⟩ := asked
  cases there with
  | false =>
    obtain ⟨e, failed⟩ := absent asked
    rw [heldIn?_of_absent asked, failed]
    rfl
  | true =>
    obtain ⟨a, done⟩ := present asked
    rw [heldIn?_of_present asked, done]
    rfl

end Held

/-- A walk that adds what each folder holds to what it has comes to what all folders hold. -/
theorem gathered_eq {α β : Type} {name : String} {read : Path -> Except Failed α} {add : β -> α -> β}
    {walk : β -> List Path -> Except Failed β} (ends : forall b, walk b [] = .ok b)
    (goes : forall b q rest, walk b (q :: rest) = heldIn? d name read q >>= fun held => walk (held.elim b (add b)) rest)
    (start : β) (folders : List Path) :
    walk start folders =
      (folders.mapM (heldIn? d name read)).map fun held => held.reduceOption.foldl add start := by
  induction folders generalizing start with
  | nil => exact ends start
  | cons q rest ih =>
    rw [goes, List.mapM_cons]
    rcases heldIn? d name read q with failed | held
    · rfl
    · change walk _ rest = _
      rw [ih]
      change _ = Except.map _ (rest.mapM _ >>= _)
      cases rest.mapM (heldIn? d name read) with
      | error failed => rfl
      | ok others => cases held <;> rfl

/-- The values of a chain of folders are those of each folder, written one after the other. -/
theorem valuesOf_eq (values : Entries) (folders : List Path) :
    valuesOf d values folders =
      (folders.mapM (heldIn? d valuesName (readValues d))).map fun held =>
        held.reduceOption.foldl Entries.update values := by
  refine gathered_eq (fun _ => rfl) ?_ values folders
  intro values q rest
  rw [valuesOf, heldIn?]
  rcases fileIn? d valuesName q with failed | there | p
  · rfl
  · rfl
  · change (readValues d p >>= _) = (readValues d p >>= _) >>= _
    cases readValues d p <;> rfl

/-- The patterns of a chain of folders are those of each folder, each once. -/
theorem ignoreOf_eq (patterns : List String) (folders : List Path) :
    ignoreOf d patterns folders =
      (folders.mapM (heldIn? d ignoreName (readIgnore d))).map fun held =>
        held.reduceOption.foldl (fun patterns more => more.foldl IgnoreFile.addOnce patterns) patterns := by
  refine gathered_eq (fun _ => rfl) ?_ patterns folders
  intro patterns q rest
  rw [ignoreOf, heldIn?]
  rcases fileIn? d ignoreName q with failed | there | p
  · rfl
  · rfl
  · change (readIgnore d p >>= _) = (readIgnore d p >>= _) >>= _
    cases readIgnore d p <;> rfl

/-! ## What the files hold -/

/-- What the values file of a folder says, if there is one that can be read. -/
def valuesAt? (d : Disk) (folder : Path) : Option Entries :=
  (readValues d (folder.child valuesName)).toOption

/-- The patterns of the ignore file of a folder, if there is one that can be read. -/
def patternsAt (d : Disk) (folder : Path) : List String :=
  (readIgnore d (folder.child ignoreName)).toOption.getD []

theorem fileBytes_eq_ok_iff {p : Path} {what : String} {bytes : Bytes} :
    fileBytes d p what = .ok bytes <-> d.readFile p.text = .ok bytes := by
  unfold fileBytes
  split
  next found => rw [found, Except.ok.injEq, Except.ok.injEq]
  next failed => simp [failed]
  next failed => simp [failed]

/-- What is no file has no bytes. -/
theorem exists_fileBytes_eq_error {p : Path} (absent : d.isFile p.text = .ok false) (what : String) :
    exists e, fileBytes d p what = .error e := by
  cases read : fileBytes d p what with
  | error e => exact ⟨e, rfl⟩
  | ok bytes =>
    have present := Disk.isFile_eq_true_iff.mpr ⟨bytes, fileBytes_eq_ok_iff.mp read⟩
    cases absent.symm.trans present

theorem exists_readValues_eq_error {p : Path} (absent : d.isFile p.text = .ok false) :
    exists e, readValues d p = .error e := by
  obtain ⟨e, failed⟩ := exists_fileBytes_eq_error absent "config"
  exact ⟨e, by rw [readValues, failed]; rfl⟩

theorem exists_readIgnore_eq_error {p : Path} (absent : d.isFile p.text = .ok false) :
    exists e, readIgnore d p = .error e := by
  obtain ⟨e, failed⟩ := exists_fileBytes_eq_error absent "ignore"
  exact ⟨e, by rw [readIgnore, failed]; rfl⟩

/-- What has been read is a file. -/
theorem isFile_of_fileBytes {p : Path} {what : String} {bytes : Bytes} (read : fileBytes d p what = .ok bytes) :
    d.isFile p.text = .ok true :=
  Disk.isFile_eq_true_iff.mpr ⟨bytes, fileBytes_eq_ok_iff.mp read⟩

theorem isFile_of_readValues {p : Path} {values : Entries} (read : readValues d p = .ok values) :
    d.isFile p.text = .ok true := by
  obtain ⟨bytes, found, -⟩ := bind_eq_ok_iff.mp read
  exact isFile_of_fileBytes found

/-- An ignore file can be read if it is text. -/
theorem exists_readIgnore_eq_ok {p : Path} (present : d.isFile p.text = .ok true)
    (text : forall bytes, d.readFile p.text = .ok bytes -> exists t, Encoding.Utf8.decode bytes = .ok t) :
    exists patterns, readIgnore d p = .ok patterns := by
  obtain ⟨bytes, read⟩ := Disk.isFile_eq_true_iff.mp present
  obtain ⟨t, isText⟩ := text bytes read
  refine ⟨IgnoreFile.read (t.map CodePoint.toChar), ?_⟩
  have decodes : decoded bytes = .ok (t.map CodePoint.toChar) := by
    rw [decoded, isText]
  exact bind_eq_ok_iff.mpr ⟨bytes, fileBytes_eq_ok_iff.mpr read, bind_eq_ok_iff.mpr ⟨_, decodes, rfl⟩⟩

/-- A file of the name can be looked for in every folder: no path is too long. -/
def Searchable (d : Disk) (chain : List Path) (name : String) : Prop :=
  forall q, q ∈ chain -> exists there, d.isFile (q.child name).text = .ok there

variable {chain : List Path}

/-- If all values files can be read, the values of a chain are what the files say, one after the other. -/
theorem valuesOf_of_readable (asked : Searchable d chain valuesName)
    (readable : forall q, q ∈ chain -> d.isFile (q.child valuesName).text = .ok true ->
      exists values, readValues d (q.child valuesName) = .ok values) :
    valuesOf d [] chain = .ok ((chain.filterMap (valuesAt? d)).foldl Entries.update []) := by
  have held : chain.mapM (heldIn? d valuesName (readValues d)) = .ok (chain.map (valuesAt? d)) := by
    rw [mapM_eq_ok_iff, List.forall₂_map_right_iff, List.forall₂_same]
    intro q inside
    exact heldIn?_of_readable (asked q inside) (readable q inside) exists_readValues_eq_error
  rw [valuesOf_eq, held]
  change Except.ok (List.foldl _ _ ((chain.map (valuesAt? d)).filterMap id)) = _
  rw [List.filterMap_map]
  rfl

/-- If all ignore files can be read, the patterns of a chain are those of the files, each where it first stands. -/
theorem ignoreOf_of_readable (asked : Searchable d chain ignoreName)
    (readable : forall q, q ∈ chain -> d.isFile (q.child ignoreName).text = .ok true ->
      exists patterns, readIgnore d (q.child ignoreName) = .ok patterns) :
    ignoreOf d [] chain = .ok (chain.flatMap (patternsAt d)).eraseDups := by
  have held : chain.mapM (heldIn? d ignoreName (readIgnore d)) =
      .ok (chain.map fun q => (readIgnore d (q.child ignoreName)).toOption) := by
    rw [mapM_eq_ok_iff, List.forall₂_map_right_iff, List.forall₂_same]
    intro q inside
    exact heldIn?_of_readable (asked q inside) (readable q inside) exists_readIgnore_eq_error
  have joined : forall l : List (Option (List String)), l.reduceOption.flatten = (l.map fun o => o.getD []).flatten := by
    intro l
    induction l with
    | nil => rfl
    | cons o rest ih =>
      cases o with
      | none => exact ih
      | some more => exact congrArg (more ++ ·) ih
  rw [ignoreOf_eq, held]
  simp only [Except.map, ← List.foldl_flatten, IgnoreFile.foldl_addOnce_nil, joined, List.map_map]
  rfl

end Config

end SchemaLint
