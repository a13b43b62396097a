import SchemaLint.Proofs.Classified
import SchemaLint.Proofs.Config.Decisions
import SchemaLint.Proofs.Files.Linked

/-!
# Which value decides

A setting is decided by the explicit values if they speak of it, else by the nearest file that does, and else by its
default.  Only the patterns add up: those of the ignore files stand behind the patterns of the nearest values file that
has some, unless patterns are given explicitly.
-/

namespace SchemaLint

open Yaml (Value Entries)

namespace Settings

/-- Whether a value for patterns has one of its documented forms: nothing, a text or a list of texts. -/
def isPatterns : Value -> Bool
  | .null | .string _ => true
  | .list items => items.all fun item =>
    match item with
    | .string _ => true
    | _ => false
  | _ => false

/-- Entries that speak of the schema under its documented name only, and of no indentation that there is no room for. -/
structure IsUsual (entries : Entries) : Prop where
  schema : entries.says? "schema_uri" = none
  indent : (entries.says? "indent").all isBounded = true

/-- Usual entries of which the patterns have one of their documented forms. -/
structure IsDocumented (entries : Entries) : Prop extends IsUsual entries where
  ignore : (entries.says? "ignore").all isPatterns = true

instance (entries : Entries) : Decidable (IsUsual entries) :=
  decidable_of_iff (entries.says? "schema_uri" = none ∧ (entries.says? "indent").all isBounded = true)
    ⟨fun both => ⟨both.1, both.2⟩, fun usual => ⟨usual.schema, usual.indent⟩⟩

instance (entries : Entries) : Decidable (IsDocumented entries) :=
  decidable_of_iff (IsUsual entries ∧ (entries.says? "ignore").all isPatterns = true)
    ⟨fun both => ⟨both.1, both.2⟩, fun documented => ⟨documented.toIsUsual, documented.ignore⟩⟩

/-- What the nearest file that speaks of a setting says; the farthest file comes first. -/
def nearest? (files : List Entries) (name : String) : Option Value :=
  files.reverse.findSome? (·.says? name)

/-- The value that decides on a setting, if there is one. -/
def deciding? (overrides : Entries) (files : List Entries) (name : String) : Option Value :=
  (overrides.says? name).or (nearest? files name)

/-- The decision of a value; without one the default stays. -/
def decision {α : Type} (v? : Option Value) (name : String) (fallback : α) (take : String -> Value -> Taken α) :
    Taken α :=
  match v? with
  | some v => take name v
  | none => .value fallback

/-- The patterns that a value gives by itself. -/
def ownPatterns : Option Value -> List Text
  | some (.string t) => if t.isEmpty then [] else [t]
  | some (.list items) => items.filterMap textOf?
  | _ => []

/-- What explicit values, the values of files and the patterns of ignore files decide; the farthest file comes first. -/
def decided (overrides : Entries) (files : List Entries) (patterns : List String) : Decisions :=
  { ignore :=
      if (overrides.says? "ignore").isNone && !patterns.isEmpty then
        .value (ownPatterns (nearest? files "ignore") ++ patterns.map Text.ofString)
      else decision (deciding? overrides files "ignore") "ignore" defaults.ignore takeTexts
    schema := decision (deciding? overrides files "validate") "validate" defaults.schema takeTextOrNone
    indent := decision (deciding? overrides files "indent") "indent" defaults.indent takeIndent
    env := decision (deciding? overrides files "env") "env" defaults.env takeText
    quiet := decision (deciding? overrides files "quiet") "quiet" defaults.quiet takeFlag
    pretty := decision (deciding? overrides files "pretty") "pretty" defaults.pretty takeFlag
    sort := decision (deciding? overrides files "sort") "sort" defaults.sort takeFlag }

/-! ## Lists of texts -/

theorem filterMap_textOf? (ts : List Text) : (ts.map Value.string).filterMap textOf? = ts := by
  rw [List.filterMap_map]
  exact List.filterMap_some

theorem takeTexts_texts (name : String) (ts : List Text) :
    takeTexts name (.list (ts.map .string)) = .value ts := by
  have faultless : itemFaults name (ts.map .string) = [] := by
    rw [itemFaults, List.filterMap_eq_nil_iff]
    rintro ⟨v, i⟩ inside
    obtain ⟨t, -, rfl⟩ := List.mem_map.mp (List.fst_mem_of_mem_zipIdx inside)
    rfl
  simp only [takeTexts, itemsOf?, faultless, filterMap_textOf?]

theorem exists_texts {items : List Value} (texts : isPatterns (.list items) = true) :
    exists ts : List Text, items = ts.map .string := by
  induction items with
  | nil => exact ⟨[], rfl⟩
  | cons item rest ih =>
    obtain ⟨first, others⟩ := Bool.and_eq_true_iff.mp texts
    obtain ⟨ts, rfl⟩ := ih others
    cases item with
    | string t => exact ⟨t :: ts, rfl⟩
    | null | bool | int | float | date | bytes | list | pair | mapping | set | endless => cases first

/-- A value in a documented form gives its own patterns. -/
theorem givenPatterns_eq {v? : Option Value} (documented : v?.all isPatterns = true) :
    exists ts : List Text,
      Config.givenPatterns v? = .ok (ts.map .string) ∧ ownPatterns v? = ts := by
  cases v? with
  | none => exact ⟨[], rfl, rfl⟩
  | some v =>
    cases v with
    | null => exact ⟨[], rfl, rfl⟩
    | string t =>
      cases t with
      | nil => exact ⟨[], rfl, rfl⟩
      | cons c rest => exact ⟨[c :: rest], rfl, rfl⟩
    | list items =>
      obtain ⟨ts, rfl⟩ := exists_texts documented
      refine ⟨ts, ?_, filterMap_textOf? ts⟩
      cases ts <;> rfl
    | bool | int | float | date | bytes | pair | mapping | set | endless => cases documented

/-! ## Layers -/

section Layers

variable {overrides : Entries} {files : List Entries}

/-- The values of files that are written one after the other. -/
def written (files : List Entries) : Entries :=
  files.foldl Entries.update []

theorem isKeyed_written (files : List Entries) : (written files).IsKeyed :=
  Entries.isKeyed_layers List.Pairwise.nil files

theorem get?_written (files : List Entries) (name : String) : (written files).get? name = nearest? files name := by
  rw [written, Entries.get?_layers]
  exact Option.or_none

theorem takeSchema_eq {raw : Entries} (undocumented : raw.get? "schema_uri" = none) :
    takeSchema raw = decision (raw.get? "validate") "validate" defaults.schema takeTextOrNone := by
  unfold takeSchema takeFrom
  rw [undocumented]
  rfl

/-- The decisions of explicit values above values that agree with those of files in all settings but the patterns. -/
theorem decisionsOf_layered {below : Entries} (keyed : below.IsKeyed)
    (others : forall name, name ≠ "ignore" -> below.get? name = nearest? files name)
    (undocumented : deciding? overrides files "schema_uri" = none) (patterns : List String)
    (ignore : takeFrom (layered [below, overrides]) "ignore" defaults.ignore takeTexts =
      (decided overrides files patterns).ignore) :
    decisionsOf (layered [below, overrides]) = decided overrides files patterns := by
  have said : forall name, name ≠ "ignore" ->
      (layered [below, overrides]).get? name = deciding? overrides files name := by
    intro name other
    rw [get?_layered keyed, others name other, deciding?]
  have taken : forall {α : Type} (name : String) (fallback : α) (take : String -> Value -> Taken α), name ≠ "ignore" ->
      takeFrom (layered [below, overrides]) name fallback take =
        decision (deciding? overrides files name) name fallback take := by
    intro α name fallback take other
    rw [← said name other]
    rfl
  unfold decisionsOf
  rw [ignore, takeSchema_eq ((said _ (by decide)).trans undocumented), said _ (by decide), taken _ _ _ (by decide),
    taken _ _ _ (by decide), taken _ _ _ (by decide), taken _ _ _ (by decide), taken _ _ _ (by decide)]
  rfl

/-- Without ignore files the values stand as they are. -/
theorem decisionsOf_without_patterns (undocumented : deciding? overrides files "schema_uri" = none) :
    decisionsOf (layered [written files, overrides]) = decided overrides files [] := by
  refine decisionsOf_layered (isKeyed_written files) (fun name _ => get?_written files name) undocumented [] ?_
  rw [takeFrom, get?_layered (isKeyed_written files), get?_written]
  simp only [decided, List.isEmpty_nil, Bool.not_true, Bool.and_false, Bool.false_eq_true, if_false]
  rfl

/-- The values of files in which the patterns of ignore files stand behind those that the files give. -/
def joined (files : List Entries) (own : List Text) (patterns : List String) : Entries :=
  (written files).put (.string (Text.ofString "ignore"))
    (.list (own.map .string ++ patterns.map fun (p : String) => .string p))

theorem get?_joined (own : List Text) (patterns : List String) :
    (joined files own patterns).get? "ignore" = some (.list ((own ++ patterns.map Text.ofString).map .string)) := by
  rw [joined, Entries.get?_put, if_pos (by decide), List.map_append, List.map_map]
  rfl

theorem get?_joined_of_ne {name : String} (other : name ≠ "ignore") (own : List Text) (patterns : List String) :
    (joined files own patterns).get? name = nearest? files name := by
  rw [joined, Entries.get?_put_of_ne other, get?_written]

/-- The patterns of ignore files stand behind those of the nearest file that has some. -/
theorem decisionsOf_with_patterns {patterns : List String} {own : List Text}
    (undocumented : deciding? overrides files "schema_uri" = none) (full : patterns.isEmpty = false)
    (given : ownPatterns (nearest? files "ignore") = own) :
    decisionsOf (layered [joined files own patterns, overrides]) = decided overrides files patterns := by
  have keyed : (joined files own patterns).IsKeyed := Entries.isKeyed_put (isKeyed_written files)
  refine decisionsOf_layered keyed (fun name other => get?_joined_of_ne other own patterns) undocumented patterns ?_
  rw [takeFrom, get?_layered keyed, get?_joined]
  cases said : overrides.says? "ignore" with
  | some v =>
    simp only [decided, said, Option.isNone_some, Bool.false_and, Bool.false_eq_true, if_false, deciding?]
    rfl
  | none =>
    simp only [decided, said, Option.isNone_none, full, Bool.not_false, Bool.and_self, if_true, given]
    exact takeTexts_texts "ignore" _

end Layers

end Settings

namespace Config

open Settings

variable {d : Disk} {overrides : Entries} {files : List Entries} {patterns : List String}

/-- Once the files of a chain are read, the settings of its last folder are those of what was read. -/
theorem resolve_eq_combined {folder : Path} {chain : List Path} (found : searched d folder = .ok chain)
    (values : valuesOf d [] chain = .ok (written files)) (read : ignoreOf d [] chain = .ok patterns) :
    resolve d overrides (some folder) =
      (combined (written files) patterns >>= fun below => ofLayers [below, overrides]) := by
  simp only [resolve, loadValues, loadIgnore, found, bind, Except.bind, values, read]

/-- The settings of files, patterns and explicit values end as what they decide says. -/
theorem ends_combined (undocumented : deciding? overrides files "schema_uri" = none)
    (documented : (nearest? files "ignore").all isPatterns = true) :
    Ends (decided overrides files patterns)
      (combined (written files) patterns >>= fun below => ofLayers [below, overrides]) := by
  cases full : patterns.isEmpty with
  | true =>
    cases List.isEmpty_iff.mp full
    rw [← decisionsOf_without_patterns undocumented]
    exact ends_ofRaw _
  | false =>
    obtain ⟨own, given, asTexts⟩ := givenPatterns_eq documented
    have below : combined (written files) patterns = .ok (joined files own patterns) := by
      rw [combined, if_neg (by simp [full]), get?_written, given]
      rfl
    rw [below, ← decisionsOf_with_patterns undocumented full asTexts]
    exact ends_ofRaw _

/-- An indentation that decides is beyond all measure only if it is such a number. -/
theorem indent_eq_crash_iff {c : Crash} :
    (decided overrides files patterns).indent = .crash c <->
      exists n, deciding? overrides files "indent" = some (.int n) ∧ Boundless n c := by
  change decision (deciding? overrides files "indent") "indent" defaults.indent takeIndent = .crash c <-> _
  cases deciding? overrides files "indent" with
  | none => simp [decision]
  | some v => simp [decision, takeIndent_eq_crash_iff]

theorem all_nearest? {holds : Value -> Bool} {name : String}
    (each : forall file, file ∈ files -> (file.says? name).all holds = true) :
    (nearest? files name).all holds = true := by
  rw [Option.all_eq_true]
  intro v said
  obtain ⟨file, inside, said⟩ := List.exists_of_findSome?_eq_some said
  exact (Option.all_eq_true ..).mp (each file (List.mem_reverse.mp inside)) v said

theorem nearest?_eq_none {name : String} (silent : forall file, file ∈ files -> file.says? name = none) :
    nearest? files name = none := by
  rw [nearest?, List.findSome?_eq_none_iff]
  exact fun file inside => silent file (List.mem_reverse.mp inside)

/-- A values file that is accepted says what is read of it. -/
theorem mem_valuesAt? {chain : List Path} {P : Entries -> Prop}
    (accepted : forall q, q ∈ chain -> d.isFile (q.child valuesName).text = .ok true ->
      exists values, readValues d (q.child valuesName) = .ok values ∧ P values)
    (file : Entries) (member : file ∈ chain.filterMap (valuesAt? d)) : P file := by
  obtain ⟨q, inside, read⟩ := List.mem_filterMap.mp member
  have read := toOption_eq_some_iff.mp read
  obtain ⟨values, read', holds⟩ := accepted q inside (isFile_of_readValues read)
  cases read.symm.trans read'
  exact holds

/-- The files of a chain of folders are in order: the values files are accepted and hold documented values, and the ignore
files hold text. -/
structure WellKept (d : Disk) (chain : List Path) : Prop where
  values : forall q, q ∈ chain -> d.isFile (q.child valuesName).text = .ok true ->
    exists values, readValues d (q.child valuesName) = .ok values ∧ IsDocumented values
  ignore : forall q, q ∈ chain -> forall bytes, d.readFile (q.child ignoreName).text = .ok bytes ->
    exists t, Encoding.Utf8.decode bytes = .ok t

/-- Explicit values, the values files of a chain of folders and the patterns of its ignore files decide on the settings of
a folder: they are made if every deciding value is valid, and refused as an error of the configuration if one is not. -/
def Precedence (d : Disk) (overrides : Entries) (folder : Path) (chain : List Path) : Prop :=
  let outcome := resolve d overrides (some folder)
  let decisions := decided overrides (chain.filterMap (valuesAt? d)) (chain.flatMap (patternsAt d)).eraseDups
  (forall s, outcome = .ok s <-> decisions.Make s) ∧
    ((exists e, outcome = .error (.error e) ∧ e.kind = .config) <-> decisions.Refuse) ∧
    ((exists s, decisions.Make s) ∨ decisions.Refuse)

/-- In a chain of folders in each of which the files can be looked for, files in order and usual explicit values decide on
the settings. -/
theorem precedence_of_searchable {folder : Path} {chain : List Path} (found : searched d folder = .ok chain)
    (asked : forall name, name ∈ [valuesName, ignoreName] -> Searchable d chain name) (kept : WellKept d chain)
    (usual : IsUsual overrides) : Precedence d overrides folder chain := by
  unfold Precedence
  intro outcome decisions
  have isDocumented := mem_valuesAt? kept.values
  have values := valuesOf_of_readable (asked _ (by simp)) fun q inside there => by
    obtain ⟨values, read, -⟩ := kept.values q inside there
    exact ⟨values, read⟩
  have patterns := ignoreOf_of_readable (asked _ (by simp)) fun q inside there =>
    exists_readIgnore_eq_ok there (kept.ignore q inside)
  have ends : Ends decisions outcome := by
    simp only [outcome]
    rw [resolve_eq_combined found values patterns]
    refine ends_combined ?_ (all_nearest? fun file member => (isDocumented file member).ignore)
    rw [deciding?, usual.schema, nearest?_eq_none fun file member => (isDocumented file member).schema]
    rfl
  have calm : decisions.indent.IsCalm := by
    intro c beyond
    obtain ⟨n, decides, boundless⟩ := indent_eq_crash_iff.mp beyond
    have bounded : isBounded (.int n) = true := by
      rcases Option.or_eq_some_iff.mp decides with explicit | ⟨-, nearest⟩
      · exact (Option.all_eq_true ..).mp usual.indent _ explicit
      · exact (Option.all_eq_true ..).mp (all_nearest? fun file member => (isDocumented file member).indent) _ nearest
    exact isBounded_iff.mp bounded c boundless
  refine ⟨fun s => ends.eq_ok_iff, ?_, ends.make_or_refuse calm⟩
  rw [ends.eq_error_iff, and_iff_left calm]

/-- Where there are no values files, but one cannot be looked for, the search ends in a crash. -/
theorem resolve_of_unsearchable (overrides : Entries) {folder q : Path} {chain : List Path}
    (found : searched d folder = .ok chain)
    (bare : forall path bytes, d.readFile path ≠ .ok bytes) (inside : q ∈ chain) {fault : FileFault}
    (refused : d.isFile (q.child valuesName).text = .error fault) :
    exists c, resolve d overrides (some folder) = .error (.crash c) := by
  have held : forall q' failed, heldIn? d valuesName (readValues d) q' = .error failed ->
      exists c, failed = .crash c := by
    intro q' failed isFailed
    rcases asked : d.isFile (q'.child valuesName).text with fault' | there | there
    · rw [heldIn?_of_refused asked] at isFailed
      cases isFailed
      exact ⟨_, rfl⟩
    · rw [heldIn?_of_absent asked] at isFailed
      cases isFailed
    · obtain ⟨bytes, read⟩ := Disk.isFile_eq_true_iff.mp asked
      exact absurd read (bare _ bytes)
  obtain ⟨c, failed⟩ : exists c, valuesOf d [] chain = .error (.crash c) := by
    rw [valuesOf_eq]
    cases walked : chain.mapM (heldIn? d valuesName (readValues d)) with
    | error failed =>
      obtain ⟨before, q', after, -, -, isFailed⟩ := mapM_eq_error_iff.mp walked
      obtain ⟨c, rfl⟩ := held q' failed isFailed
      exact ⟨c, rfl⟩
    | ok all =>
      obtain ⟨value, isHeld⟩ := exists_ok_of_mapM walked inside
      rw [heldIn?_of_refused refused] at isHeld
      cases isHeld
  refine ⟨c, ?_⟩
  simp only [resolve, loadValues, found, bind, Except.bind, failed]

/-- A crash is no decision. -/
theorem not_precedence_of_crash {folder : Path} {chain : List Path} {c : Crash}
    (crashed : resolve d overrides (some folder) = .error (.crash c)) : ¬ Precedence d overrides folder chain := by
  rintro ⟨made, refused, ⟨s, make⟩ | refuse⟩
  · cases crashed.symm.trans ((made s).mpr make)
  · obtain ⟨e, isError, -⟩ := refused.mpr refuse
    cases crashed.symm.trans isError

/-! ## A folder in a folder -/

/-- A file that holds a text. -/
def textFile (text : String) : Entry :=
  .file (Encoding.Utf8.encode text)

/-- A folder with values and an ignore file, in a folder with other values. -/
def folderInFolder : Disk where
  root := [(valuesName, textFile "ignore: [a]\nindent: 4"),
    ("p", .folder [(valuesName, textFile "ignore: b"), (ignoreName, textFile "c")])]
  current := ⟨.root, []⟩

theorem wellKept_folderInFolder : WellKept folderInFolder [⟨.root, []⟩, ⟨.root, ["p"]⟩] := by
  have accepted : forall q, q ∈ [(⟨.root, []⟩ : Path), ⟨.root, ["p"]⟩] ->
      ((readValues folderInFolder (q.child valuesName)).toOption.any fun values => decide (IsDocumented values)) = true ∧
        ((folderInFolder.readFile (q.child ignoreName).text).toOption.all fun bytes =>
          (Encoding.Utf8.decode bytes).isOk) = true := by
    decide +kernel
  constructor
  · intro q inside _
    obtain ⟨values, read, documented⟩ := (Option.any_eq_true ..).mp (accepted q inside).1
    exact ⟨values, toOption_eq_some_iff.mp read, of_decide_eq_true documented⟩
  · intro q inside bytes read
    have isText := (Option.all_eq_true ..).mp (accepted q inside).2 bytes (toOption_eq_some_iff.mpr read)
    cases decodes : Encoding.Utf8.decode bytes with
    | error fault => simp [decodes, Except.isOk, Except.toBool] at isText
    | ok t => exact ⟨t, rfl⟩

/-- The nearer folder decides on the patterns, to which those of its ignore file are added, the farther one on the
indentation, and an explicit value on the silence. -/
theorem precedence_folderInFolder :
    (resolve folderInFolder [(.string (Text.ofString "quiet"), .bool true)] (some ⟨.root, ["p"]⟩)).toOption =
        some { Settings.defaults with ignore := ["b", "c"], indent := "    ", quiet := true } ∧
      Precedence folderInFolder [(.string (Text.ofString "quiet"), .bool true)] ⟨.root, ["p"]⟩
        [⟨.root, []⟩, ⟨.root, ["p"]⟩] := by
  refine ⟨by decide +kernel, precedence_of_searchable (by rfl) ?_ wellKept_folderInFolder (by decide +kernel)⟩
  have asked : forall name, name ∈ [valuesName, ignoreName] ->
      forall q, q ∈ [(⟨.root, []⟩ : Path), ⟨.root, ["p"]⟩] ->
        (folderInFolder.isFile (q.child name).text).toOption.isSome = true := by
    decide +kernel
  intro name member q inside
  obtain ⟨there, found⟩ := Option.isSome_iff_exists.mp (asked name member q inside)
  exact ⟨there, toOption_eq_some_iff.mp found⟩

/-! ## A folder that is too deep

A link leads to the middle of a long way.  The path behind the link can be written, and leads to a folder, but the real
path of the folder cannot be. -/

/-- A long name. -/
def longName : String :=
  String.ofList (List.replicate 200 'a')

/-- Half of the names of the way. -/
def halfWay : List String :=
  List.replicate 12 longName

/-- The disk with the way. -/
def deepDisk : Disk :=
  Disk.behind "near" halfWay halfWay

/-- The folder at the end of the way, as it is reached by the link. -/
def deepFolder : Path :=
  ⟨.root, "near" :: halfWay⟩

/-- The real path of the folder. -/
def deepPath : Path :=
  ⟨.root, halfWay ++ halfWay⟩

theorem eq_longName {name : String} (inside : name ∈ halfWay ++ halfWay) : name = longName := by
  rcases List.mem_append.mp inside with first | second
  · exact List.eq_of_mem_replicate first
  · exact List.eq_of_mem_replicate second

theorem not_mem_replicate {c a : Char} (other : c ≠ a) (n : Nat) : c ∉ (String.ofList (List.replicate n a)).toList := by
  rw [String.toList_ofList]
  exact fun inside => other (List.eq_of_mem_replicate inside)

theorem near_not_mem_halfWay : "near" ∉ halfWay ++ halfWay :=
  fun inside => absurd (eq_longName inside) (by decide +kernel)

theorem linked_deepDisk : Disk.Linked deepDisk "near" (⟨.here, halfWay⟩ : Path).text halfWay halfWay := by
  refine Disk.linked_behind near_not_mem_halfWay (List.cons_ne_nil _ _) ?_ (by decide +kernel)
  intro name inside
  unfold Disk.IsShort
  rcases List.mem_cons.mp inside with rfl | long
  · decide
  · have slash : '/' ∉ longName.toList := not_mem_replicate (by decide) 200
    have null : '\x00' ∉ longName.toList := not_mem_replicate (by decide) 200
    rw [eq_longName long]
    exact ⟨by decide +kernel, ⟨by decide +kernel, by decide +kernel, slash⟩, null⟩

theorem isFile_deepPath {name : String} (known : name ∈ [valuesName, ignoreName]) :
    deepDisk.isFile (deepPath.child name).text = .error .nameTooLong := by
  have plain : '\x00' ∉ name.toList := by
    rcases List.mem_pair.mp known with rfl | rfl <;> decide
  refine Disk.isFile_of_long (Path.not_mem_text (List.cons_ne_nil _ _) (by decide) ?_) ?_
  · intro part inside
    rcases List.mem_append.mp inside with long | here
    · exact (linked_deepDisk.short part (List.mem_cons_of_mem _ long)).2.2
    · rw [List.mem_singleton.mp here]
      exact plain
  · rcases List.mem_pair.mp known with rfl | rfl <;> decide +kernel

theorem readFile_deepDisk_ne_ok (path : String) (bytes : Bytes) : deepDisk.readFile path ≠ .ok bytes :=
  Disk.readFile_behind_ne_ok near_not_mem_halfWay path bytes

theorem searched_deepFolder : searched deepDisk deepFolder = .ok deepPath.lineage := by
  have real : deepDisk.realPath deepFolder = .ok deepPath := by
    refine linked_deepDisk.realPath ?_
    rw [Disk.find_eq_error_iff.mpr (Disk.locate_of_long ?_ (by decide +kernel))]
    · nofun
    · refine Path.not_mem_text (List.cons_ne_nil _ _) (by decide) ?_
      exact fun name inside => (linked_deepDisk.short name (List.mem_cons_of_mem _ inside)).2.2
  rw [searched, real]

/-- In a folder that is too deep to be searched nothing is decided, and nor is it by an explicit indentation beyond all
measure. -/
theorem not_precedence_beyond :
    (deepDisk.isFolder deepFolder.text = true ∧ searched deepDisk deepFolder = .ok deepPath.lineage ∧
      WellKept deepDisk deepPath.lineage ∧ IsUsual [] ∧ ¬ Precedence deepDisk [] deepFolder deepPath.lineage) ∧
    (searched folderInFolder ⟨.root, ["p"]⟩ = .ok [⟨.root, []⟩, ⟨.root, ["p"]⟩] ∧
      WellKept folderInFolder [⟨.root, []⟩, ⟨.root, ["p"]⟩] ∧
      ¬ Precedence folderInFolder [(.string (Text.ofString "indent"), .int 0x8000000000000000)] ⟨.root, ["p"]⟩
        [⟨.root, []⟩, ⟨.root, ["p"]⟩]) := by
  refine ⟨⟨Disk.isFolder_iff.mpr ⟨_, linked_deepDisk.leads⟩, searched_deepFolder, ⟨?_, ?_⟩, by decide, ?_⟩,
    by rfl, wellKept_folderInFolder, ?_⟩
  · intro q _ there
    obtain ⟨bytes, read⟩ := Disk.isFile_eq_true_iff.mp there
    exact absurd read (readFile_deepDisk_ne_ok _ bytes)
  · intro q _ bytes read
    exact absurd read (readFile_deepDisk_ne_ok _ bytes)
  · obtain ⟨c, crashed⟩ := resolve_of_unsearchable [] searched_deepFolder readFile_deepDisk_ne_ok
      (Disk.mem_lineage_self deepPath) (isFile_deepPath (List.mem_cons_self ..))
    exact not_precedence_of_crash crashed
  · have overflows : crashOf? (resolve folderInFolder [(.string (Text.ofString "indent"), .int 0x8000000000000000)]
        (some ⟨.root, ["p"]⟩)) = some .overflow := by
      decide +kernel
    unfold crashOf? at overflows
    split at overflows
    next crashed => exact not_precedence_of_crash crashed
    next => cases overflows

end Config

end SchemaLint
