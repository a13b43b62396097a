import SchemaLint.Proofs.Cache.Kept
import SchemaLint.Proofs.Lint.Progress
import SchemaLint.Proofs.Lint.Together

/-!
# Files are linted as if there were no other

In whatever order the pipelines of separate files and the loads of their schemas take their steps, each file comes to
what it comes to alone with the cache as it was at first, and a run says so in the order of the files.
-/

namespace SchemaLint

open Json (Value)

namespace Task

variable {t : Task} {out : Output} {s : Sources} {w : World} {files : List Path}

/-- The pool of some files after a list of events. -/
def pooled (t : Task) (out : Output) (s : Sources) (w : World) (files : List Path) (history : List Pool.Event) : Pool :=
  (Pool.start files w).after t out s history

/-- What each of some files comes to alone, in their order; nothing if one of them crashes. -/
def verdictsAlone? (t : Task) (out : Output) (s : Sources) (w : World) (files : List Path) : Option (List Verdict) :=
  files.mapM fun file => (t.alone out s w file).outcome.toOption

/-- What is printed for some files if each is linted alone. -/
def printedAlone (t : Task) (out : Output) (s : Sources) (w : World) (files : List Path) : List String :=
  files.flatMap fun file => (t.alone out s w file).said.printed

/-- Neither the order in which things happen nor the other files have a part in what comes of a file. -/
structure Isolation (t : Task) (out : Output) (s : Sources) (w : World) (files : List Path) : Prop where
  /-- A file has come to what it comes to alone as soon as it is linted, whatever has become of the others. -/
  each : forall history file outcome, (file, .ended outcome) ∈ (t.pooled out s w files history).pipelines ->
    outcome.toOption = (t.alone out s w file).outcome.toOption
  /-- When all files are linted, there is one verdict for each of them, in their order. -/
  verdicts : forall history, (t.pooled out s w files history).isOver = true ->
    (t.pooled out s w files history).verdicts? = t.verdictsAlone? out s w files
  /-- The texts that are printed are always the same, up to their order. -/
  printed : forall history, (t.pooled out s w files history).isOver = true ->
    (t.pooled out s w files history).said.printed.Perm (t.printedAlone out s w files)
  /-- Only so many events change anything. -/
  bounded : forall history event,
    (t.pooled out s w files history).take t out s event = t.pooled out s w files history ∨
      ((t.pooled out s w files history).take t out s event).left < (t.pooled out s w files history).left
  /-- Something can happen until all files are linted. -/
  lively : forall history,
    (forall event, (t.pooled out s w files history).take t out s event = t.pooled out s w files history) ->
      (t.pooled out s w files history).isOver = true
  /-- A run is one of the orders: its verdicts and what it prints are the same. -/
  run : t.arguments.isEmpty = false -> t.files w.disk = .ok files ->
    (t.execute out s .fresh w).outcome.toOption = t.verdictsAlone? out s w files ∧
      forall verdicts, (t.execute out s .fresh w).outcome = .ok verdicts ->
        (t.execute out s .fresh w).said.printed = t.printedAlone out s w files

/-- The verdicts of a pool are those of its files if each has ended with its own. -/
theorem verdicts_of_each {pipelines : List (Path × Pipeline)}
    (finished : forall entry, entry ∈ pipelines -> entry.2.hasEnded)
    (each : forall file outcome, (file, .ended outcome) ∈ pipelines ->
      outcome.toOption = (t.alone out s w file).outcome.toOption) :
    (pipelines.mapM fun entry => entry.2.verdict?) = t.verdictsAlone? out s w (pipelines.map Prod.fst) := by
  unfold verdictsAlone?
  induction pipelines with
  | nil => rfl
  | cons entry rest ih =>
    obtain ⟨file, pipeline⟩ := entry
    have later := ih (fun entry inside => finished entry (List.mem_cons_of_mem _ inside))
      fun file outcome inside => each file outcome (List.mem_cons_of_mem _ inside)
    have first : pipeline.verdict? = (t.alone out s w file).outcome.toOption := by
      cases pipeline with
      | ended outcome => exact each file outcome (List.mem_cons_self ..)
      | reading bytes settings => cases finished _ (List.mem_cons_self ..)
      | waiting d v u call => cases finished _ (List.mem_cons_self ..)
    rw [List.map_cons, List.mapM_cons, List.mapM_cons, later, first]

theorem printed_of_over {pipelines : List (Path × Pipeline)}
    (finished : forall entry, entry ∈ pipelines -> entry.2.hasEnded) :
    (pipelines.flatMap fun entry => entry.2.printed t out s w entry.1) =
      t.printedAlone out s w (pipelines.map Prod.fst) := by
  unfold printedAlone
  rw [List.flatMap_map]
  refine List.flatMap_congr fun entry inside => ?_
  obtain ⟨file, pipeline⟩ := entry
  cases pipeline with
  | ended outcome => rfl
  | reading bytes settings => cases finished _ inside
  | waiting d v u call => cases finished _ inside

/-- Separate files are linted as if there were no other. -/
theorem isolation_of_separate (separate : t.Separate out s w files) : t.Isolation out s w files := by
  have independent : forall history, Pool.Independent t out s w files (t.pooled out s w files history) :=
    fun history => (Pool.independent_start separate).after separate history
  have each : forall history file outcome, (file, .ended outcome) ∈ (t.pooled out s w files history).pipelines ->
      outcome.toOption = (t.alone out s w file).outcome.toOption := by
    intro history file outcome member
    cases (independent history).faithful member with
    | ended same => exact same
  refine ⟨each, ?_, ?_, ?_, ?_, ?_⟩
  · intro history finished
    have verdicts := verdicts_of_each (List.all_eq_true.mp finished) (each history)
    rw [(independent history).order] at verdicts
    exact verdicts
  · intro history finished
    have printed := (independent history).printed
    rw [printed_of_over (List.all_eq_true.mp finished), (independent history).order] at printed
    exact printed
  · intro history event
    exact Pool.left_take t out s _ event
  · intro history still
    exact (independent history).isOver_of_still still
  · intro asked found
    unfold execute
    rw [asked, found]
    cases files with
    | nil =>
      refine ⟨rfl, fun verdicts _ => rfl⟩
    | cons file rest => exact lintAll_of_separate separate

/-! ## Two files and a cache

A schema that allows everything is there for the first file, and there is none for the second one.  Alone the first file
passes and the second one fails. -/

/-- The contents of a file that holds a text. -/
def fileOf (text : String) : Entry :=
  .file (Encoding.Utf8.encode text)

/-- Two folders, each with a document and with the reference of its schema, and a third one for the cache. -/
def twoFolders (cached : Contents) : Disk where
  root := [("a", .folder [("d", fileOf "1"), (".jsonlintrc", fileOf "validate: http://a/")]),
    ("b", .folder [("d", fileOf "1"), (".jsonlintrc", fileOf "validate: http://b/")]),
    ("c", .folder cached)]
  current := ⟨.root, []⟩

/-- The two folders with a network that has the schema of the first one. -/
def twoFoldersWith (cached : Contents) : World where
  disk := twoFolders cached
  network :=
    { answers := [("http://a/", [.reply ⟨200, [], Encoding.Utf8.encode "{}"⟩]), ("http://b/", [.reply ⟨404, [], []⟩])]
      sent := [] }

/-- A cache in the third folder. -/
def besideFolders : Sources where
  homes := ⟨"/", []⟩
  cache := ⟨⟨.root, ["c"]⟩⟩

/-- The documents in the two folders. -/
def twoFiles : List Path :=
  [⟨.root, ["a", "d"]⟩, ⟨.root, ["b", "d"]⟩]

/-- Lint both documents. -/
def lintBoth : Task where
  arguments := ["a/d", "b/d"]
  overrides := []
  base := ⟨.root, []⟩
  input := .ok []

theorem steady_twoFolders (cached : Contents) : (twoFoldersWith cached).network.IsSteady := by
  intro address row member first second inFirst inSecond
  simp only [twoFoldersWith, List.mem_cons, Prod.mk.injEq, List.not_mem_nil, or_false] at member
  rcases member with ⟨-, rfl⟩ | ⟨-, rfl⟩
  · exact (List.mem_singleton.mp inFirst).trans (List.mem_singleton.mp inSecond).symm
  · exact (List.mem_singleton.mp inFirst).trans (List.mem_singleton.mp inSecond).symm

theorem direct_twoFolders (cached : Contents) {name : String} (member : name ∈ ["a", "b", "c"]) :
    (twoFolders cached).Direct ⟨.root, [name]⟩ := by
  simp only [List.mem_cons, List.not_mem_nil, or_false] at member
  rcases member with rfl | rfl | rfl <;>
    exact ⟨rfl, by unfold Path.IsProper; decide, by unfold Disk.IsShort; decide, by decide, rfl⟩

/-- Nothing outside the third folder changes with what the cache is filled with. -/
theorem still_twoFolders (cached : Contents) {place : List String} (outside : place.take 1 ≠ ["c"]) :
    besideFolders.cache.Still (twoFolders cached) place := by
  have cache : (twoFolders cached).Direct ⟨.root, ["c"]⟩ := direct_twoFolders cached (by simp)
  refine Cache.still_of_leads (fun q above => ⟨q.parts, (cache.above above).leads⟩) cache.leads ?_
  rintro name - rfl
  exact outside rfl

theorem beside_twoFolders (cached : Contents) {file : Path} (member : file ∈ twoFiles) :
    exists folder name, file = folder.child name ∧ Beside besideFolders.cache (twoFolders cached) folder name := by
  have plain : forall folder, folder ∈ ["a", "b"] -> forall q, q ∈ (⟨.root, [folder]⟩ : Path).lineage ->
      forall name, name ∈ ["d", Config.valuesName, Config.ignoreName] ->
        Plain besideFolders.cache (twoFolders cached) q name := by
    intro folder isFolder q above name inside
    have parts : q = ⟨.root, []⟩ ∨ q = ⟨.root, [folder]⟩ := by
      simpa only [Path.lineage, List.length_singleton, List.range, List.range.loop, List.map_cons, List.take_zero,
        List.take_succ_cons, List.map_nil, List.mem_cons, List.not_mem_nil, or_false] using above
    simp only [List.mem_cons, List.not_mem_nil, or_false] at isFolder inside
    rcases isFolder with rfl | rfl <;> rcases parts with rfl | rfl <;> rcases inside with rfl | rfl | rfl <;>
      exact ⟨⟨by decide, by decide, by decide, by decide⟩, nofun, still_twoFolders cached (by decide)⟩
  have beside : forall folder, folder ∈ ["a", "b"] ->
      Beside besideFolders.cache (twoFolders cached) ⟨.root, [folder]⟩ "d" := by
    intro folder isFolder
    have among : folder ∈ ["a", "b", "c"] := List.mem_append_left ["c"] isFolder
    exact ⟨direct_twoFolders cached among, plain folder isFolder _ (Disk.mem_lineage_self _) "d" (by simp),
      fun q above => plain folder isFolder q above _ (by simp), fun q above => plain folder isFolder q above _ (by simp)⟩
  simp only [twoFiles, List.mem_cons, List.not_mem_nil, or_false] at member
  rcases member with rfl | rfl
  · exact ⟨⟨.root, ["a"]⟩, "d", rfl, beside "a" (by simp)⟩
  · exact ⟨⟨.root, ["b"]⟩, "d", rfl, beside "b" (by simp)⟩

/-- The documents wait for different schemas, of which only the first one can be had. -/
theorem waits_twoFiles : (twoFiles.map fun file =>
    match start .sound (lintBoth.document (twoFolders []) file) with
    | .ok (_, _, .waiting _ u) => some u
    | _ => none) = [some "http://a/", some "http://b/"] ∧
      (match Load.expected besideFolders "http://a/" (twoFoldersWith []),
          Load.expected besideFolders "http://b/" (twoFoldersWith []) with
        | .ok (.object []), .error _ => true
        | _, _ => false) = true ∧
      Cache.key "http://a/" ≠ Cache.key "http://b/" ∧
      (forall u, u ∈ ["http://a/", "http://b/"] -> (Reference.isRemote u).toOption = some true) := by
  decide +kernel

/-- A schema that says nothing refers to nothing. -/
theorem validate_of_nothing (d d' : Disk) (document : Value) (env : Text) :
    validate d document (.object []) env = validate d' document (.object []) env := by
  have same : forall (retrieval : Schema.Retrieval) (dialect : Dialect),
      Schema.judge retrieval dialect (.object []) document =
        .ofExcept (Schema.Scope.ofSchema dialect (.object [])) fun _ => .clean := by
    intro retrieval dialect
    unfold Schema.judge Schema.run
    congr 1
    funext scope
    cases dialect <;> rfl
  unfold validate judge
  simp only [same]

theorem separate_twoFiles : lintBoth.Separate .sound besideFolders (twoFoldersWith []) twoFiles := by
  obtain ⟨waiting, schemas, differ, remote⟩ := waits_twoFiles
  have waits : forall {file document v u}, file ∈ twoFiles -> lintBoth.Waits .sound (twoFolders []) file document v u ->
      u = "http://a/" ∨ u = "http://b/" := by
    rintro file document v u member ⟨said, started⟩
    have inside : some u ∈ [some "http://a/", some "http://b/"] := by
      rw [← waiting]
      exact List.mem_map.mpr ⟨file, member, by rw [started]⟩
    simpa using inside
  have wants : forall {u}, lintBoth.Wants .sound (twoFolders []) twoFiles u -> u = "http://a/" ∨ u = "http://b/" := by
    rintro u ⟨file, document, v, member, waiting⟩
    exact waits member waiting
  have isRemote : forall {u}, u = "http://a/" ∨ u = "http://b/" -> Reference.isRemote u = .ok true := by
    intro u same
    have known := remote u (by simpa using same)
    cases result : Reference.isRemote u with
    | error c => simp [result, Except.toOption] at known
    | ok b => simpa [result, Except.toOption] using known
  have cache : (twoFolders []).Direct ⟨.root, ["c"]⟩ := direct_twoFolders [] (by simp)
  refine separate_of_beside ⟨cache.proper, steady_twoFolders [], ?distinct, ?entries, ?files⟩
    (fun file => beside_twoFolders []) ?schemas
  case distinct =>
    intro u v left right _ _ same
    rcases wants left with rfl | rfl <;> rcases wants right with rfl | rfl
    · rfl
    · exact absurd same differ
    · exact absurd same.symm differ
    · rfl
  case entries =>
    intro u d home _ _ filled leads
    cases (filled.leads cache.leads).unique leads
    exact ⟨fun target same => (by cases same), Or.inl cache.leads⟩
  case files =>
    intro u d wanted isLocal _
    cases (isRemote (wants wanted)).symm.trans isLocal
  case schemas =>
    intro file d document v u member waiting filled
    split at schemas
    next first second =>
      rcases waits member waiting with rfl | rfl
      · simp only [Document.finish, first, Except.bind]
        rw [validate_of_nothing]
      · simp only [Document.finish, second, Except.bind]
    next => cases schemas

/-- The two files are linted as if there were no other. -/
theorem isolation_twoFiles : lintBoth.Separate .sound besideFolders (twoFoldersWith []) twoFiles ∧
    lintBoth.Isolation .sound besideFolders (twoFoldersWith []) twoFiles :=
  ⟨separate_twoFiles, isolation_of_separate separate_twoFiles⟩

/-! ## An entry that is a link

If the entry of the second schema is a link to that of the first one, then the second file is judged by whatever the first
one stores, as long as it comes later. -/

/-- A cache in which the entry of the second schema leads to that of the first one. -/
def linkedEntry : Contents :=
  [(Cache.entryName "http://b/", .link (Cache.entryName "http://a/"))]

/-- The schema of the first file is loaded before the second file is read. -/
def firstThenSecond : List Pool.Event :=
  [.handle 0 .read, .handle 0 .configure, .handle 0 .start] ++ List.replicate 6 (.advance 0) ++
    [.handle 1 .read, .handle 1 .configure, .handle 1 .start, .advance 1, .callback 1, .callback 1, .handle 1 .finish]

theorem secondFile_of_linkedEntry :
    ((lintBoth.pooled .sound besideFolders (twoFoldersWith linkedEntry) twoFiles firstThenSecond).pipelines[1]?.map
        fun entry => (entry.1, entry.2.verdict?.map Verdict.passed)) = some (⟨.root, ["b", "d"]⟩, some true) ∧
      ((lintBoth.alone .sound besideFolders (twoFoldersWith linkedEntry) ⟨.root, ["b", "d"]⟩).outcome.toOption.map
        Verdict.passed) = some false ∧
      (lintBoth.files (twoFolders linkedEntry)).toOption = some twoFiles := by
  decide +kernel

/-- Steady answers and files beside the cache are not enough where an entry is a link. -/
theorem not_isolation_of_linkedEntry :
    (lintBoth.files (twoFolders linkedEntry)).toOption = some twoFiles ∧
      (twoFoldersWith linkedEntry).network.IsSteady ∧ Cache.key "http://a/" ≠ Cache.key "http://b/" ∧
      (forall file, file ∈ twoFiles -> exists folder name, file = folder.child name ∧
        Beside besideFolders.cache (twoFolders linkedEntry) folder name) ∧
      ¬ lintBoth.Isolation .sound besideFolders (twoFoldersWith linkedEntry) twoFiles := by
  obtain ⟨together, alone, selected⟩ := secondFile_of_linkedEntry
  refine ⟨selected, steady_twoFolders linkedEntry, waits_twoFiles.2.2.1, fun file => beside_twoFolders linkedEntry, ?_⟩
  intro isolation
  obtain ⟨⟨file, pipeline⟩, there, same⟩ := Option.map_eq_some_iff.mp together
  obtain ⟨rfl, passed⟩ := Prod.mk.inj same
  cases pipeline with
  | ended outcome =>
    have equal := isolation.each firstThenSecond _ outcome (List.mem_of_getElem? there)
    have both : outcome.toOption.map Verdict.passed = some false := by rw [equal, alone]
    cases passed.symm.trans both
  | reading bytes settings => cases passed
  | waiting d v u call => cases passed

end Task

end SchemaLint
