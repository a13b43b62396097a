import SchemaLint.Proofs.Lint.Isolation
import SchemaLint.Proofs.Lint.Lockstep

/-!
# Verdicts do not depend on the output

Tasks that differ in what is printed at most come to the same verdicts, and each of them prints what its settings want:
texts laid out anew first, and then reports in the order of the documents.  This takes two runs in which the same happens
in the same order, or files that are separate.  Otherwise the order alone can change a verdict.
-/

namespace SchemaLint

/-- What two runs have in common whose tasks differ in what is printed at most: the same documents are judged alike, and
each run says of them what its own settings want. -/
structure Agreement (documents documents' : List Document) (verdicts verdicts' : List Verdict)
    (printed printed' : List String) : Prop where
  akin : List.Forall₂ Document.Akin documents documents'
  judgements : verdicts.map Verdict.judgement = verdicts'.map Verdict.judgement
  code : exitCode verdicts = exitCode verdicts'
  passes : exitCode verdicts = 0 <-> forall v, v ∈ verdicts -> v.passed = true
  first : Account documents verdicts printed
  second : Account documents' verdicts' printed'

namespace Task

variable {t t' : Task} {s : Sources} {w : World}

/-- Both runs come to the same judgements, in whatever order the same happens in both of them. -/
theorem Akin.pool (akin : t.Akin t') {files : List Path} (history : List Pool.Event) {verdicts verdicts' : List Verdict}
    (ended : ((Pool.start files w).after t .sound s history).verdicts? = some verdicts)
    (ended' : ((Pool.start files w).after t' .sound s history).verdicts? = some verdicts') :
    exists documents documents',
      List.Forall₂ (t.Opens (Pool.Sees t s (Pool.start files w) history)) files documents ∧
      List.Forall₂ (t'.Opens (Pool.Sees t' s (Pool.start files w) history)) files documents' ∧
      Agreement documents documents' verdicts verdicts'
        (((Pool.start files w).after t .sound s history).said.printed ++ reports verdicts)
        (((Pool.start files w).after t' .sound s history).said.printed ++ reports verdicts') := by
  have start : Pool.InStep t t' (Pool.Sees t s (Pool.start files w) history)
      (Pool.Sees t' s (Pool.start files w) history) files (Pool.start files w) (Pool.start files w) :=
    Or.inl ⟨_, Pool.paired_start t t' _ _ files w⟩
  rcases start.after akin history (fun _ => id) fun _ => id with ⟨tracks, paired⟩ | doomed | doomed
  · unfold Pool.verdicts? at ended ended'
    rw [paired.first] at ended
    rw [paired.second] at ended'
    obtain ⟨documents, documents', opens, opens', akin, tells, tells', same, printed, printed'⟩ :=
      Pool.account_of_keeps paired.keeps ended ended'
    rw [paired.order] at opens opens'
    exact ⟨documents, documents', opens, opens', akin, same, exitCode_congr same, exitCode_eq_zero_iff verdicts,
      account_of_tells tells (printed ▸ paired.printed), account_of_tells tells' (printed' ▸ paired.printed')⟩
  · cases doomed.verdicts?.symm.trans ended
  · cases doomed.verdicts?.symm.trans ended'

/-- A file that is linted alone is judged alike. -/
theorem Akin.alone (akin : t.Akin t') {file : Path} {v v' : Verdict}
    (ended : (t.alone .sound s w file).outcome = .ok v) (ended' : (t'.alone .sound s w file).outcome = .ok v') :
    v.judgement = v'.judgement := by
  unfold Task.alone lintFile at ended ended'
  cases read : t.document w.disk file with
  | error failed =>
    rw [read] at ended
    cases ended
  | ok d =>
    cases read' : t'.document w.disk file with
    | error failed =>
      rw [read'] at ended'
      cases ended'
    | ok d' =>
      rw [read] at ended
      rw [read'] at ended'
      have same : (d.lint .sound s .fresh w).outcome.map Verdict.judgement =
          (d'.lint .sound s .fresh w).outcome.map Verdict.judgement :=
        (akin.document read read').lint Output.isOrderly_sound Output.isOrderly_sound s .fresh w
      dsimp only at ended ended'
      rw [ended, ended'] at same
      exact Except.ok.inj same

/-- The verdicts of a pool of separate files are those of the files alone. -/
theorem verdicts_of_separate {files : List Path} (separate : t.Separate .sound s w files) (history : List Pool.Event)
    {verdicts : List Verdict} (ended : ((Pool.start files w).after t .sound s history).verdicts? = some verdicts) :
    List.Forall₂ (fun file v => (t.alone .sound s w file).outcome = .ok v) files verdicts := by
  have independent := (Pool.independent_start separate).after separate history
  rw [← independent.order, List.forall₂_map_left_iff]
  refine ((List.forall₂_and_left _ _).mpr ⟨fun entry inside => inside, mapM_eq_some_iff.mp ended⟩).imp ?_
  rintro ⟨file, pipeline⟩ v ⟨member, came⟩
  cases pipeline with
  | reading => cases came
  | waiting => cases came
  | ended outcome =>
    cases outcome with
    | error failed => cases came
    | ok u =>
      cases came
      cases independent.faithful member with
      | ended same => exact toOption_eq_some_iff.mp same.symm

/-- A file that is linted alone and comes to a verdict holds a document, and what there is to be said of it is said. -/
theorem exists_document_of_alone {file : Path} {v : Verdict} (ended : (t.alone .sound s w file).outcome = .ok v) :
    exists d, t.document w.disk file = .ok d ∧ d.Tells v ∧
      (t.alone .sound s w file).said.printed = d.prettyText?.toList := by
  unfold Task.alone lintFile at ended ⊢
  cases read : t.document w.disk file with
  | error failed =>
    rw [read] at ended
    cases ended
  | ok d =>
    rw [read] at ended
    exact ⟨d, rfl, Document.tells_of_lint ended, d.printed_lint s .fresh w⟩

/-- Files that come to verdicts alone hold documents, which are printed one by one. -/
theorem exists_documents_of_alone {files : List Path} {verdicts : List Verdict}
    (alone : List.Forall₂ (fun file v => (t.alone .sound s w file).outcome = .ok v) files verdicts) :
    exists documents, List.Forall₂ (fun file d => t.document w.disk file = .ok d) files documents ∧
      List.Forall₂ Document.Tells documents verdicts ∧
      t.printedAlone .sound s w files = documents.filterMap Document.prettyText? := by
  induction alone with
  | nil => exact ⟨[], .nil, .nil, rfl⟩
  | @cons file v files verdicts first _ ih =>
    obtain ⟨d, read, tells, printed⟩ := exists_document_of_alone first
    obtain ⟨documents, later, others, rest⟩ := ih
    refine ⟨d :: documents, .cons read later, .cons tells others, ?_⟩
    rw [printedAlone, List.flatMap_cons, printed, ← printedAlone, rest, List.filterMap_cons]
    cases d.prettyText? <;> rfl

/-- A pool of separate files says of their documents what there is to be said, in whatever order things happen. -/
theorem exists_account_of_separate {files : List Path} (separate : t.Separate .sound s w files)
    (history : List Pool.Event) {verdicts : List Verdict}
    (ended : ((Pool.start files w).after t .sound s history).verdicts? = some verdicts) :
    exists documents, List.Forall₂ (fun file d => t.document w.disk file = .ok d) files documents ∧
      Account documents verdicts
        (((Pool.start files w).after t .sound s history).said.printed ++ reports verdicts) := by
  obtain ⟨documents, read, tells, each⟩ := exists_documents_of_alone (verdicts_of_separate separate history ended)
  refine ⟨documents, read, account_of_tells tells ?_⟩
  have independent := (Pool.independent_start separate).after separate history
  have finished : forall entry, entry ∈ ((Pool.start files w).after t .sound s history).pipelines -> entry.2.hasEnded := by
    intro entry inside
    have came : entry.2.verdict? ≠ none := fun none => nomatch (mapM_eq_none inside none).symm.trans ended
    cases pipeline : entry.2 with
    | ended outcome => rfl
    | reading | waiting => exact absurd (congrArg Pipeline.verdict? pipeline) came
  have printed := independent.printed
  rwa [printed_of_over finished, independent.order, each] at printed

/-- The order in which things happen has no part in what two runs have in common, if it has none in either of them. -/
theorem Akin.orders (akin : t.Akin t') {files : List Path} (separate : t.Separate .sound s w files)
    (separate' : t'.Separate .sound s w files) (history history' : List Pool.Event) {verdicts verdicts' : List Verdict}
    (ended : ((Pool.start files w).after t .sound s history).verdicts? = some verdicts)
    (ended' : ((Pool.start files w).after t' .sound s history').verdicts? = some verdicts') :
    exists documents documents',
      files.mapM (t.document w.disk) = .ok documents ∧ files.mapM (t'.document w.disk) = .ok documents' ∧
      Agreement documents documents' verdicts verdicts'
        (((Pool.start files w).after t .sound s history).said.printed ++ reports verdicts)
        (((Pool.start files w).after t' .sound s history').said.printed ++ reports verdicts') := by
  obtain ⟨documents, read, account⟩ := exists_account_of_separate separate history ended
  obtain ⟨documents', read', account'⟩ := exists_account_of_separate separate' history' ended'
  have same : verdicts.map Verdict.judgement = verdicts'.map Verdict.judgement := by
    have left := verdicts_of_separate separate history ended
    have right := verdicts_of_separate separate' history' ended'
    rw [← List.forall₂_eq_eq_eq, List.forall₂_map_left_iff, List.forall₂_map_right_iff]
    exact forall₂_of_common left right akin.alone
  exact ⟨documents, documents', mapM_eq_ok_iff.mpr read, mapM_eq_ok_iff.mpr read',
    forall₂_of_common read read' akin.document, same, exitCode_congr same, exitCode_eq_zero_iff verdicts, account, account'⟩

/-- Settings that say what is printed, and an output that refuses a text, have no part in any verdict. -/
structure Neutral (t t' : Task) (s : Sources) (w : World) : Prop where
  /-- Runs that end with an exit code. -/
  run : forall code code', (t.run s w).outcome = .ok code -> (t'.run s w).outcome = .ok code' ->
    exists documents documents' verdicts verdicts',
      t.documents w.disk = .ok documents ∧ t'.documents w.disk = .ok documents' ∧
      (t.execute .sound s .fresh w).outcome = .ok verdicts ∧ (t'.execute .sound s .fresh w).outcome = .ok verdicts' ∧
      code = exitCode verdicts ∧ code' = exitCode verdicts' ∧
      Agreement documents documents' verdicts verdicts' (t.run s w).said.printed (t'.run s w).said.printed
  /-- Both tasks select the same files. -/
  files : forall files files', t.files w.disk = .ok files -> t'.files w.disk = .ok files' -> files = files'
  /-- Files that are linted at the same time, if the same happens in both runs in the same order. -/
  pool : forall files history verdicts verdicts', ((Pool.start files w).after t .sound s history).verdicts? = some verdicts ->
    ((Pool.start files w).after t' .sound s history).verdicts? = some verdicts' ->
      exists documents documents',
        List.Forall₂ (t.Opens (Pool.Sees t s (Pool.start files w) history)) files documents ∧
        List.Forall₂ (t'.Opens (Pool.Sees t' s (Pool.start files w) history)) files documents' ∧
        Agreement documents documents' verdicts verdicts'
          (((Pool.start files w).after t .sound s history).said.printed ++ reports verdicts)
          (((Pool.start files w).after t' .sound s history).said.printed ++ reports verdicts')
  /-- Files that are linted at the same time, in whatever order things happen in each run, if the files are separate. -/
  orders : forall files, t.Separate .sound s w files -> t'.Separate .sound s w files ->
    forall history history' verdicts verdicts', ((Pool.start files w).after t .sound s history).verdicts? = some verdicts ->
      ((Pool.start files w).after t' .sound s history').verdicts? = some verdicts' ->
        exists documents documents',
          files.mapM (t.document w.disk) = .ok documents ∧ files.mapM (t'.document w.disk) = .ok documents' ∧
          Agreement documents documents' verdicts verdicts'
            (((Pool.start files w).after t .sound s history).said.printed ++ reports verdicts)
            (((Pool.start files w).after t' .sound s history').said.printed ++ reports verdicts')
  /-- A document that is linted alone. -/
  lint : forall d d' : Document, d.Akin d' -> forall out out' : Output, out.IsOrderly -> out'.IsOrderly -> forall r,
    (d.lint out s r w).outcome.map Verdict.judgement = (d'.lint out' s r w).outcome.map Verdict.judgement

/-- Tasks that differ in what is printed at most come to the same verdicts. -/
theorem neutral_of_akin (akin : t.Akin t') (s : Sources) (w : World) : t.Neutral t' s w where
  run := by
    intro code code' ended ended'
    obtain ⟨documents, verdicts, asked, settled, executed, exits, account⟩ := exists_account ended
    obtain ⟨documents', verdicts', asked', settled', executed', exits', account'⟩ := exists_account ended'
    have alike : List.Forall₂ Document.Akin documents documents' := akin.documents asked asked'
    rw [← schemasFor_congr alike] at settled'
    have same := judgements_of_settle alike settled settled'
    exact ⟨documents, documents', verdicts, verdicts', asked, asked', executed, executed', exits, exits', alike, same,
      exitCode_congr same, exitCode_eq_zero_iff verdicts, account, account'⟩
  files := fun _ _ selected selected' => akin.files selected selected'
  pool := fun _ history _ _ ended ended' => akin.pool history ended ended'
  orders := fun _ separate separate' history history' _ _ ended ended' =>
    akin.orders separate separate' history history' ended ended'
  lint := fun _ _ alike _ _ orderly orderly' r => alike.lint orderly orderly' s r w

/-! ## One text, printed and not

Standard input holds a number where a text is demanded.  One task wants it to be printed, and another one does not want to
hear of it. -/

/-- An explicit setting that names a schema. -/
def withSchema : Yaml.Value × Yaml.Value :=
  (.string (Text.ofString "validate"), .string (Text.ofString "s"))

/-- Lint a number on standard input with a schema, and with one more explicit setting. -/
def lintNumber (name : String) : Task where
  arguments := []
  overrides := [withSchema, (.string (Text.ofString name), .bool true)]
  base := ⟨.root, []⟩
  input := .ok (Text.ofString "1")

/-- A disk with a schema for texts, and a network that answers nothing. -/
def demandingText : World where
  disk := ⟨[("s", fileOf "\x7b\"type\":\"string\"\x7d")], ⟨.root, []⟩⟩
  network := ⟨[], []⟩

/-- What is said last is not asked for under another name. -/
theorem get?_update_last {name other : String} {names : List String} (inside : name ∈ names) (outside : other ∉ names)
    (entries : Yaml.Entries) (v : Yaml.Value) :
    Yaml.Entries.get? other (Yaml.Entries.update [] (entries ++ [(.string (Text.ofString name), v)])) =
      Yaml.Entries.get? other (Yaml.Entries.update [] entries) := by
  rw [Yaml.Entries.update, List.foldl_append]
  change Yaml.Entries.get? other (Yaml.Entries.put _ v (Yaml.Entries.update [] entries)) = _
  rw [Yaml.Entries.get?_put, if_neg]
  intro same
  have equal := congrArg Text.toString (Yaml.Value.string.inj (Yaml.Value.sameKey_string.mp same))
  rw [Text.toString_ofString, Text.toString_ofString] at equal
  exact outside (equal ▸ inside)

/-- The number fails in both runs, and is printed and reported in one of them only. -/
theorem neutral_number : (lintNumber "pretty").Akin (lintNumber "quiet") ∧
    ((lintNumber "pretty").run besideFolders demandingText).outcome = .ok 1 ∧
    ((lintNumber "pretty").run besideFolders demandingText).said.printed =
      ["1", "\"<stdin>\" fails against schema \"s\"\n\t\"(root)\" must be of type \"string\""] ∧
    ((lintNumber "quiet").run besideFolders demandingText).outcome = .ok 1 ∧
    ((lintNumber "quiet").run besideFolders demandingText).said.printed = [] ∧
    (lintNumber "pretty").Neutral (lintNumber "quiet") besideFolders demandingText := by
  have unchanged : forall name, name ∈ Settings.outputNames -> forall other, other ∉ Settings.outputNames ->
      Yaml.Entries.get? other (Yaml.Entries.update [] (lintNumber name).overrides) =
        Yaml.Entries.get? other (Yaml.Entries.update [] [withSchema]) :=
    fun name inside other outside => get?_update_last inside outside [withSchema] (.bool true)
  have akin : (lintNumber "pretty").Akin (lintNumber "quiet") :=
    ⟨rfl, fun other outside => (unchanged _ (by decide) other outside).trans (unchanged _ (by decide) other outside).symm,
      rfl, rfl⟩
  have ended : forall name, name ∈ ["pretty", "quiet"] ->
      ((lintNumber name).run besideFolders demandingText).outcome.toOption = some 1 := by
    decide +kernel
  exact ⟨akin, toOption_eq_some_iff.mp (ended _ (by simp)), by decide +kernel, toOption_eq_some_iff.mp (ended _ (by simp)),
    by decide +kernel, neutral_of_akin akin _ _⟩

/-! ## Two orders

Where the entry of one schema is a link to that of another one, a file is judged by what the order leaves in the cache. -/

/-- Lint both documents, and say nothing. -/
def lintBothQuietly : Task :=
  { lintBoth with overrides := [(.string (Text.ofString "quiet"), .bool true)] }

/-- What happens to a file from its first step until it is waiting. -/
def begun (number : Nat) : List Pool.Event :=
  [.handle number .read, .handle number .configure, .handle number .start]

/-- The schema of a file is loaded and the file is finished before anything happens to the other one. -/
def oneAfterAnother (first second : Nat) : List Pool.Event :=
  begun first ++ List.replicate 6 (.advance 0) ++ List.replicate 2 (.callback 0) ++ [.handle first .finish] ++
    begun second ++ List.replicate 6 (.advance 1) ++ List.replicate 2 (.callback 1) ++ [.handle second .finish]

/-- The second file passes in one run and fails in another one, though their tasks differ in what is printed only. -/
theorem not_neutral_of_linkedEntry : lintBoth.Akin lintBothQuietly ∧
    (lintBoth.files (twoFolders linkedEntry)).toOption = some twoFiles ∧
    (lintBothQuietly.files (twoFolders linkedEntry)).toOption = some twoFiles ∧
    (lintBoth.pooled .sound besideFolders (twoFoldersWith linkedEntry) twoFiles (oneAfterAnother 0 1)).verdicts?.map
      (fun verdicts => (verdicts.map Verdict.passed, exitCode verdicts)) = some ([true, true], 0) ∧
    (lintBothQuietly.pooled .sound besideFolders (twoFoldersWith linkedEntry) twoFiles (oneAfterAnother 1 0)).verdicts?.map
      (fun verdicts => (verdicts.map Verdict.passed, exitCode verdicts)) = some ([true, false], 1) := by
  refine ⟨⟨rfl, fun other outside => ?_, rfl, rfl⟩, by decide +kernel⟩
  exact (get?_update_last (by decide) outside [] (.bool true)).symm

end Task

end SchemaLint
