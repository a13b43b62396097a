import SchemaLint.Lint.Run
import SchemaLint.Proofs.Lint.Akin
import SchemaLint.Proofs.Lists

/-!
# What a run says of its documents

A run prints the documents that are to be printed, and then reports on those that failed.  Tasks that differ in what is
printed at most come to the same judgements on the same documents.
-/

namespace SchemaLint

open Json (Value)

/-- What is said of documents when there are verdicts on them: texts laid out anew, one for each document that prints one,
in some order, and then reports, one for each document on which there is one, in the order of the documents. -/
structure Account (documents : List Document) (verdicts : List Verdict) (printed : List String) : Prop where
  paths : List.Forall₂ (fun d v => v.path = d.path) documents verdicts
  printed : exists early shown reported, List.Forall₂ Document.Prints documents shown ∧ early.Perm shown.reduceOption ∧
    List.Forall₂ (fun entry report => Document.Reports entry.1 entry.2 report) (documents.zip verdicts) reported ∧
    printed = early ++ reported.reduceOption

/-- The exit code is zero just if every document passes. -/
theorem exitCode_eq_zero_iff (verdicts : List Verdict) :
    exitCode verdicts = 0 <-> forall v, v ∈ verdicts -> v.passed = true := by
  unfold exitCode
  rw [← List.all_eq_true]
  split
  next all => exact ⟨fun _ => all, fun _ => rfl⟩
  next some => exact ⟨nofun, fun all => absurd all some⟩

theorem exitCode_congr {verdicts verdicts' : List Verdict}
    (same : verdicts.map Verdict.judgement = verdicts'.map Verdict.judgement) :
    exitCode verdicts = exitCode verdicts' := by
  have passed : forall l : List Verdict, l.all Verdict.passed = (l.map Verdict.judgement).all fun j => j.2.isNone := by
    intro l
    rw [List.all_map]
    rfl
  unfold exitCode
  rw [passed, passed, same]

/-- If every verdict tells what is to be told, then the reports behind the texts of the documents make an account. -/
theorem account_of_tells {documents : List Document} {verdicts : List Verdict} {early : List String}
    (tells : List.Forall₂ Document.Tells documents verdicts)
    (printed : early.Perm (documents.filterMap Document.prettyText?)) :
    Account documents verdicts (early ++ reports verdicts) := by
  refine ⟨tells.imp fun _ _ tell => tell.path, early, documents.map Document.prettyText?, verdicts.map Verdict.message,
    ?_, ?_, ?_, ?_⟩
  · rw [List.forall₂_map_right_iff, List.forall₂_same]
    exact fun d _ => d.prints_prettyText?
  · change early.Perm ((documents.map Document.prettyText?).filterMap id)
    rwa [List.filterMap_map]
  · clear printed
    induction tells with
    | nil => exact .nil
    | @cons d v _ _ first _ ih =>
      refine .cons ?_ ih
      rw [first.message]
      exact d.reports_report? v
  · change _ = early ++ (verdicts.map Verdict.message).filterMap id
    rw [List.filterMap_map]
    rfl

namespace Task

variable {t t' : Task} {s : Sources} {w : World}

/-- The same task with explicit settings that differ in what is printed at most. -/
structure Akin (t t' : Task) : Prop where
  arguments : t.arguments = t'.arguments
  overrides : t.overrides.AgreeBut Settings.outputNames t'.overrides
  base : t.base = t'.base
  input : t.input = t'.input

/-- The documents that a task asks for, in their order. -/
def documents (t : Task) (d : Disk) : Except Failed (List Document) :=
  if t.arguments.isEmpty then (t.inputDocument d).map fun document => [document]
  else do
    let files ← t.files d
    files.mapM (t.document d)

/-! ## The documents of tasks that are akin -/

/-- Both tasks select the same files. -/
theorem Akin.files (akin : t.Akin t') {d : Disk} {files files' : List Path} (selected : t.files d = .ok files)
    (selected' : t'.files d = .ok files') : files = files' := by
  obtain ⟨settings, found, selected⟩ := bind_eq_ok_iff.mp selected
  obtain ⟨settings', found', selected'⟩ := bind_eq_ok_iff.mp selected'
  rw [← akin.base] at found'
  have ignore : settings.ignore = settings'.ignore := (Config.akin_of_resolve akin.overrides found found').ignore
  rw [akin.arguments, ignore, akin.base] at selected
  cases selected.symm.trans selected'
  rfl

/-- What the bytes and the settings of a file make is akin if the settings are. -/
theorem akin_of_opened {d : Disk} {file : Path} {bytes : Bytes} {settings settings' : Settings}
    {document document' : Document} (akin : settings.Akin settings')
    (made : opened d file bytes settings = .ok document) (made' : opened d file bytes settings' = .ok document') :
    document.Akin document' := by
  obtain ⟨path, real, made⟩ := bind_eq_ok_iff.mp made
  obtain ⟨path', real', made'⟩ := bind_eq_ok_iff.mp made'
  cases real.symm.trans real'
  cases made
  cases made'
  exact ⟨rfl, rfl, akin⟩

theorem Akin.document (akin : t.Akin t') {d : Disk} {file : Path} {document document' : Document}
    (read : t.document d file = .ok document) (read' : t'.document d file = .ok document') :
    document.Akin document' := by
  obtain ⟨bytes, contents, read⟩ := bind_eq_ok_iff.mp read
  obtain ⟨settings, found, read⟩ := bind_eq_ok_iff.mp read
  obtain ⟨bytes', contents', read'⟩ := bind_eq_ok_iff.mp read'
  obtain ⟨settings', found', read'⟩ := bind_eq_ok_iff.mp read'
  cases contents.symm.trans contents'
  exact akin_of_opened (Config.akin_of_resolve akin.overrides found found') read read'

theorem Akin.inputDocument (akin : t.Akin t') {d : Disk} {document document' : Document}
    (read : t.inputDocument d = .ok document) (read' : t'.inputDocument d = .ok document') :
    document.Akin document' := by
  obtain ⟨text, input, read⟩ := bind_eq_ok_iff.mp read
  obtain ⟨settings, found, read⟩ := bind_eq_ok_iff.mp read
  obtain ⟨text', input', read'⟩ := bind_eq_ok_iff.mp read'
  obtain ⟨settings', found', read'⟩ := bind_eq_ok_iff.mp read'
  rw [← akin.input] at input'
  cases input.symm.trans input'
  cases read
  cases read'
  exact ⟨rfl, rfl, Config.akin_of_resolve akin.overrides found found'⟩

/-- Both tasks ask for the same documents. -/
theorem Akin.documents (akin : t.Akin t') {d : Disk} {documents documents' : List Document}
    (asked : t.documents d = .ok documents) (asked' : t'.documents d = .ok documents') :
    List.Forall₂ Document.Akin documents documents' := by
  unfold Task.documents at asked asked'
  rw [← akin.arguments] at asked'
  split at asked
  next isInput =>
    rw [if_pos isInput] at asked'
    obtain ⟨document, read, rfl⟩ := map_eq_ok_iff.mp asked
    obtain ⟨document', read', rfl⟩ := map_eq_ok_iff.mp asked'
    exact .cons (akin.inputDocument read read') .nil
  next notInput =>
    rw [if_neg notInput] at asked'
    obtain ⟨files, selected, asked⟩ := bind_eq_ok_iff.mp asked
    obtain ⟨files', selected', asked'⟩ := bind_eq_ok_iff.mp asked'
    cases akin.files selected selected'
    exact forall₂_of_common (mapM_eq_ok_iff.mp asked) (mapM_eq_ok_iff.mp asked') akin.document

/-! ## Starting and finishing documents -/

/-- On a sound output all documents are started, and printed in their order. -/
theorem startAll_sound (documents : List Document) : startAll .sound (documents.map .ok) =
    ({ printed := documents.filterMap Document.prettyText?, warnings := [] },
      .ok (documents.map fun d => (d, d.firstStep))) := by
  induction documents with
  | nil => rfl
  | cons d rest ih =>
    have first : start .sound (.ok d) = .ok ({ printed := d.prettyText?.toList, warnings := [] }, d, d.firstStep) := by
      unfold start
      dsimp only [bind, Except.bind]
      rw [d.start_sound]
      rfl
    rw [List.map_cons, startAll, first, ih, List.filterMap_cons]
    cases d.prettyText? <;> rfl

/-- Documents that are all started could all be read. -/
theorem exists_documents {out : Output} {documents : List (Except Failed Document)} {said : Said}
    {started : List (Document × Document.Step)} (done : startAll out documents = (said, .ok started)) :
    exists read : List Document, documents = read.map .ok := by
  induction documents generalizing said started with
  | nil => exact ⟨[], rfl⟩
  | cons document rest ih =>
    rw [startAll] at done
    split at done
    next => cases done
    next said' first begun =>
      cases others : startAll out rest with
      | mk more outcome =>
        rw [others] at done
        cases outcome with
        | error failed => cases done
        | ok started' =>
          obtain ⟨read, rfl⟩ := ih others
          cases document with
          | error failed => cases begun
          | ok d => exact ⟨d :: read, rfl⟩

/-- What documents are judged by: the schemas that came for their references, and the disk at that time. -/
def schemasFor (s : Sources) (w : World) (documents : List Document) : List (String × Except Failed Value) × Disk :=
  let wanted := references (documents.map fun d => (d, d.firstStep))
  let (outcomes, _, later) := Resolver.fresh.resolveAll s w wanted
  (wanted.zip outcomes, later.disk)

/-- The verdict on a document by such schemas. -/
def settle (schemas : List (String × Except Failed Value) × Disk) (d : Document) : Except Crash Verdict :=
  finish schemas.2 schemas.1 (d, d.firstStep)

theorem lintAll_documents (documents : List Document) :
    (lintAll .sound s .fresh w (documents.map .ok)).outcome =
        (documents.mapM (settle (schemasFor s w documents))).mapError .crash ∧
      (lintAll .sound s .fresh w (documents.map .ok)).said.printed = documents.filterMap Document.prettyText? := by
  unfold lintAll
  rw [startAll_sound]
  dsimp only
  rw [List.mapM_map]
  exact ⟨rfl, rfl⟩

theorem tells_of_settle {schemas : List (String × Except Failed Value) × Disk} {d : Document} {v : Verdict}
    (done : settle schemas d = .ok v) : d.Tells v := by
  have steps : Document.Step.Akin d d d.firstStep d.firstStep := (Document.Akin.refl d).firstStep
  unfold settle at done
  generalize d.firstStep = step at done steps
  cases steps with
  | ended tells tells' same =>
    cases done
    exact tells
  | waiting v reference => exact Document.tells_of_finish done

/-- Documents that are akin are judged alike by the same schemas. -/
theorem judgement_settle {d d' : Document} (akin : d.Akin d') (schemas : List (String × Except Failed Value) × Disk) :
    (settle schemas d).map Verdict.judgement = (settle schemas d').map Verdict.judgement := by
  have steps : Document.Step.Akin d d' d.firstStep d'.firstStep := akin.firstStep
  unfold settle
  generalize d.firstStep = step at steps ⊢
  generalize d'.firstStep = step' at steps ⊢
  cases steps with
  | ended tells tells' same => exact congrArg Except.ok same
  | waiting v reference => exact akin.finish _ v reference _

/-- Documents that are akin wait for the same schemas. -/
theorem schemasFor_congr {documents documents' : List Document} (akin : List.Forall₂ Document.Akin documents documents') :
    schemasFor s w documents = schemasFor s w documents' := by
  have wanted : references (documents.map fun d => (d, d.firstStep)) =
      references (documents'.map fun d => (d, d.firstStep)) := by
    induction akin with
    | nil => rfl
    | @cons d d' rest rest' first later ih =>
      have steps : Document.Step.Akin d d' d.firstStep d'.firstStep := first.firstStep
      unfold references at ih ⊢
      rw [List.map_cons, List.map_cons, List.filterMap_cons, List.filterMap_cons, ih]
      generalize d.firstStep = step at steps ⊢
      generalize d'.firstStep = step' at steps ⊢
      cases steps <;> rfl
  unfold schemasFor
  rw [wanted]

/-- Linting that ends with verdicts was given documents, and settles each of them. -/
theorem lintAll_eq_ok {asked : List (Except Failed Document)} {verdicts : List Verdict}
    (ended : (lintAll .sound s .fresh w asked).outcome = .ok verdicts) :
    exists documents, asked = documents.map .ok ∧
      List.Forall₂ (fun d v => settle (schemasFor s w documents) d = .ok v) documents verdicts ∧
      (lintAll .sound s .fresh w asked).said.printed = documents.filterMap Document.prettyText? := by
  obtain ⟨documents, rfl⟩ : exists documents : List Document, asked = documents.map .ok := by
    cases begun : startAll .sound asked with
    | mk said outcome =>
      unfold lintAll at ended
      rw [begun] at ended
      cases outcome with
      | error failed => cases ended
      | ok started => exact exists_documents begun
  obtain ⟨outcome, printed⟩ := lintAll_documents (s := s) (w := w) documents
  exact ⟨documents, rfl, mapM_eq_ok_iff.mp (mapError_eq_ok_iff.mp (outcome.symm.trans ended)), printed⟩

/-! ## Runs -/

/-- A run that ends with verdicts has read all documents and linted them together. -/
theorem execute_eq_ok {verdicts : List Verdict} (done : (t.execute .sound s .fresh w).outcome = .ok verdicts) :
    exists documents, t.documents w.disk = .ok documents ∧
      List.Forall₂ (fun d v => settle (schemasFor s w documents) d = .ok v) documents verdicts ∧
      (t.execute .sound s .fresh w).said.printed = documents.filterMap Document.prettyText? := by
  unfold execute at done ⊢
  unfold Task.documents
  by_cases isInput : t.arguments.isEmpty = true
  · rw [if_pos isInput] at done
    rw [if_pos isInput, if_pos isInput]
    obtain ⟨documents, asked, settled, printed⟩ := lintAll_eq_ok done
    cases documents with
    | nil => cases asked
    | cons d rest =>
      obtain ⟨read, others⟩ := List.cons.inj asked
      cases List.map_eq_nil_iff.mp others.symm
      exact ⟨[d], by rw [read]; rfl, settled, printed⟩
  · rw [if_neg isInput] at done
    rw [if_neg isInput, if_neg isInput]
    cases selected : t.files w.disk with
    | error failed =>
      rw [selected] at done
      cases done
    | ok files =>
      rw [selected] at done
      cases files with
      | nil =>
        cases done
        exact ⟨[], rfl, .nil, rfl⟩
      | cons file rest =>
        obtain ⟨documents, asked, settled, printed⟩ := lintAll_eq_ok done
        refine ⟨documents, mapM_eq_ok_iff.mpr ?_, settled, printed⟩
        have pairs : List.Forall₂ (· = ·) ((file :: rest).map (t.document w.disk)) (documents.map .ok) := by
          rw [List.forall₂_eq_eq_eq]
          exact asked
        rwa [List.forall₂_map_left_iff, List.forall₂_map_right_iff] at pairs

/-- A run that ends with an exit code has come to verdicts on its documents, and says of them what is to be said. -/
theorem exists_account {code : UInt32} (ended : (t.run s w).outcome = .ok code) :
    exists documents verdicts, t.documents w.disk = .ok documents ∧
      List.Forall₂ (fun d v => settle (schemasFor s w documents) d = .ok v) documents verdicts ∧
      (t.execute .sound s .fresh w).outcome = .ok verdicts ∧ code = exitCode verdicts ∧
      Account documents verdicts (t.run s w).said.printed := by
  unfold run at ended ⊢
  dsimp only at ended ⊢
  cases executed : (t.execute .sound s .fresh w).outcome with
  | error failed =>
    rw [executed] at ended
    cases ended
  | ok verdicts =>
    rw [executed] at ended
    cases ended
    obtain ⟨documents, asked, settled, printed⟩ := execute_eq_ok executed
    have tells : List.Forall₂ Document.Tells documents verdicts := settled.imp fun _ _ => tells_of_settle
    exact ⟨documents, verdicts, asked, settled, rfl, rfl, account_of_tells tells (.of_eq printed)⟩

/-- Documents that are akin and are judged by the same schemas are judged alike. -/
theorem judgements_of_settle {schemas : List (String × Except Failed Value) × Disk} {documents documents' : List Document}
    {verdicts verdicts' : List Verdict} (akin : List.Forall₂ Document.Akin documents documents')
    (settled : List.Forall₂ (fun d v => settle schemas d = .ok v) documents verdicts)
    (settled' : List.Forall₂ (fun d v => settle schemas d = .ok v) documents' verdicts') :
    verdicts.map Verdict.judgement = verdicts'.map Verdict.judgement := by
  have crosswise : List.Forall₂ (fun v d' => (settle schemas d').map Verdict.judgement = .ok v.judgement)
      verdicts documents' := by
    refine forall₂_of_common settled akin ?_
    intro d v d' done alike
    rw [← judgement_settle alike, done]
    rfl
  rw [← List.forall₂_eq_eq_eq, List.forall₂_map_left_iff, List.forall₂_map_right_iff]
  refine forall₂_of_common crosswise.flip settled' ?_
  intro d' v v' judged done
  rw [done] at judged
  exact (Except.ok.inj judged).symm

end Task

end SchemaLint
