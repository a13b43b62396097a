import SchemaLint.Proofs.Schema.WellFormed
import SchemaLint.Proofs.Validation

/-!
# Required members are attributed alike in every draft

A document is validated by the schema of an outline.  Whichever draft says it, the findings name just the members that
some object of the document lacks, each of them once, and nothing else.  In the newer drafts a missing member is found as
often as members of the object are missing, and each time all of them are reported; the grouping keeps one.

Schemas that are nested too deeply end in a crash, in checking the schema or in using it.
-/

namespace SchemaLint

open Json Schema

/-- Findings name the members that a document lacks, each of them once, and nothing else. -/
structure Findings.Attributed (o : Outline) (document : Value) (fs : Findings) : Prop where
  /-- The fields are those of the members that some object lacks. -/
  fields : forall field, field ∈ fs.map Prod.fst <-> exists path, o.Lacks document path ∧ field = Failure.fieldOf path
  /-- No field stands twice. -/
  once : (fs.map Prod.fst).Nodup
  /-- A field has one failure, and it is that of a member which the document lacks. -/
  single : forall field kept, (field, kept) ∈ fs -> exists path limit, o.Lacks document path ∧
    field = Failure.fieldOf path ∧ kept = [(Text.ofString "required", Failure.unset (path.map .key) limit)]

namespace Findings

variable {o : Outline} {document : Value} {failures : List Failure}

theorem field_unset (path : List Text) (limit : Value) :
    (Failure.unset (path.map .key) limit).field = Failure.fieldOf path := by
  have steps : (path.map PathPart.key).map Failure.stepText = path := by
    rw [List.map_map]
    exact List.map_id path
  rw [Failure.unset, steps]

/-- What has distinct rules, and only one rule, is one thing. -/
theorem exists_singleton {kept : List (Text × Failure)} {rule : Text} (nonempty : kept ≠ [])
    (rules : forall entry, entry ∈ kept -> entry.1 = rule) (distinct : (kept.map Prod.fst).Nodup) :
    exists f, kept = [(rule, f)] := by
  rcases kept with _ | ⟨⟨first, f⟩, _ | ⟨⟨second, f'⟩, rest⟩⟩
  · exact absurd rfl nonempty
  · have first_eq : first = rule := rules _ List.mem_cons_self
    exact ⟨f, by rw [first_eq]⟩
  · have first_eq : first = rule := rules _ List.mem_cons_self
    have second_eq : second = rule := rules _ (List.mem_cons_of_mem _ List.mem_cons_self)
    rw [first_eq, second_eq] at distinct
    exact absurd List.mem_cons_self (List.nodup_cons.mp distinct).1

/-- Grouping keeps one failure for each member that is missing. -/
theorem attributed_ofFailures
    (sound : forall f, f ∈ failures -> exists path limit, o.Lacks document path ∧ f = Failure.unset (path.map .key) limit)
    (complete : forall path, o.Lacks document path -> exists limit, Failure.unset (path.map .key) limit ∈ failures) :
    (ofFailures failures).Attributed o document := by
  have groups := groups_ofFailures failures
  refine ⟨?fields, ?once, ?single⟩
  case fields =>
    intro field
    rw [groups.fields, List.mem_eraseDups, List.mem_map]
    constructor
    · intro found
      rcases found with ⟨f, member, rfl⟩
      rcases sound f member with ⟨path, limit, lacks, rfl⟩
      exact ⟨path, lacks, field_unset path limit⟩
    · intro lacking
      rcases lacking with ⟨path, lacks, rfl⟩
      rcases complete path lacks with ⟨limit, member⟩
      exact ⟨_, member, field_unset path limit⟩
  case once =>
    rw [groups.fields]
    exact nodup_eraseDups _
  case single =>
    intro field kept member
    have rules : forall entry, entry ∈ kept -> entry.1 = Text.ofString "required" := by
      intro entry inside
      have isRule : entry.1 ∈ kept.map Prod.fst := List.mem_map_of_mem inside
      rw [groups.rules field kept member, List.mem_eraseDups] at isRule
      rcases List.mem_map.mp isRule with ⟨f, isFailure, same⟩
      rcases sound f (List.mem_of_mem_filter isFailure) with ⟨path, limit, -, rfl⟩
      exact same.symm
    have distinct : (kept.map Prod.fst).Nodup := by
      rw [groups.rules field kept member]
      exact nodup_eraseDups _
    rcases exists_singleton (groups.nonempty field kept member) rules distinct with ⟨f, kept_eq⟩
    have holds : (ofFailures failures).Holds field (Text.ofString "required") f := by
      refine ⟨kept, member, ?_⟩
      rw [kept_eq]
      exact List.mem_cons_self
    have isFailure : f ∈ failures := List.mem_of_find?_eq_some ((groups.first _ _ _).mp holds)
    rcases sound f isFailure with ⟨path, limit, lacks, rfl⟩
    refine ⟨path, limit, lacks, ?_, kept_eq⟩
    rw [← field_unset path limit]
    exact (groups.own _ _ _ holds).1.symm

end Findings

variable {disk : Disk} {document : Value} {env : Text} {d : Dialect} {o : Outline}

theorem judge_of_wellFormed {schema : Value} (names : Names env d) (checked : isWellFormed d schema = .ok true) :
    judge disk document schema env = .ok (Schema.judge (.ofDisk disk) d schema document) := by
  have draft : (dialectOf env).mapError Failed.error = .ok d :=
    mapError_eq_ok_iff.mpr (dialectOf_eq_ok_iff.mpr names)
  have checked' : (isWellFormed d schema).mapError Failed.crash = .ok true := mapError_eq_ok_iff.mpr checked
  exact bind_eq_ok_iff.mpr ⟨d, draft, bind_eq_ok_iff.mpr ⟨true, checked', rfl⟩⟩

/-- What evaluation finds comes down to failures about missing members, and about every one of them. -/
theorem ofViolations_judge (retrieval : Retrieval) (d : Dialect) (o : Outline) (document : Value) :
    exists failures, Failure.ofViolations (Schema.judge retrieval d (o.schema d) document).found = .ok failures ∧
      (forall f, f ∈ failures -> exists path limit, o.Lacks document path ∧ f = Failure.unset (path.map .key) limit) ∧
      ((Schema.judge retrieval d (o.schema d) document).crash = none -> forall path, o.Lacks document path ->
        exists limit, Failure.unset (path.map .key) limit ∈ failures) := by
  have reports := Outline.reports_judge retrieval d o document
  have each : forall v, v ∈ (Schema.judge retrieval d (o.schema d) document).found ->
      exists own, Failure.ofViolation v = .ok own := by
    intro v member
    rcases reports.sound v member with ⟨path, blames⟩
    rcases blames.exists_own [] with ⟨own, converted, -⟩
    exact ⟨own, converted⟩
  rcases Failure.exists_ofViolations each with ⟨failures, converted⟩
  have members := (Failure.mem_ofViolations converted).2
  refine ⟨failures, converted, ?_, ?_⟩
  · intro f member
    rcases (members f).mp member with ⟨v, own, found, come, inside⟩
    rcases reports.sound v found with ⟨path, blames⟩
    rcases blames.exists_own [] with ⟨own', come', -, only⟩
    have same : own' = own := Except.ok.inj (come'.symm.trans come)
    rw [same] at only
    rcases only f inside with ⟨path', lacks, f_eq⟩
    exact ⟨path', v.limit, lacks, f_eq⟩
  · intro ended path lacks
    rcases reports.complete ended path lacks with ⟨v, found, blames⟩
    rcases blames.exists_own [] with ⟨own, come, blamed, -⟩
    exact ⟨v.limit, (members _).mpr ⟨v, own, found, come, blamed⟩⟩

/-- In a draft the findings name the members that the document lacks, or the outline is too deep. -/
theorem attributed_or_recursion (disk : Disk) (document : Value) (keyed : o.IsKeyed) (names : Names env d) :
    (exists fs, validate disk document (o.schema d) env = .ok fs ∧ fs.Attributed o document) ∨
      validate disk document (o.schema d) env = .error (.crash .recursion) ∧ 93 < o.depth := by
  rcases isWellFormed_schema d keyed with checked | ⟨crash, deep⟩
  · rcases ofViolations_judge (.ofDisk disk) d o document with ⟨failures, converted, sound, complete⟩
    have judged : judge disk document (o.schema d) env = .ok _ := judge_of_wellFormed names checked
    rcases (Outline.reports_judge (.ofDisk disk) d o document).ends with ended | ⟨crash, lacking⟩
    · left
      refine ⟨_, validate_of_judge judged ended converted, ?_⟩
      exact Findings.attributed_ofFailures sound (complete ended)
    · right
      have failed : failuresOf (Schema.judge (.ofDisk disk) d (o.schema d) document) = .error .recursion := by
        refine bind_eq_error_iff.mpr (.inr ⟨failures, converted, ?_⟩)
        rw [crash]
        rfl
      have told := mapError_eq_error_iff.mpr ⟨_, failed, (rfl : Failed.crash .recursion = _)⟩
      refine ⟨bind_eq_error_iff.mpr (.inr ⟨_, judged, bind_eq_error_iff.mpr (.inl told)⟩), ?_⟩
      rw [levels] at lacking
      omega
  · right
    have failed : judge disk document (o.schema d) env = .error (.crash .recursion) :=
      judge_eq_error_iff.mpr (.inr ⟨d, names, .inl ⟨_, rfl, crash⟩⟩)
    exact ⟨bind_eq_error_iff.mpr (.inl failed), deep⟩

/-- In every draft the findings of a document name just the members that some object of it lacks, each of them once, and so
the fields are the same in all drafts.  Only an outline of more than ninety-three members below one another can end in a
crash instead. -/
theorem attributed_alike (disk : Disk) (document : Value) (keyed : o.IsKeyed) :
    (forall env d, Names env d ->
      (exists fs, validate disk document (o.schema d) env = .ok fs ∧ fs.Attributed o document) ∨
        validate disk document (o.schema d) env = .error (.crash .recursion) ∧ 93 < o.depth) ∧
    forall env env' d d' fs fs', Names env d -> Names env' d' ->
      validate disk document (o.schema d) env = .ok fs -> validate disk document (o.schema d') env' = .ok fs' ->
        forall field, field ∈ fs.map Prod.fst <-> field ∈ fs'.map Prod.fst := by
  have attributed : forall env d fs, Names env d -> validate disk document (o.schema d) env = .ok fs ->
      fs.Attributed o document := by
    intro env d fs names validated
    rcases attributed_or_recursion disk document keyed names with ⟨fs', validated', attributed⟩ | ⟨crashed, -⟩
    · rw [validated] at validated'
      rw [Except.ok.inj validated']
      exact attributed
    · rw [validated] at crashed
      cases crashed
  constructor
  · intro env d names
    exact attributed_or_recursion disk document keyed names
  · intro env env' d d' fs fs' names names' validated validated' field
    rw [(attributed env d fs names validated).fields, (attributed env' d' fs' names' validated').fields]

/-! ### Objects within objects -/

/-- Three required members, one of them within another. -/
def nested : Outline :=
  .node
    [(Text.ofString "a", true, .node [(Text.ofString "b", true, .node []), (Text.ofString "c", false, .node [])]),
      (Text.ofString "d", true, .node [])]

/-- A document that has one of them. -/
def partly : Value :=
  .object [(Text.ofString "a", .object [(Text.ofString "c", .int 1)])]

theorem isKeyed_leaf : (Outline.node []).IsKeyed :=
  .node List.nodup_nil nofun

theorem isKeyed_nested : nested.IsKeyed := by
  have inner : (Outline.node
      [(Text.ofString "b", true, .node []), (Text.ofString "c", false, .node [])]).IsKeyed := by
    apply Outline.IsKeyed.node (by decide)
    intro m member
    simp only [List.mem_cons, List.not_mem_nil, or_false] at member
    rcases member with rfl | rfl
    · exact isKeyed_leaf
    · exact isKeyed_leaf
  apply Outline.IsKeyed.node (by decide)
  intro m member
  simp only [List.mem_cons, List.not_mem_nil, or_false] at member
  rcases member with rfl | rfl
  · exact inner
  · exact isKeyed_leaf

theorem not_lacks_leaf (v : Value) (path : List Text) : ¬ (Outline.node []).Lacks v path := by
  intro lacks
  cases lacks with
  | here required => exact List.not_mem_nil required
  | through described => exact List.not_mem_nil described

theorem lacks_nested_iff {path : List Text} :
    nested.Lacks partly path <->
      path = [Text.ofString "a", Text.ofString "b"] ∨ path = [Text.ofString "d"] := by
  have a : Members.get? (Text.ofString "a") [(Text.ofString "a", .object [(Text.ofString "c", Value.int 1)])] =
      some (.object [(Text.ofString "c", .int 1)]) := by
    rfl
  have d : Members.get? (Text.ofString "d") [(Text.ofString "a", .object [(Text.ofString "c", Value.int 1)])] = none := by
    rfl
  have b : Members.get? (Text.ofString "b") [(Text.ofString "c", Value.int 1)] = none := by
    rfl
  simp [nested, partly, Outline.lacks_object_iff, Outline.DueThrough, Outline.DueHere, not_lacks_leaf, a, b, d]

/-- The oldest draft and the newest one find the two others. -/
theorem attributed_nested : nested.IsKeyed ∧
    exists fs fs', validate emptyDisk partly (nested.schema .draft3) "draft-03" = .ok fs ∧
      validate emptyDisk partly (nested.schema .draft2020) "draft-2020-12" = .ok fs' ∧
      (forall field, field ∈ fs.map Prod.fst <-> field = Text.ofString "a.b" ∨ field = Text.ofString "d") ∧
      forall field, field ∈ fs.map Prod.fst <-> field ∈ fs'.map Prod.fst := by
  have shallow : ¬ 93 < nested.depth := by
    decide
  rcases attributed_alike emptyDisk partly isKeyed_nested with ⟨each, alike⟩
  rcases each "draft-03" .draft3 (.inr rfl) with ⟨fs, validated, attributed⟩ | ⟨-, deep⟩
  · rcases each "draft-2020-12" .draft2020 (.inr rfl) with ⟨fs', validated', -⟩ | ⟨-, deep⟩
    · have same := alike _ _ _ _ fs fs' (.inr rfl) (.inr rfl) validated validated'
      refine ⟨isKeyed_nested, fs, fs', validated, validated', ?_, same⟩
      intro field
      rw [attributed.fields]
      simp only [lacks_nested_iff, or_and_right, exists_or, exists_eq_left]
      rfl
    · exact absurd deep shallow
  · exact absurd deep shallow

/-- Members below one another. -/
def chain : Nat -> Outline
  | 0 => .node []
  | n + 1 => .node [(Text.ofString "a", false, chain n)]

theorem isKeyed_chain (n : Nat) : (chain n).IsKeyed := by
  induction n with
  | zero => exact isKeyed_leaf
  | succ n ih =>
      apply Outline.IsKeyed.node (by exact List.nodup_singleton _)
      intro m member
      rw [List.mem_singleton.mp member]
      exact ih

theorem not_lacks_chain (n : Nat) (path : List Text) : ¬ (chain n).Lacks (.object []) path := by
  intro lacks
  cases n with
  | zero => exact not_lacks_leaf _ path lacks
  | succ n =>
      rcases Outline.lacks_object_iff.mp lacks with ⟨m, member, ⟨v, path', found, -⟩ | ⟨required, -⟩⟩
      · cases found
      · rw [List.mem_singleton.mp member] at required
        cases required

/-- A document lacks nothing, but its schema is nested too deeply to be checked. -/
theorem crash_of_chain : (chain 200).IsKeyed ∧ (forall path, ¬ (chain 200).Lacks (.object []) path) ∧
    crashOf? (validate emptyDisk (.object []) ((chain 200).schema .draft4) "json-schema-draft-04") = some .recursion := by
  refine ⟨isKeyed_chain 200, not_lacks_chain 200, ?_⟩
  decide +kernel

end SchemaLint
