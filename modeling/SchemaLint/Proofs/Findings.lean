import SchemaLint.Lint.Document
import SchemaLint.Proofs.Results
import SchemaLint.Proofs.Schema.Violations

/-!
# Which violations become findings

Failures are worked out anew from violations: the names that an object lacks, and the members that it should not have.
The second account of additional members tries the patterns one by one, where evaluation joins them to one pattern, and
the account of missing names takes every list for a list of names.  The two accounts can disagree, and then a violation
comes down to no failure at all.

The main result says exactly when.  A document without findings has no violations but unspoken ones, and there are only
two kinds of these.  Both come from the schema alone being odd: patterns that mean something else joined than apart, or
a list where the oldest draft has a truth value.
-/

namespace SchemaLint

open Json Schema

namespace Schema

namespace Violation

/-- The keyword objects to members that the joined patterns do not match, but each member is named, or matched by a
pattern of its own. -/
def Covered (v : Violation) : Prop :=
  v.keyword = some (Text.ofString "additionalProperties") ∧ v.HasExtra ∧
    exists schema members, v.schema = .object schema ∧ v.subject = .object members ∧
      forall member, member ∈ members -> Failure.isExtra schema member.1 = .ok false

/-- A member is missing whose schema says by a list that it is required, and the object has all members of the list. -/
def Listed (v : Violation) : Prop :=
  v.keyword = some (Text.ofString "required") ∧ v.LacksMember ∧
    exists demanded members, v.limit = .array demanded ∧ v.subject = .object members ∧
      forall name, name ∈ demanded -> hasMember members name = .ok true

/-- A violation that comes down to no failure. -/
def Unspoken (v : Violation) : Prop :=
  v.Covered ∨ v.Listed

end Violation

end Schema

namespace Failure

/-! ## One violation -/

theorem missingNames_eq_nil_iff {demanded : List Value} {members : Members} {names : List Text}
    (computed : missingNames demanded members = .ok names) :
    names = [] <-> forall name, name ∈ demanded -> hasMember members name = .ok true := by
  obtain ⟨missing, tested, computed⟩ := bind_eq_ok_iff.mp computed
  have same := Except.ok.inj computed
  have holds : forall name, (do return !(← hasMember members name) : Except Crash Bool) = .ok false <->
      hasMember members name = .ok true := by
    intro name
    cases hasMember members name with
    | error c => simp [bind, Except.bind]
    | ok b => cases b <;> simp [bind, Except.bind, pure, Except.pure]
  rw [← same, List.map_eq_nil_iff, allWhere_eq_nil_iff tested]
  simp only [holds]

theorem required_ne_additionalProperties : Text.ofString "required" ≠ Text.ofString "additionalProperties" := by
  decide

/-- A name that is demanded and missing is among the missing names, so only a missing member can come down to nothing. -/
theorem ofViolation_required_eq_nil_iff {v : Violation} {failures : List Failure} (grounded : v.Grounded)
    (keyword : v.keyword = some (Text.ofString "required")) (converted : ofViolation v = .ok failures) :
    failures = [] <-> v.Listed := by
  unfold ofViolation at converted
  simp only [if_pos keyword] at converted
  have object : exists members, v.subject = .object members := by
    rcases grounded.required keyword with ⟨members, _, _, same, _⟩ | ⟨members, _, same, _⟩
    · exact ⟨members, same⟩
    · exact ⟨members, same⟩
  obtain ⟨members, subject⟩ := object
  simp only [subject] at converted
  cases limit : v.limit with
  | array demanded =>
      simp only [limit] at converted
      obtain ⟨names, computed, converted⟩ := bind_eq_ok_iff.mp converted
      have same := Except.ok.inj converted
      rw [← same, List.map_eq_nil_iff, missingNames_eq_nil_iff computed]
      constructor
      · intro held
        refine ⟨keyword, ?_, demanded, members, limit, subject, held⟩
        rcases grounded.required keyword with ⟨objects, names, lacking, object, listed, member, missing⟩ | lacks
        · rw [subject] at object
          rw [limit] at listed
          cases object
          cases listed
          have present := held lacking member
          rw [missing] at present
          cases present
        · exact lacks
      · rintro ⟨_, _, others, objects, array, object, held⟩
        rw [subject] at object
        rw [limit] at array
        cases object
        cases array
        exact held
  | _ =>
      simp only [limit] at converted
      have same := Except.ok.inj converted
      constructor
      · intro empty
        rw [← same] at empty
        cases empty
      · rintro ⟨_, _, others, objects, array, _⟩
        rw [limit] at array
        cases array

theorem ofViolation_additional_eq_nil_iff {v : Violation} {failures : List Failure} (grounded : v.Grounded)
    (keyword : v.keyword = some (Text.ofString "additionalProperties")) (converted : ofViolation v = .ok failures) :
    failures = [] <-> v.Covered := by
  have other : v.keyword ≠ some (Text.ofString "required") := by
    rw [keyword]
    intro same
    exact required_ne_additionalProperties (Option.some.inj same).symm
  unfold ofViolation at converted
  simp only [if_neg other, if_pos keyword] at converted
  have extra := grounded.additional keyword
  obtain ⟨schema, members, found, object, subject, computed, nonempty, given⟩ := extra
  simp only [subject, object, Value.members?, Option.getD_some] at converted
  obtain ⟨kept, tested, converted⟩ := bind_eq_ok_iff.mp converted
  have same := Except.ok.inj converted
  rw [← same, List.map_eq_nil_iff, allWhere_eq_nil_iff tested]
  constructor
  · intro covered
    exact ⟨keyword, grounded.additional keyword, schema, members, object, subject, covered⟩
  · rintro ⟨_, _, keywords, objects, schema_eq, subject_eq, covered⟩
    rw [object] at schema_eq
    rw [subject] at subject_eq
    cases schema_eq
    cases subject_eq
    exact covered

/-- Of the violations that an evaluation finds, exactly the unspoken ones come down to nothing. -/
theorem ofViolation_eq_nil_iff {v : Violation} {failures : List Failure} (grounded : v.Grounded)
    (converted : ofViolation v = .ok failures) : failures = [] <-> v.Unspoken := by
  by_cases required : v.keyword = some (Text.ofString "required")
  · rw [ofViolation_required_eq_nil_iff grounded required converted]
    constructor
    · intro listed
      exact Or.inr listed
    · rintro (⟨additional, _⟩ | listed)
      · exact absurd (Option.some.inj (required.symm.trans additional)) required_ne_additionalProperties
      · exact listed
  · by_cases additional : v.keyword = some (Text.ofString "additionalProperties")
    · rw [ofViolation_additional_eq_nil_iff grounded additional converted]
      constructor
      · intro covered
        exact Or.inl covered
      · rintro (covered | ⟨same, _⟩)
        · exact covered
        · exact absurd same required
    · unfold ofViolation at converted
      simp only [if_neg required, if_neg additional] at converted
      have same := Except.ok.inj converted
      constructor
      · intro empty
        rw [← same] at empty
        cases empty
      · rintro (⟨same, _⟩ | ⟨same, _⟩)
        · exact absurd same additional
        · exact absurd same required

/-! ## All violations -/

theorem ofViolations_eq_nil_iff {vs : List Violation} {failures : List Failure}
    (grounded : forall v, v ∈ vs -> v.Grounded) (converted : ofViolations vs = .ok failures) :
    failures = [] <-> forall v, v ∈ vs -> v.Unspoken := by
  induction vs generalizing failures with
  | nil =>
      have same : [] = failures := Except.ok.inj converted
      simp [← same]
  | cons v rest ih =>
      obtain ⟨first, one, converted⟩ := bind_eq_ok_iff.mp converted
      obtain ⟨others, more, converted⟩ := bind_eq_ok_iff.mp converted
      have same : first ++ others = failures := Except.ok.inj converted
      rw [← same, List.append_eq_nil_iff, List.forall_mem_cons,
        ofViolation_eq_nil_iff (grounded v List.mem_cons_self) one,
        ih (fun w member => grounded w (List.mem_cons_of_mem v member)) more]

end Failure

namespace Findings

theorem add_ne_nil (f : Failure) (findings : Findings) : findings.add f ≠ [] := by
  cases findings with
  | nil => simp [add]
  | cons entry rest =>
      rw [add]
      split <;> simp

theorem foldl_add_ne_nil (failures : List Failure) {findings : Findings} (nonempty : findings ≠ []) :
    failures.foldl (fun findings f => findings.add f) findings ≠ [] := by
  induction failures generalizing findings with
  | nil => exact nonempty
  | cons f rest ih => exact ih (add_ne_nil f findings)

/-- Sorting failures by field and rule keeps at least the first of them. -/
theorem ofFailures_eq_nil_iff (failures : List Failure) : ofFailures failures = [] <-> failures = [] := by
  cases failures with
  | nil => simp [ofFailures]
  | cons f rest => simpa [ofFailures] using foldl_add_ne_nil rest (add_ne_nil f [])

end Findings

/-! ## Documents -/

/-- A document is judged in the draft of the environment, by a schema that satisfies the schema for schemas. -/
theorem exists_draft_of_judge {disk : Disk} {document schema : Value} {env : Text} {o : Outcome}
    (judged : judge disk document schema env = .ok o) :
    exists d, dialectOf env = .ok d ∧ Schema.isWellFormed d schema = .ok true ∧
      o = Schema.judge (.ofDisk disk) d schema document := by
  rcases bind_eq_ok_iff.mp judged with ⟨d, draft, judged⟩
  rcases bind_eq_ok_iff.mp judged with ⟨wellFormed, checked, judged⟩
  cases wellFormed with
  | false => cases judged
  | true => exact ⟨d, mapError_eq_ok_iff.mp draft, mapError_eq_ok_iff.mp checked, (Except.ok.inj judged).symm⟩

/-- A validation that returns has judged the document to the end, and all violations came down to failures. -/
theorem exists_judge_of_validate {disk : Disk} {document schema : Value} {env : Text} {findings : Findings}
    (validated : validate disk document schema env = .ok findings) :
    exists o failures, judge disk document schema env = .ok o ∧ o.crash = none ∧
      Failure.ofViolations o.found = .ok failures ∧ findings = Findings.ofFailures failures := by
  rcases bind_eq_ok_iff.mp validated with ⟨o, judged, validated⟩
  rcases bind_eq_ok_iff.mp validated with ⟨failures, converted, validated⟩
  rcases bind_eq_ok_iff.mp (mapError_eq_ok_iff.mp converted) with ⟨all, computed, ended⟩
  cases crash : o.crash with
  | some c =>
      rw [crash] at ended
      cases ended
  | none =>
      rw [crash] at ended
      rw [Except.ok.inj ended] at computed
      exact ⟨o, failures, judged, crash, computed, (Except.ok.inj validated).symm⟩

/-- A document that was judged to the end, by violations that come down to failures, is validated. -/
theorem validate_of_judge {disk : Disk} {document schema : Value} {env : Text} {o : Outcome} {failures : List Failure}
    (judged : judge disk document schema env = .ok o) (ended : o.crash = none)
    (converted : Failure.ofViolations o.found = .ok failures) :
    validate disk document schema env = .ok (Findings.ofFailures failures) := by
  have computed : failuresOf o = .ok failures := by
    apply bind_eq_ok_iff.mpr
    refine ⟨failures, converted, ?_⟩
    rw [ended]
    rfl
  apply bind_eq_ok_iff.mpr
  refine ⟨o, judged, ?_⟩
  rw [computed]
  rfl

/-- What a validation that returns was made of. -/
theorem validate_eq_ok {disk : Disk} {document schema : Value} {env : Text} {findings : Findings}
    (validated : validate disk document schema env = .ok findings) :
    exists d failures, dialectOf env = .ok d ∧ Schema.isWellFormed d schema = .ok true ∧
      (Schema.judge (.ofDisk disk) d schema document).crash = none ∧
      Failure.ofViolations (Schema.judge (.ofDisk disk) d schema document).found = .ok failures ∧
      findings = Findings.ofFailures failures := by
  rcases exists_judge_of_validate validated with ⟨o, failures, judged, ended, converted, grouped⟩
  rcases exists_draft_of_judge judged with ⟨d, draft, checked, rfl⟩
  exact ⟨d, failures, draft, checked, ended, converted, grouped⟩

/-- A document has no findings exactly if all its violations are unspoken, and it passes exactly then.  So a document that
evaluation rejects passes in the two cases of `Violation.Unspoken`, and in no other. -/
theorem findings_eq_nil_iff_unspoken {disk : Disk} {document schema : Value} {env : Text} {findings : Findings}
    (validated : validate disk document schema env = .ok findings) :
    exists d, dialectOf env = .ok d ∧ Schema.isWellFormed d schema = .ok true ∧
      (Schema.judge (.ofDisk disk) d schema document).crash = none ∧
      (findings = [] <-> forall v, v ∈ (Schema.judge (.ofDisk disk) d schema document).found -> v.Unspoken) ∧
      forall (linted : Document) (reference : String), linted.settings.env = env ->
        exists verdict, linted.finish disk document reference (.ok schema) = .ok verdict ∧
          (verdict.passed = true <->
            forall v, v ∈ (Schema.judge (.ofDisk disk) d schema document).found -> v.Unspoken) := by
  obtain ⟨d, failures, draft, checked, done, converted, rfl⟩ := validate_eq_ok validated
  have unspoken : Findings.ofFailures failures = [] <->
      forall v, v ∈ (Schema.judge (.ofDisk disk) d schema document).found -> v.Unspoken := by
    rw [Findings.ofFailures_eq_nil_iff]
    exact Failure.ofViolations_eq_nil_iff
      (Schema.grounded_run { retrieval := .ofDisk disk, formats := false } d .all schema document) converted
  refine ⟨d, draft, checked, done, unspoken, ?_⟩
  intro linted reference environment
  have finished : linted.finish disk document reference (.ok schema) =
      linted.judged reference (.ok (Findings.ofFailures failures)) := by
    simp only [Document.finish, Except.bind, environment, validated]
  rw [finished, ← unspoken]
  cases kept : Findings.ofFailures failures with
  | nil => exact ⟨linted.pass, rfl, by simp [Document.pass, Verdict.passed]⟩
  | cons entry rest =>
      refine ⟨_, rfl, ?_⟩
      simp [Document.fail, Verdict.passed]

/-- A schema that allows only members whose names the empty pattern matches, which are all. -/
def emptyPatternSchema : Value :=
  .object
    [(Text.ofString "patternProperties", .object [(Text.ofString "", .object [])]),
      (Text.ofString "additionalProperties", .bool false)]

/-- A document with one member. -/
def oneMember : Value :=
  .object [(Text.ofString "a", .int 1)]

/-- The disk on which there is nothing. -/
def emptyDisk : Disk :=
  { root := [], current := ⟨.root, []⟩ }

/-- The empty pattern joined to one pattern counts as none, so evaluation rejects every member.  Alone it matches every
name, so nothing is said about it and the document passes. -/
theorem findings_eq_nil_of_emptyPattern :
    validate emptyDisk oneMember emptyPatternSchema "draft-07" = .ok [] ∧
      (Schema.judge (.ofDisk emptyDisk) .draft7 emptyPatternSchema oneMember).found ≠ [] ∧
      forall v, v ∈ (Schema.judge (.ofDisk emptyDisk) .draft7 emptyPatternSchema oneMember).found -> v.Unspoken := by
  have evaluated : (validate emptyDisk oneMember emptyPatternSchema "draft-07").toOption.map List.length = some 0 ∧
      (Schema.judge (.ofDisk emptyDisk) .draft7 emptyPatternSchema oneMember).found.length = 1 := by
    decide +kernel
  obtain ⟨count, found⟩ := evaluated
  have validated : validate emptyDisk oneMember emptyPatternSchema "draft-07" = .ok [] := by
    cases result : validate emptyDisk oneMember emptyPatternSchema "draft-07" with
    | error failed => simp [result, Except.toOption] at count
    | ok findings =>
        rw [result] at count
        have empty : findings = [] := List.length_eq_zero_iff.mp (Option.some.inj count)
        rw [empty]
  obtain ⟨d, draft, _, _, unspoken, _⟩ := findings_eq_nil_iff_unspoken validated
  have draft7 : dialectOf "draft-07" = .ok .draft7 := by rfl
  have same : Dialect.draft7 = d := Except.ok.inj (draft7.symm.trans draft)
  rw [← same] at unspoken
  refine ⟨validated, ?_, unspoken.mp rfl⟩
  intro empty
  rw [empty] at found
  cases found

end SchemaLint
