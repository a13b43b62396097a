import SchemaLint.Proofs.Findings
import SchemaLint.Proofs.Json.Keyed
import SchemaLint.Proofs.Lint.Akin
import SchemaLint.Proofs.Schema.Canonical

/-!
# Sorting and the verdict

Sorting a document changes in which order violations are found, in which order one of them comes down to failures, and
which failure of a rule is kept for a field.  It does not change which rules of which fields are violated, and so it does
not change whether the document passes.
-/

namespace SchemaLint

open Json Schema

/-! ## Rules of fields -/

namespace Failure

/-- The field and the rule that a failure is about. -/
def pair (f : Failure) : Text × Text :=
  (f.field, f.rule)

end Failure

namespace Findings

/-- The fields and the rules that findings are about. -/
def pairs (fs : Findings) : List (Text × Text) :=
  fs.flatMap fun entry => entry.2.map fun kept => (entry.1, kept.1)

/-- Findings that say the same: there are none together, and they are about the same rules of the same fields. -/
structure Akin (fs fs' : Findings) : Prop where
  nil : fs = [] <-> fs' = []
  pairs : forall pair, pair ∈ fs.pairs <-> pair ∈ fs'.pairs

variable {f : Failure}

theorem mem_rules_addRule {rules : List (Text × Failure)} {rule : Text} :
    rule ∈ (addRule f rules).map Prod.fst <-> rule = f.rule ∨ rule ∈ rules.map Prod.fst := by
  induction rules with
  | nil => simp [addRule]
  | cons kept rest ih =>
    rw [addRule]
    split
    next same =>
      rw [List.map_cons, List.mem_cons, ← same]
      tauto
    next =>
      rw [List.map_cons, List.mem_cons, ih, List.map_cons, List.mem_cons]
      tauto

theorem mem_pairs_cons {field : Text} {rules : List (Text × Failure)} {fs : Findings} {pair : Text × Text} :
    pair ∈ pairs ((field, rules) :: fs) <-> pair.1 = field ∧ pair.2 ∈ rules.map Prod.fst ∨ pair ∈ pairs fs := by
  obtain ⟨name, rule⟩ := pair
  unfold pairs
  rw [List.flatMap_cons, List.mem_append, List.mem_map, List.mem_map]
  refine or_congr ?_ Iff.rfl
  constructor
  · rintro ⟨kept, inside, same⟩
    cases same
    exact ⟨rfl, kept, inside, rfl⟩
  · rintro ⟨rfl, kept, inside, rfl⟩
    exact ⟨kept, inside, rfl⟩

/-- A failure that is added adds what it is about, even where it is not kept. -/
theorem mem_pairs_add {fs : Findings} {pair : Text × Text} :
    pair ∈ (fs.add f).pairs <-> pair = f.pair ∨ pair ∈ fs.pairs := by
  obtain ⟨name, rule⟩ := pair
  induction fs with
  | nil => simp [add, pairs, Failure.pair]
  | cons entry rest ih =>
    obtain ⟨field, rules⟩ := entry
    rw [add]
    split
    next same =>
      rw [mem_pairs_cons, mem_pairs_cons, mem_rules_addRule, same]
      unfold Failure.pair
      rw [Prod.mk.injEq]
      tauto
    next =>
      rw [mem_pairs_cons, mem_pairs_cons, ih]
      tauto

theorem mem_pairs_ofFailures (failures : List Failure) (pair : Text × Text) :
    pair ∈ (ofFailures failures).pairs <-> pair ∈ failures.map Failure.pair := by
  have adds : forall fs : Findings, pair ∈ (failures.foldl (fun fs f => fs.add f) fs).pairs <->
      pair ∈ fs.pairs ∨ pair ∈ failures.map Failure.pair := by
    induction failures with
    | nil => simp
    | cons f rest ih =>
      intro fs
      rw [List.foldl_cons, ih, mem_pairs_add, List.map_cons, List.mem_cons]
      tauto
  rw [ofFailures, adds []]
  simp [pairs]

/-- What findings say is made of what the failures are about. -/
theorem akin_ofFailures {failures failures' : List Failure}
    (same : SameSet (failures.map Failure.pair) (failures'.map Failure.pair)) :
    (ofFailures failures).Akin (ofFailures failures') where
  nil := by
    have nothing : forall fs : List Failure, fs = [] <-> forall pair, pair ∉ fs.map Failure.pair := by
      intro fs
      rw [← List.eq_nil_iff_forall_not_mem, List.map_eq_nil_iff]
    rw [ofFailures_eq_nil_iff, ofFailures_eq_nil_iff, nothing, nothing]
    simp only [same _]
  pairs pair := by
    rw [mem_pairs_ofFailures, mem_pairs_ofFailures]
    exact same pair

end Findings

/-! ## From violations to failures -/

namespace Failure

theorem missingNames_sorted (demanded : List Value) (members : Members) :
    missingNames demanded (Members.sorted members) = missingNames demanded members := by
  unfold missingNames
  simp only [Assertion.hasMember_sorted]

/-- What a violation comes down to is about the same rules of the same fields, whatever the order of keys. -/
theorem agree_ofViolation (v : Violation) :
    Agree (fun fs fs' => SameSet (fs.map pair) (fs'.map pair)) (ofViolation v) (ofViolation v.sorted) := by
  rcases v with ⟨path, keyword, limit, subject, schema⟩
  unfold ofViolation Violation.sorted
  dsimp only
  split
  next =>
    cases limit with
    | array demanded =>
      cases subject with
      | object members =>
        rw [Value.sorted_object]
        dsimp only
        rw [missingNames_sorted]
        refine (agree_refl (missingNames demanded members)).bind ?_
        rintro names _ rfl
        exact agree_ok (sameSet_refl _)
      | _ => exact agree_ok (sameSet_refl [])
    | _ => exact agree_ok (sameSet_refl _)
  next =>
    split
    next =>
      cases subject with
      | object members =>
        rw [Value.sorted_object]
        -- Whether a member is extra depends on its name only.
        refine (agree_allWhere (Members.sorted_perm members) fun member _ =>
          agree_refl (isExtra (schema.members?.getD []) member.1)).bind ?_
        intro extra extra' perm
        have fields := perm.map fun member : Text × Value =>
          (fieldOf (path.map stepText ++ [member.1]), Text.ofString "additional")
        rw [List.map_map] at fields
        refine agree_ok ?_
        rw [List.map_map, List.map_map]
        exact sameSet_of_perm fields
      | _ => exact agree_ok (sameSet_refl _)
    next => exact agree_ok (sameSet_refl _)

/-- A violation comes down to a failure of a rule of a field. -/
def Raises (v : Violation) (pair : Text × Text) : Prop :=
  exists own, ofViolation v = .ok own ∧ pair ∈ own.map Failure.pair

/-- Violations come down to what each of them comes down to. -/
theorem mem_ofViolations {vs : List Violation} {fs : List Failure} (converted : ofViolations vs = .ok fs) :
    (forall v, v ∈ vs -> exists own, ofViolation v = .ok own) ∧
      forall f, f ∈ fs <-> exists v own, v ∈ vs ∧ ofViolation v = .ok own ∧ f ∈ own := by
  induction vs generalizing fs with
  | nil =>
    cases converted
    exact ⟨nofun, by simp⟩
  | cons v rest ih =>
    rcases bind_eq_ok_iff.mp converted with ⟨own, first, later⟩
    rcases bind_eq_ok_iff.mp later with ⟨others, more, done⟩
    cases done
    rcases ih more with ⟨each, others_iff⟩
    refine ⟨List.forall_mem_cons.mpr ⟨⟨own, first⟩, each⟩, fun f => ?_⟩
    rw [List.mem_append, others_iff]
    constructor
    · intro either
      rcases either with here | ⟨w, own', inside, come, member⟩
      · exact ⟨v, own, List.mem_cons_self, first, here⟩
      · exact ⟨w, own', List.mem_cons_of_mem v inside, come, member⟩
    · intro found
      rcases found with ⟨w, own', inside, come, member⟩
      rcases List.mem_cons.mp inside with rfl | later
      · cases first.symm.trans come
        exact .inl member
      · exact .inr ⟨w, own', later, come, member⟩

theorem ofViolations_eq_ok {vs : List Violation} {fs : List Failure} (converted : ofViolations vs = .ok fs) :
    (forall v, v ∈ vs -> exists own, ofViolation v = .ok own) ∧
      forall pair, pair ∈ fs.map Failure.pair <-> exists v, v ∈ vs ∧ Raises v pair := by
  rcases mem_ofViolations converted with ⟨each, members⟩
  refine ⟨each, fun pair => ?_⟩
  unfold Raises
  simp only [List.mem_map, members]
  constructor
  · intro found
    rcases found with ⟨f, ⟨v, own, inside, come, member⟩, same⟩
    exact ⟨v, inside, own, come, f, member, same⟩
  · intro found
    rcases found with ⟨v, inside, own, come, f, member, same⟩
    exact ⟨f, ⟨v, own, inside, come, member⟩, same⟩

/-- The same violations in another order, by values whose keys are in order, come down to failures of the same rules. -/
theorem agree_ofViolations {vs vs' : List Violation} (perm : vs'.Perm (vs.map Violation.sorted)) :
    Agree (fun fs fs' => SameSet (fs.map pair) (fs'.map pair)) (ofViolations vs) (ofViolations vs') := by
  intro fs fs' converted converted' pair
  obtain ⟨each, raised⟩ := ofViolations_eq_ok converted
  obtain ⟨each', raised'⟩ := ofViolations_eq_ok converted'
  have there : forall {v}, v ∈ vs -> v.sorted ∈ vs' := fun inside =>
    perm.mem_iff.mpr (List.mem_map_of_mem inside)
  rw [raised, raised']
  constructor
  · rintro ⟨v, inside, own, first, among⟩
    obtain ⟨own', first'⟩ := each' v.sorted (there inside)
    exact ⟨v.sorted, there inside, own', first', (agree_ofViolation v own own' first first' pair).mp among⟩
  · rintro ⟨v', inside', own', first', among'⟩
    obtain ⟨v, inside, rfl⟩ := List.mem_map.mp (perm.mem_iff.mp inside')
    obtain ⟨own, first⟩ := each v inside
    exact ⟨v, inside, own, first, (agree_ofViolation v own own' first first' pair).mpr among'⟩

end Failure

/-! ## Validating -/

section Validating

variable {disk : Disk} {v : Value} {schema : Value} {env : Text}

/-- Sorting a document does not change what is found in it, up to the order. -/
theorem akin_validate_sorted (keyed : v.IsKeyed) {fs fs' : Findings} (validated : validate disk v schema env = .ok fs)
    (validated' : validate disk v.sorted schema env = .ok fs') : fs.Akin fs' := by
  obtain ⟨d, failures, draft, -, fine, converted, rfl⟩ := validate_eq_ok validated
  obtain ⟨d', failures', draft', -, fine', converted', rfl⟩ := validate_eq_ok validated'
  cases draft.symm.trans draft'
  have found := match_run { retrieval := .ofDisk disk, formats := false } d .all schema keyed
  exact Findings.akin_ofFailures (Failure.agree_ofViolations (found fine fine') _ _ converted converted')

/-- Whether a document can be judged at all does not depend on the document. -/
theorem judge_eq_error {failed : Failed} (judged : judge disk v schema env = .error failed) (w : Value) :
    judge disk w schema env = .error failed := by
  rcases bind_eq_error_iff.mp judged with draft | ⟨d, draft, later⟩
  · exact bind_eq_error_iff.mpr (.inl draft)
  · refine bind_eq_error_iff.mpr (.inr ⟨d, draft, ?_⟩)
    rcases bind_eq_error_iff.mp later with checked | ⟨wellFormed, checked, later⟩
    · exact bind_eq_error_iff.mpr (.inl checked)
    · refine bind_eq_error_iff.mpr (.inr ⟨wellFormed, checked, ?_⟩)
      cases wellFormed with
      | false => exact later
      | true => cases later

/-- The errors of validation are those of the schema and of the environment; what goes wrong later is a crash. -/
theorem validate_eq_error {e : LintError} (failed : validate disk v schema env = .error (.error e)) (w : Value) :
    validate disk w schema env = .error (.error e) := by
  rcases bind_eq_error_iff.mp failed with judged | ⟨outcome, -, later⟩
  · exact bind_eq_error_iff.mpr (.inl (judge_eq_error judged w))
  · rcases bind_eq_error_iff.mp later with crashed | ⟨failures, -, done⟩
    · obtain ⟨c, -, same⟩ := mapError_eq_error_iff.mp crashed
      cases same
    · cases done

end Validating

/-! ## Linting -/

namespace Document

/-- A document that is to be sorted, or not. -/
def sorting (d : Document) (sort : Bool) : Document :=
  { d with settings := { d.settings with sort } }

theorem contents_of_value {d : Document} {t : Text} {v : Value} (text : d.text = .ok t) (value : d.value t = .ok v) :
    d.contents = .ok (t, v) :=
  bind_eq_ok_iff.mpr ⟨t, text, bind_eq_ok_iff.mpr ⟨v, value, rfl⟩⟩

theorem value_sorting_false {d : Document} {t : Text} {v : Value} (read : Json.read .strict t = .ok v) :
    (d.sorting false).value t = .ok v := by
  unfold value
  rw [read]
  rfl

theorem value_sorting_true {d : Document} {t : Text} {v w : Value} (read : Json.read .strict t = .ok v)
    (sorts : v.sorted? = some w) : (d.sorting true).value t = .ok w := by
  unfold value
  rw [read]
  unfold sorting
  simp only [if_true, Except.mapError, bind, Except.bind]
  rw [sorts]
  rfl

/-- A document passes just if its validation returns without findings. -/
theorem passed_iff_of_judged {d : Document} {reference : String} {result : Except Failed Findings} {verdict : Verdict}
    (judged : d.judged reference result = .ok verdict) : verdict.passed = true <-> result = .ok [] := by
  unfold Document.judged at judged
  split at judged
  · cases judged
  · cases judged
    exact ⟨nofun, nofun⟩
  · cases judged
    exact ⟨fun _ => rfl, fun _ => rfl⟩
  · rename_i nonempty
    cases judged
    exact ⟨nofun, fun same => absurd (Except.ok.inj same) nonempty⟩

/-- A validation without a crash has come to an error or to findings. -/
theorem error_or_ok_of_judged {d : Document} {reference : String} {result : Except Failed Findings} {verdict : Verdict}
    (judged : d.judged reference result = .ok verdict) :
    (exists e, result = .error (.error e)) ∨ exists fs, result = .ok fs := by
  rcases result with (e | c) | fs
  · exact .inl ⟨e, rfl⟩
  · cases judged
  · exact .inr ⟨fs, rfl⟩

variable {d d' : Document}

/-- A value and the value with its keys in order get the same verdict from the same schema. -/
theorem passed_eq_of_finish {disk : Disk} {v : Value} {reference : String} {schema : Except Failed Value}
    {verdict verdict' : Verdict} (keyed : v.IsKeyed) (env : d'.settings.env = d.settings.env)
    (finished : d.finish disk v reference schema = .ok verdict)
    (finished' : d'.finish disk v.sorted reference schema = .ok verdict') : verdict.passed = verdict'.passed := by
  unfold Document.finish at finished finished'
  rw [env] at finished'
  rw [Bool.eq_iff_iff, passed_iff_of_judged finished, passed_iff_of_judged finished']
  cases schema with
  | error failed => exact Iff.rfl
  | ok schema =>
    change validate disk v schema d.settings.env = .ok [] <-> validate disk v.sorted schema d.settings.env = .ok []
    rcases error_or_ok_of_judged finished with ⟨e, failed⟩ | ⟨fs, validated⟩
    · have failed' := validate_eq_error failed v.sorted
      have both : validate disk v.sorted schema d.settings.env = validate disk v schema d.settings.env :=
        failed'.trans failed.symm
      rw [both]
    · rcases error_or_ok_of_judged finished' with ⟨e, failed'⟩ | ⟨fs', validated'⟩
      · cases (validate_eq_error failed' v).symm.trans validated
      · have akin : fs.Akin fs' := akin_validate_sorted keyed validated validated'
        change validate disk v schema d.settings.env = .ok fs at validated
        change validate disk v.sorted schema d.settings.env = .ok fs' at validated'
        rw [validated, validated', Except.ok.injEq, Except.ok.injEq]
        exact akin.nil

/-- Once a document is read and printed, its verdict is that on its value by the schema of its reference. -/
theorem outcome_lint_of_contents {t : Text} {v : Value} {out : Output} {said : Said} {reference : String}
    (contents : d.contents = .ok (t, v)) (prints : d.print out t = .ok said) (refers : d.reference? = some reference)
    (s : Sources) (r : Resolver) (w : World) : (d.lint out s r w).outcome =
      (d.finish (r.resolve s w reference).2.2.disk v reference (r.resolve s w reference).1).mapError .crash := by
  unfold Document.lint
  rw [start_eq, contents]
  dsimp only
  rw [prints, refers]
  rfl

/-- Whether a document is sorted does not change whether it passes. -/
theorem passed_eq_of_lint {t : Text} {v w : Value} (text : d.text = .ok t) (read : Json.read .strict t = .ok v)
    (sorts : v.sorted? = some w) {out : Output} {s : Sources} {r : Resolver} {world : World} {plain sorted : Verdict}
    (linted : ((d.sorting false).lint out s r world).outcome = .ok plain)
    (linted' : ((d.sorting true).lint out s r world).outcome = .ok sorted) : plain.passed = sorted.passed := by
  obtain ⟨-, rfl⟩ := Value.sorted?_eq_some_iff.mp sorts
  have contents : (d.sorting false).contents = .ok (t, v) := contents_of_value text (value_sorting_false read)
  have contents' : (d.sorting true).contents = .ok (t, v.sorted) := contents_of_value text (value_sorting_true read sorts)
  -- Neither what is printed nor the reference of the schema has anything to do with sorting.
  have prints : (d.sorting true).print out t = (d.sorting false).print out t := rfl
  have refers : (d.sorting true).reference? = (d.sorting false).reference? := rfl
  cases said : (d.sorting false).print out t with
  | error c =>
    rw [Document.lint, start_eq, contents] at linted
    dsimp only at linted
    rw [said] at linted
    cases linted
  | ok said' =>
    cases reference : (d.sorting false).reference? with
    | none =>
      rw [Document.lint, start_eq, contents] at linted
      rw [Document.lint, start_eq, contents'] at linted'
      dsimp only at linted linted'
      rw [said, reference] at linted
      rw [prints, refers, said, reference] at linted'
      cases linted
      cases linted'
      rfl
    | some reference' =>
      rw [outcome_lint_of_contents contents said reference] at linted
      rw [outcome_lint_of_contents contents' (prints.trans said) (refers.trans reference)] at linted'
      exact passed_eq_of_finish (isKeyed_of_read read) rfl (mapError_eq_ok_iff.mp linted) (mapError_eq_ok_iff.mp linted')

end Document

/-! ## Sorting as a whole -/

/-- A document that is not too deep to be sorted violates the same rules of the same fields as it is and with its keys in
order, whatever the schema and the environment, if both validations return; and it has no findings in both cases or in
none.  So linting, if it returns with sorting switched off and on, lets the document pass in both cases or in none. -/
theorem findings_and_verdict_of_sorted {t : Text} {v w : Value} (read : Json.read .strict t = .ok v)
    (sorts : v.sorted? = some w) :
    (forall (disk : Disk) (schema : Value) (env : Text) (fs fs' : Findings),
      validate disk v schema env = .ok fs -> validate disk w schema env = .ok fs' ->
        (fs = [] <-> fs' = []) ∧ forall pair, pair ∈ fs.pairs <-> pair ∈ fs'.pairs) ∧
    forall (d : Document) (out : Output) (s : Sources) (r : Resolver) (world : World) (plain sorted : Verdict),
      d.text = .ok t -> ((d.sorting false).lint out s r world).outcome = .ok plain ->
        ((d.sorting true).lint out s r world).outcome = .ok sorted -> plain.passed = sorted.passed := by
  constructor
  · intro disk schema env fs fs' validated validated'
    obtain ⟨-, rfl⟩ := Value.sorted?_eq_some_iff.mp sorts
    have akin : fs.Akin fs' := akin_validate_sorted (isKeyed_of_read read) validated validated'
    exact ⟨akin.nil, akin.pairs⟩
  · intro d out s r world plain sorted text linted linted'
    exact Document.passed_eq_of_lint text read sorts linted linted'

/-! ### Two members and a schema that allows neither -/

/-- A document whose keys are out of order. -/
def unordered : Value :=
  .object
    [(Text.ofString "b", .int 1),
      (Text.ofString "a", .object [(Text.ofString "d", .int 1), (Text.ofString "c", .int 2)])]

/-- The same document with its keys in order. -/
def ordered : Value :=
  .object
    [(Text.ofString "a", .object [(Text.ofString "c", .int 2), (Text.ofString "d", .int 1)]),
      (Text.ofString "b", .int 1)]

/-- A schema that asks for a member and allows no other one. -/
def closedSchema : Value :=
  .object
    [(Text.ofString "additionalProperties", .bool false),
      (Text.ofString "required", .array [.string (Text.ofString "c")])]

/-- The unordered document as it is written. -/
def unorderedText : Text :=
  Text.ofString "\x7b\"b\": 1, \"a\": \x7b\"d\": 1, \"c\": 2\x7d\x7d"

/-- The unordered document on standard input, to be linted with that schema. -/
def unorderedInput : Document where
  path := none
  source := .text unorderedText
  settings := { Settings.defaults with schema := some "closed", env := "draft-07" }

/-- A resolver that knows the schema. -/
def knowsClosed : Resolver :=
  { Resolver.fresh with known := [("closed", closedSchema)] }

/-- Sources that nothing is taken from. -/
def noSources : Sources where
  homes := ⟨"/", []⟩
  cache := ⟨⟨.root, []⟩⟩

/-- The verdict on the unordered document, sorted or not. -/
def unorderedVerdict (sort : Bool) : Except Failed Verdict :=
  ((unorderedInput.sorting sort).lint .sound noSources knowsClosed ⟨emptyDisk, ⟨[], []⟩⟩).outcome

/-- The two members are found in the other order, and the document fails in both cases. -/
theorem findings_and_verdict_of_unordered : unordered.sorted? = some ordered ∧
    (exists fs fs', validate emptyDisk unordered closedSchema "draft-07" = .ok fs ∧
      validate emptyDisk ordered closedSchema "draft-07" = .ok fs' ∧
      fs.pairs = [(Text.ofString "b", Text.ofString "additional"), (Text.ofString "a", Text.ofString "additional"),
        (Text.ofString "c", Text.ofString "required")] ∧
      fs'.pairs = [(Text.ofString "a", Text.ofString "additional"), (Text.ofString "b", Text.ofString "additional"),
        (Text.ofString "c", Text.ofString "required")] ∧
      (fs = [] <-> fs' = []) ∧ forall pair, pair ∈ fs.pairs <-> pair ∈ fs'.pairs) ∧
    exists plain sorted, unorderedVerdict false = .ok plain ∧ unorderedVerdict true = .ok sorted ∧
      plain.passed = false ∧ plain.passed = sorted.passed := by
  have read : Json.read .strict unorderedText = .ok unordered := by rfl
  have outer : Text.le (Text.ofString "b") (Text.ofString "a") = false := by decide
  have inner : Text.le (Text.ofString "d") (Text.ofString "c") = false := by decide
  have sorts : unordered.sorted? = some ordered := by
    refine Value.sorted?_eq_some_iff.mpr ⟨by decide, ?_⟩
    simp [unordered, ordered, Value.sorted, Value.sortedMembers, List.mergeSort, outer, inner]
  obtain ⟨findings, verdict⟩ := findings_and_verdict_of_sorted read sorts
  have evaluated : (validate emptyDisk unordered closedSchema "draft-07").toOption.map Findings.pairs =
        some [(Text.ofString "b", Text.ofString "additional"), (Text.ofString "a", Text.ofString "additional"),
          (Text.ofString "c", Text.ofString "required")] ∧
      (validate emptyDisk ordered closedSchema "draft-07").toOption.map Findings.pairs =
        some [(Text.ofString "a", Text.ofString "additional"), (Text.ofString "b", Text.ofString "additional"),
          (Text.ofString "c", Text.ofString "required")] ∧
      (unorderedVerdict false).toOption.map Verdict.passed = some false ∧
      ((unorderedInput.sorting true).finish emptyDisk ordered "closed" (.ok closedSchema)).toOption.isSome = true := by
    decide +kernel
  obtain ⟨found, found', fails, ends⟩ := evaluated
  obtain ⟨fs, validated, pairs⟩ := Option.map_eq_some_iff.mp found
  obtain ⟨fs', validated', pairs'⟩ := Option.map_eq_some_iff.mp found'
  rw [toOption_eq_some_iff] at validated validated'
  obtain ⟨plain, linted, fails⟩ := Option.map_eq_some_iff.mp fails
  rw [toOption_eq_some_iff] at linted
  -- Sorting is not evaluated here, but what comes of it is known.
  obtain ⟨sorted, finished⟩ := Option.isSome_iff_exists.mp ends
  rw [toOption_eq_some_iff] at finished
  have linted' : unorderedVerdict true = .ok sorted := by
    have contents : (unorderedInput.sorting true).contents = .ok (unorderedText, ordered) :=
      Document.contents_of_value rfl (Document.value_sorting_true read sorts)
    have refers : (unorderedInput.sorting true).reference? = some "closed" := by decide
    have resolved : (knowsClosed.resolve noSources ⟨emptyDisk, ⟨[], []⟩⟩ "closed").1 = .ok closedSchema := by rfl
    have untouched : (knowsClosed.resolve noSources ⟨emptyDisk, ⟨[], []⟩⟩ "closed").2.2.disk = emptyDisk := by rfl
    unfold unorderedVerdict
    rw [Document.outcome_lint_of_contents contents rfl refers, resolved, untouched]
    exact mapError_eq_ok_iff.mpr finished
  refine ⟨sorts, ⟨fs, fs', validated, validated', pairs, pairs', findings _ _ _ _ _ validated validated'⟩, plain, sorted,
    linted, linted', fails, ?_⟩
  exact verdict unorderedInput _ _ _ _ plain sorted rfl linted linted'

end SchemaLint
