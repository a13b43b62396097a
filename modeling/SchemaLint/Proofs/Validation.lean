import SchemaLint.Proofs.Classified
import SchemaLint.Proofs.Findings
import SchemaLint.Proofs.Schema.Blame

/-!
# How validation ends

A document that is validated ends with its findings, with an error or in a crash.  The errors are two: nobody knows the
environment, or the schema does not satisfy the schema for schemas.  A schema that does satisfy it may still lead
evaluation astray, and what crashes then is to blame on a schema that evaluation came to.
-/

namespace SchemaLint

open Json Schema

/-! ## Environments -/

/-- An environment is that of a draft; its stem may be left out. -/
def Names (env : Text) (d : Dialect) : Prop :=
  env = d.environment ∨ env = d.suffix

theorem ofEnvironment?_eq_some_iff {env : Text} {d : Dialect} :
    Dialect.ofEnvironment? env = some d <-> Names env d := by
  have found : forall key : Text, (Dialect.all.find? fun d => Text.ofString d.environment = key) = some d <->
      Text.ofString d.environment = key := by
    intro key
    constructor
    · intro found
      have holds := List.find?_some found
      exact of_decide_eq_true holds
    · rintro rfl
      cases d <;> decide
  unfold Dialect.ofEnvironment? Names
  dsimp only
  rw [found]
  split
  next stemmed =>
    have notSuffix : env ≠ Text.ofString d.suffix := by
      rintro rfl
      revert stemmed
      cases d <;> decide
    rw [or_iff_left notSuffix, eq_comm]
  next unstemmed =>
    have notWhole : env ≠ Text.ofString d.environment := by
      rintro rfl
      revert unstemmed
      cases d <;> decide
    have stemmed : Text.ofString d.environment = Text.ofString Dialect.environmentStem ++ Text.ofString d.suffix := by
      simp [Text.ofString, Dialect.environment]
    rw [or_iff_right notWhole, stemmed, List.append_cancel_left_eq, eq_comm]

/-- The error of an environment that nobody knows. -/
def strangeEnvironment (env : Text) : LintError :=
  .unknownEnvironment s!"Unknown schema environment, expected one of: {environmentList}" env

theorem dialectOf_eq_ok_iff {env : Text} {d : Dialect} : dialectOf env = .ok d <-> Names env d := by
  rw [← ofEnvironment?_eq_some_iff]
  unfold dialectOf
  cases Dialect.ofEnvironment? env <;> simp

theorem dialectOf_eq_error_iff {env : Text} {e : LintError} :
    dialectOf env = .error e <-> e = strangeEnvironment env ∧ forall d, ¬ Names env d := by
  simp only [← ofEnvironment?_eq_some_iff]
  unfold dialectOf strangeEnvironment
  cases Dialect.ofEnvironment? env <;> simp [eq_comm]

/-! ## Failures -/

/-- Why a violation cannot be told as failures: its schema demands a name that nothing can have, or does not say in a
usable way which members it speaks of. -/
inductive Untold (v : Violation) : Crash -> Prop
  | name {demanded : List Value} {members : Members} {name : Value} {c : Crash}
    (keyword : v.keyword = some (Text.ofString "required")) (limit : v.limit = .array demanded)
    (subject : v.subject = .object members) (member : name ∈ demanded) (impossible : hasMember members name = .error c) :
    Untold v c
  | misshapen {schema : Members} {c : Crash} (keyword : v.keyword = some (Text.ofString "additionalProperties"))
    (whole : v.schema = .object schema) (misshapen : Misshapen schema c) : Untold v c
  | illegible {schema : Members} {c : Crash} (keyword : v.keyword = some (Text.ofString "additionalProperties"))
    (whole : v.schema = .object schema) (illegible : Illegible schema c) : Untold v c

theorem failsFor_isExtra {Q : Crash -> Prop} {schema : Members} (misshapen : forall {c}, Misshapen schema c -> Q c)
    (illegible : forall {c}, Illegible schema c -> Q c) (name : Text) : FailsFor Q (Failure.isExtra schema name) := by
  unfold Failure.isExtra
  -- The first is what remains to be done with the patterns, the second what remains once the properties are known.
  extract_lets unmatched unnamed
  have left : forall patterns, (forall pattern, pattern ∈ patterns -> FailsFor Q (searchesValue pattern name)) ->
      FailsFor Q (unmatched patterns) :=
    fun patterns each => (failsFor_anyWhere each).bind fun _ _ => failsFor_ok _
  have extra : forall named, FailsFor Q (unnamed named) := by
    intro named
    unfold unnamed
    split
    · exact failsFor_ok false
    · split
      next v found =>
        refine FailsFor.bind (fun _ unlisted => misshapen (.list (says_of_get? found (by decide)) unlisted))
          fun patterns lists => left patterns fun pattern member => ?_
        exact fun _ unread => illegible (.listed (says_of_get? found (by decide)) lists member unread)
      next => exact left [] nofun
  split
  next v found =>
    have named : FailsFor Q (holdsName v name) :=
      fun _ nameless => misshapen (.names (says_of_get? found (by decide)) nameless)
    exact named.bind fun named _ => extra named
  next => exact extra false

theorem failsFor_ofViolation (v : Violation) : FailsFor (Untold v) (Failure.ofViolation v) := by
  unfold Failure.ofViolation
  dsimp only
  split
  next keyword =>
    split
    next demanded members limit subject =>
      have missing : FailsFor (Untold v) (Failure.missingNames demanded members) := by
        refine (failsFor_allWhere fun name member => ?_).bind fun _ _ => failsFor_ok _
        refine FailsFor.bind (fun _ impossible => ?_) fun _ _ => failsFor_ok _
        exact .name keyword limit subject member impossible
      exact missing.bind fun _ _ => failsFor_ok _
    · exact failsFor_ok _
    · exact failsFor_ok _
  next =>
    split
    next keyword =>
      split
      next members subject =>
        refine (failsFor_allWhere fun m _ => ?_).bind fun _ _ => failsFor_ok _
        cases whole : v.schema with
        | object schema => exact failsFor_isExtra (.misshapen keyword whole) (.illegible keyword whole) m.1
        | _ => exact failsFor_ok _
      next => exact failsFor_ok _
    next => exact failsFor_ok _

theorem failsFor_ofViolations {Q : Crash -> Prop} {vs : List Violation}
    (each : forall v c, v ∈ vs -> Untold v c -> Q c) : FailsFor Q (Failure.ofViolations vs) := by
  induction vs with
  | nil => exact failsFor_ok []
  | cons v rest ih =>
    refine FailsFor.bind (fun c failed => each v c List.mem_cons_self (failsFor_ofViolation v c failed)) fun _ _ => ?_
    refine (ih fun v c later => each v c (List.mem_cons_of_mem _ later)).bind fun _ _ => failsFor_ok _

/-! ## Validation -/

/-- What a schema is refused with. -/
inductive Refused (schema : Value) (env : Text) : LintError -> Prop
  | strange (unknown : forall d, ¬ Names env d) : Refused schema env (strangeEnvironment env)
  | invalid {d : Dialect} (names : Names env d) (malformed : isWellFormed d schema = .ok false) :
    Refused schema env invalidSchema

/-- Why a validation in a draft breaks: checking the schema crashed, or evaluating it, or telling the violations that were
found. -/
inductive Breaks (disk : Disk) (d : Dialect) (document schema : Value) : Crash -> Prop
  | check {c : Crash} (crashed : isWellFormed d schema = .error c)
    (blame : Blame { retrieval := fun _ => none, formats := true } d (metaSchema d) schema c) :
    Breaks disk d document schema c
  | evaluation {c : Crash} (wellFormed : isWellFormed d schema = .ok true)
    (blame : Blame { retrieval := .ofDisk disk, formats := false } d schema document c) :
    Breaks disk d document schema c
  | telling {v : Violation} {c : Crash} (wellFormed : isWellFormed d schema = .ok true)
    (found : v ∈ (Schema.judge (.ofDisk disk) d schema document).found) (untold : Untold v c) :
    Breaks disk d document schema c

variable {disk : Disk} {document schema : Value} {env : Text}

/-- A document is not judged because the environment is unknown, because checking the schema crashes, or because it
fails. -/
theorem judge_eq_error_iff {failed : Failed} :
    judge disk document schema env = .error failed <->
      (failed = .error (strangeEnvironment env) ∧ forall d, ¬ Names env d) ∨
        exists d, Names env d ∧ ((exists c, failed = .crash c ∧ isWellFormed d schema = .error c) ∨
          (failed = .error invalidSchema ∧ isWellFormed d schema = .ok false)) := by
  unfold judge
  rw [bind_eq_error_iff, mapError_eq_error_iff]
  refine or_congr ?_ (exists_congr fun d => ?_)
  · constructor
    · rintro ⟨e, unknown, rfl⟩
      obtain ⟨rfl, strange⟩ := dialectOf_eq_error_iff.mp unknown
      exact ⟨rfl, strange⟩
    · rintro ⟨rfl, strange⟩
      exact ⟨_, dialectOf_eq_error_iff.mpr ⟨rfl, strange⟩, rfl⟩
  · rw [mapError_eq_ok_iff, dialectOf_eq_ok_iff]
    refine and_congr_right fun _ => ?_
    cases checked : isWellFormed d schema with
    | error c => simp [Except.mapError, bind, Except.bind, eq_comm]
    | ok wellFormed =>
      cases wellFormed <;> simp [Except.mapError, bind, Except.bind, pure, Except.pure, throw, throwThe,
        MonadExceptOf.throw, eq_comm]

theorem judge_eq_ok {o : Outcome} (judged : judge disk document schema env = .ok o) :
    exists d, Names env d ∧ isWellFormed d schema = .ok true ∧ o = Schema.judge (.ofDisk disk) d schema document := by
  rcases exists_draft_of_judge judged with ⟨d, draft, checked, same⟩
  exact ⟨d, dialectOf_eq_ok_iff.mp draft, checked, same⟩

/-- A document that is judged breaks the validation only by what evaluation came to. -/
theorem breaks_of_failuresOf {d : Dialect} {c : Crash} (wellFormed : isWellFormed d schema = .ok true)
    (failed : failuresOf (Schema.judge (.ofDisk disk) d schema document) = .error c) :
    Breaks disk d document schema c := by
  have told : FailsFor (Breaks disk d document schema)
      (Failure.ofViolations (Schema.judge (.ofDisk disk) d schema document).found) :=
    failsFor_ofViolations fun v c found untold => .telling wellFormed found untold
  refine told.bind (fun failures _ => ?_) c failed
  split
  next c crash => exact failsFor_error (.evaluation wellFormed (crashesFor_run _ d .all schema document c crash))
  next => exact failsFor_ok _

/-- A validation is refused exactly if nobody knows the environment, or the schema does not satisfy the schema for schemas
of its draft, and with these two errors only.  If it crashes, something is to blame that checking the schema or evaluating
it came to, or a violation that cannot be told. -/
theorem validate_classified (disk : Disk) (document schema : Value) (env : Text) :
    (forall e, validate disk document schema env = .error (.error e) <-> Refused schema env e) ∧
      forall c, validate disk document schema env = .error (.crash c) ->
        exists d, Names env d ∧ Breaks disk d document schema c := by
  constructor
  · intro e
    unfold validate
    rw [bind_eq_error_iff, judge_eq_error_iff]
    constructor
    · rintro ((⟨same, unknown⟩ | ⟨d, names, ⟨c, same, _⟩ | ⟨same, malformed⟩⟩) | ⟨o, _, failed⟩)
      · cases same
        exact .strange unknown
      · cases same
      · cases same
        exact .invalid names malformed
      · rcases bind_eq_error_iff.mp failed with failed | ⟨_, _, done⟩
        · obtain ⟨c, _, same⟩ := mapError_eq_error_iff.mp failed
          cases same
        · cases done
    · rintro (unknown | ⟨names, malformed⟩)
      · exact .inl (.inl ⟨rfl, unknown⟩)
      · exact .inl (.inr ⟨_, names, .inr ⟨rfl, malformed⟩⟩)
  · intro c crashed
    rcases bind_eq_error_iff.mp crashed with unjudged | ⟨o, judged, failed⟩
    · rcases judge_eq_error_iff.mp unjudged with ⟨same, _⟩ | ⟨d, names, ⟨c', same, failed⟩ | ⟨same, _⟩⟩
      · cases same
      · cases same
        refine ⟨d, names, .check failed ?_⟩
        exact (crashesFor_run _ d .first (metaSchema d) schema).isClean c failed
      · cases same
    · obtain ⟨d, names, wellFormed, rfl⟩ := judge_eq_ok judged
      refine ⟨d, names, ?_⟩
      rcases bind_eq_error_iff.mp failed with failed | ⟨_, _, done⟩
      · obtain ⟨c', failed, same⟩ := mapError_eq_error_iff.mp failed
        cases same
        exact breaks_of_failuresOf wellFormed failed
      · cases done

/-- A schema of one member. -/
def withKeyword (name : String) (limit : Value) : Value :=
  .object [(Text.ofString name, limit)]

/-- A pattern that cannot be read, a reference that leads nowhere, a type that nobody knows and a number too large to be
divided are no errors of the schema. -/
theorem crash_of_brokenSchema :
    crashOf? (validate emptyDisk oneMember (withKeyword "patternProperties" (withKeyword "[" (.object []))) "draft-04") =
        some .pattern ∧
      crashOf? (validate emptyDisk oneMember (withKeyword "$ref" (.string (Text.ofString "#/not/a"))) "draft-04") =
        some .reference ∧
      crashOf? (validate emptyDisk oneMember (withKeyword "type" (.string (Text.ofString "a"))) "draft-03") =
        some .unknownType ∧
      crashOf? (validate emptyDisk (.int (Int.pow 10 400)) (withKeyword "multipleOf" (.float (.ofDecimal false 5 (-1))))
        "draft-04") = some .overflow := by
  decide +kernel

end SchemaLint
