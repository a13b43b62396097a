import SchemaLint.Lint.Single
import SchemaLint.Proofs.Config.Layers

/-!
# Documents that print differently

What becomes of a document depends on its source and on the settings that have nothing to do with the output.  What it
adds to the output depends on those that have.
-/

namespace SchemaLint

open Json (Value)

/-- What a verdict says of a document, whatever is told about it. -/
def Verdict.judgement (v : Verdict) : Option Path × Option LintError :=
  (v.path, v.error)

/-- An output that takes every text, or refuses every text and says why. -/
def Output.IsOrderly (out : Output) : Prop :=
  out ≠ .broken

theorem Output.isOrderly_sound : Output.sound.IsOrderly :=
  nofun

namespace Document

variable {d d' : Document}

/-- The same document, with settings that differ in what is printed at most. -/
structure Akin (d d' : Document) : Prop where
  path : d.path = d'.path
  source : d.source = d'.source
  settings : d.settings.Akin d'.settings

theorem Akin.refl (d : Document) : d.Akin d :=
  ⟨rfl, rfl, ⟨rfl, rfl, rfl, rfl⟩⟩

/-- What a document holds: its text and its value, sorted if its settings say so. -/
def contents (d : Document) : Except LintError (Text × Value) := do
  let t ← d.text
  return (t, ← d.value t)

/-- What a document adds to the output before it is validated: its text laid out anew, if its settings say so and do not
forbid all output, and if it can be read and sorted. -/
def prettyText? (d : Document) : Option String :=
  if d.settings.pretty && !d.settings.quiet then
    d.contents.toOption.map fun (t, _) => Text.toString (Json.layoutText t d.settings.indent)
  else none

/-- What is left to do about a document once it was read. -/
def firstStep (d : Document) : Step :=
  match d.contents with
  | .error e => .ended (d.fail e)
  | .ok (_, v) => d.reference?.elim (.ended d.pass) (.waiting v)

/-- What a document adds to the output after it was judged: what is told about the error, unless its settings forbid it. -/
def report? (d : Document) (v : Verdict) : Option String :=
  v.error.bind d.messageOf

/-! ## What is to be said of a document -/

/-- A text can be had of a document: its source is that text, which is JSON, and can be sorted if it is to be. -/
def Reads (d : Document) (t : Text) : Prop :=
  d.text = .ok t ∧ exists v, Json.read .strict t = .ok v ∧ (d.settings.sort = true -> exists w, v.sorted? = some w)

/-- What a document prints before it is validated: its text laid out anew just if that is wanted, the document is not
quiet, and it can be read. -/
def Prints (d : Document) (printed : Option String) : Prop :=
  forall text, printed = some text <-> d.settings.pretty = true ∧ d.settings.quiet = false ∧
    exists t, d.Reads t ∧ text = Text.toString (Json.layoutText t d.settings.indent)

/-- What is reported on a document in the end: its error just if it has one and is not quiet.  Violations make a report of
their own, and every other error stands behind the label. -/
def Reports (d : Document) (v : Verdict) (reported : Option String) : Prop :=
  forall text, reported = some text <-> d.settings.quiet = false ∧ exists e, v.error = some e ∧
    ((e.kind = .violations ∧ text = e.text) ∨ (e.kind ≠ .violations ∧ text = d.label ++ " " ++ e.message))

/-- A value can be had of a text just if the text is JSON, and can be sorted if it is to be. -/
theorem exists_value_iff {t : Text} : (exists v, d.value t = .ok v) <->
    exists v, Json.read .strict t = .ok v ∧ (d.settings.sort = true -> exists w, v.sorted? = some w) := by
  unfold Document.value
  cases Json.read .strict t with
  | error e => simp [Except.mapError, bind, Except.bind]
  | ok v =>
    cases d.settings.sort with
    | false => simp [Except.mapError, bind, Except.bind, pure, Except.pure]
    | true => cases sorts : v.sorted? <;> simp [sorts, Except.mapError, bind, Except.bind, pure, Except.pure, throw,
        throwThe, MonadExceptOf.throw]

theorem reads_iff {t : Text} : d.Reads t <-> exists v, d.contents = .ok (t, v) := by
  unfold Reads contents
  rw [← exists_value_iff]
  constructor
  · rintro ⟨text, v, value⟩
    exact ⟨v, bind_eq_ok_iff.mpr ⟨t, text, bind_eq_ok_iff.mpr ⟨v, value, rfl⟩⟩⟩
  · rintro ⟨v, done⟩
    obtain ⟨t', text, done⟩ := bind_eq_ok_iff.mp done
    obtain ⟨v', value, same⟩ := bind_eq_ok_iff.mp done
    cases same
    exact ⟨text, v, value⟩

theorem prints_prettyText? (d : Document) : d.Prints d.prettyText? := by
  intro text
  simp only [reads_iff]
  unfold prettyText?
  cases d.settings.pretty with
  | false => simp
  | true =>
    cases d.settings.quiet with
    | true => simp
    | false =>
      cases d.contents with
      | error e => simp [Except.toOption]
      | ok both =>
        obtain ⟨t, v⟩ := both
        simp [Except.toOption, eq_comm]

theorem reports_report? (d : Document) (v : Verdict) : d.Reports v (d.report? v) := by
  intro text
  unfold report?
  cases v.error with
  | none => simp
  | some e =>
    rw [Option.bind_some, messageOf]
    cases d.settings.quiet with
    | true => simp
    | false =>
      rw [if_neg Bool.false_ne_true]
      by_cases violations : e.kind = .violations
      · rw [if_pos violations]
        constructor
        · rintro ⟨⟩
          exact ⟨rfl, e, rfl, .inl ⟨violations, rfl⟩⟩
        · rintro ⟨-, _, ⟨⟩, ⟨-, rfl⟩ | ⟨other, -⟩⟩
          · rfl
          · exact absurd violations other
      · rw [if_neg violations]
        constructor
        · rintro ⟨⟩
          exact ⟨rfl, e, rfl, .inr ⟨violations, rfl⟩⟩
        · rintro ⟨-, _, ⟨⟩, ⟨same, -⟩ | ⟨-, rfl⟩⟩
          · exact absurd same violations
          · rfl

/-- A verdict is one on a document and tells what is to be told about it. -/
structure Tells (d : Document) (v : Verdict) : Prop where
  path : v.path = d.path
  message : v.message = d.report? v

theorem tells_pass (d : Document) : d.Tells d.pass :=
  ⟨rfl, rfl⟩

theorem tells_fail (d : Document) (e : LintError) : d.Tells (d.fail e) :=
  ⟨rfl, rfl⟩

/-! ## Before the schema is called for -/

theorem start_eq (d : Document) (out : Output) : d.start out =
    match d.contents with
    | .error e => .ok (.nothing, .ended (d.fail e))
    | .ok (t, v) => do
      let said ← d.print out t
      match d.reference? with
      | some reference => return (said, .waiting v reference)
      | none => return (said, .ended d.pass) :=
  rfl

/-- An orderly output has no part in what is left to do about a document. -/
theorem start_of_isOrderly {out : Output} (orderly : out.IsOrderly) (d : Document) :
    exists said, d.start out = .ok (said, d.firstStep) := by
  have prints : forall t, exists said, d.print out t = .ok said := by
    intro t
    unfold print
    split
    · cases out with
      | sound => exact ⟨_, rfl⟩
      | refusing reason => exact ⟨_, rfl⟩
      | broken => exact absurd rfl orderly
    · exact ⟨_, rfl⟩
  rw [start_eq, firstStep]
  cases d.contents with
  | error e => exact ⟨.nothing, rfl⟩
  | ok both =>
    obtain ⟨t, v⟩ := both
    obtain ⟨said, same⟩ := prints t
    refine ⟨said, ?_⟩
    dsimp only
    rw [same]
    cases d.reference? <;> rfl

/-- On a sound output a document prints its text laid out anew, or nothing. -/
theorem start_sound (d : Document) :
    d.start .sound = .ok ({ printed := d.prettyText?.toList, warnings := [] }, d.firstStep) := by
  rw [start_eq, firstStep, prettyText?]
  cases d.contents with
  | error e => cases d.settings.pretty && !d.settings.quiet <;> rfl
  | ok both =>
    unfold print
    cases d.settings.pretty && !d.settings.quiet <;> cases d.reference? <;> rfl

theorem Akin.label (akin : d.Akin d') : d.label = d'.label := by
  unfold Document.label
  rw [akin.path]

theorem Akin.contents (akin : d.Akin d') : d.contents = d'.contents := by
  have text : d.text = d'.text := by
    unfold Document.text
    rw [akin.source]
  have value : d.value = d'.value := by
    funext t
    unfold Document.value
    rw [akin.settings.sort]
  unfold Document.contents
  rw [text, value]

theorem Akin.reference? (akin : d.Akin d') : d.reference? = d'.reference? := by
  unfold Document.reference?
  rw [akin.settings.schema]

theorem Akin.judgement_pass (akin : d.Akin d') : d.pass.judgement = d'.pass.judgement :=
  congrArg (·, none) akin.path

theorem Akin.judgement_fail (akin : d.Akin d') (e : LintError) : (d.fail e).judgement = (d'.fail e).judgement :=
  congrArg (·, some e) akin.path

/-- The same is left to do about a document, and what has been told about it fits. -/
inductive Step.Akin (d d' : Document) : Step -> Step -> Prop
  | ended {v v' : Verdict} (tells : d.Tells v) (tells' : d'.Tells v') (same : v.judgement = v'.judgement) :
    Akin d d' (.ended v) (.ended v')
  | waiting (v : Value) (reference : String) : Akin d d' (.waiting v reference) (.waiting v reference)

theorem Akin.firstStep (akin : d.Akin d') : Step.Akin d d' d.firstStep d'.firstStep := by
  unfold Document.firstStep
  rw [akin.contents, akin.reference?]
  cases d'.contents with
  | error e => exact .ended (tells_fail d e) (tells_fail d' e) (akin.judgement_fail e)
  | ok both =>
    cases d'.reference? with
    | none => exact .ended (tells_pass d) (tells_pass d') akin.judgement_pass
    | some reference => exact .waiting both.2 reference

/-! ## Once the schema is there -/

theorem tells_of_finish {disk : Disk} {v : Value} {reference : String} {schema : Except Failed Value} {verdict : Verdict}
    (finished : d.finish disk v reference schema = .ok verdict) : d.Tells verdict := by
  unfold finish judged at finished
  split at finished
  · cases finished
  · cases finished
    exact tells_fail d _
  · cases finished
    exact tells_pass d
  · cases finished
    exact tells_fail d _

/-- What is printed has no part in how a document is judged. -/
theorem Akin.finish (akin : d.Akin d') (disk : Disk) (v : Value) (reference : String) (schema : Except Failed Value) :
    (d.finish disk v reference schema).map Verdict.judgement =
      (d'.finish disk v reference schema).map Verdict.judgement := by
  unfold Document.finish
  rw [akin.settings.env]
  unfold judged
  rw [akin.label]
  split
  · rfl
  · exact congrArg Except.ok (akin.judgement_fail _)
  · exact congrArg Except.ok akin.judgement_pass
  · exact congrArg Except.ok (akin.judgement_fail _)

/-- A document that is linted on a sound output prints its text laid out anew, or nothing. -/
theorem printed_lint (d : Document) (s : Sources) (r : Resolver) (w : World) :
    (d.lint .sound s r w).said.printed = d.prettyText?.toList := by
  unfold Document.lint
  rw [d.start_sound]
  cases d.firstStep <;> rfl

/-- The verdict of a document that is linted tells what is to be told. -/
theorem tells_of_lint {s : Sources} {r : Resolver} {w : World} {verdict : Verdict}
    (ended : (d.lint .sound s r w).outcome = .ok verdict) : d.Tells verdict := by
  have steps : Document.Step.Akin d d d.firstStep d.firstStep := (Akin.refl d).firstStep
  unfold Document.lint at ended
  rw [d.start_sound] at ended
  generalize d.firstStep = step at ended steps
  cases steps with
  | ended tells _ _ =>
    cases ended
    exact tells
  | waiting v reference =>
    rcases resolved : r.resolve s w reference with ⟨schema, r', w'⟩
    dsimp only at ended
    rw [resolved] at ended
    exact tells_of_finish (mapError_eq_ok_iff.mp ended)

/-- Neither the settings of the output nor an output that refuses a text have a part in the verdict on a document. -/
theorem Akin.lint (akin : d.Akin d') {out out' : Output} (orderly : out.IsOrderly) (orderly' : out'.IsOrderly)
    (s : Sources) (r : Resolver) (w : World) :
    (d.lint out s r w).outcome.map Verdict.judgement = (d'.lint out' s r w).outcome.map Verdict.judgement := by
  obtain ⟨said, started⟩ := start_of_isOrderly orderly d
  obtain ⟨said', started'⟩ := start_of_isOrderly orderly' d'
  have steps : Step.Akin d d' d.firstStep d'.firstStep := akin.firstStep
  unfold Document.lint
  rw [started, started']
  generalize d.firstStep = step at steps ⊢
  generalize d'.firstStep = step' at steps ⊢
  cases steps with
  | ended tells tells' same => exact congrArg Except.ok same
  | waiting v reference => exact map_mapError_congr (akin.finish _ v reference _)

end Document

end SchemaLint
