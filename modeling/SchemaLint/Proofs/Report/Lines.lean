import SchemaLint.Lint.Document
import SchemaLint.Proofs.Report.Limits
import SchemaLint.Proofs.Text.Split

/-!
# Reports line by line

A report is a header and a line for each message, as long as no message has a line feed itself.  A message shows the
names on the way to a place and, where it shares its sentence with the rules that have none of their own, the
description of a schema, and it shows them as they stand.  So a line feed in one of them begins a line that no message
stands behind, and what follows it there is read as if it was a message or a part of one.  Nothing else brings a line
feed into a report: neither the rules nor their limits do.
-/

namespace SchemaLint

open Json Schema

/-! ## Lines -/

/-- The lines of a text. -/
def lines (s : String) : List String :=
  (splitChars '\n' s.toList).map String.ofList

theorem lines_of_not_mem {s : String} (plain : '\n' ∉ s.toList) : lines s = [s] := by
  rw [lines, splitChars_of_not_mem plain, List.map_singleton, String.ofList_toList]

/-- Lines that are put together stay as they are, and what is split itself stays split. -/
theorem lines_intercalate {texts : List String} (nonempty : texts ≠ []) :
    lines (String.intercalate "\n" texts) = texts.flatMap lines := by
  have chars : texts.map String.toList ≠ [] := fun empty => nonempty (List.map_eq_nil_iff.mp empty)
  have separator : "\n".toList = ['\n'] := by decide
  rw [lines, String.toList_intercalate, separator, splitChars_intercalate '\n' chars, List.map_flatMap, List.flatMap_map]
  rfl

theorem length_lines (s : String) : (lines s).length = s.toList.count '\n' + 1 := by
  rw [lines, List.length_map, length_splitChars]

/-- Each line feed of the texts makes one line more. -/
theorem length_flatMap_lines (texts : List String) :
    (texts.flatMap lines).length = texts.length + (texts.flatMap String.toList).count '\n' := by
  induction texts with
  | nil => rfl
  | cons first rest ih =>
    rw [List.flatMap_cons, List.flatMap_cons, List.length_append, List.count_append, List.length_cons, length_lines, ih]
    omega

/-- Texts are lines just if none of them has a line feed. -/
theorem flatMap_lines_eq_self_iff {texts : List String} :
    texts.flatMap lines = texts <-> forall s, s ∈ texts -> '\n' ∉ s.toList := by
  constructor
  · intro same s member broken
    have length := length_flatMap_lines texts
    rw [same] at length
    have absent : '\n' ∉ texts.flatMap String.toList := List.count_eq_zero.mp (by omega)
    exact absent (List.mem_flatMap.mpr ⟨s, member, broken⟩)
  · intro plain
    induction texts with
    | nil => rfl
    | cons first rest ih =>
      rw [List.flatMap_cons, lines_of_not_mem (plain first List.mem_cons_self),
        ih fun s member => plain s (List.mem_cons_of_mem first member)]
      rfl

/-! ## Messages -/

namespace Failure

/-- A message shows a line feed in a name on the way to the place or in the description of the schema. -/
def Breaks (way : List PathPart) (f : Failure) : Prop :=
  (exists name, PathPart.key name ∈ way ∧ CodePoint.scalar '\n' ∈ name) ∨ f.sentence? = none ∧ '\n' ∈ f.description.toList

/-- The field has a line feed just if a name on the way has one. -/
theorem mem_fieldOf_iff (way : List PathPart) : CodePoint.scalar '\n' ∈ fieldOf (way.map stepText) <->
    exists name, PathPart.key name ∈ way ∧ CodePoint.scalar '\n' ∈ name := by
  have dotted : CodePoint.scalar '\n' ∈ fieldOf (way.map stepText) <->
      CodePoint.scalar '\n' ∈ (Text.ofString ".").intercalate (way.map stepText) := by
    unfold fieldOf
    split
    next empty =>
      rw [empty]
      exact iff_of_false (by decide) List.not_mem_nil
    next => rfl
  rw [dotted, mem_intercalate_iff (by decide)]
  constructor
  · rintro ⟨text, inside, feed⟩
    obtain ⟨part, among, rfl⟩ := List.mem_map.mp inside
    cases part with
    | key name => exact ⟨name, among, feed⟩
    | index i => exact absurd (isDigit_of_mem_stepText feed) (by decide)
  · rintro ⟨name, among, feed⟩
    exact ⟨name, List.mem_map.mpr ⟨.key name, among, rfl⟩, feed⟩

/-- The sentence that the other rules share shows the description, and everything else so that no line ends in it. -/
theorem mem_otherSentence_iff {f : Failure} (plain : f.IsPlain) :
    '\n' ∈ f.otherSentence.toList <-> '\n' ∈ f.description.toList := by
  have rule : '\n' ∉ (Text.toString f.rule).toList := mt Text.mem_toString_iff.mp plain.rule
  have limit : '\n' ∉ (limitText f.limit).toList := (areVisible_limitText f.limit).no_lineFeed
  have frame : '\n' ∉ "does not meet rule \"".toList ∧ '\n' ∉ "=".toList ∧ '\n' ∉ "\" - ".toList := by decide
  change '\n' ∈ ("does not meet rule \"" ++ Text.toString f.rule ++ "=" ++ limitText f.limit ++ "\" - " ++
    f.description).toList <-> _
  simp only [String.toList_append, List.mem_append, rule, limit, frame.1, frame.2.1, frame.2.2, false_or]

/-- Of what a message shows only the field and the description can break its line. -/
theorem mem_message_iff {f : Failure} (plain : f.IsPlain) : '\n' ∈ f.message.toList <->
    CodePoint.scalar '\n' ∈ f.field ∨ f.sentence? = none ∧ '\n' ∈ f.description.toList := by
  have sentence : '\n' ∈ (f.sentence?.getD f.otherSentence).toList <->
      f.sentence? = none ∧ '\n' ∈ f.description.toList := by
    cases told : f.sentence? with
    | none =>
      rw [Option.getD_none, mem_otherSentence_iff plain]
      exact (and_iff_right rfl).symm
    | some s => exact iff_of_false (plain.sentence s told) nofun
  have frame : '\n' ∉ "\"".toList ∧ '\n' ∉ "\" ".toList := by decide
  change '\n' ∈ ("\"" ++ Text.toString f.field ++ "\" " ++ f.sentence?.getD f.otherSentence).toList <-> _
  simp only [String.toList_append, List.mem_append, frame.1, frame.2, false_or, or_false, Text.mem_toString_iff, sentence]

theorem isPlain_of_tells {v : Violation} {way : List PathPart} {f : Failure} (plain : v.IsPlain) (tells : v.Tells way f) :
    f.IsPlain := by
  cases tells with
  | unset => exact isPlain_of_rule "required" (by decide) rfl
  | missing => exact isPlain_of_rule "required" (by decide) rfl
  | extra => exact isPlain_of_rule "additional" (by decide) rfl
  | whole => exact plain

/-- The message of what a violation says about a place. -/
theorem mem_message_iff_of_tells {v : Violation} {way : List PathPart} {f : Failure} (plain : v.IsPlain)
    (tells : v.Tells way f) : '\n' ∈ f.message.toList <-> f.Breaks way := by
  rw [mem_message_iff (isPlain_of_tells plain tells), field_of_tells tells, mem_fieldOf_iff, Breaks]

end Failure

/-! ## Reports -/

/-- The first line of a report. -/
def header (label uri : String) : String :=
  s!"\"{label}\" fails against schema \"{uri}\""

theorem not_mem_header {label uri : String} (plain : '\n' ∉ label.toList) (plain' : '\n' ∉ uri.toList) :
    '\n' ∉ (header label uri).toList := by
  have frame : '\n' ∉ "\"".toList ∧ '\n' ∉ "\" fails against schema \"".toList := by decide
  change '\n' ∉ ("\"" ++ label ++ "\" fails against schema \"" ++ uri ++ "\"").toList
  simp only [String.toList_append, List.mem_append, plain, plain', frame.1, frame.2, or_false, not_false_eq_true]

theorem mem_tabbed_iff (message : String) : '\n' ∈ ("\t" ++ message).toList <-> '\n' ∈ message.toList := by
  rw [String.toList_append, List.mem_append]
  exact or_iff_right (by decide)

theorem count_tabbed (messages : List String) :
    ((messages.map fun message => "\t" ++ message).flatMap String.toList).count '\n' =
      (messages.flatMap String.toList).count '\n' := by
  have each : forall message : String, ("\t" ++ message).toList.count '\n' = message.toList.count '\n' := by
    intro message
    rw [String.toList_append, List.count_append]
    exact Nat.zero_add _
  rw [List.flatMap_map, List.count_flatMap, List.count_flatMap]
  exact congrArg List.sum (List.map_congr_left fun message _ => each message)

/-- A header on one line stays the first line of the report, whatever the messages are. -/
theorem lines_report (fs : Findings) {label uri : String} (plain : '\n' ∉ label.toList) (plain' : '\n' ∉ uri.toList) :
    lines (report label uri fs.messages) =
      header label uri :: (fs.messages.map fun message => "\t" ++ message).flatMap lines := by
  have nonempty : forall message, message ∈ fs.messages -> message ≠ "" := by
    intro message member
    obtain ⟨f, -, rfl⟩ := List.mem_map.mp member
    exact Findings.message_ne_empty f
  have first : lines (header label uri) = [header label uri] := lines_of_not_mem (not_mem_header plain plain')
  rw [Findings.report_of_nonempty label uri nonempty, lines_intercalate (List.cons_ne_nil _ _), List.flatMap_cons]
  exact congrArg (· ++ _) first

namespace Findings

/-- How a report of findings is read line by line. -/
structure Lined (fs : Findings) (vs : List Violation) (header text : String) : Prop where
  /-- The header stands on a line of its own, and behind it each message begins with a tab on a new line. -/
  whole : lines text = header :: fs.messages.flatMap fun message => lines ("\t" ++ message)
  /-- There is a line for the header and one for each message, and one more for each line feed of the messages. -/
  length : (lines text).length = 1 + fs.messages.length + (fs.messages.flatMap String.toList).count '\n'
  /-- The messages come from what violations say about places. -/
  told : forall f, f ∈ fs.toList -> exists v way, v ∈ vs ∧ v.Tells way f
  /-- A message has a line feed just if it shows one as it stands. -/
  broken : forall v way f, v ∈ vs -> v.Tells way f -> ('\n' ∈ f.message.toList <-> f.Breaks way)
  /-- Each message stands on one line just if nothing that is told breaks it. -/
  single : (lines text = header :: fs.messages.map fun message => "\t" ++ message) <->
    forall v way f, v ∈ vs -> v.Tells way f -> f ∈ fs.toList -> ¬ f.Breaks way

/-- What findings keep are failures that were found. -/
theorem mem_of_mem_toList {failures : List Failure} {f : Failure} (member : f ∈ (ofFailures failures).toList) :
    f ∈ failures := by
  rw [toList, List.mem_flatMap] at member
  obtain ⟨⟨field, kept⟩, inside, member⟩ := member
  obtain ⟨⟨rule, g⟩, holds, rfl⟩ := List.mem_map.mp member
  exact List.mem_of_find?_eq_some (((groups_ofFailures failures).first field rule g).mp ⟨kept, inside, holds⟩)

theorem exists_tells {vs : List Violation} {failures : List Failure}
    (converted : Failure.ofViolations vs = .ok failures) {f : Failure} (member : f ∈ (ofFailures failures).toList) :
    exists v way, v ∈ vs ∧ v.Tells way f := by
  obtain ⟨v, own, inside, come, member⟩ := ((Failure.mem_ofViolations converted).2 f).mp (mem_of_mem_toList member)
  obtain ⟨way, tells⟩ := (Failure.mem_ofViolation_iff come f).mp member
  exact ⟨v, way, inside, tells⟩

theorem lined_ofFailures {vs : List Violation} {failures : List Failure} {label uri : String}
    (plain : forall v, v ∈ vs -> v.IsPlain) (converted : Failure.ofViolations vs = .ok failures)
    (oneLine : '\n' ∉ label.toList) (oneLine' : '\n' ∉ uri.toList) :
    (ofFailures failures).Lined vs (header label uri) (report label uri (ofFailures failures).messages) := by
  have split := lines_report (ofFailures failures) oneLine oneLine'
  have broken : forall v way f, v ∈ vs -> v.Tells way f -> ('\n' ∈ f.message.toList <-> f.Breaks way) :=
    fun v way f inside tells => Failure.mem_message_iff_of_tells (plain v inside) tells
  refine ⟨?whole, ?length, fun f => exists_tells converted, broken, ?single⟩
  case whole => rw [split, List.flatMap_map]
  case length =>
    rw [split, List.length_cons, length_flatMap_lines, List.length_map, count_tabbed]
    omega
  case single =>
    rw [split, List.cons_inj_right, flatMap_lines_eq_self_iff]
    constructor
    · intro plain v way f inside tells member breaks
      have among : "\t" ++ f.message ∈ (ofFailures failures).messages.map fun message => "\t" ++ message :=
        List.mem_map_of_mem (List.mem_map_of_mem member)
      exact plain _ among ((mem_tabbed_iff _).mpr ((broken v way f inside tells).mpr breaks))
    · intro never s member feed
      obtain ⟨message, among, rfl⟩ := List.mem_map.mp member
      obtain ⟨f, kept, rfl⟩ := List.mem_map.mp among
      obtain ⟨v, way, inside, tells⟩ := exists_tells converted kept
      exact never v way f inside tells kept ((broken v way f inside tells).mp ((mem_tabbed_iff _).mp feed))

end Findings

theorem Document.finish_of_validate {disk : Disk} {d : Document} {document schema : Value} {reference : String}
    {fs : Findings} (validated : validate disk document schema d.settings.env = .ok fs) (fails : fs ≠ []) :
    d.finish disk document reference (.ok schema) =
      .ok (d.fail (.violations (report d.label reference fs.messages) fs.messages)) := by
  rw [finish, Except.bind, validated]
  cases fs with
  | nil => exact absurd rfl fails
  | cons entry rest => rfl

/-- The report on a document that fails is a header and a line for each message just if no name on the way to a place and
no description that is shown has a line feed.  Each line feed of the messages makes one line more, and there are no
others in them: rules and limits bring none. -/
theorem lined_of_finish {disk : Disk} {d : Document} {document schema : Value} {reference : String} {fs : Findings}
    (validated : validate disk document schema d.settings.env = .ok fs) (fails : fs ≠ [])
    (oneLine : '\n' ∉ d.label.toList) (oneLine' : '\n' ∉ reference.toList) :
    exists text o, d.finish disk document reference (.ok schema) = .ok (d.fail (.violations text fs.messages)) ∧
      judge disk document schema d.settings.env = .ok o ∧ o.crash = none ∧
      fs.Lined o.found (header d.label reference) text := by
  obtain ⟨o, failures, judged, ended, converted, rfl⟩ := exists_judge_of_validate validated
  obtain ⟨draft, -, -, rfl⟩ := exists_draft_of_judge judged
  have plain := isPlain_run { retrieval := .ofDisk disk, formats := false } draft .all schema document
  exact ⟨_, _, Document.finish_of_validate validated fails, judged, ended,
    Findings.lined_ofFailures plain converted oneLine oneLine'⟩

/-! ### Reports that break and reports that do not -/

/-- A text on standard input. -/
def onInput (source : String) : Document where
  path := none
  source := .text (Text.ofString source)
  settings := { Settings.defaults with schema := some "members", env := "draft-07" }

/-- A schema that demands members. -/
def demanding (names : List String) : Value :=
  .object [(Text.ofString "required", .array (names.map fun name => .string (Text.ofString name)))]

/-- Two members that are missing are told on two lines. -/
theorem lined_plainNames : exists fs text o,
    validate emptyDisk (.object []) (demanding ["x", "admin"]) (onInput "{}").settings.env = .ok fs ∧
    (onInput "{}").finish emptyDisk (.object []) "members" (.ok (demanding ["x", "admin"])) =
      .ok ((onInput "{}").fail (.violations text fs.messages)) ∧
    judge emptyDisk (.object []) (demanding ["x", "admin"]) (onInput "{}").settings.env = .ok o ∧
    fs.Lined o.found (header "<stdin>" "members") text ∧
    lines text =
      [header "<stdin>" "members", "\t\"x\" is required but unset", "\t\"admin\" is required but unset"] := by
  have evaluated : (validate emptyDisk (.object []) (demanding ["x", "admin"]) (onInput "{}").settings.env).toOption.map
      Findings.messages = some ["\"x\" is required but unset", "\"admin\" is required but unset"] := by
    decide +kernel
  obtain ⟨fs, validated, messages⟩ := Option.map_eq_some_iff.mp evaluated
  rw [toOption_eq_some_iff] at validated
  have fails : fs ≠ [] := by
    rintro rfl
    cases messages
  obtain ⟨text, o, finished, judged, -, lined⟩ := lined_of_finish validated fails (by decide)
    (show '\n' ∉ "members".toList by decide)
  refine ⟨fs, text, o, validated, finished, judged, lined, ?_⟩
  rw [lined.whole, messages]
  decide +kernel

/-- Behind the header of the report on what standard input holds stand more lines than there are messages. -/
def Forges (source : String) (schema : Value) (told : List String) : Prop :=
  let d := onInput source
  exists t document fs text, d.text = .ok t ∧ d.value t = .ok document ∧
    validate emptyDisk document schema d.settings.env = .ok fs ∧
    d.finish emptyDisk document "members" (.ok schema) = .ok (d.fail (.violations text fs.messages)) ∧
    lines text = header "<stdin>" "members" :: told ∧ fs.messages.length < told.length

theorem forges_of_message {source : String} {document schema : Value} {message : String} {told : List String}
    (read : (onInput source).value (Text.ofString source) = .ok document)
    (evaluated : (validate emptyDisk document schema (onInput source).settings.env).toOption.map Findings.messages =
      some [message])
    (split : lines (report "<stdin>" "members" [message]) = header "<stdin>" "members" :: told)
    (more : 1 < told.length) : Forges source schema told := by
  obtain ⟨fs, validated, messages⟩ := Option.map_eq_some_iff.mp evaluated
  rw [toOption_eq_some_iff] at validated
  have fails : fs ≠ [] := by
    rintro rfl
    cases messages
  refine ⟨_, document, fs, _, rfl, read, validated, Document.finish_of_validate validated fails, ?_, ?_⟩
  · rw [messages]
    exact split
  · rw [messages]
    exact more

/-- One member that is missing is told like two if its name is the end of one message and the beginning of another, and
so is a number that is too small if the description of its schema is. -/
theorem lines_forged :
    Forges "{}" (demanding ["x\" is required but unset\n\t\"admin"])
      ["\t\"x\" is required but unset", "\t\"admin\" is required but unset"] ∧
    Forges "1"
      (.object
        [(Text.ofString "minimum", .int 2),
          (Text.ofString "description", .string (Text.ofString "positive\n\t\"admin\" is required but unset"))])
      ["\t\"(root)\" does not meet rule \"minimum=2\" - positive", "\t\"admin\" is required but unset"] := by
  constructor
  · refine forges_of_message (by rfl)
      (show _ = some ["\"x\" is required but unset\n\t\"admin\" is required but unset"] from ?_) ?_ (by decide)
    all_goals decide +kernel
  · refine forges_of_message (by rfl)
      (show _ = some
          ["\"(root)\" does not meet rule \"minimum=2\" - positive\n\t\"admin\" is required but unset"] from ?_)
      ?_ (by decide)
    all_goals decide +kernel

end SchemaLint
