import Mathlib.Data.List.Induction
import SchemaLint.Proofs.Canonical
import SchemaLint.Report.Message

/-!
# How failures are grouped and told

Failures come one after the other and are sorted into fields and rules, where the first failure of a rule of a field is
kept and later ones are dropped.  The order that results is not that of discovery: a field stands where its first
failure was found, and all rules of the field stand there, each in the order of its own first failure.

The law is an invariant of adding one failure behind those that were added before.  It determines the findings
altogether: which fields and rules there are, in which order, and which failure each of them holds.  What is reported
follows from it, since every failure is told by a sentence that begins with its field.
-/

namespace SchemaLint

open Json Schema

/-! ## First occurrences -/

section FirstOccurrences

variable {α : Type} [BEq α] [LawfulBEq α]

theorem eraseDups_concat (xs : List α) (x : α) :
    (xs ++ [x]).eraseDups = if x ∈ xs then xs.eraseDups else xs.eraseDups ++ [x] := by
  rw [List.eraseDups_append]
  by_cases seen : x ∈ xs
  · simp [List.removeAll, seen]
  · simp [List.removeAll, seen, List.eraseDups_cons]

theorem nodup_eraseDups (xs : List α) : xs.eraseDups.Nodup := by
  -- Induction from the end: what is put last was not there before.
  induction xs using List.reverseRecOn with
  | nil => exact List.nodup_nil
  | append_singleton xs x ih =>
      rw [eraseDups_concat]
      split
      next => exact ih
      next unseen =>
        apply List.nodup_append.mpr
        refine ⟨ih, List.nodup_singleton x, ?_⟩
        intro y member z isLast same
        rw [List.mem_singleton.mp isLast] at same
        rw [same] at member
        exact unseen (List.mem_eraseDups.mp member)

end FirstOccurrences

namespace Findings

/-- A failure is kept for a rule of a field. -/
def Holds (fs : Findings) (field rule : Text) (f : Failure) : Prop :=
  exists rules, (field, rules) ∈ fs ∧ (rule, f) ∈ rules

/-- What findings keep of the failures that were found, in the order in which they were found. -/
structure Groups (failures : List Failure) (fs : Findings) : Prop where
  /-- Fields stand in the order of their first failures. -/
  fields : fs.map Prod.fst = (failures.map Failure.field).eraseDups
  /-- The rules of a field stand in the order of their first failures of that field. -/
  rules : forall field kept, (field, kept) ∈ fs ->
    kept.map Prod.fst = ((failures.filter fun f => f.field = field).map Failure.rule).eraseDups
  /-- For a rule of a field the first of its failures is kept, and nothing else is. -/
  first : forall field rule f, fs.Holds field rule f <->
    failures.find? (fun f => f.field = field ∧ f.rule = rule) = some f
  /-- There is a failure for a rule of a field just if one was found. -/
  found : forall field rule, (exists f, fs.Holds field rule f) <->
    exists f, f ∈ failures ∧ f.field = field ∧ f.rule = rule
  /-- A failure is kept for its own field and its own rule. -/
  own : forall field rule f, fs.Holds field rule f -> f.field = field ∧ f.rule = rule
  /-- No field stands without a rule. -/
  nonempty : forall field kept, (field, kept) ∈ fs -> kept ≠ []

/-! ## Adding a failure -/

theorem rules_addRule (f : Failure) (kept : List (Text × Failure)) :
    (addRule f kept).map Prod.fst =
      if f.rule ∈ kept.map Prod.fst then kept.map Prod.fst else kept.map Prod.fst ++ [f.rule] := by
  induction kept with
  | nil => simp [addRule]
  | cons entry rest ih =>
      rw [addRule]
      by_cases same : entry.1 = f.rule
      · simp [same]
      · rw [if_neg same, List.map_cons, ih, List.map_cons]
        have other : f.rule ≠ entry.1 := fun eq => same eq.symm
        by_cases later : f.rule ∈ rest.map Prod.fst
        · rw [if_pos later, if_pos (List.mem_cons_of_mem _ later)]
        · rw [if_neg later, if_neg (fun member => (List.mem_cons.mp member).elim other later)]
          rfl

theorem mem_addRule {f : Failure} {kept : List (Text × Failure)} {entry : Text × Failure}
    (member : entry ∈ addRule f kept) :
    entry ∈ kept ∨ f.rule ∉ kept.map Prod.fst ∧ entry = (f.rule, f) := by
  induction kept with
  | nil => exact .inr ⟨List.not_mem_nil, List.mem_singleton.mp member⟩
  | cons head rest ih =>
      rw [addRule] at member
      split at member
      next => exact .inl member
      next other =>
        rcases List.mem_cons.mp member with rfl | later
        · exact .inl List.mem_cons_self
        · rcases ih later with old | ⟨unseen, new⟩
          · exact .inl (List.mem_cons_of_mem _ old)
          · refine .inr ⟨?_, new⟩
            intro seen
            rcases List.mem_cons.mp seen with same | inside
            · exact other same.symm
            · exact unseen inside

theorem fields_add (f : Failure) (fs : Findings) :
    (fs.add f).map Prod.fst =
      if f.field ∈ fs.map Prod.fst then fs.map Prod.fst else fs.map Prod.fst ++ [f.field] := by
  induction fs with
  | nil => simp [add]
  | cons entry rest ih =>
      rw [add]
      by_cases same : entry.1 = f.field
      · simp [same]
      · rw [if_neg same, List.map_cons, ih, List.map_cons]
        have other : f.field ≠ entry.1 := fun eq => same eq.symm
        by_cases later : f.field ∈ rest.map Prod.fst
        · rw [if_pos later, if_pos (List.mem_cons_of_mem _ later)]
        · rw [if_neg later, if_neg (fun member => (List.mem_cons.mp member).elim other later)]
          rfl

/-- Where the fields are distinct, adding a failure changes the rules of its own field alone. -/
theorem mem_add {f : Failure} {fs : Findings} (distinct : (fs.map Prod.fst).Nodup) {field : Text}
    {kept : List (Text × Failure)} (member : (field, kept) ∈ fs.add f) :
    field ≠ f.field ∧ (field, kept) ∈ fs ∨
      field = f.field ∧ (exists old, (field, old) ∈ fs ∧ kept = addRule f old) ∨
      field = f.field ∧ f.field ∉ fs.map Prod.fst ∧ kept = [(f.rule, f)] := by
  induction fs with
  | nil =>
      cases List.mem_singleton.mp member
      exact .inr (.inr ⟨rfl, List.not_mem_nil, rfl⟩)
  | cons entry rest ih =>
      rcases List.nodup_cons.mp distinct with ⟨once, distinct'⟩
      rw [add] at member
      split at member
      next same =>
        rcases List.mem_cons.mp member with new | later
        · cases new
          exact .inr (.inl ⟨same, entry.2, List.mem_cons_self, rfl⟩)
        · refine .inl ⟨?_, List.mem_cons_of_mem _ later⟩
          rintro rfl
          rw [same] at once
          exact once (List.mem_map_of_mem later)
      next other =>
        rcases List.mem_cons.mp member with here | later
        · cases here
          exact .inl ⟨other, List.mem_cons_self⟩
        · rcases ih distinct' later with ⟨ne, old⟩ | ⟨eq, old, inside, new⟩ | ⟨eq, unseen, new⟩
          · exact .inl ⟨ne, List.mem_cons_of_mem _ old⟩
          · exact .inr (.inl ⟨eq, old, List.mem_cons_of_mem _ inside, new⟩)
          · refine .inr (.inr ⟨eq, ?_, new⟩)
            intro seen
            rcases List.mem_cons.mp seen with same | inside
            · exact other same.symm
            · exact unseen inside

/-! ## The invariant -/

/-- The part of the law that adding a failure keeps up; the rest of it follows. -/
structure Sorted (failures : List Failure) (fs : Findings) : Prop where
  fields : fs.map Prod.fst = (failures.map Failure.field).eraseDups
  rules : forall field kept, (field, kept) ∈ fs ->
    kept.map Prod.fst = ((failures.filter fun f => f.field = field).map Failure.rule).eraseDups
  first : forall field rule f, fs.Holds field rule f ->
    failures.find? (fun f => f.field = field ∧ f.rule = rule) = some f

namespace Sorted

variable {failures : List Failure} {fs : Findings}

theorem distinct (sorted : Sorted failures fs) : (fs.map Prod.fst).Nodup := by
  rw [sorted.fields]
  exact nodup_eraseDups _

theorem mem_fields_iff (sorted : Sorted failures fs) {field : Text} :
    field ∈ fs.map Prod.fst <-> exists f, f ∈ failures ∧ f.field = field := by
  rw [sorted.fields, List.mem_eraseDups, List.mem_map]

theorem mem_rules_iff (sorted : Sorted failures fs) {field rule : Text} {kept : List (Text × Failure)}
    (inside : (field, kept) ∈ fs) :
    rule ∈ kept.map Prod.fst <-> exists f, f ∈ failures ∧ f.field = field ∧ f.rule = rule := by
  rw [sorted.rules field kept inside, List.mem_eraseDups, List.mem_map]
  simp only [List.mem_filter, decide_eq_true_eq, and_assoc]

theorem about_of_find? {field rule : Text} {f : Failure}
    (found : failures.find? (fun f => f.field = field ∧ f.rule = rule) = some f) :
    f ∈ failures ∧ f.field = field ∧ f.rule = rule := by
  have passes := List.find?_some found
  exact ⟨List.mem_of_find?_eq_some found, of_decide_eq_true passes⟩

/-- The first failure of a rule of a field is still the first one when others come behind it. -/
theorem find?_concat {rule field : Text} {f g : Failure}
    (found : failures.find? (fun f => f.field = field ∧ f.rule = rule) = some g) :
    (failures ++ [f]).find? (fun f => f.field = field ∧ f.rule = rule) = some g := by
  rw [List.find?_append, found, Option.some_or]

theorem add (sorted : Sorted failures fs) (f : Failure) : Sorted (failures ++ [f]) (fs.add f) where
  fields := by
    rw [fields_add, sorted.fields, List.map_append, List.map_singleton, eraseDups_concat]
    simp only [List.mem_eraseDups]
  rules := by
    intro field kept member
    rw [List.filter_append, List.map_append]
    rcases mem_add sorted.distinct member with ⟨other, old⟩ | ⟨rfl, old, inside, rfl⟩ | ⟨rfl, unseen, rfl⟩
    · have nothing : [f].filter (fun f => f.field = field) = [] := by simp [Ne.symm other]
      rw [nothing, List.map_nil, List.append_nil]
      exact sorted.rules field kept old
    · have itself : [f].filter (fun g => g.field = f.field) = [f] := by simp
      rw [itself, List.map_singleton, eraseDups_concat, rules_addRule, sorted.rules _ old inside]
      simp only [List.mem_eraseDups]
    · have itself : [f].filter (fun g => g.field = f.field) = [f] := by simp
      have before : failures.filter (fun g => g.field = f.field) = [] := by
        apply List.filter_eq_nil_iff.mpr
        intro g member same
        exact unseen (sorted.mem_fields_iff.mpr ⟨g, member, of_decide_eq_true same⟩)
      rw [itself, before]
      rfl
  first := by
    rintro field rule g ⟨kept, member, holds⟩
    rcases mem_add sorted.distinct member with ⟨-, old⟩ | ⟨rfl, old, inside, rfl⟩ | ⟨rfl, unseen, rfl⟩
    · exact find?_concat (sorted.first field rule g ⟨kept, old, holds⟩)
    · rcases mem_addRule holds with before | ⟨unseen, new⟩
      · exact find?_concat (sorted.first _ rule g ⟨old, inside, before⟩)
      · cases new
        have nothing : failures.find? (fun g => g.field = f.field ∧ g.rule = f.rule) = none := by
          apply List.find?_eq_none.mpr
          intro g member same
          exact unseen ((sorted.mem_rules_iff inside).mpr ⟨g, member, of_decide_eq_true same⟩)
        rw [List.find?_append, nothing]
        simp
    · cases List.mem_singleton.mp holds
      have nothing : failures.find? (fun g => g.field = f.field ∧ g.rule = f.rule) = none := by
        apply List.find?_eq_none.mpr
        intro g member same
        exact unseen (sorted.mem_fields_iff.mpr ⟨g, member, (of_decide_eq_true same).1⟩)
      rw [List.find?_append, nothing]
      simp

/-- A failure that was found has its field and its rule among the findings. -/
theorem exists_holds (sorted : Sorted failures fs) {f : Failure} (member : f ∈ failures) :
    exists g, fs.Holds f.field f.rule g := by
  have field : f.field ∈ fs.map Prod.fst := sorted.mem_fields_iff.mpr ⟨f, member, rfl⟩
  rcases List.mem_map.mp field with ⟨⟨name, kept⟩, inside, rfl⟩
  have rule : f.rule ∈ kept.map Prod.fst := (sorted.mem_rules_iff inside).mpr ⟨f, member, rfl, rfl⟩
  rcases List.mem_map.mp rule with ⟨⟨name', g⟩, holds, rfl⟩
  exact ⟨g, kept, inside, holds⟩

theorem groups (sorted : Sorted failures fs) : Groups failures fs := by
  have own : forall field rule f, fs.Holds field rule f -> f ∈ failures ∧ f.field = field ∧ f.rule = rule := by
    intro field rule f holds
    exact about_of_find? (sorted.first field rule f holds)
  refine ⟨sorted.fields, sorted.rules, ?first, ?found, fun field rule f holds => (own field rule f holds).2, ?nonempty⟩
  case first =>
    intro field rule f
    constructor
    · exact sorted.first field rule f
    · intro found
      rcases about_of_find? found with ⟨member, rfl, rfl⟩
      rcases sorted.exists_holds member with ⟨g, holds⟩
      have same : some g = some f := (sorted.first _ _ g holds).symm.trans found
      rwa [Option.some.inj same] at holds
  case found =>
    intro field rule
    constructor
    · rintro ⟨f, holds⟩
      exact ⟨f, own field rule f holds⟩
    · rintro ⟨f, member, rfl, rfl⟩
      exact sorted.exists_holds member
  case nonempty =>
    rintro field kept inside rfl
    rcases sorted.mem_fields_iff.mp (List.mem_map_of_mem inside) with ⟨f, member, same⟩
    exact absurd ((sorted.mem_rules_iff inside).mpr ⟨f, member, same, rfl⟩) List.not_mem_nil

end Sorted

theorem ofFailures_concat (failures : List Failure) (f : Failure) :
    ofFailures (failures ++ [f]) = (ofFailures failures).add f := by
  unfold ofFailures
  rw [List.foldl_append]
  rfl

/-- Whatever failures are found, sorting them by field and rule keeps the law. -/
theorem groups_ofFailures (failures : List Failure) : Groups failures (ofFailures failures) := by
  apply Sorted.groups
  induction failures using List.reverseRecOn with
  | nil => exact ⟨rfl, nofun, fun _ _ _ ⟨_, member, _⟩ => absurd member List.not_mem_nil⟩
  | append_singleton failures f ih =>
      rw [ofFailures_concat]
      exact ih.add f

/-! ## The report -/

/-- What a report says about findings. -/
structure Told (fs : Findings) (label uri : String) : Prop where
  /-- No rule of a field is told twice. -/
  distinct : fs.pairs.Nodup
  /-- There is one message for each rule of each field, in their order: that of the failure that is kept. -/
  each : List.Forall₂ (fun pair message => exists f, fs.Holds pair.1 pair.2 f ∧ message = f.message) fs.pairs fs.messages
  /-- Every message says something. -/
  nonempty : forall message, message ∈ fs.messages -> message ≠ ""
  /-- Behind the header stands every message on a line of its own. -/
  whole : report label uri fs.messages =
    String.intercalate "\n"
      (s!"\"{label}\" fails against schema \"{uri}\"" :: fs.messages.map fun message => "\t" ++ message)

theorem message_ne_empty (f : Failure) : f.message ≠ "" := by
  intro same
  have begins : f.message.toList.head? = some '"' := by
    simp [Failure.message, ToString.toString]
  rw [same] at begins
  cases begins

theorem report_of_nonempty (label uri : String) {messages : List String}
    (nonempty : forall message, message ∈ messages -> message ≠ "") :
    report label uri messages =
      String.intercalate "\n"
        (s!"\"{label}\" fails against schema \"{uri}\"" :: messages.map fun message => "\t" ++ message) := by
  have all : messages.filter (fun message => !message.isEmpty) = messages := by
    apply List.filter_eq_self.mpr
    intro message member
    simp [nonempty message member]
  unfold report
  rw [all]

theorem pairs_cons (entry : Text × List (Text × Failure)) (fs : Findings) :
    pairs (entry :: fs) = (entry.2.map fun kept => (entry.1, kept.1)) ++ pairs fs :=
  List.flatMap_cons ..

theorem messages_cons (entry : Text × List (Text × Failure)) (fs : Findings) :
    messages (entry :: fs) = (entry.2.map fun kept => kept.2.message) ++ messages fs := by
  unfold messages toList
  rw [List.flatMap_cons, List.map_append, List.map_map]
  rfl

theorem nodup_pairs {fs : Findings} (fields : (fs.map Prod.fst).Nodup)
    (rules : forall field kept, (field, kept) ∈ fs -> (kept.map Prod.fst).Nodup) : fs.pairs.Nodup := by
  induction fs with
  | nil => exact List.nodup_nil
  | cons entry rest ih =>
      rcases List.nodup_cons.mp fields with ⟨once, fields'⟩
      rw [pairs_cons]
      apply List.nodup_append.mpr
      refine ⟨?_, ih fields' (fun field kept member => rules field kept (List.mem_cons_of_mem _ member)), ?_⟩
      · have own := rules entry.1 entry.2 List.mem_cons_self
        have paired : (entry.2.map fun kept => (entry.1, kept.1)) =
            (entry.2.map Prod.fst).map (fun rule => (entry.1, rule)) := by
          rw [List.map_map]
          rfl
        rw [paired]
        exact own.map (fun rule rule' same => (Prod.mk.inj same).2)
      · intro pair first pair' later same
        rcases List.mem_map.mp first with ⟨kept, -, rfl⟩
        rcases List.mem_flatMap.mp later with ⟨entry', inside, later⟩
        rcases List.mem_map.mp later with ⟨kept', -, rfl⟩
        have field : entry.1 = entry'.1 := (Prod.mk.inj same).1
        rw [field] at once
        exact once (List.mem_map_of_mem inside)

theorem forall₂_messages (fs : Findings) :
    List.Forall₂ (fun pair message => exists f, fs.Holds pair.1 pair.2 f ∧ message = f.message) fs.pairs fs.messages := by
  have below : forall part : Findings, (forall entry, entry ∈ part -> entry ∈ fs) ->
      List.Forall₂ (fun pair message => exists f, fs.Holds pair.1 pair.2 f ∧ message = f.message) part.pairs
        part.messages := by
    intro part
    induction part with
    | nil => exact fun _ => .nil
    | cons entry rest ih =>
        intro within
        rw [pairs_cons, messages_cons]
        have inside : entry ∈ fs := within entry List.mem_cons_self
        apply List.rel_append (R := _)
        · apply List.forall₂_map_left_iff.mpr
          apply List.forall₂_map_right_iff.mpr
          apply List.forall₂_same.mpr
          intro kept member
          exact ⟨kept.2, ⟨entry.2, inside, member⟩, rfl⟩
        · exact ih (fun entry' member => within entry' (List.mem_cons_of_mem _ member))
  exact below fs (fun entry member => member)

theorem told_ofFailures (failures : List Failure) (label uri : String) : (ofFailures failures).Told label uri := by
  have groups := groups_ofFailures failures
  have nonempty : forall message, message ∈ (ofFailures failures).messages -> message ≠ "" := by
    intro message member
    rcases List.mem_map.mp member with ⟨f, -, rfl⟩
    exact message_ne_empty f
  refine ⟨?_, forall₂_messages _, nonempty, report_of_nonempty label uri nonempty⟩
  apply nodup_pairs
  · rw [groups.fields]
    exact nodup_eraseDups _
  · intro field kept inside
    rw [groups.rules field kept inside]
    exact nodup_eraseDups _

end Findings

/-! ## From violations to the report -/

namespace Failure

/-- Violations come down to failures if each of them does. -/
theorem exists_ofViolations {vs : List Violation} (each : forall v, v ∈ vs -> exists own, ofViolation v = .ok own) :
    exists failures, ofViolations vs = .ok failures := by
  induction vs with
  | nil => exact ⟨[], rfl⟩
  | cons v rest ih =>
      rcases each v List.mem_cons_self with ⟨own, first⟩
      rcases ih (fun w member => each w (List.mem_cons_of_mem v member)) with ⟨others, later⟩
      exact ⟨own ++ others, bind_eq_ok_iff.mpr ⟨own, first, bind_eq_ok_iff.mpr ⟨others, later, rfl⟩⟩⟩

end Failure

/-- Whatever violations are found, if they come down to failures, these are grouped by the law, and the report tells each
of the groups once.  The same violations in another order come down to failures of the same rules of the same fields.
What a validation returns is made in this way. -/
theorem findings_of_violations {vs : List Violation} {failures : List Failure}
    (converted : Failure.ofViolations vs = .ok failures) :
    (Findings.ofFailures failures).Groups failures ∧
    (forall vs', vs.Perm vs' -> exists failures', Failure.ofViolations vs' = .ok failures' ∧
      forall pair, pair ∈ (Findings.ofFailures failures').pairs <-> pair ∈ (Findings.ofFailures failures).pairs) ∧
    (forall label uri, (Findings.ofFailures failures).Told label uri) ∧
    forall (disk : Disk) (document schema : Value) (env : Text) (fs : Findings),
      validate disk document schema env = .ok fs -> exists outcome found, judge disk document schema env = .ok outcome ∧
        Failure.ofViolations outcome.found = .ok found ∧ fs = Findings.ofFailures found := by
  have each := Failure.ofViolations_eq_ok converted
  refine ⟨Findings.groups_ofFailures failures, ?order, Findings.told_ofFailures failures, ?validation⟩
  case order =>
    intro vs' perm
    have converts : exists failures', Failure.ofViolations vs' = .ok failures' := by
      apply Failure.exists_ofViolations
      intro v member
      exact each.1 v (perm.mem_iff.mpr member)
    rcases converts with ⟨failures', converted'⟩
    refine ⟨failures', converted', fun pair => ?_⟩
    have each' := Failure.ofViolations_eq_ok converted'
    rw [Findings.mem_pairs_ofFailures, Findings.mem_pairs_ofFailures, each.2, each'.2]
    exact exists_congr (fun v => and_congr_left' perm.mem_iff.symm)
  case validation =>
    intro disk document schema env fs validated
    rcases exists_judge_of_validate validated with ⟨outcome, found, judged, -, converted', grouped⟩
    exact ⟨outcome, found, judged, converted', grouped⟩

/-! ### Two objects, one inside the other -/

/-- An object lacks two members. -/
def lacksTwo : Violation where
  path := []
  keyword := some (Text.ofString "required")
  limit := .array [.string (Text.ofString "b"), .string (Text.ofString "a")]
  subject := .object [(Text.ofString "c", .int 1)]
  schema := .object []

/-- A member of it is too small. -/
def tooSmall : Violation where
  path := [.key (Text.ofString "c")]
  keyword := some (Text.ofString "minimum")
  limit := .int 2
  subject := .int 1
  schema := .object []

/-- Each of the two names that are missing is found twice, once for each of the two violations that say so, and kept
once; the failure that was found between them does not come between the names. -/
theorem findings_of_lacksTwo : exists failures, Failure.ofViolations [lacksTwo, tooSmall, lacksTwo] = .ok failures ∧
    failures.length = 5 ∧
    (Findings.ofFailures failures).Groups failures ∧
    report "d" "s" (Findings.ofFailures failures).messages =
      "\"d\" fails against schema \"s\"\n\t\"b\" is required but unset\n\t\"a\" is required but unset\n" ++
        "\t\"c\" does not meet rule \"minimum=2\" - " := by
  have evaluated : (Failure.ofViolations [lacksTwo, tooSmall, lacksTwo]).toOption.map
      (fun failures => (failures.length, report "d" "s" (Findings.ofFailures failures).messages)) =
        some (5, "\"d\" fails against schema \"s\"\n\t\"b\" is required but unset\n\t\"a\" is required but unset\n" ++
          "\t\"c\" does not meet rule \"minimum=2\" - ") := by
    decide +kernel
  rcases Option.map_eq_some_iff.mp evaluated with ⟨failures, converted, told⟩
  rw [toOption_eq_some_iff] at converted
  have both := Prod.mk.inj told
  exact ⟨failures, converted, both.1, (findings_of_violations converted).1, both.2⟩

end SchemaLint
