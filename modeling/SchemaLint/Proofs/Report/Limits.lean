import SchemaLint.Proofs.Json.Visible
import SchemaLint.Proofs.Places

/-!
# Limits break no lines

A sentence about a rule shows its limit, and a limit that is a text is shown as it stands.  No violation brings such a text
into a sentence, though: bounds compare with their limits, which have to be numbers for that, and a type is violated only
if it is known by name, and no known name has a line feed.  Everything else that a limit can be is shown quoted or
escaped.
-/

namespace SchemaLint

open Json Schema

/-! ## Shown values -/

namespace Quoted

theorem exists_of_mem_toDigits {b n : Nat} (base : 1 < b) {c : Char} (member : c ∈ Nat.toDigits b n) :
    exists d, d < b ∧ c = Nat.digitChar d := by
  induction n using Nat.strongRecOn with
  | ind n ih =>
    rw [Nat.toDigits_eq_if base] at member
    by_cases single : n < b
    · rw [if_pos single, List.mem_singleton] at member
      exact ⟨n, single, member⟩
    · rw [if_neg single, List.mem_append, List.mem_singleton] at member
      rcases member with front | last
      · exact ih (n / b) (Nat.div_lt_self (by omega) base) front
      · exact ⟨n % b, Nat.mod_lt n (by omega), last⟩

theorem not_mem_hex (width n : Nat) : '\n' ∉ hex width n := by
  have digit : forall d, d < 16 -> '\n' ≠ Nat.digitChar d := by decide
  rw [hex, List.mem_append, not_or]
  constructor
  · intro member
    exact absurd (List.eq_of_mem_replicate member) (by decide)
  · intro member
    obtain ⟨d, small, same⟩ := exists_of_mem_toDigits (by decide) member
    exact digit d small same

theorem toChar_ne_lineFeed {c : CodePoint} (other : c.val ≠ 0x0A) : '\n' ≠ c.toChar := by
  cases c with
  | scalar c =>
    rintro rfl
    exact other rfl
  | surrogate offset => exact (by decide : '\n' ≠ '\uFFFD')

theorem not_mem_codePoint {q : Char} (isQuote : q.toNat ≠ 0x0A) (c : CodePoint) : '\n' ∉ codePoint q c := by
  unfold codePoint
  dsimp only
  split
  next special =>
    have other : c.val ≠ 0x0A := by
      simp only [Bool.or_eq_true, decide_eq_true_eq] at special
      omega
    simp only [List.mem_cons, List.not_mem_nil, or_false, not_or]
    exact ⟨by decide, toChar_ne_lineFeed other⟩
  next =>
    split
    · decide
    · split
      · decide
      next other =>
        split
        · decide
        · split
          · rw [List.mem_singleton]
            exact toChar_ne_lineFeed other
          · repeat' split
            all_goals
              simp only [List.mem_cons, not_or]
              exact ⟨by decide, by decide, not_mem_hex _ _⟩

end Quoted

theorem Text.not_mem_quoted (t : Text) : '\n' ∉ t.quoted := by
  have isQuote : (Quoted.quote t).toNat ≠ 0x0A ∧ '\n' ≠ Quoted.quote t := by
    unfold Quoted.quote
    split <;> decide
  rw [Text.quoted]
  simp only [List.cons_append, List.mem_cons, List.mem_append, List.mem_flatMap, List.not_mem_nil, or_false, not_or]
  refine ⟨isQuote.2, ?_, isQuote.2⟩
  rintro ⟨c, -, member⟩
  exact Quoted.not_mem_codePoint isQuote.1 c member

namespace Json

namespace Display

mutual

/-- A value in which strings are quoted is shown on one line. -/
theorem not_mem_value : forall v, '\n' ∉ value v
  | .null => by decide
  | .bool b => by cases b <;> decide
  | .int n => (areVisible_int n).no_lineFeed
  | .float x => x.areVisible_text.no_lineFeed
  | .string s => s.not_mem_quoted
  | .array items => by
    rw [value, List.mem_append, List.mem_cons, not_or, not_or]
    exact ⟨⟨by decide, not_mem_items items⟩, by decide⟩
  | .object members => by
    rw [value, List.mem_append, List.mem_cons, not_or, not_or]
    exact ⟨⟨by decide, not_mem_members members⟩, by decide⟩

theorem not_mem_items : forall items, '\n' ∉ itemsText items
  | [] => by decide
  | [v] => not_mem_value v
  | v :: w :: rest => by
    simp only [itemsText, List.mem_append, List.mem_cons, not_or]
    exact ⟨not_mem_value v, by decide, by decide, not_mem_items (w :: rest)⟩

theorem not_mem_members : forall members, '\n' ∉ membersText members
  | [] => by decide
  | [(k, v)] => by
    simp only [membersText, List.mem_append, List.mem_cons, not_or]
    exact ⟨k.not_mem_quoted, by decide, by decide, not_mem_value v⟩
  | (k, v) :: m :: rest => by
    simp only [membersText, List.mem_append, List.mem_cons, not_or]
    exact ⟨k.not_mem_quoted, by decide, by decide, not_mem_value v, by decide, by decide, not_mem_members (m :: rest)⟩

end

end Display

end Json

/-- The line feeds of a text are those of what is printed for it. -/
theorem Text.mem_toString_iff {t : Text} : '\n' ∈ (Text.toString t).toList <-> CodePoint.scalar '\n' ∈ t := by
  rw [Text.toString, String.toList_ofList, List.mem_map]
  constructor
  · rintro ⟨c, member, same⟩
    cases c with
    | scalar d =>
      cases same
      exact member
    | surrogate offset => exact absurd same (by decide : '\uFFFD' ≠ '\n')
  · exact fun member => ⟨_, member, rfl⟩

/-- Only a text that stands alone is shown on more than one line. -/
theorem Json.Value.exists_string_of_display {v : Value} (broken : '\n' ∈ v.display.toList) :
    exists t, v = .string t ∧ CodePoint.scalar '\n' ∈ t := by
  cases v with
  | string t => exact ⟨t, rfl, Text.mem_toString_iff.mp broken⟩
  | _ =>
    rw [Value.display, Value.quoted, String.toList_ofList] at broken
    · exact absurd broken (Display.not_mem_value _)
    · exact nofun

namespace Failure

/-- A limit that names types is shown on more than one line only if one of the names is. -/
theorem exists_string_of_typeText {v : Value} (broken : '\n' ∈ (typeText v).toList) :
    exists t, CodePoint.scalar '\n' ∈ t ∧ (v = .string t ∨ exists types, v = .array types ∧ .string t ∈ types) := by
  unfold typeText at broken
  split at broken
  next types =>
    rw [String.toList_intercalate, mem_intercalate_iff (by decide)] at broken
    obtain ⟨shown, inside, member⟩ := broken
    obtain ⟨text, among, rfl⟩ := List.mem_map.mp inside
    obtain ⟨type, isType, rfl⟩ := List.mem_map.mp among
    obtain ⟨t, rfl, feed⟩ := Value.exists_string_of_display member
    exact ⟨t, feed, .inr ⟨types, rfl, isType⟩⟩
  next =>
    obtain ⟨t, same, member⟩ := Value.exists_string_of_display broken
    exact ⟨t, member, .inl same⟩

/-- The keywords whose sentences show a bound. -/
def boundKeywords : List (String × Keyword) :=
  [("minLength", .minLength), ("maxLength", .maxLength), ("minProperties", .minProperties),
    ("maxProperties", .maxProperties), ("patternProperties", .patternProperties), ("minItems", .minItems),
    ("maxItems", .maxItems)]

/-- A sentence breaks a line only by its limit. -/
theorem limit_of_sentence {f : Failure} {s : String} (told : f.sentence? = some s) (broken : '\n' ∈ s.toList) :
    Text.toString f.rule = "type" ∧ '\n' ∈ (typeText f.limit).toList ∨
      Text.toString f.rule ∈ boundKeywords.map Prod.fst ∧ '\n' ∈ f.limit.display.toList := by
  have framed : forall before shown after : String, '\n' ∉ before.toList -> '\n' ∉ after.toList ->
      '\n' ∈ (before ++ shown ++ after).toList -> '\n' ∈ shown.toList := by
    intro before shown after plain plain' member
    simp only [String.toList_append, List.mem_append] at member
    rcases member with (front | shown) | back
    · exact absurd front plain
    · exact shown
    · exact absurd back plain'
  have bounded : forall {rule}, Text.toString f.rule = rule -> rule ∈ boundKeywords.map Prod.fst ->
      '\n' ∈ f.limit.display.toList ->
      Text.toString f.rule = "type" ∧ '\n' ∈ (typeText f.limit).toList ∨
        Text.toString f.rule ∈ boundKeywords.map Prod.fst ∧ '\n' ∈ f.limit.display.toList := by
    rintro rule rfl isBound member
    exact .inr ⟨isBound, member⟩
  unfold sentence? at told
  dsimp only at told
  split at told
  next rule =>
    cases told
    exact .inl ⟨rule, framed _ _ _ (by decide) (by decide) broken⟩
  iterate 7
    next rule =>
      cases told
      exact bounded rule (by decide) (framed _ _ _ (by decide) (by decide) broken)
  iterate 2
    next rule =>
      cases told
      rw [rule] at broken
      exact absurd (framed _ _ _ (by decide) (by decide) broken) (by decide)
  next => cases told

end Failure

/-! ## Limits of what is violated -/

theorem Text.eq_ofString {t : Text} {s : String} (same : Text.toString t = s) (plain : '\uFFFD' ∉ s.toList) :
    t = Text.ofString s := by
  have chars : t.map CodePoint.toChar = s.toList := by
    rw [← same, Text.toString, String.toList_ofList]
  have scalar : forall c, c ∈ t -> CodePoint.scalar c.toChar = c := by
    intro c member
    cases c with
    | scalar d => rfl
    | surrogate offset =>
      have inside : '\uFFFD' ∈ t.map CodePoint.toChar := List.mem_map.mpr ⟨_, member, rfl⟩
      rw [chars] at inside
      exact absurd inside plain
  rw [Text.ofString, ← chars, List.map_map]
  exact (List.map_id' t).symm.trans (List.map_congr_left fun c member => (scalar c member).symm)

namespace Failure

/-- Neither its rule nor its limit brings a line feed into the message of a failure. -/
structure IsPlain (f : Failure) : Prop where
  rule : CodePoint.scalar '\n' ∉ f.rule
  sentence : forall s, f.sentence? = some s -> '\n' ∉ s.toList

/-- A rule whose sentence does not show its limit as it stands. -/
def HidesLimit (rule : Text) : Prop :=
  CodePoint.scalar '\n' ∉ rule ∧ Text.toString rule ≠ "type" ∧ Text.toString rule ∉ boundKeywords.map Prod.fst

instance (rule : Text) : Decidable (HidesLimit rule) :=
  inferInstanceAs (Decidable (_ ∧ _ ∧ _))

theorem isPlain_of_rule {f : Failure} (rule : Text) (hides : HidesLimit rule) (same : f.rule = rule) : f.IsPlain where
  rule := by
    rw [same]
    exact hides.1
  sentence := by
    intro s told broken
    rcases limit_of_sentence told broken with ⟨isType, -⟩ | ⟨isBound, -⟩
    · exact hides.2.1 (same ▸ isType)
    · exact hides.2.2 (same ▸ isBound)

end Failure

namespace Schema

/-- The names of keywords have no line feeds. -/
theorem Keyword.not_mem_of_ofName? {d : Dialect} {name : Text} {keyword : Keyword}
    (known : ofName? d name = some keyword) : CodePoint.scalar '\n' ∉ name := by
  have names : forall d, forall entry, entry ∈ (tables.lookup d).getD [] -> CodePoint.scalar '\n' ∉ entry.1 := by
    intro d
    cases d <;> decide
  obtain ⟨front, back, entries, -⟩ := List.lookup_eq_some_iff.mp known
  refine names d (name, keyword) ?_
  rw [entries]
  exact List.mem_append_right _ (List.mem_cons_self ..)

/-! ### Types -/

/-- The names of the simple types have no line feeds. -/
theorem SimpleType.not_mem_of_ofName? {d : Dialect} {name : Text} {type : SimpleType}
    (known : ofName? d name = some type) : CodePoint.scalar '\n' ∉ name := by
  have listed : name ∈ ["array", "boolean", "integer", "null", "number", "object", "string", "any"].map Text.ofString := by
    unfold ofName? at known
    repeat' split at known
    all_goals cases known
    all_goals simp_all
  exact (by decide : forall name, name ∈ ["array", "boolean", "integer", "null", "number", "object", "string",
    "any"].map Text.ofString -> CodePoint.scalar '\n' ∉ name) name listed

namespace Assertion

variable {P : Violation -> Prop} {ev : Evaluator} {a : Assertion}

theorem all_failsWhen_of_ne {bad : Except Crash Bool} (other : bad ≠ .ok true) : (a.failsWhen bad).All P := by
  apply Outcome.all_ofExcept
  intro b result
  cases b with
  | true => exact absurd result other
  | false => exact Outcome.all_clean

theorem isOfType_ne_of_break {d : Dialect} {subject : Value} {t : Text} (feed : CodePoint.scalar '\n' ∈ t) (b : Bool) :
    isOfType d subject (.string t) ≠ .ok b := by
  rw [isOfType]
  cases known : SimpleType.ofName? d t with
  | none => exact nofun
  | some type => exact absurd feed (SimpleType.not_mem_of_ofName? known)

/-- A limit names a type by a text with a line feed. -/
def NamesBroken (limit : Value) : Prop :=
  exists t, CodePoint.scalar '\n' ∈ t ∧ (limit = .string t ∨ exists types, limit = .array types ∧ .string t ∈ types)

/-- A limit that names types is never violated if no list with a name that has a line feed can be tested in vain. -/
theorem all_failsWhen_of_namesBroken (broken : NamesBroken a.limit) {test : List Value -> Except Crash Bool}
    (tests : forall {t types}, CodePoint.scalar '\n' ∈ t -> .string t ∈ types -> test types ≠ .ok false) :
    (a.failsWhen (do let types ← listOf a.limit; return !(← test types))).All P := by
  apply all_failsWhen_of_ne
  intro violated
  obtain ⟨types, listed, violated⟩ := bind_eq_ok_iff.mp violated
  obtain ⟨fits, tested, violated⟩ := bind_eq_ok_iff.mp violated
  obtain ⟨t, feed, among⟩ := broken
  have inside : .string t ∈ types := by
    rcases among with limit | ⟨types', limit, member⟩
    · rw [limit] at listed
      cases listed
      exact List.mem_cons_self
    · rw [limit] at listed
      cases listed
      exact member
  cases fits with
  | true => cases violated
  | false => exact tests feed inside tested

theorem anyWhere_ne_of_break {d : Dialect} {subject : Value} {t : Text} {types : List Value}
    (feed : CodePoint.scalar '\n' ∈ t) (inside : .string t ∈ types) : anyWhere (isOfType d subject) types ≠ .ok false := by
  induction types with
  | nil => cases inside
  | cons type rest ih =>
    intro tested
    obtain ⟨fits, first, tested⟩ := bind_eq_ok_iff.mp tested
    rcases List.mem_cons.mp inside with rfl | later
    · exact isOfType_ne_of_break feed fits first
    · cases fits with
      | true => cases tested
      | false => exact ih later tested

theorem fitsTypeOrSchema_ne_of_break {t : Text} {types : List Value} (feed : CodePoint.scalar '\n' ∈ t)
    (inside : .string t ∈ types) : a.fitsTypeOrSchema ev types ≠ .ok false := by
  induction types with
  | nil => cases inside
  | cons type rest ih =>
    intro tested
    unfold fitsTypeOrSchema at tested
    split at tested
    next name =>
      split at tested
      · cases tested
      · obtain ⟨fits, first, tested⟩ := bind_eq_ok_iff.mp tested
        rcases List.mem_cons.mp inside with same | later
        · cases same
          exact isOfType_ne_of_break feed fits first
        · cases fits with
          | true => cases tested
          | false => exact ih later tested
    next members =>
      obtain ⟨found, -, tested⟩ := bind_eq_ok_iff.mp tested
      have later : .string t ∈ rest := (List.mem_cons.mp inside).resolve_left nofun
      split at tested
      · cases tested
      · exact ih later tested
    next noText noSchema =>
      cases type with
      | string name => exact noText name rfl
      | object members => exact noSchema members rfl
      | _ => cases tested

/-- No type is violated whose name has a line feed. -/
theorem all_type_of_namesBroken (broken : NamesBroken a.limit) : a.type.All P :=
  all_failsWhen_of_namesBroken broken anyWhere_ne_of_break

theorem all_typeOrSchema_of_namesBroken (broken : NamesBroken a.limit) : (a.typeOrSchema ev).All P :=
  all_failsWhen_of_namesBroken broken fitsTypeOrSchema_ne_of_break

/-! ### Bounds -/

theorem compared_of_unranked (unranked : a.limit.rank? = none) (x : Number) (bad : Number -> Number -> Bool) :
    (a.compared x bad).All P := by
  rw [compared, unranked]
  exact Outcome.all_crashed _

theorem comparedCount_of_unranked (unranked : a.limit.rank? = none) (count : Nat) (bad : Number -> Number -> Bool) :
    (a.comparedCount count bad).All P := by
  rw [comparedCount, unranked]
  exact Outcome.all_crashed _

/-- No bound is violated that is not a number. -/
theorem all_bound_of_unranked (passes : a.Passes P ev) (rules : Rules) (unranked : a.limit.rank? = none)
    {name : String} {keyword : Keyword} (isBound : (name, keyword) ∈ Failure.boundKeywords) :
    (a.check rules ev keyword).All P := by
  simp only [Failure.boundKeywords, List.mem_cons, Prod.mk.injEq, List.not_mem_nil, or_false] at isBound
  rcases isBound with ⟨-, rfl⟩ | ⟨-, rfl⟩ | ⟨-, rfl⟩ | ⟨-, rfl⟩ | ⟨-, rfl⟩ | ⟨-, rfl⟩ | ⟨-, rfl⟩
  · change a.minLength.All P
    unfold minLength
    split
    · exact compared_of_unranked unranked _ _
    · exact Outcome.all_clean
  · change a.maxLength.All P
    unfold maxLength
    split
    · exact compared_of_unranked unranked _ _
    · exact Outcome.all_clean
  · refine all_ofObject fun members _ => ?_
    rw [unranked]
    exact Outcome.all_crashed _
  · refine all_ofObject fun members _ => ?_
    rw [unranked]
    exact Outcome.all_crashed _
  · exact all_patternProperties passes
  · exact all_ofArray fun _ _ => comparedCount_of_unranked unranked _ _
  · exact all_ofArray fun _ _ => comparedCount_of_unranked unranked _ _

end Assertion

/-! ### Evaluation -/

namespace Violation

/-- A violation says nothing about its value in which its rule or its limit brings a line feed. -/
def IsPlain (v : Violation) : Prop :=
  (Failure.whole v).IsPlain

theorem steady_isPlain : Steady fun _ => IsPlain where
  under := fun _ _ plain => ⟨plain.rule, plain.sentence⟩
  within := fun _ _ plain => plain
  unsatisfiable := fun _ _ => Failure.isPlain_of_rule (Text.ofString "None") (by decide) rfl

end Violation

theorem ofName?_type (d : Dialect) : Keyword.ofName? d (Text.ofString "type") = some .type ∨
    Keyword.ofName? d (Text.ofString "type") = some .typeOrSchema := by
  cases d <;> decide

/-- In no draft do the names of bounds stand for other keywords. -/
theorem ofName?_bound (d : Dialect) : forall entry, entry ∈ Failure.boundKeywords ->
    Keyword.ofName? d (Text.ofString entry.1) = none ∨ Keyword.ofName? d (Text.ofString entry.1) = some entry.2 := by
  cases d <;> decide

theorem findsAlways_isPlain : FindsAlways fun _ => Violation.IsPlain := by
  intro rules ev a keyword known passes
  have rule : CodePoint.scalar '\n' ∉ a.keyword := Keyword.not_mem_of_ofName? known
  by_cases own : a.violation.IsPlain
  · refine Assertion.all_check passes rules keyword ⟨fun _ => own, ?beside, ?unset, fun _ _ _ _ _ _ _ _ => own,
      fun _ _ _ _ _ _ _ => own⟩
    case beside =>
      rintro key (rfl | rfl) limit
      · exact Failure.isPlain_of_rule (Text.ofString "minContains") (by decide) rfl
      · exact Failure.isPlain_of_rule (Text.ofString "maxContains") (by decide) rfl
    case unset =>
      intro members name limit _ _ _
      exact Failure.isPlain_of_rule (Text.ofString "required") (by decide) rfl
  · -- a limit that would break the line of the message is one with which the keyword raises nothing
    have shown : exists s, (Failure.whole a.violation).sentence? = some s ∧ '\n' ∈ s.toList := by
      refine Classical.byContradiction fun none => own ⟨rule, fun s told broken => none ⟨s, told, broken⟩⟩
    obtain ⟨s, told, broken⟩ := shown
    rcases Failure.limit_of_sentence told broken with ⟨isType, shown⟩ | ⟨isBound, shown⟩
    · have name : a.keyword = Text.ofString "type" := Text.eq_ofString isType (by decide)
      have namesBroken : Assertion.NamesBroken a.limit := Failure.exists_string_of_typeText shown
      rw [name] at known
      rcases ofName?_type a.position.dialect with table | table
      · cases table.symm.trans known
        exact Assertion.all_type_of_namesBroken namesBroken
      · cases table.symm.trans known
        exact Assertion.all_typeOrSchema_of_namesBroken namesBroken
    · obtain ⟨entry, listed, same⟩ := List.mem_map.mp isBound
      obtain ⟨t, limit, -⟩ := Value.exists_string_of_display shown
      have unranked : a.limit.rank? = none := by
        have limit : a.limit = .string t := limit
        rw [limit]
        rfl
      have plain : '\uFFFD' ∉ entry.1.toList :=
        (by decide : forall entry, entry ∈ Failure.boundKeywords -> '\uFFFD' ∉ entry.1.toList) entry listed
      have name : a.keyword = Text.ofString entry.1 := Text.eq_ofString same.symm plain
      rw [name] at known
      rcases ofName?_bound a.position.dialect entry listed with table | table
      · cases table.symm.trans known
      · cases table.symm.trans known
        exact Assertion.all_bound_of_unranked passes rules unranked listed

/-- Whatever schema is evaluated in whatever draft, neither the rules nor the limits of its violations break a line. -/
theorem isPlain_run (rules : Rules) (d : Dialect) (demand : Demand) (schema subject : Value) :
    (run rules d demand schema subject).All Violation.IsPlain :=
  all_run_of_finds Violation.steady_isPlain findsAlways_isPlain rules d demand schema subject

end Schema

end SchemaLint
