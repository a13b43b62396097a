import SchemaLint.Proofs.Schema.Agreement
import SchemaLint.Schema.Evaluation

/-!
# Keywords and the order of keys

What a keyword says about a value agrees with what it says about the value with its keys in order, if what the evaluator
below says agrees so.  The lemmas on the shapes that keywords share come first; after them each keyword takes its shape.
-/

namespace SchemaLint
namespace Schema

open Json

/-- An evaluator whose answers about a value agree with those about the value with its keys in order. -/
structure Evaluator.Matches (ev : Evaluator) : Prop where
  apply : forall (demand : Demand) (outer : Dialect) (p : Position) (schema : Value) {subject : Value}, subject.IsKeyed ->
    Outcome.Match demand (ev.apply demand outer p schema subject) (ev.apply demand outer p schema subject.sorted)
  keys : forall (survey : Survey) (p : Position) (schema : Value) {members : Members}, Value.IsKeyed (.object members) ->
    Agree SameSet (ev.keys survey p schema members) (ev.keys survey p schema members.sorted)
  places : forall (survey : Survey) (p : Position) (schema : Value) {items : List Value}, Value.IsKeyed (.array items) ->
    Agree SameSet (ev.places survey p schema items) (ev.places survey p schema (items.map Value.sorted))

namespace Evaluator.Matches

variable {ev : Evaluator} {subject : Value}

theorem enter (alike : ev.Matches) (demand : Demand) (p : Position) (scope : Except Crash Scope) (schema : Value)
    (keyed : subject.IsKeyed) :
    Outcome.Match demand (ev.enter demand p scope schema subject) (ev.enter demand p scope schema subject.sorted) := by
  unfold Evaluator.enter
  split
  · exact Outcome.match_clean
  · exact Outcome.match_one _
  · refine Outcome.match_ofExcept (agree_refl scope) ?_
    rintro scope _ rfl
    refine Outcome.match_ofExcept (agree_refl _) ?_
    rintro inner _ rfl
    exact alike.apply demand p.dialect inner schema keyed

theorem descend (alike : ev.Matches) (demand : Demand) (p : Position) (schema : Value) (part : Option PathPart)
    (keyed : subject.IsKeyed) :
    Outcome.Match demand (ev.descend demand p schema subject part) (ev.descend demand p schema subject.sorted part) := by
  unfold Evaluator.descend
  split
  · exact alike.enter demand p _ _ keyed
  · exact Outcome.match_under part (alike.enter demand p _ schema keyed)

theorem accepts (alike : ev.Matches) (p : Position) (schema : Value) (keyed : subject.IsKeyed) :
    Agree (· = ·) (ev.accepts p schema subject) (ev.accepts p schema subject.sorted) := by
  refine (agree_refl (p.adopt schema)).bind ?_
  rintro inner _ rfl
  exact Outcome.agree_isClean (alike.apply .first inner.dialect inner schema keyed)

theorem acceptsWithin (alike : ev.Matches) (p : Position) (schema : Value) (keyed : subject.IsKeyed) :
    Agree (· = ·) (ev.acceptsWithin p schema subject) (ev.acceptsWithin p schema subject.sorted) :=
  Outcome.agree_isClean (alike.descend .first p schema none keyed)

/-- Whether all violations of a schema are none. -/
theorem completes (alike : ev.Matches) (p : Position) (schema : Value) (part : Option PathPart)
    (keyed : subject.IsKeyed) :
    Agree (fun vs vs' => vs.isEmpty = vs'.isEmpty) (ev.descend .all p schema subject part).complete
      (ev.descend .all p schema subject.sorted part).complete := by
  refine (Outcome.agree_complete (alike.descend .all p schema part keyed)).imp ?_
  intro vs vs' perm
  rw [perm.isEmpty_eq, List.isEmpty_map]

end Evaluator.Matches

namespace Assertion

/-- The same assertion about the value with its keys in order. -/
def sorted (a : Assertion) : Assertion :=
  { a with subject := a.subject.sorted }

variable {ev : Evaluator} {a : Assertion}

/-! ### Shapes -/

theorem match_fails : Outcome.Match a.demand a.fails a.sorted.fails :=
  Outcome.match_one a.violation

theorem match_failsIf (bad : Bool) : Outcome.Match a.demand (a.failsIf bad) (a.sorted.failsIf bad) := by
  cases bad with
  | true => exact match_fails
  | false => exact Outcome.match_clean

theorem match_failsWhen {bad bad' : Except Crash Bool} (agree : Agree (· = ·) bad bad') :
    Outcome.Match a.demand (a.failsWhen bad) (a.sorted.failsWhen bad') := by
  refine Outcome.match_ofExcept agree ?_
  rintro b _ rfl
  exact match_failsIf b

theorem match_ofObject {check check' : Members -> Outcome}
    (same : forall members, a.subject = .object members ->
      Outcome.Match a.demand (check members) (check' (Members.sorted members))) :
    Outcome.Match a.demand (a.ofObject check) (a.sorted.ofObject check') := by
  unfold ofObject sorted
  cases subject : a.subject with
  | object members =>
    rw [Value.sorted_object]
    exact same members subject
  | _ => exact Outcome.match_clean

theorem match_ofArray {check check' : List Value -> Outcome}
    (same : forall items, a.subject = .array items ->
      Outcome.Match a.demand (check items) (check' (items.map Value.sorted))) :
    Outcome.Match a.demand (a.ofArray check) (a.sorted.ofArray check') := by
  unfold ofArray sorted
  cases subject : a.subject with
  | array items =>
    rw [Value.sorted_array]
    exact same items subject
  | _ => exact Outcome.match_clean

theorem match_compared (x : Number) (bad : Number -> Number -> Bool) :
    Outcome.Match a.demand (a.compared x bad) (a.sorted.compared x bad) := by
  unfold compared
  have limit : a.sorted.limit = a.limit := rfl
  rw [limit]
  cases a.limit.rank? with
  | none => exact Outcome.match_crashed_left _ _
  | some y => exact match_failsIf _

theorem match_ofNumber {check check' : Number -> Outcome}
    (same : forall x, Outcome.Match a.demand (check x) (check' x)) :
    Outcome.Match a.demand (a.ofNumber check) (a.sorted.ofNumber check') := by
  unfold ofNumber sorted
  cases a.subject with
  | int n => exact same _
  | float x => exact same _
  | array items =>
    rw [Value.sorted_array]
    exact Outcome.match_clean
  | object members =>
    rw [Value.sorted_object]
    exact Outcome.match_clean
  | _ => exact Outcome.match_clean

/-- The same schemas apply to the whole value, one after the other. -/
theorem match_eachWhole (alike : ev.Matches) (keyed : a.subject.IsKeyed) (schemas : List Value) :
    Outcome.Match a.demand (a.each (fun schema => a.descend ev schema a.subject none) schemas)
      (a.sorted.each (fun schema => a.sorted.descend ev schema a.sorted.subject none) schemas) :=
  Outcome.match_each_same fun schema _ => alike.descend a.demand a.position schema none keyed

/-! ### References and combinations -/

theorem match_applyTarget (alike : ev.Matches) (keyed : a.subject.IsKeyed) (target : Target) :
    Outcome.Match a.demand (a.applyTarget ev target) (a.sorted.applyTarget ev target) :=
  alike.enter a.demand a.position _ target.schema keyed

theorem match_reference (alike : ev.Matches) (keyed : a.subject.IsKeyed) (rules : Rules) :
    Outcome.Match a.demand (a.reference rules ev) (a.sorted.reference rules ev) := by
  refine Outcome.match_ofExcept (agree_refl (referenceText a.limit)) ?_
  rintro ref _ rfl
  refine Outcome.match_ofExcept (agree_refl _) ?_
  rintro target _ rfl
  exact match_applyTarget alike keyed target

theorem match_recursiveReference (alike : ev.Matches) (keyed : a.subject.IsKeyed) (rules : Rules) :
    Outcome.Match a.demand (a.recursiveReference rules ev) (a.sorted.recursiveReference rules ev) := by
  refine Outcome.match_ofExcept (agree_refl (Target.ofRecursion rules.retrieval a.position.scope)) ?_
  rintro target _ rfl
  exact match_applyTarget alike keyed target

theorem match_allOf (alike : ev.Matches) (keyed : a.subject.IsKeyed) :
    Outcome.Match a.demand (a.allOf ev) (a.sorted.allOf ev) := by
  refine Outcome.match_ofExcept (agree_refl (elements a.limit)) ?_
  rintro schemas _ rfl
  exact match_eachWhole alike keyed schemas

theorem match_extended (alike : ev.Matches) (keyed : a.subject.IsKeyed) :
    Outcome.Match a.demand (a.extended ev) (a.sorted.extended ev) := by
  have all := match_allOf alike keyed
  rcases a with ⟨demand, position, schema, keyword, limit, subject⟩
  cases limit with
  | object members => exact alike.descend demand position (.object members) none keyed
  | _ => exact all

/-- The first schema of a choice that is satisfied is the same one. -/
theorem agree_behindFirst? (alike : ev.Matches) (keyed : a.subject.IsKeyed) (schemas : List Value) :
    Agree (· = ·) (a.behindFirst? ev schemas) (a.sorted.behindFirst? ev schemas) := by
  induction schemas with
  | nil => exact agree_ok rfl
  | cons schema rest ih =>
    refine (alike.completes a.position schema none keyed).bind ?_
    intro vs vs' same
    rw [same]
    split
    · exact agree_ok rfl
    · exact ih

theorem match_anyOf (alike : ev.Matches) (keyed : a.subject.IsKeyed) :
    Outcome.Match a.demand (a.anyOf ev) (a.sorted.anyOf ev) := by
  refine match_failsWhen ((agree_refl (elements a.limit)).bind ?_)
  rintro schemas _ rfl
  refine (agree_behindFirst? alike keyed schemas).bind ?_
  rintro behind _ rfl
  exact agree_ok rfl

theorem match_oneOf (alike : ev.Matches) (keyed : a.subject.IsKeyed) :
    Outcome.Match a.demand (a.oneOf ev) (a.sorted.oneOf ev) := by
  refine match_failsWhen ((agree_refl (elements a.limit)).bind ?_)
  rintro schemas _ rfl
  refine (agree_behindFirst? alike keyed schemas).bind ?_
  rintro behind _ rfl
  cases behind with
  | none => exact agree_ok rfl
  | some rest =>
    refine (agree_allWhere_same fun schema _ => alike.accepts a.position schema keyed).bind ?_
    rintro others _ rfl
    exact agree_ok rfl

theorem match_negation (alike : ev.Matches) (keyed : a.subject.IsKeyed) :
    Outcome.Match a.demand (a.negation ev) (a.sorted.negation ev) :=
  match_failsWhen (alike.accepts a.position a.limit keyed)

theorem match_conditional (alike : ev.Matches) (keyed : a.subject.IsKeyed) :
    Outcome.Match a.demand (a.conditional ev) (a.sorted.conditional ev) := by
  refine Outcome.match_ofExcept (alike.accepts a.position a.limit keyed) ?_
  rintro satisfied _ rfl
  have beside : forall key, a.sorted.beside? key = a.beside? key := fun _ => rfl
  rw [beside]
  cases a.beside? (if satisfied then "then" else "else") with
  | none => exact Outcome.match_clean
  | some schema => exact alike.descend a.demand a.position schema none keyed

/-! ### Types and constants -/

theorem isOfType_sorted (d : Dialect) (subject : Value) : isOfType d subject.sorted = isOfType d subject := by
  have holds : forall type : SimpleType, type.holds d subject.sorted = type.holds d subject := by
    intro type
    cases type <;> cases subject <;> rfl
  funext name
  unfold isOfType
  simp only [holds]

theorem match_type : Outcome.Match a.demand a.type a.sorted.type := by
  refine match_failsWhen (agree_of_eq ?_)
  change _ = (do let types ← listOf a.limit
                 return !(← anyWhere (isOfType a.position.dialect a.subject.sorted) types))
  rw [isOfType_sorted]

theorem agree_fitsTypeOrSchema (alike : ev.Matches) (keyed : a.subject.IsKeyed) (types : List Value) :
    Agree (· = ·) (a.fitsTypeOrSchema ev types) (a.sorted.fitsTypeOrSchema ev types) := by
  have ofType : forall type, Agree (· = ·) (isOfType a.position.dialect a.subject type)
      (isOfType a.sorted.position.dialect a.sorted.subject type) := fun type =>
    agree_of_eq (congrFun (isOfType_sorted a.position.dialect a.subject).symm type)
  induction types with
  | nil => exact agree_ok rfl
  | cons type rest ih =>
    cases type with
    | string name =>
      unfold fitsTypeOrSchema
      dsimp only
      split
      · exact agree_ok rfl
      · refine (ofType (.string name)).bind ?_
        rintro fits _ rfl
        split
        · exact agree_ok rfl
        · exact ih
    | object members =>
      refine (alike.completes a.position (.object members) none keyed).bind ?_
      intro vs vs' same
      rw [same]
      split
      · exact agree_ok rfl
      · exact ih
    | _ =>
      unfold fitsTypeOrSchema
      exact ofType _

theorem match_typeOrSchema (alike : ev.Matches) (keyed : a.subject.IsKeyed) :
    Outcome.Match a.demand (a.typeOrSchema ev) (a.sorted.typeOrSchema ev) := by
  refine match_failsWhen ((agree_refl (listOf a.limit)).bind ?_)
  rintro types _ rfl
  refine (agree_fitsTypeOrSchema alike keyed types).bind ?_
  rintro fits _ rfl
  exact agree_ok rfl

theorem match_disallow (alike : ev.Matches) (keyed : a.subject.IsKeyed) :
    Outcome.Match a.demand (a.disallow ev) (a.sorted.disallow ev) := by
  refine Outcome.match_ofExcept (agree_refl (listOf a.limit)) ?_
  rintro types _ rfl
  exact Outcome.match_each_same fun type _ => match_failsWhen (alike.accepts a.position _ keyed)

theorem match_enum (keyed : a.subject.IsKeyed) : Outcome.Match a.demand a.enum a.sorted.enum := by
  refine match_failsWhen ((agree_refl (elements a.limit)).bind ?_)
  rintro constants _ rfl
  refine agree_ok ?_
  change _ = !constants.any fun constant => constant.same a.subject.sorted
  simp only [Value.isDeep_same.sorted_right keyed]

theorem match_const (keyed : a.subject.IsKeyed) : Outcome.Match a.demand a.const a.sorted.const := by
  have same : a.sorted.const = a.sorted.failsIf (!a.subject.same a.limit) := by
    change a.sorted.failsIf (!a.subject.sorted.same a.limit) = _
    rw [Value.isDeep_same.sorted_left keyed]
  rw [same]
  exact match_failsIf _

/-! ### Numbers and texts -/

theorem match_minimumOrAbove : Outcome.Match a.demand a.minimumOrAbove a.sorted.minimumOrAbove := by
  unfold minimumOrAbove
  change Outcome.Match a.demand _
    (if a.isExclusive "exclusiveMinimum" then a.sorted.exclusiveMinimum else a.sorted.minimum)
  split
  · exact match_ofNumber fun x => match_compared x _
  · exact match_ofNumber fun x => match_compared x _

theorem match_maximumOrBelow : Outcome.Match a.demand a.maximumOrBelow a.sorted.maximumOrBelow := by
  unfold maximumOrBelow
  change Outcome.Match a.demand _
    (if a.isExclusive "exclusiveMaximum" then a.sorted.exclusiveMaximum else a.sorted.maximum)
  split
  · exact match_ofNumber fun x => match_compared x _
  · exact match_ofNumber fun x => match_compared x _

theorem match_multipleOf : Outcome.Match a.demand a.multipleOf a.sorted.multipleOf := by
  refine match_ofNumber fun x => ?_
  have limit : a.sorted.limit = a.limit := rfl
  rw [limit]
  cases a.limit.rank? with
  | none => exact Outcome.match_crashed_left _ _
  | some divisor => exact match_failsWhen (agree_refl _)

theorem match_minLength : Outcome.Match a.demand a.minLength a.sorted.minLength := by
  rcases a with ⟨demand, position, schema, keyword, limit, subject⟩
  cases subject with
  | string s => exact match_compared (.int s.length) fun x y => x.lt y
  | _ => exact Outcome.match_clean

theorem match_maxLength : Outcome.Match a.demand a.maxLength a.sorted.maxLength := by
  rcases a with ⟨demand, position, schema, keyword, limit, subject⟩
  cases subject with
  | string s => exact match_compared (.int s.length) fun x y => y.lt x
  | _ => exact Outcome.match_clean

theorem match_pattern : Outcome.Match a.demand a.pattern a.sorted.pattern := by
  rcases a with ⟨demand, position, schema, keyword, limit, subject⟩
  cases subject with
  | string s => exact match_failsWhen (agree_refl ((searchesValue limit s).map not))
  | _ => exact Outcome.match_clean

theorem match_format (rules : Rules) : Outcome.Match a.demand (a.format rules) (a.sorted.format rules) := by
  rcases a with ⟨demand, position, schema, keyword, limit, subject⟩
  unfold format
  cases rules.formats with
  | false => exact Outcome.match_clean
  | true =>
    cases limit with
    | string name =>
      cases subject with
      | string s =>
        dsimp only [sorted, Value.sorted]
        by_cases isRegex : name = Text.ofString "regex"
        · rw [if_pos rfl, if_pos isRegex]
          cases Pattern.read s with
          | ok node => exact Outcome.match_clean
          | error fault =>
            cases fault with
            | malformed => exact Outcome.match_one _
            | _ => exact Outcome.match_crashed_left _ _
        · rw [if_pos rfl, if_neg isRegex]
          exact Outcome.match_clean
      | _ => exact Outcome.match_clean
    | _ => exact Outcome.match_clean

/-! ### Arrays -/

theorem placed_sorted (first : Nat) (items : List Value) :
    placed first (items.map Value.sorted) = (placed first items).map fun item => (item.1, item.2.sorted) := by
  unfold placed
  rw [List.length_map, List.zip_map_right]
  rfl

theorem mem_of_mem_placed {first : Nat} {items : List Value} {item : Nat × Value} (member : item ∈ placed first items) :
    item.2 ∈ items :=
  (List.of_mem_zip member).2

theorem match_eachItem (alike : ev.Matches) (schema : Value) (first : Nat) {items : List Value}
    (keyed : Value.IsKeyed (.array items)) :
    Outcome.Match a.demand (a.eachItem ev schema first items)
      (a.sorted.eachItem ev schema first (items.map Value.sorted)) := by
  unfold eachItem
  rw [← List.map_drop, placed_sorted]
  refine Outcome.match_each (.refl _) fun item inside => ?_
  exact alike.descend a.demand a.position schema _ (keyed.item (List.mem_of_mem_drop (mem_of_mem_placed inside)))

theorem match_itemByItem (alike : ev.Matches) {items : List Value} (keyed : Value.IsKeyed (.array items))
    (schemas : List Value) :
    Outcome.Match a.demand (a.itemByItem ev items schemas) (a.sorted.itemByItem ev (items.map Value.sorted) schemas) := by
  unfold itemByItem
  rw [placed_sorted, List.zip_map_left]
  refine Outcome.match_each (.refl _) fun pair inside => ?_
  exact alike.descend a.demand a.position pair.2 _ (keyed.item (mem_of_mem_placed (List.of_mem_zip inside).1))

theorem match_itemsOrList (alike : ev.Matches) (keyed : a.subject.IsKeyed) :
    Outcome.Match a.demand (a.itemsOrList ev) (a.sorted.itemsOrList ev) := by
  refine match_ofArray fun items subject => ?_
  rw [subject] at keyed
  have list : Outcome.Match a.demand (.ofExcept (elements a.limit) (a.itemByItem ev items))
      (.ofExcept (elements a.limit) (a.sorted.itemByItem ev (items.map Value.sorted))) := by
    refine Outcome.match_ofExcept (agree_refl (elements a.limit)) ?_
    rintro schemas _ rfl
    exact match_itemByItem alike keyed schemas
  rcases a with ⟨demand, position, schema, keyword, limit, subject⟩
  cases limit with
  | object members => exact match_eachItem alike _ 0 keyed
  | _ => exact list

theorem match_items (alike : ev.Matches) (keyed : a.subject.IsKeyed) :
    Outcome.Match a.demand (a.items ev) (a.sorted.items ev) := by
  refine match_ofArray fun items subject => ?_
  rw [subject] at keyed
  rcases a with ⟨demand, position, schema, keyword, limit, subject⟩
  cases limit with
  | array schemas => exact match_itemByItem alike keyed schemas
  | _ => exact match_eachItem alike _ 0 keyed

theorem match_leadingItems (alike : ev.Matches) (keyed : a.subject.IsKeyed) :
    Outcome.Match a.demand (a.leadingItems ev) (a.sorted.leadingItems ev) := by
  refine match_ofArray fun items subject => ?_
  rw [subject] at keyed
  refine Outcome.match_ofExcept (agree_refl (elements a.limit)) ?_
  rintro schemas _ rfl
  exact match_itemByItem alike keyed schemas

theorem match_remainingItems (alike : ev.Matches) (keyed : a.subject.IsKeyed) :
    Outcome.Match a.demand (a.remainingItems ev) (a.sorted.remainingItems ev) := by
  refine match_ofArray fun items subject => ?_
  rw [subject] at keyed
  refine Outcome.match_ofExcept (agree_refl (a.countBeside "prefixItems")) ?_
  rintro first _ rfl
  rw [List.length_map]
  split
  · exact Outcome.match_clean
  · rcases a with ⟨demand, position, schema, keyword, limit, subject⟩
    cases limit with
    | bool b =>
      cases b with
      | false => exact match_fails
      | true => exact match_eachItem alike _ first keyed
    | _ => exact match_eachItem alike _ first keyed

theorem match_additionalItems (alike : ev.Matches) (keyed : a.subject.IsKeyed) :
    Outcome.Match a.demand (a.additionalItems ev) (a.sorted.additionalItems ev) := by
  refine match_ofArray fun items subject => ?_
  rw [subject] at keyed
  have beside : a.sorted.beside? "items" = a.beside? "items" := rfl
  rw [beside]
  cases a.beside? "items" with
  | none => exact Outcome.match_clean
  | some schemas =>
    cases schemas with
    | object members => exact Outcome.match_clean
    | _ =>
      refine Outcome.match_ofExcept (agree_refl _) ?_
      rintro first _ rfl
      rw [List.length_map]
      rcases a with ⟨demand, position, schema, keyword, limit, subject⟩
      cases limit with
      | object members => exact match_eachItem alike _ first keyed
      | _ => exact match_failsIf _

theorem match_contains (alike : ev.Matches) (keyed : a.subject.IsKeyed) :
    Outcome.Match a.demand (a.contains ev) (a.sorted.contains ev) := by
  refine match_ofArray fun items subject => match_failsWhen ?_
  rw [subject] at keyed
  refine (agree_anyWhere fun item inside => alike.accepts a.position a.limit (keyed.item inside)).bind ?_
  rintro fits _ rfl
  exact agree_ok rfl

/-- The number of items that fit is the same, as far as it is counted. -/
theorem agree_countFitting {fits fits' : Value -> Except Crash Bool} {items : List Value}
    (each : forall v, v ∈ items -> Agree (· = ·) (fits v) (fits' v.sorted)) (tooMany : Nat -> Except Crash Bool)
    (fitting : Nat) :
    Agree (· = ·) (countFitting fits tooMany fitting items)
      (countFitting fits' tooMany fitting (items.map Value.sorted)) := by
  induction items generalizing fitting with
  | nil => exact agree_ok rfl
  | cons v rest ih =>
    have others := fun fitting => ih (fun u inside => each u (List.mem_cons_of_mem _ inside)) fitting
    refine (each v (List.mem_cons_self ..)).bind ?_
    rintro doesFit _ rfl
    cases doesFit with
    | false => exact others fitting
    | true =>
      refine (agree_refl (tooMany (fitting + 1))).bind ?_
      rintro enough _ rfl
      cases enough with
      | true => exact agree_ok rfl
      | false => exact others (fitting + 1)

theorem match_failsBeside (key : Text) : Outcome.Match a.demand (a.failsBeside key) (a.sorted.failsBeside key) :=
  Outcome.match_one _

theorem match_containsBetween (alike : ev.Matches) (keyed : a.subject.IsKeyed) :
    Outcome.Match a.demand (a.containsBetween ev) (a.sorted.containsBetween ev) := by
  refine match_ofArray fun items subject => ?_
  rw [subject] at keyed
  rw [List.length_map]
  refine Outcome.match_ofExcept (agree_refl (a.position.adopt a.limit)) ?_
  rintro _ _ rfl
  refine Outcome.match_ofExcept
    (agree_countFitting (fun v inside => alike.accepts a.position a.limit (keyed.item inside)) _ 0) ?_
  rintro fitting _ rfl
  refine Outcome.match_ofExcept (agree_refl _) ?_
  rintro excess _ rfl
  cases excess with
  | true => exact match_failsBeside _
  | false =>
    refine Outcome.match_ofExcept (agree_refl _) ?_
    rintro lacking _ rfl
    cases lacking with
    | false => exact Outcome.match_clean
    | true =>
      split
      · exact Outcome.match_clean
      · split
        · exact match_fails
        · exact match_failsBeside _

theorem match_comparedCount (count : Nat) (bad : Number -> Number -> Bool) :
    Outcome.Match a.demand (a.comparedCount count bad) (a.sorted.comparedCount count bad) :=
  match_compared (.int count) bad

theorem match_minItems : Outcome.Match a.demand a.minItems a.sorted.minItems := by
  refine match_ofArray fun items _ => ?_
  rw [List.length_map]
  exact match_comparedCount _ _

theorem match_maxItems : Outcome.Match a.demand a.maxItems a.sorted.maxItems := by
  refine match_ofArray fun items _ => ?_
  rw [List.length_map]
  exact match_comparedCount _ _

theorem match_uniqueItems (keyed : a.subject.IsKeyed) : Outcome.Match a.demand a.uniqueItems a.sorted.uniqueItems := by
  refine match_ofArray fun items subject => ?_
  rw [subject] at keyed
  rw [Value.allDifferent_sorted fun v inside => keyed.item inside]
  exact match_failsIf _

/-! ### Objects -/

/-- One thing after another is done for the members of an object. -/
theorem match_eachMember {search search' : Text × Value -> Outcome} {members : Members}
    (same : forall m, m ∈ members -> Outcome.Match a.demand (search m) (search' (m.1, m.2.sorted))) :
    Outcome.Match a.demand (a.each search members) (a.sorted.each search' (Members.sorted members)) :=
  Outcome.match_each (Members.sorted_perm members) same

/-- A schema applies to the member of a name, if there is one. -/
theorem match_byName (alike : ev.Matches) {members : Members} (keyed : Value.IsKeyed (.object members)) (name : Text)
    (schema : Value) {absent absent' : Outcome} (same : Outcome.Match a.demand absent absent') :
    Outcome.Match a.demand
      (match Members.get? name members with
        | some v => a.descend ev schema v (some (.key name))
        | none => absent)
      (match Members.get? name (Members.sorted members) with
        | some v => a.sorted.descend ev schema v (some (.key name))
        | none => absent') := by
  rw [Members.get?_sorted keyed.distinct]
  cases found : Members.get? name members with
  | none => exact same
  | some v => exact alike.descend a.demand a.position schema _ (keyed.member (Members.mem_of_get? found))

theorem match_properties (alike : ev.Matches) (keyed : a.subject.IsKeyed) :
    Outcome.Match a.demand (a.properties ev) (a.sorted.properties ev) := by
  refine match_ofObject fun members subject => ?_
  rw [subject] at keyed
  refine Outcome.match_ofExcept (agree_refl (entries a.limit)) ?_
  rintro schemas _ rfl
  exact Outcome.match_each_same fun entry _ => match_byName alike keyed entry.1 entry.2 Outcome.match_clean

theorem match_propertiesAndRequired (alike : ev.Matches) (keyed : a.subject.IsKeyed) :
    Outcome.Match a.demand (a.propertiesAndRequired ev) (a.sorted.propertiesAndRequired ev) := by
  refine match_ofObject fun members subject => ?_
  rw [subject] at keyed
  refine Outcome.match_ofExcept (agree_refl (entries a.limit)) ?_
  rintro schemas _ rfl
  refine Outcome.match_each_same fun entry _ => match_byName alike keyed entry.1 entry.2 ?_
  refine Outcome.match_ofExcept (agree_refl (entries entry.2)) ?_
  rintro schema _ rfl
  cases Members.get? "required" schema with
  | none => exact Outcome.match_clean
  | some limit =>
    dsimp only
    split
    · exact Outcome.match_one (a.unsetMember entry.1 limit)
    · exact Outcome.match_clean

theorem match_patternProperties (alike : ev.Matches) (keyed : a.subject.IsKeyed) :
    Outcome.Match a.demand (a.patternProperties ev) (a.sorted.patternProperties ev) := by
  refine match_ofObject fun members subject => ?_
  rw [subject] at keyed
  refine Outcome.match_ofExcept (agree_refl (entries a.limit)) ?_
  rintro schemas _ rfl
  refine Outcome.match_each_same fun entry _ => match_eachMember fun member inside => ?_
  refine Outcome.match_ofExcept (agree_refl (searches entry.1 member.1)) ?_
  rintro found _ rfl
  cases found with
  | false => exact Outcome.match_clean
  | true => exact alike.descend a.demand a.position entry.2 _ (keyed.member inside)

/-- The members that nothing else in the schema speaks of are the same, up to their order. -/
theorem agree_extraMembers (schema members : Members) :
    Agree (fun extra extra' => extra'.Perm (extra.map fun m => (m.1, m.2.sorted))) (extraMembers schema members)
      (extraMembers schema (Members.sorted members)) := by
  refine (agree_refl (joinedPatterns schema)).bind ?_
  rintro patterns _ rfl
  exact agree_allWhere (Members.sorted_perm members) fun member _ => agree_refl _

theorem match_additionalProperties (alike : ev.Matches) (keyed : a.subject.IsKeyed) :
    Outcome.Match a.demand (a.additionalProperties ev) (a.sorted.additionalProperties ev) := by
  refine match_ofObject fun members subject => ?_
  rw [subject] at keyed
  have agree : Agree (fun extra extra' => (forall m, m ∈ extra -> m ∈ members) ∧
      extra'.Perm (extra.map fun m => (m.1, m.2.sorted))) (extraMembers a.schema members)
      (extraMembers a.schema (Members.sorted members)) := by
    intro extra extra' done done'
    obtain ⟨patterns, -, kept⟩ := bind_eq_ok_iff.mp done
    obtain ⟨-, rfl⟩ := allWhere_eq_ok kept
    exact ⟨fun m inside => List.mem_of_mem_filter inside, agree_extraMembers a.schema members _ _ done done'⟩
  refine Outcome.match_ofExcept agree ?_
  rintro extra extra' ⟨among, perm⟩
  have forbidden : forall limit, Outcome.Match a.demand (a.failsIf (!isGiven limit && !extra.isEmpty))
      (a.sorted.failsIf (!isGiven limit && !extra'.isEmpty)) := by
    intro limit
    rw [perm.isEmpty_eq, List.isEmpty_map]
    exact match_failsIf _
  rcases a with ⟨demand, position, schema, keyword, limit, subject⟩
  cases limit with
  | object schemas =>
    exact Outcome.match_each perm fun member inside => alike.descend demand position _ _ (keyed.member (among _ inside))
  | _ => exact forbidden _

theorem match_propertyNames (alike : ev.Matches) :
    Outcome.Match a.demand (a.propertyNames ev) (a.sorted.propertyNames ev) :=
  match_ofObject fun _ _ => match_eachMember fun member _ =>
    alike.descend a.demand a.position a.limit none (.string member.1)

theorem match_minProperties : Outcome.Match a.demand a.minProperties a.sorted.minProperties := by
  refine match_ofObject fun members _ => ?_
  rw [Members.length_sorted]
  exact match_compared (.int members.length) fun x y => x.lt y

theorem match_maxProperties : Outcome.Match a.demand a.maxProperties a.sorted.maxProperties := by
  refine match_ofObject fun members _ => ?_
  rw [Members.length_sorted]
  exact match_compared (.int members.length) fun x y => y.lt x

/-! ### Presence -/

theorem hasMember_sorted (members : Members) (name : Value) :
    hasMember (Members.sorted members) name = hasMember members name := by
  cases name with
  | string s => exact congrArg Except.ok (Members.has_sorted members s)
  | _ => rfl

theorem match_demands (members : Members) (names : List Value) :
    Outcome.Match a.demand (a.demands members names) (a.sorted.demands (Members.sorted members) names) := by
  refine Outcome.match_each_same fun name _ => match_failsWhen (agree_of_eq ?_)
  rw [hasMember_sorted]

/-- A value lists the names of members that are demanded. -/
theorem match_demandsListed (members : Members) (names : Value) :
    Outcome.Match a.demand (.ofExcept (elements names) (a.demands members))
      (.ofExcept (elements names) (a.sorted.demands (Members.sorted members))) := by
  refine Outcome.match_ofExcept (agree_refl (elements names)) ?_
  rintro listed _ rfl
  exact match_demands members listed

theorem match_required : Outcome.Match a.demand a.required a.sorted.required := by
  refine match_ofObject fun members _ => ?_
  exact match_demandsListed members a.limit

theorem match_eachPresent {check check' : Members -> Value -> Outcome}
    (same : forall members v, Outcome.Match a.demand (check members v) (check' (Members.sorted members) v)) :
    Outcome.Match a.demand (a.eachPresent check) (a.sorted.eachPresent check') := by
  refine match_ofObject fun members _ => ?_
  refine Outcome.match_ofExcept (agree_refl (entries a.limit)) ?_
  rintro dependencies _ rfl
  refine Outcome.match_each_same fun entry _ => ?_
  rw [Members.has_sorted]
  split
  · exact same members entry.2
  · exact Outcome.match_clean

theorem match_dependentRequired : Outcome.Match a.demand a.dependentRequired a.sorted.dependentRequired :=
  match_eachPresent match_demandsListed

theorem match_dependentSchemas (alike : ev.Matches) (keyed : a.subject.IsKeyed) :
    Outcome.Match a.demand (a.dependentSchemas ev) (a.sorted.dependentSchemas ev) :=
  match_eachPresent fun _ schema => alike.descend a.demand a.position schema none keyed

theorem match_dependencies (alike : ev.Matches) (keyed : a.subject.IsKeyed) :
    Outcome.Match a.demand (a.dependencies ev) (a.sorted.dependencies ev) := by
  refine match_eachPresent fun members dependency => ?_
  cases dependency with
  | array names => exact match_demands members names
  | _ => exact alike.descend a.demand a.position _ none keyed

theorem match_dependenciesOfAnyKind (alike : ev.Matches) (keyed : a.subject.IsKeyed) :
    Outcome.Match a.demand (a.dependenciesOfAnyKind ev) (a.sorted.dependenciesOfAnyKind ev) := by
  refine match_eachPresent fun members dependency => ?_
  cases dependency with
  | object schema => exact alike.descend a.demand a.position (.object schema) none keyed
  | string name => exact match_demands members [.string name]
  | _ => exact match_demandsListed members _

end Assertion

end Schema
end SchemaLint
