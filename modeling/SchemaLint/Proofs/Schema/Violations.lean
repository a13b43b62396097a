import SchemaLint.Schema.Evaluation
import SchemaLint.Proofs.Schema.Agreement

/-!
# What evaluation finds

A keyword raises violations of its own and passes on those of the schemas that it applies to the subject or to parts of
it.  Whatever is true of every violation that a keyword raises, and is carried over from a part of the subject to the
subject, is therefore true of every violation that an evaluation finds.  The levels of the evaluator carry the
induction: no keyword is recursive, so a property of the evaluator one level below gives the property one level above.

At the end stands what the keywords about required and additional members promise: each of their violations is raised
for a name that is really missing, or for a member that nothing else in the schema speaks of.
-/

namespace SchemaLint
namespace Schema

open Json

/-! ## Outcomes -/

namespace Outcome

/-- Every violation that was found has a property. -/
def All (P : Violation -> Prop) (o : Outcome) : Prop :=
  forall v, v ∈ o.found -> P v

variable {P : Violation -> Prop}

theorem all_clean : clean.All P := by
  intro v member
  exact absurd member List.not_mem_nil

theorem all_crashed (c : Crash) : (crashed c).All P := by
  intro v member
  exact absurd member List.not_mem_nil

theorem all_one {v : Violation} (h : P v) : (one v).All P := by
  intro w member
  have same : w = v := List.mem_singleton.mp member
  rw [same]
  exact h

theorem all_andThen {demand : Demand} {o : Outcome} {next : Unit -> Outcome}
    (first : o.All P) (others : (next ()).All P) : (andThen demand o next).All P := by
  unfold andThen
  split
  · exact first
  · intro v member
    rcases List.mem_append.mp member with early | late
    · exact first v early
    · exact others v late

/-- A search that ends early has found no more than one that goes on. -/
theorem all_each {α : Type} {demand : Demand} {search : α -> Outcome} (xs : List α)
    (h : forall x, x ∈ xs -> (search x).All P) : (each demand search xs).All P := by
  induction xs with
  | nil => exact all_clean
  | cons x rest ih =>
      rw [each]
      apply all_andThen
      · exact h x List.mem_cons_self
      · exact ih (fun y member => h y (List.mem_cons_of_mem x member))

theorem all_ofExcept {α : Type} {e : Except Crash α} {search : α -> Outcome}
    (h : forall x, e = .ok x -> (search x).All P) : (ofExcept e search).All P := by
  cases e with
  | ok x => exact h x rfl
  | error c => exact all_crashed c

end Outcome

/-- What a keyword applies schemas to, and the step that leads there: a member or an item of the subject, or without any
step the subject itself or the name of a member. -/
inductive Reaches : Value -> Option PathPart -> Value -> Prop
  | stay (subject : Value) : Reaches subject none subject
  | name {members : Members} {member : Text × Value} (inside : member ∈ members) :
      Reaches (.object members) none (.string member.1)
  | member {members : Members} {member : Text × Value} (inside : member ∈ members) :
      Reaches (.object members) (some (.key member.1)) member.2
  | item {items : List Value} {i : Nat} {v : Value} (found : items[i]? = some v) :
      Reaches (.array items) (some (.index i)) v

/-- A property of a subject and a violation that is carried over from what keywords apply schemas to, and that the schema
which nothing satisfies never breaks. -/
structure Violation.Steady (P : Value -> Violation -> Prop) : Prop where
  under : forall {subject part v} (w : Violation), Reaches subject (some part) v -> P v w ->
    P subject { w with path := part :: w.path }
  within : forall {subject v} (w : Violation), Reaches subject none v -> P v w -> P subject w
  unsatisfiable : forall subject v : Value, P subject (.unsatisfiable v)

/-! ## Evaluators -/

/-- An evaluator that finds only violations with a property. -/
def Evaluator.Finds (P : Value -> Violation -> Prop) (ev : Evaluator) : Prop :=
  forall demand outer p schema subject, (ev.apply demand outer p schema subject).All (P subject)

namespace Evaluator

variable {P : Value -> Violation -> Prop} {ev : Evaluator}

theorem all_enter (steady : Violation.Steady P) (finds : ev.Finds P) {demand : Demand} {p : Position}
    {scope : Except Crash Scope} {schema subject : Value} :
    (ev.enter demand p scope schema subject).All (P subject) := by
  unfold enter
  split
  · exact Outcome.all_clean
  · exact Outcome.all_one (steady.unsatisfiable subject subject)
  · apply Outcome.all_ofExcept
    intro inner _
    apply Outcome.all_ofExcept
    intro position _
    exact finds demand p.dialect position schema subject

theorem all_descend (steady : Violation.Steady P) (finds : ev.Finds P) {demand : Demand} {p : Position}
    {schema subject v : Value} {part : Option PathPart} (reaches : Reaches subject part v) :
    (ev.descend demand p schema v part).All (P subject) := by
  unfold descend
  split
  next b =>
      cases b with
      | true => exact Outcome.all_clean
      | false => exact Outcome.all_one (steady.unsatisfiable subject v)
  next =>
      have found : (ev.enter demand p (p.scope.inside ⟨p.dialect, schema⟩) schema v).All (P v) := all_enter steady finds
      cases part with
      | none => exact fun w member => steady.within w reaches (found w member)
      | some part =>
          intro w member
          rcases List.mem_map.mp member with ⟨w', inside, rfl⟩
          exact steady.under w' reaches (found w' inside)

end Evaluator

/-! ## Keywords

Every keyword is covered by what it raises itself and by what the evaluator below finds.  The lemmas on the shapes that
keywords share come first; after them each keyword takes its shape. -/

namespace Assertion

variable {P : Violation -> Prop} {ev : Evaluator} {a : Assertion}

theorem all_failsIf (own : P a.violation) (bad : Bool) : (a.failsIf bad).All P := by
  unfold failsIf
  split
  · exact Outcome.all_one own
  · exact Outcome.all_clean

theorem all_failsWhen (own : P a.violation) (bad : Except Crash Bool) : (a.failsWhen bad).All P :=
  Outcome.all_ofExcept (fun b _ => all_failsIf own b)

/-- What a keyword finds by applying schemas has a property. -/
structure Passes (P : Violation -> Prop) (ev : Evaluator) (a : Assertion) : Prop where
  descend : forall {schema v part}, Reaches a.subject part v -> (a.descend ev schema v part).All P
  target : forall target, (a.applyTarget ev target).All P

/-- What a keyword finds by applying schemas to its subject as a whole has the property. -/
theorem Passes.whole (passes : a.Passes P ev) {schema : Value} : (a.descend ev schema a.subject none).All P :=
  passes.descend (.stay a.subject)

theorem all_each {α : Type} {search : α -> Outcome} {xs : List α} (h : forall x, x ∈ xs -> (search x).All P) :
    (a.each search xs).All P :=
  Outcome.all_each xs h

theorem all_ofObject {check : Members -> Outcome}
    (h : forall members, a.subject = .object members -> (check members).All P) : (a.ofObject check).All P := by
  unfold ofObject
  split
  next members subject => exact h members subject
  next => exact Outcome.all_clean

theorem all_ofArray {check : List Value -> Outcome}
    (h : forall items, a.subject = .array items -> (check items).All P) : (a.ofArray check).All P := by
  unfold ofArray
  split
  next items subject => exact h items subject
  next => exact Outcome.all_clean

theorem all_ofNumber {check : Number -> Outcome} (h : forall x, (check x).All P) :
    (a.ofNumber check).All P := by
  unfold ofNumber
  split
  · exact h _
  · exact Outcome.all_clean

theorem all_compared (own : P a.violation) (x : Number) (bad : Number -> Number -> Bool) :
    (a.compared x bad).All P := by
  unfold compared
  split
  · exact all_failsIf own _
  · exact Outcome.all_crashed _

theorem all_comparedCount (own : P a.violation) (count : Nat) (bad : Number -> Number -> Bool) :
    (a.comparedCount count bad).All P := by
  unfold comparedCount
  split
  · exact all_failsIf own _
  · exact Outcome.all_crashed _

theorem reaches_placed {items : List Value} {first : Nat} {item : Nat × Value}
    (member : item ∈ placed first (items.drop first)) : Reaches (.array items) (some (.index item.1)) item.2 := by
  apply Reaches.item
  rcases List.mem_iff_getElem?.mp member with ⟨i, found⟩
  rcases List.getElem?_zip_eq_some.mp found with ⟨index, value⟩
  have inside := (List.getElem?_eq_some_iff.mp value).1
  rw [List.getElem?_range' inside, Nat.one_mul] at index
  rw [← Option.some.inj index, ← value, List.getElem?_drop]

theorem all_eachItem (passes : a.Passes P ev) (schema : Value) (first : Nat) {items : List Value}
    (subject : a.subject = .array items) : (a.eachItem ev schema first items).All P := by
  apply all_each
  intro item member
  apply passes.descend
  rw [subject]
  exact reaches_placed member

theorem all_itemByItem (passes : a.Passes P ev) {items : List Value} (subject : a.subject = .array items)
    (schemas : List Value) : (a.itemByItem ev items schemas).All P := by
  apply all_each
  intro pair member
  apply passes.descend
  rw [subject]
  exact @reaches_placed items 0 _ (List.of_mem_zip member).1

theorem all_demands (own : P a.violation) (members : Members) (names : List Value) :
    (a.demands members names).All P :=
  all_each (fun _ _ => all_failsWhen own _)

theorem all_eachPresent {check : Members -> Value -> Outcome}
    (h : forall members v, (check members v).All P) : (a.eachPresent check).All P := by
  apply all_ofObject
  intro members _
  apply Outcome.all_ofExcept
  intro dependencies _
  apply all_each
  intro entry _
  split
  · exact h members entry.2
  · exact Outcome.all_clean

/-! ### References and combinations -/

theorem all_reference (passes : a.Passes P ev) (rules : Rules) : (a.reference rules ev).All P := by
  apply Outcome.all_ofExcept
  intro ref _
  apply Outcome.all_ofExcept
  intro target _
  exact passes.target target

theorem all_recursiveReference (passes : a.Passes P ev) (rules : Rules) : (a.recursiveReference rules ev).All P := by
  apply Outcome.all_ofExcept
  intro target _
  exact passes.target target

theorem all_allOf (passes : a.Passes P ev) : (a.allOf ev).All P := by
  apply Outcome.all_ofExcept
  intro schemas _
  exact all_each (fun _ _ => passes.whole)

theorem all_extended (passes : a.Passes P ev) : (a.extended ev).All P := by
  unfold extended
  split
  · exact passes.whole
  · exact all_allOf passes

theorem all_conditional (passes : a.Passes P ev) : (a.conditional ev).All P := by
  apply Outcome.all_ofExcept
  intro satisfied _
  split
  · exact passes.whole
  · exact Outcome.all_clean

theorem all_disallow (own : P a.violation) : (a.disallow ev).All P := by
  apply Outcome.all_ofExcept
  intro types _
  exact all_each (fun _ _ => all_failsWhen own _)

/-! ### Objects -/

theorem reaches_get? {members : Members} {name : Text} {v : Value} (found : Members.get? name members = some v) :
    Reaches (.object members) (some (.key name)) v :=
  .member (Members.mem_of_get? found)

theorem all_properties (passes : a.Passes P ev) : (a.properties ev).All P := by
  apply all_ofObject
  intro members subject
  apply Outcome.all_ofExcept
  intro schemas _
  apply all_each
  intro entry _
  split
  next found =>
    apply passes.descend
    rw [subject]
    exact reaches_get? found
  next => exact Outcome.all_clean

/-- The one keyword that raises a violation in another one's name: a member of the oldest draft says itself that it is
required. -/
theorem all_propertiesAndRequired (passes : a.Passes P ev)
    (unset : forall members name limit, a.subject = .object members -> Members.get? name members = none ->
      isGiven limit = true -> P (a.unsetMember name limit)) :
    (a.propertiesAndRequired ev).All P := by
  apply all_ofObject
  intro members subject
  apply Outcome.all_ofExcept
  intro schemas _
  apply all_each
  intro entry _
  split
  next found =>
    apply passes.descend
    rw [subject]
    exact reaches_get? found
  next absent =>
    apply Outcome.all_ofExcept
    intro schema _
    split
    next limit _ =>
      split
      next given => exact Outcome.all_one (unset members entry.1 limit subject absent given)
      next => exact Outcome.all_clean
    next => exact Outcome.all_clean

theorem all_patternProperties (passes : a.Passes P ev) : (a.patternProperties ev).All P := by
  apply all_ofObject
  intro members subject
  apply Outcome.all_ofExcept
  intro schemas _
  apply all_each
  intro entry _
  apply all_each
  intro member inside
  apply Outcome.all_ofExcept
  intro found _
  split
  · apply passes.descend
    rw [subject]
    exact .member inside
  · exact Outcome.all_clean

theorem extraMembers_subset {schema members found : Members} (computed : extraMembers schema members = .ok found)
    {member : Text × Value} (inside : member ∈ found) : member ∈ members := by
  rcases bind_eq_ok_iff.mp computed with ⟨patterns, -, tested⟩
  exact ((mem_allWhere_iff tested member).mp inside).1

theorem all_additionalProperties (passes : a.Passes P ev)
    (extra : forall members found, a.subject = .object members -> extraMembers a.schema members = .ok found ->
      found ≠ [] -> isGiven a.limit = false -> P a.violation) :
    (a.additionalProperties ev).All P := by
  apply all_ofObject
  intro members subject
  apply Outcome.all_ofExcept
  intro found computed
  split
  next =>
    apply all_each
    intro member inside
    apply passes.descend
    rw [subject]
    exact .member (extraMembers_subset computed inside)
  next =>
    unfold failsIf
    split
    next bad =>
      simp only [Bool.and_eq_true, Bool.not_eq_eq_eq_not, Bool.not_true, List.isEmpty_eq_false_iff] at bad
      exact Outcome.all_one (extra members found subject computed bad.2 bad.1)
    next => exact Outcome.all_clean

theorem all_propertyNames (passes : a.Passes P ev) : (a.propertyNames ev).All P := by
  apply all_ofObject
  intro members subject
  apply all_each
  intro member inside
  apply passes.descend
  rw [subject]
  exact .name inside

theorem all_minProperties (own : P a.violation) : a.minProperties.All P := by
  apply all_ofObject
  intro members _
  split
  · exact all_failsIf own _
  · exact Outcome.all_crashed _

theorem all_maxProperties (own : P a.violation) : a.maxProperties.All P := by
  apply all_ofObject
  intro members _
  split
  · exact all_failsIf own _
  · exact Outcome.all_crashed _

/-- A violation of this keyword is raised for one of the names, and no member has that name. -/
theorem all_required
    (demanded : forall members names name, a.subject = .object members -> elements a.limit = .ok names ->
      name ∈ names -> hasMember members name = .ok false -> P a.violation) :
    a.required.All P := by
  apply all_ofObject
  intro members subject
  apply Outcome.all_ofExcept
  intro names listed
  apply Outcome.all_each
  intro name member
  apply Outcome.all_ofExcept
  intro bad missing
  unfold failsIf
  split
  next isBad =>
    have lacks : hasMember members name = .ok false := by
      cases held : hasMember members name with
      | error c => simp [held, Except.map] at missing
      | ok b => cases b <;> simp_all [Except.map]
    exact Outcome.all_one (demanded members names name subject listed member lacks)
  next => exact Outcome.all_clean

theorem all_dependentRequired (own : P a.violation) : a.dependentRequired.All P := by
  apply all_eachPresent
  intro members names
  exact Outcome.all_ofExcept (fun listed _ => all_demands own members listed)

theorem all_dependentSchemas (passes : a.Passes P ev) : (a.dependentSchemas ev).All P :=
  all_eachPresent (fun _ _ => passes.whole)

theorem all_dependencies (passes : a.Passes P ev) (own : P a.violation) : (a.dependencies ev).All P := by
  apply all_eachPresent
  intro members dependency
  split
  · exact all_demands own members _
  · exact passes.whole

theorem all_dependenciesOfAnyKind (passes : a.Passes P ev) (own : P a.violation) :
    (a.dependenciesOfAnyKind ev).All P := by
  apply all_eachPresent
  intro members dependency
  split
  · exact passes.whole
  · exact all_demands own members _
  · exact Outcome.all_ofExcept (fun listed _ => all_demands own members listed)

theorem all_unevaluatedProperties (own : P a.violation) (rules : Rules) :
    (a.unevaluatedProperties rules ev).All P := by
  unfold unevaluatedProperties
  split
  · exact all_failsWhen own _
  · exact Outcome.all_clean

/-! ### Arrays -/

theorem all_itemsOrList (passes : a.Passes P ev) : (a.itemsOrList ev).All P := by
  apply all_ofArray
  intro items subject
  split
  · exact all_eachItem passes _ _ subject
  · exact Outcome.all_ofExcept (fun schemas _ => all_itemByItem passes subject schemas)

theorem all_items (passes : a.Passes P ev) : (a.items ev).All P := by
  apply all_ofArray
  intro items subject
  split
  · exact all_itemByItem passes subject _
  · exact all_eachItem passes _ _ subject

theorem all_leadingItems (passes : a.Passes P ev) : (a.leadingItems ev).All P := by
  apply all_ofArray
  intro items subject
  exact Outcome.all_ofExcept (fun schemas _ => all_itemByItem passes subject schemas)

theorem all_remainingItems (passes : a.Passes P ev) (own : P a.violation) : (a.remainingItems ev).All P := by
  apply all_ofArray
  intro items subject
  apply Outcome.all_ofExcept
  intro first _
  split
  · exact Outcome.all_clean
  · split
    · exact Outcome.all_one own
    · exact all_eachItem passes _ _ subject

theorem all_additionalItems (passes : a.Passes P ev) (own : P a.violation) : (a.additionalItems ev).All P := by
  apply all_ofArray
  intro items subject
  split
  · exact Outcome.all_clean
  · exact Outcome.all_clean
  · apply Outcome.all_ofExcept
    intro first _
    split
    · exact all_eachItem passes _ _ subject
    · exact all_failsIf own _

theorem all_contains (own : P a.violation) : (a.contains ev).All P :=
  all_ofArray (fun _ _ => all_failsWhen own _)

/-- Too many and too few items are violations of the keywords beside this one. -/
theorem all_containsBetween (own : P a.violation)
    (beside : forall key, key = Text.ofString "minContains" ∨ key = Text.ofString "maxContains" ->
      forall limit, P { a.violation with keyword := some key, limit }) :
    (a.containsBetween ev).All P := by
  apply all_ofArray
  intro items _
  apply Outcome.all_ofExcept
  intro _ _
  apply Outcome.all_ofExcept
  intro fitting _
  apply Outcome.all_ofExcept
  intro excess _
  split
  · exact Outcome.all_one (beside _ (Or.inr rfl) _)
  · apply Outcome.all_ofExcept
    intro lacking _
    split
    · exact Outcome.all_clean
    · split
      · exact Outcome.all_one own
      · exact Outcome.all_one (beside _ (Or.inl rfl) _)

theorem all_unevaluatedItems (own : P a.violation) (rules : Rules) : (a.unevaluatedItems rules ev).All P :=
  all_ofArray (fun _ _ => all_failsWhen own _)

/-! ### Single values -/

theorem all_minimumOrAbove (own : P a.violation) : a.minimumOrAbove.All P := by
  unfold minimumOrAbove
  split
  · exact all_ofNumber (fun x => all_compared own x _)
  · exact all_ofNumber (fun x => all_compared own x _)

theorem all_maximumOrBelow (own : P a.violation) : a.maximumOrBelow.All P := by
  unfold maximumOrBelow
  split
  · exact all_ofNumber (fun x => all_compared own x _)
  · exact all_ofNumber (fun x => all_compared own x _)

theorem all_multipleOf (own : P a.violation) : a.multipleOf.All P := by
  apply all_ofNumber
  intro x
  split
  · exact all_failsWhen own _
  · exact Outcome.all_crashed _

theorem all_minLength (own : P a.violation) : a.minLength.All P := by
  unfold minLength
  split
  · exact all_compared own _ _
  · exact Outcome.all_clean

theorem all_maxLength (own : P a.violation) : a.maxLength.All P := by
  unfold maxLength
  split
  · exact all_compared own _ _
  · exact Outcome.all_clean

theorem all_pattern (own : P a.violation) : a.pattern.All P := by
  unfold pattern
  split
  · exact all_failsWhen own _
  · exact Outcome.all_clean

theorem all_format (own : P a.violation) (rules : Rules) : (a.format rules).All P := by
  unfold format
  repeat' split
  · exact Outcome.all_clean
  · exact Outcome.all_one own
  · exact Outcome.all_crashed _
  · exact Outcome.all_clean
  · exact Outcome.all_clean
  · exact Outcome.all_clean

/-! ### All keywords -/

/-- A keyword raises only violations with a property.  Two keywords are held to what they checked, and one of them may
speak in the name of another. -/
structure Raises (P : Violation -> Prop) (a : Assertion) (keyword : Keyword) : Prop where
  own : keyword ≠ .required ∧ keyword ≠ .additionalProperties -> P a.violation
  beside : forall key, key = Text.ofString "minContains" ∨ key = Text.ofString "maxContains" ->
    forall limit, P { a.violation with keyword := some key, limit }
  unset : forall members name limit, a.subject = .object members -> Members.get? name members = none ->
    isGiven limit = true -> P (a.unsetMember name limit)
  demanded : keyword = .required -> forall members names name, a.subject = .object members ->
    elements a.limit = .ok names -> name ∈ names -> hasMember members name = .ok false -> P a.violation
  extra : keyword = .additionalProperties -> forall members found, a.subject = .object members ->
    extraMembers a.schema members = .ok found -> found ≠ [] -> isGiven a.limit = false -> P a.violation

theorem all_check (passes : a.Passes P ev) (rules : Rules) (keyword : Keyword)
    (raises : Raises P a keyword) : (a.check rules ev keyword).All P := by
  have own := raises.own
  cases keyword with
  | required => exact all_required (raises.demanded rfl)
  | additionalProperties => exact all_additionalProperties passes (raises.extra rfl)
  | propertiesAndRequired => exact all_propertiesAndRequired passes raises.unset
  | containsBetween => exact all_containsBetween (own (by decide)) raises.beside
  | reference => exact all_reference passes rules
  | recursiveReference => exact all_recursiveReference passes rules
  | allOf => exact all_allOf passes
  | extended => exact all_extended passes
  | conditional => exact all_conditional passes
  | disallow => exact all_disallow (own (by decide))
  | properties => exact all_properties passes
  | patternProperties => exact all_patternProperties passes
  | propertyNames => exact all_propertyNames passes
  | minProperties => exact all_minProperties (own (by decide))
  | maxProperties => exact all_maxProperties (own (by decide))
  | dependentRequired => exact all_dependentRequired (own (by decide))
  | dependentSchemas => exact all_dependentSchemas passes
  | dependencies => exact all_dependencies passes (own (by decide))
  | dependenciesOfAnyKind => exact all_dependenciesOfAnyKind passes (own (by decide))
  | unevaluatedProperties => exact all_unevaluatedProperties (own (by decide)) rules
  | itemsOrList => exact all_itemsOrList passes
  | items => exact all_items passes
  | leadingItems => exact all_leadingItems passes
  | remainingItems => exact all_remainingItems passes (own (by decide))
  | additionalItems => exact all_additionalItems passes (own (by decide))
  | contains => exact all_contains (own (by decide))
  | unevaluatedItems => exact all_unevaluatedItems (own (by decide)) rules
  | minItems => exact all_ofArray (fun _ _ => all_comparedCount (own (by decide)) _ _)
  | maxItems => exact all_ofArray (fun _ _ => all_comparedCount (own (by decide)) _ _)
  | uniqueItems => exact all_ofArray (fun _ _ => all_failsIf (own (by decide)) _)
  | minimumOrAbove => exact all_minimumOrAbove (own (by decide))
  | maximumOrBelow => exact all_maximumOrBelow (own (by decide))
  | minimum => exact all_ofNumber (fun x => all_compared (own (by decide)) x _)
  | maximum => exact all_ofNumber (fun x => all_compared (own (by decide)) x _)
  | exclusiveMinimum => exact all_ofNumber (fun x => all_compared (own (by decide)) x _)
  | exclusiveMaximum => exact all_ofNumber (fun x => all_compared (own (by decide)) x _)
  | multipleOf => exact all_multipleOf (own (by decide))
  | minLength => exact all_minLength (own (by decide))
  | maxLength => exact all_maxLength (own (by decide))
  | pattern => exact all_pattern (own (by decide))
  | format => exact all_format (own (by decide)) rules
  | anyOf => exact all_failsWhen (own (by decide)) _
  | oneOf => exact all_failsWhen (own (by decide)) _
  | not => exact all_failsWhen (own (by decide)) _
  | const => exact all_failsIf (own (by decide)) _
  | enum => exact all_failsWhen (own (by decide)) _
  | type => exact all_failsWhen (own (by decide)) _
  | typeOrSchema => exact all_failsWhen (own (by decide)) _

end Assertion

/-! ## Evaluation -/

/-- Every keyword that a name stands for raises only violations with a property. -/
def RaisesAlways (P : Value -> Violation -> Prop) : Prop :=
  forall (a : Assertion) (keyword : Keyword),
    Keyword.ofName? a.position.dialect a.keyword = some keyword -> a.Raises (P a.subject) keyword

/-- Every keyword that a name stands for finds only violations with a property, if the schemas that it applies do. -/
def FindsAlways (P : Value -> Violation -> Prop) : Prop :=
  forall (rules : Rules) (ev : Evaluator) (a : Assertion) (keyword : Keyword),
    Keyword.ofName? a.position.dialect a.keyword = some keyword -> a.Passes (P a.subject) ev ->
    (a.check rules ev keyword).All (P a.subject)

variable {P : Value -> Violation -> Prop}

theorem RaisesAlways.finds (raises : RaisesAlways P) : FindsAlways P :=
  fun rules _ a keyword known passes => Assertion.all_check passes rules keyword (raises a keyword known)

theorem passes_of_finds (steady : Violation.Steady P) {ev : Evaluator} (finds : ev.Finds P) (a : Assertion) :
    a.Passes (P a.subject) ev where
  descend := fun reaches => Evaluator.all_descend steady finds reaches
  target := fun _ => Evaluator.all_enter steady finds

theorem all_checkMember (steady : Violation.Steady P) (always : FindsAlways P) {ev : Evaluator}
    (finds : ev.Finds P) (rules : Rules) (demand : Demand) (p : Position) (schema : Members) (subject : Value)
    (member : Text × Value) : (checkMember rules ev demand p schema subject member).All (P subject) := by
  unfold checkMember
  split
  next => exact Outcome.all_clean
  next keyword known => exact always rules ev _ keyword known (passes_of_finds steady finds _)

/-- One level: what is true of all violations from below is true of all violations found here. -/
theorem finds_above (steady : Violation.Steady P) (always : FindsAlways P) (rules : Rules) {ev : Evaluator}
    (finds : ev.Finds P) : (Evaluator.above rules ev).Finds P := by
  intro demand outer p schema subject
  change (evaluate rules ev demand outer p schema subject).All (P subject)
  unfold evaluate
  split
  · exact Outcome.all_clean
  · exact Outcome.all_one (steady.unsatisfiable subject subject)
  · exact Outcome.all_each _ (fun member _ => all_checkMember steady always finds rules demand p _ subject member)
  · exact Outcome.all_crashed _

theorem finds_ofLevel (steady : Violation.Steady P) (always : FindsAlways P) (rules : Rules) (level : Nat) :
    (Evaluator.ofLevel rules level).Finds P := by
  induction level with
  | zero =>
      intro demand outer p schema subject
      exact Outcome.all_crashed _
  | succ level ih => exact finds_above steady always rules ih

/-- Every violation of a whole evaluation has a property if every keyword finds only such violations. -/
theorem all_run_of_finds (steady : Violation.Steady P) (always : FindsAlways P) (rules : Rules) (d : Dialect)
    (demand : Demand) (schema subject : Value) : (run rules d demand schema subject).All (P subject) := by
  apply Outcome.all_ofExcept
  intro scope _
  exact finds_above steady always rules (finds_ofLevel steady always rules levels) demand d ⟨d, scope⟩ schema subject

/-- Every violation of a whole evaluation has the property. -/
theorem all_run (steady : Violation.Steady P) (raises : RaisesAlways P) (rules : Rules) (d : Dialect)
    (demand : Demand) (schema subject : Value) : (run rules d demand schema subject).All (P subject) :=
  all_run_of_finds steady raises.finds rules d demand schema subject

/-! ## Missing and additional members -/

namespace Violation

/-- The schema demands a list of names, and the object lacks one of them. -/
def LacksName (v : Violation) : Prop :=
  exists members names name, v.subject = .object members ∧ elements v.limit = .ok names ∧ name ∈ names ∧
    hasMember members name = .ok false

/-- The schema of a member says that it is required, and the object lacks the member, to which the way leads. -/
def LacksMember (v : Violation) : Prop :=
  exists members name, v.subject = .object members ∧ v.path.getLast? = some (.key name) ∧
    Members.get? name members = none ∧ isGiven v.limit = true

/-- The object has members that nothing else in the schema speaks of, and none may be there. -/
def HasExtra (v : Violation) : Prop :=
  exists schema members found, v.schema = .object schema ∧ v.subject = .object members ∧
    Assertion.extraMembers schema members = .ok found ∧ found ≠ [] ∧ isGiven v.limit = false

/-- What is true of every violation that an evaluation finds: those about required and additional members are raised for
a reason. -/
structure Grounded (v : Violation) : Prop where
  required : v.keyword = some (Text.ofString "required") -> v.LacksName ∨ v.LacksMember
  additional : v.keyword = some (Text.ofString "additionalProperties") -> v.HasExtra

theorem grounded_of_keyword {v : Violation} (required : v.keyword ≠ some (Text.ofString "required"))
    (additional : v.keyword ≠ some (Text.ofString "additionalProperties")) : Grounded v where
  required := fun same => absurd same required
  additional := fun same => absurd same additional

theorem steady_grounded : Steady (fun _ => Grounded) where
  under := by
    intro _ part _ v _ grounded
    refine ⟨fun same => ?_, fun same => grounded.additional same⟩
    rcases grounded.required same with lacks | ⟨members, name, subject, last, absent, given⟩
    · exact Or.inl lacks
    · refine Or.inr ⟨members, name, subject, ?_, absent, given⟩
      change (part :: v.path).getLast? = some (.key name)
      rw [List.getLast?_cons, last]
      rfl
  within := fun _ _ grounded => grounded
  unsatisfiable := by
    intro _ subject
    exact grounded_of_keyword (by simp [unsatisfiable]) (by simp [unsatisfiable])

end Violation

/-- In no draft do the two names stand for other keywords. -/
theorem ofName?_required {d : Dialect} {keyword : Keyword}
    (known : Keyword.ofName? d (Text.ofString "required") = some keyword) : keyword = .required := by
  have table : Keyword.ofName? d (Text.ofString "required") = none ∨
      Keyword.ofName? d (Text.ofString "required") = some .required := by
    cases d <;> decide
  rcases table with none | some
  · rw [none] at known
    cases known
  · rw [some] at known
    exact (Option.some.inj known).symm

theorem ofName?_additionalProperties {d : Dialect} {keyword : Keyword}
    (known : Keyword.ofName? d (Text.ofString "additionalProperties") = some keyword) :
    keyword = .additionalProperties := by
  have table : Keyword.ofName? d (Text.ofString "additionalProperties") = some .additionalProperties := by
    cases d <;> decide
  rw [table] at known
  exact (Option.some.inj known).symm

/-- A keyword with another name and meaning raises nothing about required or additional members. -/
theorem grounded_own {a : Assertion} {keyword : Keyword}
    (known : Keyword.ofName? a.position.dialect a.keyword = some keyword)
    (other : keyword ≠ .required ∧ keyword ≠ .additionalProperties) : a.violation.Grounded := by
  apply Violation.grounded_of_keyword
  · intro same
    have name : a.keyword = Text.ofString "required" := Option.some.inj same
    rw [name] at known
    exact other.1 (ofName?_required known)
  · intro same
    have name : a.keyword = Text.ofString "additionalProperties" := Option.some.inj same
    rw [name] at known
    exact other.2 (ofName?_additionalProperties known)

theorem raisesAlways_grounded : RaisesAlways (fun _ => Violation.Grounded) := by
  intro a keyword known
  refine ⟨grounded_own known, ?beside, ?unset, ?demanded, ?extra⟩
  case beside =>
    intro key bound limit
    apply Violation.grounded_of_keyword
    · rcases bound with least | most
      · simp only [least]
        decide
      · simp only [most]
        decide
    · rcases bound with least | most
      · simp only [least]
        decide
      · simp only [most]
        decide
  case unset =>
    intro members name limit subject absent given
    refine ⟨fun _ => Or.inr ⟨members, name, subject, rfl, absent, given⟩, fun same => ?_⟩
    exact absurd same (by simp only [Assertion.unsetMember]; decide)
  case demanded =>
    intro meaning members names name subject listed member missing
    refine ⟨fun _ => Or.inl ⟨members, names, name, subject, listed, member, missing⟩, fun same => ?_⟩
    have name : a.keyword = Text.ofString "additionalProperties" := Option.some.inj same
    rw [name] at known
    exact absurd ((ofName?_additionalProperties known).symm.trans meaning) (by decide)
  case extra =>
    intro meaning members found subject computed nonempty given
    refine ⟨fun same => ?_, fun _ => ⟨a.schema, members, found, rfl, subject, computed, nonempty, given⟩⟩
    have name : a.keyword = Text.ofString "required" := Option.some.inj same
    rw [name] at known
    exact absurd ((ofName?_required known).symm.trans meaning) (by decide)

/-- Whatever schema is evaluated in whatever draft, its violations about required and additional members are raised for
a reason. -/
theorem grounded_run (rules : Rules) (d : Dialect) (demand : Demand) (schema subject : Value) :
    (run rules d demand schema subject).All Violation.Grounded :=
  all_run Violation.steady_grounded raisesAlways_grounded rules d demand schema subject

end Schema
end SchemaLint
