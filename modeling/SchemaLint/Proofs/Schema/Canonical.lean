import SchemaLint.Proofs.Schema.Looking

/-!
# Evaluation and the order of keys

Keyword by keyword and level by level, what is found in a value agrees with what is found in the value with its keys in
order.  The levels of the evaluator carry the induction: the lowest one crashes, whatever it is asked, and crashes go along
with anything.
-/

namespace SchemaLint
namespace Schema

open Json

variable {ev : Evaluator}

/-- What any keyword says about a value agrees with what it says about the value with its keys in order. -/
theorem Assertion.match_check (alike : ev.Matches) (rules : Rules) {a : Assertion} (keyed : a.subject.IsKeyed)
    (keyword : Keyword) : Outcome.Match a.demand (a.check rules ev keyword) (a.sorted.check rules ev keyword) := by
  cases keyword with
  | reference => exact match_reference alike keyed rules
  | recursiveReference => exact match_recursiveReference alike keyed rules
  | additionalItems => exact match_additionalItems alike keyed
  | additionalProperties => exact match_additionalProperties alike keyed
  | allOf => exact match_allOf alike keyed
  | anyOf => exact match_anyOf alike keyed
  | oneOf => exact match_oneOf alike keyed
  | not => exact match_negation alike keyed
  | conditional => exact match_conditional alike keyed
  | const => exact match_const keyed
  | enum => exact match_enum keyed
  | contains => exact match_contains alike keyed
  | containsBetween => exact match_containsBetween alike keyed
  | dependenciesOfAnyKind => exact match_dependenciesOfAnyKind alike keyed
  | dependencies => exact match_dependencies alike keyed
  | dependentRequired => exact match_dependentRequired
  | dependentSchemas => exact match_dependentSchemas alike keyed
  | disallow => exact match_disallow alike keyed
  | extended => exact match_extended alike keyed
  | exclusiveMaximum => exact match_ofNumber fun x => match_compared x _
  | exclusiveMinimum => exact match_ofNumber fun x => match_compared x _
  | maximumOrBelow => exact match_maximumOrBelow
  | minimumOrAbove => exact match_minimumOrAbove
  | maximum => exact match_ofNumber fun x => match_compared x _
  | minimum => exact match_ofNumber fun x => match_compared x _
  | multipleOf => exact match_multipleOf
  | format => exact match_format rules
  | itemsOrList => exact match_itemsOrList alike keyed
  | items => exact match_items alike keyed
  | remainingItems => exact match_remainingItems alike keyed
  | leadingItems => exact match_leadingItems alike keyed
  | maxItems => exact match_maxItems
  | minItems => exact match_minItems
  | maxLength => exact match_maxLength
  | minLength => exact match_minLength
  | maxProperties => exact match_maxProperties
  | minProperties => exact match_minProperties
  | pattern => exact match_pattern
  | patternProperties => exact match_patternProperties alike keyed
  | properties => exact match_properties alike keyed
  | propertiesAndRequired => exact match_propertiesAndRequired alike keyed
  | propertyNames => exact match_propertyNames alike
  | required => exact match_required
  | type => exact match_type
  | typeOrSchema => exact match_typeOrSchema alike keyed
  | unevaluatedItems => exact match_unevaluatedItems alike keyed rules
  | unevaluatedProperties => exact match_unevaluatedProperties alike keyed rules
  | uniqueItems => exact match_uniqueItems keyed

variable {subject : Value}

theorem match_evaluate (alike : ev.Matches) (rules : Rules) (demand : Demand) (outer : Dialect) (p : Position)
    (schema : Value) (keyed : subject.IsKeyed) :
    Outcome.Match demand (evaluate rules ev demand outer p schema subject)
      (evaluate rules ev demand outer p schema subject.sorted) := by
  have checks : forall schema member, Outcome.Match demand (checkMember rules ev demand p schema subject member)
      (checkMember rules ev demand p schema subject.sorted member) := by
    intro schema member
    unfold checkMember
    cases Keyword.ofName? p.dialect member.1 with
    | none => exact Outcome.match_clean
    | some keyword =>
      let a : Assertion := ⟨demand, p, schema, member.1, member.2, subject⟩
      exact a.match_check alike rules keyed keyword
  unfold evaluate
  split
  · exact Outcome.match_clean
  · exact Outcome.match_one _
  · exact Outcome.match_each_same fun member _ => checks _ member
  · exact Outcome.match_crashed_left _ _

/-- An evaluator does not notice the order of keys if the one below it does not. -/
theorem Evaluator.Matches.above (alike : ev.Matches) (rules : Rules) : (Evaluator.above rules ev).Matches where
  apply demand outer p schema _ keyed := match_evaluate alike rules demand outer p schema keyed
  keys _ _ schema _ keyed := agree_evaluatedKeys alike keyed schema
  places _ _ schema _ keyed := agree_evaluatedPlaces alike keyed schema

theorem Evaluator.matches_ofLevel (rules : Rules) (n : Nat) : (Evaluator.ofLevel rules n).Matches := by
  induction n with
  | zero =>
    constructor
    · intros
      exact Outcome.match_crashed_left _ _
    · intros
      exact agree_error _ _
    · intros
      exact agree_error _ _
  | succ n ih => exact ih.above rules

/-- What is found in a value and what is found in the value with its keys in order agree. -/
theorem match_run (rules : Rules) (d : Dialect) (demand : Demand) (schema : Value) (keyed : subject.IsKeyed) :
    Outcome.Match demand (run rules d demand schema subject) (run rules d demand schema subject.sorted) := by
  refine Outcome.match_ofExcept (agree_refl (Scope.ofSchema d schema)) ?_
  rintro scope _ rfl
  exact match_evaluate (Evaluator.matches_ofLevel rules levels) rules demand d ⟨d, scope⟩ schema keyed

end Schema
end SchemaLint
