import SchemaLint.Proofs.Schema.Crashes

/-!
# What evaluations crash for

The accounts of what a schema has looked at apply the parts of the schema once more, and crash for the same reasons.  So
every keyword crashes for a known reason, and level by level so does every evaluation: it comes to a schema that is to
blame.
-/

namespace SchemaLint
namespace Schema

open Json

variable {rules : Rules} {Q : Crash -> Prop} {Known : Position -> Value -> Value -> Prop} {p : Position}
  {schema : Members} {subject : Value} {ev : Evaluator}

/-! ## What a schema has looked at -/

namespace Explains

section References

variable {α : Type} {collect : Position -> Value -> Except Crash (List α)}

theorem behindTarget (explains : Explains rules Q Known p schema subject)
    (collects : forall p' part, Known p' part subject -> FailsFor Q (collect p' part)) {target : Target}
    (refers : Refers rules p schema target) : FailsFor Q (behindTarget p collect target) := by
  have drafts : FailsFor Q (dialectOf p.dialect target.schema) :=
    fun _ undrafted => explains.unfit (.targetDialect refers undrafted)
  refine (drafts.bind fun _ _ => failsFor_ok _).bind fun inner adopted => ?_
  obtain ⟨d, drafted, done⟩ := bind_eq_ok_iff.mp adopted
  cases done
  exact collects _ _ (explains.target refers drafted)

theorem behindKeyword (explains : Explains rules Q Known p schema subject)
    (collects : forall p' part, Known p' part subject -> FailsFor Q (collect p' part)) {key : String}
    (known : key ∈ ["$ref", "$dynamicRef"]) : FailsFor Q (behindKeyword rules p schema collect key) := by
  unfold Schema.behindKeyword
  split
  · exact failsFor_ok []
  · exact failsFor_ok []
  next ref found =>
    have said := says_of_get? found known
    refine FailsFor.bind (fun _ lost => explains.unfit (.lost (.reference said lost))) fun target led => ?_
    exact explains.behindTarget collects (.reference said led)
  next v _ noText found =>
    have untold : Assertion.referenceText v = .error .attribute := by
      cases v with
      | string ref => exact absurd rfl (noText ref)
      | _ => rfl
    exact failsFor_error (explains.unfit (.misshapen (.reference (says_of_get? found known) untold)))

theorem behindReferences (explains : Explains rules Q Known p schema subject)
    (collects : forall p' part, Known p' part subject -> FailsFor Q (collect p' part)) (survey : Survey) :
    FailsFor Q (behindReferences survey rules p schema collect) := by
  rw [behindReferences_eq]
  refine (explains.behindKeyword collects (by decide)).bind fun plain _ => ?_
  cases survey with
  | early =>
    dsimp only
    split
    next has =>
      obtain ⟨v, found⟩ := Option.isSome_iff_exists.mp has
      have said : Says schema ["$recursiveRef"] v := says_of_get? found (by decide)
      refine FailsFor.bind (fun _ lost => explains.unfit (.lost (.recursion said lost))) fun target led => ?_
      exact (explains.behindTarget collects (.recursion said led)).bind fun _ _ => failsFor_ok _
    next => exact failsFor_ok _
  | late => exact (explains.behindKeyword collects (by decide)).bind fun _ _ => failsFor_ok _

end References

theorem conditionParts (explains : Explains rules Q Known p schema subject) (below : ev.CrashesFor Q Known) :
    FailsFor Q (conditionParts ev p schema subject) := by
  unfold Schema.conditionParts
  split
  next => exact failsFor_ok []
  next condition found =>
    refine (explains.accepts below (.whole (says_of_get? found (by decide))) .whole).bind fun satisfied _ => ?_
    cases satisfied <;> exact failsFor_ok _

theorem satisfiedParts (explains : Explains rules Q Known p schema subject) (below : ev.CrashesFor Q Known) :
    FailsFor Q (satisfiedParts ev p schema subject) := by
  refine (failsFor_mapM fun key member => ?_).bind fun _ _ => failsFor_ok _
  split
  next => exact failsFor_ok []
  next v found =>
    have known : forall key, key ∈ ["allOf", "oneOf", "anyOf"] -> key ∈ schemaListNames := by decide
    have said := says_of_get? found (known key member)
    refine (explains.list (said.mono (by decide))).bind fun parts lists => failsFor_allWhere fun part inside => ?_
    exact explains.acceptsWithin below (.listed said lists inside) .whole

end Explains

theorem part_of_conditionParts {parts : List Value} (chosen : conditionParts ev p schema subject = .ok parts)
    {part : Value} (member : part ∈ parts) : Part schema part := by
  unfold conditionParts at chosen
  split at chosen
  next =>
    cases chosen
    cases member
  next condition found =>
    have isPart : forall key : String, key ∈ schemaNames -> part ∈ (Members.get? key schema).toList ->
        Part schema part :=
      fun key known inside => .whole (says_of_get? (Option.mem_toList.mp inside) known)
    obtain ⟨satisfied, -, done⟩ := bind_eq_ok_iff.mp chosen
    cases satisfied with
    | true =>
      cases done
      rcases List.mem_cons.mp member with rfl | inside
      · exact .whole (says_of_get? found (by decide))
      · exact isPart "then" (by decide) inside
    | false =>
      cases done
      exact isPart "else" (by decide) member

theorem part_of_satisfiedParts {parts : List Value} (chosen : satisfiedParts ev p schema subject = .ok parts)
    {part : Value} (member : part ∈ parts) : Part schema part := by
  obtain ⟨choices, each, done⟩ := bind_eq_ok_iff.mp chosen
  cases done
  obtain ⟨choice, listed, inside⟩ := List.mem_flatten.mp member
  obtain ⟨key, isKey, tested⟩ := exists_of_mem_mapM each listed
  have known : forall key, key ∈ ["allOf", "oneOf", "anyOf"] -> key ∈ schemaListNames := by decide
  split at tested
  next =>
    cases tested
    cases inside
  next v found =>
    obtain ⟨listedParts, lists, tested⟩ := bind_eq_ok_iff.mp tested
    obtain ⟨-, rfl⟩ := allWhere_eq_ok tested
    exact .listed (says_of_get? found (known key isKey)) lists (List.mem_filter.mp inside).1

theorem part_of_demandedSchemas {members : Members} {parts : List Value}
    (demanded : demandedSchemas schema members = .ok parts) {part : Value} (member : part ∈ parts) :
    Part schema part := by
  unfold demandedSchemas at demanded
  split at demanded
  next =>
    cases demanded
    cases member
  next v found =>
    obtain ⟨inner, mapped, done⟩ := bind_eq_ok_iff.mp demanded
    cases done
    obtain ⟨entry, kept, rfl⟩ := List.mem_map.mp member
    rw [Assertion.eq_object_of_entries mapped] at found
    exact .mapped (says_of_get? found (by decide)) (List.mem_filter.mp kept).1

/-- What is known of a schema of any kind: it explains its crashes if it is an object, and what it crashes for as no
schema is known. -/
structure Accounts (rules : Rules) (Q : Crash -> Prop) (Known : Position -> Value -> Value -> Prop) (p : Position)
    (v subject : Value) : Prop where
  explains : forall {schema}, v = .object schema -> Explains rules Q Known p schema subject
  stray : (forall b, v ≠ .bool b) -> v.members? = none -> Q .attribute ∧ Q .type

theorem Accounts.keywordsOf {v : Value} (accounts : Accounts rules Q Known p v subject)
    (notTruth : forall b, v ≠ .bool b) : FailsFor Q (keywordsOf v) := by
  unfold Schema.keywordsOf
  split
  next => exact failsFor_ok _
  next notObject =>
    have none : v.members? = none := by
      cases v with
      | object members => exact absurd rfl (notObject members)
      | _ => rfl
    exact failsFor_error (accounts.stray notTruth none).1

theorem eq_object_of_keywordsOf {v : Value} {members : Members} (schema : keywordsOf v = .ok members) :
    v = .object members := by
  cases v <;> cases schema
  rfl

/-! ### Members -/

section Keys

variable {members : Members}

theorem Explains.keysSatisfying (explains : Explains rules Q Known p schema (.object members))
    (below : ev.CrashesFor Q Known) {key : String} (known : key ∈ schemaNames) :
    FailsFor Q (keysSatisfying ev p schema members key) := by
  unfold Schema.keysSatisfying
  split
  next => exact failsFor_ok []
  next => exact failsFor_ok []
  next part _ found =>
    refine (failsFor_allWhere fun m member => ?_).bind fun _ _ => failsFor_ok _
    exact explains.acceptsWithin below (.whole (says_of_get? found known)) (.member rfl member)

theorem Explains.keysSpokenOf (explains : Explains rules Q Known p schema (.object members))
    (below : ev.CrashesFor Q Known) (survey : Survey) : FailsFor Q (keysSpokenOf survey ev p schema members) := by
  have known : forall key, key ∈ ["additionalProperties", "unevaluatedProperties"] -> key ∈ schemaNames := by decide
  cases survey with
  | early => exact failsFor_ok _
  | late =>
    refine (failsFor_mapM fun key member => ?_).bind fun _ _ => failsFor_ok _
    exact explains.keysSatisfying below (known key member)

theorem Explains.keysMatching (explains : Explains rules Q Known p schema subject) (members : Members) :
    FailsFor Q (keysMatching schema members) := by
  unfold Schema.keysMatching
  split
  next => exact failsFor_ok []
  next v found =>
    refine (failsFor_allWhere fun m _ => ?_).bind fun _ _ => failsFor_ok _
    refine (explains.list (says_of_get? found (by decide))).bind fun patterns lists => ?_
    refine (failsFor_allWhere fun pattern member => ?_).bind fun _ _ => failsFor_ok _
    exact fun _ unread => explains.unfit (.illegible (.listed (says_of_get? found (by decide)) lists member unread))

theorem Explains.demandedSchemas (explains : Explains rules Q Known p schema subject) (members : Members) :
    FailsFor Q (demandedSchemas schema members) := by
  unfold Schema.demandedSchemas
  split
  next => exact failsFor_ok []
  next v found => exact (explains.map (says_of_get? found (by decide))).bind fun _ _ => failsFor_ok _

theorem failsFor_evaluatedKeys {v : Value} (accounts : Accounts rules Q Known p v (.object members))
    (below : ev.CrashesFor Q Known) (survey : Survey) : FailsFor Q (evaluatedKeys rules ev survey p v members) := by
  unfold evaluatedKeys
  split
  next => exact failsFor_ok []
  next notTruth =>
    refine (accounts.keywordsOf notTruth).bind fun schema isSchema => ?_
    have explains := accounts.explains (eq_object_of_keywordsOf isSchema)
    have collects : forall {parts : List Value}, (forall part, part ∈ parts -> Part schema part) ->
        FailsFor Q (parts.mapM fun part => ev.keys survey p part members) :=
      fun areParts => failsFor_mapM fun part member =>
        below.keys (explains.part (areParts part member) ⟨.inl rfl, .inl rfl⟩ .whole)
    refine (explains.behindReferences (fun _ _ known => below.keys known) survey).bind fun behind _ => ?_
    refine (explains.keysSpokenOf below survey).bind fun spokenOf _ => ?_
    refine (explains.keysMatching members).bind fun matching _ => ?_
    refine (explains.demandedSchemas members).bind fun parts demanded => ?_
    refine (collects fun _ => part_of_demandedSchemas demanded).bind fun _ _ => ?_
    refine (explains.satisfiedParts below).bind fun parts chosen => ?_
    refine (collects fun _ => part_of_satisfiedParts chosen).bind fun _ _ => ?_
    refine (explains.conditionParts below).bind fun parts chosen => ?_
    exact (collects fun _ => part_of_conditionParts chosen).bind fun _ _ => failsFor_ok _

end Keys

/-! ### Items -/

section Places

variable {items : List Value}

theorem Explains.placesSatisfying (explains : Explains rules Q Known p schema (.array items))
    (below : ev.CrashesFor Q Known) {key : String} (known : key ∈ schemaNames) :
    FailsFor Q (placesSatisfying ev p schema items key) := by
  unfold Schema.placesSatisfying
  split
  next => exact failsFor_ok []
  next part found =>
    refine (failsFor_allWhere fun item member => ?_).bind fun _ _ => failsFor_ok _
    exact explains.accepts below (.whole (says_of_get? found known)) (.item rfl (Assertion.mem_of_mem_placed member))

theorem Explains.leadingPlaces (explains : Explains rules Q Known p schema subject) (survey : Survey) :
    FailsFor Q (leadingPlaces survey schema) := by
  unfold Schema.leadingPlaces
  split
  · split
    next => exact failsFor_ok _
    next v found =>
      split
      · exact failsFor_ok none
      · exact (explains.count (says_of_get? found (by decide))).map
  · split
    next => exact failsFor_ok _
    next v found => exact (explains.count (says_of_get? found (by decide))).map

theorem Accounts.speaksOfAllItems {v : Value} (accounts : Accounts rules Q Known p v subject)
    (notTruth : forall b, v ≠ .bool b) (survey : Survey) : FailsFor Q (speaksOfAllItems survey v) := by
  cases survey with
  | early => exact failsFor_ok false
  | late =>
    cases v with
    | object | array | string => exact failsFor_ok _
    | null | bool | int | float => exact failsFor_error (accounts.stray notTruth rfl).2

theorem failsFor_evaluatedPlaces {v : Value} (accounts : Accounts rules Q Known p v (.array items))
    (below : ev.CrashesFor Q Known) (survey : Survey) : FailsFor Q (evaluatedPlaces rules ev survey p v items) := by
  unfold evaluatedPlaces
  split
  next => exact failsFor_ok []
  next notTruth =>
    have known : forall key, key ∈ ["contains", "unevaluatedItems"] -> key ∈ schemaNames := by decide
    refine (accounts.speaksOfAllItems notTruth survey).bind fun all _ => ?_
    split
    · exact failsFor_ok _
    · refine (accounts.keywordsOf notTruth).bind fun schema isSchema => ?_
      have explains := accounts.explains (eq_object_of_keywordsOf isSchema)
      have collects : forall {parts : List Value}, (forall part, part ∈ parts -> Part schema part) ->
          FailsFor Q (parts.mapM fun part => ev.places survey p part items) :=
        fun areParts => failsFor_mapM fun part member =>
          below.places (explains.part (areParts part member) ⟨.inl rfl, .inl rfl⟩ .whole)
      refine (explains.behindReferences (fun _ _ known => below.places known) survey).bind fun behind _ => ?_
      refine (explains.leadingPlaces survey).bind fun leading _ => ?_
      cases leading with
      | none => exact failsFor_ok _
      | some leading =>
        refine (explains.conditionParts below).bind fun parts chosen => ?_
        refine (collects fun _ => part_of_conditionParts chosen).bind fun _ _ => ?_
        refine (failsFor_mapM fun key member => explains.placesSatisfying below (known key member)).bind fun _ _ => ?_
        refine (explains.satisfiedParts below).bind fun parts chosen => ?_
        exact (collects fun _ => part_of_satisfiedParts chosen).bind fun _ _ => failsFor_ok _

end Places

/-! ## All keywords -/

namespace Assertion

variable {a : Assertion}

theorem accounts_self (explains : Explains rules Q Known a.position a.schema a.subject) :
    Accounts rules Q Known a.position (.object a.schema) a.subject where
  explains := by
    rintro _ ⟨⟩
    exact explains
  stray := nofun

section Unevaluated

variable (explains : Explains rules Q Known a.position a.schema a.subject) (below : ev.CrashesFor Q Known)

include explains below

theorem crashesFor_unevaluatedItems : (a.unevaluatedItems rules ev).CrashesFor Q := by
  refine crashesFor_ofArray fun items array => crashesFor_failsWhen ?_
  have accounts := accounts_self explains
  rw [array] at accounts
  exact (failsFor_evaluatedPlaces accounts below _).bind fun _ _ => failsFor_ok _

theorem crashesFor_unevaluatedProperties (said : Says a.schema ["unevaluatedProperties"] a.limit) :
    (a.unevaluatedProperties rules ev).CrashesFor Q := by
  unfold unevaluatedProperties
  split
  next members object =>
    have accounts := accounts_self explains
    rw [object] at accounts
    refine crashesFor_failsWhen ((failsFor_evaluatedKeys accounts below _).bind fun seen _ => ?_)
    refine (failsFor_allWhere fun m member => ?_).bind fun _ _ => failsFor_ok _
    have offers : Offers a.subject m.2 := .member object (List.mem_filter.mp member).1
    exact (explains.completes below (.whole (said.mono (by decide))) offers).bind fun _ _ => failsFor_ok _
  next => exact Outcome.crashesFor_clean

end Unevaluated

theorem crashesFor_check (explains : Explains rules Q Known a.position a.schema a.subject)
    (below : ev.CrashesFor Q Known) {keyword : Keyword}
    (meant : Keyword.ofName? a.position.dialect a.keyword = some keyword) (inside : (a.keyword, a.limit) ∈ a.schema) :
    (a.check rules ev keyword).CrashesFor Q := by
  have said : forall {names : List String},
      (forall entry, entry ∈ Dialect.all.flatMap Keyword.table -> entry.2 = keyword -> entry.1 ∈ names) ->
        Says a.schema names a.limit := says_of_ofName? meant inside
  cases keyword with
  | reference => exact crashesFor_reference explains below (said (by decide +kernel))
  | recursiveReference => exact crashesFor_recursiveReference explains below (said (by decide +kernel))
  | additionalItems => exact crashesFor_additionalItems explains below (said (by decide +kernel))
  | additionalProperties => exact crashesFor_additionalProperties explains below (said (by decide +kernel))
  | allOf => exact crashesFor_allOf explains below (said (by decide +kernel))
  | anyOf => exact crashesFor_anyOf explains below (said (by decide +kernel))
  | oneOf => exact crashesFor_oneOf explains below (said (by decide +kernel))
  | not => exact crashesFor_negation explains below (said (by decide +kernel))
  | conditional => exact crashesFor_conditional explains below (said (by decide +kernel))
  | const => exact crashesFor_failsIf _
  | enum => exact crashesFor_enum explains (said (by decide +kernel))
  | contains => exact crashesFor_contains explains below (said (by decide +kernel))
  | containsBetween => exact crashesFor_containsBetween explains below (said (by decide +kernel))
  | dependenciesOfAnyKind => exact crashesFor_dependenciesOfAnyKind explains below (said (by decide +kernel))
  | dependencies => exact crashesFor_dependencies explains below (said (by decide +kernel))
  | dependentRequired => exact crashesFor_dependentRequired explains (said (by decide +kernel))
  | dependentSchemas => exact crashesFor_dependentSchemas explains below (said (by decide +kernel))
  | disallow => exact crashesFor_disallow explains below (said (by decide +kernel))
  | extended => exact crashesFor_extended explains below (said (by decide +kernel))
  | exclusiveMaximum => exact crashesFor_bound explains (said (by decide +kernel)) _
  | exclusiveMinimum => exact crashesFor_bound explains (said (by decide +kernel)) _
  | maximumOrBelow => exact crashesFor_maximumOrBelow explains (said (by decide +kernel))
  | minimumOrAbove => exact crashesFor_minimumOrAbove explains (said (by decide +kernel))
  | maximum => exact crashesFor_bound explains (said (by decide +kernel)) _
  | minimum => exact crashesFor_bound explains (said (by decide +kernel)) _
  | multipleOf => exact crashesFor_multipleOf explains (said (by decide +kernel))
  | format => exact crashesFor_format explains (said (by decide +kernel))
  | itemsOrList => exact crashesFor_itemsOrList explains below (said (by decide +kernel))
  | items => exact crashesFor_items explains below (said (by decide +kernel))
  | remainingItems => exact crashesFor_remainingItems explains below (said (by decide +kernel))
  | leadingItems => exact crashesFor_leadingItems explains below (said (by decide +kernel))
  | maxItems => exact crashesFor_itemBound explains (said (by decide +kernel)) _
  | minItems => exact crashesFor_itemBound explains (said (by decide +kernel)) _
  | maxLength => exact crashesFor_maxLength explains (said (by decide +kernel))
  | minLength => exact crashesFor_minLength explains (said (by decide +kernel))
  | maxProperties => exact crashesFor_maxProperties explains (said (by decide +kernel))
  | minProperties => exact crashesFor_minProperties explains (said (by decide +kernel))
  | pattern => exact crashesFor_pattern explains (said (by decide +kernel))
  | patternProperties => exact crashesFor_patternProperties explains below (said (by decide +kernel))
  | properties => exact crashesFor_properties explains below (said (by decide +kernel))
  | propertiesAndRequired => exact crashesFor_propertiesAndRequired explains below (said (by decide +kernel))
  | propertyNames => exact crashesFor_propertyNames explains below (said (by decide +kernel))
  | required => exact crashesFor_required explains (said (by decide +kernel))
  | type => exact crashesFor_type explains (said (by decide +kernel))
  | typeOrSchema => exact crashesFor_typeOrSchema explains below (said (by decide +kernel))
  | unevaluatedItems => exact crashesFor_unevaluatedItems explains below
  | unevaluatedProperties => exact crashesFor_unevaluatedProperties explains below (said (by decide +kernel))
  | uniqueItems => exact crashesFor_ofArray fun _ _ => crashesFor_failsIf _

end Assertion

/-! ## Evaluation -/

theorem mem_of_mem_effective {outer : Dialect} {member : Text × Value} (counts : member ∈ effective outer schema) :
    member ∈ schema := by
  unfold effective at counts
  split at counts
  · split at counts
    next => exact counts
    next => exact counts
    next ref _ found =>
      obtain rfl := List.mem_singleton.mp counts
      exact Members.mem_of_get? found
  · exact counts

theorem crashesFor_evaluate {v : Value} (accounts : Accounts rules Q Known p v subject) (below : ev.CrashesFor Q Known)
    (demand : Demand) (outer : Dialect) : (evaluate rules ev demand outer p v subject).CrashesFor Q := by
  unfold evaluate
  split
  next => exact Outcome.crashesFor_clean
  next => exact Outcome.crashesFor_one _
  next members =>
    refine Outcome.crashesFor_each fun member counts => ?_
    unfold checkMember
    split
    next => exact Outcome.crashesFor_clean
    next keyword meant =>
      exact Assertion.crashesFor_check (accounts.explains rfl) below meant (mem_of_mem_effective counts)
  next notTrue notFalse notObject =>
    have notTruth : forall b, v ≠ .bool b := by
      rintro (_ | _) rfl
      · exact notFalse rfl
      · exact notTrue rfl
    have none : v.members? = none := by
      cases v with
      | object members => exact absurd rfl (notObject members)
      | _ => rfl
    exact Outcome.crashesFor_crashed (accounts.stray notTruth none).1

section Levels

variable {d : Dialect} {top document : Value}

/-- What an evaluation comes to explains its crashes, as far as what it comes to next does. -/
theorem accounts_of_comes {n : Nat} {v : Value} (depth : n ≤ levels) (comes : Comes rules d top document n p v subject) :
    Accounts rules (Blame rules d top document) (Comes rules d top document (n + 1)) p v subject where
  explains := by
    rintro schema rfl
    exact ⟨.unfit depth comes, .part comes, .target comes⟩
  stray := fun notTruth notObject =>
    ⟨.stray comes notTruth notObject (.inl rfl), .stray comes notTruth notObject (.inr rfl)⟩

/-- One level: the crashes from below are to blame on something, so the crashes of this level are. -/
theorem crashesFor_above {n : Nat} (depth : n ≤ levels)
    (below : ev.CrashesFor (Blame rules d top document) (Comes rules d top document (n + 1))) :
    (Evaluator.above rules ev).CrashesFor (Blame rules d top document) (Comes rules d top document n) where
  apply := fun comes => crashesFor_evaluate (accounts_of_comes depth comes) below _ _
  keys := fun comes => failsFor_evaluatedKeys (accounts_of_comes depth comes) below _
  places := fun comes => failsFor_evaluatedPlaces (accounts_of_comes depth comes) below _

/-- The lower a level is, the more schemas it is applied within; below all levels there are too many. -/
theorem crashesFor_ofLevel (level : Nat) {n : Nat} (total : n + level = levels + 1) :
    (Evaluator.ofLevel rules level).CrashesFor (Blame rules d top document) (Comes rules d top document n) := by
  induction level generalizing n with
  | zero =>
    obtain rfl : n = levels + 1 := total
    exact ⟨fun comes => Outcome.crashesFor_crashed (.deep comes), fun comes => failsFor_error (.deep comes),
      fun comes => failsFor_error (.deep comes)⟩
  | succ level ih => exact crashesFor_above (by omega) (ih (by omega))

/-- Whatever an evaluation crashes for, something is to blame that it came to. -/
theorem crashesFor_run (rules : Rules) (d : Dialect) (demand : Demand) (schema document : Value) :
    (run rules d demand schema document).CrashesFor (Blame rules d schema document) := by
  refine Outcome.crashesFor_ofExcept (fun _ nowhere => .start nowhere) fun scope starts => ?_
  exact crashesFor_evaluate (accounts_of_comes (Nat.zero_le _) (.top starts)) (crashesFor_ofLevel levels (by omega)) _ _

end Levels

end Schema
end SchemaLint
