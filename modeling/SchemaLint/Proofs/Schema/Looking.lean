import SchemaLint.Proofs.Schema.Matching

/-!
# What a schema has looked at, and the order of keys

A schema has looked at the same members and items of a value and of the value with its keys in order.
-/

namespace SchemaLint
namespace Schema

open Json

section Sets

variable {α : Type} {xs ys : List α}

theorem sameSet_refl (xs : List α) : SameSet xs xs :=
  fun _ => Iff.rfl

theorem sameSet_of_perm (perm : ys.Perm xs) : SameSet xs ys :=
  fun _ => perm.mem_iff.symm

theorem contains_eq_of_sameSet [BEq α] [LawfulBEq α] (same : SameSet xs ys) (a : α) : xs.contains a = ys.contains a := by
  rw [Bool.eq_iff_iff, List.contains_iff_mem, List.contains_iff_mem]
  exact same a

/-- What is collected over the same things, one after the other. -/
theorem agree_collected {ι : Type} {f g : ι -> Except Crash (List α)} {xs : List ι}
    (each : forall i, i ∈ xs -> Agree SameSet (f i) (g i)) :
    Agree (fun as bs => SameSet as.flatten bs.flatten) (xs.mapM f) (xs.mapM g) :=
  (agree_mapM each).imp fun _ _ => sameSet_flatten

/-- The names or places of the values that satisfy a test which does not notice the order of keys. -/
theorem agree_places {κ : Type} {test : κ × Value -> Except Crash Bool} {entries entries' : List (κ × Value)}
    (perm : entries'.Perm (entries.map fun entry => (entry.1, entry.2.sorted)))
    (each : forall entry, entry ∈ entries -> Agree (· = ·) (test entry) (test (entry.1, entry.2.sorted))) :
    Agree SameSet (allWhere test entries >>= fun kept => pure (kept.map Prod.fst))
      (allWhere test entries' >>= fun kept => pure (kept.map Prod.fst)) := by
  refine (agree_allWhere perm each).bind ?_
  intro kept kept' perm
  have places := perm.map Prod.fst
  rw [List.map_map] at places
  exact agree_ok (sameSet_of_perm places)

end Sets

variable {ev : Evaluator} {rules : Rules} {survey : Survey} {p : Position} {schema : Members}

/-! ## References and combinations -/

section References

variable {α : Type} {collect collect' : Position -> Value -> Except Crash (List α)}

/-- Collect over the schema that a reference leads to. -/
def behindTarget (p : Position) (collect : Position -> Value -> Except Crash (List α)) (target : Target) :
    Except Crash (List α) := do
  collect (← Position.adopt { p with scope := target.scope } target.schema) target.schema

/-- Collect over the schema that the reference under a keyword leads to. -/
def behindKeyword (rules : Rules) (p : Position) (schema : Members)
    (collect : Position -> Value -> Except Crash (List α)) (key : String) : Except Crash (List α) :=
  match Members.get? key schema with
  | none | some .null => .ok []
  | some (.string ref) => do
    behindTarget p collect (← Target.ofReference rules.retrieval p.scope (Text.toString ref).toList)
  | some _ => .error .attribute

theorem behindReferences_eq : behindReferences survey rules p schema collect = (do
    let plain ← behindKeyword rules p schema collect "$ref"
    match survey with
    | .early =>
      if Members.has "$recursiveRef" schema then
        return plain ++ (← behindTarget p collect (← Target.ofRecursion rules.retrieval p.scope))
      return plain
    | .late => return plain ++ (← behindKeyword rules p schema collect "$dynamicRef")) :=
  rfl

theorem agree_behindTarget (same : forall p schema, Agree SameSet (collect p schema) (collect' p schema))
    (target : Target) : Agree SameSet (behindTarget p collect target) (behindTarget p collect' target) := by
  refine (agree_refl (Position.adopt { p with scope := target.scope } target.schema)).bind ?_
  rintro inner _ rfl
  exact same inner target.schema

theorem agree_behindKeyword (same : forall p schema, Agree SameSet (collect p schema) (collect' p schema))
    (key : String) :
    Agree SameSet (behindKeyword rules p schema collect key) (behindKeyword rules p schema collect' key) := by
  unfold behindKeyword
  split
  · exact agree_ok (sameSet_refl [])
  · exact agree_ok (sameSet_refl [])
  · rename_i ref found
    refine (agree_refl (Target.ofReference rules.retrieval p.scope (Text.toString ref).toList)).bind ?_
    rintro target _ rfl
    exact agree_behindTarget same target
  · exact agree_error _ _

theorem agree_behindReferences (same : forall p schema, Agree SameSet (collect p schema) (collect' p schema)) :
    Agree SameSet (behindReferences survey rules p schema collect) (behindReferences survey rules p schema collect') := by
  rw [behindReferences_eq, behindReferences_eq]
  refine (agree_behindKeyword same "$ref").bind ?_
  intro plain plain' samePlain
  cases survey with
  | early =>
    dsimp only
    split
    · refine (agree_refl (Target.ofRecursion rules.retrieval p.scope)).bind ?_
      rintro target _ rfl
      refine (agree_behindTarget same target).bind ?_
      intro more more' sameMore
      exact agree_ok (sameSet_append samePlain sameMore)
    · exact agree_ok samePlain
  | late =>
    refine (agree_behindKeyword same "$dynamicRef").bind ?_
    intro more more' sameMore
    exact agree_ok (sameSet_append samePlain sameMore)

end References

theorem agree_conditionParts (alike : ev.Matches) {subject : Value} (keyed : subject.IsKeyed) :
    Agree (· = ·) (conditionParts ev p schema subject) (conditionParts ev p schema subject.sorted) := by
  unfold conditionParts
  cases Members.get? "if" schema with
  | none => exact agree_ok rfl
  | some condition =>
    refine (alike.accepts p condition keyed).bind ?_
    rintro satisfied _ rfl
    exact agree_refl _

theorem agree_satisfiedParts (alike : ev.Matches) {subject : Value} (keyed : subject.IsKeyed) :
    Agree (· = ·) (satisfiedParts ev p schema subject) (satisfiedParts ev p schema subject.sorted) := by
  unfold satisfiedParts
  refine (agree_mapM (R := (· = ·)) ?each).bind ?flattened
  case each =>
    intro key _
    cases Members.get? key schema with
    | none => exact agree_ok rfl
    | some schemas =>
      refine (agree_refl (elements schemas)).bind ?_
      rintro parts _ rfl
      exact agree_allWhere_same fun part _ => alike.acceptsWithin p part keyed
  case flattened =>
    intro parts parts' related
    rw [List.forall₂_eq_eq_eq] at related
    rw [related]
    exact agree_refl _

/-! ## Members -/

section Keys

variable {members : Members}

theorem agree_keysSatisfying (alike : ev.Matches) (keyed : Value.IsKeyed (.object members)) (key : String) :
    Agree SameSet (keysSatisfying ev p schema members key) (keysSatisfying ev p schema members.sorted key) := by
  have ofPart : forall part : Value, Agree SameSet
      (allWhere (fun member : Text × Value => ev.acceptsWithin p part member.2) members >>= fun kept =>
        pure (Members.keys kept))
      (allWhere (fun member : Text × Value => ev.acceptsWithin p part member.2) members.sorted >>= fun kept =>
        pure (Members.keys kept)) := fun part =>
    agree_places (Members.sorted_perm members) fun member inside => alike.acceptsWithin p part (keyed.member inside)
  unfold keysSatisfying
  split
  · exact agree_ok (sameSet_refl [])
  · exact agree_ok (sameSet_refl [])
  · exact ofPart _

theorem keysNamed_sorted (names members : Members) : keysNamed names members.sorted = keysNamed names members := by
  unfold keysNamed
  simp only [Members.has_sorted]

theorem sameSet_keysNamedBy (members : Members) (key : String) :
    SameSet (keysNamedBy schema members key) (keysNamedBy schema members.sorted key) := by
  unfold keysNamedBy
  split
  · exact sameSet_of_perm (Members.keys_sorted_perm members)
  · rw [keysNamed_sorted]
    exact sameSet_refl _
  · exact sameSet_refl []

theorem agree_keysSpokenOf (alike : ev.Matches) (keyed : Value.IsKeyed (.object members)) :
    Agree SameSet (keysSpokenOf survey ev p schema members) (keysSpokenOf survey ev p schema members.sorted) := by
  unfold keysSpokenOf
  cases survey with
  | early =>
    refine agree_ok fun key => ?_
    simp only [List.mem_flatMap, (sameSet_keysNamedBy members _ : SameSet _ _) key]
  | late =>
    simp only [keysNamed_sorted]
    refine (agree_collected fun key _ => agree_keysSatisfying alike keyed key).bind ?_
    intro satisfying satisfying' same
    exact agree_ok (sameSet_append (sameSet_refl _) same)

/-- Whether one of the patterns that a value offers matches the name of a member. -/
def matchesSome (patterns : Value) (member : Text × Value) : Except Crash Bool := do
  let patterns ← elements patterns
  let found ← allWhere (fun pattern => searchesValue pattern member.1) patterns
  return !found.isEmpty

theorem agree_keysMatching (members : Members) :
    Agree SameSet (keysMatching schema members) (keysMatching schema members.sorted) := by
  unfold keysMatching
  cases Members.get? "patternProperties" schema with
  | none => exact agree_ok (sameSet_refl [])
  | some patterns =>
    -- The test looks at names only, so it is the same for a member and for the member with its keys in order.
    change Agree SameSet (allWhere (matchesSome patterns) members >>= fun kept => pure (Members.keys kept))
      (allWhere (matchesSome patterns) members.sorted >>= fun kept => pure (Members.keys kept))
    exact agree_places (Members.sorted_perm members) fun member _ => agree_refl (matchesSome patterns member)

theorem demandedSchemas_sorted (schema members : Members) :
    demandedSchemas schema members.sorted = demandedSchemas schema members := by
  unfold demandedSchemas
  simp only [Members.has_sorted]

theorem agree_evaluatedKeys (alike : ev.Matches) (keyed : Value.IsKeyed (.object members)) (schema : Value) :
    Agree SameSet (evaluatedKeys rules ev survey p schema members)
      (evaluatedKeys rules ev survey p schema members.sorted) := by
  have collects : forall {schemas : List Value}, Agree (fun as bs => SameSet as.flatten bs.flatten)
      (schemas.mapM fun part => ev.keys survey p part members)
      (schemas.mapM fun part => ev.keys survey p part members.sorted) :=
    agree_collected fun part _ => alike.keys survey p part keyed
  have whole := Value.sorted_object members
  unfold evaluatedKeys
  split
  · exact agree_ok (sameSet_refl [])
  · refine (agree_refl (keywordsOf schema)).bind ?_
    rintro schema _ rfl
    refine (agree_behindReferences fun p part => alike.keys survey p part keyed).bind ?_
    intro behind behind' sameBehind
    refine (agree_keysSpokenOf alike keyed).bind ?_
    intro spokenOf spokenOf' sameSpokenOf
    refine (agree_keysMatching members).bind ?_
    intro matching matching' sameMatching
    rw [demandedSchemas_sorted]
    refine (agree_refl (demandedSchemas schema members)).bind ?_
    rintro demands _ rfl
    refine collects.bind ?_
    intro demanded demanded' sameDemanded
    refine (whole ▸ agree_satisfiedParts alike keyed).bind ?_
    rintro satisfied _ rfl
    refine collects.bind ?_
    intro chosen chosen' sameChosen
    refine (whole ▸ agree_conditionParts alike keyed).bind ?_
    rintro parts _ rfl
    refine collects.bind ?_
    intro conditional conditional' sameConditional
    exact agree_ok (sameSet_append (sameSet_append (sameSet_append (sameSet_append (sameSet_append sameBehind
      sameSpokenOf) sameMatching) sameDemanded) sameChosen) sameConditional)

end Keys

/-! ## Items -/

section Places

variable {items : List Value}

theorem agree_placesSatisfying (alike : ev.Matches) (keyed : Value.IsKeyed (.array items)) (key : String) :
    Agree SameSet (placesSatisfying ev p schema items key) (placesSatisfying ev p schema (items.map Value.sorted) key) := by
  unfold placesSatisfying
  cases Members.get? key schema with
  | none => exact agree_ok (sameSet_refl [])
  | some part =>
    rw [Assertion.placed_sorted]
    exact agree_places (.refl _) fun item inside =>
      alike.accepts p part (keyed.item (Assertion.mem_of_mem_placed inside))

theorem agree_evaluatedPlaces (alike : ev.Matches) (keyed : Value.IsKeyed (.array items)) (schema : Value) :
    Agree SameSet (evaluatedPlaces rules ev survey p schema items)
      (evaluatedPlaces rules ev survey p schema (items.map Value.sorted)) := by
  have collects : forall {schemas : List Value}, Agree (fun as bs => SameSet as.flatten bs.flatten)
      (schemas.mapM fun part => ev.places survey p part items)
      (schemas.mapM fun part => ev.places survey p part (items.map Value.sorted)) :=
    agree_collected fun part _ => alike.places survey p part keyed
  have whole := Value.sorted_array items
  unfold evaluatedPlaces
  split
  · exact agree_ok (sameSet_refl [])
  · rw [List.length_map]
    refine (agree_refl (speaksOfAllItems survey schema)).bind ?_
    rintro all _ rfl
    split
    · exact agree_ok (sameSet_refl _)
    refine (agree_refl (keywordsOf schema)).bind ?_
    rintro schema _ rfl
    refine (agree_behindReferences fun p part => alike.places survey p part keyed).bind ?_
    intro behind behind' sameBehind
    refine (agree_refl (leadingPlaces survey schema)).bind ?_
    rintro leading _ rfl
    cases leading with
    | none => exact agree_ok (sameSet_refl _)
    | some leading =>
      refine (whole ▸ agree_conditionParts alike keyed).bind ?_
      rintro parts _ rfl
      refine collects.bind ?_
      intro conditional conditional' sameConditional
      refine (agree_collected fun key _ => agree_placesSatisfying alike keyed key).bind ?_
      intro satisfying satisfying' sameSatisfying
      refine (whole ▸ agree_satisfiedParts alike keyed).bind ?_
      rintro satisfied _ rfl
      refine collects.bind ?_
      intro chosen chosen' sameChosen
      exact agree_ok (sameSet_append (sameSet_append (sameSet_append (sameSet_append sameBehind (sameSet_refl _))
        sameConditional) sameSatisfying) sameChosen)

end Places

/-! ## Keywords for what nothing has looked at -/

namespace Assertion

variable {a : Assertion}

theorem match_unevaluatedItems (alike : ev.Matches) (keyed : a.subject.IsKeyed) (rules : Rules) :
    Outcome.Match a.demand (a.unevaluatedItems rules ev) (a.sorted.unevaluatedItems rules ev) := by
  refine match_ofArray fun items subject => match_failsWhen ?_
  rw [subject] at keyed
  rw [List.length_map]
  refine (agree_evaluatedPlaces alike keyed (.object a.schema)).bind ?_
  intro seen seen' same
  simp only [contains_eq_of_sameSet same]
  exact agree_refl _

theorem agree_isUnwelcome (alike : ev.Matches) {member : Text × Value} (keyed : member.2.IsKeyed) :
    Agree (· = ·) (a.isUnwelcome ev member) (a.sorted.isUnwelcome ev (member.1, member.2.sorted)) := by
  refine (alike.completes a.position a.limit (some (.key member.1)) keyed).bind ?_
  intro vs vs' same
  rw [same]
  exact agree_refl _

theorem match_unevaluatedProperties (alike : ev.Matches) (keyed : a.subject.IsKeyed) (rules : Rules) :
    Outcome.Match a.demand (a.unevaluatedProperties rules ev) (a.sorted.unevaluatedProperties rules ev) := by
  refine match_ofObject fun members subject => match_failsWhen ?_
  rw [subject] at keyed
  refine (agree_evaluatedKeys alike keyed (.object a.schema)).bind ?_
  intro seen seen' same
  have unseen : ((Members.sorted members).filter fun m => !seen'.contains m.1).Perm
      ((members.filter fun m => !seen.contains m.1).map fun m => (m.1, m.2.sorted)) := by
    simp only [contains_eq_of_sameSet same]
    have perm := (Members.sorted_perm members).filter fun m => !seen'.contains m.1
    rw [List.filter_map] at perm
    exact perm
  refine (agree_allWhere unseen fun member inside =>
    agree_isUnwelcome alike (keyed.member (List.mem_of_mem_filter inside))).bind ?_
  intro unwelcome unwelcome' perm
  rw [perm.isEmpty_eq, List.isEmpty_map]
  exact agree_refl _

end Assertion

end Schema
end SchemaLint
