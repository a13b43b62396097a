import SchemaLint.Proofs.Schema.Settling

/-!
# Where the schemas for schemas refer to

In the older drafts the schema for schemas is one schema, which refers to itself.  In the newer ones it is put together
from parts, and the part that describes subschemas refers back to the whole by way of the resources that were entered: the
trail.  Wherever it leads out of a part, it leads to the whole again, because that was entered first.

All this is known without retrieving anything.
-/

namespace SchemaLint
namespace Schema

open Json

/-! ## References to what is known -/

/-- Entering a resource leaves the one around it behind, or nothing. -/
theorem Scope.enter_eq (s : Scope) (registry : Registry) (name : List Char) :
    s.enter registry name = ⟨registry, name, s.base :: s.outer⟩ ∨ s.enter registry name = ⟨registry, name, s.outer⟩ := by
  unfold Scope.enter
  split
  · exact .inl rfl
  · exact .inr rfl

namespace Target

variable {fetch : Retrieval} {scope : Scope} {name : List Char} {resource : Resource}

theorem retrieve_of_known {registry : Registry} (known : registry.resource? name = some resource) :
    registry.retrieve fetch name = .ok (registry, resource) := by
  rw [Registry.retrieve, known]

/-- A reference to the resource that holds it. -/
theorem ofReference_own (known : scope.registry.resource? scope.base = some resource) :
    ofReference fetch scope ['#'] = .ok ⟨resource.contents, scope.enter scope.registry scope.base⟩ := by
  change (scope.registry.retrieve fetch scope.base >>= _) = _
  rw [retrieve_of_known known]
  rfl

/-- A reference into the resource that holds it. -/
theorem ofReference_pointer (known : scope.registry.resource? scope.base = some resource) (fragment : List Char) :
    ofReference fetch scope ('#' :: '/' :: fragment) =
      pointer resource (scope.enter scope.registry scope.base) ('/' :: fragment) := by
  change (scope.registry.retrieve fetch scope.base >>= _) = _
  rw [retrieve_of_known known]
  rfl

/-- A reference by an anchor. -/
theorem ofReference_anchor {c : Char} {fragment : List Char} {found : Anchored}
    (known : scope.registry.resource? scope.base = some resource) (plain : c ≠ '/')
    (anchored : scope.registry.anchor scope.base (c :: fragment) = .ok (scope.registry, found)) :
    ofReference fetch scope ('#' :: c :: fragment) = ofAnchor (scope.enter scope.registry scope.base) found := by
  change (scope.registry.retrieve fetch scope.base >>= _) = _
  rw [retrieve_of_known known]
  dsimp only [bind, Except.bind]
  split
  next empty => cases empty
  next steps =>
    cases steps
    exact absurd rfl plain
  next =>
    change (scope.registry.anchor scope.base (c :: fragment) >>= _) = _
    rw [anchored]
    rfl

/-- A reference by name. -/
theorem ofReference_name {ref : List Char} (relative : ref.head? ≠ some '#')
    (joined : (joinName scope.base ref).toOption.bind Uri.defragment? = some (name, []))
    (known : scope.registry.resource? name = some resource) :
    ofReference fetch scope ref = .ok ⟨resource.contents, scope.enter scope.registry name⟩ := by
  cases full : joinName scope.base ref with
  | error crash =>
      rw [full] at joined
      cases joined
  | ok full' =>
      rw [full] at joined
      have joined' : Uri.defragment? full' = some (name, []) := joined
      unfold ofReference
      split
      next => exact absurd rfl relative
      next =>
        rw [full]
        dsimp only [bind, Except.bind]
        rw [joined']
        change (scope.registry.retrieve fetch name >>= _) = _
        rw [retrieve_of_known known]
        rfl

/-- The schema of an anchor of an outer resource, if it has a dynamic one. -/
def outerAnchor (registry : Registry) (anchor : List Char) (last : Resource) (name : List Char) : Except Crash Resource :=
  match registry.anchor name anchor with
  | .ok (_, a) => .ok (if a.anchor.dynamic then a.resource else last)
  | .error (.deadEnd .anchor) => .ok last
  | .error c => .error c

theorem ofAnchor_dynamic {found : Anchored} (dynamic : found.anchor.dynamic = true) :
    ofAnchor scope found = (do
      let last ← scope.outer.foldlM (outerAnchor scope.registry found.anchor.name) found.resource
      return ⟨last.contents, ← scope.inside last⟩) := by
  rw [ofAnchor, if_pos dynamic]
  rfl

end Target

/-! ## The parts of the schema for schemas -/

/-- A part of the schema for the schemas of a draft: its name and what it says. -/
structure Meta.Part where
  name : List Char
  members : Members

namespace Meta.Part

variable {d : Dialect}

/-- A part as a schema. -/
def contents (part : Part) : Value :=
  .object part.members

/-- The schema that combines the parts; in the older drafts it is the only part. -/
def whole (d : Dialect) : Part :=
  ⟨d.id.render, (metaSchema d).members?.getD []⟩

/-- The date by which a newer draft names its parts. -/
def date : Dialect -> String
  | .draft2019 => "2019-09"
  | .draft2020 => "2020-12"
  | _ => ""

/-- A part of a newer draft. -/
def newer (d : Dialect) (part : String × Value) : Part :=
  ⟨(Dialect.newerId (date d) part.1).render, part.2.members?.getD []⟩

/-- What the whole refers to in a newer draft. -/
def referred : Dialect -> List (String × Value)
  | .draft2019 => Meta.Draft2019.parts.filter fun part => part.1 != "schema"
  | .draft2020 => Meta.Draft2020.parts.filter fun part => part.1 != "schema" && part.1 != "meta/format-assertion"
  | _ => []

/-- The parts of a draft. -/
def parts (d : Dialect) : List Part :=
  if d.referenceHides then [whole d] else (referred d).map (newer d)

/-- The part that says what stands under the names of members. -/
def describing : Dialect -> Part
  | .draft2019 => newer .draft2019 ("meta/applicator", Meta.Draft2019.applicator)
  | .draft2020 => newer .draft2020 ("meta/applicator", Meta.Draft2020.applicator)
  | d => whole d

/-- The part that says how required members are demanded. -/
def demanding : Dialect -> Part
  | .draft2019 => newer .draft2019 ("meta/validation", Meta.Draft2019.validation)
  | .draft2020 => newer .draft2020 ("meta/validation", Meta.Draft2020.validation)
  | d => whole d

/-- What is known while a schema is checked; the proofs go by the lemmas below and never search it. -/
@[irreducible]
def registry (d : Dialect) : Registry :=
  .add ⟨[], []⟩ d.id.render ⟨d, metaSchema d⟩

/-- In a part, which was entered behind others. -/
def position (d : Dialect) (part : Part) (outer : List (List Char)) : Position :=
  ⟨d, ⟨registry d, part.name, outer⟩⟩

/-! ### What is known -/

theorem contents_whole (d : Dialect) : (whole d).contents = metaSchema d := by
  cases d <;> rfl

theorem mem_all (d : Dialect) : d ∈ Dialect.all := by
  cases d <;> decide

/-- The wholes name themselves and their drafts. -/
theorem named_wholes :
    (Dialect.all.all fun d => (Resource.id? ⟨d, (whole d).contents⟩).toOption == some (some (whole d).name) &&
      Uri.normal? (Text.toString (Meta.name d.id d.referenceHides)).toList == some (whole d).name &&
      Dialect.ofId? (whole d).name == some d && !(whole d).name.isEmpty) = true := by
  decide +kernel

theorem named_whole (d : Dialect) :
    Resource.id? ⟨d, (whole d).contents⟩ = .ok (some (whole d).name) ∧
      Uri.normal? (Text.toString (Meta.name d.id d.referenceHides)).toList = some (whole d).name ∧
      Dialect.ofId? (whole d).name = some d ∧ (whole d).name.isEmpty = false := by
  have named := List.all_eq_true.mp named_wholes d (mem_all d)
  simp only [Bool.and_eq_true, beq_iff_eq, Bool.not_eq_true'] at named
  rcases named with ⟨⟨⟨id, normal⟩, known⟩, nonempty⟩
  exact ⟨toOption_eq_some_iff.mp id, normal, known, nonempty⟩

theorem whole_mem_bundled (d : Dialect) : ⟨(whole d).name, ⟨d, (whole d).contents⟩⟩ ∈ bundled := by
  rw [contents_whole]
  cases d with
  | draft3 => exact @List.mem_of_getElem? _ bundled 0 _ rfl
  | draft4 => exact @List.mem_of_getElem? _ bundled 1 _ rfl
  | draft6 => exact @List.mem_of_getElem? _ bundled 2 _ rfl
  | draft7 => exact @List.mem_of_getElem? _ bundled 3 _ rfl
  | draft2019 => exact @List.mem_of_getElem? _ bundled 10 _ rfl
  | draft2020 => exact @List.mem_of_getElem? _ bundled 19 _ rfl

/-- The parts of the newer drafts are objects that name their draft. -/
theorem isObject_of_mem_referred {r : String × Value} (member : r ∈ referred d) :
    (newer d r).contents = r.2 ∧
      Members.get? (Text.ofString "$schema") (newer d r).members = some (Meta.named d.id d.referenceHides) := by
  cases d with
  | draft2019 =>
      have inside := List.mem_of_mem_filter member
      simp only [Meta.Draft2019.parts, List.mem_cons, List.not_mem_nil, or_false] at inside
      rcases inside with rfl | rfl | rfl | rfl | rfl | rfl | rfl <;> exact ⟨rfl, rfl⟩
  | draft2020 =>
      have inside := List.mem_of_mem_filter member
      simp only [Meta.Draft2020.parts, List.mem_cons, List.not_mem_nil, or_false] at inside
      rcases inside with rfl | rfl | rfl | rfl | rfl | rfl | rfl | rfl | rfl <;> exact ⟨rfl, rfl⟩
  | _ => exact absurd member List.not_mem_nil

theorem newer_mem_bundled {r : String × Value} (member : r ∈ referred d) :
    ⟨(newer d r).name, ⟨d, (newer d r).contents⟩⟩ ∈ bundled := by
  rw [(isObject_of_mem_referred member).1]
  cases d with
  | draft2019 =>
      rw [referred] at member
      apply List.mem_append_left
      exact List.mem_append_right _ (List.mem_map_of_mem (List.mem_of_mem_filter member))
  | draft2020 =>
      rw [referred] at member
      exact List.mem_append_right _ (List.mem_map_of_mem (List.mem_of_mem_filter member))
  | _ => exact absurd member List.not_mem_nil

theorem nodup_bundled : (bundled.map Named.name).Nodup := by
  -- The names differ behind what they have in common.
  have ends : ((bundled.map Named.name).map (List.drop 28)).Nodup := by
    decide +kernel
  exact ends.of_map

theorem eq_of_mem_bundled {m n : Named} (other : m ∈ bundled) (member : n ∈ bundled) (same : m.name = n.name) : m = n :=
  List.inj_on_of_nodup_map nodup_bundled other member same

/-- What is looked for and is the only one of its kind is found. -/
theorem find?_eq_some_of_only {α : Type} {test : α -> Bool} {xs : List α} {x : α} (member : x ∈ xs)
    (passes : test x = true) (only : forall y, y ∈ xs -> test y = true -> y = x) : xs.find? test = some x := by
  cases found : xs.find? test with
  | none => exact absurd passes (List.find?_eq_none.mp found x member)
  | some y => rw [only y (List.mem_of_find?_eq_some found) (List.find?_some found)]

/-- The schemas for schemas are known by their names, that of the draft as the one in use. -/
theorem resource?_of_mem_bundled (d : Dialect) {n : Named} (member : n ∈ bundled) :
    (registry d).resource? n.name = some n.resource := by
  have known : (registry d).known.resource? n.name =
      if (whole d).name = n.name then some ⟨d, metaSchema d⟩ else none := by
    rw [registry]
    change Option.map Named.resource (List.find? _ [⟨(whole d).name, ⟨d, metaSchema d⟩⟩]) = _
    rw [List.find?_cons, List.find?_nil]
    by_cases same : (whole d).name = n.name
    · rw [if_pos same, decide_eq_true same]
      rfl
    · rw [if_neg same, decide_eq_false same]
      rfl
  have found : bundled.find? (fun m => decide (m.name = n.name)) = some n :=
    find?_eq_some_of_only member (decide_eq_true rfl)
      (fun _ other same => eq_of_mem_bundled other member (of_decide_eq_true same))
  rw [Registry.resource?, known]
  by_cases same : (whole d).name = n.name
  · rw [if_pos same, ← eq_of_mem_bundled (whole_mem_bundled d) member same, contents_whole]
  · rw [if_neg same]
    exact congrArg (Option.map Named.resource) found

/-- The anchor of a schema for schemas is known. -/
theorem anchor_of_mem_bundled (d : Dialect) {n : Named} (member : n ∈ bundled) {a : Resource.Anchor}
    (declares : n.resource.anchors = .ok [a]) :
    (registry d).anchor n.name a.name = .ok (registry d, ⟨n.name, a, n.resource⟩) := by
  have inside : ⟨n.name, a, n.resource⟩ ∈ bundledAnchors := by
    refine List.mem_flatMap.mpr ⟨n, member, ?_⟩
    rw [declares]
    exact List.mem_cons_self
  have single : forall x, x ∈ bundledAnchors -> x.name = n.name -> x = ⟨n.name, a, n.resource⟩ := by
    intro x inside same
    rcases List.mem_flatMap.mp inside with ⟨m, other, declared⟩
    split at declared
    next anchors declares' =>
      rcases List.mem_map.mp declared with ⟨b, isAnchor, rfl⟩
      rw [eq_of_mem_bundled other member same, declares] at declares'
      rw [← Except.ok.inj declares', List.mem_singleton] at isAnchor
      rw [isAnchor, eq_of_mem_bundled other member same]
    next => exact absurd declared List.not_mem_nil
  have found : (registry d).anchored? n.name a.name = some ⟨n.name, a, n.resource⟩ := by
    rw [registry]
    change (bundledAnchors.find? fun x => decide (x.name = n.name) && decide (x.anchor.name = a.name)) = _
    apply find?_eq_some_of_only inside (by simp)
    intro x isAnchor same
    exact single x isAnchor (of_decide_eq_true (Bool.and_eq_true_iff.mp same).1)
  rw [Registry.anchor, found]

/-- What names its draft is evaluated in it. -/
theorem dialectOf_of_named {members : Members}
    (named : Members.get? (Text.ofString "$schema") members = some (Meta.named d.id d.referenceHides)) :
    dialectOf d (.object members) = .ok d := by
  have written : Members.get? (Text.ofString "$schema") members = some (.string (Meta.name d.id d.referenceHides)) := named
  rcases named_whole d with ⟨-, normal, known, -⟩
  rw [dialectOf, written]
  dsimp only
  rw [normal]
  dsimp only
  rw [known]
  rfl

/-- A part of the schema for the schemas of a draft: known by its name, and evaluated in the draft. -/
structure IsKnown (d : Dialect) (part : Part) : Prop where
  known : (registry d).resource? part.name = some ⟨d, part.contents⟩
  own : dialectOf d part.contents = .ok d

theorem isKnown_whole (d : Dialect) : IsKnown d (whole d) where
  known := resource?_of_mem_bundled d (whole_mem_bundled d)
  own := dialectOf_of_named (by cases d <;> rfl)

theorem isKnown_newer {r : String × Value} (member : r ∈ referred d) : IsKnown d (newer d r) where
  known := resource?_of_mem_bundled d (newer_mem_bundled member)
  own := dialectOf_of_named (isObject_of_mem_referred member).2

theorem isKnown_describing (d : Dialect) : IsKnown d (describing d) := by
  cases d with
  | draft2019 => exact isKnown_newer (@List.mem_of_getElem? _ _ 1 _ rfl)
  | draft2020 => exact isKnown_newer (@List.mem_of_getElem? _ _ 1 _ rfl)
  | _ => exact isKnown_whole _

theorem isKnown_demanding (d : Dialect) : IsKnown d (demanding d) := by
  cases d with
  | draft2019 => exact isKnown_newer (@List.mem_of_getElem? _ _ 2 _ rfl)
  | draft2020 => exact isKnown_newer (@List.mem_of_getElem? _ _ 3 _ rfl)
  | _ => exact isKnown_whole _

/-! ### The trail -/

/-- The parts from which others are entered. -/
def IsOuter (d : Dialect) (part : Part) : Prop :=
  part = whole d ∨ part = describing d

theorem IsOuter.isKnown {part : Part} (isOuter : IsOuter d part) : IsKnown d part := by
  rcases isOuter with rfl | rfl
  · exact isKnown_whole d
  · exact isKnown_describing d

/-- The names of the parts that were entered, the latest first.  The whole was entered before all others. -/
inductive Trail (d : Dialect) : List (List Char) -> Prop
  | start : Trail d [(whole d).name]
  | further {part : Part} {outer : List (List Char)} (isOuter : IsOuter d part) (trail : Trail d outer) :
      Trail d (part.name :: outer)

/-- What was entered before a part; before the whole it can be nothing. -/
def Entered (d : Dialect) (part : Part) (outer : List (List Char)) : Prop :=
  Trail d outer ∨ part = whole d ∧ outer = []

variable {outer : List (List Char)}

/-- Where the part for subschemas is not the whole, the whole was entered before it. -/
theorem Entered.trail (entered : Entered d (describing d) outer) (newer : d.referenceHides = false) : Trail d outer := by
  rcases entered with trail | ⟨same, -⟩
  · exact trail
  · have refers := congrArg (fun part => Members.has (Text.ofString "allOf") part.members) same
    cases d with
    | draft2019 => exact absurd refers (by decide)
    | draft2020 => exact absurd refers (by decide)
    | _ => cases newer

/-- What is entered from an outer part leaves a trail. -/
theorem Entered.enter {part : Part} (entered : Entered d part outer) (isOuter : IsOuter d part) (part' : Part) :
    exists outer', Trail d outer' ∧
      (position d part outer).scope.enter (registry d) part'.name = (position d part' outer').scope := by
  rcases entered with trail | ⟨rfl, rfl⟩
  · rcases Scope.enter_eq (position d part outer).scope (registry d) part'.name with longer | same
    · exact ⟨part.name :: outer, trail.further isOuter, longer⟩
    · exact ⟨outer, trail, same⟩
  · refine ⟨[(whole d).name], .start, ?_⟩
    simp [position, Scope.enter, (named_whole d).2.2.2]

/-! ### Where the references of the parts lead -/

theorem joined_referred :
    (Dialect.all.all fun d => (referred d).all fun r => r.1.toList.head? != some '#' &&
      (joinName (whole d).name r.1.toList).toOption.bind Uri.defragment? == some ((newer d r).name, [])) = true := by
  decide +kernel

/-- A reference from the whole leads to the part. -/
theorem leads_newer {r : String × Value} (member : r ∈ referred d) (entered : Entered d (whole d) outer)
    (fetch : Retrieval) :
    exists outer', Trail d outer' ∧ Target.ofReference fetch (position d (whole d) outer).scope r.1.toList =
      .ok ⟨(newer d r).contents, (position d (newer d r) outer').scope⟩ := by
  rcases entered.enter (.inl rfl) (newer d r) with ⟨outer', trail, same⟩
  have names := List.all_eq_true.mp (List.all_eq_true.mp joined_referred d (mem_all d)) r member
  rcases Bool.and_eq_true_iff.mp names with ⟨relative, joined⟩
  refine ⟨outer', trail, ?_⟩
  rw [← same]
  exact @Target.ofReference_name fetch (position d (whole d) outer).scope _ _ _ (bne_iff_ne.mp relative)
    (beq_iff_eq.mp joined) (isKnown_newer member).known

/-- The reference of a part to itself leads to it. -/
theorem leads_own {part : Part} (entered : Entered d part outer) (isOuter : IsOuter d part) (fetch : Retrieval) :
    exists outer', Trail d outer' ∧ Target.ofReference fetch (position d part outer).scope ['#'] =
      .ok ⟨part.contents, (position d part outer').scope⟩ := by
  rcases entered.enter isOuter part with ⟨outer', trail, same⟩
  refine ⟨outer', trail, ?_⟩
  rw [← same]
  exact @Target.ofReference_own fetch (position d part outer).scope _ isOuter.isKnown.known

/-! Draft 2019-09 follows the trail from schema to schema. -/

theorem joined_trail :
    ([whole .draft2019, describing .draft2019].all fun part => part.name.head? != some '#' &&
      (joinName (describing .draft2019).name part.name).toOption.bind Uri.defragment? == some (part.name, []) &&
      Target.isRecursive part.contents) = true := by
  decide +kernel

theorem leads_along {part : Part} (isOuter : IsOuter .draft2019 part) (outer : List (List Char)) (fetch : Retrieval) :
    Target.isRecursive part.contents = true ∧
      Target.ofReference fetch (position .draft2019 (describing .draft2019) outer).scope part.name =
        .ok ⟨part.contents, (position .draft2019 (describing .draft2019) outer).scope.enter (registry .draft2019)
          part.name⟩ := by
  have listed : part ∈ [whole .draft2019, describing .draft2019] := by
    rcases isOuter with rfl | rfl
    · exact List.mem_cons_self
    · exact List.mem_cons_of_mem _ List.mem_cons_self
  rcases Bool.and_eq_true_iff.mp (List.all_eq_true.mp joined_trail part listed) with ⟨named, recursive⟩
  rcases Bool.and_eq_true_iff.mp named with ⟨relative, joined⟩
  refine ⟨recursive, ?_⟩
  exact @Target.ofReference_name fetch (position .draft2019 (describing .draft2019) outer).scope _ _ _
    (bne_iff_ne.mp relative) (beq_iff_eq.mp joined) isOuter.isKnown.known

/-- All schemas on the trail have recursive anchors, so it is followed to its end. -/
theorem outermost_trail {behind : List (List Char)} (trail : Trail .draft2019 behind) (outer : List (List Char))
    (here : Target) (fetch : Retrieval) :
    Target.outermost fetch (position .draft2019 (describing .draft2019) outer).scope here behind =
      .ok ⟨(whole .draft2019).contents, (position .draft2019 (describing .draft2019) outer).scope.enter
        (registry .draft2019) (whole .draft2019).name⟩ := by
  induction trail generalizing here with
  | start =>
      rcases leads_along (.inl rfl) outer fetch with ⟨recursive, leads⟩
      rw [Target.outermost]
      refine bind_eq_ok_iff.mpr ⟨_, leads, ?_⟩
      dsimp only
      rw [if_pos recursive, Target.outermost]
  | further isOuter _ ih =>
      rcases leads_along isOuter outer fetch with ⟨recursive, leads⟩
      rw [Target.outermost]
      refine bind_eq_ok_iff.mpr ⟨_, leads, ?_⟩
      dsimp only
      rw [if_pos recursive]
      exact ih _

theorem leads_recursion (trail : Trail .draft2019 outer) (fetch : Retrieval) :
    exists outer', Trail .draft2019 outer' ∧
      Target.ofRecursion fetch (position .draft2019 (describing .draft2019) outer).scope =
        .ok ⟨(whole .draft2019).contents, (position .draft2019 (whole .draft2019) outer').scope⟩ := by
  have entered : Entered .draft2019 (describing .draft2019) outer := .inl trail
  rcases leads_own entered (.inr rfl) fetch with ⟨_, -, own⟩
  rcases entered.enter (.inr rfl) (whole .draft2019) with ⟨outer', trail', same⟩
  refine ⟨outer', trail', bind_eq_ok_iff.mpr ⟨_, own, ?_⟩⟩
  dsimp only
  rw [if_pos (leads_along (.inr rfl) outer fetch).1, ← same]
  exact outermost_trail trail outer _ fetch

/-! Draft 2020-12 looks through the trail for anchors. -/

theorem anchor_trail {part : Part} (isOuter : IsOuter .draft2020 part) :
    (registry .draft2020).anchor part.name "meta".toList =
      .ok (registry .draft2020, ⟨part.name, ⟨"meta".toList, true⟩, ⟨.draft2020, part.contents⟩⟩) := by
  rcases isOuter with rfl | rfl
  · exact anchor_of_mem_bundled .draft2020 (whole_mem_bundled .draft2020) rfl
  · have isReferred : ("meta/applicator", Meta.Draft2020.applicator) ∈ referred .draft2020 :=
      @List.mem_of_getElem? _ _ 1 _ rfl
    exact anchor_of_mem_bundled .draft2020 (newer_mem_bundled isReferred) rfl

theorem outerAnchor_trail {part : Part} (isOuter : IsOuter .draft2020 part) (last : Resource) :
    Target.outerAnchor (registry .draft2020) "meta".toList last part.name = .ok ⟨.draft2020, part.contents⟩ := by
  rw [Target.outerAnchor, anchor_trail isOuter]
  rfl

/-- The anchor that is found last is that of the whole. -/
theorem foldlM_outerAnchor (trail : Trail .draft2020 outer) (last : Resource) :
    outer.foldlM (Target.outerAnchor (registry .draft2020) "meta".toList) last =
      .ok ⟨.draft2020, (whole .draft2020).contents⟩ := by
  induction trail generalizing last with
  | start =>
      rw [List.foldlM_cons]
      exact bind_eq_ok_iff.mpr ⟨_, outerAnchor_trail (.inl rfl) last, rfl⟩
  | further isOuter _ ih =>
      rw [List.foldlM_cons]
      exact bind_eq_ok_iff.mpr ⟨_, outerAnchor_trail isOuter last, ih _⟩

theorem inside_whole (outer : List (List Char)) :
    (position .draft2020 (describing .draft2020) outer).scope.inside ⟨.draft2020, (whole .draft2020).contents⟩ =
      .ok (position .draft2020 (whole .draft2020) outer).scope := by
  have joined : joinName (describing .draft2020).name (whole .draft2020).name = .ok (whole .draft2020).name := by
    apply toOption_eq_some_iff.mp
    decide +kernel
  refine bind_eq_ok_iff.mpr ⟨_, (named_whole .draft2020).1, ?_⟩
  exact bind_eq_ok_iff.mpr ⟨_, joined, rfl⟩

theorem leads_anchor (trail : Trail .draft2020 outer) (fetch : Retrieval) :
    exists outer', Trail .draft2020 outer' ∧
      Target.ofReference fetch (position .draft2020 (describing .draft2020) outer).scope "#meta".toList =
        .ok ⟨(whole .draft2020).contents, (position .draft2020 (whole .draft2020) outer').scope⟩ := by
  have entered : Entered .draft2020 (describing .draft2020) outer := .inl trail
  rcases entered.enter (.inr rfl) (describing .draft2020) with ⟨outer', trail', same⟩
  refine ⟨outer', trail', ?_⟩
  have anchored := @Target.ofReference_anchor fetch (position .draft2020 (describing .draft2020) outer).scope _ 'm'
    "eta".toList _ (isKnown_describing .draft2020).known (by decide) (anchor_trail (.inr rfl))
  refine Eq.trans anchored ?_
  change Target.ofAnchor ((position .draft2020 (describing .draft2020) outer).scope.enter (registry .draft2020)
    (describing .draft2020).name) _ = _
  rw [same, Target.ofAnchor_dynamic rfl]
  refine bind_eq_ok_iff.mpr ⟨_, foldlM_outerAnchor trail' _, ?_⟩
  exact bind_eq_ok_iff.mpr ⟨_, inside_whole outer', rfl⟩

end Meta.Part

end Schema
end SchemaLint
