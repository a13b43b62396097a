import SchemaLint.Proofs.Schema.Trail

/-!
# Schemas of outlines are well-formed

The schema for the schemas of a draft finds nothing in the schema of an outline, if the outline is not too deep.

The part for subschemas speaks of the members that an outline describes, and refers to the whole for each of them.  The
part for demands speaks of the names that it demands.  In the older drafts both are the whole.  All other parts are silent
about outlines.
-/

namespace SchemaLint
namespace Schema

open Json

/-- What applies the schema to which a reference leads needs one level more than that schema. -/
theorem fits_leading {rules : Rules} {n : Nat} {p : Position} {members inner : Members} {subject : Value}
    {keyword : Text × Value} (target : Target) (only : effective p.dialect members = [keyword])
    (leads : forall ev, checkMember rules ev .first p members subject keyword =
      Assertion.applyTarget ⟨.first, p, members, keyword.1, keyword.2, subject⟩ ev target)
    (object : target.schema = .object inner) (draft : dialectOf p.dialect target.schema = .ok p.dialect)
    (fits : Fits rules n ⟨p.dialect, target.scope⟩ target.schema subject) :
    Fits rules (n + 1) p (.object members) subject := by
  apply fits_object
  intro level keyword' member
  rw [only, List.mem_singleton] at member
  rw [member, leads]
  exact Fits.applyTarget fits rfl object draft level

theorem check_reference {rules : Rules} {ev : Evaluator} {p : Position} {members : Members} {subject : Value}
    {name : Text} {ref : String} {target : Target} (isReference : Keyword.ofName? p.dialect name = some .reference)
    (leads : Target.ofReference rules.retrieval p.scope ref.toList = .ok target) :
    checkMember rules ev .first p members subject (name, Meta.str ref) =
      Assertion.applyTarget ⟨.first, p, members, name, Meta.str ref, subject⟩ ev target := by
  have text : Assertion.referenceText (Meta.str ref) = .ok ref.toList := by
    rw [Meta.str, Assertion.referenceText, Text.toString_ofString]
  unfold checkMember
  dsimp only
  rw [isReference]
  dsimp only
  rw [Assertion.check, Assertion.reference, text, Outcome.ofExcept, leads]
  rfl

namespace Meta.Part

variable {d : Dialect}

/-! ## What the parts say -/

/-- How a part of the schema for schemas refers to schemas. -/
def anySchema : Dialect -> Members
  | .draft3 => [(Text.ofString "$ref", Meta.str "#"), (Text.ofString "type", Meta.str "object")]
  | .draft2019 => [(Text.ofString "$recursiveRef", Meta.str "#")]
  | .draft2020 => [(Text.ofString "$dynamicRef", Meta.str "#meta")]
  | _ => [(Text.ofString "$ref", Meta.str "#")]

/-- How the later drafts refer to what they say about lists of names. -/
def stringArrayReference (d : Dialect) : String :=
  if d.referenceHides then "#/definitions/stringArray" else "#/$defs/stringArray"

/-- What is demanded of the keyword that demands members. -/
def anyDemand : Dialect -> Members
  | .draft3 => [(Text.ofString "type", Meta.str "boolean"), (Text.ofString "default", Meta.flag false)]
  | d => [(Text.ofString "$ref", Meta.str (stringArrayReference d))]

/-! ### What fits -/

section Fitting

variable {rules : Rules} {n : Nat} {subject : Value} {outer : List (List Char)}

theorem keyword_reference (d : Dialect) : Keyword.ofName? d (Text.ofString "$ref") = some .reference := by
  cases d <;> decide

/-- What leads from a part to another fits what the other one fits. -/
theorem fits_entering {part part' : Part} {outer' : List (List Char)} {members : Members} {keyword : Text × Value}
    (known : IsKnown d part') (only : effective d members = [keyword])
    (leads : forall ev, checkMember rules ev .first (position d part outer) members subject keyword =
      Assertion.applyTarget ⟨.first, position d part outer, members, keyword.1, keyword.2, subject⟩ ev
        ⟨part'.contents, (position d part' outer').scope⟩)
    (fits : Fits rules n (position d part' outer') part'.contents subject) :
    Fits rules (n + 1) (position d part outer) (.object members) subject :=
  fits_leading ⟨part'.contents, (position d part' outer').scope⟩ only leads rfl known.own fits

/-- What the part for subschemas says about any schema fits what the whole fits. -/
theorem fits_anySchema (entered : Entered d (describing d) outer)
    (fits : forall outer', Entered d (whole d) outer' ->
      Fits rules n (position d (whole d) outer') (whole d).contents subject) :
    Fits rules (n + 1) (position d (describing d) outer) (.object (anySchema d)) subject := by
  cases d with
  | draft2019 =>
      rcases leads_recursion (entered.trail rfl) rules.retrieval with ⟨outer', trail, leads⟩
      apply fits_entering (isKnown_whole _) rfl _ (fits outer' (.inl trail))
      have isRecursive : Keyword.ofName? .draft2019 (Text.ofString "$recursiveRef") = some .recursiveReference := by
        decide +kernel
      intro ev
      unfold checkMember
      rw [show (position .draft2019 (describing .draft2019) outer).dialect = .draft2019 from rfl, isRecursive]
      dsimp only
      rw [Assertion.check, Assertion.recursiveReference, leads]
      rfl
  | draft2020 =>
      rcases leads_anchor (entered.trail rfl) rules.retrieval with ⟨outer', trail, leads⟩
      apply fits_entering (isKnown_whole _) rfl _ (fits outer' (.inl trail))
      have isReference : Keyword.ofName? .draft2020 (Text.ofString "$dynamicRef") = some .reference := by
        decide +kernel
      exact fun ev => check_reference isReference leads
  | _ =>
      rcases leads_own entered (.inl rfl) rules.retrieval with ⟨outer', trail, leads⟩
      apply fits_entering (isKnown_whole _) rfl _ (fits outer' (.inl trail))
      exact fun ev => check_reference (keyword_reference _) leads

/-- What the parts say about lists of names. -/
def stringArray (d : Dialect) : Members :=
  namesKeywords.filter fun keyword =>
    keyword.1 != if d = .draft4 then Text.ofString "default" else Text.ofString "minItems"

theorem pointer_stringArray (later : d ≠ .draft3) (scope : Scope) :
    Target.pointer ⟨d, (demanding d).contents⟩ scope ('/' :: (stringArrayReference d).toList.drop 2) =
      .ok ⟨.object (stringArray d), scope⟩ := by
  have split : splitChars '/' (Percent.decode ((stringArrayReference d).toList.drop 2)) =
      [if d.referenceHides then "definitions".toList else "$defs".toList, "stringArray".toList] := by
    cases d <;> decide +kernel
  rw [Target.pointer, List.drop_one, List.tail_cons, split]
  cases d with
  | draft3 => exact absurd rfl later
  | _ => rfl

theorem leads_stringArray (later : d ≠ .draft3) (fetch : Retrieval) :
    exists scope, Target.ofReference fetch (position d (demanding d) outer).scope (stringArrayReference d).toList =
      .ok ⟨.object (stringArray d), scope⟩ := by
  have begins : (stringArrayReference d).toList = '#' :: '/' :: (stringArrayReference d).toList.drop 2 := by
    cases d <;> decide +kernel
  refine ⟨(position d (demanding d) outer).scope.enter (registry d) (demanding d).name, ?_⟩
  rw [begins, ← pointer_stringArray later]
  exact @Target.ofReference_pointer fetch (position d (demanding d) outer).scope _ (isKnown_demanding d).known _

theorem mem_namesKeywords {keyword : Text × Value} (member : keyword ∈ effective d (stringArray d)) :
    keyword ∈ namesKeywords := by
  have all : effective d (stringArray d) = stringArray d := by
    cases d <;> rfl
  rw [all] at member
  exact List.mem_of_mem_filter member

theorem anyDemand_later (later : d ≠ .draft3) :
    effective d (anyDemand d) = [(Text.ofString "$ref", Meta.str (stringArrayReference d))] := by
  cases d with
  | draft3 => exact absurd rfl later
  | _ => rfl

/-- What the part for demands says about them fits every list of some distinct names. -/
theorem fits_names_anyDemand (later : d ≠ .draft3) {names : List Text} (distinct : names.Nodup) (nonempty : names ≠ []) :
    Fits rules 3 (position d (demanding d) outer) (.object (anyDemand d)) (.array (names.map .string)) := by
  rcases @leads_stringArray d outer later rules.retrieval with ⟨scope, leads⟩
  have single : Members.get? (Text.ofString "prefixItems") (stringArray d) = none := by
    cases d <;> rfl
  have own : dialectOf d (.object (stringArray d)) = .ok d := by
    cases d <;> rfl
  have fits : Fits rules 2 ⟨d, scope⟩ (.object (stringArray d)) (.array (names.map .string)) :=
    fits_names later (fun _ => mem_namesKeywords) single distinct nonempty
  apply fits_leading ⟨.object (stringArray d), scope⟩ (anyDemand_later later) _ rfl own fits
  exact fun ev => check_reference (keyword_reference d) leads

/-- In the oldest draft what is said about demands fits a truth value. -/
theorem fits_true_anyDemand (scope : Scope) :
    Fits rules 1 ⟨.draft3, scope⟩ (.object (anyDemand .draft3)) (.bool true) := by
  apply fits_object
  intro level keyword member
  have inside : keyword ∈ anyDemand .draft3 := member
  simp only [anyDemand, List.mem_cons, List.not_mem_nil, or_false] at inside
  rcases inside with rfl | rfl
  · exact Outcome.settles_clean
  · exact Outcome.settles_clean

/-- What the part for demands says about them fits what the schema of an outline demands. -/
theorem fits_anyDemand {members : List (Text × Bool × Outline)} {required : Bool} {v : Value}
    (distinct : (members.map Prod.fst).Nodup)
    (found : Members.get? (Text.ofString "required") ((Outline.node members).marked d required) = some v) :
    Fits rules 3 (position d (demanding d) outer) (.object (anyDemand d)) v := by
  by_cases oldest : d = .draft3
  · rw [oldest, Outline.get?_required] at found
    rw [oldest]
    cases required with
    | false => cases found
    | true =>
        rw [← Option.some.inj found]
        exact (fits_true_anyDemand _).mono (by decide)
  · rw [Outline.marked_node, Members.get?, if_neg (by decide), Outline.mark, if_neg (fun both => oldest both.1),
      List.append_nil, Outline.demand] at found
    split at found
    next => cases found
    next demanded =>
      have v_eq : v = .array ((Outline.demanded members).map .string) := (Option.some.inj found).symm
      rw [v_eq]
      apply fits_names_anyDemand oldest
      · exact distinct.sublist (List.filter_sublist.map Prod.fst)
      · exact fun empty => demanded (.inr empty)

end Fitting

/-! ### What the parts say about outlines -/

theorem mostly_parts :
    (Dialect.all.all fun d =>
      ((parts d).all fun part => (effective d part.members).all fun keyword =>
        isSilent d keywordNames keyword || isDescription d keyword) &&
      (d.referenceHides || (effective d (whole d).members).all fun keyword =>
        isSilent d keywordNames keyword || keyword.1 = Text.ofString "allOf")) = true := by
  decide +kernel

/-- The parts are silent about outlines or describe some of the members. -/
theorem mostly_part {part : Part} (member : part ∈ parts d) :
    ((effective d part.members).all fun keyword =>
      isSilent d keywordNames keyword || isDescription d keyword) = true :=
  List.all_eq_true.mp (Bool.and_eq_true_iff.mp (List.all_eq_true.mp mostly_parts d (mem_all d))).1 part member

/-- What the part for subschemas says about the members that an outline describes. -/
def described (d : Dialect) : Text × Value :=
  (Text.ofString "properties", .object (membersFit (anySchema d)))

/-- What the part for demands says about the members that an outline demands. -/
def required (d : Dialect) : Text × Value :=
  (Text.ofString "required", .object (anyDemand d))

theorem spoken_newer {r : String × Value} (member : r ∈ referred d) :
    spoken d (newer d r).members = [] ∨
      newer d r = describing d ∧ spoken d (newer d r).members = [described d] ∨
      newer d r = demanding d ∧ spoken d (newer d r).members = [required d] := by
  cases d with
  | draft2019 =>
      have inside := List.mem_of_mem_filter member
      simp only [Meta.Draft2019.parts, List.mem_cons, List.not_mem_nil, or_false] at inside
      rcases inside with rfl | rfl | rfl | rfl | rfl | rfl | rfl
      · exact .inl rfl
      · exact .inr (.inl ⟨rfl, rfl⟩)
      · exact .inr (.inr ⟨rfl, rfl⟩)
      all_goals exact .inl rfl
  | draft2020 =>
      have inside := List.mem_of_mem_filter member
      simp only [Meta.Draft2020.parts, List.mem_cons, List.not_mem_nil, or_false] at inside
      rcases inside with rfl | rfl | rfl | rfl | rfl | rfl | rfl | rfl | rfl
      · exact .inl rfl
      · exact .inr (.inl ⟨rfl, rfl⟩)
      · exact .inl rfl
      · exact .inr (.inr ⟨rfl, rfl⟩)
      all_goals exact .inl rfl
  | _ => exact absurd member List.not_mem_nil

theorem spoken_whole (older : d.referenceHides = true) {entry : Text × Value}
    (inside : entry ∈ spoken d (whole d).members) : entry = described d ∨ entry = required d := by
  cases d with
  | draft3 =>
      have both : spoken .draft3 (whole .draft3).members = [described .draft3, required .draft3] := by rfl
      rw [both] at inside
      exact (List.mem_cons.mp inside).imp_right List.mem_singleton.mp
  | draft4 =>
      have both : spoken .draft4 (whole .draft4).members = [required .draft4, described .draft4] := by rfl
      rw [both] at inside
      exact ((List.mem_cons.mp inside).imp_right List.mem_singleton.mp).symm
  | draft6 =>
      have both : spoken .draft6 (whole .draft6).members = [required .draft6, described .draft6] := by rfl
      rw [both] at inside
      exact ((List.mem_cons.mp inside).imp_right List.mem_singleton.mp).symm
  | draft7 =>
      have both : spoken .draft7 (whole .draft7).members = [required .draft7, described .draft7] := by rfl
      rw [both] at inside
      exact ((List.mem_cons.mp inside).imp_right List.mem_singleton.mp).symm
  | _ => cases older

/-- Members of outlines are spoken of in the part for subschemas and in the one for demands. -/
theorem eq_of_mem_spoken {part : Part} (member : part ∈ parts d) {entry : Text × Value}
    (inside : entry ∈ spoken d part.members) :
    part = describing d ∧ entry = described d ∨ part = demanding d ∧ entry = required d := by
  cases older : d.referenceHides with
  | true =>
      have places : describing d = whole d ∧ demanding d = whole d := by
        cases d with
        | draft2019 => cases older
        | draft2020 => cases older
        | _ => exact ⟨rfl, rfl⟩
      rw [parts, older] at member
      rw [List.mem_singleton.mp member] at inside ⊢
      exact (spoken_whole older inside).imp (fun same => ⟨places.1.symm, same⟩) (fun same => ⟨places.2.symm, same⟩)
  | false =>
      rw [parts, older] at member
      rcases List.mem_map.mp member with ⟨r, referred, rfl⟩
      rcases spoken_newer referred with none | ⟨same, single⟩ | ⟨same, single⟩
      · rw [none] at inside
        exact absurd inside List.not_mem_nil
      · rw [single] at inside
        exact .inl ⟨same, List.mem_singleton.mp inside⟩
      · rw [single] at inside
        exact .inr ⟨same, List.mem_singleton.mp inside⟩

section Outlines

variable {rules : Rules} {n : Nat} {outer : List (List Char)} {members : List (Text × Bool × Outline)}

/-- A part fits the schema of an outline if the whole fits those of the members. -/
theorem fits_outline_part {part : Part} (member : part ∈ parts d) (distinct : (members.map Prod.fst).Nodup)
    (entered : Entered d part outer)
    (each : forall m, m ∈ members -> forall outer', Entered d (whole d) outer' ->
      Fits rules n (position d (whole d) outer') (whole d).contents (.object (m.2.2.marked d m.2.1)))
    (marked : Bool) :
    Fits rules (max (n + 2) 3 + 1) (position d part outer) part.contents
      (.object ((Outline.node members).marked d marked)) := by
  apply fits_part (mostly_part member)
  intro entry inside v found
  rcases eq_of_mem_spoken member inside with ⟨same, rfl⟩ | ⟨same, rfl⟩
  · have nameless : Nameless (anySchema d) := by
      cases d <;> exact ⟨rfl, rfl, rfl⟩
    rw [same] at entered ⊢
    refine ⟨membersFit (anySchema d), rfl, ⟨rfl, rfl, rfl⟩, ?_⟩
    have found' : some (Value.object (Outline.schemas d members)) = some v := by
      rw [Outline.marked_node] at found
      exact found
    rw [← Option.some.inj found']
    apply Fits.mono _ (Nat.le_max_left (n + 2) 3)
    rw [Outline.schemas_eq_map]
    apply fits_membersFit nameless
    intro entry inside
    rcases List.mem_map.mp inside with ⟨m, isMember, rfl⟩
    exact fits_anySchema entered (each m isMember)
  · rw [same]
    have nameless : Nameless (anyDemand d) := by
      cases d <;> exact ⟨rfl, rfl, rfl⟩
    exact ⟨anyDemand d, rfl, nameless, (fits_anyDemand distinct found).mono (Nat.le_max_right (n + 2) 3)⟩

/-- How the whole of a newer draft refers to its parts. -/
def references (d : Dialect) : Text × Value :=
  (Text.ofString "allOf", .array ((referred d).map fun r => .object [(Text.ofString "$ref", Meta.str r.1)]))

/-- The whole of a newer draft is silent about outlines, apart from referring to the parts. -/
theorem mostly_whole (newer : d.referenceHides = false) :
    ((effective d (whole d).members).all fun keyword =>
      isSilent d keywordNames keyword || keyword.1 = Text.ofString "allOf") = true := by
  have either := (Bool.and_eq_true_iff.mp (List.all_eq_true.mp mostly_parts d (mem_all d))).2
  rw [newer] at either
  exact either

theorem filter_references (newer : d.referenceHides = false) :
    ((effective d (whole d).members).filter fun keyword => keyword.1 = Text.ofString "allOf") = [references d] := by
  cases d with
  | draft2019 => rfl
  | draft2020 => rfl
  | _ => cases newer

/-- The whole fits the schema of an outline if all parts do. -/
theorem fits_outline_whole {o : Outline} {marked : Bool} (entered : Entered d (whole d) outer)
    (each : forall part, part ∈ parts d -> forall outer', Entered d part outer' ->
      Fits rules n (position d part outer') part.contents (.object (o.marked d marked))) :
    Fits rules (n + 2) (position d (whole d) outer) (whole d).contents (.object (o.marked d marked)) := by
  cases older : d.referenceHides with
  | true =>
      have only : whole d ∈ parts d := by
        rw [parts, older]
        exact List.mem_cons_self
      exact (each (whole d) only outer entered).mono (Nat.le_add_right n 2)
  | false =>
      apply fits_object
      intro level keyword member
      rcases Bool.or_eq_true_iff.mp (List.all_eq_true.mp (mostly_whole older) keyword member) with silent | refers
      · rw [checkMember_silent silent (fun _ => get?_eq_none_of_not_mem)]
        exact Outcome.settles_clean
      · have keyword_eq : keyword = references d := by
          apply List.mem_singleton.mp
          rw [← filter_references older]
          exact List.mem_filter.mpr ⟨member, refers⟩
        have isAllOf : Keyword.ofName? d (Text.ofString "allOf") = some .allOf := by
          cases d with
          | draft2019 => decide
          | draft2020 => decide
          | _ => cases older
        rw [keyword_eq, references]
        unfold checkMember
        dsimp only
        rw [show (position d (whole d) outer).dialect = d from rfl, isAllOf]
        apply Outcome.settles_each
        intro schema inside
        rcases List.mem_map.mp inside with ⟨r, isReferred, rfl⟩
        rcases leads_newer isReferred entered rules.retrieval with ⟨outer', trail, leads⟩
        have isPart : newer d r ∈ parts d := by
          rw [parts, older]
          exact List.mem_map_of_mem isReferred
        have only : effective d [(Text.ofString "$ref", Meta.str r.1)] = [(Text.ofString "$ref", Meta.str r.1)] := by
          unfold effective
          rw [older]
          rfl
        have fits := fits_entering (isKnown_newer isReferred) only
          (fun ev => check_reference (keyword_reference d) leads) (each (newer d r) isPart outer' (.inl trail))
        exact @Fits.descend _ _ _ _
          ⟨.first, position d (whole d) outer, (whole d).members, Text.ofString "allOf", (references d).2,
            .object (o.marked d marked)⟩ none fits ⟨rfl, rfl, rfl⟩ rfl level

/-- The schema for the schemas of a draft fits the schema of an outline. -/
theorem fits_outline {o : Outline} (keyed : o.IsKeyed) {outer : List (List Char)} (entered : Entered d (whole d) outer)
    (marked : Bool) :
    Fits rules (5 * o.depth + 6) (position d (whole d) outer) (whole d).contents (.object (o.marked d marked)) := by
  induction keyed generalizing outer marked with
  | @node members distinct each ih =>
      have total : max (5 * (Outline.node members).depth + 1 + 2) 3 + 1 + 2 = 5 * (Outline.node members).depth + 6 := by
        omega
      rw [← total]
      apply fits_outline_whole entered
      intro part isPart outer' entered'
      apply fits_outline_part isPart distinct entered'
      intro m member outer₁ entered₁
      have less := Outline.depth_lt_of_mem member
      exact (ih m member entered₁ m.2.1).mono (by omega)

end Outlines

end Meta.Part

/-- In every draft the schema of an outline is well-formed, if the outline is not too deep. -/
theorem isWellFormed_schema (d : Dialect) {o : Outline} (keyed : o.IsKeyed) :
    isWellFormed d (o.schema d) = .ok true ∨
      isWellFormed d (o.schema d) = .error .recursion ∧ 93 < o.depth := by
  have start : Scope.ofSchema d (metaSchema d) = .ok (Meta.Part.position d (Meta.Part.whole d) []).scope := by
    rw [← Meta.Part.contents_whole]
    refine bind_eq_ok_iff.mpr ⟨_, (Meta.Part.named_whole d).1, ?_⟩
    rw [Meta.Part.contents_whole, Meta.Part.position, Meta.Part.registry]
    rfl
  have fits := @Meta.Part.fits_outline d { retrieval := fun _ => none, formats := true } o keyed [] (.inr ⟨rfl, rfl⟩) false
  rw [isWellFormed, run, start, Outline.schema_eq_marked, ← Meta.Part.contents_whole]
  rcases (fits (levels + 1)).isClean with clean | ⟨crash, lacking⟩
  · exact .inl clean
  · refine .inr ⟨crash, ?_⟩
    rw [levels] at lacking
    omega

end Schema
end SchemaLint
