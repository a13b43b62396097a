import SchemaLint.Proofs.Places

/-!
# Outlines of documents

An outline says which members an object may have, which of them it must have, and the same about what stands under them.
Each draft has a schema that says just this.  The oldest draft says of a member that it is required where it describes
the member, the later ones list the names of the required members beside the descriptions.

Evaluation finds the same in all drafts, although it says it in different ways: for every member that some object lacks
there is a violation that blames it, and nothing else is found.  Only levels can be lacking: an outline that is too deep
ends in that crash.
-/

namespace SchemaLint
namespace Schema

open Json

/-- Names of members, whether each of them is required, and an outline of what stands under it. -/
inductive Outline
  | node (members : List (Text × Bool × Outline))

namespace Outline

/-- The names that are required. -/
def demanded (members : List (Text × Bool × Outline)) : List Text :=
  (members.filter fun m => m.2.1).map Prod.fst

/-- What the later drafts say about required names: their list, if there are any. -/
def demand (d : Dialect) (members : List (Text × Bool × Outline)) : Members :=
  if d = .draft3 ∨ demanded members = [] then []
  else [(Text.ofString "required", .array ((demanded members).map .string))]

/-- What the oldest draft says about a required member where it describes the member. -/
def mark (d : Dialect) (required : Bool) : Members :=
  if d = .draft3 ∧ required then [(Text.ofString "required", .bool true)] else []

mutual

/-- What the schema of an outline says. -/
def keywords (d : Dialect) : Outline -> Members
  | .node members => (Text.ofString "properties", .object (schemas d members)) :: demand d members

/-- The schemas of members. -/
def schemas (d : Dialect) : List (Text × Bool × Outline) -> Members
  | [] => []
  | (name, required, o) :: rest => (name, .object (keywords d o ++ mark d required)) :: schemas d rest

end

/-- The schema of an outline. -/
def schema (d : Dialect) (o : Outline) : Value :=
  .object (o.keywords d)

/-- What the schema of a member says. -/
def marked (d : Dialect) (required : Bool) (o : Outline) : Members :=
  o.keywords d ++ mark d required

mutual

/-- How many members lie below one another. -/
def depth : Outline -> Nat
  | .node members => depthMembers members

/-- The depth of the deepest member, itself included. -/
def depthMembers : List (Text × Bool × Outline) -> Nat
  | [] => 0
  | (_, _, o) :: rest => max (depth o + 1) (depthMembers rest)

end

/-- No object is described to have two members of one name. -/
inductive IsKeyed : Outline -> Prop
  | node {members : List (Text × Bool × Outline)} (distinct : (members.map Prod.fst).Nodup)
      (each : forall m, m ∈ members -> IsKeyed m.2.2) : IsKeyed (.node members)

/-- A value lacks the member to which a path leads: all but the last name of the path lead from object to object by
members that are described and there, and the last one is required of the object that they lead to, but not there. -/
inductive Lacks : Outline -> Value -> List Text -> Prop
  | here {members : List (Text × Bool × Outline)} {object : Members} {name : Text} {o : Outline}
      (required : (name, true, o) ∈ members) (absent : Members.get? name object = none) :
      Lacks (.node members) (.object object) [name]
  | through {members : List (Text × Bool × Outline)} {object : Members} {name : Text} {required : Bool} {o : Outline}
      {v : Value} {path : List Text} (described : (name, required, o) ∈ members)
      (found : Members.get? name object = some v) (further : Lacks o v path) :
      Lacks (.node members) (.object object) (name :: path)

/-! ## The schema of an outline -/

theorem schemas_eq_map (d : Dialect) (members : List (Text × Bool × Outline)) :
    schemas d members = members.map fun m => (m.1, .object (m.2.2.marked d m.2.1)) := by
  induction members with
  | nil => rw [schemas, List.map_nil]
  | cons m rest ih =>
      rw [schemas, ih, List.map_cons]
      rfl

theorem marked_node (d : Dialect) (required : Bool) (members : List (Text × Bool × Outline)) :
    (Outline.node members).marked d required =
      (Text.ofString "properties", .object (schemas d members)) :: (demand d members ++ mark d required) := by
  rw [marked, keywords, List.cons_append]

theorem schema_eq_marked (d : Dialect) (o : Outline) : o.schema d = .object (o.marked d false) := by
  have unmarked : mark d false = [] := by
    unfold mark
    simp
  rw [schema, marked, unmarked, List.append_nil]

theorem depth_lt_of_mem {members : List (Text × Bool × Outline)} {m : Text × Bool × Outline} (member : m ∈ members) :
    m.2.2.depth < (Outline.node members).depth := by
  rw [depth]
  induction members with
  | nil => exact absurd member List.not_mem_nil
  | cons first rest ih =>
      rcases first with ⟨name, required, o⟩
      rw [depthMembers]
      rcases List.mem_cons.mp member with here | later
      · rw [here]
        change o.depth < _
        omega
      · have below := ih later
        omega

/-- The schema of an outline has two keywords at most. -/
theorem name_of_mem_marked {d : Dialect} {required : Bool} {o : Outline} {keyword : Text × Value}
    (member : keyword ∈ o.marked d required) :
    keyword.1 = Text.ofString "properties" ∨ keyword.1 = Text.ofString "required" := by
  rcases o with ⟨members⟩
  rw [marked_node] at member
  rcases List.mem_cons.mp member with first | others
  · rw [first]
    exact .inl rfl
  · right
    rcases List.mem_append.mp others with listed | single
    · unfold demand at listed
      split at listed
      · exact absurd listed List.not_mem_nil
      · rw [List.mem_singleton.mp listed]
    · unfold mark at single
      split at single
      · rw [List.mem_singleton.mp single]
      · exact absurd single List.not_mem_nil

theorem get?_marked {d : Dialect} {required : Bool} {o : Outline} {name : Text}
    (other : name ≠ Text.ofString "properties") (other' : name ≠ Text.ofString "required") :
    Members.get? name (o.marked d required) = none := by
  rw [Members.get?_eq_none_iff]
  intro member
  rcases List.mem_map.mp member with ⟨keyword, inside, rfl⟩
  rcases name_of_mem_marked inside with same | same
  · exact other same
  · exact other' same

theorem mem_demanded_iff {members : List (Text × Bool × Outline)} {name : Text} :
    name ∈ demanded members <-> exists o, (name, true, o) ∈ members := by
  unfold demanded
  rw [List.mem_map]
  constructor
  · intro found
    rcases found with ⟨⟨name', required, o⟩, member, rfl⟩
    rcases List.mem_filter.mp member with ⟨inside, isRequired⟩
    have required_eq : required = true := isRequired
    rw [required_eq] at inside
    exact ⟨o, inside⟩
  · intro found
    rcases found with ⟨o, inside⟩
    exact ⟨(name, true, o), List.mem_filter.mpr ⟨inside, rfl⟩, rfl⟩

/-! ## What violations blame -/

/-- A violation of the schema of an outline that is found because a member is missing. -/
inductive Blames (d : Dialect) : Outline -> Value -> List Text -> Violation -> Prop
  /-- The name is one of those that are listed. -/
  | listed {members : List (Text × Bool × Outline)} {object : Members} {name : Text} {schema : Value}
      (later : d ≠ .draft3) (demands : name ∈ demanded members) (absent : Members.get? name object = none) :
      Blames d (.node members) (.object object) [name]
        { path := [], keyword := some (Text.ofString "required"), limit := .array ((demanded members).map .string)
          subject := .object object, schema }
  /-- The schema of the member says that it is required. -/
  | single {members : List (Text × Bool × Outline)} {object : Members} {name : Text} {o : Outline} {schema : Value}
      (oldest : d = .draft3) (required : (name, true, o) ∈ members) (absent : Members.get? name object = none) :
      Blames d (.node members) (.object object) [name]
        { path := [.key name], keyword := some (Text.ofString "required"), limit := .bool true
          subject := .object object, schema }
  /-- The member is missing further below. -/
  | through {members : List (Text × Bool × Outline)} {object : Members} {name : Text} {required : Bool} {o : Outline}
      {value : Value} {path : List Text} {v : Violation} (described : (name, required, o) ∈ members)
      (found : Members.get? name object = some value) (further : Blames d o value path v) :
      Blames d (.node members) (.object object) (name :: path) { v with path := .key name :: v.path }

/-- The names that a list demands and an object lacks are those of the list that are absent. -/
theorem missingNames_strings (names : List Text) (object : Members) :
    exists missing, Failure.missingNames (names.map .string) object = .ok missing ∧
      forall name, name ∈ missing <-> name ∈ names ∧ Members.get? name object = none := by
  refine ⟨names.filter fun name => !Members.has name object, ?_, ?_⟩
  · have absent : allWhere (fun name => do return !(← hasMember object name)) (names.map .string) =
        .ok ((names.filter fun name => !Members.has name object).map .string) := by
      have tested := @allWhere_of_ok _ (fun name => do return !(← hasMember object name))
        (fun name => !Members.has (name.text?.getD []) object) (names.map .string)
      rw [List.filter_map] at tested
      apply tested
      intro v member
      rcases List.mem_map.mp member with ⟨name, -, rfl⟩
      rfl
    apply bind_eq_ok_iff.mpr
    refine ⟨_, absent, ?_⟩
    rw [List.map_map]
    exact congrArg Except.ok (List.map_id _)
  · intro name
    rw [List.mem_filter]
    simp [Members.has]

/-- Below a way, a violation comes down to failures about members that are missing there, and the member that it is found
for is one of them. -/
theorem Blames.exists_own {d : Dialect} {o : Outline} {value : Value} {path : List Text} {v : Violation}
    (blames : Blames d o value path v) (way : List PathPart) :
    exists own, Failure.ofViolation { v with path := way ++ v.path } = .ok own ∧
      Failure.unset (way ++ path.map .key) v.limit ∈ own ∧
      forall f, f ∈ own -> exists path', Lacks o value path' ∧ f = Failure.unset (way ++ path'.map .key) v.limit := by
  induction blames generalizing way with
  | @listed members object name schema _ demands absent =>
      rcases missingNames_strings (demanded members) object with ⟨missing, computed, member⟩
      refine ⟨missing.map fun name => .unset (way ++ [.key name]) (.array ((demanded members).map .string)), ?_, ?_, ?_⟩
      · rw [Failure.ofViolation_missing rfl rfl rfl, computed, List.append_nil]
        rfl
      · exact List.mem_map_of_mem ((member name).mpr ⟨demands, absent⟩)
      · intro f inside
        rcases List.mem_map.mp inside with ⟨name', isMissing, rfl⟩
        rcases (member name').mp isMissing with ⟨demands', absent'⟩
        rcases mem_demanded_iff.mp demands' with ⟨o, required⟩
        exact ⟨[name'], .here required absent', rfl⟩
  | @single members object name o schema _ required absent =>
      refine ⟨[.unset (way ++ [.key name]) (.bool true)], ?_, List.mem_cons_self, ?_⟩
      · exact Failure.ofViolation_unset rfl (fun _ => nofun)
      · intro f inside
        rw [List.mem_singleton.mp inside]
        exact ⟨[name], .here required absent, rfl⟩
  | @through members object name required o value path v described found _ ih =>
      rcases ih (way ++ [.key name]) with ⟨own, converted, blamed, each⟩
      simp only [List.append_assoc, List.singleton_append] at converted blamed each
      refine ⟨own, converted, blamed, ?_⟩
      intro f inside
      rcases each f inside with ⟨path', lacks, same⟩
      exact ⟨name :: path', .through described found lacks, same⟩

end Outline

/-! ## Complete searches -/

/-- What a search for all violations found: nothing that is blamed on none of the paths, and for every path that was due
something, unless the search ended early; and it ends early only where levels are lacking. -/
structure Outcome.Reports (roomy : Prop) (due : List Text -> Prop) (blames : List Text -> Violation -> Prop)
    (o : Outcome) : Prop where
  sound : forall v, v ∈ o.found -> exists path, blames path v
  complete : o.crash = none -> forall path, due path -> exists v, v ∈ o.found ∧ blames path v
  ends : o.crash = none ∨ o.crash = some .recursion ∧ ¬ roomy

namespace Outcome

variable {roomy : Prop} {due : List Text -> Prop} {blames : List Text -> Violation -> Prop}

theorem reports_clean (nothing : forall path, ¬ due path) : clean.Reports roomy due blames where
  sound := fun _ member => absurd member List.not_mem_nil
  complete := fun _ path isDue => absurd isDue (nothing path)
  ends := .inl rfl

theorem reports_one {v : Violation} {path : List Text} (blamed : blames path v)
    (only : forall path', due path' -> path' = path) : (one v).Reports roomy due blames where
  sound := by
    intro w member
    rw [List.mem_singleton.mp member]
    exact ⟨path, blamed⟩
  complete := by
    intro _ path' isDue
    rw [only path' isDue]
    exact ⟨v, List.mem_cons_self, blamed⟩
  ends := .inl rfl

theorem Reports.imp {due' : List Text -> Prop} {o : Outcome} (reports : o.Reports roomy due blames)
    (weaker : forall path, due' path -> due path) : o.Reports roomy due' blames where
  sound := reports.sound
  complete := fun whole path isDue => reports.complete whole path (weaker path isDue)
  ends := reports.ends

theorem Reports.andThen {due' : List Text -> Prop} {o : Outcome} {next : Unit -> Outcome}
    (first : o.Reports roomy due blames) (others : (next ()).Reports roomy due' blames) :
    (andThen .all o next).Reports roomy (fun path => due path ∨ due' path) blames := by
  unfold Outcome.andThen
  cases crash : o.crash with
  | some c =>
      have isEnd : o.ends .all = true := by simp [Outcome.ends, crash]
      rw [if_pos isEnd]
      refine ⟨first.sound, ?_, ?_⟩
      · rw [crash]
        intro impossible
        cases impossible
      · exact first.ends
  | none =>
      have goesOn : ¬ o.ends .all = true := by simp [Outcome.ends, crash]
      rw [if_neg goesOn]
      refine ⟨?_, ?_, others.ends⟩
      · intro v member
        rcases List.mem_append.mp member with early | late
        · exact first.sound v early
        · exact others.sound v late
      · intro whole path isDue
        rcases isDue with early | late
        · rcases first.complete crash path early with ⟨v, member, blamed⟩
          exact ⟨v, List.mem_append_left _ member, blamed⟩
        · rcases others.complete whole path late with ⟨v, member, blamed⟩
          exact ⟨v, List.mem_append_right _ member, blamed⟩

/-- Where more levels are needed, more can be lacking. -/
theorem Reports.narrow {roomy' : Prop} {o : Outcome} (reports : o.Reports roomy due blames) (more : roomy' -> roomy) :
    o.Reports roomy' due blames where
  sound := reports.sound
  complete := reports.complete
  ends := reports.ends.imp_right (fun crashed => ⟨crashed.1, fun room => crashed.2 (more room)⟩)

theorem each_map {α β : Type} {demand : Demand} (search : β -> Outcome) (f : α -> β) (xs : List α) :
    Outcome.each demand search (xs.map f) = Outcome.each demand (fun x => search (f x)) xs := by
  induction xs with
  | nil => rfl
  | cons x rest ih => rw [List.map_cons, Outcome.each, Outcome.each, ih]

/-- Searching one thing after another reports what is due for one of them. -/
theorem reports_each {α : Type} {search : α -> Outcome} {dueFor : α -> List Text -> Prop} (xs : List α)
    (each : forall x, x ∈ xs -> (search x).Reports roomy (dueFor x) blames) :
    (Outcome.each .all search xs).Reports roomy (fun path => exists x, x ∈ xs ∧ dueFor x path) blames := by
  induction xs with
  | nil =>
      apply reports_clean
      intro path isDue
      rcases isDue with ⟨x, member, -⟩
      exact absurd member List.not_mem_nil
  | cons x rest ih =>
      rw [Outcome.each]
      have first := each x List.mem_cons_self
      have others := ih (fun y member => each y (List.mem_cons_of_mem x member))
      apply (first.andThen others).imp
      intro path isDue
      rcases isDue with ⟨y, member, isDue⟩
      rcases List.mem_cons.mp member with rfl | later
      · exact .inl isDue
      · exact .inr ⟨y, later, isDue⟩

theorem Reports.under {due' : List Text -> Prop} {blames' : List Text -> Violation -> Prop} {o : Outcome}
    {name : Text} (reports : o.Reports roomy due blames)
    (step : forall path v, blames path v -> blames' (name :: path) { v with path := .key name :: v.path })
    (back : forall path, due' path -> exists path', path = name :: path' ∧ due path') :
    (o.under (some (.key name))).Reports roomy due' blames' where
  sound := by
    intro v member
    rcases List.mem_map.mp member with ⟨w, inside, rfl⟩
    rcases reports.sound w inside with ⟨path, blamed⟩
    exact ⟨name :: path, step path w blamed⟩
  complete := by
    intro whole path isDue
    rcases back path isDue with ⟨path', rfl, isDue'⟩
    rcases reports.complete whole path' isDue' with ⟨v, member, blamed⟩
    exact ⟨_, List.mem_map_of_mem member, step path' v blamed⟩
  ends := reports.ends

end Outcome

/-! ## Evaluating the schema of an outline -/

/-- A schema that neither names itself nor its draft. -/
structure Nameless (members : Members) : Prop where
  id : Members.get? "id" members = none
  newId : Members.get? "$id" members = none
  draft : Members.get? "$schema" members = none

theorem Nameless.id? {members : Members} (nameless : Nameless members) (d : Dialect) :
    Resource.id? ⟨d, .object members⟩ = .ok none := by
  unfold Resource.id?
  cases d <;> simp only [nameless.id, nameless.newId, ite_self]

/-- Such a schema is applied where it stands. -/
theorem Evaluator.descend_nameless {ev : Evaluator} {demand : Demand} {p : Position} {members : Members}
    {subject : Value} {part : Option PathPart} (nameless : Nameless members) :
    ev.descend demand p (.object members) subject part =
      (ev.apply demand p.dialect p (.object members) subject).under part := by
  have stays : p.scope.inside ⟨p.dialect, .object members⟩ = .ok p.scope := by
    rw [Scope.inside, nameless.id?]
    rfl
  have keeps : Position.adopt p (.object members) = .ok p := by
    rw [Position.adopt, dialectOf, nameless.draft]
    rfl
  rw [Evaluator.descend]
  · rw [Evaluator.enter]
    · rw [stays]
      change (Outcome.ofExcept (Position.adopt p (.object members)) _).under part = _
      rw [keeps]
      rfl
    all_goals exact nofun
  · exact fun _ => nofun

namespace Outline

theorem keyword_properties (d : Dialect) :
    Keyword.ofName? d (Text.ofString "properties") =
      some (if d = .draft3 then .propertiesAndRequired else .properties) := by
  cases d <;> decide

theorem keyword_required (d : Dialect) :
    Keyword.ofName? d (Text.ofString "required") = if d = .draft3 then none else some .required := by
  cases d <;> decide

theorem nameless_marked (d : Dialect) (required : Bool) (o : Outline) : Nameless (o.marked d required) where
  id := get?_marked (by decide) (by decide)
  newId := get?_marked (by decide) (by decide)
  draft := get?_marked (by decide) (by decide)

theorem effective_marked (d : Dialect) (required : Bool) (o : Outline) :
    effective d (o.marked d required) = o.marked d required := by
  unfold effective
  rw [get?_marked (by decide) (by decide)]
  exact ite_self _

/-- Evaluation one level below reports what every outline lacks. -/
def Below (d : Dialect) (level : Nat) (ev : Evaluator) : Prop :=
  forall (o : Outline) (required : Bool) (p : Position) (value : Value), p.dialect = d ->
    (ev.apply .all d p (.object (o.marked d required)) value).Reports (o.depth < level) (Lacks o value)
      (Blames d o value)

section Level

variable {d : Dialect} {level : Nat} {ev : Evaluator} {members : List (Text × Bool × Outline)} {object : Members}

/-- What is due for a member that is there. -/
def DueThrough (object : Members) (m : Text × Bool × Outline) (path : List Text) : Prop :=
  exists value path', Members.get? m.1 object = some value ∧ path = m.1 :: path' ∧ Lacks m.2.2 value path'

/-- What is due for a member that is required and not there. -/
def DueHere (object : Members) (m : Text × Bool × Outline) (path : List Text) : Prop :=
  m.2.1 = true ∧ Members.get? m.1 object = none ∧ path = [m.1]

theorem lacks_object_iff {path : List Text} :
    Lacks (.node members) (.object object) path <->
      exists m, m ∈ members ∧ (DueThrough object m path ∨ DueHere object m path) := by
  constructor
  · intro lacks
    cases lacks with
    | here required absent => exact ⟨_, required, .inr ⟨rfl, absent, rfl⟩⟩
    | through described found further => exact ⟨_, described, .inl ⟨_, _, found, rfl, further⟩⟩
  · intro due
    rcases due with ⟨⟨name, required, o⟩, member, ⟨value, path', found, rfl, further⟩ | ⟨isRequired, absent, rfl⟩⟩
    · exact .through member found further
    · have required_eq : required = true := isRequired
      rw [required_eq] at member
      exact .here member absent

theorem reports_found {a : Assertion} (below : Below d level ev) (demand : a.demand = .all)
    (draft : a.position.dialect = d) {m : Text × Bool × Outline} (member : m ∈ members) {value : Value}
    (found : Members.get? m.1 object = some value) :
    (a.descend ev (.object (m.2.2.marked d m.2.1)) value (some (.key m.1))).Reports
      ((Outline.node members).depth < level + 1) (DueThrough object m) (Blames d (.node members) (.object object)) := by
  rw [Assertion.descend, Evaluator.descend_nameless (nameless_marked d m.2.1 m.2.2), demand, draft]
  have reports := below m.2.2 m.2.1 a.position value draft
  have less := depth_lt_of_mem member
  apply (reports.narrow (fun room => by omega)).under
  · exact fun path v blamed => .through member found blamed
  · intro path due
    rcases due with ⟨value', path', found', rfl, further⟩
    rw [Option.some.inj (found.symm.trans found')]
    exact ⟨path', rfl, further⟩

theorem reports_properties {a : Assertion} (below : Below d level ev) (demand : a.demand = .all)
    (draft : a.position.dialect = d) (limit : a.limit = .object (schemas d members))
    (subject : a.subject = .object object) :
    (a.properties ev).Reports ((Outline.node members).depth < level + 1)
      (fun path => exists m, m ∈ members ∧ DueThrough object m path) (Blames d (.node members) (.object object)) := by
  rw [Assertion.properties, Assertion.ofObject, subject, limit, schemas_eq_map]
  change (Outcome.each a.demand _ _).Reports _ _ _
  rw [demand, Outcome.each_map]
  apply Outcome.reports_each
  intro m member
  dsimp only
  cases found : Members.get? m.1 object with
  | some value => exact reports_found below demand draft member found
  | none =>
      apply Outcome.reports_clean
      intro path due
      rcases due with ⟨value, path', found', -⟩
      rw [found] at found'
      cases found'

theorem get?_required (required : Bool) (o : Outline) :
    Members.get? (Text.ofString "required") (o.marked .draft3 required) =
      if required then some (.bool true) else none := by
  rcases o with ⟨members⟩
  rw [marked_node, Members.get?, if_neg (by decide)]
  cases required <;> rfl

/-- The oldest draft finds what is missing where it looks at what is there. -/
theorem reports_unset {a : Assertion} (oldest : d = .draft3) (subject : a.subject = .object object) (roomy : Prop)
    {m : Text × Bool × Outline} (member : m ∈ members) (absent : Members.get? m.1 object = none) :
    (match Members.get? (Text.ofString "required") (m.2.2.marked d m.2.1) with
      | some limit => if isGiven limit then Outcome.one (a.unsetMember m.1 limit) else .clean
      | none => .clean).Reports roomy (fun path => DueThrough object m path ∨ DueHere object m path)
        (Blames d (.node members) (.object object)) := by
  have notThrough : forall path, ¬ DueThrough object m path := by
    intro path due
    rcases due with ⟨value, path', found, -⟩
    rw [absent] at found
    cases found
  rcases m with ⟨name, required, o⟩
  rw [oldest, get?_required]
  cases required with
  | true =>
      have blamed := @Blames.single .draft3 members object name o (.object a.schema) rfl member absent
      rw [← subject] at blamed
      apply Outcome.reports_one
      · rw [← subject]
        exact blamed
      · intro path due
        rcases due with through | ⟨-, -, same⟩
        · exact absurd through (notThrough path)
        · exact same
  | false =>
      apply Outcome.reports_clean
      intro path due
      rcases due with through | ⟨isRequired, -⟩
      · exact notThrough path through
      · cases isRequired

theorem reports_propertiesAndRequired {a : Assertion} (below : Below d level ev) (demand : a.demand = .all)
    (draft : a.position.dialect = d) (oldest : d = .draft3) (limit : a.limit = .object (schemas d members))
    (subject : a.subject = .object object) :
    (a.propertiesAndRequired ev).Reports ((Outline.node members).depth < level + 1)
      (Lacks (.node members) (.object object)) (Blames d (.node members) (.object object)) := by
  rw [Assertion.propertiesAndRequired, Assertion.ofObject, subject, limit, schemas_eq_map]
  change (Outcome.each a.demand _ _).Reports _ _ _
  rw [demand, Outcome.each_map]
  apply (Outcome.reports_each members _).imp
  · intro path lacks
    exact lacks_object_iff.mp lacks
  · intro m member
    dsimp only
    cases found : Members.get? m.1 object with
    | some value =>
        apply (reports_found below demand draft member found).imp
        intro path due
        rcases due with through | ⟨-, absent, -⟩
        · exact through
        · rw [found] at absent
          cases absent
    | none => exact reports_unset oldest subject _ member found

theorem reports_required {a : Assertion} (later : d ≠ .draft3) (demand : a.demand = .all) (roomy : Prop)
    (keyword : a.keyword = Text.ofString "required")
    (limit : a.limit = .array ((demanded members).map .string)) (subject : a.subject = .object object) :
    a.required.Reports roomy (fun path => exists m, m ∈ members ∧ DueHere object m path)
      (Blames d (.node members) (.object object)) := by
  have each : (Outcome.each .all (fun name => a.failsIf (!Members.has name object)) (demanded members)).Reports roomy
      (fun path => exists name, name ∈ demanded members ∧ Members.get? name object = none ∧ path = [name])
      (Blames d (.node members) (.object object)) := by
    apply Outcome.reports_each
    intro name member
    unfold Members.has
    cases found : Members.get? name object with
    | some value =>
        apply Outcome.reports_clean
        intro path due
        cases due.1
    | none =>
        have blamed := @Blames.listed d members object name (.object a.schema) later member found
        rw [← limit, ← keyword, ← subject] at blamed
        apply Outcome.reports_one
        · rw [← subject]
          exact blamed
        · exact fun path due => due.2
  rw [Assertion.required, Assertion.ofObject, subject, limit]
  change (Outcome.each a.demand _ _).Reports _ _ _
  rw [demand, Outcome.each_map]
  apply each.imp
  intro path due
  rcases due with ⟨⟨name, required, o⟩, member, isRequired, absent, same⟩
  have required_eq : required = true := isRequired
  rw [required_eq] at member
  exact ⟨name, mem_demanded_iff.mpr ⟨o, member⟩, absent, same⟩

/-! ### Levels -/

variable {rules : Rules} {p : Position} {schema : Members} {subject : Value}

theorem checkMember_properties (demand : Demand) (limit : Value) :
    checkMember rules ev demand p schema subject (Text.ofString "properties", limit) =
      let a : Assertion := ⟨demand, p, schema, Text.ofString "properties", limit, subject⟩
      if p.dialect = .draft3 then a.propertiesAndRequired ev else a.properties ev := by
  unfold checkMember
  rw [keyword_properties]
  by_cases oldest : p.dialect = .draft3
  · rw [if_pos oldest, if_pos oldest]
    rfl
  · rw [if_neg oldest, if_neg oldest]
    rfl

theorem checkMember_required (demand : Demand) (limit : Value) :
    checkMember rules ev demand p schema subject (Text.ofString "required", limit) =
      let a : Assertion := ⟨demand, p, schema, Text.ofString "required", limit, subject⟩
      if p.dialect = .draft3 then .clean else a.required := by
  unfold checkMember
  rw [keyword_required]
  by_cases oldest : p.dialect = .draft3
  · rw [if_pos oldest, if_pos oldest]
  · rw [if_neg oldest, if_neg oldest]
    rfl

/-- The schema of an outline says nothing about a value that is no object. -/
theorem checkMember_plain {demand : Demand} {required : Bool} {o : Outline} (plain : forall object, subject ≠ .object object)
    {keyword : Text × Value} (member : keyword ∈ o.marked d required) :
    checkMember rules ev demand p schema subject keyword = .clean := by
  have nothing : forall (a : Assertion) (check : Members -> Outcome), a.subject = subject -> a.ofObject check = .clean := by
    intro a check same
    unfold Assertion.ofObject
    split
    next object is => exact absurd (same.symm.trans is) (plain object)
    next => rfl
  rcases keyword with ⟨name, limit⟩
  rcases name_of_mem_marked member with same | same
  · have name_eq : name = Text.ofString "properties" := same
    rw [name_eq, checkMember_properties]
    dsimp only
    split
    · exact nothing _ _ rfl
    · exact nothing _ _ rfl
  · have name_eq : name = Text.ofString "required" := same
    rw [name_eq, checkMember_required]
    dsimp only
    split
    · rfl
    · exact nothing _ _ rfl

/-- Behind the schemas of the members the oldest draft says nothing more. -/
theorem reports_rest_oldest (draft : p.dialect = .draft3) (required : Bool) (roomy : Prop) :
    (Outcome.each .all (checkMember rules ev .all p schema subject)
        (demand .draft3 members ++ mark .draft3 required)).Reports roomy (fun _ => False)
      (Blames .draft3 (.node members) subject) := by
  have silent : forall keyword, keyword ∈ demand .draft3 members ++ mark .draft3 required ->
      (checkMember rules ev .all p schema subject keyword).Reports roomy (fun _ => False)
        (Blames .draft3 (.node members) subject) := by
    intro keyword member
    rcases List.mem_append.mp member with listed | single
    · rw [demand, if_pos (.inl rfl)] at listed
      exact absurd listed List.not_mem_nil
    · unfold mark at single
      split at single
      · rw [List.mem_singleton.mp single, checkMember_required]
        dsimp only
        rw [if_pos draft]
        exact Outcome.reports_clean (fun _ due => due)
      · exact absurd single List.not_mem_nil
  exact (Outcome.reports_each _ silent).imp (fun _ due => due.elim)

/-- The later drafts list there what is required. -/
theorem reports_rest_later (later : d ≠ .draft3) (draft : p.dialect = d) (required : Bool) (roomy : Prop) :
    (Outcome.each .all (checkMember rules ev .all p schema (.object object)) (demand d members ++ mark d required)).Reports
      roomy (fun path => exists m, m ∈ members ∧ DueHere object m path) (Blames d (.node members) (.object object)) := by
  rw [mark, if_neg (fun both => later both.1), List.append_nil, demand]
  by_cases nothing : demanded members = []
  · rw [if_pos (.inr nothing)]
    apply Outcome.reports_clean
    intro path due
    rcases due with ⟨⟨name, isRequired, o⟩, member, same, -⟩
    have required_eq : isRequired = true := same
    rw [required_eq] at member
    have demands : name ∈ demanded members := mem_demanded_iff.mpr ⟨o, member⟩
    rw [nothing] at demands
    exact List.not_mem_nil demands
  · have listed : ¬ (d = .draft3 ∨ demanded members = []) := fun either => either.elim later nothing
    rw [if_neg listed, Outcome.each, checkMember_required]
    dsimp only
    rw [if_neg (by rw [draft]; exact later)]
    have first := @reports_required d members object
      ⟨.all, p, schema, Text.ofString "required", .array ((demanded members).map .string), .object object⟩ later rfl roomy
      rfl rfl rfl
    have last : (Outcome.each .all (checkMember rules ev .all p schema (.object object)) []).Reports roomy
        (fun _ => False) (Blames d (.node members) (.object object)) :=
      Outcome.reports_clean (fun _ due => due)
    exact (first.andThen last).imp (fun _ due => .inl due)

/-- One level: what is reported for members is reported for objects. -/
theorem below_above (below : Below d level ev) : Below d (level + 1) (Evaluator.above rules ev) := by
  intro o required p value draft
  change (evaluate rules ev .all d p (.object (o.marked d required)) value).Reports _ _ _
  rw [evaluate, effective_marked]
  by_cases isObject : exists object, value = .object object
  · rcases isObject with ⟨object, rfl⟩
    rcases o with ⟨members⟩
    rw [marked_node, Outcome.each, checkMember_properties]
    dsimp only
    rw [draft]
    by_cases oldest : d = .draft3
    · rw [if_pos oldest]
      have rest := fun schema => @reports_rest_oldest ev members rules p schema (.object object) (draft.trans oldest)
        required ((Outline.node members).depth < level + 1)
      rw [← oldest] at rest
      apply (Outcome.Reports.andThen (reports_propertiesAndRequired below rfl draft oldest rfl rfl) (rest _)).imp
      exact fun _ due => .inl due
    · rw [if_neg oldest]
      apply (Outcome.Reports.andThen (reports_properties below rfl draft rfl rfl)
        (reports_rest_later oldest draft required _)).imp
      intro path lacks
      rcases lacks_object_iff.mp lacks with ⟨m, member, through | here⟩
      · exact .inl ⟨m, member, through⟩
      · exact .inr ⟨m, member, here⟩
  · have plain : forall object, value ≠ .object object := not_exists.mp isObject
    have silent : forall keyword, keyword ∈ o.marked d required ->
        (checkMember rules ev .all p (o.marked d required) value keyword).Reports (o.depth < level + 1) (fun _ => False)
          (Blames d o value) := by
      intro keyword member
      rw [checkMember_plain plain member]
      exact Outcome.reports_clean (fun _ due => due)
    apply (Outcome.reports_each _ silent).imp
    intro path lacks
    cases lacks with
    | here => exact absurd rfl (plain _)
    | through => exact absurd rfl (plain _)

theorem below_ofLevel (d : Dialect) (rules : Rules) (level : Nat) : Below d level (Evaluator.ofLevel rules level) := by
  induction level with
  | zero =>
      intro o required p value draft
      exact ⟨fun _ member => absurd member List.not_mem_nil, nofun, .inr ⟨rfl, Nat.not_lt_zero _⟩⟩
  | succ level ih => exact below_above ih

/-- In every draft the schema of an outline reports what a document lacks, if the outline is not too deep. -/
theorem reports_judge (retrieval : Retrieval) (d : Dialect) (o : Outline) (document : Value) :
    (judge retrieval d (o.schema d) document).Reports (o.depth <= levels) (Lacks o document) (Blames d o document) := by
  have start : Scope.ofSchema d (o.schema d) = .ok ⟨.add ⟨[], []⟩ [] ⟨d, o.schema d⟩, [], []⟩ := by
    rw [schema_eq_marked, Scope.ofSchema, (nameless_marked d false o).id?]
    rfl
  rw [judge, run, start, schema_eq_marked]
  have above : Below d (levels + 1) (.above { retrieval, formats := false } (.ofLevel _ levels)) :=
    below_above (below_ofLevel d { retrieval, formats := false } levels)
  exact (above o false ⟨d, _⟩ document rfl).narrow (fun room => Nat.lt_succ_of_le room)

end Level

end Outline

end Schema
end SchemaLint
