import SchemaLint.Proofs.Schema.Outline

/-!
# Searches that find nothing

A search for the first violation settles if it finds none: it comes to its end, or it lacks levels.  A schema fits a value
within some number of levels if applying it settles at every level, and comes to its end with that many.

How many levels a schema takes follows from what its keywords apply: one more than the schemas of its keywords.  The
lemmas here say so for the shapes of schemas by which the schemas for schemas describe the schemas of outlines.
-/

namespace SchemaLint
namespace Schema

open Json

/-! ## Settling -/

namespace Outcome

/-- Nothing is found, and if the search does not come to its end then only because there is no room. -/
def Settles (roomy : Prop) (o : Outcome) : Prop :=
  o = .clean ∨ o = .crashed .recursion ∧ ¬ roomy

variable {roomy : Prop}

theorem settles_clean : clean.Settles roomy :=
  .inl rfl

theorem Settles.widen {roomy' : Prop} {o : Outcome} (settles : o.Settles roomy) (more : roomy' -> roomy) :
    o.Settles roomy' :=
  settles.imp_right (fun crashed => ⟨crashed.1, fun room => crashed.2 (more room)⟩)

theorem clean_andThen (demand : Demand) (next : Unit -> Outcome) : andThen demand clean next = next () := by
  cases demand <;> rfl

theorem each_clean {α : Type} {demand : Demand} {search : α -> Outcome} {xs : List α}
    (silent : forall x, x ∈ xs -> search x = .clean) : each demand search xs = .clean := by
  induction xs with
  | nil => rfl
  | cons x rest ih =>
      rw [each, silent x List.mem_cons_self, clean_andThen]
      exact ih (fun y member => silent y (List.mem_cons_of_mem x member))

theorem settles_each {α : Type} {demand : Demand} {search : α -> Outcome} {xs : List α}
    (settle : forall x, x ∈ xs -> (search x).Settles roomy) : (each demand search xs).Settles roomy := by
  induction xs with
  | nil => exact settles_clean
  | cons x rest ih =>
      rw [each]
      rcases settle x List.mem_cons_self with isClean | ⟨crash, lacking⟩
      · rw [isClean, clean_andThen]
        exact ih (fun y member => settle y (List.mem_cons_of_mem x member))
      · rw [crash]
        exact .inr ⟨rfl, lacking⟩

theorem Settles.under {o : Outcome} (settles : o.Settles roomy) (part : Option PathPart) :
    (o.under part).Settles roomy := by
  rcases settles with rfl | ⟨rfl, lacking⟩
  · cases part with
    | none => exact .inl rfl
    | some part => exact .inl rfl
  · cases part with
    | none => exact .inr ⟨rfl, lacking⟩
    | some part => exact .inr ⟨rfl, lacking⟩

/-- What settles is clean, unless it lacks levels. -/
theorem Settles.isClean {o : Outcome} (settles : o.Settles roomy) :
    o.isClean = .ok true ∨ o.isClean = .error .recursion ∧ ¬ roomy := by
  rcases settles with rfl | ⟨rfl, lacking⟩
  · exact .inl rfl
  · exact .inr ⟨rfl, lacking⟩

end Outcome

/-! ## Fitting -/

/-- A schema fits a value within a number of levels. -/
def Fits (rules : Rules) (n : Nat) (p : Position) (schema subject : Value) : Prop :=
  forall level, ((Evaluator.ofLevel rules level).apply .first p.dialect p schema subject).Settles (n <= level)

section Fitting

variable {rules : Rules} {n : Nat} {d : Dialect} {scope : Scope} {p : Position} {members : Members} {subject : Value}

theorem Fits.mono {schema : Value} {m : Nat} (fits : Fits rules n p schema subject) (le : n <= m) :
    Fits rules m p schema subject :=
  fun level => (fits level).widen (fun room => Nat.le_trans le room)

/-- A schema fits within one level more than its keywords do. -/
theorem fits_object
    (settle : forall level keyword, keyword ∈ effective p.dialect members ->
      (checkMember rules (.ofLevel rules level) .first p members subject keyword).Settles (n <= level)) :
    Fits rules (n + 1) p (.object members) subject := by
  intro level
  cases level with
  | zero => exact .inr ⟨rfl, Nat.not_succ_le_zero n⟩
  | succ level =>
      change (Outcome.each .first _ _).Settles _
      apply Outcome.Settles.widen _ Nat.le_of_succ_le_succ
      exact Outcome.settles_each (settle level)

/-- A schema that is applied where it stands. -/
theorem Fits.descend {a : Assertion} {part : Option PathPart} (fits : Fits rules n a.position (.object members) subject)
    (nameless : Nameless members) (demand : a.demand = .first) (level : Nat) :
    (a.descend (.ofLevel rules level) (.object members) subject part).Settles (n <= level) := by
  rw [Assertion.descend, Evaluator.descend_nameless nameless, demand]
  exact (fits level).under part

/-- A schema to which a reference leads. -/
theorem Fits.applyTarget {a : Assertion} {target : Target}
    (fits : Fits rules n ⟨a.position.dialect, target.scope⟩ target.schema a.subject) (demand : a.demand = .first)
    (object : target.schema = .object members) (draft : dialectOf a.position.dialect target.schema = .ok a.position.dialect)
    (level : Nat) : (a.applyTarget (.ofLevel rules level) target).Settles (n <= level) := by
  rw [object] at fits draft
  have keeps : Position.adopt { a.position with scope := target.scope } (.object members) =
      .ok ⟨a.position.dialect, target.scope⟩ := by
    rw [Position.adopt, draft]
    rfl
  rw [Assertion.applyTarget, object, demand, Evaluator.enter]
  · change (Outcome.ofExcept (Position.adopt _ _) _).Settles _
    rw [keeps]
    exact fits level
  all_goals
    intro impossible
    cases impossible

end Fitting

/-! ## Keywords that say nothing -/

/-- Whether a keyword says nothing about an object that has no members but these. -/
def isSilent (d : Dialect) (names : List Text) (keyword : Text × Value) : Bool :=
  match Keyword.ofName? d keyword.1 with
  | none => true
  | some .type | some .typeOrSchema =>
    match keyword.2 with
    | .string type | .array (.string type :: _) => type = Text.ofString "object"
    | _ => false
  | some .properties | some .dependencies | some .dependenciesOfAnyKind =>
    match keyword.2 with
    | .object entries => entries.all fun entry => !names.contains entry.1
    | _ => false
  | some _ => false

section Silence

variable {rules : Rules} {ev : Evaluator} {demand : Demand} {p : Position} {schema object : Members} {names : List Text}
  {keyword : Text × Value}

theorem isOfType_object (d : Dialect) (object : Members) :
    Assertion.isOfType d (.object object) (.string (Text.ofString "object")) = .ok true := by
  cases d <;> rfl

theorem failsWhen_of_ok {a : Assertion} {bad : Except Crash Bool} (passes : bad = .ok false) :
    a.failsWhen bad = .clean := by
  rw [passes]
  rfl

/-- An object has one of the types of a list that begins with that of objects. -/
theorem type_object {a : Assertion} {rest : List Value} (subject : a.subject = .object object)
    (listed : listOf a.limit = .ok (.string (Text.ofString "object") :: rest)) :
    a.type = .clean ∧ a.typeOrSchema ev = .clean := by
  have isObject : Assertion.isOfType a.position.dialect a.subject (.string (Text.ofString "object")) = .ok true := by
    rw [subject]
    exact isOfType_object _ _
  constructor
  · apply failsWhen_of_ok
    rw [listed]
    refine bind_eq_ok_iff.mpr ⟨_, rfl, bind_eq_ok_iff.mpr ⟨true, ?_, rfl⟩⟩
    exact bind_eq_ok_iff.mpr ⟨true, isObject, rfl⟩
  · apply failsWhen_of_ok
    rw [listed]
    refine bind_eq_ok_iff.mpr ⟨_, rfl, bind_eq_ok_iff.mpr ⟨true, ?_, rfl⟩⟩
    have named : ¬ Text.ofString "object" = Text.ofString "any" := by decide
    rw [Assertion.fitsTypeOrSchema]
    exact (if_neg named).trans (bind_eq_ok_iff.mpr ⟨true, isObject, rfl⟩)

theorem listOf_of_object {limit : Value}
    (begins : (match limit with
      | .string type | .array (.string type :: _) => decide (type = Text.ofString "object")
      | _ => false) = true) :
    exists rest, listOf limit = .ok (.string (Text.ofString "object") :: rest) := by
  split at begins
  next type =>
    rw [of_decide_eq_true begins]
    exact ⟨[], rfl⟩
  next type rest =>
    rw [of_decide_eq_true begins]
    exact ⟨rest, rfl⟩
  next => cases begins

/-- Entries for names that no member has say nothing. -/
theorem properties_absent {a : Assertion} {entries : Members} (subject : a.subject = .object object)
    (limit : a.limit = .object entries) (absent : forall entry, entry ∈ entries -> Members.get? entry.1 object = none) :
    a.properties ev = .clean := by
  rw [Assertion.properties, Assertion.ofObject, subject, limit]
  apply Outcome.each_clean
  intro entry member
  rw [absent entry member]

theorem eachPresent_absent {a : Assertion} {entries : Members} {check : Members -> Value -> Outcome}
    (subject : a.subject = .object object) (limit : a.limit = .object entries)
    (absent : forall entry, entry ∈ entries -> Members.get? entry.1 object = none) : a.eachPresent check = .clean := by
  rw [Assertion.eachPresent, Assertion.ofObject, subject, limit]
  apply Outcome.each_clean
  intro entry member
  rw [Members.has, absent entry member]
  rfl

theorem checkMember_silent (silent : isSilent p.dialect names keyword = true)
    (only : forall name, name ∉ names -> Members.get? name object = none) :
    checkMember rules ev demand p schema (.object object) keyword = .clean := by
  have absent : forall entries : Members, (entries.all fun entry => !names.contains entry.1) = true ->
      forall entry, entry ∈ entries -> Members.get? entry.1 object = none := by
    intro entries none entry member
    have other := List.all_eq_true.mp none entry member
    apply only
    simpa using other
  unfold isSilent at silent
  unfold checkMember
  split at silent
  next unknown => rw [unknown]
  next known =>
    rcases listOf_of_object silent with ⟨rest, listed⟩
    rw [known]
    exact (@type_object ev object ⟨demand, p, schema, keyword.1, keyword.2, .object object⟩ rest rfl listed).1
  next known =>
    rcases listOf_of_object silent with ⟨rest, listed⟩
    rw [known]
    exact (@type_object ev object ⟨demand, p, schema, keyword.1, keyword.2, .object object⟩ rest rfl listed).2
  next known =>
    split at silent
    next entries limit =>
      rw [known, limit]
      exact @properties_absent ev object ⟨demand, p, schema, keyword.1, .object entries, .object object⟩ entries rfl rfl
        (absent entries silent)
    next => cases silent
  next known =>
    split at silent
    next entries limit =>
      rw [known, limit]
      change Assertion.dependencies ⟨demand, p, schema, keyword.1, .object entries, .object object⟩ ev = .clean
      exact eachPresent_absent rfl rfl (absent entries silent)
    next => cases silent
  next known =>
    split at silent
    next entries limit =>
      rw [known, limit]
      change Assertion.dependenciesOfAnyKind ⟨demand, p, schema, keyword.1, .object entries, .object object⟩ ev = .clean
      exact eachPresent_absent rfl rfl (absent entries silent)
    next => cases silent
  next => cases silent

end Silence

/-! ## Shapes of schemas -/

/-- The keywords of the schema of an outline. -/
def keywordNames : List Text :=
  [Text.ofString "properties", Text.ofString "required"]

/-- What a schema says about these keywords as members of a value. -/
def spoken (d : Dialect) (part : Members) : Members :=
  ((effective d part).filter fun keyword => keyword.1 = Text.ofString "properties").flatMap fun keyword =>
    (keyword.2.members?.getD []).filter fun entry => keywordNames.contains entry.1

/-- Whether a keyword describes members; in the oldest draft the descriptions must not require them. -/
def isDescription (d : Dialect) (keyword : Text × Value) : Bool :=
  keyword.1 = Text.ofString "properties" &&
    match keyword.2 with
    | .object entries =>
      d != .draft3 || entries.all fun entry =>
        match entry.2 with
        | .object inner => !Members.has "required" inner
        | _ => false
    | _ => false

section Shapes

variable {rules : Rules} {n : Nat} {d : Dialect} {p : Position} {part object : Members}

theorem get?_eq_none_of_not_mem {o : Outline} {required : Bool} {name : Text} (other : name ∉ keywordNames) :
    Members.get? name (o.marked d required) = none := by
  apply Outline.get?_marked
  · intro same
    rw [same] at other
    exact other List.mem_cons_self
  · intro same
    rw [same] at other
    exact other (List.mem_cons_of_mem _ List.mem_cons_self)

theorem exists_entries_of_isDescription {keyword : Text × Value} (describes : isDescription d keyword = true) :
    exists entries, keyword = (Text.ofString "properties", .object entries) ∧
      (d = .draft3 -> forall entry, entry ∈ entries ->
        exists inner, entry.2 = .object inner ∧ Members.get? (Text.ofString "required") inner = none) := by
  rcases keyword with ⟨name, limit⟩
  rcases Bool.and_eq_true_iff.mp describes with ⟨named, table⟩
  have name_eq : name = Text.ofString "properties" := of_decide_eq_true named
  rw [name_eq]
  split at table
  next entries limit_eq =>
    have limit_eq' : limit = .object entries := limit_eq
    refine ⟨entries, by rw [limit_eq'], ?_⟩
    intro oldest entry member
    rw [oldest] at table
    have optional := List.all_eq_true.mp table entry member
    split at optional
    next inner schema => exact ⟨inner, schema, by simpa [Members.has] using optional⟩
    next => cases optional
  next => cases table

theorem mem_spoken {entries : Members} {entry : Text × Value}
    (describes : (Text.ofString "properties", Value.object entries) ∈ effective d part) (member : entry ∈ entries)
    (named : entry.1 ∈ keywordNames) : entry ∈ spoken d part := by
  apply List.mem_flatMap.mpr
  refine ⟨_, List.mem_filter.mpr ⟨describes, decide_eq_true rfl⟩, List.mem_filter.mpr ⟨member, ?_⟩⟩
  exact List.contains_iff_mem.mpr named

/-- Descriptions of members settle if those of the members that are there do. -/
theorem settles_properties {roomy : Prop} {ev : Evaluator} {entries : Members}
    (optional : p.dialect = .draft3 -> forall entry, entry ∈ entries ->
      exists inner, entry.2 = .object inner ∧ Members.get? (Text.ofString "required") inner = none)
    (present : forall entry, entry ∈ entries -> forall v, Members.get? entry.1 object = some v ->
      (ev.descend .first p entry.2 v (some (.key entry.1))).Settles roomy) :
    (checkMember rules ev .first p part (.object object) (Text.ofString "properties", .object entries)).Settles
      roomy := by
  rw [Outline.checkMember_properties]
  dsimp only
  by_cases oldest : p.dialect = .draft3
  · rw [if_pos oldest]
    apply Outcome.settles_each
    intro entry member
    cases found : Members.get? entry.1 object with
    | some v => exact present entry member v found
    | none =>
        rcases optional oldest entry member with ⟨inner, schema, absent⟩
        rw [schema]
        dsimp only [Schema.entries, Outcome.ofExcept]
        rw [absent]
        exact Outcome.settles_clean
  · rw [if_neg oldest]
    apply Outcome.settles_each
    intro entry member
    cases found : Members.get? entry.1 object with
    | some v => exact present entry member v found
    | none => exact Outcome.settles_clean

/-- A schema that describes some of the members of an object, and says nothing else about it, fits if the descriptions
of those that are there do. -/
theorem fits_part {o : Outline} {required : Bool}
    (mostly : ((effective p.dialect part).all fun keyword =>
      isSilent p.dialect keywordNames keyword || isDescription p.dialect keyword) = true)
    (each : forall entry, entry ∈ spoken p.dialect part -> forall v,
      Members.get? entry.1 (o.marked d required) = some v ->
        exists inner, entry.2 = .object inner ∧ Nameless inner ∧ Fits rules n p entry.2 v) :
    Fits rules (n + 1) p (.object part) (.object (o.marked d required)) := by
  apply fits_object
  intro level keyword member
  rcases Bool.or_eq_true_iff.mp (List.all_eq_true.mp mostly keyword member) with silent | describes
  · rw [checkMember_silent silent (fun _ => get?_eq_none_of_not_mem)]
    exact Outcome.settles_clean
  · rcases exists_entries_of_isDescription describes with ⟨entries, rfl, optional⟩
    apply settles_properties optional
    intro entry isEntry v found
    have named : entry.1 ∈ keywordNames := by
      by_contra other
      rw [get?_eq_none_of_not_mem other] at found
      cases found
    rcases each entry (mem_spoken member isEntry named) v found with ⟨inner, schema, nameless, fits⟩
    rw [schema] at fits ⊢
    rw [Evaluator.descend_nameless nameless]
    exact (fits level).under _

/-- A schema for the members of an object, whatever their names are. -/
def membersFit (schema : Members) : Members :=
  [(Text.ofString "type", .string (Text.ofString "object")), (Text.ofString "additionalProperties", .object schema),
    (Text.ofString "default", .object [])]

/-- Where nothing else speaks of members, all of them are additional. -/
theorem extraMembers_of_silence {schema members : Members} (names : Members.get? (Text.ofString "properties") schema = none)
    (patterns : Members.get? (Text.ofString "patternProperties") schema = none) :
    Assertion.extraMembers schema members = .ok members := by
  unfold Assertion.extraMembers Assertion.joinedPatterns
  rw [names, patterns]
  have all := @allWhere_of_ok (Text × Value) (fun _ => .ok true) (fun _ => true) members (fun _ _ => rfl)
  rw [List.filter_true] at all
  exact all

theorem settles_additionalProperties {a : Assertion} {schema : Members} {level : Nat} (demand : a.demand = .first)
    (subject : a.subject = .object object) (limit : a.limit = .object schema)
    (names : Members.get? (Text.ofString "properties") a.schema = none)
    (patterns : Members.get? (Text.ofString "patternProperties") a.schema = none) (nameless : Nameless schema)
    (each : forall m, m ∈ object -> Fits rules n a.position (.object schema) m.2) :
    (a.additionalProperties (.ofLevel rules level)).Settles (n <= level) := by
  rw [Assertion.additionalProperties, Assertion.ofObject, subject]
  dsimp only
  rw [extraMembers_of_silence names patterns, limit]
  apply Outcome.settles_each
  intro m member
  exact (each m member).descend nameless demand level

theorem keyword_additionalProperties (d : Dialect) :
    Keyword.ofName? d (Text.ofString "additionalProperties") = some .additionalProperties := by
  cases d <;> decide

theorem fits_membersFit {schema : Members} (nameless : Nameless schema)
    (each : forall m, m ∈ object -> Fits rules n p (.object schema) m.2) :
    Fits rules (n + 1) p (.object (membersFit schema)) (.object object) := by
  have silent : forall keyword, keyword = (Text.ofString "type", Value.string (Text.ofString "object")) ∨
      keyword = (Text.ofString "default", Value.object []) -> isSilent p.dialect object.keys keyword = true := by
    intro keyword same
    rcases same with rfl | rfl
    · cases p.dialect <;> rfl
    · cases p.dialect <;> rfl
  have only : forall name, name ∉ object.keys -> Members.get? name object = none :=
    fun name other => Members.get?_eq_none_iff.mpr other
  apply fits_object
  intro level keyword member
  have inside : keyword ∈ membersFit schema := by
    unfold effective at member
    split at member
    · exact member
    · exact member
  simp only [membersFit, List.mem_cons, List.not_mem_nil, or_false] at inside
  rcases inside with type | rfl | default
  · rw [checkMember_silent (silent keyword (.inl type)) only]
    exact Outcome.settles_clean
  · unfold checkMember
    rw [keyword_additionalProperties]
    exact settles_additionalProperties rfl rfl rfl rfl rfl nameless each
  · rw [checkMember_silent (silent keyword (.inr default)) only]
    exact Outcome.settles_clean

/-- A schema for a text. -/
def textFits : Members :=
  [(Text.ofString "type", .string (Text.ofString "string"))]

theorem fits_textFits (rules : Rules) (p : Position) (t : Text) :
    Fits rules 1 p (.object textFits) (.string t) := by
  apply fits_object
  intro level keyword member
  have inside : keyword ∈ textFits := by
    unfold effective at member
    split at member
    · exact member
    · exact member
  rw [List.mem_singleton.mp inside]
  rcases p with ⟨d, scope⟩
  cases d <;> exact Outcome.settles_clean

/-! ### Lists of names -/

/-- What a schema can say about a list of names: it is a list of texts, there are some, and none comes twice. -/
def namesKeywords : Members :=
  [(Text.ofString "type", .string (Text.ofString "array")), (Text.ofString "items", .object textFits),
    (Text.ofString "minItems", .int 1), (Text.ofString "uniqueItems", .bool true), (Text.ofString "default", .array [])]

theorem same_strings (s t : Text) : Value.same (.string s) (.string t) = (s == t) := by
  rw [Value.same]

theorem sameNeighbours_of_distinct {items : List Value} (strings : forall v, v ∈ items -> exists t, v = .string t)
    (distinct : items.Nodup) : Value.sameNeighbours items = false := by
  induction items with
  | nil => rfl
  | cons v rest ih =>
      rcases List.nodup_cons.mp distinct with ⟨once, distinct'⟩
      have later := ih (fun w member => strings w (List.mem_cons_of_mem v member)) distinct'
      cases rest with
      | nil => rfl
      | cons w more =>
          rcases strings v List.mem_cons_self with ⟨s, rfl⟩
          rcases strings w (List.mem_cons_of_mem _ List.mem_cons_self) with ⟨t, rfl⟩
          have other : s ≠ t := by
            rintro rfl
            exact once List.mem_cons_self
          rw [Value.sameNeighbours, later, same_strings, beq_false_of_ne other]
          rfl

theorem samePair_of_distinct {items : List Value} (strings : forall v, v ∈ items -> exists t, v = .string t)
    (distinct : items.Nodup) : Value.samePair items = false := by
  induction items with
  | nil => rfl
  | cons v rest ih =>
      rcases List.nodup_cons.mp distinct with ⟨once, distinct'⟩
      rw [Value.samePair, ih (fun w member => strings w (List.mem_cons_of_mem v member)) distinct', Bool.or_false]
      apply List.any_eq_false.mpr
      intro w member
      rcases strings v List.mem_cons_self with ⟨s, rfl⟩
      rcases strings w (List.mem_cons_of_mem _ member) with ⟨t, rfl⟩
      have other : s ≠ t := by
        rintro rfl
        exact once member
      rw [same_strings, beq_false_of_ne other]
      exact Bool.false_ne_true

/-- Ranked or not, distinct texts are all different. -/
theorem allDifferent_of_distinct {names : List Text} (distinct : names.Nodup) :
    Value.allDifferent (names.map .string) = true := by
  have strings : forall v, v ∈ names.map Value.string -> exists t, v = .string t := by
    intro v member
    rcases List.mem_map.mp member with ⟨t, -, rfl⟩
    exact ⟨t, rfl⟩
  have distinct' : (names.map Value.string).Nodup := distinct.map (fun _ _ => Value.string.inj)
  unfold Value.allDifferent
  cases ranked : Value.ranked? (names.map .string) with
  | some placed =>
      have perm := Value.perm_of_ranked? ranked
      dsimp only
      rw [sameNeighbours_of_distinct (fun v member => strings v (perm.mem_iff.mp member)) (perm.nodup_iff.mpr distinct')]
      rfl
  | none =>
      dsimp only
      rw [samePair_of_distinct strings distinct']
      rfl

theorem settles_eachItem {a : Assertion} {schema : Members} {items : List Value} {level : Nat} (demand : a.demand = .first)
    (nameless : Nameless schema) (each : forall v, v ∈ items -> Fits rules n a.position (.object schema) v) :
    (a.eachItem (.ofLevel rules level) (.object schema) 0 items).Settles (n <= level) := by
  apply Outcome.settles_each
  intro item member
  exact (each item.2 (List.of_mem_zip member).2).descend nameless demand level

/-- The names are looked at one by one, whichever keyword of a draft says it. -/
theorem settles_items (later : p.dialect ≠ .draft3) {schema : Members} (names : List Text)
    (single : Members.get? (Text.ofString "prefixItems") schema = none) (level : Nat) :
    (checkMember rules (.ofLevel rules level) .first p schema (.array (names.map .string))
      (Text.ofString "items", .object textFits)).Settles (1 <= level) := by
  have each : (Assertion.eachItem
      ⟨.first, p, schema, Text.ofString "items", .object textFits, .array (names.map .string)⟩
      (.ofLevel rules level) (.object textFits) 0 (names.map .string)).Settles (1 <= level) := by
    apply settles_eachItem rfl ⟨rfl, rfl, rfl⟩
    intro v member
    rcases List.mem_map.mp member with ⟨t, -, rfl⟩
    exact fits_textFits rules p t
  rcases p with ⟨d, scope⟩
  cases d with
  | draft3 => exact absurd rfl later
  | draft2020 =>
      change (Outcome.ofExcept (Assertion.countBeside _ _) _).Settles _
      rw [Assertion.countBeside, Assertion.beside?, single]
      change Outcome.Settles _ (if (names.map Value.string).length <= 0 then _ else _)
      split
      · exact Outcome.settles_clean
      · exact each
  | _ => exact each

theorem int_lt_one_of_pos {n : Nat} (pos : 0 < n) : (Number.int n).lt (.int 1) = false := by
  have order : Number.compare? (.int n) (.int 1) = some (compare (n : Int) 1) := by
    change some (compare ((n : Int) * 1) (1 * 1)) = _
    rw [Int.mul_one, Int.mul_one]
  have most : compare (n : Int) 1 ≠ .lt := by
    intro less
    have bound : (n : Int) < 1 := Int.compare_eq_lt.mp less
    omega
  rw [Number.lt, order]
  simpa using most

/-- A list of some distinct names fits whatever says no more than this about it. -/
theorem fits_names {schema : Members} {names : List Text} (later : p.dialect ≠ .draft3)
    (among : forall keyword, keyword ∈ effective p.dialect schema -> keyword ∈ namesKeywords)
    (single : Members.get? (Text.ofString "prefixItems") schema = none) (distinct : names.Nodup)
    (nonempty : names ≠ []) : Fits rules 2 p (.object schema) (.array (names.map .string)) := by
  apply fits_object
  intro level keyword member
  have inside := among keyword member
  simp only [namesKeywords, List.mem_cons, List.not_mem_nil, or_false] at inside
  rcases inside with rfl | rfl | rfl | rfl | rfl
  · rcases p with ⟨d, scope⟩
    cases d <;> exact Outcome.settles_clean
  · exact settles_items later names single level
  · have enough : (Number.int (names.map Value.string).length).lt (.int 1) = false := by
      apply int_lt_one_of_pos
      rw [List.length_map]
      exact List.length_pos_iff.mpr nonempty
    have passes : Assertion.minItems ⟨.first, p, schema, Text.ofString "minItems", .int 1, .array (names.map .string)⟩ =
        .clean := by
      change Assertion.failsIf _ ((Number.int (names.map Value.string).length).lt (.int 1)) = _
      rw [enough]
      rfl
    rcases p with ⟨d, scope⟩
    cases d <;> exact .inl passes
  · have passes : Assertion.uniqueItems
        ⟨.first, p, schema, Text.ofString "uniqueItems", .bool true, .array (names.map .string)⟩ = .clean := by
      change Assertion.failsIf _ _ = _
      rw [allDifferent_of_distinct distinct]
      rfl
    rcases p with ⟨d, scope⟩
    cases d <;> exact .inl passes
  · rcases p with ⟨d, scope⟩
    cases d <;> exact Outcome.settles_clean

end Shapes

end Schema
end SchemaLint
