import SchemaLint.Proofs.Grouping

/-!
# Places and their texts

A failure is about a place of the document: the way to what violates a rule, or to the member that is missing or should
not be there.  Findings know the place by its dotted text alone, so two failures of one rule are kept apart just if the
texts of their places differ.

Two ways that lead somewhere in one document have different texts unless a name on one of them has a dot, or both may be
taken for the document as a whole.  So findings say something about every rule of every place for which a failure was
found, except where two places can be confused in this way; and there one of the two can go unmentioned.
-/

namespace SchemaLint

open Json Schema

/-! ## Ways -/

namespace Schema

/-- A way leads from a value to a part of it, or to a member that is not there and further by names alone. -/
inductive Leads : Value -> List PathPart -> Prop
  | here (v : Value) : Leads v []
  | member {members : Members} {name : Text} {v : Value} {way : List PathPart}
      (found : Members.get? name members = some v) (further : Leads v way) :
      Leads (.object members) (.key name :: way)
  | absent {members : Members} {name : Text} {names : List Text} (absent : Members.get? name members = none) :
      Leads (.object members) (.key name :: names.map PathPart.key)
  | item {items : List Value} {i : Nat} {v : Value} {way : List PathPart}
      (found : items[i]? = some v) (further : Leads v way) : Leads (.array items) (.index i :: way)

namespace PathPart

/-- A step goes by a name with a dot. -/
def HasDot (part : PathPart) : Prop :=
  exists name, part = .key name ∧ CodePoint.scalar '.' ∈ name

/-- A way that may be taken for the document as a whole: it is empty, or its one name is empty or the one that stands for
the document. -/
def MaybeWhole (way : List PathPart) : Prop :=
  way = [] ∨ way = [.key []] ∨ way = [.key Failure.rootField]

/-- Two ways can have one text. -/
def Confusable (way way' : List PathPart) : Prop :=
  (exists part, part ∈ way ++ way' ∧ part.HasDot) ∨ MaybeWhole way ∧ MaybeWhole way'

end PathPart

end Schema

open PathPart (Confusable MaybeWhole)

namespace Failure

theorem chars_stepText_index (i : Nat) : stepText (.index i) = (Nat.toDigits 10 i).map CodePoint.scalar := by
  change (toString i).toList.map CodePoint.scalar = _
  rw [Nat.toString_eq_ofList_toDigits, String.toList_ofList]

theorem index_eq_of_stepText {i j : Nat} (same : stepText (.index i) = stepText (.index j)) : i = j := by
  rw [chars_stepText_index, chars_stepText_index] at same
  have digits : Nat.toDigits 10 i = Nat.toDigits 10 j := by
    apply List.map_injective_iff.mpr _ same
    intro c d eq
    exact CodePoint.scalar.inj eq
  have value := congrArg (fun digits => Nat.ofDigitChars 10 digits 0) digits
  simpa using value

/-- The number of an item is written in digits. -/
theorem isDigit_of_mem_stepText {i : Nat} {c : Char} (member : CodePoint.scalar c ∈ stepText (.index i)) :
    c.isDigit = true := by
  rw [chars_stepText_index] at member
  rcases List.mem_map.mp member with ⟨d, inside, same⟩
  rw [← CodePoint.scalar.inj same]
  exact Nat.isDigit_of_mem_toDigits (by omega) (Nat.le_refl 10) inside

/-- Within one document the texts of the steps tell ways apart: what a number is on one way is no name on the other. -/
theorem way_eq_of_texts {v : Value} {way way' : List PathPart} (leads : Leads v way) (leads' : Leads v way')
    (same : way.map stepText = way'.map stepText) : way = way' := by
  -- Induction on where the first way leads: as long as the ways agree they stand at one value, and it says whether the
  -- next step goes by name or by number.
  induction leads generalizing way' with
  | here v => exact (List.map_eq_nil_iff.mp same.symm).symm
  | @member members name v way found further ih =>
      cases leads' with
      | here => cases same
      | @member _ name' v' way' found' further' =>
          rcases List.cons.inj same with ⟨head, tail⟩
          have name_eq : name = name' := head
          rw [← name_eq] at found' ⊢
          rw [Option.some.inj (found.symm.trans found')] at ih
          rw [ih further' tail]
      | @absent _ name' names absent =>
          have name_eq : name = name' := (List.cons.inj same).1
          rw [← name_eq, found] at absent
          cases absent
  | @absent members name names absent =>
      cases leads' with
      | here => cases same
      | @member _ name' v' way' found' further' =>
          have name_eq : name = name' := (List.cons.inj same).1
          rw [← name_eq, absent] at found'
          cases found'
      | @absent _ name' names' _ =>
          rcases List.cons.inj same with ⟨head, tail⟩
          have name_eq : name = name' := head
          have names_eq : names = names' := by
            simpa [List.map_map, Function.comp_def, stepText] using tail
          rw [name_eq, names_eq]
  | @item items i v way found further ih =>
      cases leads' with
      | here => cases same
      | @item _ j v' way' found' further' =>
          rcases List.cons.inj same with ⟨head, tail⟩
          have index_eq : i = j := index_eq_of_stepText head
          rw [← index_eq] at found' ⊢
          rw [Option.some.inj (found.symm.trans found')] at ih
          rw [ih further' tail]

/-- Texts without dots can be read off from the dotted text, unless there are none at all. -/
theorem splitOn_dotted {texts : List Text} (undotted : forall t, t ∈ texts -> CodePoint.scalar '.' ∉ t)
    (nonempty : texts ≠ []) :
    (List.intercalate (Text.ofString ".") texts).splitOn (CodePoint.scalar '.') = texts :=
  List.splitOn_intercalate _ undotted nonempty

/-- Texts that may stand for the document as a whole. -/
def MaybeRoot (texts : List Text) : Prop :=
  texts = [] ∨ texts = [[]] ∨ texts = [rootField]

theorem maybeRoot_of_fieldOf {texts : List Text} (undotted : forall t, t ∈ texts -> CodePoint.scalar '.' ∉ t)
    (root : fieldOf texts = rootField) : MaybeRoot texts := by
  by_cases empty : texts = []
  · exact .inl empty
  · have split := splitOn_dotted undotted empty
    unfold fieldOf at root
    cases dotted : List.intercalate (Text.ofString ".") texts with
    | nil =>
        rw [dotted] at split
        exact .inr (.inl split.symm)
    | cons c rest =>
        rw [dotted] at root
        have named : c :: rest = rootField := root
        rw [dotted, named] at split
        exact .inr (.inr split.symm)

theorem fieldOf_of_not_root {texts : List Text} (other : fieldOf texts ≠ rootField) :
    fieldOf texts = List.intercalate (Text.ofString ".") texts ∧ texts ≠ [] := by
  unfold fieldOf at other ⊢
  cases dotted : List.intercalate (Text.ofString ".") texts with
  | nil =>
      rw [dotted] at other
      exact absurd rfl other
  | cons c rest =>
      refine ⟨rfl, ?_⟩
      intro empty
      rw [empty] at dotted
      cases dotted

/-- Of lists of texts without dots only those that may stand for the whole document share a field. -/
theorem texts_eq_of_fieldOf {texts texts' : List Text} (undotted : forall t, t ∈ texts -> CodePoint.scalar '.' ∉ t)
    (undotted' : forall t, t ∈ texts' -> CodePoint.scalar '.' ∉ t) (same : fieldOf texts = fieldOf texts') :
    texts = texts' ∨ MaybeRoot texts ∧ MaybeRoot texts' := by
  by_cases root : fieldOf texts = rootField
  · exact .inr ⟨maybeRoot_of_fieldOf undotted root, maybeRoot_of_fieldOf undotted' (same.symm.trans root)⟩
  · rcases fieldOf_of_not_root root with ⟨dotted, nonempty⟩
    rw [same] at root
    rcases fieldOf_of_not_root root with ⟨dotted', nonempty'⟩
    left
    calc
      texts = (fieldOf texts).splitOn (CodePoint.scalar '.') := by rw [dotted, splitOn_dotted undotted nonempty]
      _ = (fieldOf texts').splitOn (CodePoint.scalar '.') := by rw [same]
      _ = texts' := by rw [dotted', splitOn_dotted undotted' nonempty']

theorem undotted_of_step {part : PathPart} (plain : ¬ part.HasDot) : CodePoint.scalar '.' ∉ stepText part := by
  intro dot
  cases part with
  | key name => exact plain ⟨name, rfl, dot⟩
  | index i => exact absurd (isDigit_of_mem_stepText dot) (by decide)

theorem stepText_index_ne (i : Nat) : stepText (.index i) ≠ [] ∧ stepText (.index i) ≠ rootField := by
  constructor
  · rw [chars_stepText_index]
    intro empty
    exact Nat.toDigits_ne_nil (List.map_eq_nil_iff.mp empty)
  · intro same
    have member : CodePoint.scalar '(' ∈ stepText (.index i) := by
      rw [same]
      decide
    exact absurd (isDigit_of_mem_stepText member) (by decide)

theorem maybeWhole_of_texts {way : List PathPart} (root : MaybeRoot (way.map stepText)) : MaybeWhole way := by
  have single : forall {text : Text}, (forall i, stepText (.index i) ≠ text) -> way.map stepText = [text] ->
      way = [.key text] := by
    intro text number texts
    rcases List.map_eq_singleton_iff.mp texts with ⟨part, rfl, step⟩
    cases part with
    | key name =>
        have name_eq : name = text := step
        rw [name_eq]
    | index i => exact absurd step (number i)
  rcases root with empty | blank | named
  · exact .inl (List.map_eq_nil_iff.mp empty)
  · exact .inr (.inl (single (fun i => (stepText_index_ne i).1) blank))
  · exact .inr (.inr (single (fun i => (stepText_index_ne i).2) named))

/-- Different places of one document have different texts, unless they can be confused. -/
theorem way_eq_or_confusable {v : Value} {way way' : List PathPart} (leads : Leads v way) (leads' : Leads v way')
    (same : fieldOf (way.map stepText) = fieldOf (way'.map stepText)) : way = way' ∨ Confusable way way' := by
  by_cases dotted : exists part, part ∈ way ++ way' ∧ part.HasDot
  · exact .inr (.inl dotted)
  · have undotted : forall steps : List PathPart, (forall part, part ∈ steps -> part ∈ way ++ way') ->
        forall t, t ∈ steps.map stepText -> CodePoint.scalar '.' ∉ t := by
      intro steps within t member
      rcases List.mem_map.mp member with ⟨part, inside, rfl⟩
      exact undotted_of_step (fun dot => dotted ⟨part, within part inside, dot⟩)
    have first := undotted way (fun part member => List.mem_append_left _ member)
    have second := undotted way' (fun part member => List.mem_append_right _ member)
    rcases texts_eq_of_fieldOf first second same with texts | ⟨root, root'⟩
    · exact .inl (way_eq_of_texts leads leads' texts)
    · exact .inr (.inr ⟨maybeWhole_of_texts root, maybeWhole_of_texts root'⟩)

end Failure

/-! ## What a violation says -/

namespace Failure

/-- A member is required and missing. -/
def unset (way : List PathPart) (limit : Value) : Failure where
  field := fieldOf (way.map stepText)
  rule := "required"
  limit := limit
  observed := .null
  description := ""

/-- A member should not be there. -/
def extra (way : List PathPart) (limit observed : Value) : Failure where
  field := fieldOf (way.map stepText)
  rule := "additional"
  limit := limit
  observed := observed
  description := ""

/-- A value violates a rule. -/
def whole (v : Violation) : Failure where
  field := fieldOf (v.path.map stepText)
  rule := v.keyword.getD (Text.ofString "None")
  limit := v.limit
  observed := v.subject
  description := descriptionOf (v.schema.members?.getD [])

end Failure

/-- A violation says something about a place: that of the value itself, of a member that it lacks, or of one that it should
not have. -/
inductive Schema.Violation.Tells (v : Violation) : List PathPart -> Failure -> Prop
  /-- The schema of a member says that the member is required; the way leads to the member already. -/
  | unset (keyword : v.keyword = some (Text.ofString "required")) (limit : forall demanded, v.limit ≠ .array demanded) :
      Tells v v.path (.unset v.path v.limit)
  /-- The schema lists the members that are required. -/
  | missing {demanded : List Value} {members : Members} {names : List Text} {name : Text}
      (keyword : v.keyword = some (Text.ofString "required")) (limit : v.limit = .array demanded)
      (subject : v.subject = .object members) (missing : Failure.missingNames demanded members = .ok names)
      (member : name ∈ names) :
      Tells v (v.path ++ [.key name]) (.unset (v.path ++ [.key name]) v.limit)
  /-- The schema names no such member. -/
  | extra {members : Members} {member : Text × Value}
      (keyword : v.keyword = some (Text.ofString "additionalProperties")) (subject : v.subject = .object members)
      (inside : member ∈ members) (extra : Failure.isExtra (v.schema.members?.getD []) member.1 = .ok true) :
      Tells v (v.path ++ [.key member.1]) (.extra (v.path ++ [.key member.1]) v.limit member.2)
  /-- Any other violation is about the value itself. -/
  | whole (required : v.keyword ≠ some (Text.ofString "required"))
      (other : v.keyword = some (Text.ofString "additionalProperties") -> forall members,
        v.subject ≠ .object members) :
      Tells v v.path (.whole v)

namespace Failure

theorem field_of_tells {v : Violation} {way : List PathPart} {f : Failure} (tells : v.Tells way f) :
    f.field = fieldOf (way.map stepText) := by
  cases tells <;> rfl

theorem map_stepText_append (path : List PathPart) (name : Text) :
    (path ++ [PathPart.key name]).map stepText = path.map stepText ++ [name] := by
  rw [List.map_append]
  rfl

section Shapes

variable {v : Violation} {demanded : List Value} {members : Members}

theorem ofViolation_unset (keyword : v.keyword = some (Text.ofString "required"))
    (limit : forall demanded, v.limit ≠ .array demanded) : ofViolation v = .ok [unset v.path v.limit] := by
  unfold ofViolation
  dsimp only
  rw [if_pos keyword]
  split
  next demanded _ array _ => exact absurd array (limit demanded)
  next demanded array _ => exact absurd array (limit demanded)
  next => rfl

theorem ofViolation_missing (keyword : v.keyword = some (Text.ofString "required")) (limit : v.limit = .array demanded)
    (subject : v.subject = .object members) :
    ofViolation v =
      (missingNames demanded members).map fun names => names.map fun name => unset (v.path ++ [.key name]) v.limit := by
  unfold ofViolation unset
  dsimp only
  rw [if_pos keyword, limit, subject]
  simp only [map_stepText_append]
  rfl

theorem ofViolation_listed (keyword : v.keyword = some (Text.ofString "required")) (limit : v.limit = .array demanded)
    (subject : forall members, v.subject ≠ .object members) : ofViolation v = .ok [] := by
  unfold ofViolation
  dsimp only
  rw [if_pos keyword, limit]
  cases object : v.subject with
  | object members => exact absurd object (subject members)
  | _ => rfl

theorem ofViolation_extra (keyword : v.keyword = some (Text.ofString "additionalProperties"))
    (subject : v.subject = .object members) :
    ofViolation v =
      (allWhere (fun (member : Text × Value) => isExtra (v.schema.members?.getD []) member.1) members).map
        fun found => found.map fun member => extra (v.path ++ [.key member.1]) v.limit member.2 := by
  unfold ofViolation extra
  dsimp only
  rw [if_neg, if_pos keyword, subject]
  · simp only [map_stepText_append]
    rfl
  · rw [keyword]
    exact fun same => required_ne_additionalProperties (Option.some.inj same).symm

theorem ofViolation_whole (required : v.keyword ≠ some (Text.ofString "required"))
    (other : v.keyword = some (Text.ofString "additionalProperties") -> forall members, v.subject ≠ .object members) :
    ofViolation v = .ok [whole v] := by
  unfold ofViolation
  dsimp only
  rw [if_neg required]
  split
  next additional =>
    split
    next members object => exact absurd object (other additional members)
    next => rfl
  next => rfl

end Shapes

theorem exists_tells_of_mem {v : Violation} {own : List Failure} (converted : ofViolation v = .ok own) {f : Failure}
    (member : f ∈ own) : exists way, v.Tells way f := by
  by_cases required : v.keyword = some (Text.ofString "required")
  · by_cases array : exists demanded, v.limit = .array demanded
    · rcases array with ⟨demanded, limit⟩
      by_cases object : exists members, v.subject = .object members
      · rcases object with ⟨members, subject⟩
        rw [ofViolation_missing required limit subject] at converted
        rcases map_eq_ok_iff.mp converted with ⟨names, computed, rfl⟩
        rcases List.mem_map.mp member with ⟨name, missing, rfl⟩
        exact ⟨_, .missing required limit subject computed missing⟩
      · rw [ofViolation_listed required limit (not_exists.mp object)] at converted
        rw [← Except.ok.inj converted] at member
        exact absurd member List.not_mem_nil
    · rw [ofViolation_unset required (not_exists.mp array)] at converted
      rw [← Except.ok.inj converted, List.mem_singleton] at member
      rw [member]
      exact ⟨v.path, .unset required (not_exists.mp array)⟩
  · by_cases additional : v.keyword = some (Text.ofString "additionalProperties") ∧ exists members, v.subject = .object members
    · rcases additional with ⟨keyword, members, subject⟩
      rw [ofViolation_extra keyword subject] at converted
      rcases map_eq_ok_iff.mp converted with ⟨found, tested, rfl⟩
      rcases List.mem_map.mp member with ⟨⟨name, value⟩, kept, rfl⟩
      rcases (mem_allWhere_iff tested _).mp kept with ⟨inside, isExtra⟩
      exact ⟨_, .extra keyword subject inside isExtra⟩
    · have other : v.keyword = some (Text.ofString "additionalProperties") -> forall members,
          v.subject ≠ .object members :=
        fun keyword members subject => additional ⟨keyword, members, subject⟩
      rw [ofViolation_whole required other] at converted
      rw [← Except.ok.inj converted, List.mem_singleton] at member
      rw [member]
      exact ⟨v.path, .whole required other⟩

theorem mem_of_tells {v : Violation} {own : List Failure} (converted : ofViolation v = .ok own)
    {way : List PathPart} {f : Failure} (tells : v.Tells way f) : f ∈ own := by
  cases tells with
  | unset keyword limit =>
      rw [ofViolation_unset keyword limit] at converted
      rw [← Except.ok.inj converted]
      exact List.mem_cons_self
  | missing keyword limit subject computed missing =>
      rw [ofViolation_missing keyword limit subject, computed] at converted
      rw [← Except.ok.inj converted]
      exact List.mem_map_of_mem missing
  | extra keyword subject inside isExtra =>
      rw [ofViolation_extra keyword subject] at converted
      rcases map_eq_ok_iff.mp converted with ⟨found, tested, rfl⟩
      apply List.mem_map_of_mem
      exact (mem_allWhere_iff tested _).mpr ⟨inside, isExtra⟩
  | whole required other =>
      rw [ofViolation_whole required other] at converted
      rw [← Except.ok.inj converted]
      exact List.mem_cons_self

/-- The failures that a violation comes down to are those that it tells of some place. -/
theorem mem_ofViolation_iff {v : Violation} {own : List Failure} (converted : ofViolation v = .ok own) (f : Failure) :
    f ∈ own <-> exists way, v.Tells way f :=
  ⟨exists_tells_of_mem converted, fun ⟨_, tells⟩ => mem_of_tells converted tells⟩

end Failure

/-! ## Where violations are found -/

namespace Schema

/-- The way of a violation leads somewhere, and to members and missing members of the object that is violated. -/
def Violation.Placed (subject : Value) (v : Violation) : Prop :=
  subject.IsKeyed -> Leads subject v.path ∧
    (v.keyword ≠ none -> forall members, v.subject = .object members -> forall name,
      Leads subject (v.path ++ [.key name]))

theorem get?_of_mem {members : Members} {member : Text × Value} (distinct : members.keys.Nodup)
    (inside : member ∈ members) : Members.get? member.1 members = some member.2 := by
  induction members with
  | nil => exact absurd inside List.not_mem_nil
  | cons first rest ih =>
      rcases List.nodup_cons.mp distinct with ⟨once, distinct'⟩
      rw [Members.get?]
      rcases List.mem_cons.mp inside with here | later
      · rw [here, if_pos rfl]
      · have other : first.1 ≠ member.1 := by
          intro same
          rw [same] at once
          exact once (List.mem_map_of_mem later)
        rw [if_neg other, ih distinct' later]

/-- From an object a way leads to each name. -/
theorem leads_name (members : Members) (name : Text) : Leads (.object members) [.key name] := by
  cases found : Members.get? name members with
  | none => exact @Leads.absent members name [] found
  | some v => exact .member found (.here v)

theorem Leads.under {subject : Value} {part : PathPart} {v : Value} {way : List PathPart} (keyed : subject.IsKeyed)
    (reaches : Reaches subject (some part) v) (further : Leads v way) : Leads subject (part :: way) := by
  cases reaches with
  | member inside => exact .member (get?_of_mem keyed.distinct inside) further
  | item found => exact .item found further

theorem isKeyed_of_reaches {subject : Value} {part : Option PathPart} {v : Value} (keyed : subject.IsKeyed)
    (reaches : Reaches subject part v) : v.IsKeyed := by
  cases reaches with
  | stay => exact keyed
  | name => exact .string _
  | member inside => exact keyed.member inside
  | item found => exact keyed.item (List.mem_of_getElem? found)

theorem steady_placed : Violation.Steady Violation.Placed where
  under := by
    intro subject part v w reaches placed keyed
    rcases placed (isKeyed_of_reaches keyed reaches) with ⟨leads, names⟩
    refine ⟨leads.under keyed reaches, ?_⟩
    intro keyword members object name
    exact (names keyword members object name).under keyed reaches
  within := by
    intro subject v w reaches placed keyed
    cases reaches with
    | stay => exact placed keyed
    | name inside =>
        -- A name is a text, so the way of a violation in it ends where it begins.
        rcases placed (.string _) with ⟨leads, names⟩
        have path : w.path = [] := by
          cases way : w.path with
          | nil => rfl
          | cons part way' =>
              rw [way] at leads
              cases leads
        rw [path] at names ⊢
        refine ⟨.here _, ?_⟩
        intro keyword members object name
        cases names keyword members object name
  unsatisfiable := by
    intro subject v keyed
    exact ⟨.here subject, fun keyword => absurd rfl keyword⟩

theorem placed_own (a : Assertion) (keyword : Option Text) (limit : Value) :
    Violation.Placed a.subject { a.violation with keyword, limit } := by
  intro keyed
  refine ⟨.here a.subject, ?_⟩
  intro _ members object name
  have subject : a.subject = .object members := object
  rw [subject]
  exact leads_name members name

theorem raisesAlways_placed : RaisesAlways Violation.Placed := by
  intro a keyword known
  have own : Violation.Placed a.subject a.violation := placed_own a (some a.keyword) a.limit
  refine ⟨fun _ => own, fun key _ limit => placed_own a (some key) limit, ?unset, fun _ _ _ _ _ _ _ _ => own,
    fun _ _ _ _ _ _ _ => own⟩
  case unset =>
    intro members name limit subject absent given keyed
    rw [subject]
    refine ⟨leads_name members name, ?_⟩
    intro _ _ _ other
    exact @Leads.absent members name [other] absent

/-- The ways of all violations that a schema finds in a document lead somewhere in it. -/
theorem placed_run (rules : Rules) (d : Dialect) (demand : Demand) (schema document : Value) :
    (run rules d demand schema document).All (Violation.Placed document) :=
  all_run steady_placed raisesAlways_placed rules d demand schema document

end Schema

/-! ## What is kept -/

theorem Schema.Violation.Tells.leads {v : Violation} {document : Value} {way : List PathPart} {f : Failure}
    (tells : v.Tells way f) (keyed : document.IsKeyed) (placed : v.Placed document) : Leads document way := by
  rcases placed keyed with ⟨leads, names⟩
  cases tells with
  | unset => exact leads
  | missing keyword _ subject =>
      apply names _ _ subject
      rw [keyword]
      exact Option.some_ne_none _
  | extra keyword subject =>
      apply names _ _ subject
      rw [keyword]
      exact Option.some_ne_none _
  | whole => exact leads

/-- What findings keep of what violations say about the places of a document. -/
structure Findings.Keeps (fs : Findings) (document : Value) (vs : List Violation) : Prop where
  /-- Whatever is said is said about some place of the document. -/
  leads : forall v way f, v ∈ vs -> v.Tells way f -> Leads document way
  /-- For every rule of every place something is kept and told: about that place, or about one that it can be confused
  with. -/
  kept : forall v way f, v ∈ vs -> v.Tells way f -> exists g, fs.Holds f.field f.rule g ∧
    ((f.field, f.rule), g.message) ∈ fs.pairs.zip fs.messages ∧
    exists w way', w ∈ vs ∧ w.Tells way' g ∧ g.rule = f.rule ∧ (way' = way ∨ Confusable way' way)
  /-- What is said about other rules, or about other places with which there is no confusion, is kept apart. -/
  apart : forall v way f v' way' f', v ∈ vs -> v.Tells way f -> v' ∈ vs -> v'.Tells way' f' ->
    f.rule ≠ f'.rule ∨ way ≠ way' ∧ ¬ Confusable way way' -> (f.field, f.rule) ≠ (f'.field, f'.rule)

/-- The message of a rule of a field is that of the failure that is kept for it. -/
theorem Findings.exists_message {failures : List Failure} {pair : Text × Text}
    (among : pair ∈ (ofFailures failures).pairs) :
    exists g, (ofFailures failures).Holds pair.1 pair.2 g ∧
      (pair, g.message) ∈ (ofFailures failures).pairs.zip (ofFailures failures).messages := by
  rcases List.forall₂_iff_zip.mp (forall₂_messages (ofFailures failures)) with ⟨length, each⟩
  rw [← List.map_fst_zip (Nat.le_of_eq length)] at among
  rcases List.mem_map.mp among with ⟨⟨pair', message⟩, inside, rfl⟩
  rcases each inside with ⟨g, holds, rfl⟩
  exact ⟨g, holds, inside⟩

theorem keeps_ofViolations {document : Value} {vs : List Violation} {failures : List Failure} (keyed : document.IsKeyed)
    (placed : forall v, v ∈ vs -> v.Placed document) (converted : Failure.ofViolations vs = .ok failures) :
    Findings.Keeps (Findings.ofFailures failures) document vs := by
  rcases Failure.mem_ofViolations converted with ⟨each, members⟩
  have leads : forall v way f, v ∈ vs -> v.Tells way f -> Leads document way :=
    fun v way f inside tells => tells.leads keyed (placed v inside)
  have found : forall v way f, v ∈ vs -> v.Tells way f -> f ∈ failures := by
    intro v way f inside tells
    rcases each v inside with ⟨own, come⟩
    exact (members f).mpr ⟨v, own, inside, come, (Failure.mem_ofViolation_iff come f).mpr ⟨way, tells⟩⟩
  have confused : forall v way f v' way' f', v ∈ vs -> v.Tells way f -> v' ∈ vs -> v'.Tells way' f' ->
      f.field = f'.field -> way = way' ∨ Confusable way way' := by
    intro v way f v' way' f' inside tells inside' tells' same
    rw [Failure.field_of_tells tells, Failure.field_of_tells tells'] at same
    exact Failure.way_eq_or_confusable (leads v way f inside tells) (leads v' way' f' inside' tells') same
  have groups := Findings.groups_ofFailures failures
  refine ⟨leads, ?kept, ?apart⟩
  case kept =>
    intro v way f inside tells
    have among : (f.field, f.rule) ∈ (Findings.ofFailures failures).pairs := by
      rw [Findings.mem_pairs_ofFailures]
      exact List.mem_map_of_mem (found v way f inside tells)
    rcases Findings.exists_message among with ⟨g, holds, told⟩
    rcases groups.own _ _ g holds with ⟨field, rule⟩
    have isFound : g ∈ failures := List.mem_of_find?_eq_some ((groups.first _ _ g).mp holds)
    rcases (members g).mp isFound with ⟨w, own, inside', come, member⟩
    rcases (Failure.mem_ofViolation_iff come g).mp member with ⟨way', tells'⟩
    refine ⟨g, holds, told, w, way', inside', tells', rule, ?_⟩
    exact confused w way' g v way f inside' tells' inside tells field
  case apart =>
    intro v way f v' way' f' inside tells inside' tells' differ same
    rcases Prod.mk.inj same with ⟨field, rule⟩
    rcases differ with other | ⟨other, clear⟩
    · exact other rule
    · rcases confused v way f v' way' f' inside tells inside' tells' field with same | confusion
      · exact other same
      · exact clear confusion

/-- Findings of a document say something about every rule of every place for which a failure was found, and say it once
for each rule and each place, except where places can be confused.  Places of one document are confused only if a name
on the way to one of them has a dot, or if both may be taken for the document as a whole. -/
theorem keeps_of_validate {disk : Disk} {document schema : Value} {env : Text} {fs : Findings}
    (keyed : document.IsKeyed) (validated : validate disk document schema env = .ok fs) :
    (forall way way', Leads document way -> Leads document way' ->
      Failure.fieldOf (way.map Failure.stepText) = Failure.fieldOf (way'.map Failure.stepText) ->
      way = way' ∨ Confusable way way') ∧
    fs.pairs.Nodup ∧ fs.messages.length = fs.pairs.length ∧
    exists o, judge disk document schema env = .ok o ∧ o.crash = none ∧
      (forall v, v ∈ o.found -> exists own, Failure.ofViolation v = .ok own ∧
        forall f, f ∈ own <-> exists way, v.Tells way f) ∧
      fs.Keeps document o.found := by
  rcases exists_judge_of_validate validated with ⟨o, failures, judged, ended, converted, rfl⟩
  rcases exists_draft_of_judge judged with ⟨d, -, -, rfl⟩
  have told := Findings.told_ofFailures failures "" ""
  refine ⟨fun way way' leads leads' => Failure.way_eq_or_confusable leads leads', told.distinct, told.each.length_eq.symm,
    _, judged, ended, ?each, ?keeps⟩
  case each =>
    intro v inside
    rcases (Failure.mem_ofViolations converted).1 v inside with ⟨own, come⟩
    exact ⟨own, come, Failure.mem_ofViolation_iff come⟩
  case keeps =>
    apply keeps_ofViolations keyed _ converted
    exact placed_run { retrieval := .ofDisk disk, formats := false } d .all schema document

/-! ### Places that are confused -/

/-- Of what is found at two places of a document only what is found at the first of them is kept. -/
def Loses (document schema : Value) (way way' : List PathPart) : Prop :=
  exists o fs v w f g, judge emptyDisk document schema "draft-07" = .ok o ∧
    validate emptyDisk document schema "draft-07" = .ok fs ∧ v ∈ o.found ∧ w ∈ o.found ∧ v.Tells way f ∧
    w.Tells way' g ∧ way ≠ way' ∧ fs.toList = [f] ∧ fs.messages = [f.message] ∧ g ≠ f

theorem tells_type {v : Violation} (keyword : v.keyword = some (Text.ofString "type")) :
    v.Tells v.path (.whole v) ∧ Failure.ofViolation v = .ok [.whole v] := by
  have required : v.keyword ≠ some (Text.ofString "required") := by
    rw [keyword]
    decide
  have additional : v.keyword ≠ some (Text.ofString "additionalProperties") := by
    rw [keyword]
    decide
  exact ⟨.whole required (fun same => absurd same additional),
    Failure.ofViolation_whole required (fun same => absurd same additional)⟩

/-- Where, by which rule and in what value a document that is judged to the end violates a schema. -/
def shown (document schema : Value) : List (List PathPart × Option Text × String) :=
  match judge emptyDisk document schema "draft-07" with
  | .ok ⟨found, none⟩ => found.map fun v => (v.path, v.keyword, v.subject.display)
  | _ => []

theorem exists_judge_of_shown {document schema : Value} (nonempty : shown document schema ≠ []) :
    exists found, judge emptyDisk document schema "draft-07" = .ok ⟨found, none⟩ ∧
      shown document schema = found.map fun v => (v.path, v.keyword, v.subject.display) := by
  unfold shown at nonempty ⊢
  split
  next found judged => exact ⟨found, judged, rfl⟩
  next other =>
    split at nonempty
    next found judged => exact absurd judged (other found)
    next => exact absurd rfl nonempty

/-- Two values of wrong types whose places have one text are a loss. -/
theorem loses_of_shown {document schema : Value} {way way' : List PathPart} {value value' : String}
    (shows : shown document schema =
      [(way, some (Text.ofString "type"), value), (way', some (Text.ofString "type"), value')])
    (apart : way ≠ way') (other : value' ≠ value)
    (same : Failure.fieldOf (way'.map Failure.stepText) = Failure.fieldOf (way.map Failure.stepText)) :
    Loses document schema way way' := by
  have nonempty : shown document schema ≠ [] := by
    rw [shows]
    exact List.cons_ne_nil _ _
  rcases exists_judge_of_shown nonempty with ⟨found, judged, listed⟩
  rcases List.map_eq_cons_iff.mp (listed.symm.trans shows) with ⟨v, rest, rfl, first, others⟩
  rcases List.map_eq_singleton_iff.mp others with ⟨w, rfl, second⟩
  simp only [Prod.mk.injEq] at first second
  rcases first with ⟨rfl, keyword, rfl⟩
  rcases second with ⟨rfl, keyword', rfl⟩
  rcases tells_type keyword with ⟨tells, come⟩
  rcases tells_type keyword' with ⟨tells', come'⟩
  have converted : Failure.ofViolations [v, w] = .ok [.whole v, .whole w] := by
    rw [Failure.ofViolations, come, Failure.ofViolations, come']
    rfl
  have validated := validate_of_judge judged rfl converted
  have field : (Failure.whole w).field = (Failure.whole v).field := same
  have rule : (Failure.whole w).rule = (Failure.whole v).rule := by
    simp only [Failure.whole, keyword, keyword']
  have kept : Findings.toList (Findings.ofFailures [.whole v, .whole w]) = [.whole v] := by
    simp [Findings.ofFailures, Findings.add, Findings.addRule, Findings.toList, field, rule]
  refine ⟨_, _, v, w, _, _, judged, validated, List.mem_cons_self, List.mem_cons_of_mem _ List.mem_cons_self, tells,
    tells', apart, kept, ?_, ?_⟩
  · rw [Findings.messages, kept]
    rfl
  · intro eq
    have subject : w.subject = v.subject := congrArg Failure.observed eq
    rw [subject] at other
    exact other rfl

/-- The schema of texts. -/
def textSchema : Value :=
  .object [(Text.ofString "type", .string (Text.ofString "string"))]

/-- A schema for members. -/
def membersSchema (schemas : Members) : Value :=
  .object [(Text.ofString "properties", .object schemas)]

/-- A member whose name has a dot, and a member of a member. -/
def dottedDocument : Value :=
  .object [(Text.ofString "a.b", .int 1), (Text.ofString "a", .object [(Text.ofString "b", .int 2)])]

/-- A member without a name. -/
def namelessDocument : Value :=
  .object [(Text.ofString "", .int 1)]

/-- Of two numbers that should be texts only the first one is told where one of them stands under a dotted name that
spells the way to the other, and where one of them stands under no name in a document that should be a text itself. -/
theorem loses_confused :
    Loses dottedDocument
      (membersSchema
        [(Text.ofString "a.b", textSchema), (Text.ofString "a", membersSchema [(Text.ofString "b", textSchema)])])
      [.key (Text.ofString "a.b")] [.key (Text.ofString "a"), .key (Text.ofString "b")] ∧
    Loses namelessDocument
      (.object
        [(Text.ofString "type", .string (Text.ofString "string")),
          (Text.ofString "properties", .object [(Text.ofString "", textSchema)])])
      [] [.key (Text.ofString "")] := by
  constructor
  · refine @loses_of_shown _ _ _ _ "1" "2" ?_ (by decide) (by decide) (by decide)
    decide +kernel
  · refine @loses_of_shown _ _ _ _ "\x7b'': 1\x7d" "1" ?_ (by decide) (by decide) (by decide)
    decide +kernel

/-- A member of a member, and a member of the same name. -/
def plainDocument : Value :=
  .object [(Text.ofString "a", .object [(Text.ofString "b", .int 2)]), (Text.ofString "b", .int 1)]

/-- Both should be texts. -/
def plainSchema : Value :=
  membersSchema
    [(Text.ofString "a", membersSchema [(Text.ofString "b", textSchema)]), (Text.ofString "b", textSchema)]

/-- Without dots nothing is confused, and both members are told. -/
theorem keeps_of_plainNames : exists fs o, plainDocument.IsKeyed ∧
    validate emptyDisk plainDocument plainSchema "draft-07" = .ok fs ∧
    fs.messages = ["\"a.b\" must be of type \"string\"", "\"b\" must be of type \"string\""] ∧
    judge emptyDisk plainDocument plainSchema "draft-07" = .ok o ∧ fs.Keeps plainDocument o.found := by
  have evaluated : (validate emptyDisk plainDocument plainSchema "draft-07").toOption.map Findings.messages =
      some ["\"a.b\" must be of type \"string\"", "\"b\" must be of type \"string\""] := by
    decide +kernel
  rcases Option.map_eq_some_iff.mp evaluated with ⟨fs, validated, told⟩
  rw [toOption_eq_some_iff] at validated
  have keyed : plainDocument.IsKeyed := by
    apply Value.IsKeyed.object _ (by decide)
    intro member inside
    rcases List.mem_cons.mp inside with rfl | later
    · apply Value.IsKeyed.object _ (by decide)
      intro inner only
      rw [List.mem_singleton.mp only]
      exact .int 2
    · rw [List.mem_singleton.mp later]
      exact .int 1
  rcases (keeps_of_validate keyed validated).2.2.2 with ⟨o, judged, -, -, keeps⟩
  exact ⟨fs, o, keyed, validated, told, judged, keeps⟩

end SchemaLint
