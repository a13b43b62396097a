import SchemaLint.Proofs.Results
import SchemaLint.Proofs.Schema.Causes

/-!
# Every crash of an evaluation has a cause

A keyword crashes for what is wrong with its schema, or because a schema crashes that it applies.  Whatever is true of
both is true of every crash of the evaluation: as with what evaluations find, the levels of the evaluator carry the
induction.
-/

namespace SchemaLint
namespace Schema

open Json

/-! ## Results and outcomes -/

section Results

variable {α β : Type} {Q : Crash -> Prop}

/-- A result fails only with crashes that have a property. -/
def FailsFor (Q : Crash -> Prop) (r : Except Crash α) : Prop :=
  forall c, r = .error c -> Q c

theorem failsFor_ok (a : α) : FailsFor Q (.ok a) :=
  nofun

theorem failsFor_error {c : Crash} (h : Q c) : FailsFor Q (.error c : Except Crash α) := by
  intro c' same
  cases same
  exact h

theorem FailsFor.bind {r : Except Crash α} {f : α -> Except Crash β} (first : FailsFor Q r)
    (next : forall a, r = .ok a -> FailsFor Q (f a)) : FailsFor Q (r >>= f) := by
  intro c failed
  rcases bind_eq_error_iff.mp failed with failed | ⟨a, done, failed⟩
  · exact first c failed
  · exact next a done c failed

theorem FailsFor.map {r : Except Crash α} {f : α -> β} (h : FailsFor Q r) : FailsFor Q (r.map f) := by
  cases r with
  | error c => exact failsFor_error (h c rfl)
  | ok a => exact failsFor_ok (f a)

theorem failsFor_mapM {f : α -> Except Crash β} {xs : List α} (each : forall x, x ∈ xs -> FailsFor Q (f x)) :
    FailsFor Q (xs.mapM f) := by
  intro c failed
  obtain ⟨before, x, after, rfl, -, failed⟩ := mapM_eq_error_iff.mp failed
  exact each x (List.mem_append_right _ (List.mem_cons_self ..)) c failed

theorem failsFor_allWhere {test : α -> Except Crash Bool} {xs : List α}
    (each : forall x, x ∈ xs -> FailsFor Q (test x)) :
    FailsFor Q (allWhere test xs) := by
  induction xs with
  | nil => exact failsFor_ok []
  | cons x rest ih =>
    refine (each x (List.mem_cons_self ..)).bind fun kept _ => ?_
    refine (ih fun y later => each y (List.mem_cons_of_mem x later)).bind fun others _ => ?_
    exact failsFor_ok _

theorem failsFor_anyWhere {test : α -> Except Crash Bool} {xs : List α}
    (each : forall x, x ∈ xs -> FailsFor Q (test x)) :
    FailsFor Q (anyWhere test xs) := by
  induction xs with
  | nil => exact failsFor_ok false
  | cons x rest ih =>
    refine (each x (List.mem_cons_self ..)).bind fun passes _ => ?_
    cases passes with
    | true => exact failsFor_ok true
    | false => exact ih fun y later => each y (List.mem_cons_of_mem x later)

namespace Outcome

/-- An outcome crashes only with crashes that have a property. -/
def CrashesFor (Q : Crash -> Prop) (o : Outcome) : Prop :=
  forall c, o.crash = some c -> Q c

theorem crashesFor_clean : clean.CrashesFor Q :=
  nofun

theorem crashesFor_one (v : Violation) : (one v).CrashesFor Q :=
  nofun

theorem crashesFor_crashed {c : Crash} (h : Q c) : (crashed c).CrashesFor Q := by
  intro c' same
  cases same
  exact h

theorem crashesFor_ofExcept {r : Except Crash α} {search : α -> Outcome} (first : FailsFor Q r)
    (next : forall a, r = .ok a -> (search a).CrashesFor Q) : (ofExcept r search).CrashesFor Q := by
  cases r with
  | error c => exact crashesFor_crashed (first c rfl)
  | ok a => exact next a rfl

theorem crashesFor_each {demand : Demand} {search : α -> Outcome} {xs : List α}
    (h : forall x, x ∈ xs -> (search x).CrashesFor Q) : (each demand search xs).CrashesFor Q := by
  induction xs with
  | nil => exact crashesFor_clean
  | cons x rest ih =>
    unfold each andThen
    split
    · exact h x (List.mem_cons_self ..)
    · exact ih fun y later => h y (List.mem_cons_of_mem x later)

theorem CrashesFor.under {o : Outcome} (h : o.CrashesFor Q) (part : Option PathPart) : (o.under part).CrashesFor Q := by
  cases part with
  | none => exact h
  | some part => exact h

theorem CrashesFor.isClean {o : Outcome} (h : o.CrashesFor Q) : FailsFor Q o.isClean := by
  unfold Outcome.isClean
  split
  · exact failsFor_ok false
  · split
    next c crash => exact failsFor_error (h c crash)
    next => exact failsFor_ok true

theorem CrashesFor.complete {o : Outcome} (h : o.CrashesFor Q) : FailsFor Q o.complete := by
  unfold Outcome.complete
  split
  next c crash => exact failsFor_error (h c crash)
  next => exact failsFor_ok _

end Outcome

end Results

/-! ## What schemas say -/

theorem Says.mono {schema : Members} {names names' : List String} {v : Value} (said : Says schema names v)
    (more : forall name, name ∈ names -> name ∈ names') : Says schema names' v := by
  obtain ⟨name, known, inside⟩ := said
  exact ⟨name, more name known, inside⟩

theorem says_of_get? {schema : Members} {name : String} {names : List String} {v : Value}
    (found : Members.get? (Text.ofString name) schema = some v) (known : name ∈ names) : Says schema names v :=
  ⟨name, known, Members.mem_of_get? found⟩

/-- A keyword stands for nothing else than the names that it has in the drafts. -/
theorem says_of_ofName? {d : Dialect} {key : Text} {keyword : Keyword} {schema : Members} {limit : Value}
    {names : List String} (meant : Keyword.ofName? d key = some keyword) (inside : (key, limit) ∈ schema)
    (named : forall entry, entry ∈ Dialect.all.flatMap Keyword.table -> entry.2 = keyword -> entry.1 ∈ names) :
    Says schema names limit := by
  have texts : (Keyword.tables.lookup d).getD [] = Keyword.texts d := by
    cases d <;> rfl
  unfold Keyword.ofName? at meant
  rw [texts] at meant
  obtain ⟨before, after, parts, -⟩ := List.lookup_eq_some_iff.mp meant
  have member : (key, keyword) ∈ Keyword.texts d := parts ▸ List.mem_append_right _ List.mem_cons_self
  obtain ⟨entry, listed, same⟩ := List.mem_map.mp member
  cases same
  refine ⟨entry.1, named entry (List.mem_flatMap.mpr ⟨d, ?_, listed⟩) rfl, inside⟩
  cases d <;> decide

/-! ## Explained crashes -/

/-- Whatever is wrong with a schema has a property, and the schemas that it may apply are among those of which something
is known. -/
structure Explains (rules : Rules) (Q : Crash -> Prop) (Known : Position -> Value -> Value -> Prop) (p : Position)
    (schema : Members) (subject : Value) : Prop where
  unfit : forall {c}, Unfit rules p schema subject c -> Q c
  part : forall {part p' subject'}, Part schema part -> Onward p part p' -> Offers subject subject' ->
    Known p' part subject'
  target : forall {target inner}, Refers rules p schema target -> dialectOf p.dialect target.schema = .ok inner ->
    Known ⟨inner, target.scope⟩ target.schema subject

/-- What an evaluator crashes with has a property, as far as something is known of the schemas that it is given. -/
structure Evaluator.CrashesFor (Q : Crash -> Prop) (Known : Position -> Value -> Value -> Prop) (ev : Evaluator) :
    Prop where
  apply : forall {demand outer p schema subject}, Known p schema subject ->
    (ev.apply demand outer p schema subject).CrashesFor Q
  keys : forall {survey p schema members}, Known p schema (.object members) ->
    FailsFor Q (ev.keys survey p schema members)
  places : forall {survey p schema items}, Known p schema (.array items) ->
    FailsFor Q (ev.places survey p schema items)

namespace Explains

variable {rules : Rules} {Q : Crash -> Prop} {Known : Position -> Value -> Value -> Prop} {p : Position}
  {schema : Members} {subject : Value} {ev : Evaluator}

theorem dialect (explains : Explains rules Q Known p schema subject) {part : Value} (isPart : Part schema part) :
    FailsFor Q (dialectOf p.dialect part) :=
  fun _ undrafted => explains.unfit (.dialect isPart undrafted)

theorem descend (explains : Explains rules Q Known p schema subject) (below : ev.CrashesFor Q Known) {demand : Demand}
    {part subject' : Value} {step : Option PathPart} (isPart : Part schema part) (offers : Offers subject subject') :
    (ev.descend demand p part subject' step).CrashesFor Q := by
  unfold Evaluator.descend Evaluator.enter
  split
  next b =>
    cases b with
    | true => exact Outcome.crashesFor_clean
    | false => exact Outcome.crashesFor_one _
  next =>
    refine Outcome.CrashesFor.under ?_ step
    split
    · exact Outcome.crashesFor_clean
    · exact Outcome.crashesFor_one _
    · refine Outcome.crashesFor_ofExcept (fun c outside => explains.unfit (.scope isPart outside)) fun scope inside => ?_
      refine Outcome.crashesFor_ofExcept ((explains.dialect isPart).bind fun _ _ => failsFor_ok _)
        fun inner adopted => ?_
      obtain ⟨d, drafted, done⟩ := bind_eq_ok_iff.mp adopted
      cases done
      exact below.apply (explains.part isPart ⟨.inr inside, .inr drafted⟩ offers)

theorem completes (explains : Explains rules Q Known p schema subject) (below : ev.CrashesFor Q Known)
    {part subject' : Value} {step : Option PathPart} (isPart : Part schema part) (offers : Offers subject subject') :
    FailsFor Q (ev.descend .all p part subject' step).complete :=
  (explains.descend below isPart offers).complete

theorem acceptsWithin (explains : Explains rules Q Known p schema subject) (below : ev.CrashesFor Q Known)
    {part subject' : Value} (isPart : Part schema part) (offers : Offers subject subject') :
    FailsFor Q (ev.acceptsWithin p part subject') :=
  (explains.descend below isPart offers).isClean

theorem accepts (explains : Explains rules Q Known p schema subject) (below : ev.CrashesFor Q Known)
    {part subject' : Value} (isPart : Part schema part) (offers : Offers subject subject') :
    FailsFor Q (ev.accepts p part subject') := by
  refine ((explains.dialect isPart).bind fun _ _ => failsFor_ok _).bind fun inner adopted => ?_
  obtain ⟨d, drafted, done⟩ := bind_eq_ok_iff.mp adopted
  cases done
  have known : Known { p with dialect := d } part subject' := explains.part isPart ⟨.inl rfl, .inr drafted⟩ offers
  exact (below.apply known).isClean

theorem enterTarget (explains : Explains rules Q Known p schema subject) (below : ev.CrashesFor Q Known)
    {demand : Demand} {target : Target} (refers : Refers rules p schema target) :
    (ev.enter demand p (.ok target.scope) target.schema subject).CrashesFor Q := by
  unfold Evaluator.enter
  split
  · exact Outcome.crashesFor_clean
  · exact Outcome.crashesFor_one _
  · have drafts : FailsFor Q (dialectOf p.dialect target.schema) :=
      fun _ undrafted => explains.unfit (.targetDialect refers undrafted)
    change (Outcome.ofExcept (Position.adopt { p with scope := target.scope } target.schema) _).CrashesFor Q
    refine Outcome.crashesFor_ofExcept (drafts.bind fun _ _ => failsFor_ok _) fun inner adopted => ?_
    obtain ⟨d, drafted, done⟩ := bind_eq_ok_iff.mp adopted
    cases done
    exact below.apply (explains.target refers drafted)

/-! ### Shapes -/

theorem list (explains : Explains rules Q Known p schema subject) {v : Value}
    (said : Says schema ("disallow" :: "enum" :: "patternProperties" :: "required" :: schemaListNames) v) :
    FailsFor Q (elements v) :=
  fun _ unlisted => explains.unfit (.misshapen (.list said unlisted))

theorem map (explains : Explains rules Q Known p schema subject) {v : Value}
    (said : Says schema ("dependentRequired" :: schemaMapNames) v) : FailsFor Q (entries v) :=
  fun _ unmapped => explains.unfit (.misshapen (.map said unmapped))

theorem elements_of_countOf {v : Value} {c : Crash} (uncounted : countOf v = .error c) : elements v = .error c := by
  cases v <;> cases uncounted <;> rfl

theorem count (explains : Explains rules Q Known p schema subject) {v : Value} (said : Says schema schemaListNames v) :
    FailsFor Q (countOf v) :=
  fun _ uncounted => explains.unfit
    (.misshapen (.list (said.mono fun _ known => by simp [known]) (elements_of_countOf uncounted)))

theorem listOf_of (explains : Explains rules Q Known p schema subject) {v : Value}
    (said : Says schema ["disallow", "type"] v) : FailsFor Q (listOf v) := by
  have list := explains.list (said.mono (by decide))
  unfold listOf
  split
  · exact failsFor_ok _
  · exact list

theorem unranked (explains : Explains rules Q Known p schema subject) {v : Value} (said : Says schema numberNames v)
    (unranked : v.rank? = none) : Q .type :=
  explains.unfit (.misshapen (.number said unranked))

end Explains

/-! ## Keywords

As with the violations, the shapes that keywords share come first. -/

namespace Assertion

variable {rules : Rules} {Q : Crash -> Prop} {Known : Position -> Value -> Value -> Prop} {a : Assertion} {ev : Evaluator}

theorem crashesFor_failsIf (bad : Bool) : (a.failsIf bad).CrashesFor Q := by
  unfold failsIf
  split
  · exact Outcome.crashesFor_one _
  · exact Outcome.crashesFor_clean

theorem crashesFor_failsWhen {bad : Except Crash Bool} (h : FailsFor Q bad) : (a.failsWhen bad).CrashesFor Q :=
  Outcome.crashesFor_ofExcept h fun b _ => crashesFor_failsIf b

theorem crashesFor_ofObject {check : Members -> Outcome}
    (h : forall members, a.subject = .object members -> (check members).CrashesFor Q) :
    (a.ofObject check).CrashesFor Q := by
  unfold ofObject
  split
  next members object => exact h members object
  next => exact Outcome.crashesFor_clean

theorem crashesFor_ofArray {check : List Value -> Outcome}
    (h : forall items, a.subject = .array items -> (check items).CrashesFor Q) : (a.ofArray check).CrashesFor Q := by
  unfold ofArray
  split
  next items array => exact h items array
  next => exact Outcome.crashesFor_clean

theorem crashesFor_ofNumber {check : Number -> Outcome}
    (h : forall x, a.subject.number? = some x -> (check x).CrashesFor Q) : (a.ofNumber check).CrashesFor Q := by
  unfold ofNumber
  split
  next x isNumber => exact h x isNumber
  next => exact Outcome.crashesFor_clean

theorem eq_object_of_entries {v : Value} {inner : Members} (mapped : entries v = .ok inner) : v = .object inner := by
  cases v <;> cases mapped
  rfl

section Own

variable (explains : Explains rules Q Known a.position a.schema a.subject)

include explains

theorem crashesFor_compared (said : Says a.schema numberNames a.limit) (x : Number) (bad : Number -> Number -> Bool) :
    (a.compared x bad).CrashesFor Q := by
  unfold compared
  split
  next => exact crashesFor_failsIf _
  next unranked => exact Outcome.crashesFor_crashed (explains.unranked said unranked)

theorem crashesFor_comparedCount (said : Says a.schema numberNames a.limit) (count : Nat)
    (bad : Number -> Number -> Bool) : (a.comparedCount count bad).CrashesFor Q := by
  unfold comparedCount
  split
  next => exact crashesFor_failsIf _
  next unranked => exact Outcome.crashesFor_crashed (explains.unranked said unranked)

theorem failsFor_comparedBeside {name : String} (known : name ∈ numberNames) (fallback : Nat) (bad : Number -> Bool) :
    FailsFor Q (a.comparedBeside (Text.ofString name) fallback bad) := by
  unfold comparedBeside
  split
  next v found =>
    split
    next => exact failsFor_ok _
    next unranked => exact failsFor_error (explains.unranked (says_of_get? found known) unranked)
  next => exact failsFor_ok _

theorem failsFor_countBeside {name : String} (known : name ∈ schemaListNames) :
    FailsFor Q (a.countBeside (Text.ofString name)) := by
  unfold countBeside
  split
  next v found => exact explains.count (says_of_get? found known)
  next => exact failsFor_ok 0

theorem crashesFor_demands {members : Members} {names : List Value} (object : a.subject = .object members)
    (demands : forall name, name ∈ names -> Demands a.schema name) : (a.demands members names).CrashesFor Q :=
  Outcome.crashesFor_each fun name member => crashesFor_failsWhen
    (FailsFor.map fun _ impossible => explains.unfit (.name (demands name member) object impossible))

theorem crashesFor_eachPresent {check : Members -> Value -> Outcome}
    (said : Says a.schema ("dependentRequired" :: schemaMapNames) a.limit)
    (h : forall members inner entry, a.subject = .object members -> a.limit = .object inner -> entry ∈ inner ->
      (check members entry.2).CrashesFor Q) : (a.eachPresent check).CrashesFor Q := by
  refine crashesFor_ofObject fun members object => ?_
  refine Outcome.crashesFor_ofExcept (explains.map said) fun inner mapped => ?_
  refine Outcome.crashesFor_each fun entry member => ?_
  split
  · exact h members inner entry object (eq_object_of_entries mapped) member
  · exact Outcome.crashesFor_clean

/-! ### Single values -/

theorem failsFor_isOfType {types : List Value} (said : Says a.schema ["type"] a.limit)
    (lists : listOf a.limit = .ok types) {type : Value} (member : type ∈ types) :
    FailsFor Q (isOfType a.position.dialect a.subject type) :=
  fun _ unknown => explains.unfit (.type said lists member unknown)

theorem crashesFor_type (said : Says a.schema ["type"] a.limit) : a.type.CrashesFor Q := by
  refine crashesFor_failsWhen ((explains.listOf_of (said.mono (by decide))).bind fun types lists => ?_)
  refine (failsFor_anyWhere fun type member => ?_).bind fun _ _ => failsFor_ok _
  exact failsFor_isOfType explains said lists member

theorem crashesFor_enum (said : Says a.schema ["enum"] a.limit) : a.enum.CrashesFor Q :=
  crashesFor_failsWhen ((explains.list (said.mono (by decide))).bind fun _ _ => failsFor_ok _)

/-- Every bound on numbers, whether it is exclusive or not. -/
theorem crashesFor_bound (said : Says a.schema numberNames a.limit) (bad : Number -> Number -> Bool) :
    (a.ofNumber fun x => a.compared x bad).CrashesFor Q :=
  crashesFor_ofNumber fun x _ => crashesFor_compared explains said x bad

theorem crashesFor_minimumOrAbove (said : Says a.schema numberNames a.limit) : a.minimumOrAbove.CrashesFor Q := by
  unfold minimumOrAbove
  split
  · exact crashesFor_bound explains said _
  · exact crashesFor_bound explains said _

theorem crashesFor_maximumOrBelow (said : Says a.schema numberNames a.limit) : a.maximumOrBelow.CrashesFor Q := by
  unfold maximumOrBelow
  split
  · exact crashesFor_bound explains said _
  · exact crashesFor_bound explains said _

theorem crashesFor_multipleOf (said : Says a.schema ["divisibleBy", "multipleOf"] a.limit) :
    a.multipleOf.CrashesFor Q := by
  refine crashesFor_ofNumber fun x isNumber => ?_
  split
  next divisor ranked =>
    exact crashesFor_failsWhen fun _ undivided => explains.unfit (.multiple said ranked isNumber undivided)
  next unranked => exact Outcome.crashesFor_crashed (explains.unranked (said.mono (by decide)) unranked)

theorem crashesFor_minLength (said : Says a.schema numberNames a.limit) : a.minLength.CrashesFor Q := by
  unfold minLength
  split
  · exact crashesFor_compared explains said _ _
  · exact Outcome.crashesFor_clean

theorem crashesFor_maxLength (said : Says a.schema numberNames a.limit) : a.maxLength.CrashesFor Q := by
  unfold maxLength
  split
  · exact crashesFor_compared explains said _ _
  · exact Outcome.crashesFor_clean

theorem crashesFor_pattern (said : Says a.schema ["pattern"] a.limit) : a.pattern.CrashesFor Q := by
  unfold pattern
  split
  · exact crashesFor_failsWhen (FailsFor.map fun _ unread => explains.unfit (.illegible (.one said unread)))
  · exact Outcome.crashesFor_clean

theorem crashesFor_format (said : Says a.schema ["format"] a.limit) : (a.format rules).CrashesFor Q := by
  unfold format
  split
  next asserted =>
    split
    next name s limit text =>
      split
      next regex =>
        split
        · exact Outcome.crashesFor_clean
        · exact Outcome.crashesFor_one _
        next fault beyond unread =>
          rw [limit, regex] at said
          exact Outcome.crashesFor_crashed (explains.unfit (.format asserted said text unread fun same => beyond same))
      next => exact Outcome.crashesFor_clean
    next => exact Outcome.crashesFor_clean
  next => exact Outcome.crashesFor_clean

/-! ### Counts and names -/

theorem crashesFor_itemBound (said : Says a.schema numberNames a.limit) (bad : Number -> Number -> Bool) :
    (a.ofArray fun items => a.comparedCount items.length bad).CrashesFor Q :=
  crashesFor_ofArray fun items _ => crashesFor_comparedCount explains said items.length bad

theorem crashesFor_minProperties (said : Says a.schema numberNames a.limit) : a.minProperties.CrashesFor Q := by
  refine crashesFor_ofObject fun members _ => ?_
  split
  next => exact crashesFor_failsIf _
  next unranked => exact Outcome.crashesFor_crashed (explains.unranked said unranked)

theorem crashesFor_maxProperties (said : Says a.schema numberNames a.limit) : a.maxProperties.CrashesFor Q := by
  refine crashesFor_ofObject fun members _ => ?_
  split
  next => exact crashesFor_failsIf _
  next unranked => exact Outcome.crashesFor_crashed (explains.unranked said unranked)

theorem crashesFor_required (said : Says a.schema ["required"] a.limit) : a.required.CrashesFor Q := by
  refine crashesFor_ofObject fun members object => ?_
  refine Outcome.crashesFor_ofExcept (explains.list (said.mono (by decide))) fun names lists => ?_
  exact crashesFor_demands explains object fun name member => .always said lists member

/-- The names that one entry of a keyword lists. -/
theorem crashesFor_innerDemands {inner members : Members} {entry : Text × Value}
    (said : Says a.schema ["dependencies", "dependentRequired"] (.object inner)) (member : entry ∈ inner)
    (object : a.subject = .object members) :
    (Outcome.ofExcept (elements entry.2) (a.demands members)).CrashesFor Q := by
  refine Outcome.crashesFor_ofExcept
    (fun _ unlisted => explains.unfit (.misshapen (.innerList said member unlisted))) fun names lists => ?_
  exact crashesFor_demands explains object fun name listed => .beside said member lists listed

theorem crashesFor_dependentRequired (said : Says a.schema ["dependentRequired"] a.limit) :
    a.dependentRequired.CrashesFor Q := by
  refine crashesFor_eachPresent explains (said.mono (by decide)) fun members inner entry object limit member => ?_
  rw [limit] at said
  exact crashesFor_innerDemands explains (said.mono (by decide)) member object

end Own

/-- The schemas behind the first one that is satisfied are among those that were listed. -/
theorem mem_of_behindFirst? {parts rest : List Value} (found : a.behindFirst? ev parts = .ok (some rest)) {part : Value}
    (member : part ∈ rest) : part ∈ parts := by
  induction parts with
  | nil => cases found
  | cons first later ih =>
    obtain ⟨violations, -, more⟩ := bind_eq_ok_iff.mp found
    split at more
    · cases more
      exact List.mem_cons_of_mem _ member
    · exact List.mem_cons_of_mem _ (ih more)

theorem failsFor_countFitting {fits : Value -> Except Crash Bool} {tooMany : Nat -> Except Crash Bool}
    {items : List Value} (fitting : Nat) (each : forall item, item ∈ items -> FailsFor Q (fits item))
    (many : forall n, FailsFor Q (tooMany n)) : FailsFor Q (countFitting fits tooMany fitting items) := by
  induction items generalizing fitting with
  | nil => exact failsFor_ok fitting
  | cons item rest ih =>
    have later := fun n => ih n fun item member => each item (List.mem_cons_of_mem _ member)
    refine (each item List.mem_cons_self).bind fun fits _ => ?_
    cases fits with
    | false => exact later fitting
    | true =>
      refine (many (fitting + 1)).bind fun excess _ => ?_
      cases excess with
      | true => exact failsFor_ok _
      | false => exact later (fitting + 1)

section Applying

variable (explains : Explains rules Q Known a.position a.schema a.subject) (below : ev.CrashesFor Q Known)

include explains below

theorem crashesFor_descend {part subject : Value} {step : Option PathPart} (isPart : Part a.schema part)
    (offers : Offers a.subject subject) : (a.descend ev part subject step).CrashesFor Q :=
  explains.descend below isPart offers

theorem crashesFor_eachItem {part : Value} {items : List Value} (first : Nat) (isPart : Part a.schema part)
    (array : a.subject = .array items) : (a.eachItem ev part first items).CrashesFor Q :=
  Outcome.crashesFor_each fun _ member => crashesFor_descend explains below isPart
    (.item array (List.mem_of_mem_drop (mem_of_mem_placed member)))

theorem crashesFor_itemByItem {parts items : List Value} (areParts : forall part, part ∈ parts -> Part a.schema part)
    (array : a.subject = .array items) : (a.itemByItem ev items parts).CrashesFor Q :=
  Outcome.crashesFor_each fun _ member => crashesFor_descend explains below (areParts _ (List.of_mem_zip member).2)
    (.item array (mem_of_mem_placed (List.of_mem_zip member).1))

/-! ### References and combinations -/

theorem crashesFor_applyTarget {target : Target} (refers : Refers rules a.position a.schema target) :
    (a.applyTarget ev target).CrashesFor Q :=
  explains.enterTarget below refers

theorem crashesFor_reference (said : Says a.schema ["$ref", "$dynamicRef"] a.limit) :
    (a.reference rules ev).CrashesFor Q := by
  refine Outcome.crashesFor_ofExcept
    (fun _ untold => explains.unfit (.misshapen (.reference said untold))) fun ref told => ?_
  unfold referenceText at told
  split at told
  next text limit =>
    cases told
    rw [limit] at said
    refine Outcome.crashesFor_ofExcept ?_ fun target found => ?_
    · intro c failed
      obtain ⟨c, lost, rfl⟩ := mapError_eq_error_iff.mp failed
      exact explains.unfit (.lost (.applied said lost))
    · exact crashesFor_applyTarget explains below (.reference said (mapError_eq_ok_iff.mp found))
  next => cases told

theorem crashesFor_recursiveReference (said : Says a.schema ["$recursiveRef"] a.limit) :
    (a.recursiveReference rules ev).CrashesFor Q :=
  Outcome.crashesFor_ofExcept (fun _ lost => explains.unfit (.lost (.recursion said lost))) fun _ found =>
    crashesFor_applyTarget explains below (.recursion said found)

theorem crashesFor_allOf (said : Says a.schema schemaListNames a.limit) : (a.allOf ev).CrashesFor Q :=
  Outcome.crashesFor_ofExcept (explains.list (said.mono (by decide))) fun _ lists =>
    Outcome.crashesFor_each fun _ member => crashesFor_descend explains below (.listed said lists member) .whole

theorem crashesFor_extended (said : Says a.schema ["extends"] a.limit) : (a.extended ev).CrashesFor Q := by
  unfold extended
  split
  · exact crashesFor_descend explains below (.whole (said.mono (by decide))) .whole
  · exact crashesFor_allOf explains below (said.mono (by decide))

theorem failsFor_behindFirst? {parts : List Value} (areParts : forall part, part ∈ parts -> Part a.schema part) :
    FailsFor Q (a.behindFirst? ev parts) := by
  induction parts with
  | nil => exact failsFor_ok none
  | cons part rest ih =>
    refine (explains.completes below (areParts part List.mem_cons_self) .whole).bind fun found _ => ?_
    split
    · exact failsFor_ok _
    · exact ih fun part later => areParts part (List.mem_cons_of_mem _ later)

theorem crashesFor_anyOf (said : Says a.schema ["anyOf"] a.limit) : (a.anyOf ev).CrashesFor Q := by
  have listed : Says a.schema schemaListNames a.limit := said.mono (by decide)
  refine crashesFor_failsWhen ((explains.list (listed.mono (by decide))).bind fun parts lists => ?_)
  refine (failsFor_behindFirst? explains below fun part member => ?_).bind fun _ _ => failsFor_ok _
  exact .listed listed lists member

theorem crashesFor_oneOf (said : Says a.schema ["oneOf"] a.limit) : (a.oneOf ev).CrashesFor Q := by
  have listed : Says a.schema schemaListNames a.limit := said.mono (by decide)
  refine crashesFor_failsWhen ((explains.list (listed.mono (by decide))).bind fun parts lists => ?_)
  have areParts : forall part, part ∈ parts -> Part a.schema part := fun part member => .listed listed lists member
  refine (failsFor_behindFirst? explains below areParts).bind fun behind found => ?_
  cases behind with
  | none => exact failsFor_ok true
  | some rest =>
    refine (failsFor_allWhere fun part member => ?_).bind fun _ _ => failsFor_ok _
    exact explains.accepts below (areParts part (mem_of_behindFirst? found member)) .whole

theorem crashesFor_negation (said : Says a.schema ["not"] a.limit) : (a.negation ev).CrashesFor Q :=
  crashesFor_failsWhen (explains.accepts below (.whole (said.mono (by decide))) .whole)

theorem crashesFor_conditional (said : Says a.schema ["if"] a.limit) : (a.conditional ev).CrashesFor Q := by
  have condition := explains.accepts below (.whole (said.mono (by decide))) .whole
  refine Outcome.crashesFor_ofExcept condition fun satisfied _ => ?_
  cases satisfied with
  | true =>
    split
    next part found => exact crashesFor_descend explains below (.whole (says_of_get? found (by decide))) .whole
    next => exact Outcome.crashesFor_clean
  | false =>
    split
    next part found => exact crashesFor_descend explains below (.whole (says_of_get? found (by decide))) .whole
    next => exact Outcome.crashesFor_clean

/-! ### Types and schemas -/

theorem failsFor_fitsTypeOrSchema (said : Says a.schema ["type"] a.limit) {types : List Value}
    (lists : listOf a.limit = .ok types) {some : List Value} (those : forall type, type ∈ some -> type ∈ types) :
    FailsFor Q (a.fitsTypeOrSchema ev some) := by
  induction some with
  | nil => exact failsFor_ok false
  | cons type rest ih =>
    have later := ih fun type member => those type (List.mem_cons_of_mem _ member)
    have named := failsFor_isOfType explains said lists (those type List.mem_cons_self)
    unfold fitsTypeOrSchema
    split
    · split
      · exact failsFor_ok true
      · refine named.bind fun fits _ => ?_
        split
        · exact failsFor_ok true
        · exact later
    next members =>
      have isPart : Part a.schema (.object members) := by
        have member := those _ List.mem_cons_self
        unfold listOf at lists
        split at lists
        next limit =>
          cases lists
          rw [limit] at member
          cases List.mem_singleton.mp member
        next => exact .listed (said.mono (by decide)) lists member
      refine (explains.completes below isPart .whole).bind fun found _ => ?_
      split
      · exact failsFor_ok true
      · exact later
    · exact named

theorem crashesFor_typeOrSchema (said : Says a.schema ["type"] a.limit) : (a.typeOrSchema ev).CrashesFor Q := by
  refine crashesFor_failsWhen ((explains.listOf_of (said.mono (by decide))).bind fun types lists => ?_)
  exact (failsFor_fitsTypeOrSchema explains below said lists fun _ member => member).bind fun _ _ => failsFor_ok _

theorem crashesFor_disallow (said : Says a.schema ["disallow"] a.limit) : (a.disallow ev).CrashesFor Q :=
  Outcome.crashesFor_ofExcept (explains.listOf_of (said.mono (by decide))) fun _ lists =>
    Outcome.crashesFor_each fun _ member =>
      crashesFor_failsWhen (explains.accepts below (.disallowed said lists member) .whole)

/-! ### Objects -/

theorem crashesFor_properties (said : Says a.schema ["properties"] a.limit) : (a.properties ev).CrashesFor Q := by
  refine crashesFor_ofObject fun members object => ?_
  refine Outcome.crashesFor_ofExcept (explains.map (said.mono (by decide))) fun inner mapped => ?_
  refine Outcome.crashesFor_each fun entry member => ?_
  rw [eq_object_of_entries mapped] at said
  split
  next v found =>
    have inside := Members.mem_of_get? found
    exact crashesFor_descend explains below (.mapped (said.mono (by decide)) member) (.member object inside)
  next => exact Outcome.crashesFor_clean

theorem crashesFor_propertiesAndRequired (said : Says a.schema ["properties"] a.limit) :
    (a.propertiesAndRequired ev).CrashesFor Q := by
  refine crashesFor_ofObject fun members object => ?_
  refine Outcome.crashesFor_ofExcept (explains.map (said.mono (by decide))) fun inner mapped => ?_
  refine Outcome.crashesFor_each fun entry member => ?_
  rw [eq_object_of_entries mapped] at said
  split
  next v found =>
    have inside := Members.mem_of_get? found
    exact crashesFor_descend explains below (.mapped (said.mono (by decide)) member) (.member object inside)
  next =>
    refine Outcome.crashesFor_ofExcept
      (fun _ unmapped => explains.unfit (.misshapen (.innerMap said member unmapped))) fun part _ => ?_
    split
    · split
      · exact Outcome.crashesFor_one _
      · exact Outcome.crashesFor_clean
    · exact Outcome.crashesFor_clean

theorem crashesFor_patternProperties (said : Says a.schema ["patternProperties"] a.limit) :
    (a.patternProperties ev).CrashesFor Q := by
  refine crashesFor_ofObject fun members object => ?_
  refine Outcome.crashesFor_ofExcept (explains.map (said.mono (by decide))) fun inner mapped => ?_
  refine Outcome.crashesFor_each fun entry member => ?_
  refine Outcome.crashesFor_each fun m inside => ?_
  have limit := eq_object_of_entries mapped
  have named : (Value.string entry.1) ∈ inner.map fun m => .string m.1 := List.mem_map_of_mem member
  have lists : elements a.limit = .ok (inner.map fun m => .string m.1) := by rw [limit]; rfl
  refine Outcome.crashesFor_ofExcept
    (fun _ unread => explains.unfit (.illegible (.listed said lists named unread))) fun found _ => ?_
  split
  · rw [limit] at said
    exact crashesFor_descend explains below (.mapped (said.mono (by decide)) member) (.member object inside)
  · exact Outcome.crashesFor_clean

theorem crashesFor_propertyNames (said : Says a.schema ["propertyNames"] a.limit) : (a.propertyNames ev).CrashesFor Q :=
  crashesFor_ofObject fun _ object => Outcome.crashesFor_each fun _ member =>
    crashesFor_descend explains below (.whole (said.mono (by decide))) (.name object member)

theorem crashesFor_dependentSchemas (said : Says a.schema ["dependentSchemas"] a.limit) :
    (a.dependentSchemas ev).CrashesFor Q := by
  refine crashesFor_eachPresent explains (said.mono (by decide)) fun members inner entry object limit member => ?_
  rw [limit] at said
  exact crashesFor_descend explains below (.mapped (said.mono (by decide)) member) .whole

theorem crashesFor_dependencies (said : Says a.schema ["dependencies"] a.limit) : (a.dependencies ev).CrashesFor Q := by
  refine crashesFor_eachPresent explains (said.mono (by decide)) fun members inner entry object limit member => ?_
  rw [limit] at said
  split
  next names listed =>
    refine crashesFor_demands explains object fun name inside => ?_
    exact .beside (said.mono (by decide)) member (by rw [listed]; rfl) inside
  next => exact crashesFor_descend explains below (.mapped (said.mono (by decide)) member) .whole

theorem crashesFor_dependenciesOfAnyKind (said : Says a.schema ["dependencies"] a.limit) :
    (a.dependenciesOfAnyKind ev).CrashesFor Q := by
  refine crashesFor_eachPresent explains (said.mono (by decide)) fun members inner entry object limit member => ?_
  rw [limit] at said
  split
  next => exact crashesFor_descend explains below (.mapped (said.mono (by decide)) member) .whole
  next name whole =>
    refine Outcome.crashesFor_each fun name listed => crashesFor_failsWhen (FailsFor.map ?_)
    cases List.mem_singleton.mp listed
    rw [whole]
    exact failsFor_ok _
  next => exact crashesFor_innerDemands explains (said.mono (by decide)) member object

/-! ### Arrays -/

theorem crashesFor_itemsOrList (said : Says a.schema ["items"] a.limit) : (a.itemsOrList ev).CrashesFor Q := by
  refine crashesFor_ofArray fun items array => ?_
  split
  · exact crashesFor_eachItem explains below 0 (.whole (said.mono (by decide))) array
  · refine Outcome.crashesFor_ofExcept (explains.list (said.mono (by decide))) fun parts lists => ?_
    exact crashesFor_itemByItem explains below (fun part member => .listed (said.mono (by decide)) lists member) array

theorem crashesFor_items (said : Says a.schema ["items"] a.limit) : (a.items ev).CrashesFor Q := by
  refine crashesFor_ofArray fun items array => ?_
  split
  next parts listed =>
    refine crashesFor_itemByItem explains below (fun part member => ?_) array
    exact .listed (said.mono (by decide)) (by rw [listed]; rfl) member
  next => exact crashesFor_eachItem explains below 0 (.whole (said.mono (by decide))) array

theorem crashesFor_leadingItems (said : Says a.schema ["prefixItems"] a.limit) : (a.leadingItems ev).CrashesFor Q := by
  refine crashesFor_ofArray fun items array => ?_
  refine Outcome.crashesFor_ofExcept (explains.list (said.mono (by decide))) fun parts lists => ?_
  exact crashesFor_itemByItem explains below (fun part member => .listed (said.mono (by decide)) lists member) array

theorem crashesFor_remainingItems (said : Says a.schema ["items"] a.limit) : (a.remainingItems ev).CrashesFor Q := by
  refine crashesFor_ofArray fun items array => ?_
  refine Outcome.crashesFor_ofExcept (failsFor_countBeside explains (by decide)) fun first _ => ?_
  split
  · exact Outcome.crashesFor_clean
  · split
    · exact Outcome.crashesFor_one _
    · exact crashesFor_eachItem explains below first (.whole (said.mono (by decide))) array

theorem crashesFor_additionalItems (said : Says a.schema ["additionalItems"] a.limit) :
    (a.additionalItems ev).CrashesFor Q := by
  refine crashesFor_ofArray fun items array => ?_
  split
  · exact Outcome.crashesFor_clean
  · exact Outcome.crashesFor_clean
  next parts _ found =>
    refine Outcome.crashesFor_ofExcept (explains.count (says_of_get? found (by decide))) fun first _ => ?_
    split
    · exact crashesFor_eachItem explains below first (.whole (said.mono (by decide))) array
    · exact crashesFor_failsIf _

theorem crashesFor_contains (said : Says a.schema ["contains"] a.limit) : (a.contains ev).CrashesFor Q := by
  refine crashesFor_ofArray fun items array => crashesFor_failsWhen ?_
  refine (failsFor_anyWhere fun item member => ?_).bind fun _ _ => failsFor_ok _
  exact explains.accepts below (.whole (said.mono (by decide))) (.item array member)

theorem crashesFor_containsBetween (said : Says a.schema ["contains"] a.limit) :
    (a.containsBetween ev).CrashesFor Q := by
  have isPart : Part a.schema a.limit := .whole (said.mono (by decide))
  refine crashesFor_ofArray fun items array => ?_
  have many : forall n : Nat, FailsFor Q
      (a.comparedBeside "maxContains" items.length fun most => most.lt (.int n)) :=
    fun n => failsFor_comparedBeside explains (by decide) _ _
  refine Outcome.crashesFor_ofExcept ((explains.dialect isPart).bind fun _ _ => failsFor_ok _) fun _ _ => ?_
  refine Outcome.crashesFor_ofExcept (failsFor_countFitting 0
    (fun item member => explains.accepts below isPart (.item array member)) many) fun fitting _ => ?_
  have excessive : FailsFor Q (if fitting = 0 then .ok false else
      a.comparedBeside "maxContains" items.length fun most => most.lt (.int fitting)) := by
    split
    · exact failsFor_ok false
    · exact many fitting
  refine Outcome.crashesFor_ofExcept excessive fun excess _ => ?_
  split
  · exact Outcome.crashesFor_one _
  · refine Outcome.crashesFor_ofExcept (failsFor_comparedBeside explains (by decide) _ _) fun lacking _ => ?_
    split
    · exact Outcome.crashesFor_clean
    · split
      · exact Outcome.crashesFor_one _
      · exact Outcome.crashesFor_one _

/-! ### Members that nothing else speaks of -/

omit below in
theorem failsFor_joinedPatterns : FailsFor Q (joinedPatterns a.schema) := by
  unfold joinedPatterns
  split
  next => exact failsFor_ok []
  next v found =>
    refine (explains.list (says_of_get? found (by decide))).bind fun patterns lists => ?_
    refine (failsFor_mapM fun pattern member => ?_).bind fun _ _ => failsFor_ok _
    split
    next => exact failsFor_ok _
    next noText =>
      have unread : searchesValue pattern [] = .error .type := by
        cases pattern with
        | string s => exact absurd rfl (noText s)
        | _ => rfl
      exact failsFor_error (explains.unfit (.illegible (.listed (says_of_get? found (by decide)) lists member unread)))

omit below in
theorem failsFor_extraMembers (members : Members) : FailsFor Q (extraMembers a.schema members) := by
  refine (failsFor_joinedPatterns explains).bind fun pattern joins => ?_
  refine failsFor_allWhere fun m _ => FailsFor.bind ?_ fun named _ => ?_
  · split
    next v found => exact fun _ nameless => explains.unfit (.misshapen (.names (says_of_get? found (by decide)) nameless))
    next => exact failsFor_ok false
  · split
    · exact failsFor_ok false
    · split
      · exact failsFor_ok true
      · refine FailsFor.bind (fun _ unread => ?_) fun _ _ => failsFor_ok _
        exact explains.unfit (.illegible (.joined joins unread))

theorem crashesFor_additionalProperties (said : Says a.schema ["additionalProperties"] a.limit) :
    (a.additionalProperties ev).CrashesFor Q := by
  refine crashesFor_ofObject fun members object => ?_
  refine Outcome.crashesFor_ofExcept (failsFor_extraMembers explains members) fun extra kept => ?_
  split
  · refine Outcome.crashesFor_each fun m member => ?_
    obtain ⟨_, joins, tested⟩ := bind_eq_ok_iff.mp kept
    obtain ⟨_, rfl⟩ := allWhere_eq_ok tested
    have inside := (List.mem_filter.mp member).1
    exact crashesFor_descend explains below (.whole (said.mono (by decide))) (.member object inside)
  · exact crashesFor_failsIf _

end Applying

end Assertion

end Schema
end SchemaLint
