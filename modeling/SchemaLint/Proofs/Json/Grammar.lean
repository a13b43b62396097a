import SchemaLint.Json.Reader
import SchemaLint.Proofs.Results

/-!
# The grammar as a relation

The reader is a machine that takes one token after the other.  What a token can do is said here once, as a relation between
a state, a token and the next state; where the token stands has no part in it.  Whatever is true of every single step of
this relation is true of all that is read.
-/

namespace SchemaLint

namespace Json

/-- A word or a number. -/
def Token.IsAtomic : Token -> Prop
  | .null | .bool _ | .number _ | .constant _ => True
  | _ => False

/-- A token that can come behind a value. -/
def Token.Closes : Token -> Prop
  | .comma | .closeObject | .closeArray | .stop => True
  | _ => False

/-- A token without a complaint. -/
def Token.IsSound : Token -> Prop
  | .badString _ _ | .junk => False
  | _ => True

/-- Sound tokens, no two of which are words or numbers right behind each other. -/
def AreApart : List Token -> Prop
  | [] => True
  | token :: rest =>
    token.IsSound ∧ (token.IsAtomic -> forall next rest', rest = next :: rest' -> next.Closes) ∧ AreApart rest

namespace Reader

variable {policy : Policy} {stack : List Frame} {state state' : State} {token : Token} {p : Placed}

/-! ## One token -/

/-- A token that is a value by itself. -/
inductive IsValue (policy : Policy) : Token -> Value -> Prop
  | null : IsValue policy .null .null
  | bool (b : Bool) : IsValue policy (.bool b) (.bool b)
  | string (s : Text) : IsValue policy (.string s) (.string s)
  | number {literal : NumberLiteral} {v : Value} (given : numberValue literal = .ok v) : IsValue policy (.number literal) v
  | constant (c : Constant) (lenient : policy.constants = true) : IsValue policy (.constant c) (.float c.value)

/-- What a token does where a value must come. -/
inductive Begins (policy : Policy) (stack : List Frame) : Token -> State -> Prop
  | value {token : Token} {v : Value} (isValue : IsValue policy token v) : Begins policy stack token (complete v stack)
  | openArray (room : stack.length < policy.depth) : Begins policy stack .openArray (.firstItem stack)
  | openObject (room : stack.length < policy.depth) : Begins policy stack .openObject (.firstName stack)

/-- What a token does in a state. -/
inductive Takes (policy : Policy) : State -> Token -> State -> Prop
  | value {stack : List Frame} {token : Token} {state : State} (begins : Begins policy stack token state) :
    Takes policy (.value stack) token state
  | firstItem {stack : List Frame} {token : Token} {state : State} (begins : Begins policy (.array [] :: stack) token state) :
    Takes policy (.firstItem stack) token state
  | emptyArray (stack : List Frame) : Takes policy (.firstItem stack) .closeArray (complete (.array []) stack)
  | nextItem (items : List Value) (stack : List Frame) :
    Takes policy (.afterItem items stack) .comma (.value (.array items :: stack))
  | lastItem (items : List Value) (stack : List Frame) :
    Takes policy (.afterItem items stack) .closeArray (complete (.array items.reverse) stack)
  | emptyObject (stack : List Frame) : Takes policy (.firstName stack) .closeObject (complete (.object []) stack)
  | firstName (stack : List Frame) (s : Text) : Takes policy (.firstName stack) (.string s) (.colon [] s stack)
  | name (pairs : List (Text × Value)) (stack : List Frame) (s : Text) :
    Takes policy (.name pairs stack) (.string s) (.colon pairs s stack)
  | colon (pairs : List (Text × Value)) (key : Text) (stack : List Frame) :
    Takes policy (.colon pairs key stack) .colon (.value (.object pairs key :: stack))
  | nextMember (pairs : List (Text × Value)) (stack : List Frame) :
    Takes policy (.afterMember pairs stack) .comma (.name pairs stack)
  | lastMember (pairs : List (Text × Value)) (stack : List Frame) : Takes policy (.afterMember pairs stack) .closeObject
      (complete (.object (Members.ofPairs pairs.reverse)) stack)
  | stop (v : Value) : Takes policy (.done v) .stop (.done v)

theorem begins_of_takeValue (taken : takeValue policy stack p = .ok state) : Begins policy stack p.token state := by
  unfold takeValue at taken
  cases token : p.token with
  | null =>
    rw [token] at taken
    cases taken
    exact .value .null
  | bool b =>
    rw [token] at taken
    cases taken
    exact .value (.bool b)
  | string s =>
    rw [token] at taken
    cases taken
    exact .value (.string s)
  | number literal =>
    rw [token] at taken
    obtain ⟨v, given, rfl⟩ := map_eq_ok_iff.mp taken
    exact .value (.number given)
  | constant c =>
    rw [token] at taken
    dsimp only at taken
    split at taken
    next lenient =>
      cases taken
      exact .value (.constant c lenient)
    next => cases taken
  | openArray =>
    rw [token] at taken
    dsimp only at taken
    split at taken
    next room =>
      cases taken
      exact .openArray room
    next => cases taken
  | openObject =>
    rw [token] at taken
    dsimp only at taken
    split at taken
    next room =>
      cases taken
      exact .openObject room
    next => cases taken
  | _ =>
    rw [token] at taken
    cases taken

theorem takeValue_of_begins (begins : Begins policy stack p.token state) : takeValue policy stack p = .ok state := by
  unfold takeValue
  generalize p.token = token at begins
  cases begins with
  | openArray room => exact if_pos room
  | openObject room => exact if_pos room
  | value isValue =>
    cases isValue with
    | null => rfl
    | bool b => rfl
    | string s => rfl
    | number given => exact map_eq_ok_iff.mpr ⟨_, given, rfl⟩
    | constant c lenient => exact if_pos lenient

theorem takeName_eq_ok_iff {pairs : List (Text × Value)} :
    takeName pairs stack p = .ok state <-> exists s, p.token = .string s ∧ state = .colon pairs s stack := by
  unfold takeName
  constructor
  · intro taken
    split at taken
    next s token =>
      cases taken
      exact ⟨s, token, rfl⟩
    next => cases taken
    next => cases taken
  · rintro ⟨s, token, rfl⟩
    rw [token]

/-- The machine does nothing but what the relation says. -/
theorem takes_of_step (taken : step policy state p = .ok state') : Takes policy state p.token state' := by
  unfold step at taken
  split at taken
  next stack => exact .value (begins_of_takeValue taken)
  next stack =>
    split at taken
    next close =>
      cases taken
      rw [close]
      exact .emptyArray stack
    next => exact .firstItem (begins_of_takeValue taken)
  next items stack =>
    split at taken
    next comma =>
      cases taken
      rw [comma]
      exact .nextItem items stack
    next =>
      split at taken
      next close =>
        cases taken
        rw [close]
        exact .lastItem items stack
      next => cases taken
  next stack =>
    split at taken
    next close =>
      cases taken
      rw [close]
      exact .emptyObject stack
    next =>
      obtain ⟨s, token, rfl⟩ := takeName_eq_ok_iff.mp taken
      rw [token]
      exact .firstName stack s
  next pairs stack =>
    obtain ⟨s, token, rfl⟩ := takeName_eq_ok_iff.mp taken
    rw [token]
    exact .name pairs stack s
  next pairs key stack =>
    split at taken
    next colon =>
      cases taken
      rw [colon]
      exact .colon pairs key stack
    next => cases taken
  next pairs stack =>
    split at taken
    next comma =>
      cases taken
      rw [comma]
      exact .nextMember pairs stack
    next =>
      split at taken
      next close =>
        cases taken
        rw [close]
        exact .lastMember pairs stack
      next => cases taken
  next v =>
    split at taken
    next stop =>
      cases taken
      rw [stop]
      exact .stop v
    next => cases taken

/-- The machine does all that the relation says. -/
theorem step_of_takes (takes : Takes policy state p.token state') : step policy state p = .ok state' := by
  generalize same : p.token = token at takes
  cases takes with
  | value begins => exact takeValue_of_begins (same ▸ begins)
  | @firstItem stack token state begins =>
    have notClose : p.token ≠ .closeArray := by
      rw [same]
      rintro rfl
      nomatch begins
    exact (if_neg notClose).trans (takeValue_of_begins (same ▸ begins))
  | emptyArray stack => exact if_pos same
  | nextItem items stack => exact if_pos same
  | lastItem items stack => simp [step, same]
  | emptyObject stack => exact if_pos same
  | firstName stack s =>
    have notClose : p.token ≠ .closeObject := by simp [same]
    exact (if_neg notClose).trans (takeName_eq_ok_iff.mpr ⟨s, same, rfl⟩)
  | name pairs stack s => exact takeName_eq_ok_iff.mpr ⟨s, same, rfl⟩
  | colon pairs key stack => exact if_pos same
  | nextMember pairs stack => exact if_pos same
  | lastMember pairs stack => simp [step, same]
  | stop v => exact if_pos same

/-! ## What every step is like -/

theorem IsValue.isSound {v : Value} (isValue : IsValue policy token v) : token.IsSound := by
  cases isValue <;> trivial

theorem Begins.isSound (begins : Begins policy stack token state) : token.IsSound := by
  cases begins with
  | value isValue => exact isValue.isSound
  | openArray room => trivial
  | openObject room => trivial

/-- No token with a complaint is taken. -/
theorem Takes.isSound (takes : Takes policy state token state') : token.IsSound := by
  cases takes with
  | value begins => exact begins.isSound
  | firstItem begins => exact begins.isSound
  | _ => trivial

theorem Begins.exists_complete (begins : Begins policy stack token state) (atomic : token.IsAtomic) :
    exists v, state = complete v stack := by
  cases begins with
  | value isValue => exact ⟨_, rfl⟩
  | openArray room => cases atomic
  | openObject room => cases atomic

/-- Behind a word or a number a value is complete. -/
theorem Takes.exists_complete (takes : Takes policy state token state') (atomic : token.IsAtomic) :
    exists v stack, state' = complete v stack := by
  cases takes with
  | @value stack _ _ begins =>
    obtain ⟨v, same⟩ := begins.exists_complete atomic
    exact ⟨v, stack, same⟩
  | @firstItem stack _ _ begins =>
    obtain ⟨v, same⟩ := begins.exists_complete atomic
    exact ⟨v, .array [] :: stack, same⟩
  | _ => cases atomic

/-- Behind a complete value only a comma, the end of an array or an object, or the end of the text can come. -/
theorem Takes.closes {v : Value} (takes : Takes policy (complete v stack) token state') : token.Closes := by
  cases stack with
  | nil =>
    cases takes
    trivial
  | cons frame stack =>
    cases frame with
    | array items => cases takes <;> trivial
    | object pairs key => cases takes <;> trivial

/-! ## All tokens -/

theorem run_cons {ps : List Placed} (ran : run policy state (p :: ps) = .ok state') :
    exists next, step policy state p = .ok next ∧ run policy next ps = .ok state' :=
  bind_eq_ok_iff.mp ran

/-- What tokens are read as does not depend on their places. -/
theorem run_eq_ok_of_tokens {ps qs : List Placed} (same : qs.map Placed.token = ps.map Placed.token)
    (ran : run policy state ps = .ok state') : run policy state qs = .ok state' := by
  induction ps generalizing state qs with
  | nil =>
    cases List.map_eq_nil_iff.mp same
    exact ran
  | cons p ps ih =>
    obtain ⟨q, qs', rfl, first, rest⟩ := List.map_eq_cons_iff.mp same
    obtain ⟨next, taken, ran⟩ := run_cons ran
    have taken' : step policy state q = .ok next := step_of_takes (first ▸ takes_of_step taken)
    exact bind_eq_ok_iff.mpr ⟨next, taken', ih rest ran⟩

/-- Tokens that can be read are sound, and no two words or numbers come right behind each other. -/
theorem areApart_of_run {ps : List Placed} (ran : run policy state ps = .ok state') : AreApart (ps.map Placed.token) := by
  induction ps generalizing state with
  | nil => trivial
  | cons p ps ih =>
    obtain ⟨next, taken, ran⟩ := run_cons ran
    have takes := takes_of_step taken
    refine ⟨takes.isSound, ?_, ih ran⟩
    intro atomic token rest same
    obtain ⟨q, ps, rfl, rfl, -⟩ := List.map_eq_cons_iff.mp same
    obtain ⟨v, stack, rfl⟩ := takes.exists_complete atomic
    obtain ⟨after, onwards, -⟩ := run_cons ran
    exact (takes_of_step onwards).closes

end Reader

end Json

end SchemaLint
