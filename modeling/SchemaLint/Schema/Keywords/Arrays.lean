import SchemaLint.Schema.Assertion

/-!
# Keywords about arrays

Which schemas apply to which items, how many items there are, and whether they differ.
-/

namespace SchemaLint

namespace Schema

open Json

namespace Assertion

def ofArray (a : Assertion) (check : List Value → Outcome) : Outcome :=
  match a.subject with
  | .array items => check items
  | _ => .clean

/-- Items with their places, which count from `first`. -/
def placed (first : Nat) (items : List Value) : List (Nat × Value) :=
  (List.range' first items.length).zip items

/-- One schema applies to all items from `first` on. -/
def eachItem (a : Assertion) (ev : Evaluator) (schema : Value) (first : Nat) (items : List Value) : Outcome :=
  a.each (fun item => a.descend ev schema item.2 (some (.index item.1))) (placed first (items.drop first))

/-- Schemas apply to the items in the same places. -/
def itemByItem (a : Assertion) (ev : Evaluator) (items schemas : List Value) : Outcome :=
  a.each (fun pair => a.descend ev pair.2 pair.1.2 (some (.index pair.1.1))) ((placed 0 items).zip schemas)

/-- One schema for all items, which has to be an object, or a list of schemas. -/
def itemsOrList (a : Assertion) (ev : Evaluator) : Outcome :=
  a.ofArray fun items =>
    match a.limit with
    | .object _ => a.eachItem ev a.limit 0 items
    | limit => .ofExcept (elements limit) (a.itemByItem ev items)

/-- A list of schemas, or one schema for all items. -/
def items (a : Assertion) (ev : Evaluator) : Outcome :=
  a.ofArray fun items =>
    match a.limit with
    | .array schemas => a.itemByItem ev items schemas
    | limit => a.eachItem ev limit 0 items

/-- Schemas for the first items. -/
def leadingItems (a : Assertion) (ev : Evaluator) : Outcome :=
  a.ofArray fun items => .ofExcept (elements a.limit) (a.itemByItem ev items)

/-- The number of things that a keyword beside this one lists. -/
def countBeside (a : Assertion) (key : Text) : Except Crash Nat :=
  match a.beside? key with
  | some v => countOf v
  | none => .ok 0

/-- One schema for the items behind those that have their own; if nothing satisfies it, the array as a whole fails. -/
def remainingItems (a : Assertion) (ev : Evaluator) : Outcome :=
  a.ofArray fun items =>
    .ofExcept (a.countBeside "prefixItems") fun first =>
      if items.length ≤ first then .clean
      else
        match a.limit with
        | .bool false => a.fails
        | limit => a.eachItem ev limit first items

/-- What applies to the items behind a list of schemas; without such a list nothing does. -/
def additionalItems (a : Assertion) (ev : Evaluator) : Outcome :=
  a.ofArray fun items =>
    match a.beside? "items" with
    | none | some (.object _) => .clean
    | some schemas =>
      .ofExcept (countOf schemas) fun first =>
        match a.limit with
        | .object _ => a.eachItem ev a.limit first items
        | limit => a.failsIf (!isGiven limit && first < items.length)

def contains (a : Assertion) (ev : Evaluator) : Outcome :=
  a.ofArray fun items =>
    a.failsWhen do
      return !(← anyWhere (ev.accepts a.position a.limit) items)

/-- Compare a number of things with a bound beside this keyword, or with the bound that holds without one. -/
def comparedBeside (a : Assertion) (key : Text) (fallback : Nat) (bad : Number → Bool) : Except Crash Bool :=
  match a.beside? key with
  | some v =>
    match v.rank? with
    | some bound => .ok (bad bound)
    | none => .error .type
  | none => .ok (bad (.int fallback))

/-- The number of items that satisfy a schema; counting stops when there are too many. -/
def countFitting (fits : Value → Except Crash Bool) (tooMany : Nat → Except Crash Bool) :
    Nat → List Value → Except Crash Nat
  | fitting, [] => .ok fitting
  | fitting, item :: rest => do
    if ← fits item then
      if ← tooMany (fitting + 1) then return fitting + 1
      countFitting fits tooMany (fitting + 1) rest
    else countFitting fits tooMany fitting rest

/-- The keyword beside this one is violated. -/
def failsBeside (a : Assertion) (key : Text) : Outcome :=
  .one { a.violation with keyword := some key, limit := (a.beside? key).getD .null }

/-- The number of items that satisfy the schema lies between bounds, which are at least one and any number. -/
def containsBetween (a : Assertion) (ev : Evaluator) : Outcome :=
  a.ofArray fun items =>
    let tooMany (fitting : Nat) : Except Crash Bool :=
      a.comparedBeside "maxContains" items.length fun most => most.lt (.int fitting)
    let tooFew (fitting : Nat) : Except Crash Bool :=
      a.comparedBeside "minContains" 1 fun least => (Number.int fitting).lt least
    .ofExcept (a.position.adopt a.limit) fun _ =>
      .ofExcept (countFitting (ev.accepts a.position a.limit) tooMany 0 items) fun fitting =>
        .ofExcept (if fitting = 0 then .ok false else tooMany fitting) fun excess =>
          if excess then a.failsBeside "maxContains"
          else
            .ofExcept (tooFew fitting) fun lacking =>
              if !lacking then .clean else if fitting = 0 then a.fails else a.failsBeside "minContains"

def comparedCount (a : Assertion) (count : Nat) (bad : Number → Number → Bool) : Outcome :=
  match a.limit.rank? with
  | some limit => a.failsIf (bad (.int count) limit)
  | none => .crashed .type

def minItems (a : Assertion) : Outcome :=
  a.ofArray fun items => a.comparedCount items.length fun x y => x.lt y

def maxItems (a : Assertion) : Outcome :=
  a.ofArray fun items => a.comparedCount items.length fun x y => y.lt x

def uniqueItems (a : Assertion) : Outcome :=
  a.ofArray fun items => a.failsIf (isGiven a.limit && !Value.allDifferent items)

end Assertion

end Schema

end SchemaLint
