import SchemaLint.Schema.Assertion
import SchemaLint.Schema.Types

/-!
# Keywords about single values

Types, constants, bounds, multiples, lengths, patterns and formats.  A keyword about one type of value is satisfied by
the values of every other type.
-/

namespace SchemaLint

namespace Schema

open Json

namespace Assertion

/-! ## Types and constants -/

/-- Whether a value is of the type that another value names. -/
def isOfType (d : Dialect) (subject : Value) : Value → Except Crash Bool
  | .string name =>
    match SimpleType.ofName? d name with
    | some type => .ok (type.holds d subject)
    | none => .error .unknownType
  | .array _ | .object _ => .error .type
  | _ => .error .unknownType

def type (a : Assertion) : Outcome :=
  a.failsWhen do
    let types ← listOf a.limit
    return !(← anyWhere (isOfType a.position.dialect a.subject) types)

/-- Whether one of some types and schemas fits; every schema is applied to its end. -/
def fitsTypeOrSchema (a : Assertion) (ev : Evaluator) : List Value → Except Crash Bool
  | [] => .ok false
  | type :: rest =>
    match type with
    | .string name =>
      if name = Text.ofString "any" then .ok true
      else do
        if ← isOfType a.position.dialect a.subject type then return true
        fitsTypeOrSchema a ev rest
    | .object _ => do
      if (← (ev.descend .all a.position type a.subject none).complete).isEmpty then return true
      fitsTypeOrSchema a ev rest
    | _ => isOfType a.position.dialect a.subject type

/-- The value has one of the types or satisfies one of the schemas. -/
def typeOrSchema (a : Assertion) (ev : Evaluator) : Outcome :=
  a.failsWhen do
    let types ← listOf a.limit
    return !(← fitsTypeOrSchema a ev types)

/-- The value has none of the types and satisfies none of the schemas; each one that it does is a violation. -/
def disallow (a : Assertion) (ev : Evaluator) : Outcome :=
  .ofExcept (listOf a.limit) fun types =>
    a.each
      (fun type => a.failsWhen (ev.accepts a.position (.object [(Text.ofString "type", .array [type])]) a.subject))
      types

def enum (a : Assertion) : Outcome :=
  a.failsWhen do
    let constants ← elements a.limit
    return !constants.any fun constant => constant.same a.subject

def const (a : Assertion) : Outcome :=
  a.failsIf (!a.subject.same a.limit)

/-! ## Numbers -/

/-- Compare a number with the limit, for which a truth value counts as zero or one. -/
def compared (a : Assertion) (x : Number) (bad : Number → Number → Bool) : Outcome :=
  match a.limit.rank? with
  | some y => a.failsIf (bad x y)
  | none => .crashed .type

def ofNumber (a : Assertion) (check : Number → Outcome) : Outcome :=
  match a.subject.number? with
  | some x => check x
  | none => .clean

def minimum (a : Assertion) : Outcome :=
  a.ofNumber fun x => a.compared x fun x y => x.lt y

def maximum (a : Assertion) : Outcome :=
  a.ofNumber fun x => a.compared x fun x y => y.lt x

def exclusiveMinimum (a : Assertion) : Outcome :=
  a.ofNumber fun x => a.compared x fun x y => x.le y

def exclusiveMaximum (a : Assertion) : Outcome :=
  a.ofNumber fun x => a.compared x fun x y => y.le x

/-- Whether the keyword beside this one makes the bound exclusive. -/
def isExclusive (a : Assertion) (key : Text) : Bool :=
  match a.beside? key with
  | some v => isGiven v
  | none => false

/-- The number is at least the limit, or greater if the bound is exclusive. -/
def minimumOrAbove (a : Assertion) : Outcome :=
  if a.isExclusive "exclusiveMinimum" then a.exclusiveMinimum else a.minimum

/-- The number is at most the limit, or less if the bound is exclusive. -/
def maximumOrBelow (a : Assertion) : Outcome :=
  if a.isExclusive "exclusiveMaximum" then a.exclusiveMaximum else a.maximum

def multipleOf (a : Assertion) : Outcome :=
  a.ofNumber fun x =>
    match a.limit.rank? with
    | some divisor => a.failsWhen (failsMultiple x divisor)
    | none => .crashed .type

/-! ## Texts -/

/-- The text has at least so many code points. -/
def minLength (a : Assertion) : Outcome :=
  match a.subject with
  | .string s => a.compared (.int s.length) fun x y => x.lt y
  | _ => .clean

/-- The text has at most so many code points. -/
def maxLength (a : Assertion) : Outcome :=
  match a.subject with
  | .string s => a.compared (.int s.length) fun x y => y.lt x
  | _ => .clean

def pattern (a : Assertion) : Outcome :=
  match a.subject with
  | .string s => a.failsWhen ((searchesValue a.limit s).map not)
  | _ => .clean

/-- The text has the format; the only format that is asserted is that of patterns. -/
def format (a : Assertion) (rules : Rules) : Outcome :=
  if rules.formats then
    match a.limit, a.subject with
    | .string name, .string s =>
      if name = Text.ofString "regex" then
        match Pattern.read s with
        | .ok _ => .clean
        | .error .malformed => a.fails
        | .error fault => .crashed (patternCrash fault)
      else .clean
    | _, _ => .clean
  else .clean

end Assertion

end Schema

end SchemaLint
