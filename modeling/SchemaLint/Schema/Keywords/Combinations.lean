import SchemaLint.Schema.Assertion

/-!
# References and combinations

Keywords that apply other schemas to the whole value.  A keyword that offers a choice is violated as a whole, and what
the schemas of the choice found is not reported.
-/

namespace SchemaLint

namespace Schema

open Json

namespace Assertion

/-- The schema that was found applies in the scope in which it was found. -/
def applyTarget (a : Assertion) (ev : Evaluator) (target : Target) : Outcome :=
  ev.enter a.demand a.position (.ok target.scope) target.schema a.subject

def referenceText : Value → Except Crash (List Char)
  | .string s => .ok (Text.toString s).toList
  | _ => .error .attribute

/-- A reference that should be applied crashes in one way, wherever it ends. -/
def deadEndAsReference : Crash → Crash
  | .deadEnd _ => .reference
  | c => c

/-- The schema that the reference names applies. -/
def reference (a : Assertion) (rules : Rules) (ev : Evaluator) : Outcome :=
  .ofExcept (referenceText a.limit) fun ref =>
    .ofExcept ((Target.ofReference rules.retrieval a.position.scope ref).mapError deadEndAsReference) (a.applyTarget ev)

/-- The outermost schema with recursive anchors applies. -/
def recursiveReference (a : Assertion) (rules : Rules) (ev : Evaluator) : Outcome :=
  .ofExcept (Target.ofRecursion rules.retrieval a.position.scope) (a.applyTarget ev)

def allOf (a : Assertion) (ev : Evaluator) : Outcome :=
  .ofExcept (elements a.limit) (a.each fun schema => a.descend ev schema a.subject none)

/-- One schema applies, or each of a list. -/
def extended (a : Assertion) (ev : Evaluator) : Outcome :=
  match a.limit with
  | .object _ => a.descend ev a.limit a.subject none
  | _ => a.allOf ev

/-- The schemas behind the first one that is satisfied, if one is; each is applied to its end. -/
def behindFirst? (a : Assertion) (ev : Evaluator) : List Value → Except Crash (Option (List Value))
  | [] => .ok none
  | schema :: rest => do
    if (← (ev.descend .all a.position schema a.subject none).complete).isEmpty then return some rest
    behindFirst? a ev rest

def anyOf (a : Assertion) (ev : Evaluator) : Outcome :=
  a.failsWhen do
    let schemas ← elements a.limit
    return (← a.behindFirst? ev schemas).isNone

def oneOf (a : Assertion) (ev : Evaluator) : Outcome :=
  a.failsWhen do
    let schemas ← elements a.limit
    match ← a.behindFirst? ev schemas with
    | none => return true
    | some rest =>
      let others ← allWhere (fun schema => ev.accepts a.position schema a.subject) rest
      return !others.isEmpty

def negation (a : Assertion) (ev : Evaluator) : Outcome :=
  a.failsWhen (ev.accepts a.position a.limit a.subject)

/-- One of two schemas applies, depending on whether the condition is satisfied. -/
def conditional (a : Assertion) (ev : Evaluator) : Outcome :=
  .ofExcept (ev.accepts a.position a.limit a.subject) fun satisfied =>
    match a.beside? (if satisfied then "then" else "else") with
    | some schema => a.descend ev schema a.subject none
    | none => .clean

end Assertion

end Schema

end SchemaLint
