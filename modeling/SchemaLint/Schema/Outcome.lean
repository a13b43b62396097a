import SchemaLint.LintError

/-!
# Outcomes

Applying a schema to a value finds violations one after the other and may crash on the way.  The violations found
before a crash count where only the first one is asked for: a schema whose first violation comes before a crash
is violated, and the crash is never reached.  An outcome therefore holds both, and how much of it is worked out
depends on the demand.
-/

namespace SchemaLint

namespace Schema

open Json

/-- One step from a value to a part of it. -/
inductive PathPart
  | key (k : Text)
  | index (i : Nat)
  deriving DecidableEq

/-- A rule that a value violates. -/
structure Violation where
  path : List PathPart
  /-- The keyword, or none for the schema that nothing satisfies. -/
  keyword : Option Text
  limit : Value
  subject : Value
  schema : Value

/-- How many violations are asked for. -/
inductive Demand
  | first
  | all
  deriving DecidableEq

/-- The violations found, and the crash that ended the search, if one did. -/
structure Outcome where
  found : List Violation
  crash : Option Crash

namespace Outcome

def clean : Outcome :=
  { found := [], crash := none }

def one (v : Violation) : Outcome :=
  { found := [v], crash := none }

def crashed (c : Crash) : Outcome :=
  { found := [], crash := some c }

/-- Whether the search ends here. -/
def ends (demand : Demand) (o : Outcome) : Bool :=
  o.crash.isSome || (demand = .first && !o.found.isEmpty)

def andThen (demand : Demand) (o : Outcome) (next : Unit → Outcome) : Outcome :=
  if o.ends demand then o
  else
    let rest := next ()
    { found := o.found ++ rest.found, crash := rest.crash }

def each {α : Type} (demand : Demand) (search : α → Outcome) : List α → Outcome
  | [] => clean
  | a :: rest => andThen demand (search a) fun _ => each demand search rest

def ofExcept {α : Type} (e : Except Crash α) (search : α → Outcome) : Outcome :=
  match e with
  | .ok a => search a
  | .error c => crashed c

/-- Put a step in front of the way to every violation. -/
def under (part : Option PathPart) (o : Outcome) : Outcome :=
  match part with
  | none => o
  | some part => { o with found := o.found.map fun v => { v with path := part :: v.path } }

/-- Whether nothing is violated, given the outcome of a search for the first violation. -/
def isClean (o : Outcome) : Except Crash Bool :=
  if !o.found.isEmpty then .ok false
  else
    match o.crash with
    | some c => .error c
    | none => .ok true

/-- All violations, unless the search crashed. -/
def complete (o : Outcome) : Except Crash (List Violation) :=
  match o.crash with
  | some c => .error c
  | none => .ok o.found

end Outcome

end Schema

end SchemaLint
