import SchemaLint.Resolver.Load

/-!
# Resolving references

A resolver keeps the schemas that were loaded and the loads that have not been settled.  A call for a reference begins a
load only if there is neither a schema nor a load for it yet, so that calls at the same time share one load and later
ones need none.  A load that failed is forgotten when it is settled: the next call tries again.

When a load ends, what is due does not happen at once: first the load is settled, and then its callers are woken in the
order in which they came, but other actions may come in between.  A call that comes after the end and before the load is
settled still finds the load and takes its outcome without waiting.  A history is therefore a list of actions, each of
which is atomic, and any list is one.
-/

namespace SchemaLint

open Json (Value)

namespace Resolver

/-- What is to be done once a load has ended. -/
inductive Callback
  /-- Keep the schema if there is one, and forget the load. -/
  | settle
  | wake (call : Nat)
  deriving DecidableEq

/-- A load that was begun, with what is still to be done about it in the order in which it was asked for. -/
structure Flight where
  reference : String
  load : Load
  due : List Callback

/-- The outcome of a load that has ended. -/
def Flight.outcome? (f : Flight) : Option (Except Failed Value) :=
  match f.load with
  | .ended outcome => some outcome
  | _ => none

/-- A call for a reference. -/
structure Call where
  reference : String
  /-- The load whose outcome is the answer; none if the schema was known. -/
  flight : Option Nat
  /-- What the call returned; none while it waits. -/
  answer : Option (Except Failed Value)

end Resolver

/-- A resolver: the schemas that are known, the loads that have not been settled by their references, and all loads and
calls by their numbers. -/
structure Resolver where
  known : List (String × Value)
  pending : List (String × Nat)
  flights : List Resolver.Flight
  calls : List Resolver.Call

namespace Resolver

/-- A resolver that knows nothing yet. -/
def fresh : Resolver :=
  { known := [], pending := [], flights := [], calls := [] }

def depart (r : Resolver) (reference : String) : Resolver :=
  { r with
    pending := (reference, r.flights.length) :: r.pending
    flights := r.flights ++ [⟨reference, .begun, [.settle, .wake r.calls.length]⟩]
    calls := r.calls ++ [⟨reference, some r.flights.length, none⟩] }

/-- Wait for a load, or take its outcome if it has ended. -/
def join (r : Resolver) (reference : String) (number : Nat) (f : Flight) : Resolver :=
  match f.outcome? with
  | some outcome => { r with calls := r.calls ++ [⟨reference, some number, some outcome⟩] }
  | none =>
    { r with
      flights := r.flights.set number { f with due := f.due ++ [.wake r.calls.length] }
      calls := r.calls ++ [⟨reference, some number, none⟩] }

def call (r : Resolver) (reference : String) : Resolver :=
  match r.known.lookup reference with
  | some schema => { r with calls := r.calls ++ [⟨reference, none, some (.ok schema)⟩] }
  | none =>
    match (r.pending.lookup reference).bind fun number => (r.flights[number]?).map fun f => (number, f) with
    | some (number, f) => r.join reference number f
    | none => r.depart reference

/-- Settle a load: it is taken away, and its schema is kept if it has one. -/
def settle (r : Resolver) (reference : String) (outcome : Except Failed Value) : Resolver :=
  { r with
    pending := r.pending.filter fun entry => entry.1 != reference
    known :=
      match outcome with
      | .ok schema => (reference, schema) :: r.known
      | .error _ => r.known }

def answer (r : Resolver) (number : Nat) (outcome : Except Failed Value) : Resolver :=
  { r with calls := r.calls.modify number fun call => { call with answer := some outcome } }

/-- Do the next thing that is due about a load, if it has ended. -/
def callback (r : Resolver) (number : Nat) : Resolver :=
  match r.flights[number]? with
  | none => r
  | some f =>
    match f.outcome?, f.due with
    | some outcome, next :: due =>
      let rest := { r with flights := r.flights.set number { f with due } }
      match next with
      | .settle => rest.settle f.reference outcome
      | .wake call => rest.answer call outcome
    | _, _ => r

/-- Change how far a load has come. -/
def progress (r : Resolver) (w : World) (number : Nat) (step : String -> Load -> Load × World) : Resolver × World :=
  match r.flights[number]? with
  | none => (r, w)
  | some f =>
    let next := step f.reference f.load
    ({ r with flights := r.flights.set number { f with load := next.1 } }, next.2)

/-- What can happen to a resolver. -/
inductive Action
  | call (reference : String)
  | advance (flight : Nat)
  /-- The disk refuses the next step of a load that stores its schema. -/
  | refuse (flight : Nat)
  /-- The next thing is done that is due about a load. -/
  | callback (flight : Nat)
  deriving DecidableEq

/-- What an action does to a resolver and to the world. -/
def act (s : Sources) (r : Resolver) (w : World) : Action -> Resolver × World
  | .call reference => (r.call reference, w)
  | .advance number => r.progress w number fun reference load => load.step s reference w
  | .refuse number => r.progress w number fun _ load => load.refuse w
  | .callback number => (r.callback number, w)

/-- The actions of a list, one after the other. -/
def run (s : Sources) (r : Resolver) (w : World) : List Action -> Resolver × World
  | [] => (r, w)
  | action :: rest =>
    let next := r.act s w action
    run s next.1 next.2 rest

/-- The actions that bring one load after the other to its end, and then do all that is due. -/
def inTurn (r : Resolver) : List Action :=
  let loads := r.flights.zipIdx.flatMap fun (f, number) => List.replicate f.load.left (Action.advance number)
  let callbacks := r.flights.zipIdx.flatMap fun (f, number) => List.replicate f.due.length (Action.callback number)
  loads ++ callbacks

/-- Resolve references whose calls come together: all calls come before the first step, and all loads are settled at the
end. -/
def resolveAll (s : Sources) (r : Resolver) (w : World) (references : List String) :
    List (Except Failed Value) × Resolver × World :=
  let called := references.foldl call r
  let (done, w) := called.run s w called.inTurn
  let outcomes := (done.calls.drop r.calls.length).map fun call => call.answer.getD (.error (.crash .runtime))
  (outcomes, done, w)

def resolve (s : Sources) (r : Resolver) (w : World) (reference : String) : Except Failed Value × Resolver × World :=
  let (outcomes, r, w) := r.resolveAll s w [reference]
  (outcomes.headD (.error (.crash .runtime)), r, w)

end Resolver

end SchemaLint
