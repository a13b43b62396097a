import SchemaLint.Resolver.Basic

/-!
# Sessions

Resolvers that look in the same places share a cache, be they at work one after the other or at the same time.  Meanwhile
other things change the world: the network answers otherwise than before, and the disk is written by others.  A session
is whatever comes of a list of such events.
-/

namespace SchemaLint

/-- The load of a number, with its reference. -/
def Resolver.loadAt (r : Resolver) (number : Nat) : Option (String × Load) :=
  (r.flights[number]?).map fun f => (f.reference, f.load)

/-- Resolvers at work in one world. -/
structure Session where
  resolvers : List Resolver
  world : World

namespace Session

/-- What can happen in a session. -/
inductive Event
  | act (resolver : Nat) (action : Resolver.Action)
  | change (world : World)

def start (count : Nat) (w : World) : Session :=
  { resolvers := List.replicate count .fresh, world := w }

def take (s : Sources) (σ : Session) : Event → Session
  | .act number action =>
    match σ.resolvers[number]? with
    | none => σ
    | some r =>
      let next := r.act s σ.world action
      { resolvers := σ.resolvers.set number next.1, world := next.2 }
  | .change world => { σ with world }

def after (s : Sources) (σ : Session) : List Event → Session
  | [] => σ
  | event :: rest => after s (σ.take s event) rest

/-- The loads of all resolvers, each with its reference, by the numbers of resolver and load. -/
def loads (σ : Session) (key : Nat × Nat) : Option (String × Load) :=
  (σ.resolvers[key.1]?).bind fun r => r.loadAt key.2

end Session

end SchemaLint
