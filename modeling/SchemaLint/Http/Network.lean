import SchemaLint.Text.Encoding

/-!
# Networks

A network is known by how it answers.  For every address it has a row of answers, which are given one after the other;
the last one is given for ever.  An address without answers cannot be reached.  The network keeps the requests that it
was sent, because what was asked for is part of what a run does.
-/

namespace SchemaLint

namespace Http

/-- A request. -/
structure Request where
  method : String
  address : String
  accept : String
  deriving DecidableEq

/-- A reply. -/
structure Reply where
  status : Nat
  headers : List (String × String)
  body : Bytes

/-- What comes of a request. -/
inductive Answer
  | reply (r : Reply)
  | broken (reason : String)
  | late

/-- A network: the answers that are still to be given, and the requests that were sent, the last one first. -/
structure Network where
  answers : List (String × List Answer)
  sent : List Request

namespace Network

/-- The network in which nothing can be reached. -/
def silent : Network :=
  { answers := [], sent := [] }

/-- The answers that are left when one was given: the last one stays. -/
def leftOf : List Answer → List Answer
  | [] => []
  | [last] => [last]
  | _ :: rest => rest

def answerOf (n : Network) (address : String) : Answer :=
  match n.answers.lookup address with
  | some (answer :: _) => answer
  | _ => .broken "No route"

def send (n : Network) (r : Request) : Answer × Network :=
  (n.answerOf r.address,
    { answers := n.answers.map fun (address, row) => if address = r.address then (address, leftOf row) else (address, row)
      sent := r :: n.sent })

end Network

end Http

end SchemaLint
