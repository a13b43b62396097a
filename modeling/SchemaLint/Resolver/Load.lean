import SchemaLint.Cache.Writing
import SchemaLint.Http.Client
import SchemaLint.Validation

/-!
# Loading a schema

A local reference is read from its file in one step.  A remote one is looked for in the cache; if it is not there, it is
asked for over the network, and what came is stored before the load ends.  Each of these is a step of its own, between
which other loads may take theirs, and every access to disk or network happens within a single step.

Only a body that was read as a schema is stored, and storing never changes the outcome.
-/

namespace SchemaLint

open Json (Value)

/-- What loads act on. -/
structure World where
  disk : Disk
  network : Http.Network

/-- Where schemas are looked for. -/
structure Sources where
  homes : Homes
  cache : Cache

/-- How far the load of a schema has come. -/
inductive Load
  | begun
  | asking
  | storing (schema : Value) (body : Bytes) (writing : Cache.Writing)
  | ended (outcome : Except Failed Value)

namespace Load

/-- The number of steps that are left at most. -/
def left : Load → Nat
  | begun => 7
  | asking => 6
  | storing _ _ writing => writing.left + 1
  | ended _ => 0

/-- The kinds of content that a schema may come as, the best one first. -/
def schemaContent : String :=
  "application/schema+json, application/json;q=0.9, */*;q=0.1"

/-- A schema that cannot be had, and why. -/
def unavailable (reference reason : String) : Failed :=
  .error (.schemaUnavailable reason (some reference))

/-- The schema in the file that a reference names. -/
def ofFile (s : Sources) (reference : String) (d : Disk) : Except Failed Value := do
  let path ← (Reference.localPath s.homes reference).mapError .crash
  match d.readFile path.text with
  | .ok bytes => Schema.read reference (.bytes bytes)
  | .error .badCharacter => throw (.crash .value)
  | .error .missing => throw (unavailable reference s!"Schema not found: {path.text}")
  | .error fault =>
    let reason := fault.message path.text
    throw (unavailable reference s!"Failed to read schema {path.text}: {reason}")

/-- The schema in the cache.  An entry that is no schema counts as none. -/
def ofCache? (s : Sources) (reference : String) (d : Disk) : Option (Except Failed Value) :=
  match s.cache.read d reference with
  | none => none
  | some bytes =>
    match Schema.read reference (.bytes bytes) with
    | .error (.error _) => none
    | outcome => some outcome

/-- The schema that the network has under a reference, and the body it came in. -/
def fetch (reference : String) (n : Http.Network) : Except Failed (Value × Bytes) × Http.Network :=
  match Http.request "GET" reference schemaContent n with
  | (.error (.error e), n) => (.error (unavailable reference s!"Failed to fetch schema: {e.text}"), n)
  | (.error (.crash c), n) => (.error (.crash c), n)
  | (.ok reply, n) =>
    if reply.isOk then ((Schema.read reference (.bytes reply.body)).map fun schema => (schema, reply.body), n)
    else (.error (unavailable reference s!"Failed to fetch schema: HTTP {reply.status}"), n)

/-- How far a load has come whose schema is being stored. -/
def ofWriting (schema : Value) (body : Bytes) : Cache.Writing → Load
  | .ended _ => ended (.ok schema)
  | writing => storing schema body writing

def step (s : Sources) (reference : String) (w : World) : Load → Load × World
  | begun =>
    match Reference.isRemote reference with
    | .error c => (ended (.error (.crash c)), w)
    | .ok false => (ended (ofFile s reference w.disk), w)
    | .ok true =>
      match ofCache? s reference w.disk with
      | some outcome => (ended outcome, w)
      | none => (asking, w)
  | asking =>
    match fetch reference w.network with
    | (.error failed, n) => (ended (.error failed), { w with network := n })
    | (.ok (schema, body), n) => (storing schema body .folder, { w with network := n })
  | storing schema body writing =>
    let next := s.cache.writeStep reference body w.disk writing
    (ofWriting schema body next.1, { w with disk := next.2 })
  | ended outcome => (ended outcome, w)

/-- The disk refuses the next step of storing a schema.  The load ends with the schema all the same. -/
def refuse (w : World) : Load → Load × World
  | storing schema _ writing => (ended (.ok schema), { w with disk := Cache.abandon w.disk writing })
  | load => (load, w)

end Load

end SchemaLint
