import SchemaLint.Lint.Run

/-!
# Linting files in any order

A run lints its files at the same time.  The bytes of a file and its settings are read independently of each other; once
both are there the document is started, and if it calls for a schema it is finished after the call was answered.  The
loads of all documents take their steps in between.

To read a file, to find the settings of a folder and to start a document are one step each.  Which of the possible steps
comes next is open, so that a history is any list of events; an event that is not possible changes nothing.
-/

namespace SchemaLint

open Json (Value)

/-- How far the linting of a file has come. -/
inductive Pipeline
  /-- What was read of the file, and what was found as its settings; none is what is not there yet. -/
  | reading (bytes : Option (Except Failed Bytes)) (settings : Option (Except Failed Settings))
  | waiting (document : Document) (v : Value) (reference : String) (call : Nat)
  | ended (outcome : Except Failed Verdict)

/-- Files that are linted at the same time, with what was said until now. -/
structure Pool where
  pipelines : List (Path × Pipeline)
  resolver : Resolver
  world : World
  said : Said

namespace Pipeline

/-- Whether nothing is left to be done about a file. -/
def hasEnded : Pipeline → Bool
  | ended _ => true
  | _ => false

/-- The verdict of a pipeline that has ended without a crash. -/
def verdict? : Pipeline → Option Verdict
  | ended outcome => outcome.toOption
  | _ => none

end Pipeline

namespace Pool

/-- What can be done about a file. -/
inductive Deed
  | read
  | configure
  /-- The document is started, or given up if the file or its settings could not be read. -/
  | start
  /-- The document is finished, if its call was answered. -/
  | finish

/-- What can happen while files are linted. -/
inductive Event
  | handle (number : Nat) (deed : Deed)
  | advance (flight : Nat)
  /-- The disk refuses the next step of a load that stores its schema. -/
  | refuse (flight : Nat)
  /-- The next thing is done that is due about a load. -/
  | callback (flight : Nat)

def start (files : List Path) (w : World) : Pool :=
  { pipelines := files.map fun file => (file, .reading none none)
    resolver := .fresh
    world := w
    said := .nothing }

/-- A pipeline has come to another state. -/
def move (p : Pool) (number : Nat) (file : Path) (pipeline : Pipeline) : Pool :=
  { p with pipelines := p.pipelines.set number (file, pipeline) }

def serve (s : Sources) (p : Pool) (action : Resolver.Action) : Pool :=
  let next := p.resolver.act s p.world action
  { p with resolver := next.1, world := next.2 }

/-- The document to start, once it is clear what it is or that there is none. -/
def ready? (d : Disk) (file : Path) :
    Option (Except Failed Bytes) → Option (Except Failed Settings) → Option (Except Failed Document)
  | some (.error failed), _ => some (.error failed)
  | _, some (.error failed) => some (.error failed)
  | some (.ok bytes), some (.ok settings) => some (Task.opened d file bytes settings)
  | _, _ => none

/-- A document is started; if it waits for a schema, it calls for it. -/
def begin (out : Output) (p : Pool) (number : Nat) (file : Path) (document : Except Failed Document) : Pool :=
  match Task.start out document with
  | .error failed => p.move number file (.ended (.error failed))
  | .ok (said, _, .ended v) => { p.move number file (.ended (.ok v)) with said := p.said.append said }
  | .ok (said, d, .waiting v reference) =>
    { p.move number file (.waiting d v reference p.resolver.calls.length) with
      resolver := p.resolver.call reference
      said := p.said.append said }

/-- Do something about a file, if it can be done now. -/
def handle (t : Task) (out : Output) (p : Pool) (number : Nat) (file : Path) (pipeline : Pipeline) : Deed → Pool
  | .read =>
    match pipeline with
    | .reading none settings => p.move number file (.reading (some (Task.bytesOf p.world.disk file)) settings)
    | _ => p
  | .configure =>
    match pipeline with
    | .reading bytes none => p.move number file (.reading bytes (some (t.settingsOf p.world.disk file)))
    | _ => p
  | .start =>
    match pipeline with
    | .reading bytes settings =>
      match ready? p.world.disk file bytes settings with
      | some document => p.begin out number file document
      | none => p
    | _ => p
  | .finish =>
    match pipeline with
    | .waiting d v reference call =>
      match (p.resolver.calls[call]?).bind Resolver.Call.answer with
      | some schema => p.move number file (.ended ((d.finish p.world.disk v reference schema).mapError .crash))
      | none => p
    | _ => p

def take (t : Task) (out : Output) (s : Sources) (p : Pool) : Event → Pool
  | .handle number deed =>
    match p.pipelines[number]? with
    | some (file, pipeline) => p.handle t out number file pipeline deed
    | none => p
  | .advance flight => p.serve s (.advance flight)
  | .refuse flight => p.serve s (.refuse flight)
  | .callback flight => p.serve s (.callback flight)

def after (t : Task) (out : Output) (s : Sources) (p : Pool) : List Event → Pool
  | [] => p
  | event :: rest => after t out s (p.take t out s event) rest

def isOver (p : Pool) : Bool :=
  p.pipelines.all fun entry => entry.2.hasEnded

/-- The verdicts in the order of the files, if all files are linted and none of them crashed. -/
def verdicts? (p : Pool) : Option (List Verdict) :=
  p.pipelines.mapM fun entry => entry.2.verdict?

end Pool

end SchemaLint
