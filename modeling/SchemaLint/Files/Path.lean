import SchemaLint.Text.Split

/-!
# Paths

A path is a beginning and a list of names.  Reading a path drops empty names and single dots, which lead nowhere;
double dots stay, because what they lead to depends on links.  Exactly two slashes at the beginning are kept.
-/

namespace SchemaLint

/-- Where a path begins. -/
inductive Path.Start
  | here
  | root
  | doubleRoot
  deriving DecidableEq

/-- A path. -/
structure Path where
  start : Path.Start
  parts : List String
  deriving DecidableEq

namespace Path

def Start.ofChars : List Char → Start
  | '/' :: '/' :: '/' :: _ => root
  | '/' :: '/' :: _ => doubleRoot
  | '/' :: _ => root
  | _ => here

def Start.text : Start → String
  | here => ""
  | root => "/"
  | doubleRoot => "//"

/-- Whether a name counts as part of a path. -/
def isPart (name : List Char) : Bool :=
  !name.isEmpty && name != ['.']

def ofChars (cs : List Char) : Path :=
  { start := .ofChars cs, parts := ((splitChars '/' cs).filter isPart).map String.ofList }

def ofString (s : String) : Path :=
  ofChars s.toList

/-- Write a path; one without beginning and names is written as a dot. -/
def text (p : Path) : String :=
  match p.start, p.parts with
  | .here, [] => "."
  | start, parts => start.text ++ String.intercalate "/" parts

/-- A path seen from another one; one that begins at the root is seen the same from everywhere. -/
def join (base p : Path) : Path :=
  match p.start with
  | .here => { base with parts := base.parts ++ p.parts }
  | _ => p

def child (p : Path) (name : String) : Path :=
  { p with parts := p.parts ++ [name] }

def parent (p : Path) : Path :=
  { p with parts := p.parts.dropLast }

/-- The folders that contain a path, the outermost first, and the path itself. -/
def lineage (p : Path) : List Path :=
  (List.range (p.parts.length + 1)).map fun n => { p with parts := p.parts.take n }

end Path

end SchemaLint
