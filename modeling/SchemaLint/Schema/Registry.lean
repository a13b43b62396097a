import SchemaLint.Schema.Resource
import SchemaLint.Json.Sorted
import SchemaLint.Schema.Meta.Draft3
import SchemaLint.Schema.Meta.Draft4
import SchemaLint.Schema.Meta.Draft6
import SchemaLint.Schema.Meta.Draft7
import SchemaLint.Schema.Meta.Draft2019
import SchemaLint.Schema.Meta.Draft2020

/-!
# Following references

A reference is followed from a scope: what is known there, the name of the resource that holds the reference and the
names of those that were entered before, which dynamic references look through.  At first only the schema in use and
the schemas for schemas are known.  A name or an anchor that is not known has all subschemas looked for, and a name that
is still unknown is retrieved.  What was found on the way to a schema is known where that schema is evaluated, and nowhere
else; a subschema that takes the name of something known takes its place from there on.
-/

namespace SchemaLint

namespace Schema

open Json

/-- A resource under its name. -/
structure Named where
  name : List Char
  resource : Resource

/-- A resource under an anchor. -/
structure Anchored where
  name : List Char
  anchor : Resource.Anchor
  resource : Resource

/-- The resources and anchors of a schema in the order in which they are found; later ones win. -/
structure Catalog where
  named : List Named
  anchored : List Anchored

def Catalog.append (c d : Catalog) : Catalog :=
  { named := c.named ++ d.named, anchored := c.anchored ++ d.anchored }

instance : Append Catalog := ⟨Catalog.append⟩

def joinName (base ref : List Char) : Except Crash (List Char) :=
  match Uri.join? base ref with
  | some joined => .ok joined
  | none => .error .value

namespace Catalog

/-- The catalog of a schema; `fuel` bounds the nesting of subschemas. -/
def ofResource : Nat → List Char → Resource → Except Crash Catalog
  | 0, _, _ => .ok ⟨[], []⟩
  | fuel + 1, base, r => do
    let id ← r.id?
    let base ←
      match id with
      | some id => joinName base id
      | none => pure base
    let own : Catalog :=
      { named := if id.isSome then [⟨base, r⟩] else []
        anchored := (← r.anchors).map fun anchor => ⟨base, anchor, r⟩ }
    let children ← (← r.subschemas).mapM (Resource.child r.dialect)
    children.reverse.foldlM (fun catalog c => do return catalog ++ (← ofResource fuel base c)) own

def resource? (c : Catalog) (name : List Char) : Option Resource :=
  (c.named.reverse.find? fun n => n.name = name).map Named.resource

def anchored? (c : Catalog) (name anchor : List Char) : Option Anchored :=
  c.anchored.reverse.find? fun a => a.name = name && a.anchor.name = anchor

end Catalog

/-- The schemas for schemas. -/
def bundled : List Named :=
  let older (d : Dialect) (contents : Value) : Named := ⟨d.id.render, ⟨d, contents⟩⟩
  let newer (d : Dialect) (date : String) (parts : List (String × Value)) : List Named :=
    parts.map fun (part, contents) => ⟨(Dialect.newerId date part).render, ⟨d, contents⟩⟩
  [older .draft3 Meta.draft3, older .draft4 Meta.draft4, older .draft6 Meta.draft6, older .draft7 Meta.draft7] ++
    newer .draft2019 "2019-09" Meta.Draft2019.parts ++ newer .draft2020 "2020-12" Meta.Draft2020.parts

/-- The schema that the schemas of a draft have to satisfy. -/
def metaSchema : Dialect → Value
  | .draft3 => Meta.draft3
  | .draft4 => Meta.draft4
  | .draft6 => Meta.draft6
  | .draft7 => Meta.draft7
  | .draft2019 => Meta.Draft2019.schema
  | .draft2020 => Meta.Draft2020.schema

/-- The anchors of the schemas for schemas, all of which stand at the top of a part. -/
def bundledAnchors : List Anchored :=
  bundled.flatMap fun n =>
    match n.resource.anchors with
    | .ok anchors => anchors.map fun anchor => ⟨n.name, anchor, n.resource⟩
    | .error _ => []

/-- What reads the contents of a resource that no schema at hand names; none if they cannot be had. -/
abbrev Retrieval := List Char → Option Value

/-- What references can reach without retrieving anything. -/
structure Registry where
  /-- What is known besides the schemas for schemas. -/
  known : Catalog
  /-- What is known once subschemas have been looked for. -/
  complete : Except Crash Catalog

namespace Registry

def add (known : Catalog) (name : List Char) (r : Resource) : Registry :=
  let known : Catalog := { known with named := known.named ++ [⟨name, r⟩] }
  { known
    complete := (Catalog.ofResource (r.contents.depth + 1) name r).map fun found => known ++ found }

/-- The registry once subschemas have been looked for. -/
def completed (registry : Registry) : Except Crash Registry := do
  let known ← registry.complete
  return { known, complete := .ok known }

def resource? (registry : Registry) (name : List Char) : Option Resource :=
  match registry.known.resource? name with
  | some r => some r
  | none => (bundled.find? fun n => n.name = name).map Named.resource

def anchored? (registry : Registry) (name anchor : List Char) : Option Anchored :=
  match registry.known.anchored? name anchor with
  | some a => some a
  | none => bundledAnchors.find? fun a => a.name = name && a.anchor.name = anchor

/-- The resource of a name, and what is known once it was found. -/
def retrieve (fetch : Retrieval) (registry : Registry) (name : List Char) : Except Crash (Registry × Resource) :=
  match registry.resource? name with
  | some r => .ok (registry, r)
  | none => do
    let completed ← registry.completed
    match completed.resource? name with
    | some r => return (completed, r)
    | none =>
      match (fetch name).map (Resource.child .draft2020) with
      | some (.ok r) => return (add completed.known (Resource.dropHashes name) r, r)
      | _ => throw (.deadEnd .name)

/-- The schema of an anchor, and what is known once it was found. -/
def anchor (registry : Registry) (name anchor : List Char) : Except Crash (Registry × Anchored) :=
  match registry.anchored? name anchor with
  | some a => .ok (registry, a)
  | none => do
    let completed ← registry.completed
    match completed.anchored? name anchor with
    | some a => return (completed, a)
    | none =>
      match registry.resource? (Resource.dropHashes name) with
      | none => throw .resource
      | some r =>
        let id ← r.id?
        match id.bind fun id => completed.anchored? id anchor with
        | some a => return (completed, a)
        | none => throw (.deadEnd (if anchor.contains '/' then .badAnchor else .anchor))

end Registry

/-- Where in the schemas an evaluation stands. -/
structure Scope where
  registry : Registry
  /-- The name of the current resource; empty if it has none. -/
  base : List Char
  /-- The resources entered before, the latest first. -/
  outer : List (List Char)

namespace Scope

/-- The scope in which a schema is entered. -/
def ofSchema (d : Dialect) (schema : Value) : Except Crash Scope := do
  let r : Resource := ⟨d, schema⟩
  let base := (← r.id?).getD []
  return { registry := .add ⟨[], []⟩ base r, base, outer := [] }

def enter (s : Scope) (registry : Registry) (name : List Char) : Scope :=
  { registry, base := name
    outer := if !s.base.isEmpty && (s.outer.isEmpty || name != s.base) then s.base :: s.outer else s.outer }

/-- Go on in a subschema, which may name itself. -/
def inside (s : Scope) (r : Resource) : Except Crash Scope := do
  match ← r.id? with
  | some id => return { s with base := ← joinName s.base id }
  | none => return s

end Scope

/-- A schema that was found and the scope in which it is to be evaluated. -/
structure Target where
  schema : Value
  scope : Scope

namespace Target

/-- Undo the escapes of a step of a pointer. -/
def unescape : List Char → List Char
  | '~' :: '1' :: rest => '/' :: unescape rest
  | '~' :: '0' :: rest => '~' :: unescape rest
  | c :: rest => c :: unescape rest
  | [] => []

/-- One step into a value; a negative place counts from the end. -/
def step (contents : Value) (segment : List Char) : Except Crash (Value × Resource.Segment) :=
  let index (size : Nat) (item? : Nat → Option Value) : Except Crash (Value × Resource.Segment) :=
    match Spelled.integer? segment with
    | none => .error .value
    | some n =>
      let place := if n < 0 then n + size else n
      if place < 0 then .error (.deadEnd .pointer)
      else
        match item? place.toNat with
        | some v => .ok (v, .index n)
        | none => .error (.deadEnd .pointer)
  match contents with
  | .array items => index items.length fun i => items[i]?
  | .string s => index s.length fun i => (s[i]?).map fun c => .string [c]
  | .object members =>
    let key := String.ofList (unescape segment)
    match Members.get? key members with
    | some v => .ok (v, .key key)
    | none => .error (.deadEnd .pointer)
  | _ => .error .type

/-- Follow the steps of a pointer; `taken` are those since the last schema that was entered. -/
def follow (d : Dialect) (contents : Value) (scope : Scope) (taken : List Resource.Segment) :
    List (List Char) → Except Crash Target
  | [] => .ok ⟨contents, scope⟩
  | segment :: rest => do
    let (next, step) ← step contents segment
    let taken := taken ++ [step]
    if Resource.leadsToSchema d next taken then
      let entered := (← Resource.id? ⟨d, next⟩).isSome
      follow d next (← scope.inside ⟨d, next⟩) (if entered then [] else taken) rest
    else follow d next scope taken rest

def pointer (r : Resource) (scope : Scope) (fragment : List Char) : Except Crash Target :=
  follow r.dialect r.contents scope [] (splitChars '/' (Percent.decode (fragment.drop 1)))

/-- The schema of an anchor; a dynamic one is replaced by the outermost dynamic anchor of its name. -/
def ofAnchor (scope : Scope) (found : Anchored) : Except Crash Target := do
  if found.anchor.dynamic then
    let last ← scope.outer.foldlM (fun (last : Resource) name =>
      match scope.registry.anchor name found.anchor.name with
      | .ok (_, a) => .ok (if a.anchor.dynamic then a.resource else last)
      | .error (.deadEnd .anchor) => .ok last
      | .error c => .error c) found.resource
    return ⟨last.contents, ← scope.inside last⟩
  else return ⟨found.resource.contents, scope⟩

def ofReference (fetch : Retrieval) (scope : Scope) (ref : List Char) : Except Crash Target := do
  let (name, fragment) ←
    match ref with
    | '#' :: fragment => pure (scope.base, fragment)
    | _ =>
      match Uri.defragment? (← joinName scope.base ref) with
      | some parts => pure parts
      | none => throw .value
  let (registry, resource) ← scope.registry.retrieve fetch name
  match fragment with
  | [] => return ⟨resource.contents, scope.enter registry name⟩
  | '/' :: _ => pointer resource (scope.enter registry name) fragment
  | _ =>
    let (registry, found) ← registry.anchor name fragment
    ofAnchor (scope.enter registry name) found

def isRecursive (schema : Value) : Bool :=
  match schema.get? "$recursiveAnchor" with
  | some v => isGiven v
  | none => false

/-- Go outwards as long as the schemas have recursive anchors. -/
def outermost (fetch : Retrieval) (scope : Scope) (last : Target) : List (List Char) → Except Crash Target
  | [] => .ok last
  | name :: rest => do
    let next ← ofReference fetch scope name
    if isRecursive next.schema then outermost fetch scope next rest else return last

/-- The schema that a recursive reference means. -/
def ofRecursion (fetch : Retrieval) (scope : Scope) : Except Crash Target := do
  let here ← ofReference fetch scope ['#']
  if isRecursive here.schema then outermost fetch scope here scope.outer else return here

end Target

end Schema

end SchemaLint
