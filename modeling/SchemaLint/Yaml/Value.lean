import SchemaLint.Json.Value
import SchemaLint.Yaml.Cursor
import SchemaLint.Yaml.Node
import SchemaLint.Text.Base64
import SchemaLint.Text.Split

/-!
# YAML values

The value of a node follows from its kind.  Keys of mappings may be values of any kind that cannot grow; numbers that are
equal are the same key, and so are truth values and the numbers zero and one.  A later value of a key replaces an
earlier one in its place, and merged entries come before those of the mapping itself.
-/

namespace SchemaLint

namespace Yaml

/-- A value. -/
inductive Value
  | null
  | bool (b : Bool)
  | int (n : Int)
  | float (x : Binary64)
  | string (t : Text)
  /-- A date or a point in time, as it is written with the largest unit first. -/
  | date (text : String)
  | bytes (b : Bytes)
  | list (items : List Value)
  | pair (first second : Value)
  | mapping (entries : List (Value × Value))
  | set (items : List Value)
  /-- A value that holds itself. -/
  | endless

abbrev Entries := List (Value × Value)

namespace Value

/-- The number that a value counts as when it is a key. -/
def rank? : Value → Option Number
  | bool b => some (.int (if b then 1 else 0))
  | int n => some (.int n)
  | float x => some (.float x)
  | _ => none

def sameKey (v w : Value) : Bool :=
  match v, w with
  | null, null => true
  | string s, string t => s = t
  | date s, date t => s = t
  | bytes s, bytes t => s = t
  | v, w =>
    match v.rank?, w.rank? with
    | some x, some y => x.same y
    | _, _ => false

def isKey : Value → Bool
  | list _ | mapping _ | set _ | endless => false
  | _ => true

mutual

def ofJson : Json.Value → Value
  | .null => null
  | .bool b => bool b
  | .int n => int n
  | .float x => float x
  | .string s => string s
  | .array items => list (ofJsonItems items)
  | .object members => mapping (ofJsonMembers members)

def ofJsonItems : List Json.Value → List Value
  | [] => []
  | v :: rest => ofJson v :: ofJsonItems rest

def ofJsonMembers : List (Text × Json.Value) → List (Value × Value)
  | [] => []
  | (k, v) :: rest => (string k, ofJson v) :: ofJsonMembers rest

end

end Value

namespace Entries

/-- Set a key: its value is replaced where it stands, a new key comes last. -/
def put (key value : Value) : Entries → Entries
  | [] => [(key, value)]
  | (k, v) :: rest => if k.sameKey key then (k, value) :: rest else (k, v) :: put key value rest

/-- Set the keys of other entries one after the other. -/
def update (entries later : Entries) : Entries :=
  later.foldl (fun entries e => put e.1 e.2 entries) entries

/-- The value of a key that is a string. -/
def get? (key : String) : Entries → Option Value
  | [] => none
  | (k, v) :: rest => if k.sameKey (.string (Text.ofString key)) then some v else get? key rest

end Entries

/-! ## Scalars -/

/-- The text of a scalar.  A mapping with an entry that stands for it has the text of that entry. -/
def scalarText : Nat → Node → Except Fault Text
  | _, .scalar _ text => .ok text
  | fuel + 1, .mapping _ entries =>
    let standIn := entries.find? fun (key, _) =>
      match key with
      | .scalar .standIn _ => true
      | _ => false
    match standIn with
    | some (_, value) => scalarText fuel value
    | none => .error .malformed
  | _, _ => .error .malformed

def decimal (cs : List Char) : Except Fault Int :=
  if digitLimit < (cs.filter fun c => (Spelled.digitValue? c).isSome).length then .error .value
  else
    match Spelled.integer? cs with
    | some n => .ok n
    | none => .error .value

def based (base : Nat) (cs : List Char) : Except Fault Int :=
  let cs := strip cs
  let negative := cs.head? = some '-'
  let digits := dropSign cs
  let isDigit (c : Char) : Bool := isHexDigitBelow base c
  if digits.isEmpty || !digits.all isDigit then .error .value
  else
    let n := digits.foldl (fun n c => n * base + digitOf c) 0
    .ok (if negative then -(n : Int) else (n : Int))
where
  /-- The value of a digit in a base of up to sixteen. -/
  digitOf (c : Char) : Nat :=
    if c.isDigit then c.toNat - 48 else (c.toLower.toNat - 87)
  /-- Whether a character is a digit in a base of up to sixteen. -/
  isHexDigitBelow (base : Nat) (c : Char) : Bool :=
    (c.isDigit || ('a' ≤ c && c ≤ 'f') || ('A' ≤ c && c ≤ 'F')) && digitOf c < base

/-- An integer: in base two, eight, ten or sixteen, or in groups of base sixty. -/
def intValue (text : Text) : Except Fault Int := do
  let cs := (shapeOf text).filter (· != '_')
  let sign : Int := if cs.head? = some '-' then -1 else 1
  if cs.isEmpty then throw .noCharacters
  let cs := dropSign cs
  match cs with
  | ['0'] => return 0
  | '0' :: 'b' :: rest => return sign * (← based 2 rest)
  | '0' :: 'x' :: rest => return sign * (← based 16 rest)
  | '0' :: _ => return sign * (← based 8 cs)
  | [] => throw .noCharacters
  | _ =>
    if cs.contains ':' then
      let groups ← (splitChars ':' cs).mapM decimal
      return sign * groups.foldl (fun n d => n * 60 + d) 0
    else return sign * (← decimal cs)

/-- A fraction, or groups of base sixty that end in one. -/
def floatValue (text : Text) : Except Fault Binary64 := do
  let cs := ((shapeOf text).filter (· != '_')).map Char.toLower
  if cs.isEmpty then throw .noCharacters
  let negative := cs.head? = some '-'
  let signed (x : Binary64) : Binary64 := if negative then x.negate else x
  let cs := dropSign cs
  let read (cs : List Char) : Except Fault Binary64 :=
    match Spelled.fraction? cs with
    | some x => .ok x
    | none => .error .value
  if cs = ".inf".toList then return .infinite negative
  if cs = ".nan".toList then return .nan
  if cs.contains ':' then
    let groups ← (splitChars ':' cs).mapM read
    let sum := groups.reverse.foldl
      (fun (sum : Binary64 × Nat) x => (sum.1.add (x.scale sum.2), sum.2 * 60)) (.zero false, 1)
    return signed sum.1
  return signed (← read cs)

/-- The value of a scalar, if its kind is one of scalars. -/
def scalarValue? (fuel : Nat) (node : Node) : Kind → Option (Except Fault Value)
  | .null => some do
    let _ ← scalarText fuel node
    return .null
  | .bool => some do
    let text ← scalarText fuel node
    match truthWords.lookup (String.ofList ((shapeOf text).map Char.toLower)) with
    | some b => return .bool b
    | none => throw .unknownWord
  | .int => some do return .int (← intValue (← scalarText fuel node))
  | .float => some do return .float (← floatValue (← scalarText fuel node))
  | .binary => some do
    match Base64.read (shapeOf (← scalarText fuel node)) with
    | some b => return .bytes b
    | none => throw .malformed
  | .timestamp => some do
    match Moment.read? (shapeOf (← scalarText fuel node)) with
    | none => throw .noTime
    | some m =>
      match m.text? with
      | some text => return .date text
      | none => throw .value
  | .string => some do return .string (← scalarText fuel node)
  | .merge | .standIn | .unknown => some (.error .malformed)
  | .orderedPairs | .pairs | .set | .sequence | .mapping => none

/-! ## Mappings -/

def Node.kind : Node → Kind
  | scalar kind _ => kind
  | sequence kind _ => kind
  | mapping kind _ => kind
  | loop => .mapping

/-- The entries of a mapping with those of merged mappings in front.  A key that would stand for the mapping is an ordinary
key here. -/
def mergedEntries : Nat → List (Node × Node) → Except Fault (List (Node × Node))
  | 0, _ => .error .tooDeep
  | fuel + 1, entries => do
    let merges := entries.filter fun e => e.1.kind = .merge
    let own := (entries.filter fun e => e.1.kind != .merge).map fun (key, value) =>
      match key with
      | .scalar .standIn text => (Node.scalar .string text, value)
      | key => (key, value)
    let merged ← merges.mapM fun (_, value) =>
      match value with
      | .mapping _ inner => mergedEntries fuel inner
      | .sequence _ items => do
        let parts ← items.mapM fun item =>
          match item with
          | .mapping _ inner => mergedEntries fuel inner
          | _ => .error Fault.malformed
        return parts.reverse.flatten
      | _ => .error Fault.malformed
    return merged.flatten ++ own

/-- The pairs of a sequence of mappings of one entry each. -/
def pairNodes (items : List Node) : Except Fault (List (Node × Node)) :=
  items.mapM fun item =>
    match item with
    | .mapping _ [entry] => .ok entry
    | _ => .error .malformed

/-- A node inside of a collection, and whether it is a key. -/
structure Inner where
  isKey : Bool
  node : Node

def innerOf (keys : Bool) (entries : List (Node × Node)) : List Inner :=
  entries.flatMap fun e => [⟨keys, e.1⟩, ⟨false, e.2⟩]

/-- The nodes directly inside of a collection, in the order in which their values are made. -/
def innerNodes (fuel : Nat) : Node → Except Fault (List Inner)
  | .loop => .ok []
  | node =>
    match node.kind, node with
    | .sequence, .sequence _ items => .ok (items.map (Inner.mk false))
    | .orderedPairs, .sequence _ items | .pairs, .sequence _ items => (pairNodes items).map (innerOf false)
    | .mapping, .mapping _ entries | .set, .mapping _ entries => (mergedEntries fuel entries).map (innerOf true)
    | _, _ => .error .malformed

/-- The collections among nodes, none of which may be a key; the scalars among them have to have values. -/
def collectionsOf (fuel : Nat) : List Inner → Except Fault (List Node)
  | [] => .ok []
  | inner :: rest => do
    let here ←
      match scalarValue? fuel inner.node inner.node.kind with
      | some value => do
        let _ ← value
        pure []
      | none => if inner.isKey then throw .malformed else pure [inner.node]
    return here ++ (← collectionsOf fuel rest)

/-- Look for a node without a value, level by level. -/
def checkLevels (fuel : Nat) : Nat → List Node → Except Fault Unit
  | 0, _ => .error .tooDeep
  | depth + 1, nodes =>
    if nodes.isEmpty then .ok ()
    else do
      let next ← nodes.mapM fun node => do collectionsOf fuel (← innerNodes fuel node)
      checkLevels fuel depth next.flatten

def valueOf : Nat → Node → Except Fault Value
  | 0, _ => .error .tooDeep
  | _, .loop => .ok .endless
  | fuel + 1, node =>
    match scalarValue? fuel node node.kind with
    | some value => value
    | none => do
      let pairsOf (entries : List (Node × Node)) : Except Fault Entries :=
        entries.mapM fun (key, value) => do
          let key ← valueOf fuel key
          let value ← valueOf fuel value
          return (key, value)
      let entriesOf (entries : List (Node × Node)) : Except Fault Entries := do
        let pairs ← pairsOf (← mergedEntries fuel entries)
        if pairs.any fun e => !e.1.isKey then throw .malformed
        return Entries.update [] pairs
      match node.kind, node with
      | .sequence, .sequence _ items => return .list (← items.mapM (valueOf fuel))
      | .orderedPairs, .sequence _ items | .pairs, .sequence _ items =>
        return .list ((← pairsOf (← pairNodes items)).map fun e => .pair e.1 e.2)
      | .mapping, .mapping _ entries => return .mapping (← entriesOf entries)
      | .set, .mapping _ entries => return .set ((← entriesOf entries).map Prod.fst)
      | _, _ => throw .malformed

end Yaml

end SchemaLint
