import SchemaLint.Yaml.Kind

/-!
# Nodes

The tokens of a document are read into one tree.  An alias is replaced by the node that has its anchor; one that stands
inside of that very node cannot be, and is a node of its own.  A fault behind the tokens counts only if more of them are
needed.
-/

namespace SchemaLint

namespace Yaml

/-- A node. -/
inductive Node
  | scalar (kind : Kind) (text : Text)
  | sequence (kind : Kind) (items : List Node)
  | mapping (kind : Kind) (entries : List (Node × Node))
  /-- An alias of a node around it. -/
  | loop

namespace Node

/-- A plain scalar without characters. -/
def empty : Node := scalar .null []

end Node

/-- The tokens that are left, and what is known so far. -/
structure NodeState where
  tokens : List Token
  /-- What is wrong behind them. -/
  fault : Option Fault
  anchors : List (String × Node)
  handles : List (String × String)

namespace NodeState

/-- Ask for the next token, if it is not the end of all. -/
def need (s : NodeState) : Except Fault Unit :=
  match s.tokens, s.fault with
  | [], some fault => .error fault
  | _, _ => .ok ()

def isAt (s : NodeState) (ts : List Token) : Bool :=
  match s.tokens with
  | t :: _ => ts.contains t
  | [] => false

def drop (s : NodeState) : NodeState :=
  { s with tokens := s.tokens.drop 1 }

/-- The state behind a comma, which has to come next. -/
def afterComma (s : NodeState) : Except Fault NodeState :=
  match s.tokens with
  | .flowEntry :: _ => .ok s.drop
  | _ => .error .malformed

def anchor? (s : NodeState) : Option String × NodeState :=
  match s.tokens with
  | .anchor name :: _ => (some name, s.drop)
  | _ => (none, s)

def tag? (s : NodeState) : Option TagMark × NodeState :=
  match s.tokens with
  | .tag t :: _ => (some t, s.drop)
  | _ => (none, s)

def properties (s : NodeState) : Except Fault (Option String × Option TagMark × NodeState) := do
  match s.anchor? with
  | (some name, s) =>
    s.need
    let (tag, s) := s.tag?
    return (some name, tag, s)
  | (none, s) =>
    match s.tag? with
    | (some tag, s) =>
      s.need
      let (name, s) := s.anchor?
      return (name, some tag, s)
    | (none, s) => return (none, none, s)

def fullName (s : NodeState) (t : TagMark) : Except Fault String :=
  match t.handle with
  | none => .ok t.name
  | some handle =>
    match s.handles.lookup handle with
    | some start => .ok (start ++ t.name)
    | none => .error .malformed

def note (s : NodeState) (anchor : Option String) (node : Node) : NodeState :=
  match anchor with
  | some name => { s with anchors := (name, node) :: s.anchors }
  | none => s

end NodeState

/-- The characters of a text without its lone surrogates, for telling its shape. -/
def shapeOf (t : Text) : List Char :=
  t.map CodePoint.toChar

/-- The kind of a scalar: what its tag says, or else its shape if it is plain. -/
def scalarKind (tag : Option String) (text : Text) (plain : Bool) : Kind :=
  match tag with
  | some "!" => .ofPlain (shapeOf text)
  | some tag => .ofTag tag
  | none => if plain then .ofPlain (shapeOf text) else .string

/-- The kind of a collection: what its tag says, or else the usual one. -/
def collectionKind (tag : Option String) (usual : Kind) : Kind :=
  match tag with
  | none | some "!" => usual
  | some tag => .ofTag tag

mutual

/-- A node.  Blocks are read only where they may stand; a sequence without indentation only behind a key.  `levels` bounds the
nesting. -/
def readNode : Nat → Bool → Bool → Nat → NodeState → Except Fault (Node × NodeState)
  | 0, _, _, _, _ => .error .malformed
  | fuel + 1, blocks, loose, levels, s =>
    match levels with
    | 0 => .error .tooDeep
    | levels + 1 => do
      s.need
      match s.tokens with
      | .alias name :: _ =>
        match s.anchors.lookup name with
        | some node => return (node, s.drop)
        | none => throw .malformed
      | _ =>
        let (anchor, mark, s) ← s.properties
        let tag ←
          match mark with
          | some mark => (s.fullName mark).map some
          | none => pure none
        s.need
        if anchor.any fun name => (s.anchors.lookup name).isSome then throw .malformed
        let collect (kind : Kind → Node) (usual : Kind) : Node := kind (collectionKind tag usual)
        let noted (node : Node) (s : NodeState) : Except Fault (Node × NodeState) := .ok (node, s.note anchor node)
        let inside := s.note anchor .loop
        match s.tokens with
        | .scalar text plain :: _ => noted (.scalar (scalarKind tag text plain) text) s.drop
        | .flowSequence :: _ => do
          let (items, s) ← readFlowItems fuel true levels inside.drop
          noted (collect (.sequence · items) .sequence) s
        | .flowMapping :: _ => do
          let (entries, s) ← readFlowEntries fuel true levels inside.drop
          noted (collect (.mapping · entries) .mapping) s
        | .blockEntry :: _ =>
          if loose then do
            let (items, s) ← readLooseItems fuel levels inside
            noted (collect (.sequence · items) .sequence) s
          else if anchor.isSome || tag.isSome then noted (.scalar (scalarKind tag [] true) []) s
          else throw .malformed
        | .blockSequence :: _ =>
          if blocks then do
            let (items, s) ← readBlockItems fuel levels inside.drop
            noted (collect (.sequence · items) .sequence) s
          else if anchor.isSome || tag.isSome then noted (.scalar (scalarKind tag [] true) []) s
          else throw .malformed
        | .blockMapping :: _ =>
          if blocks then do
            let (entries, s) ← readBlockEntries fuel levels inside.drop
            noted (collect (.mapping · entries) .mapping) s
          else if anchor.isSome || tag.isSome then noted (.scalar (scalarKind tag [] true) []) s
          else throw .malformed
        | _ =>
          if anchor.isSome || tag.isSome then noted (.scalar (scalarKind tag [] true) []) s else throw .malformed

/-- A node, or an empty one if one of some tokens comes first. -/
def readUnless : Nat → List Token → Bool → Bool → Nat → NodeState → Except Fault (Node × NodeState)
  | 0, _, _, _, _, _ => .error .malformed
  | fuel + 1, ends, blocks, loose, levels, s => do
    s.need
    if s.isAt ends then return (.empty, s) else readNode fuel blocks loose levels s

def readBlockItems : Nat → Nat → NodeState → Except Fault (List Node × NodeState)
  | 0, _, _ => .error .malformed
  | fuel + 1, levels, s => do
    s.need
    match s.tokens with
    | .blockEntry :: _ =>
      let (item, s) ← readUnless fuel [.blockEntry, .blockEnd] true false levels s.drop
      let (items, s) ← readBlockItems fuel levels s
      return (item :: items, s)
    | .blockEnd :: _ => return ([], s.drop)
    | _ => throw .malformed

/-- The entries of a sequence that is indented no deeper than its key. -/
def readLooseItems : Nat → Nat → NodeState → Except Fault (List Node × NodeState)
  | 0, _, _ => .error .malformed
  | fuel + 1, levels, s => do
    s.need
    match s.tokens with
    | .blockEntry :: _ =>
      let (item, s) ← readUnless fuel [.blockEntry, .key, .value, .blockEnd] true false levels s.drop
      let (items, s) ← readLooseItems fuel levels s
      return (item :: items, s)
    | _ => return ([], s)

/-- A value behind its mark, or an empty one if there is no mark. -/
def readValue : Nat → List Token → Bool → Nat → NodeState → Except Fault (Node × NodeState)
  | 0, _, _, _, _ => .error .malformed
  | fuel + 1, ends, blocks, levels, s => do
    s.need
    match s.tokens with
    | .value :: _ => readUnless fuel ends blocks blocks levels s.drop
    | _ => return (.empty, s)

def readBlockEntries : Nat → Nat → NodeState → Except Fault (List (Node × Node) × NodeState)
  | 0, _, _ => .error .malformed
  | fuel + 1, levels, s => do
    s.need
    match s.tokens with
    | .key :: _ =>
      let ends := [Token.key, .value, .blockEnd]
      let (key, s) ← readUnless fuel ends true true levels s.drop
      let (value, s) ← readValue fuel ends true levels s
      let (entries, s) ← readBlockEntries fuel levels s
      return ((key, value) :: entries, s)
    | .blockEnd :: _ => return ([], s.drop)
    | _ => throw .malformed

/-- The items between brackets; each may be a mapping of one entry. -/
def readFlowItems : Nat → Bool → Nat → NodeState → Except Fault (List Node × NodeState)
  | 0, _, _, _ => .error .malformed
  | fuel + 1, first, levels, s => do
    s.need
    match s.tokens with
    | .flowSequenceEnd :: _ => return ([], s.drop)
    | _ =>
      let s ← if first then pure s else s.afterComma
      s.need
      match s.tokens with
      | .flowSequenceEnd :: _ => return ([], s.drop)
      | .key :: _ =>
        match levels with
        | 0 => throw .tooDeep
        | inner + 1 =>
          let (key, s) ← readUnless fuel [.value, .flowEntry, .flowSequenceEnd] false false inner s.drop
          let (value, s) ← readValue fuel [.flowEntry, .flowSequenceEnd] false inner s
          let (items, s) ← readFlowItems fuel false levels s
          return (.mapping .mapping [(key, value)] :: items, s)
      | _ =>
        let (item, s) ← readNode fuel false false levels s
        let (items, s) ← readFlowItems fuel false levels s
        return (item :: items, s)

/-- The entries between braces; a node without a key mark is a key without a value. -/
def readFlowEntries : Nat → Bool → Nat → NodeState → Except Fault (List (Node × Node) × NodeState)
  | 0, _, _, _ => .error .malformed
  | fuel + 1, first, levels, s => do
    s.need
    match s.tokens with
    | .flowMappingEnd :: _ => return ([], s.drop)
    | _ =>
      let s ← if first then pure s else s.afterComma
      s.need
      match s.tokens with
      | .flowMappingEnd :: _ => return ([], s.drop)
      | .key :: _ =>
        let (key, s) ← readUnless fuel [.value, .flowEntry, .flowMappingEnd] false false levels s.drop
        let (value, s) ← readValue fuel [.flowEntry, .flowMappingEnd] false levels s
        let (entries, s) ← readFlowEntries fuel false levels s
        return ((key, value) :: entries, s)
      | _ =>
        let (key, s) ← readNode fuel false false levels s
        let (entries, s) ← readFlowEntries fuel false levels s
        return ((key, .empty) :: entries, s)

end

/-! ## Documents -/

/-- How deep nodes may stand within each other. -/
def nodeLevels : Nat := 480

/-- What the handles of tags stand for if nothing else is said. -/
def usualHandles : List (String × String) :=
  [("!", "!"), ("!!", Kind.stem)]

/-- Read the directives in front of a document: at most one version, which has to be of the first kind, and no handle
twice. -/
def readDirectives (fault : Option Fault) (versioned : Bool) (handles : List (String × String)) :
    List Token → Except Fault NodeState
  | .directive (.version major) :: rest =>
    if versioned || major != 1 then .error .malformed else readDirectives fault true handles rest
  | .directive (.handle name start) :: rest =>
    if (handles.lookup name).isSome then .error .malformed
    else readDirectives fault versioned (handles ++ [(name, start)]) rest
  | .directive .other :: rest => readDirectives fault versioned handles rest
  | rest => do
    let s : NodeState := { tokens := rest, fault, anchors := [], handles := handles ++ usualHandles }
    s.need
    return s

/-- Whether a document has no node because something else follows its start. -/
def endsDocument : List Token → Bool
  | [] => true
  | .directive _ :: _ => true
  | .documentStart :: _ => true
  | .documentEnd :: _ => true
  | _ => false

def readRoot (s : NodeState) : Except Fault (Node × NodeState) :=
  readNode (4 * s.tokens.length + 8) true false nodeLevels s

/-- Read a document that has a start of its own. -/
def readExplicit (fault : Option Fault) (tokens : List Token) : Except Fault (Node × NodeState) := do
  let s ← readDirectives fault false [] tokens
  match s.tokens with
  | .documentStart :: _ =>
    let s := s.drop
    s.need
    if endsDocument s.tokens then return (.empty, s) else readRoot s
  | _ => throw .malformed

/-- Read what follows a document, which can only be its end. -/
def endOfDocument (fault : Option Fault) : List Token → Except Fault Unit
  | .documentEnd :: rest => endOfDocument fault rest
  | tokens => do
    let _ ← readDirectives fault false [] tokens
    if !tokens.isEmpty then throw .malformed

/-- The single document of some tokens; none if there is none at all. -/
def documentOf (tokens : List Token) (fault : Option Fault) : Except Fault (Option Node) := do
  let s : NodeState := { tokens, fault, anchors := [], handles := usualHandles }
  s.need
  match tokens with
  | [] => return none
  | .directive _ :: _ | .documentStart :: _ =>
    let (node, s) ← readExplicit fault tokens
    endOfDocument fault s.tokens
    return some node
  | _ =>
    let (node, s) ← readRoot s
    endOfDocument fault s.tokens
    return some node

end Yaml

end SchemaLint
