import SchemaLint.Yaml.Property
import SchemaLint.Yaml.Scalar
import SchemaLint.Yaml.Source

/-!
# From text to tokens

Outside of brackets a deeper column opens a block and a lesser one closes it.  Whether a token begins a mapping shows only
at the colon behind it, so a token that may be a key is remembered with its place, and the tokens that open the
mapping are put in front of it when the colon comes.  A key has to be on one line and may not be long; where only a
key could stand, one that never gets its colon is a fault.  A token is handed on as soon as it cannot be a key any more, so
that those in front of a fault are still read.
-/

namespace SchemaLint

namespace Yaml

/-- A token that may turn out to be a key. -/
structure PossibleKey where
  /-- The number of brackets around it. -/
  level : Nat
  /-- The number of tokens in front of it. -/
  place : Nat
  required : Bool
  index : Nat
  line : Nat
  column : Nat

/-- What has been read so far. -/
structure LayoutState where
  cursor : Cursor
  /-- The tokens so far, the last one first. -/
  tokens : List Token
  count : Nat
  level : Nat
  /-- The column of the innermost block. -/
  indent : Int
  /-- The columns of the blocks around it. -/
  outer : List Int
  keyAllowed : Bool
  /-- The possible keys, at most one for each number of brackets. -/
  possible : List PossibleKey

namespace LayoutState

def start (text : List Char) (behind : Char) : LayoutState :=
  { cursor := .start text behind, tokens := [], count := 0, level := 0, indent := -1, outer := [], keyAllowed := true
    possible := [] }

/-- The tokens in front of those that may still become keys. -/
def settled (s : LayoutState) : List Token :=
  s.tokens.reverse.take (s.possible.foldl (fun n k => min n k.place) s.count)

def push (s : LayoutState) (t : Token) : LayoutState :=
  { s with tokens := t :: s.tokens, count := s.count + 1 }

def insert (s : LayoutState) (place : Nat) (t : Token) : LayoutState :=
  let later := s.count - place
  { s with tokens := s.tokens.take later ++ t :: s.tokens.drop later, count := s.count + 1 }

/-- Add a token of some characters. -/
def take (s : LayoutState) (t : Token) (length : Nat) : LayoutState :=
  let s := s.push t
  { s with cursor := s.cursor.skip length }

/-- Forget the possible keys that can be none any more. -/
def dropStale (s : LayoutState) : Except Fault LayoutState :=
  let isStale (k : PossibleKey) : Bool := k.line != s.cursor.line || 1024 < s.cursor.index - k.index
  if s.possible.any fun k => isStale k && k.required then .error .malformed
  else .ok { s with possible := s.possible.filter fun k => !isStale k }

def dropKey (s : LayoutState) : Except Fault LayoutState :=
  if s.possible.any fun k => k.level = s.level && k.required then .error .malformed
  else .ok { s with possible := s.possible.filter fun k => k.level != s.level }

/-- Remember that the next token may be a key. -/
def noteKey (s : LayoutState) : Except Fault LayoutState :=
  if s.keyAllowed then do
    let c := s.cursor
    let key : PossibleKey :=
      { level := s.level, place := s.count, required := s.level = 0 && s.indent = c.column
        index := c.index, line := c.line, column := c.column }
    let s ← s.dropKey
    return { s with possible := key :: s.possible }
  else .ok s

/-- Close the blocks that a column lies outside of; brackets keep all of them open. -/
def closeBlocks (s : LayoutState) (column : Int) : LayoutState :=
  if s.level != 0 then s else close s.outer s
where
  /-- Close blocks one by one. -/
  close (outer : List Int) (s : LayoutState) : LayoutState :=
    if column < s.indent then
      match outer with
      | [] => s
      | next :: rest => close rest { s.push .blockEnd with indent := next, outer := rest }
    else s

/-- Open a block at a column unless the innermost one is there already; the answer says whether it was opened. -/
def openBlock (s : LayoutState) (column : Nat) : LayoutState × Bool :=
  if s.indent < column then ({ s with indent := column, outer := s.indent :: s.outer }, true) else (s, false)

/-- Go on to the next token: blanks, comments and breaks are passed over, and a break outside of brackets allows a
key. -/
def skipGap : Nat → LayoutState → LayoutState
  | 0, s => s
  | fuel + 1, s =>
    let c := s.cursor.skipBlanks.skipComment
    match c.lineBreak? with
    | some (_, c) => skipGap fuel { s with cursor := c, keyAllowed := s.keyAllowed || s.level = 0 }
    | none => { s with cursor := c }

/-! ## Tokens -/

/-- A line that ends all blocks. -/
def leaveBlocks (s : LayoutState) : Except Fault LayoutState := do
  let s ← (s.closeBlocks (-1)).dropKey
  return { s with keyAllowed := false }

def openBracket (s : LayoutState) (t : Token) : Except Fault LayoutState := do
  let s ← s.noteKey
  return { s.take t 1 with level := s.level + 1, keyAllowed := true }

def closeBracket (s : LayoutState) (t : Token) : Except Fault LayoutState := do
  let s ← s.dropKey
  return { s.take t 1 with level := s.level - 1, keyAllowed := false }

def flowEntry (s : LayoutState) : Except Fault LayoutState := do
  let s ← dropKey { s with keyAllowed := true }
  return s.take .flowEntry 1

def blockEntry (s : LayoutState) : Except Fault LayoutState := do
  let s ←
    if s.level = 0 then
      if s.keyAllowed then
        let (s, opened) := s.openBlock s.cursor.column
        pure (if opened then s.push .blockSequence else s)
      else throw .malformed
    else pure s
  let s ← dropKey { s with keyAllowed := true }
  return s.take .blockEntry 1

def explicitKey (s : LayoutState) : Except Fault LayoutState := do
  let s ←
    if s.level = 0 then
      if s.keyAllowed then
        let (s, opened) := s.openBlock s.cursor.column
        pure (if opened then s.push .blockMapping else s)
      else throw .malformed
    else pure s
  let s ← dropKey { s with keyAllowed := s.level = 0 }
  return s.take .key 1

/-- The colon of a value: behind a possible key, or alone. -/
def valueMark (s : LayoutState) : Except Fault LayoutState := do
  match s.possible.find? fun k => k.level = s.level with
  | some key =>
    let s := { s with possible := s.possible.filter fun k => k.level != s.level }
    let s := s.insert key.place .key
    let s :=
      if s.level = 0 then
        let (s, opened) := s.openBlock key.column
        if opened then s.insert key.place .blockMapping else s
      else s
    return take { s with keyAllowed := false } .value 1
  | none =>
    let s ←
      if s.level = 0 then
        if s.keyAllowed then
          let (s, opened) := s.openBlock s.cursor.column
          pure (if opened then s.push .blockMapping else s)
        else throw .malformed
      else pure s
    let s ← dropKey { s with keyAllowed := s.level = 0 }
    return s.take .value 1

/-- A token that may be a key, read from the cursor. -/
def keyLike (s : LayoutState) (read : Cursor → Except Fault (Token × Cursor)) : Except Fault LayoutState := do
  let s ← s.noteKey
  let (t, c) ← read s.cursor
  return { s.push t with cursor := c, keyAllowed := false }

def plain (s : LayoutState) : Except Fault LayoutState := do
  let s ← s.noteKey
  let c := s.cursor
  let (text, broken, c) ← plainScalar (s.level != 0) (s.indent + 1) (c.rest.length + 1) [] false c
  return { s.push (.scalar text true) with cursor := c, keyAllowed := broken }

def block (s : LayoutState) : Except Fault LayoutState := do
  let s ← dropKey { s with keyAllowed := true }
  let (text, c) ← blockScalar s.indent s.cursor
  return { s.push (.scalar text false) with cursor := c }

/-- Whether a character begins another token, unless it is a dash, a question mark or a colon in front of a word. -/
def isSign (d : Char) : Bool :=
  isWideGap d || "-?:,[]{}#&*!|>'\"%@`".toList.contains d

/-- A token of a sign whose meaning the character behind it decides. -/
def signed (s : LayoutState) : Except Fault LayoutState := do
  let c := s.cursor
  c.ask 2
  match c.char, isWideGap (c.charAt 1) with
  | '-', true => s.blockEntry
  | '?', true => s.explicitKey
  | ':', true => s.valueMark
  | '-', false | '?', false | ':', false => s.plain
  | _, _ => throw .malformed

def token (s : LayoutState) : Except Fault LayoutState := do
  let c := s.cursor
  let d := c.char
  let atStart := c.column = 0
  if d = '%' && atStart then
    let s ← s.leaveBlocks
    let (directive, c) ← directive s.cursor
    return { s.push (.directive directive) with cursor := c }
  if (d = '-' || d = '.') && atStart then
    if ← c.atSeparator then
      let s ← s.leaveBlocks
      return s.take (if d = '-' then .documentStart else .documentEnd) 3
  match d with
  | '[' => s.openBracket .flowSequence
  | '\x7b' => s.openBracket .flowMapping
  | ']' => s.closeBracket .flowSequenceEnd
  | '\x7d' => s.closeBracket .flowMappingEnd
  | ',' => s.flowEntry
  | '*' => s.keyLike fun c => do
    let (name, c) ← anchorName c.next
    return (.alias name, c)
  | '&' => s.keyLike fun c => do
    let (name, c) ← anchorName c.next
    return (.anchor name, c)
  | '!' => s.keyLike fun c => do
    let (t, c) ← tagMark c
    return (.tag t, c)
  | '\'' | '"' => s.keyLike fun c => do
    let (text, c) ← quotedScalar c
    return (.scalar text false, c)
  | d =>
    if d = '?' && s.level != 0 then s.explicitKey
    else if d = ':' && s.level != 0 then s.valueMark
    else if (d = '|' || d = '>') && s.level = 0 then s.block
    else if isSign d then s.signed
    else s.plain

/-- Read the next token.  The flag says that the text has ended. -/
def step (s : LayoutState) : Except Fault (LayoutState × Bool) := do
  let s := skipGap (s.cursor.rest.length + 1) s
  s.cursor.ask 1
  let s ← s.dropStale
  let s := s.closeBlocks s.cursor.column
  if s.cursor.char = endMark then return (← (s.closeBlocks (-1)).dropKey, true)
  let s ← s.token
  s.cursor.ask 1
  return (← s.dropStale, false)

def run : Nat → LayoutState → List Token × Option Fault
  | 0, s => (s.settled, some .malformed)
  | fuel + 1, s =>
    match s.step with
    | .ok (s, true) => (s.tokens.reverse, none)
    | .ok (s, false) => run fuel s
    | .error fault => (s.settled, some fault)

end LayoutState

/-- The tokens of a source, as far as they can be told, and what is wrong behind them.  A byte order mark at its beginning
is passed over. -/
def tokensOf (source : Source) : List Token × Option Fault :=
  let s := LayoutState.start source.text source.behind
  let s := if s.cursor.char = '\uFEFF' then { s with cursor := s.cursor.next } else s
  s.run (source.text.length + 2)

end Yaml

end SchemaLint
