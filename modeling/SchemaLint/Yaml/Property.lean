import SchemaLint.Yaml.Cursor
import SchemaLint.Yaml.Token
import SchemaLint.Text.Encoding

/-!
# Anchors, tags and directives

What can stand in front of a node or of a document: names for later use, the kind of a node, and lines that
say how the document is to be read.
-/

namespace SchemaLint

namespace Yaml

/-! ## Anchors -/

/-- The name of an anchor or of an alias, behind its sign. -/
def anchorName (c : Cursor) : Except Fault (String × Cursor) :=
  let (name, c) := c.span isNameChar
  let ends := isWideGap c.char || ['?', ':', ',', ']', '}', '%', '@', '`'].contains c.char
  if name.isEmpty || !ends then .error c.fault else .ok (String.ofList name, c)

/-! ## Tags -/

/-- Whether a character can stand in the name of a tag. -/
def isTagChar (d : Char) : Bool :=
  d.isAlphanum || "-;/?:@&=+$,_.!~*'()[]%".toList.contains d

def escapedBytes : Nat → Cursor → Except Fault (Bytes × Cursor)
  | 0, c => .ok ([], c)
  | fuel + 1, c =>
    if c.char = '%' then do
      let digits ← c.next.digits 2
      let (bytes, c) ← escapedBytes fuel (c.skip 3)
      return (UInt8.ofNat (hexNumber digits) :: bytes, c)
    else do
      c.ask 1
      return ([], c)

/-- The name of a tag, in which escapes stand for bytes of UTF-8. -/
def tagChars : Nat → Cursor → Except Fault (List Char × Cursor)
  | 0, c => .ok ([], c)
  | fuel + 1, c =>
    let d := c.char
    if d = '%' then do
      let (bytes, c) ← escapedBytes (c.rest.length + 1) c
      match Encoding.Utf8.decode bytes with
      | .ok t =>
        let (more, c) ← tagChars fuel c
        return (t.map CodePoint.toChar ++ more, c)
      | .error _ => throw .malformed
    else if isTagChar d then do
      let (more, c) ← tagChars fuel c.next
      return (d :: more, c)
    else .ok ([], c)

/-- The name of a tag, which has at least one character. -/
def tagName (c : Cursor) : Except Fault (String × Cursor) :=
  if isTagChar c.char then do
    let (name, c) ← tagChars (c.rest.length + 1) c
    return (String.ofList name, c)
  else .error c.fault

/-- A handle: an exclamation mark, alone before a blank, or with another one that closes it. -/
def tagHandle (c : Cursor) : Except Fault (String × Cursor) :=
  if c.char != '!' then .error c.fault
  else if c.charAt 1 = ' ' then .ok ("!", c.next)
  else
    let (name, c) := c.next.span isNameChar
    if c.char = '!' then .ok (String.ofList ('!' :: name ++ ['!']), c.next) else .error c.fault

/-- Whether an exclamation mark stands before the next gap. -/
def hasHandle (c : Cursor) : Except Fault Bool :=
  let c := (c.span fun d => !isGap d && d != '!').2
  if c.char = cutMark then .error .cut else .ok (c.char = '!')

def tagMark (c : Cursor) : Except Fault (TagMark × Cursor) := do
  c.ask 2
  let d := c.charAt 1
  let (tag, c) ←
    if d = '<' then do
      let (name, c) ← tagName (c.skip 2)
      if c.char = '>' then pure (TagMark.mk none name, c.next) else throw c.fault
    else if isWideGap d then pure (TagMark.mk none "!", c.next)
    else if ← hasHandle c.next then do
      let (handle, c) ← tagHandle c
      let (name, c) ← tagName c
      pure (TagMark.mk (some handle) name, c)
    else do
      let (name, c) ← tagName c.next
      pure (TagMark.mk (some "!") name, c)
  if isGap c.char then return (tag, c)
  throw c.fault

/-! ## Directives -/

def directiveNumber (c : Cursor) : Except Fault (Nat × Cursor) := do
  let (digits, c) := c.span Char.isDigit
  if digits.isEmpty then throw c.fault
  c.ask 1
  if digitLimit < digits.length then throw .value
  return (digits.foldl (fun n d => n * 10 + (d.toNat - 48)) 0, c)

def directiveBody (name : List Char) (c : Cursor) : Except Fault (Directive × Cursor) := do
  if name = "YAML".toList then
    let (major, c) ← directiveNumber c.skipBlanks
    if c.char != '.' then throw c.fault
    let (_, c) ← directiveNumber c.next
    if isGap c.char then return (.version major, c)
    throw c.fault
  else if name = "TAG".toList then
    let (handle, c) ← tagHandle c.skipBlanks
    if c.char != ' ' then throw c.fault
    let (start, c) ← tagName c.skipBlanks
    if isGap c.char then return (.handle handle start, c)
    throw c.fault
  else return (.other, (c.span fun d => !isBreakOrEnd d).2)

/-- A directive at its sign, and the place behind its line. -/
def directive (c : Cursor) : Except Fault (Directive × Cursor) := do
  let (name, c) := c.next.span isNameChar
  if name.isEmpty || !isGap c.char then throw c.fault
  let (d, c) ← directiveBody name c
  let c := c.skipBlanks.skipComment
  if isBreakOrEnd c.char then return (d, (c.lineBreak?.map Prod.snd).getD c)
  throw c.fault

end Yaml

end SchemaLint
