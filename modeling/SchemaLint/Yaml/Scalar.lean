import SchemaLint.Yaml.Cursor
import SchemaLint.Yaml.Token

/-!
# Scalars

A scalar is written between quotes, plainly, or as a block.  Line breaks inside of the first two are folded: one break is a
blank, and of several the first is dropped.  A block keeps its breaks, or folds those between lines that are not
indented further.
-/

namespace SchemaLint

namespace Yaml

def single (c : Char) : Text := [CodePoint.scalar c]

def chars (cs : List Char) : Text := cs.map CodePoint.scalar

/-! ## Quoted scalars -/

def escapeOf? (c : Char) : Option Char :=
  match c with
  | '0' => some '\x00'
  | 'a' => some '\x07'
  | 'b' => some '\x08'
  | 't' | '\t' => some '\t'
  | 'n' => some '\n'
  | 'v' => some '\x0b'
  | 'f' => some '\x0c'
  | 'r' => some '\r'
  | 'e' => some '\x1b'
  | ' ' => some ' '
  | '"' => some '"'
  | '\\' => some '\\'
  | '/' => some '/'
  | 'N' => some '\x85'
  | '_' => some '\xa0'
  | 'L' => some '\u2028'
  | 'P' => some '\u2029'
  | _ => none

/-- The number of digits behind an escape for a code point. -/
def escapeDigits? (c : Char) : Option Nat :=
  match c with
  | 'x' => some 2
  | 'u' => some 4
  | 'U' => some 8
  | _ => none

/-- The breaks of empty lines inside quotes, and the place behind them and the blanks of the last line. -/
def quotedBreaks : Nat → Cursor → Except Fault (Text × Cursor)
  | 0, c => .ok ([], c)
  | fuel + 1, c => do
    if ← c.atSeparator then throw .malformed
    let c := (c.span fun d => d = ' ' || d = '\t').2
    match c.lineBreak? with
    | some (b, c) =>
      let (breaks, c) ← quotedBreaks fuel c
      return (single b ++ breaks, c)
    | none => return ([], c)

/-- Fold a line break: one that is no line feed stays, and a line feed is a blank unless more breaks follow. -/
def folded (first : Char) (breaks : Text) : Text :=
  if first != '\n' then single first ++ breaks else if breaks.isEmpty then single ' ' else breaks

def escapedPoint (digits : List Char) : Except Fault CodePoint :=
  let n := hexNumber digits
  match CodePoint.ofNat? n with
  | some p => .ok p
  | none => .error (if n < 0x80000000 then .value else .overflow)

def escape (c : Cursor) : Except Fault (Text × Cursor) :=
  match escapeOf? c.char with
  | some d => .ok (single d, c.next)
  | none =>
    match escapeDigits? c.char with
    | some count => do
      let point ← escapedPoint (← c.next.digits count)
      return ([point], c.skip (count + 1))
    | none =>
      match c.lineBreak? with
      | some (_, c) => quotedBreaks (c.rest.length + 1) c
      | none => .error c.fault

/-- The rest of a quoted scalar and the place behind its closing quote. -/
def quotedRest (double : Bool) : Nat → Cursor → Except Fault (Text × Cursor)
  | 0, _ => .error .malformed
  | fuel + 1, c =>
    let quote := if double then '"' else '\''
    let d := c.char
    let add (t : Text) (c : Cursor) : Except Fault (Text × Cursor) := do
      let (more, c) ← quotedRest double fuel c
      return (t ++ more, c)
    if c.rest.isEmpty then .error c.fault
    else if d = quote then
      if double then .ok ([], c.next)
      else do
        c.ask 2
        if c.charAt 1 = quote then add (single quote) (c.skip 2) else return ([], c.next)
    else if double && d = '\\' then do
      let (t, c) ← escape c.next
      add t c
    else if d = ' ' || d = '\t' then
      let (blanks, behind) := c.span fun d => d = ' ' || d = '\t'
      match behind.lineBreak? with
      | some (b, c) => do
        let (breaks, c) ← quotedBreaks (c.rest.length + 1) c
        add (folded b breaks) c
      | none => add (chars blanks) behind
    else
      match c.lineBreak? with
      | some (b, c) => do
        let (breaks, c) ← quotedBreaks (c.rest.length + 1) c
        add (folded b breaks) c
      | none => add (single d) c.next

def quotedScalar (c : Cursor) : Except Fault (Text × Cursor) :=
  quotedRest (c.char = '"') (c.rest.length + 1) c.next

/-! ## Plain scalars -/

/-- Whether a plain scalar ends at a character, given the one behind it. -/
def endsPlain (inFlow : Bool) (d behind : Char) : Bool :=
  isWideGap d ||
    (d = ':' && (isWideGap behind || (inFlow && [',', '[', ']', '{', '}'].contains behind))) ||
    (inFlow && [',', '?', '[', ']', '{', '}'].contains d)

/-- The characters of a plain scalar up to the next gap, given what is shown behind the text. -/
def plainWord (inFlow : Bool) (behind : Char) : List Char → List Char
  | [] => []
  | d :: rest =>
    if endsPlain inFlow d (rest.head?.getD behind) then [] else d :: plainWord inFlow behind rest

/-- The breaks of empty lines inside a plain scalar; none if a document ends there.  The flag says so. -/
def plainBreaks : Nat → Cursor → Except Fault (Text × Bool × Cursor)
  | 0, c => .ok ([], false, c)
  | fuel + 1, c =>
    if c.char = ' ' then plainBreaks fuel c.next
    else
      match c.lineBreak? with
      | some (b, c) => do
        if ← c.atSeparator then return ([], true, c)
        let (breaks, ended, c) ← plainBreaks fuel c
        return (single b ++ breaks, ended, c)
      | none => .ok ([], false, c)

/-- The gap behind a word of a plain scalar: its text, which is empty if the scalar ends here, whether a line was broken,
and the place behind it. -/
def plainGap (c : Cursor) : Except Fault (Text × Bool × Cursor) :=
  let (blanks, c) := c.span (· = ' ')
  match c.lineBreak? with
  | some (b, c) => do
    if ← c.atSeparator then return ([], true, c)
    let (breaks, ended, c) ← plainBreaks (c.rest.length + 1) c
    return (if ended then [] else folded b breaks, true, c)
  | none => .ok (chars blanks, false, c)

/-- A plain scalar.  The flag says whether a new line has begun behind it.  `indent` is the column from which on the lines
of the scalar have to be indented outside of brackets. -/
def plainScalar (inFlow : Bool) (indent : Int) : Nat → Text → Bool → Cursor → Except Fault (Text × Bool × Cursor)
  | 0, _, broken, c => .ok ([], broken, c)
  | fuel + 1, gap, broken, c =>
    let word := if c.char = '#' then [] else plainWord inFlow c.behind c.rest
    if word.isEmpty then .ok ([], broken, c)
    else do
      let (next, broken, c) ← plainGap (c.skip word.length)
      let here := gap ++ chars word
      if next.isEmpty || c.char = '#' || (!inFlow && (c.column : Int) < indent) then return (here, broken, c)
      let (more, broken, c) ← plainScalar inFlow indent fuel next broken c
      return (here ++ more, broken, c)

/-! ## Block scalars -/

/-- What happens to the breaks at the end of a block. -/
inductive Chomping
  /-- All are dropped. -/
  | strip
  /-- One is kept. -/
  | clip
  /-- All are kept. -/
  | keep
  deriving DecidableEq

/-- The digit for the indentation of a block, which is not zero. -/
def indentDigit? (d : Char) : Except Fault (Option Nat) :=
  if d.isDigit then
    if d = '0' then .error .malformed else .ok (some (d.toNat - 48))
  else .ok none

/-- The sign for the breaks at the end of a block. -/
def chompingSign? (d : Char) : Option Chomping :=
  if d = '+' then some .keep else if d = '-' then some .strip else none

/-- The head of a block: its two signs in either order. -/
def blockHead (c : Cursor) : Except Fault (Chomping × Option Nat × Cursor) := do
  let (chomping, digit, c) ←
    match chompingSign? c.char with
    | some sign => do
      let digit ← indentDigit? c.next.char
      pure (sign, digit, if digit.isSome then c.skip 2 else c.next)
    | none => do
      match ← indentDigit? c.char with
      | some digit =>
        let c := c.next
        match chompingSign? c.char with
        | some sign => pure (sign, some digit, c.next)
        | none => pure (Chomping.clip, some digit, c)
      | none => pure (Chomping.clip, none, c)
  if isGap c.char then return (chomping, digit, c)
  throw c.fault

/-- The rest of the line of a block's head, which may hold a comment alone. -/
def endOfLine (c : Cursor) : Except Fault Cursor :=
  let c := c.skipBlanks.skipComment
  if isBreakOrEnd c.char then .ok ((c.lineBreak?.map Prod.snd).getD c) else .error c.fault

/-- The empty lines at the beginning of a block, and the greatest column that a blank in them reaches. -/
def leadingBreaks : Nat → Nat → Cursor → Text × Nat × Cursor
  | 0, widest, c => ([], widest, c)
  | fuel + 1, widest, c =>
    if c.char = ' ' then
      let c := c.next
      leadingBreaks fuel (max widest c.column) c
    else
      match c.lineBreak? with
      | some (b, c) =>
        let (breaks, widest, c) := leadingBreaks fuel widest c
        (single b ++ breaks, widest, c)
      | none => ([], widest, c)

/-- The place behind the blanks that belong to the indentation. -/
def skipIndent (indent : Nat) (c : Cursor) : Cursor :=
  c.skip ((c.rest.take (indent - c.column)).takeWhile (· = ' ')).length

def blockBreaks (indent : Nat) : Nat → Cursor → Text × Cursor
  | 0, c => ([], c)
  | fuel + 1, c =>
    let c := skipIndent indent c
    match c.lineBreak? with
    | some (b, c) =>
      let (breaks, c) := blockBreaks indent fuel c
      (single b ++ breaks, c)
    | none => ([], c)

/-- The lines of a block, and the place behind it; `breaks` are those in front of the next line. -/
def blockLines (fold : Bool) (chomping : Chomping) (indent : Nat) : Nat → Text → Cursor → Text × Cursor
  | 0, _, c => ([], c)
  | fuel + 1, breaks, c =>
    if c.column = indent && c.char != endMark then
      let isBlank (d : Char) : Bool := d = ' ' || d = '\t'
      let leading := !isBlank c.char
      let (line, c) := c.span fun d => !isBreakOrEnd d
      let (lineBreak, c) : Text × Cursor :=
        match c.lineBreak? with
        | some (b, c) => (single b, c)
        | none => ([], c)
      let (more, c) := blockBreaks indent (c.rest.length + 1) c
      if c.column = indent && c.char != endMark then
        let joint :=
          if fold && lineBreak = single '\n' && leading && !isBlank c.char then
            if more.isEmpty then single ' ' else []
          else lineBreak
        let (others, c) := blockLines fold chomping indent fuel more c
        (breaks ++ chars line ++ joint ++ others, c)
      else
        let tail :=
          match chomping with
          | .strip => []
          | .clip => lineBreak
          | .keep => lineBreak ++ more
        (breaks ++ chars line ++ tail, c)
    else (if chomping = .keep then breaks else [], c)

/-- A block scalar at its sign.  `indent` is the column of the block around it. -/
def blockScalar (indent : Int) (c : Cursor) : Except Fault (Text × Cursor) := do
  let fold := c.char = '>'
  let (chomping, digit, c) ← blockHead c.next
  let c ← endOfLine c
  let least := (max (indent + 1) 1).toNat
  match digit with
  | some digit =>
    let column := least + digit - 1
    let (breaks, c) := blockBreaks column (c.rest.length + 1) c
    return blockLines fold chomping column (c.rest.length + 1) breaks c
  | none =>
    let (breaks, widest, c) := leadingBreaks (c.rest.length + 1) 0 c
    return blockLines fold chomping (max least widest) (c.rest.length + 1) breaks c

end Yaml

end SchemaLint
