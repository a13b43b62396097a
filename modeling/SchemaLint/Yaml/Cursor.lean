import SchemaLint.Yaml.Token

/-!
# Cursors

A cursor is a place in a YAML text: the characters that follow, and the line and the column, on which the meaning of
what follows depends.  Behind the end of the text a cursor shows a null character, which no text holds.

Of a text that cannot be read to its end a cursor knows the characters in front of the cut.  Behind them it shows another
character that no text holds, and it is a fault to ask for one that lies there.
-/

namespace SchemaLint

namespace Yaml

/-- A place in a text. -/
structure Cursor where
  rest : List Char
  /-- What is shown behind these characters. -/
  behind : Char
  index : Nat
  line : Nat
  column : Nat

/-- The character behind the end of a text. -/
def endMark : Char := '\x00'

/-- The character behind the part of a text that can be read. -/
def cutMark : Char := '\x01'

def isBreak (c : Char) : Bool :=
  c = '\n' || c = '\r' || c = '\x85' || c = '\u2028' || c = '\u2029'

/-- Whether a character breaks a line or is the end. -/
def isBreakOrEnd (c : Char) : Bool :=
  c = endMark || isBreak c

/-- Whether a character is a blank, breaks a line or is the end. -/
def isGap (c : Char) : Bool :=
  c = ' ' || isBreakOrEnd c

/-- Whether a character is a blank or a tab, breaks a line or is the end. -/
def isWideGap (c : Char) : Bool :=
  c = '\t' || isGap c

/-- Whether a character can stand in the name of an anchor or a directive. -/
def isNameChar (c : Char) : Bool :=
  c.isAlphanum || c = '-' || c = '_'

def isHexDigit (c : Char) : Bool :=
  c.isDigit || ('a' ≤ c && c ≤ 'f') || ('A' ≤ c && c ≤ 'F')

def hexNumber (cs : List Char) : Nat :=
  cs.foldl
    (fun n c =>
      n * 16 + (if c.isDigit then c.toNat - 48 else if 'a' ≤ c then c.toNat - 87 else c.toNat - 55))
    0

/-- The number of digits that an integer may have. -/
def digitLimit : Nat := 4300

namespace Cursor

def start (text : List Char) (behind : Char) : Cursor :=
  { rest := text, behind, index := 0, line := 0, column := 0 }

def char (c : Cursor) : Char :=
  c.rest.head?.getD c.behind

def charAt (c : Cursor) (n : Nat) : Char :=
  (c.rest[n]?).getD c.behind

/-- What is wrong if something else has to stand at the cursor. -/
def fault (c : Cursor) : Fault :=
  if c.char = cutMark then .cut else .malformed

/-- Ask for the next characters.  There may be fewer of them if the text ends, but not if it is cut. -/
def ask (c : Cursor) (count : Nat) : Except Fault Unit :=
  if c.behind = cutMark && (c.rest.take count).length < count then .error .cut else .ok ()

/-- Go one character further.  A byte order mark takes no column. -/
def next (c : Cursor) : Cursor :=
  match c.rest with
  | [] => c
  | d :: rest =>
    if d = '\r' && rest.head? = some '\n' then { c with rest, index := c.index + 1, column := c.column + 1 }
    else if isBreak d then { c with rest, index := c.index + 1, line := c.line + 1, column := 0 }
    else if d = '\uFEFF' then { c with rest, index := c.index + 1 }
    else { c with rest, index := c.index + 1, column := c.column + 1 }

def skip (c : Cursor) : Nat → Cursor
  | 0 => c
  | n + 1 => c.next.skip n

/-- The characters that satisfy a test, and the place behind them. -/
def span (c : Cursor) (test : Char → Bool) : List Char × Cursor :=
  let taken := c.rest.takeWhile test
  (taken, c.skip taken.length)

def skipBlanks (c : Cursor) : Cursor :=
  (c.span (· = ' ')).2

/-- The place behind a comment, if there is one: at the break that ends it. -/
def skipComment (c : Cursor) : Cursor :=
  if c.char = '#' then (c.span fun d => !isBreakOrEnd d).2 else c

/-- So many hexadecimal digits. -/
def digits (c : Cursor) (count : Nat) : Except Fault (List Char) :=
  let digits := (c.rest.take count).takeWhile isHexDigit
  if digits.length = count then .ok digits else .error (c.skip digits.length).fault

/-- A line break, which counts as a line feed unless it is one of the two separators, and the place behind it. -/
def lineBreak? (c : Cursor) : Option (Char × Cursor) :=
  let d := c.char
  if d = '\r' && c.charAt 1 = '\n' then some ('\n', c.skip 2)
  else if d = '\r' || d = '\n' || d = '\x85' then some ('\n', c.next)
  else if isBreak d then some (d, c.next)
  else none

/-- Whether a line of three dashes or dots begins here, which separates documents. -/
def atSeparator (c : Cursor) : Except Fault Bool := do
  c.ask 3
  let marks := c.rest.take 3
  if marks = ['-', '-', '-'] || marks = ['.', '.', '.'] then
    c.ask 4
    return isWideGap (c.charAt 3)
  else return false

end Cursor

end Yaml

end SchemaLint
