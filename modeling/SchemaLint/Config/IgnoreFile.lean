import SchemaLint.Text.Blank

/-!
# Ignore files

An ignore file has a pattern on each line.  Blank lines, comments and section heads hold none, and what stands behind an
equals sign does not belong to the pattern.  A pattern counts once, where it first stands.
-/

namespace SchemaLint

namespace IgnoreFile

def isLineEnd (c : Char) : Bool :=
  let n := c.toNat
  (0x0A ≤ n && n ≤ 0x0D) || (0x1C ≤ n && n ≤ 0x1E) || n = 0x85 || n = 0x2028 || n = 0x2029

/-- Cut a text into lines; a carriage return and a line feed end one line together. -/
def lines : List Char → List (List Char)
  | [] => [[]]
  | '\r' :: '\n' :: rest => [] :: lines rest
  | c :: rest =>
    if isLineEnd c then [] :: lines rest
    else
      match lines rest with
      | line :: others => (c :: line) :: others
      | [] => [[c]]

/-- Whether a line without blanks around it is the head of a section. -/
def isHead (line : List Char) : Bool :=
  line.head? = some '[' && line.getLast? = some ']'

/-- Whether a line without blanks around it is a comment. -/
def isComment (line : List Char) : Bool :=
  line.head? = some '#' || line.head? = some ';'

def patternOf? (line : List Char) : Option (List Char) :=
  let line := strip line
  if line.isEmpty || isComment line || isHead line then none
  else
    match strip (line.takeWhile (· != '=')) with
    | [] => none
    | pattern => some pattern

def addOnce (patterns : List String) (pattern : String) : List String :=
  if patterns.contains pattern then patterns else patterns ++ [pattern]

def read (text : List Char) : List String :=
  ((lines text).filterMap patternOf?).foldl (fun patterns p => addOnce patterns (String.ofList p)) []

end IgnoreFile

end SchemaLint
