import SchemaLint.Text.Split

/-!
# Wildcards

A wildcard pattern matches a text as a whole: `?` is any character, `*` any number of them, and a set in brackets one of
its characters, or none of them behind an exclamation mark.  Slashes and dots are characters like all others.
-/

namespace SchemaLint

namespace Wildcard

/-- A member of a set: a character or all between two. -/
inductive Member
  | single (c : Char)
  | range (low high : Char)
  deriving DecidableEq

def Member.covers (c : Char) : Member → Bool
  | single d => c = d
  | range low high => low.toNat ≤ c.toNat && c.toNat ≤ high.toNat

/-- One part of a pattern. -/
inductive Part
  | one
  | many
  | char (c : Char)
  | set (negated : Bool) (members : List Member)
  deriving DecidableEq

/-! ## Sets -/

/-- Cut a set at the hyphens that make ranges.  The first one may stand behind the first character, and each later one
behind two characters more; `hold` counts the characters that have to come before the next cut. -/
def chunks (hold : Nat) (chunk : List Char) : List Char → List (List Char)
  | [] => [chunk]
  | c :: rest =>
    match hold with
    | 0 => if c = '-' then chunk :: chunks 2 [] rest else chunks 0 (chunk ++ [c]) rest
    | n + 1 => chunks n (chunk ++ [c]) rest

/-- A hyphen at the end makes no range and stands for itself. -/
def keepLastHyphen (parts : List (List Char)) : List (List Char) :=
  match parts.reverse with
  | [] :: last :: others => ((last ++ ['-']) :: others).reverse
  | _ => parts

/-- Put a chunk in front of others; a range between them that would be empty is dropped together with its ends. -/
def joinChunk (chunk : List Char) : List (List Char) → List (List Char)
  | [] => [chunk]
  | next :: others =>
    match chunk.getLast?, next.head? with
    | some low, some high =>
      if high.toNat < low.toNat then (chunk.dropLast ++ next.drop 1) :: others else chunk :: next :: others
    | _, _ => chunk :: next :: others

/-- The members of chunks with a range from each to the next; the range behind an empty chunk is a hyphen. -/
def membersOf : List (List Char) → List Member
  | [] => []
  | [chunk] => chunk.map Member.single
  | chunk :: next :: others =>
    let singles := chunk.map Member.single
    match chunk.getLast?, next.head? with
    | some low, some high => singles ++ Member.range low high :: membersOf (next :: others)
    | _, _ => Member.single '-' :: membersOf (next :: others)

def readSet (cs : List Char) : Part :=
  let hold := if cs.head? = some '!' then 2 else 1
  let parts := if cs.contains '-' then (keepLastHyphen (chunks hold [] cs)).foldr joinChunk [] else [cs]
  match parts with
  | ('!' :: chunk) :: others => .set true (membersOf (chunk :: others))
  | parts => .set false (membersOf parts)

/-- The inside of a set and what follows its closing bracket; a bracket that comes first is a member. -/
def cutSet? (cs : List Char) : Option (List Char × List Char) :=
  let (lead, rest) : List Char × List Char :=
    match cs with
    | '!' :: ']' :: rest => (['!', ']'], rest)
    | '!' :: rest => (['!'], rest)
    | ']' :: rest => ([']'], rest)
    | rest => ([], rest)
  match rest.dropWhile (· != ']') with
  | [] => none
  | _ :: behind => some (lead ++ rest.takeWhile (· != ']'), behind)

/-! ## Patterns -/

/-- Read a pattern; a bracket that is not closed stands for itself, and stars in a row are one.  A set is skipped
character by character with `skip`. -/
def readFrom (skip : Nat) (star : Bool) : List Char → List Part
  | [] => []
  | c :: rest =>
    match skip with
    | n + 1 => readFrom n star rest
    | 0 =>
      match c with
      | '*' => if star then readFrom 0 true rest else .many :: readFrom 0 true rest
      | '?' => .one :: readFrom 0 false rest
      | '[' =>
        match cutSet? rest with
        | some (inside, _) => readSet inside :: readFrom (inside.length + 1) false rest
        | none => .char '[' :: readFrom 0 false rest
      | c => .char c :: readFrom 0 false rest

def read (pattern : List Char) : List Part :=
  readFrom 0 false pattern

/-- Whether a part other than a star matches a character. -/
def Part.accepts (c : Char) : Part → Bool
  | one => true
  | many => false
  | char d => c = d
  | set negated members => (members.any fun m => m.covers c) != negated

/-- A list and everything that is left of it after taking characters away one by one. -/
def endings : List Char → List (List Char)
  | [] => [[]]
  | c :: rest => (c :: rest) :: endings rest

/-- Whether the parts match the characters as a whole. -/
def fits : List Part → List Char → Bool
  | [], cs => cs.isEmpty
  | .many :: parts, cs => (endings cs).any (fits parts)
  | _ :: _, [] => false
  | part :: parts, c :: cs => part.accepts c && fits parts cs

/-- Whether a pattern matches a text as a whole. -/
def isMatch (pattern text : String) : Bool :=
  fits (read pattern.toList) text.toList

/-- Whether a text has a character that means something in a pattern. -/
def hasMagic (text : List Char) : Bool :=
  text.any fun c => c = '*' || c = '?' || c = '['

end Wildcard

/-! ## Ignore patterns -/

/-- A pattern without the steps that stand for any number of folders. -/
def dropAnyFolders : List Char → List Char
  | '*' :: '*' :: '/' :: rest => dropAnyFolders rest
  | c :: rest => c :: dropAnyFolders rest
  | [] => []

/-- Whether one of the patterns matches a path, as it is or without its steps for any number of folders. -/
def isIgnored (path : String) (patterns : List String) : Bool :=
  patterns.any fun pattern =>
    Wildcard.isMatch pattern path || Wildcard.isMatch (String.ofList (dropAnyFolders pattern.toList)) path

end SchemaLint
