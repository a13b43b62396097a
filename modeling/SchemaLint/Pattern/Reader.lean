import SchemaLint.Pattern.Matcher
import SchemaLint.Number.Spelled
import SchemaLint.Text.Name.Lookup

/-!
# Reading patterns

A pattern is first cut into marks: a code point, or a backslash together with the code point behind it.  The
grammar is then read by descent, with the switches that hold at each place handed down, and a bound on the descent that
the number of marks always covers.  The reader accepts backtracking patterns with groups, named groups, references to
them, conditionals, atomic groups, look-around of fixed width, scoped switches, and lazy and possessive repetition.
-/

namespace SchemaLint

namespace Pattern

/-- Why a pattern cannot be read. -/
inductive Fault
  | malformed
  | tooMany
  | conflict
  deriving DecidableEq

/-- A code point of a pattern, or an escaped one. -/
inductive Mark
  | plain (n : Nat)
  | escaped (n : Nat)
  deriving DecidableEq

namespace Mark

/-- Cut a pattern into marks; a backslash at its end is a fault. -/
def cut : List Nat → Except Fault (List Mark)
  | [] => .ok []
  | [n] => if n = 0x5C then .error .malformed else .ok [plain n]
  | n :: m :: rest =>
    if n = 0x5C then (cut rest).map (escaped m :: ·) else (cut (m :: rest)).map (plain n :: ·)

/-- A plain mark for a character. -/
def isChar (mark : Mark) (c : Char) : Bool :=
  mark = plain c.toNat

def char? : Mark → Option Char
  | plain n => if n < 0x110000 then some (Char.ofNat n) else none
  | escaped _ => none

end Mark

/-- What the reader has learned so far. -/
structure ReaderState where
  marks : List Mark
  flags : Flags
  /-- The width of every group, the first group first; none while a group is open. -/
  widths : List (Option Width)
  names : List (String × Nat)
  /-- Inside a look-behind: the number of groups when it began. -/
  behindFrom : Option Nat
  /-- The groups that conditionals ask about. -/
  asked : List Nat
  unfixed : Bool

/-- A part of a sequence as the reader needs to know it when a repetition follows. -/
inductive ItemKind
  | anchor
  | repetition
  | other
  deriving DecidableEq

/-- The parts of a sequence, last first. -/
abbrev Items := List (ItemKind × Node)

/-- The sequence of some parts that are listed last first. -/
def Items.node (items : Items) : Node :=
  items.foldl (fun tail item => if tail = .empty then item.2 else .seq item.2 tail) .empty

namespace ReaderState

def start (marks : List Mark) : ReaderState :=
  { marks, flags := .none, widths := [], names := [], behindFrom := none, asked := [], unfixed := false }

/-- Take one mark if it is the given character. -/
def take? (s : ReaderState) (c : Char) : Option ReaderState :=
  match s.marks with
  | mark :: rest => if mark.isChar c then some { s with marks := rest } else none
  | [] => none

def isClosed (s : ReaderState) (index : Nat) : Bool :=
  1 ≤ index && ((s.widths[index - 1]?).join).isSome

def widthOf (s : ReaderState) (index : Nat) : Width :=
  ((s.widths[index - 1]?).join).getD .zero

/-- A look-behind may only refer to groups that were closed before it. -/
def mayRefer (s : ReaderState) (index : Nat) : Bool :=
  match s.behindFrom with
  | some groups => s.isClosed index && index ≤ groups
  | none => true

/-- Open a group, under a name if it has one. -/
def openGroup (s : ReaderState) (name : Option String) : Except Fault (Nat × ReaderState) :=
  let index := s.widths.length + 1
  let s := { s with widths := s.widths ++ [none] }
  match name with
  | none => .ok (index, s)
  | some name =>
    if (s.names.lookup name).isSome then .error .malformed else .ok (index, { s with names := (name, index) :: s.names })

def closeGroup (s : ReaderState) (index : Nat) (body : Node) : ReaderState :=
  { s with widths := s.widths.set (index - 1) (some (body.width s.widthOf)) }

end ReaderState

/-! ## Escapes -/

def hexDigit? : Mark → Option Nat
  | .plain n =>
    if 0x30 ≤ n && n ≤ 0x39 then some (n - 0x30)
    else if 0x61 ≤ n && n ≤ 0x66 then some (n - 87)
    else if 0x41 ≤ n && n ≤ 0x46 then some (n - 55)
    else none
  | .escaped _ => none

def digit? : Mark → Option Nat
  | .plain n => if 0x30 ≤ n && n ≤ 0x39 then some (n - 0x30) else none
  | .escaped _ => none

def octalDigit? : Mark → Option Nat
  | .plain n => if 0x30 ≤ n && n ≤ 0x37 then some (n - 0x30) else none
  | .escaped _ => none

/-- Read up to `count` digits in a base; also the number of them. -/
def readDigits (digit : Mark → Option Nat) (base count value taken : Nat) (marks : List Mark) : Nat × Nat × List Mark :=
  match count, marks with
  | count + 1, mark :: rest =>
    match digit mark with
    | some d => readDigits digit base count (value * base + d) (taken + 1) rest
    | none => (value, taken, marks)
  | _, _ => (value, taken, marks)

def readHex (count : Nat) (marks : List Mark) : Except Fault (Nat × List Mark) :=
  match readDigits hexDigit? 16 count 0 0 marks with
  | (value, taken, rest) => if taken = count && value < 0x110000 then .ok (value, rest) else .error .malformed

def controlEscape? (n : Nat) : Option Nat :=
  if n = 'a'.toNat then some 0x07
  else if n = 'f'.toNat then some 0x0C
  else if n = 'n'.toNat then some 0x0A
  else if n = 'r'.toNat then some 0x0D
  else if n = 't'.toNat then some 0x09
  else if n = 'v'.toNat then some 0x0B
  else none

/-- The named class that a letter stands for; a capital negates it. -/
def category? (n : Nat) : Option (Bool × Category) :=
  if n = 'd'.toNat then some (false, .digit)
  else if n = 'D'.toNat then some (true, .digit)
  else if n = 's'.toNat then some (false, .blank)
  else if n = 'S'.toNat then some (true, .blank)
  else if n = 'w'.toNat then some (false, .word)
  else if n = 'W'.toNat then some (true, .word)
  else none

def anchorEscape? (n : Nat) : Option Anchor :=
  if n = 'A'.toNat then some .textStart
  else if n = 'Z'.toNat then some .textEnd
  else if n = 'b'.toNat then some (.boundary false)
  else if n = 'B'.toNat then some (.boundary true)
  else none

def isLetter (n : Nat) : Bool :=
  (0x41 ≤ n && n ≤ 0x5A) || (0x61 ≤ n && n ≤ 0x7A)

/-- Read the name of a character, in braces. -/
def readNamedPoint (marks : List Mark) : Except Fault (Nat × List Mark) :=
  match marks with
  | [] => .error .malformed
  | opening :: rest =>
    let name := rest.takeWhile fun mark => !mark.isChar '\x7d'
    match rest.drop name.length, (name.mapM Mark.char?).bind CharacterName.find? with
    | _ :: behind, some n => if opening.isChar '\x7b' then .ok (n, behind) else .error .malformed
    | _, _ => .error .malformed

/-- The code point that a numbered or a named escape, or an escaped code point without meaning of its own, stands for. -/
def pointEscape (n : Nat) (marks : List Mark) : Except Fault (Nat × List Mark) :=
  if n = 'N'.toNat then readNamedPoint marks
  else if n = 'x'.toNat then readHex 2 marks
  else if n = 'u'.toNat then readHex 4 marks
  else if n = 'U'.toNat then readHex 8 marks
  else if isLetter n then .error .malformed
  else .ok (n, marks)

def classEscape (n : Nat) (marks : List Mark) : Except Fault (ClassItem × List Mark) :=
  match controlEscape? n, category? n with
  | some c, _ => .ok (.range c c, marks)
  | none, some (negated, c) => .ok (.category negated c, marks)
  | none, none =>
    if n = 'b'.toNat then .ok (.range 8 8, marks)
    else
      match octalDigit? (.plain n), digit? (.plain n) with
      | some first, _ =>
        let (value, _, rest) := readDigits octalDigit? 8 2 first 0 marks
        if 0xFF < value then .error .malformed else .ok (.range value value, rest)
      | none, some _ => .error .malformed
      | none, none => (pointEscape n marks).map fun (c, rest) => (.range c c, rest)

/-- Read a reference to a group, or an octal escape, that begins with a digit other than zero. -/
def digitEscape (flags : Flags) (s : ReaderState) (first : Nat) : Except Fault (Node × ReaderState) :=
  let refer (index : Nat) (marks : List Mark) : Except Fault (Node × ReaderState) :=
    if s.isClosed index && s.mayRefer index then .ok (.backReference flags index, { s with marks })
    else .error .malformed
  match s.marks with
  | mark :: rest =>
    match digit? mark with
    | none => refer first s.marks
    | some second =>
      match rest with
      | third :: more =>
        match octalDigit? third with
        | some last =>
          if first < 8 && second < 8 then
            let value := first * 64 + second * 8 + last
            if 0xFF < value then .error .malformed else .ok (.point flags value, { s with marks := more })
          else refer (first * 10 + second) rest
        | none => refer (first * 10 + second) rest
      | [] => refer (first * 10 + second) rest
  | [] => refer first []

def readEscape (flags : Flags) (s : ReaderState) (n : Nat) : Except Fault (ItemKind × Node × ReaderState) :=
  match anchorEscape? n, category? n, controlEscape? n with
  | some a, _, _ => .ok (.anchor, .anchor flags a, s)
  | none, some (negated, c), _ => .ok (.other, .oneOf flags false [.category negated c], s)
  | none, none, some c => .ok (.other, .point flags c, s)
  | none, none, none =>
    match digit? (.plain n) with
    | some 0 =>
      let (value, _, rest) := readDigits octalDigit? 8 2 0 0 s.marks
      .ok (.other, .point flags value, { s with marks := rest })
    | some first => (digitEscape flags s first).map fun (node, s) => (.other, node, s)
    | none => (pointEscape n s.marks).map fun (c, rest) => (.other, .point flags c, { s with marks := rest })

/-! ## Bracketed classes -/

def ClassItem.single? : ClassItem → Option Nat
  | .range low high => if low = high then some low else none
  | .category _ _ => none

/-- Read one member of a class, not yet knowing whether a range follows. -/
def readMember (marks : List Mark) : Except Fault (ClassItem × List Mark) :=
  match marks with
  | [] => .error .malformed
  | .escaped n :: rest => classEscape n rest
  | .plain n :: rest => .ok (.range n n, rest)

/-- Read the members of a class up to its closing bracket, which is a member itself when it comes first. -/
def readMembers (items : List ClassItem) : Nat → List Mark → Except Fault (List ClassItem × List Mark)
  | 0, _ => .error .malformed
  | fuel + 1, marks =>
    match marks with
    | [] => .error .malformed
    | mark :: behind =>
      if mark.isChar ']' && !items.isEmpty then .ok (items.reverse, behind)
      else do
        let (first, rest) ← readMember marks
        match rest with
        | dash :: next :: more =>
          if dash.isChar '-' then
            if next.isChar ']' then .ok ((.range 0x2D 0x2D :: first :: items).reverse, more)
            else
              let (second, more) ← readMember (next :: more)
              match first.single?, second.single? with
              | some low, some high =>
                if high < low then .error .malformed else readMembers (.range low high :: items) fuel more
              | _, _ => .error .malformed
          else readMembers (first :: items) fuel rest
        | [dash] => if dash.isChar '-' then .error .malformed else readMembers (first :: items) fuel rest
        | [] => .error .malformed

def readClass (flags : Flags) (marks : List Mark) : Except Fault (Node × List Mark) := do
  let (negated, marks) :=
    match marks with
    | mark :: rest => if mark.isChar '^' then (true, rest) else (false, marks)
    | [] => (false, marks)
  let (items, rest) ← readMembers [] (marks.length + 1) marks
  return (.oneOf flags negated items, rest)

/-! ## Repetition -/

/-- The count from which on a repetition is past all bounds. -/
def countLimit : Nat := 4294967295

/-- Read the bounds behind an opening brace; none if what follows is no bounds and the brace stands for itself. -/
def readBounds (marks : List Mark) : Except Fault (Option ((Nat × Option Nat) × List Mark)) := do
  match marks with
  | [] => return none
  | mark :: _ =>
    if mark.isChar '\x7d' then return none
    let (low, lowDigits, rest) := readDigits digit? 10 marks.length 0 0 marks
    let (high, highDigits, rest) :=
      match rest with
      | comma :: more =>
        if comma.isChar ',' then readDigits digit? 10 more.length 0 0 more else (low, lowDigits, rest)
      | [] => (low, lowDigits, rest)
    match rest with
    | close :: more =>
      if close.isChar '\x7d' then
        if 0 < lowDigits && countLimit ≤ low then throw .tooMany
        if 0 < highDigits && countLimit ≤ high then throw .tooMany
        if 0 < highDigits && high < low then throw .malformed
        return some ((low, if 0 < highDigits then some high else none), more)
      else return none
    | [] => return none

/-- Put a repetition around the last part of a sequence. -/
def repeatLast (items : Items) (low : Nat) (high : Option Nat) (s : ReaderState) : Except Fault (Items × ReaderState) :=
  match items with
  | (.other, body) :: before =>
    match s.take? '?', s.take? '+' with
    | some s, _ => .ok ((.repetition, .repetition .lazy low high body) :: before, s)
    | none, some s => .ok ((.repetition, .repetition .possessive low high body) :: before, s)
    | none, none => .ok ((.repetition, .repetition .greedy low high body) :: before, s)
  | _ => .error .malformed

/-! ## Switches and names -/

def isSwitch (mark : Mark) : Bool :=
  ['i', 'L', 'm', 's', 'x', 'a', 't', 'u'].any mark.isChar

def readSwitches (letters : List Char) : List Mark → List Char × List Mark
  | [] => (letters.reverse, [])
  | mark :: rest =>
    match mark.char? with
    | some c => if isSwitch mark then readSwitches (c :: letters) rest else (letters.reverse, mark :: rest)
    | none => (letters.reverse, mark :: rest)

def Flags.assign (flags : Flags) (on : Bool) (letter : Char) : Flags :=
  if letter = 'i' then { flags with ignoreCase := on }
  else if letter = 'm' then { flags with multiline := on }
  else if letter = 's' then { flags with dotAll := on }
  else if letter = 'x' then { flags with verbose := on }
  else if letter = 'a' then { flags with ascii := on, unicode := false }
  else if letter = 'u' then { flags with ascii := false, unicode := on }
  else flags

/-- Set a switch for the whole pattern; switches that exclude one another are found out at its end. -/
def Flags.switchOn (flags : Flags) (letter : Char) : Flags :=
  if letter = 'a' then { flags with ascii := true }
  else if letter = 'u' then { flags with unicode := true }
  else if letter = 't' then { flags with unrepeated := true }
  else flags.assign true letter

/-- What a group of switches does: set them for the whole pattern, or for the part behind a colon. -/
inductive Switches
  | whole (on : List Char) (rest : List Mark)
  | scoped (on off : List Char) (rest : List Mark)

/-- Switches that may be switched on together: of the letters for scripts only one kind, and never the locale's. -/
def compatible (on : List Char) : Bool :=
  !on.contains 'L' && !(on.contains 'a' && on.contains 'u')

/-- Read a group of switches behind its question mark. -/
def readSwitchGroup (marks : List Mark) : Except Fault Switches :=
  let (on, rest) := readSwitches [] marks
  if !compatible on then .error .malformed
  else
    match rest with
    | [] => .error .malformed
    | mark :: rest =>
      if mark.isChar ')' && !on.isEmpty then .ok (.whole on rest)
      else if on.contains 't' then .error .malformed
      else if mark.isChar ':' && !on.isEmpty then .ok (.scoped on [] rest)
      else if mark.isChar '-' then
        let (off, rest) := readSwitches [] rest
        match rest with
        | [] => .error .malformed
        | close :: rest =>
          if off.isEmpty || !close.isChar ':' || off.any (fun c => ['a', 'u', 'L', 't'].contains c || on.contains c) then
            .error .malformed
          else .ok (.scoped on off rest)
      else .error .malformed

/-- Read a name up to the character that ends it. -/
def readName (stop : Char) (name : List Char) : List Mark → Except Fault (List Char × List Mark)
  | [] => .error .malformed
  | mark :: rest =>
    if mark.isChar stop then (if name.isEmpty then .error .malformed else .ok (name.reverse, rest))
    else
      match mark.char? with
      | some c => readName stop (c :: name) rest
      | none => .error .malformed

/-- A name of letters, digits and low lines that does not begin with a digit. -/
def isIdentifier : List Char → Bool
  | [] => false
  | c :: rest =>
    isWordPoint c.toNat && !isDecimalDigit c.toNat && rest.all fun d => isWordPoint d.toNat

/-- Pass over a comment up to its closing parenthesis. -/
def skipComment : List Mark → Except Fault (List Mark)
  | [] => .error .malformed
  | mark :: rest => if mark.isChar ')' then .ok rest else skipComment rest

def skipLine : List Mark → List Mark
  | [] => []
  | mark :: rest => if mark.isChar '\n' then rest else skipLine rest

/-- The blanks that a verbose pattern skips. -/
def isSkipped (mark : Mark) : Bool :=
  [' ', '\t', '\n', '\r', '\x0b', '\x0c'].any mark.isChar

/-- A closing parenthesis must follow. -/
def close (s : ReaderState) : Except Fault ReaderState :=
  match s.take? ')' with
  | some s => .ok s
  | none => .error .malformed

/-- The group that a conditional asks about. -/
def askedGroup (s : ReaderState) (name : List Char) : Except Fault (Nat × ReaderState) :=
  if isIdentifier name then
    match s.names.lookup (String.ofList name) with
    | some index => .ok (index, s)
    | none => .error .malformed
  else
    match Spelled.integer? name with
    | some index =>
      if 0 < index then .ok (index.toNat, { s with asked := index.toNat :: s.asked }) else .error .malformed
    | none => .error .malformed

/-! ## The grammar -/

def alternatives (first : Node) (others : List Node) : Node :=
  match others with
  | [] => first
  | next :: rest => .alt first (alternatives next rest)

mutual

/-- Read alternatives up to a closing parenthesis or the end. -/
def readAlternatives (top : Bool) (flags : Flags) : Nat → ReaderState → Except Fault (Node × ReaderState)
  | 0, _ => .error .malformed
  | fuel + 1, s => do
    let (first, s) ← readSequence top flags [] fuel s
    let flags := if top then s.flags else flags
    let (others, s) ← readOthers top flags fuel s
    return (alternatives first others, s)

def readOthers (top : Bool) (flags : Flags) : Nat → ReaderState → Except Fault (List Node × ReaderState)
  | 0, _ => .error .malformed
  | fuel + 1, s =>
    match s.take? '|' with
    | none => .ok ([], s)
    | some s => do
      let (next, s) ← readSequence false flags [] fuel s
      let (others, s) ← readOthers top flags fuel s
      return (next :: others, s)

/-- Read a sequence; `first` holds where switches for the whole pattern may still be set. -/
def readSequence (first : Bool) (flags : Flags) (items : Items) :
    Nat → ReaderState → Except Fault (Node × ReaderState)
  | 0, _ => .error .malformed
  | fuel + 1, s =>
    match s.marks with
    | [] => .ok (items.node, s)
    | mark :: rest =>
      let s' := { s with marks := rest }
      if mark.isChar '|' || mark.isChar ')' then .ok (items.node, s)
      else if flags.verbose && isSkipped mark then readSequence first flags items fuel s'
      else if flags.verbose && mark.isChar '#' then
        readSequence first flags items fuel { s with marks := skipLine rest }
      else
        match mark with
        | .escaped n => do
          let (kind, node, s) ← readEscape flags s' n
          readSequence first flags ((kind, node) :: items) fuel s
        | .plain n =>
          if n = '['.toNat then do
            let (node, rest) ← readClass flags rest
            readSequence first flags ((.other, node) :: items) fuel { s with marks := rest }
          else if n = '?'.toNat then do
            let (items, s) ← repeatLast items 0 (some 1) s'
            readSequence first flags items fuel s
          else if n = '*'.toNat then do
            let (items, s) ← repeatLast items 0 none s'
            readSequence first flags items fuel s
          else if n = '+'.toNat then do
            let (items, s) ← repeatLast items 1 none s'
            readSequence first flags items fuel s
          else if n = 0x7B then do
            match ← readBounds rest with
            | some ((low, high), rest) =>
              let (items, s) ← repeatLast items low high { s with marks := rest }
              readSequence first flags items fuel s
            | none => readSequence first flags ((.other, .point flags n) :: items) fuel s'
          else if n = '.'.toNat then readSequence first flags ((.other, .any flags) :: items) fuel s'
          else if n = '^'.toNat then
            readSequence first flags ((.anchor, .anchor flags .lineStart) :: items) fuel s'
          else if n = '$'.toNat then
            readSequence first flags ((.anchor, .anchor flags .lineEnd) :: items) fuel s'
          else if n = '('.toNat then do
            match s'.take? '?' with
            | none =>
              let (node, s) ← readGroup flags none fuel s'
              readSequence first flags ((.other, node) :: items) fuel s
            | some s =>
              match ← readExtension (first && items.isEmpty) flags fuel s with
              | (none, flags, s) => readSequence first flags items fuel s
              | (some node, flags, s) => readSequence first flags ((.other, node) :: items) fuel s
          else readSequence first flags ((.other, .point flags n) :: items) fuel s'

/-- Read the body of a group that keeps what it reads. -/
def readGroup (flags : Flags) (name : Option String) : Nat → ReaderState → Except Fault (Node × ReaderState)
  | 0, _ => .error .malformed
  | fuel + 1, s => do
    let (index, s) ← s.openGroup name
    let (body, s) ← readAlternatives false flags fuel s
    let s ← close s
    return (.group index body, s.closeGroup index body)

/-- Read what follows an opening parenthesis and a question mark.  A comment and switches are no part of a sequence. -/
def readExtension (mayset : Bool) (flags : Flags) :
    Nat → ReaderState → Except Fault (Option Node × Flags × ReaderState)
  | 0, _ => .error .malformed
  | fuel + 1, s =>
    match s.marks with
    | [] => .error .malformed
    | mark :: rest =>
      let s' := { s with marks := rest }
      if mark.isChar ':' then do
        let (body, s) ← readAlternatives false flags fuel s'
        return (some body, flags, ← close s)
      else if mark.isChar '>' then do
        let (body, s) ← readAlternatives false flags fuel s'
        return (some (.atomic body), flags, ← close s)
      else if mark.isChar '#' then do
        return (none, flags, { s with marks := ← skipComment rest })
      else if mark.isChar '=' || mark.isChar '!' then do
        let (body, s) ← readAlternatives false flags fuel s'
        return (some (.ahead (mark.isChar '!') body), flags, ← close s)
      else if mark.isChar '<' then
        match rest with
        | [] => .error .malformed
        | kind :: rest =>
          if kind.isChar '=' || kind.isChar '!' then do
            let outer := s.behindFrom
            let inner := outer.getD s.widths.length
            let (body, s) ← readAlternatives false flags fuel { s with marks := rest, behindFrom := some inner }
            let s ← close { s with behindFrom := outer }
            match (body.width s.widthOf).fixed? with
            | some width => return (some (.behind (kind.isChar '!') width body), flags, s)
            | none => return (some .empty, flags, { s with unfixed := true })
          else .error .malformed
      else if mark.isChar 'P' then
        match rest with
        | [] => .error .malformed
        | kind :: rest =>
          if kind.isChar '<' then do
            let (name, rest) ← readName '>' [] rest
            if !isIdentifier name then throw .malformed
            let (node, s) ← readGroup flags (some (String.ofList name)) fuel { s with marks := rest }
            return (some node, flags, s)
          else if kind.isChar '=' then do
            let (name, rest) ← readName ')' [] rest
            match s.names.lookup (String.ofList name) with
            | some index =>
              if s.isClosed index && s.mayRefer index then
                return (some (.backReference flags index), flags, { s with marks := rest })
              else throw .malformed
            | none => throw .malformed
          else .error .malformed
      else if mark.isChar '(' then do
        let (name, rest) ← readName ')' [] rest
        let (index, s) ← askedGroup { s with marks := rest } name
        if !s.mayRefer index then throw .malformed
        let (yes, s) ← readSequence false flags [] fuel s
        match s.take? '|' with
        | none =>
          let s ← close s
          return (some (.conditional index yes .empty), flags, s)
        | some s =>
          let (no, s) ← readSequence false flags [] fuel s
          let s ← close s
          return (some (.conditional index yes no), flags, s)
      else do
        match ← readSwitchGroup s.marks with
        | .whole on rest =>
          if !mayset then throw .malformed
          let whole := on.foldl Flags.switchOn s.flags
          return (none, whole, { s with marks := rest, flags := whole })
        | .scoped on off rest =>
          let inner := off.foldl (fun f c => f.assign false c) (on.foldl (fun f c => f.assign true c) flags)
          let (body, s) ← readAlternatives false inner fuel { s with marks := rest }
          return (some body, flags, ← close s)

end

end Pattern

def Pattern.read (t : Text) : Except Pattern.Fault Pattern.Node := do
  let marks ← Pattern.Mark.cut (t.map CodePoint.val)
  let (node, s) ← Pattern.readAlternatives true .none (4 * marks.length + 8) (.start marks)
  if s.flags.ascii && s.flags.unicode then throw .conflict
  if !s.marks.isEmpty || s.asked.any (fun index => s.widths.length < index) || s.unfixed then throw .malformed
  if s.flags.unrepeated && node.repeats then throw .malformed
  return node

end SchemaLint
