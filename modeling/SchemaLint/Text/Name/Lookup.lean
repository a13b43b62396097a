import SchemaLint.Text.Range
import SchemaLint.Text.Split
import SchemaLint.Text.Name.Letters
import SchemaLint.Text.Name.Symbols
import SchemaLint.Text.Name.Pictographs
import SchemaLint.Text.Name.Others

/-!
# Characters by name

A character is found by its name, whose letters may be of either case.  The names of the letters of living scripts, of
symbols and of pictographs are listed; those of ideographs, of Korean syllables and of variation selectors follow from
the code point.

A table of names is a text of rows.  A row holds the first code point, in hexadecimal digits, what the names of the row
begin with, and behind a bar how the names of consecutive code points end, with commas between them.
-/

namespace SchemaLint

namespace CharacterName

/-- The value of a hexadecimal digit; letters have to be capitals. -/
def digitValue? (c : Char) : Option Nat :=
  if c.isDigit then some (c.toNat - 48)
  else if 'A' ≤ c && c ≤ 'F' then some (c.toNat - 55)
  else none

def number? (digits : List Char) : Option Nat :=
  digits.foldlM (fun n c => (digitValue? c).map fun d => n * 16 + d) 0

/-! ## Tables -/

/-- A row of a table. -/
structure Row where
  first : Nat
  stem : List Char
  /-- How they end, with commas between the endings. -/
  endings : List Char

namespace Row

/-- Read a row; a line that is none names nothing. -/
def ofLine? (line : List Char) : Option Row := do
  let digits := line.takeWhile (· != ' ')
  let names := line.drop (digits.length + 1)
  if digits.isEmpty then none
  return { first := ← number? digits, stem := names.takeWhile (· != '|'), endings := (names.dropWhile (· != '|')).drop 1 }

/-- The place of a name among those of a row. -/
def place? (r : Row) (name : List Char) : Option Nat :=
  if r.stem.isPrefixOf name then (splitChars ',' r.endings).findIdx? (· = name.drop r.stem.length) else none

end Row

def rows (table : String) : List Row :=
  (splitChars '\n' table.toList).filterMap Row.ofLine?

/-- The code point of a name in the tables. -/
def listed? (name : List Char) : Option Nat :=
  [latin, greek, cyrillic, neighbours, kana, wide, punctuation, operators, technical, shapes, letterlike, tiles,
    pictographs].findSome? fun table => (rows table).findSome? fun r => (r.place? name).map (r.first + ·)

/-- The code point of another name than the proper one. -/
def other? (name : List Char) : Option Nat :=
  (rows others).findSome? fun r => (r.place? name).map fun _ => r.first

/-! ## Names that follow from the code point -/

/-- The code point of a digit that is named by its script. -/
def digit? (name : List Char) : Option Nat :=
  scriptsWithDigits.findSome? fun (nought, script) =>
    let stem := (script ++ " DIGIT ").toList
    if stem.isPrefixOf name then
      (digitWords.findIdx? fun word => word.toList = name.drop stem.length).map (nought + ·)
    else none

/-- What follows a stem. -/
def behind? (stem : String) (name : List Char) : Option (List Char) :=
  if stem.toList.isPrefixOf name then some (name.drop stem.length) else none

def ideographs : Ranges :=
  [(0x3400, 0x4DBF), (0x4E00, 0x9FFF), (0x20000, 0x2A6DF), (0x2A700, 0x2B738), (0x2B740, 0x2B81D), (0x2B820, 0x2CEA1),
    (0x2CEB0, 0x2EBE0), (0x30000, 0x3134A)]

/-- The ideographs that are there for the sake of other encodings. -/
def compatibilityIdeographs : Ranges :=
  [(0xF900, 0xFA6D), (0xFA70, 0xFAD9), (0x2F800, 0x2FA1D)]

/-- The ideograph that a name numbers; the name has to be in capitals. -/
def ideograph? (name : List Char) : Option Nat := do
  let digits ← behind? "CJK UNIFIED IDEOGRAPH-" name
  let n ← number? digits
  if (digits.length = 4 || digits.length = 5) && ideographs.contains n then some n else none

/-- The ideograph for the sake of another encoding that a name numbers. -/
def compatibilityIdeograph? (name : List Char) : Option Nat := do
  let digits ← behind? "CJK COMPATIBILITY IDEOGRAPH-" name
  let n ← number? digits
  if digits.length = (if n < 0x10000 then 4 else 5) && compatibilityIdeographs.contains n then some n else none

def selector? (name : List Char) : Option Nat := do
  let digits ← behind? "VARIATION SELECTOR-" name <|> behind? "VS" name
  let n ← (String.ofList digits).toNat?
  if (toString n).toList != digits || n = 0 then none
  else if n ≤ 16 then some (0xFDFF + n)
  else if n ≤ 256 then some (0xE00EF + n)
  else none

/-- How a Korean syllable begins. -/
def leads : List String :=
  ["G", "GG", "N", "D", "DD", "R", "M", "B", "BB", "S", "SS", "", "J", "JJ", "C", "K", "T", "P", "H"]

/-- The vowels of Korean syllables. -/
def vowels : List String :=
  ["A", "AE", "YA", "YAE", "EO", "E", "YEO", "YE", "O", "WA", "WAE", "OE", "YO", "U", "WEO", "WE", "WI", "YU", "EU", "YI",
    "I"]

/-- How a Korean syllable ends. -/
def tails : List String :=
  ["", "G", "GG", "GS", "N", "NJ", "NH", "D", "L", "LG", "LM", "LB", "LS", "LT", "LP", "LH", "M", "B", "BS", "S", "SS",
    "NG", "J", "C", "K", "T", "P", "H"]

/-- The longest part that a text begins with: its place among the parts, and what follows it. -/
def longest? (parts : List String) (cs : List Char) : Option (Nat × List Char) :=
  let fitting := (parts.zipIdx.filter fun part => part.1.toList.isPrefixOf cs)
  let best := fitting.foldl
    (fun (best : Option (String × Nat)) part =>
      match best with
      | some b => if b.1.length < part.1.length then some part else best
      | none => some part) none
  best.map fun part => (part.2, cs.drop part.1.length)

/-- The Korean syllable that a name spells; the name has to be in capitals. -/
def syllable? (name : List Char) : Option Nat := do
  let spelled ← behind? "HANGUL SYLLABLE " name
  let (lead, rest) ← longest? leads spelled
  let (vowel, rest) ← longest? vowels rest
  let (tail, rest) ← longest? tails rest
  if rest.isEmpty then some (0xAC00 + (lead * 21 + vowel) * 28 + tail) else none

/-- The code point of the character with a name. -/
def find? (name : List Char) : Option Nat :=
  let capitals := name.map Char.toUpper
  ideograph? name <|> syllable? name <|> compatibilityIdeograph? capitals <|> selector? capitals <|> digit? capitals <|>
    listed? capitals <|> other? capitals

end CharacterName

end SchemaLint
