import SchemaLint.Number.Spelled
import SchemaLint.Yaml.Token
import SchemaLint.Yaml.Moment

/-!
# Kinds of nodes

Every node has a kind, which its tag names.  A plain scalar without a tag has the kind that its shape shows: truth values,
whole numbers in four notations and in base sixty, fractions, dates, the null value, and two signs with a meaning
inside of mappings.
-/

namespace SchemaLint

namespace Yaml

/-- What a node is. -/
inductive Kind
  | null
  | bool
  | int
  | float
  | binary
  | timestamp
  | orderedPairs
  | pairs
  | set
  | string
  | sequence
  | mapping
  /-- The key whose value is merged into the mapping around it. -/
  | merge
  /-- The key whose value stands for the mapping around it. -/
  | standIn
  | unknown
  deriving DecidableEq

namespace Kind

/-- The beginning of the names of tags. -/
def stem : String := "tag:yaml.org,2002:"

def names : List (String × Kind) :=
  [("null", null), ("bool", bool), ("int", int), ("float", float), ("binary", binary), ("timestamp", timestamp),
    ("omap", orderedPairs), ("pairs", pairs), ("set", set), ("str", string), ("seq", sequence), ("map", mapping),
    ("merge", merge), ("value", standIn)]

def ofTag (tag : String) : Kind :=
  ((names.find? fun n => stem ++ n.1 = tag).map Prod.snd).getD unknown

end Kind

/-! ## Shapes -/

def areDigits (cs : List Char) : Bool :=
  cs.all fun c => c.isDigit || c = '_'

/-- A decimal digit and then digits and low lines; the rest behind them. -/
def digitsThen? : List Char → Option (List Char)
  | c :: rest => if c.isDigit then some (rest.dropWhile fun d => d.isDigit || d = '_') else none
  | [] => none

/-- The rest behind the sign that a number may have. -/
def dropSign : List Char → List Char
  | '+' :: rest => rest
  | '-' :: rest => rest
  | cs => cs

/-- At least one group behind a colon, each of them a number below sixty; the rest behind them. -/
def sixtiesThen? : Nat → List Char → Option (List Char)
  | 0, _ => none
  | fuel + 1, cs =>
    match cs with
    | ':' :: rest =>
      let digits := rest.takeWhile Char.isDigit
      let fits :=
        match digits with
        | [_] => true
        | [c, _] => c.toNat ≤ '5'.toNat
        | _ => false
      if fits then
        let behind := rest.drop digits.length
        some ((sixtiesThen? fuel behind).getD behind)
      else none
    | _ => none

/-- Whether characters are an exponent, which has a sign; there may be none. -/
def isExponent : List Char → Bool
  | [] => true
  | e :: sign :: rest =>
    (e = 'e' || e = 'E') && (sign = '+' || sign = '-') && !rest.isEmpty && rest.all Char.isDigit
  | _ => false

/-- Whether characters have the shape of a whole number. -/
def isIntShape (cs : List Char) : Bool :=
  match dropSign cs with
  | '0' :: 'b' :: rest => !rest.isEmpty && rest.all fun c => c = '0' || c = '1' || c = '_'
  | '0' :: 'x' :: rest =>
    !rest.isEmpty && rest.all fun c => c.isDigit || ('a' ≤ c && c ≤ 'f') || ('A' ≤ c && c ≤ 'F') || c = '_'
  | '0' :: rest => rest.all fun c => ('0' ≤ c && c ≤ '7') || c = '_'
  | cs =>
    match digitsThen? cs with
    | some [] => true
    | some rest => sixtiesThen? rest.length rest = some []
    | none => false

def isFloatShape (cs : List Char) : Bool :=
  let named := [".inf", ".Inf", ".INF"].map String.toList
  let missing := [".nan", ".NaN", ".NAN"].map String.toList
  let pointed :=
    match cs with
    | '.' :: rest =>
      match digitsThen? rest with
      | some rest => isExponent rest
      | none => false
    | _ => false
  let whole :=
    match digitsThen? (dropSign cs) with
    | some ('.' :: rest) => isExponent (rest.dropWhile fun d => d.isDigit || d = '_')
    | some rest =>
      match sixtiesThen? rest.length rest with
      | some ('.' :: rest) => areDigits rest
      | _ => false
    | none => false
  named.contains (dropSign cs) || missing.contains cs || pointed || whole

/-! ## The kind of a plain scalar -/

def truthWords : List (String × Bool) :=
  [("yes", true), ("no", false), ("true", true), ("false", false), ("on", true), ("off", false)]

/-- Whether a word is a truth value: in lower case, in upper case or with one capital. -/
def isTruthWord (cs : List Char) : Bool :=
  truthWords.any fun (word, _) =>
    let low := word.toList
    let capital := match low with
      | c :: rest => c.toUpper :: rest
      | [] => []
    cs = low || cs = capital || cs = low.map Char.toUpper

/-- The kind that the shape of a plain scalar shows. -/
def Kind.ofPlain (cs : List Char) : Kind :=
  if [[], ['~'], "null".toList, "Null".toList, "NULL".toList].contains cs then .null
  else if isTruthWord cs then .bool
  else if isFloatShape cs then .float
  else if isIntShape cs then .int
  else if cs = ['<', '<'] then .merge
  else if Moment.isShape cs then .timestamp
  else if cs = ['='] then .standIn
  else .string

end Yaml

end SchemaLint
