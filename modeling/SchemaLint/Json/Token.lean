import SchemaLint.Json.Value

/-!
# JSON tokens

The reader sees a text as a list of placed tokens.  Scanning never fails as a whole: what is no token, and a
string literal that is malformed, are tokens of their own that carry their complaint, so that the grammar
decides whether the complaint or a misplaced token is what the reader of a report should hear of first.  A scan
stops behind such a token.
-/

namespace SchemaLint

namespace Json

/-- What can be wrong inside a string literal. -/
inductive StringFault
  | unterminated
  | controlCharacter
  | unknownEscape
  | badUnicodeEscape
  deriving DecidableEq

/-- The three numbers that are not JSON but that a lenient reader knows. -/
inductive Constant
  | nan
  | infinity
  | minusInfinity
  deriving DecidableEq

/-- The name of a constant as it is written. -/
def Constant.name : Constant → String
  | nan => "NaN"
  | infinity => "Infinity"
  | minusInfinity => "-Infinity"

def Constant.value : Constant → Binary64
  | nan => .nan
  | infinity => .infinite false
  | minusInfinity => .infinite true

/-- A number literal as written: an integer is told from a float by the absence of fraction and exponent. -/
inductive NumberLiteral
  | int (negative : Bool) (digits : List Char)
  | float (negative : Bool) (whole fraction : List Char) (exponent : Int)
  deriving DecidableEq

/-- A token of JSON text. -/
inductive Token
  | openObject
  | closeObject
  | openArray
  | closeArray
  | colon
  | comma
  | null
  | bool (b : Bool)
  | string (s : Text)
  | number (literal : NumberLiteral)
  | constant (c : Constant)
  | badString (fault : StringFault) (offset : Nat)
  | junk
  | stop
  deriving DecidableEq

/-- A token and the offset of its first code point. -/
structure Placed where
  token : Token
  offset : Nat
  deriving DecidableEq

namespace Token

def isBlank : CodePoint → Bool
  | .scalar c => c = ' ' || c = '\t' || c = '\n' || c = '\r'
  | .surrogate _ => false

def isDigit : CodePoint → Bool
  | .scalar c => c.isDigit
  | .surrogate _ => false

def hexValue? : CodePoint → Option Nat
  | .scalar c =>
    if c.isDigit then some (c.toNat - 48)
    else if 'a' ≤ c && c ≤ 'f' then some (c.toNat - 87)
    else if 'A' ≤ c && c ≤ 'F' then some (c.toNat - 55)
    else none
  | .surrogate _ => none

/-- The number that four hexadecimal digits at the front of a text spell, and what follows them. -/
def hex4? : Text → Option (Nat × Text)
  | a :: b :: c :: d :: rest => do
    let a ← hexValue? a
    let b ← hexValue? b
    let c ← hexValue? c
    let d ← hexValue? d
    return (a * 4096 + b * 256 + c * 16 + d, rest)
  | _ => none

/-! ## String literals -/

/-- The code point that a one-letter escape stands for. -/
def simpleEscape? : CodePoint → Option Char
  | .scalar '"' => some '"'
  | .scalar '\\' => some '\\'
  | .scalar '/' => some '/'
  | .scalar 'b' => some '\x08'
  | .scalar 'f' => some '\x0c'
  | .scalar 'n' => some '\n'
  | .scalar 'r' => some '\r'
  | .scalar 't' => some '\t'
  | _ => none

/-- What an escape at the front of a text gives: a code point and the number of code points it took, or a fault. -/
inductive Escape
  | point (c : CodePoint) (length : Nat)
  | fault (f : StringFault) (at_ : Nat)

/-- The first unit of a pair. -/
def isHigh (n : Nat) : Bool :=
  0xD800 ≤ n && n < 0xDC00

/-- The second unit of a pair. -/
def isLow (n : Nat) : Bool :=
  0xDC00 ≤ n && n < 0xE000

/-- A number below 0x110000 as a code point. -/
def point (n length : Nat) : Escape :=
  match CodePoint.ofNat? n with
  | some c => .point c length
  | none => .fault .badUnicodeEscape 1

/-- What a unit gives, given what follows it: the first unit of a pair takes its partner along. -/
def readUnit (unit : Nat) (behind : Text) : Escape :=
  if isHigh unit then
    match behind with
    | .scalar '\\' :: .scalar 'u' :: more =>
      if (more.drop 4).isEmpty then point unit 5
      else
        match hex4? more with
        | none => .fault .badUnicodeEscape 7
        | some (next, _) =>
          if isLow next then point (0x10000 + (unit - 0xD800) * 0x400 + (next - 0xDC00)) 11
          else point unit 5
    | _ => point unit 5
  else point unit 5

/--
Read the escape behind a backslash, given what follows the backslash.  Two escapes that spell a pair of units make
one code point; a unit without its partner stands for itself.  The last digit of an escape must not be the last
code point of the text.
-/
def readEscape (rest : Text) : Escape :=
  match rest with
  | [] => .fault .unterminated 0
  | .scalar 'u' :: digits =>
    match hex4? digits with
    | none => .fault .badUnicodeEscape 1
    | some (unit, behind) => if behind.isEmpty then .fault .badUnicodeEscape 1 else readUnit unit behind
  | c :: _ =>
    match simpleEscape? c with
    | some e => .point e 1
    | none => .fault .unknownEscape 0

/-- The rest of a string literal, or its fault and where that lies. -/
inductive Ending
  | closed (content : Text) (rest : Text) (offset : Nat)
  | fault (f : StringFault) (offset : Nat)

/--
Read a string literal behind its opening quote, which stood at `start`.  `skip` counts the code points of the
last escape that are still to be passed over.
-/
def readString (start : Nat) (content : Text) (offset skip : Nat) : Text → Ending
  | [] => .fault .unterminated start
  | c :: rest =>
    match skip with
    | skip + 1 => readString start content (offset + 1) skip rest
    | 0 =>
      if c = '"' then .closed content.reverse rest (offset + 1)
      else if c = '\\' then
        match readEscape rest with
        | .point e length => readString start (e :: content) (offset + 1) length rest
        | .fault .unterminated _ => .fault .unterminated start
        | .fault f behind => .fault f (offset + behind)
      else if c.val ≤ 0x1F then .fault .controlCharacter offset
      else readString start (c :: content) (offset + 1) 0 rest

/-! ## Number literals -/

/-- The digits at the front of a text, as characters. -/
def digits (t : Text) : List Char :=
  (t.takeWhile isDigit).map CodePoint.toChar

def spell (ds : List Char) : Nat :=
  ds.foldl (fun n c => n * 10 + (c.toNat - 48)) 0

/-- The fraction at the front of a text: a point and at least one digit. -/
def fraction : Text → List Char
  | .scalar '.' :: rest => digits rest
  | _ => []

/-- A sign at the front of a text: whether it is a minus, the number of code points it takes, and what follows it. -/
structure Signed where
  negative : Bool
  length : Nat
  rest : Text

def exponentSign : Text → Signed
  | .scalar '-' :: rest => ⟨true, 1, rest⟩
  | .scalar '+' :: rest => ⟨false, 1, rest⟩
  | t => ⟨false, 0, t⟩

def numberSign : Text → Signed
  | .scalar '-' :: rest => ⟨true, 1, rest⟩
  | t => ⟨false, 0, t⟩

/-- The exponent at the front of a text, with the number of code points it takes. -/
def exponent? : Text → Option (Int × Nat)
  | .scalar e :: rest =>
    if e = 'e' || e = 'E' then
      let sign := exponentSign rest
      match digits sign.rest with
      | [] => none
      | ds =>
        let size : Int := spell ds
        some (if sign.negative then -size else size, 1 + sign.length + ds.length)
    else none
  | _ => none

/-- The digits before the point; a leading zero stands alone. -/
def whole (t : Text) : List Char :=
  match digits t with
  | '0' :: _ => ['0']
  | ds => ds

/-- The number literal at the front of a text, with the number of code points it takes. -/
def number? (t : Text) : Option (NumberLiteral × Nat) :=
  let sign := numberSign t
  let whole := whole sign.rest
  if whole.isEmpty then none
  else
    let behind := sign.rest.drop whole.length
    let part := fraction behind
    let partLength := if part.isEmpty then 0 else part.length + 1
    match exponent? (behind.drop partLength) with
    | some (power, powerLength) =>
      some (.float sign.negative whole part power, sign.length + whole.length + partLength + powerLength)
    | none =>
      if part.isEmpty then some (.int sign.negative whole, sign.length + whole.length)
      else some (.float sign.negative whole part 0, sign.length + whole.length + partLength)

/-! ## Scanning -/

def words : List (String × Token) :=
  [("null", .null), ("true", .bool true), ("false", .bool false), ("NaN", .constant .nan),
    ("Infinity", .constant .infinity), ("-Infinity", .constant .minusInfinity)]

/-- The word at the front of a text, with its length. -/
def word? (t : Text) : Option (Token × Nat) :=
  words.findSome? fun (name, token) =>
    if (Text.ofString name).isPrefixOf t then some (token, name.length) else none

def mark? : CodePoint → Option Token
  | .scalar '{' => some .openObject
  | .scalar '}' => some .closeObject
  | .scalar '[' => some .openArray
  | .scalar ']' => some .closeArray
  | .scalar ':' => some .colon
  | .scalar ',' => some .comma
  | _ => none

/--
Scan the tokens of a text.  `seen` holds those found so far, last first, and `skip` counts the code points of the
last one that are still to be passed over.
-/
def scanFrom (seen : List Placed) (offset skip : Nat) : Text → List Placed
  | [] => (⟨.stop, offset⟩ :: seen).reverse
  | c :: rest =>
    match skip with
    | skip + 1 => scanFrom seen (offset + 1) skip rest
    | 0 =>
      if isBlank c then scanFrom seen (offset + 1) 0 rest
      else if c = '"' then
        match readString offset [] (offset + 1) 0 rest with
        | .closed content _ behind =>
          scanFrom (⟨.string content, offset⟩ :: seen) (offset + 1) (behind - offset - 1) rest
        | .fault f at_ => (⟨.badString f at_, offset⟩ :: seen).reverse
      else
        match mark? c with
        | some token => scanFrom (⟨token, offset⟩ :: seen) (offset + 1) 0 rest
        | none =>
          match word? (c :: rest) with
          | some (token, length) => scanFrom (⟨token, offset⟩ :: seen) (offset + 1) (length - 1) rest
          | none =>
            match number? (c :: rest) with
            | some (literal, length) =>
              scanFrom (⟨.number literal, offset⟩ :: seen) (offset + 1) (length - 1) rest
            | none => (⟨.junk, offset⟩ :: seen).reverse

/-- The tokens of a text, each with its offset; the last one is the end, junk or a malformed string. -/
def scan (t : Text) : List Placed :=
  scanFrom [] 0 0 t

end Token

end Json

end SchemaLint
