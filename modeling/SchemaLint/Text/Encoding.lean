import SchemaLint.Text.CodePoint

/-!
# Byte encodings

Documents are UTF-8 and nothing else; schemas may come in UTF-8, UTF-16 or UTF-32 and may carry surrogates that
no scalar value allows.  One loop decodes all of them: an encoding is known by what it reads at the front
of the remaining bytes, either a code point and the number of bytes it takes, or a fault that covers so many bytes.
Positions are byte offsets from the start of the decoded bytes.
-/

namespace SchemaLint

/-- The contents of a file or a reply, byte by byte. -/
abbrev Bytes := List UInt8

namespace Encoding

/-- What can be wrong at one place of encoded bytes. -/
inductive Reason
  | invalidStart
  | invalidContinuation
  | unexpectedEnd
  | truncated
  | illegalEncoding
  | illegalSurrogate
  | outOfRange
  | inSurrogateRange
  deriving DecidableEq

namespace Reason

def message : Reason → String
  | invalidStart => "invalid start byte"
  | invalidContinuation => "invalid continuation byte"
  | unexpectedEnd => "unexpected end of data"
  | truncated => "truncated data"
  | illegalEncoding => "illegal encoding"
  | illegalSurrogate => "illegal UTF-16 surrogate"
  | outOfRange => "code point not in range(0x110000)"
  | inSurrogateRange => "code point in surrogate code point range(0xd800, 0xe000)"

end Reason

/-- A reading of the front of some bytes: a code point of so many bytes, or a fault that covers so many. -/
inductive Front
  | point (c : CodePoint) (length : Nat)
  | fault (reason : Reason) (length : Nat)

/-- The first bytes that an encoding could not read. -/
structure Fault where
  encoding : String
  /-- The first byte of the fault and its offset. -/
  byte : UInt8
  start : Nat
  stop : Nat
  reason : Reason
  deriving DecidableEq

def hexByte (b : UInt8) : String :=
  let digit (n : Nat) : Char := Nat.digitChar n
  String.ofList [digit (b.toNat / 16), digit (b.toNat % 16)]

/-- The wording of a fault names the encoding, the bytes by offset and the reason. -/
def Fault.message (f : Fault) : String :=
  if f.stop = f.start + 1 then
    s!"'{f.encoding}' codec can't decode byte 0x{hexByte f.byte} in position {f.start}: {f.reason.message}"
  else
    s!"'{f.encoding}' codec can't decode bytes in position {f.start}-{f.stop - 1}: {f.reason.message}"

/-- Read all bytes; `skip` counts the bytes of the last code point that are still to be passed over. -/
def decodeFrom (name : String) (front : Bytes → Front) (seen : Text) (offset skip : Nat) : Bytes → Except Fault Text
  | [] => .ok seen.reverse
  | b :: rest =>
    match skip with
    | skip + 1 => decodeFrom name front seen (offset + 1) skip rest
    | 0 =>
      match front (b :: rest) with
      | .point c length => decodeFrom name front (c :: seen) (offset + 1) (length - 1) rest
      | .fault reason length => .error ⟨name, b, offset, offset + length, reason⟩

/-! ## UTF-8 -/

namespace Utf8

/-- A byte that continues a code point. -/
def isTail (b : UInt8) : Bool :=
  0x80 ≤ b.toNat && b.toNat < 0xC0

/-- The lowest and highest second byte that may follow a first byte of three or four. -/
def secondRange (first : Nat) : Nat × Nat :=
  if first = 0xE0 then (0xA0, 0xBF)
  else if first = 0xED then (0x80, 0x9F)
  else if first = 0xF0 then (0x90, 0xBF)
  else if first = 0xF4 then (0x80, 0x8F)
  else (0x80, 0xBF)

/-- A second byte fits its first byte when it lies in the range that the first byte leaves open. -/
def isSecond (first second : UInt8) : Bool :=
  (secondRange first.toNat).1 ≤ second.toNat && second.toNat ≤ (secondRange first.toNat).2

/-- The value of a tail byte. -/
def low (b : UInt8) : Nat :=
  b.toNat % 64

/-- The code point of a number that the ranges above already keep valid. -/
def point (n length : Nat) : Front :=
  match CodePoint.ofNat? n with
  | some c => .point c length
  | none => .fault .invalidStart 1

/--
The front of UTF-8 bytes.  A fault covers the bytes that could still have begun a code point, and at least one;
when the bytes end inside a code point that was good so far, it covers all that are left.
-/
def front : Bytes → Front
  | [] => .fault .unexpectedEnd 0
  | a :: rest =>
    let first := a.toNat
    if first < 0x80 then point first 1
    else if first < 0xC2 || 0xF5 ≤ first then .fault .invalidStart 1
    else if first < 0xE0 then
      match rest with
      | [] => .fault .unexpectedEnd 1
      | b :: _ => if isTail b then point ((first % 32) * 64 + low b) 2 else .fault .invalidContinuation 1
    else if first < 0xF0 then
      match rest with
      | [] => .fault .unexpectedEnd 1
      | [b] => if isSecond a b then .fault .unexpectedEnd 2 else .fault .invalidContinuation 1
      | b :: c :: _ =>
        if !isSecond a b then .fault .invalidContinuation 1
        else if !isTail c then .fault .invalidContinuation 2
        else point ((first % 16) * 4096 + low b * 64 + low c) 3
    else
      match rest with
      | [] => .fault .unexpectedEnd 1
      | [b] => if isSecond a b then .fault .unexpectedEnd 2 else .fault .invalidContinuation 1
      | [b, c] =>
        if !isSecond a b then .fault .invalidContinuation 1
        else if isTail c then .fault .unexpectedEnd 3 else .fault .invalidContinuation 2
      | b :: c :: d :: _ =>
        if !isSecond a b then .fault .invalidContinuation 1
        else if !isTail c then .fault .invalidContinuation 2
        else if !isTail d then .fault .invalidContinuation 3
        else point ((first % 8) * 262144 + low b * 4096 + low c * 64 + low d) 4

/-- The front of UTF-8 bytes in which three bytes may also spell a surrogate. -/
def lenientFront (bytes : Bytes) : Front :=
  match bytes with
  | a :: b :: c :: _ =>
    if a.toNat = 0xED && 0xA0 ≤ b.toNat && b.toNat < 0xC0 && isTail c then
      point (0xD000 + low b * 64 + low c) 3
    else front bytes
  | _ => front bytes

def decode (bytes : Bytes) : Except Fault Text :=
  decodeFrom "utf-8" front [] 0 0 bytes

/-- UTF-8 with surrogates. -/
def decodeLenient (bytes : Bytes) : Except Fault Text :=
  decodeFrom "utf-8" lenientFront [] 0 0 bytes

def encode (s : String) : Bytes :=
  s.toList.flatMap String.utf8EncodeChar

end Utf8

/-! ## UTF-16 and UTF-32 -/

/-- The order of the bytes within a unit. -/
inductive ByteOrder
  | little
  | big
  deriving DecidableEq

namespace ByteOrder

/-- The suffix of an encoding's name. -/
def name : ByteOrder → String
  | little => "le"
  | big => "be"

/-- The number that some bytes spell, most significant byte first. -/
def spell (bytes : Bytes) : Nat :=
  bytes.foldl (fun n b => n * 256 + b.toNat) 0

/-- The number that the bytes of one unit spell. -/
def unit (order : ByteOrder) (bytes : Bytes) : Nat :=
  match order with
  | little => spell bytes.reverse
  | big => spell bytes

end ByteOrder

namespace Utf16

/-- A unit that begins a pair. -/
def isHigh (n : Nat) : Bool :=
  0xD800 ≤ n && n < 0xDC00

/-- A unit that ends a pair. -/
def isLow (n : Nat) : Bool :=
  0xDC00 ≤ n && n < 0xE000

def join (high low : Nat) : Nat :=
  0x10000 + (high - 0xD800) * 0x400 + (low - 0xDC00)

/-- The front of UTF-16 bytes; a surrogate without its partner stands for itself. -/
def front (order : ByteOrder) (bytes : Bytes) : Front :=
  match bytes with
  | a :: b :: rest =>
    let unit := order.unit [a, b]
    let pair : Option Nat :=
      match rest with
      | c :: d :: _ =>
        let next := order.unit [c, d]
        if isHigh unit && isLow next then some (join unit next) else none
      | _ => none
    match pair with
    | some n => Utf8.point n 4
    | none => Utf8.point unit 2
  | _ => .fault .truncated bytes.length

end Utf16

namespace Utf32

def front (order : ByteOrder) (bytes : Bytes) : Front :=
  match bytes with
  | a :: b :: c :: d :: _ =>
    match CodePoint.ofNat? (order.unit [a, b, c, d]) with
    | some p => .point p 4
    | none => .fault .outOfRange 4
  | _ => .fault .truncated bytes.length

end Utf32

/-! ## Detection -/

/-- The encodings that a schema may come in; a byte order mark at the start is passed over. -/
inductive Detected
  | utf8 (mark : Bool)
  | utf16 (order : ByteOrder) (mark : Bool)
  | utf32 (order : ByteOrder) (mark : Bool)
  deriving DecidableEq

/-- Find the encoding of a JSON text from a byte order mark, or from the places of its first zero bytes. -/
def detect (bytes : Bytes) : Detected :=
  match bytes.map UInt8.toNat with
  | 0x00 :: 0x00 :: 0xFE :: 0xFF :: _ => .utf32 .big true
  | 0xFF :: 0xFE :: 0x00 :: 0x00 :: _ => .utf32 .little true
  | 0xFE :: 0xFF :: _ => .utf16 .big true
  | 0xFF :: 0xFE :: _ => .utf16 .little true
  | 0xEF :: 0xBB :: 0xBF :: _ => .utf8 true
  | [0x00, _] => .utf16 .big false
  | [_, 0x00] => .utf16 .little false
  | a :: b :: c :: d :: _ =>
    if a = 0 then (if b = 0 then .utf32 .big false else .utf16 .big false)
    else if b = 0 then (if c = 0 && d = 0 then .utf32 .little false else .utf16 .little false)
    else .utf8 false
  | _ => .utf8 false

/--
Decode the bytes of a schema.  Offsets count from the first byte, except that the three bytes of a UTF-8 mark
are removed before counting begins.
-/
def decodeDetected (bytes : Bytes) : Except Fault Text :=
  match detect bytes with
  | .utf8 mark => Utf8.decodeLenient (if mark then bytes.drop 3 else bytes)
  | .utf16 order mark =>
    decodeFrom ("utf-16-" ++ order.name) (Utf16.front order) [] (if mark then 2 else 0) 0
      (if mark then bytes.drop 2 else bytes)
  | .utf32 order mark =>
    decodeFrom ("utf-32-" ++ order.name) (Utf32.front order) [] (if mark then 4 else 0) 0
      (if mark then bytes.drop 4 else bytes)

end Encoding

end SchemaLint
