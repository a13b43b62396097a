import SchemaLint.Text.Encoding

/-!
# Percent encoding

An escape stands for a byte, and every other character for the bytes of its UTF-8 form.  Decoding to text works on runs
of ASCII characters: the bytes of a run are read as UTF-8, with one replacement character for every fault.  What is no
escape stays as it is.
-/

namespace SchemaLint

namespace Percent

def hexValue? (c : Char) : Option Nat :=
  if c.isDigit then some (c.toNat - 48)
  else if 'a' ≤ c && c ≤ 'f' then some (c.toNat - 87)
  else if 'A' ≤ c && c ≤ 'F' then some (c.toNat - 55)
  else none

/-- The bytes that characters and escapes stand for. -/
def bytes : List Char → Bytes
  | [] => []
  | '%' :: a :: b :: more =>
    match hexValue? a, hexValue? b with
    | some high, some low => UInt8.ofNat (high * 16 + low) :: bytes more
    | _, _ => 0x25 :: bytes (a :: b :: more)
  | c :: rest => String.utf8EncodeChar c ++ bytes rest

/-- Read bytes as UTF-8 and replace every fault; `skip` counts the bytes that are still to be passed over. -/
def decodeReplacing (skip : Nat) : Bytes → List Char
  | [] => []
  | b :: rest =>
    match skip with
    | skip + 1 => decodeReplacing skip rest
    | 0 =>
      match Encoding.Utf8.front (b :: rest) with
      | .point c length => c.toChar :: decodeReplacing (length - 1) rest
      | .fault _ length => '\uFFFD' :: decodeReplacing (length - 1) rest

/-- Decode a text run by run; `run` holds the ASCII characters of the current run, last first. -/
def decodeRuns (run : List Char) : List Char → List Char
  | [] => decodeReplacing 0 (bytes run.reverse)
  | c :: rest =>
    if c.toNat < 0x80 then decodeRuns (c :: run) rest
    else decodeReplacing 0 (bytes run.reverse) ++ c :: decodeRuns [] rest

def decode (cs : List Char) : List Char :=
  if cs.contains '%' then decodeRuns [] cs else cs

/-- The characters that encoding leaves alone. -/
def isUnreserved (c : Char) : Bool :=
  c.isAlphanum || c = '-' || c = '.' || c = '_' || c = '~' || c = '/'

def escape (b : UInt8) : List Char :=
  let digit (n : Nat) : Char := (Nat.digitChar n).toUpper
  ['%', digit (b.toNat / 16), digit (b.toNat % 16)]

/-- Encode the characters that are neither unreserved nor slashes, byte by byte. -/
def encode (cs : List Char) : List Char :=
  cs.flatMap fun c => if isUnreserved c then [c] else (String.utf8EncodeChar c).flatMap escape

end Percent

end SchemaLint
