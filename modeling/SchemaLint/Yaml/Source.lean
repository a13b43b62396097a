import SchemaLint.Number.Binary64
import SchemaLint.Text.Encoding
import SchemaLint.Yaml.Cursor

/-!
# Where a text can be read no further

The bytes of a file become a text block by block, and only so far as the reader has come.  Bytes that are no text, or a
character that no text may hold, are a fault of the block in which they stand: the blocks in front of it can be read, and
the reader may find another fault there, or never ask for more.

Blocks are counted in characters, but bytes are fetched in larger pieces; what of a piece cannot be decoded yet is kept
for the next one.
-/

namespace SchemaLint

namespace Yaml

/-- Why a text can be read no further. -/
inductive Stop
  | undecodable
  | unprintable
  deriving DecidableEq

/-- As much of a text as can be read. -/
structure Source where
  text : List Char
  /-- Why there is no more of it, unless it ends here. -/
  stop : Option Stop

/-- A text in which every kind of line end is a line feed. -/
def unifyBreaks : List Char → List Char
  | '\r' :: '\n' :: rest => '\n' :: unifyBreaks rest
  | '\r' :: rest => '\n' :: unifyBreaks rest
  | c :: rest => c :: unifyBreaks rest
  | [] => []

def isAllowed (c : Char) : Bool :=
  let n := c.toNat
  n = 0x09 || n = 0x0A || n = 0x0D || (0x20 ≤ n && n ≤ 0x7E) || n = 0x85 || (0xA0 ≤ n && n ≤ 0xFFFD) || 0x10000 ≤ n

/-! ## Blocks -/

def blockLength : Nat := 4096

/-- The number of characters in the blocks that come before a place.  The first two are read together. -/
def wholeBlocks (place : Nat) : Nat :=
  if place < 2 * blockLength then 0 else place / blockLength * blockLength

/-- The characters at the beginning of some bytes that can be decoded. -/
def decodable (bytes : Bytes) : List Char :=
  match Encoding.Utf8.decode bytes with
  | .ok t => t.map CodePoint.toChar
  | .error fault =>
    match Encoding.Utf8.decode (bytes.take fault.start) with
    | .ok t => t.map CodePoint.toChar
    | .error _ => []

/-- The number of characters that some bytes give before more are known: a carriage return at their end waits. -/
def characters (bytes : Bytes) : Nat :=
  let t := decodable bytes
  (unifyBreaks t).length - (if t.getLast? = some '\r' then 1 else 0)

/-! ## Pieces -/

/-- The least number of bytes in a piece. -/
def pieceLength : Nat := 8192

/-- The number of bytes to fetch for some characters, if the last piece of `spent` bytes gave `got` characters.  The
estimate is made in floating point. -/
def pieceFor (missing spent got : Nat) : Nat :=
  if got = 0 || spent ≤ got then max pieceLength missing
  else
    match ((Binary64.ofRatio false spent got).scale missing).toRatio? with
    | some (num, den) => max pieceLength (num.toNat / den)
    | none => pieceLength

/-- The number of characters that are known before the piece with the byte at a place is fetched. -/
def knownBefore (bytes : Bytes) (place : Nat) : Nat → Nat → Nat → Nat → Nat
  | 0, fetched, _, _ => characters (bytes.take fetched)
  | fuel + 1, fetched, spent, got =>
    let known := characters (bytes.take fetched)
    let piece := pieceFor (blockLength - known % blockLength) spent got
    let next := fetched + piece
    if place < next then known
    else knownBefore bytes place fuel next piece (characters (bytes.take next) - known)

/-- The place of the byte that shows a fault: the first one that cannot begin or continue a character, or the end of the
file.  Two bytes that begin a surrogate are taken for the beginning of a character. -/
def shownAt (bytes : Bytes) (fault : Encoding.Fault) : Nat :=
  let surrogate := fault.byte = 0xED && fault.stop = fault.start + 1 && bytes[fault.stop]?.any Encoding.Utf8.isTail
  match fault.reason with
  | .unexpectedEnd => bytes.length
  | .invalidStart => fault.start
  | _ => if surrogate then fault.stop + 1 else fault.stop

/-- The number of characters that are known before a fault shows. -/
def knownAt (bytes : Bytes) (fault : Encoding.Fault) : Nat :=
  let place := shownAt bytes fault
  if bytes.length ≤ place then characters bytes else knownBefore bytes place bytes.length 0 0 0

namespace Source

def behind (s : Source) : Char :=
  if s.stop.isSome then cutMark else endMark

/-- The source of a text, of which no more than the blocks without forbidden characters can be read. -/
def ofText (text : List Char) (stop : Option Stop) : Source :=
  match text.findIdx? fun c => !isAllowed c with
  | some place => { text := text.take (wholeBlocks place), stop := some .unprintable }
  | none => { text, stop }

def ofBytes (bytes : Bytes) : Source :=
  match Encoding.Utf8.decode bytes with
  | .ok t => ofText (unifyBreaks (t.map CodePoint.toChar)) none
  | .error fault => ofText ((unifyBreaks (decodable bytes)).take (wholeBlocks (knownAt bytes fault))) (some .undecodable)

end Source

end Yaml

end SchemaLint
