import SchemaLint.Text.Encoding

/-!
# Digests

The digest of a sequence of bytes is 128 bits long: MD5.  The bytes are filled up to whole blocks of 16 words, and each
block changes four words of state in four rounds of 16 steps.  A digest names the cache entry of a reference.
-/

namespace SchemaLint

namespace Digest

/-- The constants of the steps, 16 for each round: the sines of the numbers from 1 on, in fractions of 2 ^ 32. -/
def constants : List (List UInt32) :=
  [[0xd76aa478, 0xe8c7b756, 0x242070db, 0xc1bdceee, 0xf57c0faf, 0x4787c62a, 0xa8304613, 0xfd469501,
      0x698098d8, 0x8b44f7af, 0xffff5bb1, 0x895cd7be, 0x6b901122, 0xfd987193, 0xa679438e, 0x49b40821],
    [0xf61e2562, 0xc040b340, 0x265e5a51, 0xe9b6c7aa, 0xd62f105d, 0x02441453, 0xd8a1e681, 0xe7d3fbc8,
      0x21e1cde6, 0xc33707d6, 0xf4d50d87, 0x455a14ed, 0xa9e3e905, 0xfcefa3f8, 0x676f02d9, 0x8d2a4c8a],
    [0xfffa3942, 0x8771f681, 0x6d9d6122, 0xfde5380c, 0xa4beea44, 0x4bdecfa9, 0xf6bb4b60, 0xbebfbc70,
      0x289b7ec6, 0xeaa127fa, 0xd4ef3085, 0x04881d05, 0xd9d4d039, 0xe6db99e5, 0x1fa27cf8, 0xc4ac5665],
    [0xf4292244, 0x432aff97, 0xab9423a7, 0xfc93a039, 0x655b59c3, 0x8f0ccc92, 0xffeff47d, 0x85845dd1,
      0x6fa87e4f, 0xfe2ce6e0, 0xa3014314, 0x4e0811a1, 0xf7537e82, 0xbd3af235, 0x2ad7d2bb, 0xeb86d391]]

/-- The rotations of the steps of a round, which repeat after four steps. -/
def rotations : List (List UInt32) :=
  [[7, 12, 17, 22], [5, 9, 14, 20], [4, 11, 16, 23], [6, 10, 15, 21]]

/-- Four words of state. -/
structure State where
  a : UInt32
  b : UInt32
  c : UInt32
  d : UInt32

def start : State :=
  { a := 0x67452301, b := 0xefcdab89, c := 0x98badcfe, d := 0x10325476 }

def rotate (x n : UInt32) : UInt32 :=
  (x <<< n) ||| (x >>> (32 - n))

def mix (round : Nat) (b c d : UInt32) : UInt32 :=
  match round with
  | 0 => (b &&& c) ||| ((~~~b) &&& d)
  | 1 => (d &&& b) ||| ((~~~d) &&& c)
  | 2 => b ^^^ c ^^^ d
  | _ => c ^^^ (b ||| (~~~d))

/-- The word of the block that a step of a round takes in. -/
def wordIndex (round i : Nat) : Nat :=
  match round with
  | 0 => i
  | 1 => (5 * i + 1) % 16
  | 2 => (3 * i + 5) % 16
  | _ => (7 * i) % 16

def step (block : List UInt32) (round : Nat) (s : State) (i : Nat) (constant : UInt32) : State :=
  let sum := s.a + mix round s.b s.c s.d + constant + (block[wordIndex round i]?).getD 0
  let turn := (((rotations[round]?).getD [])[i % 4]?).getD 0
  { a := s.d, b := s.b + rotate sum turn, c := s.b, d := s.c }

/-- The 16 steps of a round. -/
def roundOf (block : List UInt32) (s : State) (round : Nat × List UInt32) : State :=
  (round.2.zipIdx).foldl (fun s (constant, i) => step block round.1 s i constant) s

def absorb (s : State) (block : List UInt32) : State :=
  let t := (constants.zipIdx.map fun (c, i) => (i, c)).foldl (roundOf block) s
  { a := s.a + t.a, b := s.b + t.b, c := s.c + t.c, d := s.d + t.d }

/-- The bytes of a number, the lowest first. -/
def lowFirst : Nat → Nat → Bytes
  | 0, _ => []
  | count + 1, n => UInt8.ofNat (n % 256) :: lowFirst count (n / 256)

/-- The bytes with a mark at their end, filled up with zeros, and the number of their bits. -/
def padded (bytes : Bytes) : Bytes :=
  let zeros := (119 - bytes.length % 64) % 64
  bytes ++ 0x80 :: (List.replicate zeros 0 ++ lowFirst 8 (8 * bytes.length))

/-- Cut bytes into words of four, the lowest first. -/
def words : Bytes → List UInt32
  | a :: b :: c :: d :: rest =>
    UInt32.ofNat (a.toNat + 256 * (b.toNat + 256 * (c.toNat + 256 * d.toNat))) :: words rest
  | _ => []

def blocks : Nat → List UInt32 → List (List UInt32)
  | 0, _ => []
  | count + 1, ws => ws.take 16 :: blocks count (ws.drop 16)

def hex (b : UInt8) : List Char :=
  [Nat.digitChar (b.toNat / 16), Nat.digitChar (b.toNat % 16)]

end Digest

def digest (bytes : Bytes) : String :=
  let ws := Digest.words (Digest.padded bytes)
  let s := (Digest.blocks (ws.length / 16) ws).foldl Digest.absorb Digest.start
  let out := [s.a, s.b, s.c, s.d].flatMap fun w => Digest.lowFirst 4 w.toNat
  String.ofList (out.flatMap Digest.hex)

end SchemaLint
