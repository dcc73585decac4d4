/-! The MD5 digest, as sixty-four rounds over blocks of sixty-four bytes. A hasher takes its
input in pieces of any size; the digest depends on the bytes alone and not on the pieces. -/
namespace PlcModule.Digest

structure State where
  a : UInt32
  b : UInt32
  c : UInt32
  d : UInt32
  deriving DecidableEq, Repr

def State.start : State :=
  ⟨0x67452301, 0xefcdab89, 0x98badcfe, 0x10325476⟩

/-- The added constant of each round: the leading thirty-two bits of the sine of its number. -/
def constants : Array UInt32 := #[
  0xd76aa478, 0xe8c7b756, 0x242070db, 0xc1bdceee, 0xf57c0faf, 0x4787c62a, 0xa8304613, 0xfd469501,
  0x698098d8, 0x8b44f7af, 0xffff5bb1, 0x895cd7be, 0x6b901122, 0xfd987193, 0xa679438e, 0x49b40821,
  0xf61e2562, 0xc040b340, 0x265e5a51, 0xe9b6c7aa, 0xd62f105d, 0x02441453, 0xd8a1e681, 0xe7d3fbc8,
  0x21e1cde6, 0xc33707d6, 0xf4d50d87, 0x455a14ed, 0xa9e3e905, 0xfcefa3f8, 0x676f02d9, 0x8d2a4c8a,
  0xfffa3942, 0x8771f681, 0x6d9d6122, 0xfde5380c, 0xa4beea44, 0x4bdecfa9, 0xf6bb4b60, 0xbebfbc70,
  0x289b7ec6, 0xeaa127fa, 0xd4ef3085, 0x04881d05, 0xd9d4d039, 0xe6db99e5, 0x1fa27cf8, 0xc4ac5665,
  0xf4292244, 0x432aff97, 0xab9423a7, 0xfc93a039, 0x655b59c3, 0x8f0ccc92, 0xffeff47d, 0x85845dd1,
  0x6fa87e4f, 0xfe2ce6e0, 0xa3014314, 0x4e0811a1, 0xf7537e82, 0xbd3af235, 0x2ad7d2bb, 0xeb86d391]

/-- The rotations of each group of sixteen rounds, four of them in turn. -/
def rotations : Array UInt32 := #[7, 12, 17, 22, 5, 9, 14, 20, 4, 11, 16, 23, 6, 10, 15, 21]

def rotate (x amount : UInt32) : UInt32 :=
  (x <<< amount) ||| (x >>> (32 - amount))

/-- The mixing function of a round and the word of the block that the round takes. -/
def mix (s : State) (round : Nat) : UInt32 × Nat :=
  match round / 16 with
  | 0 => ((s.b &&& s.c) ||| (~~~s.b &&& s.d), round)
  | 1 => ((s.d &&& s.b) ||| (~~~s.d &&& s.c), (5 * round + 1) % 16)
  | 2 => (s.b ^^^ s.c ^^^ s.d, (3 * round + 5) % 16)
  | _ => (s.c ^^^ (s.b ||| ~~~s.d), (7 * round) % 16)

def runRound (words : Array UInt32) (s : State) (round : Nat) : State :=
  let (f, g) := mix s round
  let sum := s.a + f + constants.getD round 0 + words.getD g 0
  let amount := rotations.getD (round / 16 * 4 + round % 4) 0
  ⟨s.d, s.b + rotate sum amount, s.b, s.c⟩

/-- The little-endian words of a block. -/
def words : List UInt8 → List UInt32
  | b0 :: b1 :: b2 :: b3 :: rest =>
    (b0.toUInt32 ||| b1.toUInt32 <<< 8 ||| b2.toUInt32 <<< 16 ||| b3.toUInt32 <<< 24) :: words rest
  | _ => []

def compress (s : State) (block : List UInt8) : State :=
  let t := (List.range 64).foldl (runRound (words block).toArray) s
  ⟨s.a + t.a, s.b + t.b, s.c + t.c, s.d + t.d⟩

/-- Takes the whole blocks at the front of the bytes; answers the bytes left over too. -/
def absorb (s : State) (bytes : List UInt8) : State × List UInt8 :=
  match _h : bytes.drop 63 with
  | [] => (s, bytes)
  | _ :: rest => absorb (compress s (bytes.take 64)) rest
termination_by bytes.length
decreasing_by
  have := congrArg List.length _h
  simp at this
  omega

structure Hasher where
  state : State
  pending : List UInt8
  total : Nat

def Hasher.start : Hasher :=
  ⟨.start, [], 0⟩

def Hasher.feed (h : Hasher) (bytes : List UInt8) : Hasher :=
  let (state, pending) := absorb h.state (h.pending ++ bytes)
  ⟨state, pending, h.total + bytes.length⟩

/-- The `count` low bytes of a number, the lowest first. -/
def littleEndian (count n : Nat) : List UInt8 :=
  (List.range count).map fun i => UInt8.ofNat (n >>> (8 * i))

/-- What closes the input: a set bit, zeros up to eight bytes before the end of a block, and
the input's length in bits. -/
def padding (total : Nat) : List UInt8 :=
  0x80 :: (List.replicate ((119 - total % 64) % 64) 0 ++ littleEndian 8 (total * 8))

def hexDigit (n : Nat) : Char :=
  if n < 10 then Char.ofNat (0x30 + n) else Char.ofNat (0x57 + n)

def hexByte (b : UInt8) : List Char :=
  [hexDigit (b.toNat / 16), hexDigit (b.toNat % 16)]

def hex (bytes : List UInt8) : String :=
  String.ofList (bytes.flatMap hexByte)

def State.bytes (s : State) : List UInt8 :=
  [s.a, s.b, s.c, s.d].flatMap fun w => littleEndian 4 w.toNat

/-- The digest of all that was fed, as lowercase hexadecimal digits. -/
def Hasher.finish (h : Hasher) : String :=
  hex (absorb h.state (h.pending ++ padding h.total)).1.bytes

/-- The digest of the bytes taken at once. -/
def md5 (bytes : List UInt8) : String :=
  (Hasher.start.feed bytes).finish

end PlcModule.Digest
