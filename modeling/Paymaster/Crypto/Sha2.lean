import Paymaster.Block

/-!
# The SHA-2 hash functions

SHA-256 and SHA-512 are one construction at two word sizes.  A message is padded to whole blocks
of sixteen words; each block is stretched to a word a round and stirred into a state of eight
words, and the last state is the digest.  A variant holds what differs: the constants and the
rotations.  The main statement is the width of the digest.
-/

namespace Paymaster.Crypto

namespace Sha2

/-- The eight words that are carried from block to block. -/
structure State (w : Nat) where
  a : BitVec w
  b : BitVec w
  c : BitVec w
  d : BitVec w
  e : BitVec w
  f : BitVec w
  g : BitVec w
  h : BitVec w

/-- Three distances that a word is turned or shifted by before the results are added bit by
bit. -/
structure Spread where
  first : Nat
  second : Nat
  third : Nat

/-- What distinguishes one hash function of the family. -/
structure Variant (w : Nat) where
  initial : State w
  constants : List (BitVec w)
  stateHigh : Spread
  stateLow : Spread
  scheduleOld : Spread
  scheduleNew : Spread

/-- A word turned by three distances. -/
def Spread.turn {w : Nat} (s : Spread) (x : BitVec w) : BitVec w :=
  x.rotateRight s.first ^^^ x.rotateRight s.second ^^^ x.rotateRight s.third

/-- A word turned by two distances and shifted by the third. -/
def Spread.shift {w : Nat} (s : Spread) (x : BitVec w) : BitVec w :=
  x.rotateRight s.first ^^^ x.rotateRight s.second ^^^ x >>> s.third

/-! ## Padding and blocks -/

/-- A message filled up to whole blocks of `2 * w` bytes: a set bit, zeros, and its length in bits
in the last two words. -/
def pad (w : Nat) (message : Bytes) : Bytes :=
  let block := 2 * w
  let field := w / 4
  let filled := (message.length + 1 + field) % block
  message ++ 0x80 :: List.replicate ((block - filled) % block) 0
    ++ Bytes.bigEndian field (8 * message.length)

/-- The first `count` groups of `size` elements each. -/
def groups {α : Type} (size : Nat) : Nat → List α → List (List α)
  | 0, _ => []
  | count + 1, xs => xs.take size :: groups size count (xs.drop size)

/-- The sixteen words of a block. -/
def blockWords (w : Nat) (block : Bytes) : List (BitVec w) :=
  (groups (w / 8) 16 block).map fun bytes => BitVec.ofNat w (Bytes.ofBigEndian bytes)

/-- More words after those that are there, the newest first. -/
def extend {w : Nat} (v : Variant w) : Nat → List (BitVec w) → List (BitVec w)
  | 0, words => words
  | more + 1, words =>
    let next := v.scheduleNew.shift (words.getD 1 0) + words.getD 6 0
      + v.scheduleOld.shift (words.getD 14 0) + words.getD 15 0
    extend v more (next :: words)

/-- A word for each round. -/
def schedule {w : Nat} (v : Variant w) (block : Bytes) : List (BitVec w) :=
  (extend v (v.constants.length - 16) (blockWords w block).reverse).reverse

/-! ## Rounds -/

/-- One round, with its constant and its word. -/
def round {w : Nat} (v : Variant w) (s : State w) (kw : BitVec w × BitVec w) : State w :=
  let choice := (s.e &&& s.f) ^^^ (~~~s.e &&& s.g)
  let majority := (s.a &&& s.b) ^^^ (s.a &&& s.c) ^^^ (s.b &&& s.c)
  let t1 := s.h + v.stateLow.turn s.e + choice + kw.1 + kw.2
  let t2 := v.stateHigh.turn s.a + majority
  { a := t1 + t2, b := s.a, c := s.b, d := s.c, e := s.d + t1, f := s.e, g := s.f, h := s.g }

/-- Stirs a block into the state. -/
def compress {w : Nat} (v : Variant w) (s : State w) (block : Bytes) : State w :=
  let t := (v.constants.zip (schedule v block)).foldl (round v) s
  { a := s.a + t.a, b := s.b + t.b, c := s.c + t.c, d := s.d + t.d
    e := s.e + t.e, f := s.f + t.f, g := s.g + t.g, h := s.h + t.h }

/-- The words of a state. -/
def State.words {w : Nat} (s : State w) : List (BitVec w) :=
  [s.a, s.b, s.c, s.d, s.e, s.f, s.g, s.h]

/-- The bytes of a state, most significant first in each word. -/
def State.bytes {w : Nat} (s : State w) : Bytes :=
  s.words.flatMap fun x => Bytes.bigEndian (w / 8) x.toNat

theorem State.length_bytes {w : Nat} (s : State w) : s.bytes.length = 8 * (w / 8) := by
  simp [State.bytes, State.words]; omega

/-- The digest of a message. -/
def digest {w : Nat} (v : Variant w) (message : Bytes) : Bytes :=
  let padded := pad w message
  ((groups (2 * w) (padded.length / (2 * w)) padded).foldl (compress v) v.initial).bytes

theorem length_digest {w : Nat} (v : Variant w) (message : Bytes) :
    (digest v message).length = 8 * (w / 8) :=
  State.length_bytes _

/-! ## The two variants -/

/-- The variant of 32-bit words. -/
def words32 : Variant 32 where
  initial :=
    { a := 0x6a09e667, b := 0xbb67ae85, c := 0x3c6ef372, d := 0xa54ff53a
      e := 0x510e527f, f := 0x9b05688c, g := 0x1f83d9ab, h := 0x5be0cd19 }
  constants :=
    [0x428a2f98, 0x71374491, 0xb5c0fbcf, 0xe9b5dba5, 0x3956c25b, 0x59f111f1, 0x923f82a4, 0xab1c5ed5,
     0xd807aa98, 0x12835b01, 0x243185be, 0x550c7dc3, 0x72be5d74, 0x80deb1fe, 0x9bdc06a7, 0xc19bf174,
     0xe49b69c1, 0xefbe4786, 0x0fc19dc6, 0x240ca1cc, 0x2de92c6f, 0x4a7484aa, 0x5cb0a9dc, 0x76f988da,
     0x983e5152, 0xa831c66d, 0xb00327c8, 0xbf597fc7, 0xc6e00bf3, 0xd5a79147, 0x06ca6351, 0x14292967,
     0x27b70a85, 0x2e1b2138, 0x4d2c6dfc, 0x53380d13, 0x650a7354, 0x766a0abb, 0x81c2c92e, 0x92722c85,
     0xa2bfe8a1, 0xa81a664b, 0xc24b8b70, 0xc76c51a3, 0xd192e819, 0xd6990624, 0xf40e3585, 0x106aa070,
     0x19a4c116, 0x1e376c08, 0x2748774c, 0x34b0bcb5, 0x391c0cb3, 0x4ed8aa4a, 0x5b9cca4f, 0x682e6ff3,
     0x748f82ee, 0x78a5636f, 0x84c87814, 0x8cc70208, 0x90befffa, 0xa4506ceb, 0xbef9a3f7, 0xc67178f2]
  stateHigh := ⟨2, 13, 22⟩
  stateLow := ⟨6, 11, 25⟩
  scheduleOld := ⟨7, 18, 3⟩
  scheduleNew := ⟨17, 19, 10⟩

/-- The variant of 64-bit words. -/
def words64 : Variant 64 where
  initial :=
    { a := 0x6a09e667f3bcc908, b := 0xbb67ae8584caa73b, c := 0x3c6ef372fe94f82b
      d := 0xa54ff53a5f1d36f1, e := 0x510e527fade682d1, f := 0x9b05688c2b3e6c1f
      g := 0x1f83d9abfb41bd6b, h := 0x5be0cd19137e2179 }
  constants :=
    [0x428a2f98d728ae22, 0x7137449123ef65cd, 0xb5c0fbcfec4d3b2f, 0xe9b5dba58189dbbc,
     0x3956c25bf348b538, 0x59f111f1b605d019, 0x923f82a4af194f9b, 0xab1c5ed5da6d8118,
     0xd807aa98a3030242, 0x12835b0145706fbe, 0x243185be4ee4b28c, 0x550c7dc3d5ffb4e2,
     0x72be5d74f27b896f, 0x80deb1fe3b1696b1, 0x9bdc06a725c71235, 0xc19bf174cf692694,
     0xe49b69c19ef14ad2, 0xefbe4786384f25e3, 0x0fc19dc68b8cd5b5, 0x240ca1cc77ac9c65,
     0x2de92c6f592b0275, 0x4a7484aa6ea6e483, 0x5cb0a9dcbd41fbd4, 0x76f988da831153b5,
     0x983e5152ee66dfab, 0xa831c66d2db43210, 0xb00327c898fb213f, 0xbf597fc7beef0ee4,
     0xc6e00bf33da88fc2, 0xd5a79147930aa725, 0x06ca6351e003826f, 0x142929670a0e6e70,
     0x27b70a8546d22ffc, 0x2e1b21385c26c926, 0x4d2c6dfc5ac42aed, 0x53380d139d95b3df,
     0x650a73548baf63de, 0x766a0abb3c77b2a8, 0x81c2c92e47edaee6, 0x92722c851482353b,
     0xa2bfe8a14cf10364, 0xa81a664bbc423001, 0xc24b8b70d0f89791, 0xc76c51a30654be30,
     0xd192e819d6ef5218, 0xd69906245565a910, 0xf40e35855771202a, 0x106aa07032bbd1b8,
     0x19a4c116b8d2d0c8, 0x1e376c085141ab53, 0x2748774cdf8eeb99, 0x34b0bcb5e19b48a8,
     0x391c0cb3c5c95a63, 0x4ed8aa4ae3418acb, 0x5b9cca4f7763e373, 0x682e6ff3d6b2b8a3,
     0x748f82ee5defb2fc, 0x78a5636f43172f60, 0x84c87814a1f0ab72, 0x8cc702081a6439ec,
     0x90befffa23631e28, 0xa4506cebde82bde9, 0xbef9a3f7b2c67915, 0xc67178f2e372532b,
     0xca273eceea26619c, 0xd186b8c721c0c207, 0xeada7dd6cde0eb1e, 0xf57d4f7fee6ed178,
     0x06f067aa72176fba, 0x0a637dc5a2c898a6, 0x113f9804bef90dae, 0x1b710b35131c471b,
     0x28db77f523047d84, 0x32caab7b40c72493, 0x3c9ebe0a15c9bebc, 0x431d67c49c100d4c,
     0x4cc5d4becb3e42b6, 0x597f299cfc657e2a, 0x5fcb6fab3ad6faec, 0x6c44198c4a475817]
  stateHigh := ⟨28, 34, 39⟩
  stateLow := ⟨14, 18, 41⟩
  scheduleOld := ⟨1, 8, 7⟩
  scheduleNew := ⟨19, 61, 6⟩

end Sha2

/-- The SHA-256 digest of a message. -/
def sha256 (message : Bytes) : Block 32 :=
  ⟨Sha2.digest Sha2.words32 message, Sha2.length_digest _ _⟩

/-- The SHA-512 digest of a message. -/
def sha512 (message : Bytes) : Block 64 :=
  ⟨Sha2.digest Sha2.words64 message, Sha2.length_digest _ _⟩

end Paymaster.Crypto
