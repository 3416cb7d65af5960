import Paymaster.Bytes
import Paymaster.Text
import Paymaster.Text.Base58

/-!
# Blocks of bytes

A block is a run of bytes of a fixed width; keys, block hashes and signatures are blocks.  Its
text is base 58.  Reading a text asks for exactly the width, after a bound on the number of
characters, and takes no blanks.
-/

namespace Paymaster

/-- Exactly `n` bytes. -/
@[ext]
structure Block (n : Nat) where
  bytes : Bytes
  length_bytes : bytes.length = n
deriving DecidableEq

namespace Block

/-- The block of some bytes, if their number is right. -/
def ofBytes? (n : Nat) (bytes : Bytes) : Option (Block n) :=
  if h : bytes.length = n then some ⟨bytes, h⟩ else none

/-- The block that spells a number, most significant byte first. -/
def ofNat (n value : Nat) : Block n :=
  ⟨Bytes.bigEndian n value, Bytes.length_bigEndian n value⟩

/-- The block of zero bytes. -/
def zero (n : Nat) : Block n :=
  ⟨List.replicate n 0, by simp⟩

/-- The base 58 text of a block. -/
def text {n : Nat} (b : Block n) : String :=
  Text.Base58.encode b.bytes

/-- The block that at most `limit` characters spell in base 58. -/
def ofChars? (n limit : Nat) (cs : List Char) : Option (Block n) :=
  if limit < cs.length then none
  else
    match Text.Base58.decodeChars cs with
    | .error _ => none
    | .ok bytes => ofBytes? n bytes

theorem ofBytes?_bytes {n : Nat} (b : Block n) : ofBytes? n b.bytes = some b := by
  simp [ofBytes?, b.length_bytes]

theorem ofBytes?_eq_some_iff {n : Nat} {bytes : Bytes} {b : Block n} :
    ofBytes? n bytes = some b ↔ b.bytes = bytes := by
  constructor
  · intro h
    unfold ofBytes? at h
    split at h
    · exact (Option.some.inj h) ▸ rfl
    · exact absurd h (by simp)
  · rintro rfl
    exact ofBytes?_bytes b

end Block

/-- A public key, which is also the address of an account. -/
abbrev PublicKey := Block 32

/-- The hash of a recent block, which dates a transaction. -/
abbrev Blockhash := Block 32

/-- A signature. -/
abbrev Signature := Block 64

/-- The key that a text spells; half of a pair spells nothing. -/
def PublicKey.ofText? (text : Text) : Option PublicKey :=
  text.chars?.bind (Block.ofChars? 32 44)

/-- The block hash that characters spell. -/
def Blockhash.ofChars? (cs : List Char) : Option Blockhash :=
  Block.ofChars? 32 44 cs

/-- The signature that characters spell. -/
def Signature.ofChars? (cs : List Char) : Option Signature :=
  Block.ofChars? 64 88 cs

end Paymaster
