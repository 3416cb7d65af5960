import Paymaster.Crypto.Edwards
import Paymaster.Crypto.Sha2

/-!
# Signatures

Ed25519 signatures.  The digest of the seed gives a scalar, whose multiple of the base point is
the public key, and a nonce key, which makes the nonce of each message.
-/

namespace Paymaster.Crypto.Ed25519

open Edwards

/-- A secret seed. -/
abbrev Seed := Block 32

/-- The order of the base point. -/
def order : Nat := Nat.pow 2 252 + 27742317777372353535851937790883648493

/-- The secret scalar of a seed: the low half of its digest, with the lowest three bits and the
highest cleared and the next to highest set. -/
def scalar (seed : Seed) : Nat :=
  let low := Bytes.ofLittleEndian ((sha512 seed.bytes).bytes.take 32)
  Nat.pow 2 254 + low % Nat.pow 2 254 / 8 * 8

/-- The secret bytes that nonces are made with: the high half of the digest. -/
def nonceKey (seed : Seed) : Bytes :=
  (sha512 seed.bytes).bytes.drop 32

/-- The public key of a seed. -/
def publicKey (seed : Seed) : PublicKey :=
  (Point.base.multiply (scalar seed)).encode

/-- The digest of some bytes as a scalar. -/
def hashScalar (bytes : Bytes) : Nat :=
  Bytes.ofLittleEndian (sha512 bytes).bytes % order

/-- The signature of a message. -/
def sign (seed : Seed) (message : Bytes) : Signature :=
  let nonce := hashScalar (nonceKey seed ++ message)
  let commitment := (Point.base.multiply nonce).encode
  let challenge := hashScalar (commitment.bytes ++ (publicKey seed).bytes ++ message)
  let response := (nonce + challenge * scalar seed) % order
  ⟨commitment.bytes ++ Bytes.littleEndian 32 response, by simp [commitment.length_bytes]⟩

end Paymaster.Crypto.Ed25519
