import Paymaster.Crypto.Sha2

/-!
# Keyed digests

The keyed form of SHA-256: two passes of the hash function, each opened by the key under a mask
of its own.  A key longer than a block is replaced by its digest.
-/

namespace Paymaster.Crypto.Hmac

/-- The width of a block of the hash function. -/
def blockSize : Nat := 64

/-- The key at the width of a block. -/
def blockKey (key : Bytes) : Bytes :=
  let short := if blockSize < key.length then (sha256 key).bytes else key
  short ++ List.replicate (blockSize - short.length) 0

/-- The keyed digest of a message. -/
def digest (key message : Bytes) : Block 32 :=
  let masked (mask : UInt8) := (blockKey key).map (· ^^^ mask)
  sha256 (masked 0x5C ++ (sha256 (masked 0x36 ++ message)).bytes)

end Paymaster.Crypto.Hmac
