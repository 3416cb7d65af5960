import Paymaster.Block

/-!
# Messages

The part of a transaction that is signed: a table of keys, a header that says what the keys are
for by where they stand, and instructions that name their accounts by index.  A message is in the
legacy format or in version 0, which can also take accounts from lookup tables.  Nothing ties the
parts together here: a message that was read may hold any counts and any indices.
-/

namespace Paymaster

/-- How many keys, from the front of the table, must sign; how many of these, and of the others,
from the back, are read-only. -/
structure Header where
  required : UInt8
  readonlySigned : UInt8
  readonlyUnsigned : UInt8
deriving DecidableEq, Repr

/-- An instruction whose program and accounts are indices into the table of keys. -/
structure CompiledInstruction where
  program : UInt8
  accounts : List UInt8
  data : Bytes
deriving DecidableEq, Repr

/-- Accounts from a table that the ledger keeps: those to be written, and those to be read. -/
structure Lookup where
  table : PublicKey
  writable : List UInt8
  readonly : List UInt8
deriving DecidableEq

/-- The format of a message; only version 0 has lookups. -/
inductive Format where
  | legacy
  | v0 (lookups : List Lookup)
deriving DecidableEq

/-- A message. -/
structure Message where
  format : Format
  header : Header
  keys : List PublicKey
  blockhash : Blockhash
  instructions : List CompiledInstruction
deriving DecidableEq

namespace Message

/-- The lookups of a message. -/
def lookups (m : Message) : List Lookup :=
  match m.format with
  | .legacy => []
  | .v0 lookups => lookups

end Message

end Paymaster
