import Paymaster.Block

/-!
# Instructions

An instruction calls a program with some accounts and some data.
-/

namespace Paymaster

/-- An account of an instruction: whether it must sign, and whether it may be written. -/
structure AccountRef where
  key : PublicKey
  isSigner : Bool
  isWritable : Bool
deriving DecidableEq

/-- A call of a program. -/
structure Instruction where
  program : PublicKey
  accounts : List AccountRef
  data : Bytes
deriving DecidableEq

end Paymaster
