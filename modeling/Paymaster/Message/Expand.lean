import Paymaster.Error
import Paymaster.Instruction
import Paymaster.Message.Roles

/-!
# From a message back to instructions

Each index is looked up in the table of keys, and each account takes the role that its position
gives it.  A message that uses lookup tables is refused, since their keys are not in it, and so is
an index outside the table.
-/

namespace Paymaster.Message

/-- The key at an index. -/
def keyAt (m : Message) (i : UInt8) : Except Error PublicKey :=
  match m.keys[i.toNat]? with
  | some key => .ok key
  | none => .error .index

/-- The account at an index, in the role that its position gives it. -/
def accountAt (m : Message) (i : UInt8) : Except Error AccountRef := do
  let key ← m.keyAt i
  return { key, isSigner := m.isSigner i.toNat, isWritable := m.isWritable i.toNat key }

/-- One instruction, with its indices looked up. -/
def expandOne (m : Message) (ix : CompiledInstruction) : Except Error Instruction := do
  let accounts ← ix.accounts.mapM m.accountAt
  let program ← m.keyAt ix.program
  return { program, accounts, data := ix.data }

/-- The instructions of a message. -/
def expand (m : Message) : Except Error (List Instruction) :=
  if m.lookups.isEmpty then m.instructions.mapM m.expandOne else .error .usesLookups

end Paymaster.Message
