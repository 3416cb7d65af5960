import Paymaster.Error
import Paymaster.Message
import Paymaster.Message.KeyTable

/-!
# From instructions to a message

The payer comes first; after it the keys that sign and are written, those that sign, those that
are written, and the rest, each group in the order of its bytes.  A message of version 0 refuses
more keys than one byte can number.  The legacy format refuses only a header that cannot count
its keys, and cuts every index to one byte.
-/

namespace Paymaster.Message

/-- A count in a header, if one byte holds it. -/
def headerCount? (n : Nat) : Option UInt8 :=
  if n < 256 then some (UInt8.ofNat n) else none

/-- The keys of a message and its header, for a payer and a table of keys. -/
def layout? (payer : PublicKey) (table : KeyTable) : Option (Header × List PublicKey) := do
  let group (signs written : Bool) := table.keysOf payer ⟨signs, written⟩
  let signers := payer :: group true true ++ group true false
  let others := group false true ++ group false false
  let header : Header :=
    { required := ← headerCount? signers.length
      readonlySigned := ← headerCount? (group true false).length
      readonlyUnsigned := ← headerCount? (group false false).length }
  return (header, signers ++ others)

/-- The index of a key, cut to one byte. -/
def indexOf (keys : List PublicKey) (key : PublicKey) : UInt8 :=
  UInt8.ofNat (keys.idxOf key)

/-- An instruction with its keys replaced by their indices. -/
def compileOne (keys : List PublicKey) (ix : Instruction) : CompiledInstruction :=
  { program := indexOf keys ix.program
    accounts := ix.accounts.map fun a => indexOf keys a.key
    data := ix.data }

/-- The message of some instructions, in the legacy format or in version 0 without lookups. -/
def compile (legacy : Bool) (payer : PublicKey) (instructions : List Instruction)
    (blockhash : Blockhash) : Except Error Message :=
  match layout? payer (KeyTable.ofInstructions instructions) with
  | none => .error (if legacy then .headerOverflow else .tooManyKeys)
  | some (header, keys) =>
    if !legacy && 256 < keys.length then .error .tooManyKeys
    else
      .ok { format := if legacy then .legacy else .v0 [], header, keys, blockhash
            instructions := instructions.map (compileOne keys) }

end Paymaster.Message
