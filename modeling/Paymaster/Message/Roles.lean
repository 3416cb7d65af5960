import Paymaster.Message
import Paymaster.Program

/-!
# Roles of keys

Where a key stands in the table says whether it signs and whether it may be written.  Reserved
keys are never writable, and neither is a key that is called as a program, unless the upgradeable
loader is among the keys.

A header that counts more keys than there are is read in the way of its format: in version 0 a
difference below zero is zero; in the legacy format it wraps, at one byte for the signers and at
the width of a length, beyond every index, for the others.
-/

namespace Paymaster.Message

/-- Whether the key at an index must sign. -/
def isSigner (m : Message) (i : Nat) : Bool :=
  i < m.header.required.toNat

/-- Whether an instruction calls the key at an index as its program. -/
def isCalled (m : Message) (i : Nat) : Bool :=
  m.instructions.any fun ix => ix.program.toNat = i

/-- Whether the position of an index is one of those that may be written. -/
def isWritablePosition (m : Message) (i : Nat) : Bool :=
  let required := m.header.required.toNat
  let readonlyUnsigned := m.header.readonlyUnsigned.toNat
  match m.format with
  | .legacy =>
    i < (m.header.required - m.header.readonlySigned).toNat
      || (required ≤ i
        && (m.keys.length < readonlyUnsigned || i < m.keys.length - readonlyUnsigned))
  | .v0 _ =>
    if i < required then i < required - m.header.readonlySigned.toNat
    else i - required < m.keys.length - required - readonlyUnsigned

/-- Whether a key at an index loses its right to be written. -/
def isDemoted (m : Message) (i : Nat) (key : PublicKey) : Bool :=
  Program.reserved.contains key
    || (m.isCalled i && !m.keys.contains Program.upgradeableLoader)

/-- Whether a key at an index may be written. -/
def isWritable (m : Message) (i : Nat) (key : PublicKey) : Bool :=
  m.isWritablePosition i && !m.isDemoted i key

end Paymaster.Message
