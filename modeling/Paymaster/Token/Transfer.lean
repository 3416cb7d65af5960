import Paymaster.Instruction
import Paymaster.Token.Account

/-!
# Token transfers

The instruction that moves an amount from one account to another, and the one that pays: a
transfer between the associated accounts of two wallets, signed by the wallet that pays.
-/

namespace Paymaster.Token

/-- The bound below which every amount lies. -/
def amountLimit : Nat := Nat.pow 2 64

/-- An amount, if a value is one. -/
def amountOf (v : Json) : Except Error Nat :=
  match v.toInt? with
  | some n => if 0 ≤ n ∧ n < amountLimit then .ok n.toNat else .error .amount
  | none => .error .amount

/-- Moves an amount between two accounts on behalf of the owner of the first. -/
def transfer (program source destination owner : PublicKey) (amount : Nat) : Instruction :=
  { program
    accounts := [⟨source, false, true⟩, ⟨destination, false, true⟩, ⟨owner, true, false⟩]
    data := 3 :: Bytes.littleEndian 8 amount }

/-- Pays an amount of a token from one wallet to another.  The accounts are found before the
amount is looked at. -/
def payment (source destination mint : PublicKey) (amount : Json) (program : PublicKey) :
    Except Error Instruction := do
  let sourceAccount ← associatedAccount source mint program
  let destinationAccount ← associatedAccount destination mint program
  let amount ← amountOf amount
  return transfer program sourceAccount destinationAccount source amount

end Paymaster.Token
