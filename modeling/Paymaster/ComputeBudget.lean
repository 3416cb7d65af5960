import Paymaster.Program
import Paymaster.Token.Transfer

/-!
# Compute budgets

The instructions that bound the work of a transaction and price it.  Each is there only when its
number is set, and the bound comes first.
-/

namespace Paymaster.ComputeBudget

/-- A number of so many bytes, if a value is one. -/
def field (width : Nat) (v : Json) : Except Error Bytes :=
  match v.toInt? with
  | some n =>
    if 0 ≤ n ∧ n < Nat.pow 256 width then .ok (Bytes.littleEndian width n.toNat)
    else .error .outOfRange
  | none => .error .argumentKind

/-- The instruction of a kind that holds a number, if the number is set. -/
def setting (kind : UInt8) (width : Nat) (v : Json) : Except Error (List Instruction) :=
  match v with
  | .null => .ok []
  | v => do
    let bytes ← field width v
    return [{ program := Program.computeBudget, accounts := [], data := kind :: bytes }]

/-- The instructions for a bound on the work and a price of its unit. -/
def instructions (limit price : Json) : Except Error (List Instruction) := do
  let limits ← setting 2 4 limit
  let prices ← setting 3 8 price
  return limits ++ prices

end Paymaster.ComputeBudget
