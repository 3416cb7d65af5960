import Paymaster.Instruction

/-!
# The table of keys of a list of instructions

Every key that some instructions mention, once, in the order of its bytes, with the roles that any
of its mentions asks for.
-/

namespace Paymaster

/-- What a key is needed for. -/
structure Usage where
  signs : Bool
  written : Bool
deriving DecidableEq

/-- What either of two usages asks for. -/
def Usage.merge (u v : Usage) : Usage :=
  { signs := u.signs || v.signs, written := u.written || v.written }

/-- Keys in ascending order of their bytes, each with its usage. -/
abbrev KeyTable := List (PublicKey × Usage)

namespace KeyTable

/-- Notes a use of a key. -/
def note (key : PublicKey) (usage : Usage) : KeyTable → KeyTable
  | [] => [(key, usage)]
  | (other, known) :: rest =>
    if key = other then (other, known.merge usage) :: rest
    else if key.bytes < other.bytes then (key, usage) :: (other, known) :: rest
    else (other, known) :: note key usage rest

/-- Notes the accounts of an instruction and its program, which it only calls. -/
def noteInstruction (table : KeyTable) (ix : Instruction) : KeyTable :=
  ix.accounts.foldl (fun t a => note a.key ⟨a.isSigner, a.isWritable⟩ t)
    (note ix.program ⟨false, false⟩ table)

/-- The table of some instructions. -/
def ofInstructions (instructions : List Instruction) : KeyTable :=
  instructions.foldl noteInstruction []

/-- The keys of one usage other than a given key, in order. -/
def keysOf (table : KeyTable) (except : PublicKey) (usage : Usage) : List PublicKey :=
  (table.filter fun entry => entry.1 ≠ except ∧ entry.2 = usage).map (·.1)

end KeyTable

end Paymaster
