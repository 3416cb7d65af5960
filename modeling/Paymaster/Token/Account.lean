import Paymaster.Crypto.Edwards
import Paymaster.Crypto.Sha2
import Paymaster.Error
import Paymaster.Program

/-!
# Associated token accounts

A wallet's account for a token stands at an address that wallet, token program and token
determine: the digest of the three, a counting byte and the program that owns such addresses.  An
address must be no curve point, so that nobody can sign for it; the counting byte goes down from
255 to the first that gives one, but not below 1.
-/

namespace Paymaster.Token

/-- What the digest of an address ends in. -/
def addressMarker : Bytes :=
  -- "ProgramDerivedAddress"
  [0x50, 0x72, 0x6F, 0x67, 0x72, 0x61, 0x6D, 0x44, 0x65, 0x72, 0x69, 0x76, 0x65, 0x64,
   0x41, 0x64, 0x64, 0x72, 0x65, 0x73, 0x73]

/-- The bytes whose digest an address is. -/
def addressSeed (owner program mint : PublicKey) (bump : UInt8) : Bytes :=
  owner.bytes ++ program.bytes ++ mint.bytes ++ [bump] ++ Program.associatedToken.bytes
    ++ addressMarker

/-- The address of a counting byte. -/
def candidate (owner program mint : PublicKey) (bump : UInt8) : PublicKey :=
  Crypto.sha256 (addressSeed owner program mint bump)

/-- The address of the first counting byte from `count` down to 1 that gives no curve point. -/
def searchAddress (owner program mint : PublicKey) : (count : Nat) → Option PublicKey
  | 0 => none
  | below + 1 =>
    let address := candidate owner program mint (UInt8.ofNat (below + 1))
    if Crypto.Edwards.isPoint address then searchAddress owner program mint below
    else some address

/-- Whether a program is one of the two token programs. -/
def isTokenProgram (program : PublicKey) : Bool :=
  program = Program.token || program = Program.token2022

/-- The account of a wallet for a token. -/
def associatedAccount (owner mint program : PublicKey) : Except Error PublicKey :=
  if isTokenProgram program then
    match searchAddress owner program mint 255 with
    | some address => .ok address
    | none => .error .noAssociatedAccount
  else .error .unsupportedTokenProgram

end Paymaster.Token
