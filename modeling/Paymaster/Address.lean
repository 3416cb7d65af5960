import Paymaster.Block
import Paymaster.Error

/-!
# Addresses

Arguments and replies hold addresses as text.  A value is an address when it is a text that spells
a key; any other fails under the name of what it should have been, unless it cannot even be shown.
-/

namespace Paymaster

variable [Stack]

/-- Parses a value as an address, called `field` in the failure. -/
def parseAddress (value field : Json) : Except Error PublicKey :=
  match value with
  | .str text =>
    match PublicKey.ofText? text with
    | some key => .ok key
    | none => .error (.invalidAddress field (.str text))
  | v => do
    let text ← v.shown.mapError .unshowable
    throw (.invalidAddress field (.str text))

/-- An address as a caller gives it: a key, or a value still to be parsed. -/
inductive AddressLike where
  | key (key : PublicKey)
  | unread (value : Json)

/-- A value as an address, given as a key if that is asked for and it is one. -/
def AddressLike.ofValue (asKey : Bool) (value : Json) : AddressLike :=
  match asKey, value with
  | true, .str text =>
    match PublicKey.ofText? text with
    | some k => key k
    | none => unread value
  | _, _ => unread value

/-- The key of an address. -/
def AddressLike.parse (a : AddressLike) (field : Json) : Except Error PublicKey :=
  match a with
  | key k => .ok k
  | unread v => parseAddress v field

end Paymaster
