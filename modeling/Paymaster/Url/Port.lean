import Paymaster.Numeral
import Paymaster.Text.Blank
import Paymaster.Unicode.Digit

/-!
# Ports

A port is a whole number.  It may be written in the digits of any script, with a sign in front,
with blanks around it and with single underscores between its digits.
-/

namespace Paymaster.Url

/-- The values of digits that may have single underscores between them. -/
def spacedDigits? : List Char → Option (List Nat)
  | [] => none
  | [c] => (Unicode.digitValue? c).map ([·])
  | c :: '_' :: rest => do
    let d ← Unicode.digitValue? c
    let ds ← spacedDigits? rest
    return d :: ds
  | c :: rest => do
    let d ← Unicode.digitValue? c
    let ds ← spacedDigits? rest
    return d :: ds

/-- The number that digits spell, if they are not too many. -/
def unsignedNumber? (text : List Char) : Option Nat := do
  let ds ← spacedDigits? text
  if Numeral.digitLimit < ds.length then none else return Numeral.value 10 ds

/-- The number that a port is. -/
def portNumber? (port : List Char) : Option Int :=
  match Text.strip port with
  | '+' :: digits => (unsignedNumber? digits).map Int.ofNat
  | '-' :: digits => (unsignedNumber? digits).map fun n => -(n : Int)
  | digits => (unsignedNumber? digits).map Int.ofNat

/-- The port that a scheme has by itself. -/
def ownPort? (scheme : List Char) : Option Int :=
  [("ftp", 21), ("http", 80), ("https", 443), ("ws", 80), ("wss", 443)].lookup
    (String.ofList scheme)

end Paymaster.Url
