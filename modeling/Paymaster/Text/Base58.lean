import Paymaster.Bytes
import Paymaster.Numeral

/-!
# Base 58

Bytes as the digits of one big number in base 58, with the characters that are easily confused
(`0`, `O`, `I`, `l`) left out.  A number has no leading zeros, so each zero byte in front is
written as a `1` of its own; this is what makes the text of given bytes unique.
-/

namespace Paymaster.Text.Base58

/-- The digits in order of value. -/
def alphabet : List Char :=
  ['1', '2', '3', '4', '5', '6', '7', '8', '9',
   'A', 'B', 'C', 'D', 'E', 'F', 'G', 'H', 'J', 'K', 'L', 'M', 'N',
   'P', 'Q', 'R', 'S', 'T', 'U', 'V', 'W', 'X', 'Y', 'Z',
   'a', 'b', 'c', 'd', 'e', 'f', 'g', 'h', 'i', 'j', 'k',
   'm', 'n', 'o', 'p', 'q', 'r', 's', 't', 'u', 'v', 'w', 'x', 'y', 'z']

/-- The character of a digit below 58. -/
def digitChar (d : Nat) : Char :=
  (alphabet[d]?).getD '1'

/-- The value of a digit. -/
def digitValue? (c : Char) : Option Nat :=
  alphabet.idxOf? c

/-- One `1` for each zero byte in front, then the digits of the rest. -/
def encodeChars (bytes : Bytes) : List Char :=
  (bytes.takeWhile (· = 0)).map (fun _ => '1')
    ++ ((Numeral.digits 56 (Bytes.ofBigEndian bytes)).map digitChar).reverse

/-- The base 58 text of some bytes. -/
def encode (bytes : Bytes) : String :=
  String.ofList (encodeChars bytes)

/-- The values of the digits, or the first character that is none. -/
def digitValues : List Char → Except Char (List Nat)
  | [] => .ok []
  | c :: rest =>
    match digitValue? c with
    | none => .error c
    | some d => (digitValues rest).map (d :: ·)

/-- The bytes that digits spell: a zero byte for each leading zero digit, then the number. -/
def ofDigits (ds : List Nat) : Bytes :=
  (ds.takeWhile (· = 0)).map (fun _ => 0)
    ++ ((Numeral.digits 254 (Numeral.value 58 ds)).map UInt8.ofNat).reverse

/-- The bytes of a text, or the first character that is no digit. -/
def decodeChars (text : List Char) : Except Char Bytes :=
  (digitValues text).map ofDigits

end Paymaster.Text.Base58
