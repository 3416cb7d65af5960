import Paymaster.Bytes
import Paymaster.Numeral
import Paymaster.Text

/-!
# Base 64

Three bytes are written as four characters, and `=` fills up the last group.  Reading is lenient:
characters outside the alphabet are skipped, and a group that its padding completes ends the
text, whatever follows.
-/

namespace Paymaster.Text.Base64

/-- Why a text is no base 64. -/
inductive Fault where
  /-- The text holds a character beyond ASCII. -/
  | notAscii
  /-- The text ends with a group of one character, which holds less than a byte. -/
  | loneCharacter (count : Nat)
  /-- The text ends in an open group of two or three characters. -/
  | openGroup
deriving Repr, DecidableEq

/-- The wording of a fault. -/
def Fault.message : Fault → String
  | .notAscii => "string argument should contain only ASCII characters"
  | .loneCharacter count =>
    "Invalid base64-encoded string: number of data characters ("
      ++ String.ofList (Numeral.decimal count) ++ ") cannot be 1 more than a multiple of 4"
  | .openGroup => "Incorrect padding"

/-- The character of a value below 64. -/
def digitChar (v : Nat) : Char :=
  if v < 26 then Char.ofNat (65 + v)
  else if v < 52 then Char.ofNat (71 + v)
  else if v < 62 then Char.ofNat (v - 4)
  else if v = 62 then '+'
  else '/'

/-- The value of a character of the alphabet. -/
def digitValue? (c : Char) : Option Nat :=
  if 'A' ≤ c ∧ c ≤ 'Z' then some (c.toNat - 65)
  else if 'a' ≤ c ∧ c ≤ 'z' then some (c.toNat - 71)
  else if '0' ≤ c ∧ c ≤ '9' then some (c.toNat + 4)
  else if c = '+' then some 62
  else if c = '/' then some 63
  else none

/-- Groups of three bytes as four characters each, the last one padded. -/
def encodeChars : Bytes → List Char
  | [] => []
  | [a] => [digitChar (a.toNat / 4), digitChar (a.toNat % 4 * 16), '=', '=']
  | [a, b] =>
    [digitChar (a.toNat / 4), digitChar (a.toNat % 4 * 16 + b.toNat / 16),
      digitChar (b.toNat % 16 * 4), '=']
  | a :: b :: c :: rest =>
    digitChar (a.toNat / 4) :: digitChar (a.toNat % 4 * 16 + b.toNat / 16)
      :: digitChar (b.toNat % 16 * 4 + c.toNat / 64) :: digitChar (c.toNat % 64)
      :: encodeChars rest

/-- The base 64 text of some bytes. -/
def encode (bytes : Bytes) : String :=
  String.ofList (encodeChars bytes)

/-- The characters of the group being read. -/
inductive Group where
  | empty
  | one (a : Nat)
  | two (a b : Nat)
  | three (a b c : Nat)
deriving Repr, DecidableEq

namespace Group

/-- How many characters the group holds. -/
def size : Group → Nat
  | empty => 0
  | one _ => 1
  | two _ _ => 2
  | three _ _ _ => 3

/-- The whole bytes in the group. -/
def bytes : Group → Bytes
  | empty => []
  | one _ => []
  | two a b => [UInt8.ofNat (a * 4 + b / 16)]
  | three a b c => [UInt8.ofNat (a * 4 + b / 16), UInt8.ofNat (b % 16 * 16 + c / 4)]

/-- The group after one more character, and the bytes that completing it gives. -/
def push (d : Nat) : Group → Group × Bytes
  | empty => (one d, [])
  | one a => (two a d, [])
  | two a b => (three a b d, [])
  | three a b c => (empty, (three a b c).bytes ++ [UInt8.ofNat (c % 4 * 64 + d)])

end Group

/-- Reads on in a text: `count` characters of whole groups are behind, `group` is open, and `pads`
padding characters have followed its last character.  Padding counts only from the second
character of a group on. -/
def decodeFrom (count : Nat) (group : Group) (pads : Nat) : List Char → Except Fault Bytes
  | [] =>
    match group with
    | .empty => .ok []
    | .one _ => .error (.loneCharacter (count + 1))
    | _ => .error .openGroup
  | c :: rest =>
    if c = '=' then
      if group.size < 2 then decodeFrom count group pads rest
      else if 4 ≤ group.size + pads + 1 then .ok group.bytes
      else decodeFrom count group (pads + 1) rest
    else
      match digitValue? c with
      | none => decodeFrom count group pads rest
      | some d =>
        let (next, out) := group.push d
        let count := if next = .empty then count + 4 else count
        (decodeFrom count next 0 rest).map (out ++ ·)

/-- The bytes of a base 64 text. -/
def decodeChars (text : List Char) : Except Fault Bytes :=
  if text.all (·.toNat < 128) then decodeFrom 0 .empty 0 text else .error .notAscii

/-- The bytes of a base 64 text; half of a pair is beyond ASCII. -/
def decode (text : Text) : Except Fault Bytes :=
  match text.chars? with
  | some cs => decodeChars cs
  | none => .error .notAscii

end Paymaster.Text.Base64
