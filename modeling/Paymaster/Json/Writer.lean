import Paymaster.Bytes
import Paymaster.Double.Layout
import Paymaster.Json

/-!
# Writing JSON

The compact form in which requests are sent: no blanks, members in their order, and ASCII only,
so that the bytes on the wire are the characters.  What is not printable ASCII is written by its
units of sixteen bits.
-/

namespace Paymaster.Json

/-- Numbers are written with the fewest digits that read back, positionally below `10 ^ 16`. -/
def numberLayout : Double.Layout where
  plainFrom := -4
  plainBelow := 16
  exponentWidth := 2
  infinity := "Infinity"
  undefined := "NaN"

/-- A unit of sixteen bits, in four lower-case digits. -/
def unitEscape (u : Nat) : List Char :=
  '\\' :: 'u' :: Bytes.hexDigits 4 u

/-- A code point by its units: one, or beyond the first plane a pair. -/
def codeEscape (p : CodePoint) : List Char :=
  let n := p.value
  if n < 0x10000 then unitEscape n
  else unitEscape (0xD800 + (n - 0x10000) / 0x400) ++ unitEscape (0xDC00 + (n - 0x10000) % 0x400)

/-- A character inside a string. -/
def writeChar (c : Char) : List Char :=
  if c = '"' then ['\\', '"']
  else if c = '\\' then ['\\', '\\']
  else if c = '\n' then ['\\', 'n']
  else if c = '\r' then ['\\', 'r']
  else if c = '\t' then ['\\', 't']
  else if c = '\x0c' then ['\\', 'f']
  else if c = '\x08' then ['\\', 'b']
  else if 0x20 ≤ c.toNat ∧ c.toNat ≤ 0x7E then [c]
  else codeEscape (.char c)

/-- A code point inside a string. -/
def writePoint : CodePoint → List Char
  | .char c => writeChar c
  | .half index => codeEscape (.half index)

/-- A string in its quotes. -/
def writeString (text : Text) : List Char :=
  '"' :: text.points.flatMap writePoint ++ ['"']

mutual

/-- The compact text of a value. -/
def writeChars : Json → List Char
  | null => ['n', 'u', 'l', 'l']
  | bool true => ['t', 'r', 'u', 'e']
  | bool false => ['f', 'a', 'l', 's', 'e']
  | int n => Numeral.decimalInt n
  | double x => numberLayout.render x
  | str text => writeString text
  | arr items => '[' :: writeItems items
  | obj members => '{' :: writeMembers members

/-- The items of an array and its closing bracket. -/
def writeItems : List Json → List Char
  | [] => [']']
  | v :: rest => writeChars v ++ writeMoreItems rest

/-- The items after the first, each behind its comma, and the closing bracket. -/
def writeMoreItems : List Json → List Char
  | [] => [']']
  | v :: rest => ',' :: writeChars v ++ writeMoreItems rest

/-- The members of an object and its closing brace. -/
def writeMembers : List (Text × Json) → List Char
  | [] => ['}']
  | (name, v) :: rest => writeString name ++ ':' :: writeChars v ++ writeMoreMembers rest

/-- The members after the first, each behind its comma, and the closing brace. -/
def writeMoreMembers : List (Text × Json) → List Char
  | [] => ['}']
  | (name, v) :: rest =>
    ',' :: writeString name ++ ':' :: writeChars v ++ writeMoreMembers rest

end

/-- The compact text of a value. -/
def write (v : Json) : String :=
  String.ofList (writeChars v)

end Paymaster.Json
