import Paymaster.Text.Encoding

/-!
# Characters of addresses

Each part of an address may hold some printable ASCII characters as they are.  All others are
written by their bytes, each as two digits behind a percent sign; what is written so already stays
as it is, because the percent sign itself is safe everywhere.
-/

namespace Paymaster.Url

/-- An upper-case hexadecimal digit. -/
def upperHexDigit (n : Nat) : Char :=
  if n < 10 then Char.ofNat (48 + n) else Char.ofNat (55 + n)

/-- A byte behind a percent sign. -/
def percentByte (b : UInt8) : List Char :=
  ['%', upperHexDigit (b.toNat / 16), upperHexDigit (b.toNat % 16)]

/-- A part in which the characters that are not safe are written by their bytes. -/
def percentEncode (safe : Char → Bool) (text : List Char) : List Char :=
  text.flatMap fun c =>
    if safe c then [c] else (Text.Encoding.encodeUtf8 [c]).flatMap percentByte

/-- Whether a character is printable ASCII and not one of some others. -/
def isPrintableBut (others : List Char) (c : Char) : Bool :=
  0x20 < c.toNat && c.toNat < 0x7F && !others.contains c

/-- What a fragment may hold. -/
def isFragmentChar : Char → Bool :=
  isPrintableBut ['"', '<', '>', '\x60']

/-- What a query may hold. -/
def isQueryChar : Char → Bool :=
  isPrintableBut ['"', '#', '<', '>']

/-- What a path may hold. -/
def isPathChar : Char → Bool :=
  isPrintableBut ['"', '#', '<', '>', '?', '\x60', '\x7b', '\x7d']

/-- What the name of a user and the password behind it may hold. -/
def isUserChar : Char → Bool :=
  isPrintableBut
    ['"', '#', '<', '>', '?', '\x60', '\x7b', '\x7d', '/', ';', '=', '@', '[', '\\', ']', '^', '|']

/-- What the name of a host may hold. -/
def isHostChar : Char → Bool :=
  isPrintableBut ['#', '/', ':', '<', '>', '?', '@', '[', ']', '^']

end Paymaster.Url
