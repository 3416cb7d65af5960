import Paymaster.Idna
import Paymaster.Numeral
import Paymaster.Segment
import Paymaster.Unicode.Lowercase
import Paymaster.Url
import Paymaster.Url.Percent

/-!
# Hosts

A host is four numbers, an address of eight groups in square brackets, or a name.  Names are in
lower case, and those beyond ASCII are encoded.
-/

namespace Paymaster.Url

/-! ## Four numbers -/

/-- Whether a host is four runs of digits with dots between them. -/
def looksNumeric (host : List Char) : Bool :=
  let runs := segments (· = '.') host
  runs.length = 4 && runs.all fun run => !run.isEmpty && run.all Char.isDigit

/-- Whether a text is a number of one byte, without needless zeros. -/
def isByteNumber (text : List Char) : Bool :=
  !text.isEmpty && text.length ≤ 3 && text.all Char.isDigit
    && (text = ['0'] || text.head? ≠ some '0')
    && Numeral.value 10 (text.map fun c => c.toNat - 48) < 256

/-- Whether a text is an address of four numbers. -/
def isFourNumbers (text : List Char) : Bool :=
  let parts := segments (· = '.') text
  parts.length = 4 && parts.all isByteNumber

/-! ## Eight groups -/

/-- Whether a text is a group of an address: one to four hexadecimal digits. -/
def isGroup (text : List Char) : Bool :=
  !text.isEmpty && text.length ≤ 4 && text.all fun c => (Bytes.hexValue? c).isSome

/-- The groups of an address; four numbers at its end stand for two of them. -/
def groupsOf? (text : List Char) : Option (List (List Char)) :=
  let parts := segments (· = ':') text
  match parts.getLast? with
  | some last =>
    if parts.length < 3 then none
    else if last.contains '.' then
      if isFourNumbers last then some (parts.dropLast ++ [['0'], ['0']]) else none
    else some parts
  | none => none

/-- The groups on one side of two colons in a row, `outer` being the one at the end of the address:
they may be none at all. -/
def sideOf (outer : Option (List Char)) (groups : List (List Char)) : List (List Char) :=
  if outer = some [] && groups.length = 1 then [] else groups

/-- Whether groups make an address: eight of them, or fewer around two colons in a row. -/
def areGroups (groups : List (List Char)) : Bool :=
  match (groups.tail.dropLast).findIdx? (·.isEmpty) with
  | none => groups.length = 8 && groups.all isGroup
  | some i =>
    let before := groups.take (i + 1)
    let behind := groups.drop (i + 2)
    let written := sideOf before.head? before ++ sideOf behind.getLast? behind
    written.length ≤ 7 && written.all isGroup

/-- Whether a text is an address of eight groups, with or without a zone behind a percent sign. -/
def isEightGroups (text : List Char) : Bool :=
  let (address, zone) := splitAtMark '%' text
  zone.all (fun z => !z.isEmpty && !z.contains '%')
    && (groupsOf? address).any fun groups => groups.length ≤ 9 && areGroups groups

/-! ## Normal form -/

/-- Why a host is refused. -/
inductive HostFault where
  /-- The host looks like four numbers and is not. -/
  | numbers
  /-- What stands in square brackets is no address. -/
  | groups
  /-- The host is no name. -/
  | name
deriving DecidableEq, Repr

/-- The normal form of a host; an address of eight groups loses its brackets. -/
def normalHost (host : List Char) : Except HostFault (List Char) :=
  if looksNumeric host then
    if isFourNumbers host then .ok host else .error .numbers
  else if host.head? = some '[' && host.getLast? = some ']' then
    let address := host.tail.dropLast
    if isEightGroups address then .ok address else .error .groups
  else if host.all fun c => c.toNat < 128 then
    .ok (percentEncode isHostChar (host.map Char.toLower))
  else (Idna.encode (Unicode.lower (host.map Char.toNat))).mapError fun _ => .name

/-- A host as it stands in an address: what holds a colon is put in brackets. -/
def hostText (host : List Char) : List Char :=
  if host.contains ':' then '[' :: host ++ [']'] else host

end Paymaster.Url
