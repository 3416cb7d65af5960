import Paymaster.Message

/-!
# Messages on the wire

Lists are written behind their length, and a length is written in groups of seven bits, the
lowest first, a set top bit saying that another group follows.  A reader takes the shortest
spelling of a length only, and none beyond sixteen bits.  A message of version 0 opens with a byte
whose top bit is set, which no legacy header with fewer than 128 signers does.

A reader hands on the bytes behind what it took.
-/

namespace Paymaster

namespace Wire

/-- The greatest length that is written. -/
def lengthLimit : Nat := 65535

/-! ## Writing -/

/-- A length. -/
def writeLength (n : Nat) : Bytes :=
  if n < 0x80 then [UInt8.ofNat n]
  else if n < 0x4000 then [UInt8.ofNat (n % 0x80 + 0x80), UInt8.ofNat (n / 0x80)]
  else
    [UInt8.ofNat (n % 0x80 + 0x80), UInt8.ofNat (n / 0x80 % 0x80 + 0x80), UInt8.ofNat (n / 0x4000)]

/-- A list behind its length. -/
def writeList {α : Type} (write : α → Bytes) (xs : List α) : Bytes :=
  writeLength xs.length ++ xs.flatMap write

/-- Some bytes behind their number. -/
def writeBytes (bytes : Bytes) : Bytes :=
  writeLength bytes.length ++ bytes

/-- A block. -/
def writeBlock {n : Nat} (b : Block n) : Bytes :=
  b.bytes

/-! ## Reading -/

/-- Takes something off the front of some bytes. -/
abbrev Reader (α : Type) := Bytes → Option (α × Bytes)

/-- A byte. -/
def readByte : Reader UInt8
  | [] => none
  | b :: rest => some (b, rest)

/-- A length, in its shortest spelling. -/
def readLength : Reader Nat
  | [] => none
  | a :: rest =>
    if a < 0x80 then some (a.toNat, rest)
    else
      match rest with
      | [] => none
      | b :: rest =>
        if b = 0 then none
        else if b < 0x80 then some (a.toNat % 0x80 + b.toNat * 0x80, rest)
        else
          match rest with
          | [] => none
          | c :: rest =>
            if c = 0 ∨ 3 < c then none
            else some (a.toNat % 0x80 + b.toNat % 0x80 * 0x80 + c.toNat * 0x4000, rest)

/-- A number of bytes. -/
def readBytes (n : Nat) : Reader Bytes := fun bytes =>
  if n ≤ bytes.length then some (bytes.take n, bytes.drop n) else none

/-- A block. -/
def readBlock (n : Nat) : Reader (Block n) := fun bytes => do
  let (front, rest) ← readBytes n bytes
  let block ← Block.ofBytes? n front
  return (block, rest)

/-- A number of things. -/
def readMany {α : Type} (read : Reader α) : Nat → Reader (List α)
  | 0, bytes => some ([], bytes)
  | count + 1, bytes => do
    let (x, rest) ← read bytes
    let (xs, rest) ← readMany read count rest
    return (x :: xs, rest)

/-- A list behind its length. -/
def readList {α : Type} (read : Reader α) : Reader (List α) := fun bytes => do
  let (count, rest) ← readLength bytes
  readMany read count rest

/-- Some bytes behind their number. -/
def readCountedBytes : Reader Bytes := fun bytes => do
  let (count, rest) ← readLength bytes
  readBytes count rest

end Wire

open Wire

/-- An instruction on the wire. -/
def CompiledInstruction.toBytes (ix : CompiledInstruction) : Bytes :=
  ix.program :: writeBytes ix.accounts ++ writeBytes ix.data

/-- A lookup on the wire. -/
def Lookup.toBytes (l : Lookup) : Bytes :=
  writeBlock l.table ++ writeBytes l.writable ++ writeBytes l.readonly

/-- A header on the wire. -/
def Header.toBytes (h : Header) : Bytes :=
  [h.required, h.readonlySigned, h.readonlyUnsigned]

/-- Takes an instruction. -/
def CompiledInstruction.read : Reader CompiledInstruction := fun bytes => do
  let (program, rest) ← readByte bytes
  let (accounts, rest) ← readCountedBytes rest
  let (data, rest) ← readCountedBytes rest
  return ({ program, accounts, data }, rest)

/-- Takes a lookup. -/
def Lookup.read : Reader Lookup := fun bytes => do
  let (table, rest) ← readBlock 32 bytes
  let (writable, rest) ← readCountedBytes rest
  let (readonly, rest) ← readCountedBytes rest
  return ({ table, writable, readonly }, rest)

/-- Takes a header. -/
def Header.read : Reader Header := fun bytes => do
  let (required, rest) ← readByte bytes
  let (readonlySigned, rest) ← readByte rest
  let (readonlyUnsigned, rest) ← readByte rest
  return ({ required, readonlySigned, readonlyUnsigned }, rest)

namespace Message

/-- The part that both formats share. -/
def bodyBytes (m : Message) : Bytes :=
  m.header.toBytes ++ writeList writeBlock m.keys ++ writeBlock m.blockhash
    ++ writeList CompiledInstruction.toBytes m.instructions

/-- A message on the wire: these are the bytes that are signed. -/
def toBytes (m : Message) : Bytes :=
  match m.format with
  | .legacy => m.bodyBytes
  | .v0 lookups => 0x80 :: m.bodyBytes ++ writeList Lookup.toBytes lookups

/-- Takes the part that both formats share, as a legacy message. -/
def readBody : Reader Message := fun bytes => do
  let (header, rest) ← Header.read bytes
  let (keys, rest) ← readList (readBlock 32) rest
  let (blockhash, rest) ← readBlock 32 rest
  let (instructions, rest) ← readList CompiledInstruction.read rest
  return ({ format := .legacy, header, keys, blockhash, instructions }, rest)

/-- Takes a message: of version 0 behind a byte with its top bit set, of the legacy format
otherwise. -/
def read : Reader Message
  | [] => none
  | b :: rest =>
    if b < 0x80 then readBody (b :: rest)
    else if b = 0x80 then do
      let (m, rest) ← readBody rest
      let (lookups, rest) ← readList Lookup.read rest
      return ({ m with format := .v0 lookups }, rest)
    else none

/-- Whether every list is short enough for its length to be written. -/
def fits (m : Message) : Bool :=
  let short {α : Type} (xs : List α) : Bool := xs.length ≤ lengthLimit
  short m.keys && short m.instructions && short m.lookups
    && m.instructions.all (fun ix => short ix.accounts && short ix.data)
    && m.lookups.all (fun l => short l.writable && short l.readonly)

end Message

end Paymaster
