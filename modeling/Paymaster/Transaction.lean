import Paymaster.Crypto.Ed25519
import Paymaster.Error
import Paymaster.Message.Compile
import Paymaster.Message.Expand
import Paymaster.Message.Wire
import Paymaster.Text.Blank

/-!
# Transactions

A message with its signatures, one for each required signer when it is well formed.  The file
holds the wire form and its two texts, signing, and appending an instruction: the message is
expanded, gets the instruction, and is compiled again, so that all signatures fall.
-/

namespace Paymaster

/-- A message with its signatures. -/
structure Transaction where
  signatures : List Signature
  message : Message
deriving DecidableEq

namespace Transaction

/-! ## On the wire -/

/-- A transaction on the wire. -/
def toBytes (tx : Transaction) : Bytes :=
  Wire.writeList Wire.writeBlock tx.signatures ++ tx.message.toBytes

/-- Takes a transaction. -/
def read : Wire.Reader Transaction := fun bytes => do
  let (signatures, rest) ← Wire.readList (Wire.readBlock 64) bytes
  let (message, rest) ← Message.read rest
  return ({ signatures, message }, rest)

/-- The transaction that some bytes begin with. -/
def ofBytes? (bytes : Bytes) : Option Transaction :=
  (read bytes).map (·.1)

/-- Whether every list is short enough for its length to be written. -/
def fits (tx : Transaction) : Bool :=
  tx.signatures.length ≤ Wire.lengthLimit && tx.message.fits

/-! ## As text -/

/-- How the bytes of a transaction are put into text. -/
inductive Encoding where
  | base64
  | base58
deriving DecidableEq, Repr

/-- The encoding of a name. -/
def Encoding.ofName (name : Json) : Except Error Encoding :=
  match name with
  | .str text =>
    if text = ("base64" : Text) then .ok base64
    else if text = ("base58" : Text) then .ok base58
    else .error (.unsupportedEncoding name)
  | _ => .error (.unsupportedEncoding name)

/-- The name of an encoding. -/
def Encoding.name : Encoding → String
  | base64 => "base64"
  | base58 => "base58"

/-- The bytes of a text in base 64, or in base 58 with blanks behind it. -/
def Encoding.bytesOf (encoding : Encoding) (data : Json) : Except Error Bytes :=
  match encoding, data with
  | base64, .str text => (Text.Base64.decode text).mapError .base64
  | base64, v => .error (.base64Kind v.kind)
  | base58, .str text => do
    let digits ← (Text.Charset.ascii.charsOf text.stripEnd).mapError .unencodable
    (Text.Base58.decodeChars digits).mapError .base58
  | base58, v => .error (.noOperation v.kind "rstrip")

/-- The text of some bytes. -/
def Encoding.textOf : Encoding → Bytes → String
  | base64, bytes => Text.Base64.encode bytes
  | base58, bytes => Text.Base58.encode bytes

/-- The transaction of a text. -/
def decode (encoding : Encoding) (data : Json) : Except Error Transaction := do
  let bytes ← encoding.bytesOf data
  match ofBytes? bytes with
  | some tx => return tx
  | none => throw .malformedTransaction

/-- The text of a transaction. -/
def encode (encoding : Encoding) (tx : Transaction) : Except Error String :=
  if tx.fits then .ok (encoding.textOf tx.toBytes) else .error .listTooLong

/-! ## Signing -/

/-- A signature that is still to come. -/
def noSignature : Signature := Block.zero 64

/-- The signature of a key by one of some seeds, or none yet. -/
def signatureBy (seeds : List (PublicKey × Crypto.Ed25519.Seed)) (payload : Bytes)
    (key : PublicKey) : Signature :=
  match seeds.lookup key with
  | some seed => Crypto.Ed25519.sign seed payload
  | none => noSignature

/-- A message signed by those of some seeds that it requires.  The places of the other signers
stay open. -/
def partiallySign (m : Message) (seeds : List Crypto.Ed25519.Seed) : Transaction :=
  let known := seeds.map fun seed => (Crypto.Ed25519.publicKey seed, seed)
  { signatures := (m.keys.take m.header.required.toNat).map (signatureBy known m.toBytes)
    message := m }

/-- A message without signatures. -/
def unsigned (m : Message) : Transaction :=
  { signatures := List.replicate m.header.required.toNat noSignature, message := m }

/-! ## Appending -/

/-- The transaction with one more instruction, in its format, with its payer and block hash. -/
def append (tx : Transaction) (ix : Instruction) : Except Error Transaction :=
  match tx.message.keys with
  | [] => .error .index
  | payer :: _ => do
    let instructions ← tx.message.expand
    let m ← Message.compile (tx.message.format = .legacy) payer (instructions ++ [ix])
      tx.message.blockhash
    return unsigned m

end Transaction

end Paymaster
