import Paymaster.ComputeBudget
import Paymaster.Payment

/-!
# Sponsored transactions

A wallet that holds nothing but tokens sends transactions through a server that pays the ledger's
fee and is paid back in a token.  The server's addresses are looked up once.  A transaction is
built and signed first without the payment, to have its fee estimated, and then, unless the fee is
zero, with it.
-/

namespace Paymaster

open Rpc

/-- A wallet, the server that pays for it, and how it is paid back. -/
structure Sponsor where
  feeToken : PublicKey
  wallet : Crypto.Ed25519.Seed
  payer : PublicKey
  paymentAddress : PublicKey
  tokenProgram : PublicKey
  unitLimit : Json
  unitPrice : Json

namespace Sponsor

variable [Stack]

/-- What a caller says about a wallet and how it pays. -/
structure Plan where
  feeToken : AddressLike
  wallet : Crypto.Ed25519.Seed
  /-- The program of the token; null stands for the token program. -/
  tokenProgram : Json
  unitLimit : Json
  unitPrice : Json

/-- The plan of a wallet in some arguments; with `asKey` the token is passed as a key, if it is
one. -/
def Plan.ofArguments (wallet : Crypto.Ed25519.Seed) (asKey : Bool)
    (arguments : List (Text × Json)) : Plan :=
  let argument (name : Text) : Json := Json.memberD arguments name .null
  { feeToken := .ofValue asKey (argument "fee_token")
    wallet
    tokenProgram := argument "token_program_id"
    unitLimit := argument "compute_unit_limit"
    unitPrice := argument "compute_unit_price" }

/-- The operation that sets up a sponsor. -/
def creating : Operation where
  name := "Paymaster.create"
  given := ["cls", "client", "fee_payer_wallet"]
  required := ["fee_token"]
  optional := ["token_program_id", "compute_unit_limit", "compute_unit_price"]

/-- Looks up the addresses of the server. -/
def create (plan : Plan) : Action Sponsor := do
  let feeToken ← ofExcept (plan.feeToken.parse (.str "fee_token"))
  let tokenProgram ← ofExcept (Payment.tokenProgramOf plan.tokenProgram)
  let record ← Method.getPayerSigner.call []
  let answer := Reply.PayerSigner.ofRecord record
  let payer ← ofExcept (parseAddress answer.signer (.str "signer"))
  let paymentAddress ← ofExcept
    (parseAddress answer.paymentDestination (.str "payment_destination"))
  return { feeToken, wallet := plan.wallet, payer, paymentAddress, tokenProgram
           unitLimit := plan.unitLimit, unitPrice := plan.unitPrice }

/-- The block hash that a value spells. -/
def parseBlockhash (v : Json) : Except Error Blockhash :=
  match v with
  | .str text => do
    let cs ← (Text.Charset.unicode.charsOf text).mapError .unencodable
    match Blockhash.ofChars? cs with
    | some hash => return hash
    | none => throw .malformedHash
  | _ => .error .argumentKind

/-- The text of some instructions, paid for by the server and signed by the wallet. -/
def sign (s : Sponsor) (instructions : List Instruction) (blockhash : Blockhash) :
    Except Error String := do
  let m ← Message.compile false s.payer instructions blockhash
  (Transaction.partiallySign m [s.wallet]).encode .base64

/-- The payment of an amount to the server. -/
def payment (s : Sponsor) (amount : Json) : Except Error Instruction :=
  Token.payment (Crypto.Ed25519.publicKey s.wallet) s.paymentAddress s.feeToken amount
    s.tokenProgram

/-- Builds and signs a transaction of some instructions, ready to be sent through the server. -/
def build (s : Sponsor) (instructions : List Instruction) : Action String := do
  let record ← Method.getBlockhash.call []
  let blockhash ← ofExcept (parseBlockhash (Reply.blockhashOf record))
  let budget ← ofExcept (ComputeBudget.instructions s.unitLimit s.unitPrice)
  let body := budget ++ instructions
  let unpaid ← ofExcept (s.sign body blockhash)
  let token := Json.str s.feeToken.text
  let estimate ← Payment.estimate (.str unpaid) token
  let amount ← ofExcept (estimate.fee token)
  if amount.isZero then
    Action.note .unpaid
    return unpaid
  else
    let payment ← ofExcept (s.payment amount)
    Action.note (.paying amount s.feeToken s.paymentAddress)
    ofExcept (s.sign (body ++ [payment]) blockhash)

/-- The signature that a value spells. -/
def parseSignature (v : Json) : Except Error Signature :=
  match v with
  | .str text => do
    let cs ← (Text.Charset.unicode.charsOf text).mapError .unencodable
    match Signature.ofChars? cs with
    | some signature => return signature
    | none => throw .malformedSignature
  | _ => .error .argumentKind

/-- The signature of a transaction that the server has sent: the one it names, or else the first
of the transaction that it returns. -/
def sentSignature (sent : Reply.SentTransaction) : Except Error Signature :=
  if sent.signature.isBlank then do
    let tx ← Transaction.decode .base64 sent.signedTransaction
    match tx.signatures with
    | [] => throw .index
    | signature :: _ => return signature
  else parseSignature sent.signature

/-- Builds a transaction of some instructions and has the server send it. -/
def submit (s : Sponsor) (instructions : List Instruction) : Action Signature := do
  let transaction ← s.build instructions
  let record ← Method.signAndSendTransaction.call [("transaction", .str transaction)]
  ofExcept (sentSignature (.ofRecord record))

end Sponsor

end Paymaster
