import Paymaster.Address
import Paymaster.Reply.Views
import Paymaster.Rpc.Method
import Paymaster.Transaction

/-!
# Paying for a transaction

A server that signs a transaction as its fee payer wants the fee back, in a token.  The payment is
a token transfer of the fee that the server estimates, to the address that it names, appended to
the transaction.  Addresses are looked at before anything is sent.
-/

namespace Paymaster

open Rpc

/-- The fee in the token, as an estimate names it: there must be one, and not below zero. -/
def Reply.FeeEstimate.fee (estimate : Reply.FeeEstimate) (token : Json) : Except Error Json :=
  match estimate.inToken with
  | .null => .error (.feeMissing token)
  | .int n => if n < 0 then .error (.feeNegative (.int n)) else .ok (.int n)
  | .double x => if x.isNegative then .error (.feeNegative (.double x)) else .ok (.double x)
  | .bool b => .ok (.bool b)
  | v => .error (.notComparable v.kind)

/-- Whether a value is the number zero. -/
def Json.isZero : Json → Bool
  | .int n => n = 0
  | .double x => x.isZero
  | .bool b => !b
  | _ => false

namespace Payment

variable [Stack]

/-- What is to be paid for, with which token, from which wallet. -/
structure Terms where
  transaction : Json
  feeToken : Json
  sourceWallet : Json
  /-- The program of the token; null stands for the token program. -/
  tokenProgram : Json

/-- The terms in some arguments. -/
def Terms.ofArguments (arguments : List (Text × Json)) : Terms :=
  let argument (name : Text) : Json := Json.memberD arguments name .null
  { transaction := argument "transaction", feeToken := argument "fee_token"
    sourceWallet := argument "source_wallet", tokenProgram := argument "token_program_id" }

/-- A payment that is ready to be appended. -/
structure Offer where
  transaction : Json
  instruction : Instruction
  amount : Json
  token : Json
  address : Json
  signer : Json

/-- The addresses in some terms. -/
structure Parties where
  mint : PublicKey
  wallet : PublicKey
  program : PublicKey

/-- The token program that an argument names; null stands for the first of them. -/
def tokenProgramOf (v : Json) : Except Error PublicKey :=
  match v with
  | .null => .ok Program.token
  | v => parseAddress v (.str "token_program_id")

/-- Parses the addresses of some terms. -/
def Terms.parties (terms : Terms) : Except Error Parties := do
  let mint ← parseAddress terms.feeToken (.str "fee_token")
  let wallet ← parseAddress terms.sourceWallet (.str "source_wallet")
  let program ← tokenProgramOf terms.tokenProgram
  return { mint, wallet, program }

/-- The estimated fee of a transaction in a token. -/
def estimate (transaction feeToken : Json) : Action Reply.FeeEstimate := do
  let record ← Method.estimateTransactionFee.call
    [("transaction", transaction), ("fee_token", feeToken)]
  return .ofRecord record

/-- The operation that makes up a payment. -/
def offering : Operation :=
  .ofClient "get_payment_instruction" ["transaction", "fee_token", "source_wallet"]
    ["token_program_id"]

/-- Asks for the fee and makes up the payment. -/
def offer (terms : Terms) : Action Offer := do
  let parties ← ofExcept terms.parties
  let estimate ← estimate terms.transaction terms.feeToken
  let amount ← ofExcept (estimate.fee terms.feeToken)
  let destination ← ofExcept (parseAddress estimate.paymentAddress (.str "payment_address"))
  let instruction ← ofExcept
    (Token.payment parties.wallet destination parties.mint amount parties.program)
  Action.note (.payment amount parties.mint destination)
  return { transaction := terms.transaction, instruction, amount
           token := terms.feeToken, address := estimate.paymentAddress
           signer := estimate.signer }

/-- Refuses a token that the server does not take, and a server that takes nothing. -/
def checkPolicy (config : Reply.Config) (feeToken : Json) : Except Error Unit :=
  if !config.validation.paidTokens.any (Reply.isText feeToken.display) then
    .error (.unsupportedToken feeToken)
  else if config.validation.price.isFree then .error .paymentNotRequired
  else .ok ()

/-- The operation that appends a payment. -/
def appending : Operation :=
  .ofClient "append_payment_instruction" ["transaction", "fee_token", "source_wallet"]
    ["token_program_id", "check_config"]

/-- Whether some arguments ask for the server's policy to be checked, as they do if they do not
say. -/
def asksForCheck (arguments : List (Text × Json)) : Bool :=
  !(Json.memberD arguments "check_config" (.bool true)).isBlank

/-- Appends the payment to the transaction and gives its text.  With `checkConfig` the server is
asked first whether it takes the token.  With a fee of zero the text stays as it is. -/
def append (terms : Terms) (checkConfig : Bool) : Action Text := do
  let _ ← ofExcept terms.parties
  let tx ← ofExcept (Transaction.decode .base64 terms.transaction)
  if checkConfig then
    let record ← Method.getConfig.call []
    ofExcept (checkPolicy (.ofRecord record) terms.feeToken)
  let offer ← offer terms
  if offer.amount.isZero then
    Action.note .unchanged
    return terms.transaction.display
  else
    let paid ← ofExcept (tx.append offer.instruction)
    return ← ofExcept (paid.encode .base64)

end Payment

end Paymaster
