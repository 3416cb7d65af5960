import Paymaster.Reply.Catalog
import Paymaster.Rpc.Request

/-!
# The methods of the server

Each method by its name, the operation that calls it, and the shape of its answer.
Parameters that are null are left out; a method that knows none is called without any.
-/

namespace Paymaster.Rpc

/-- A method of the server. -/
structure Method where
  name : String
  /-- The operation that calls it; its arguments are the parameters. -/
  operation : Operation
  reply : Reply.Shape
  /-- What a caller is warned of. -/
  warning : Option String

namespace Method

/-- The server's configuration. -/
def getConfig : Method where
  name := "getConfig"
  operation := .ofClient "get_config" [] []
  reply := Reply.Catalog.config
  warning := none

/-- A recent block hash. -/
def getBlockhash : Method where
  name := "getBlockhash"
  operation := .ofClient "get_blockhash" [] []
  reply := Reply.Catalog.blockhash
  warning := none

/-- The version of the server. -/
def getVersion : Method where
  name := "getVersion"
  operation := .ofClient "get_version" [] []
  reply := Reply.Catalog.version
  warning := none

/-- The tokens that the server knows. -/
def getSupportedTokens : Method where
  name := "getSupportedTokens"
  operation := .ofClient "get_supported_tokens" [] []
  reply := Reply.Catalog.supportedTokens
  warning := none

/-- Who signs for the server, and where it is paid. -/
def getPayerSigner : Method where
  name := "getPayerSigner"
  operation := .ofClient "get_payer_signer" [] []
  reply := Reply.Catalog.payerSigner
  warning := none

/-- Estimates the fee of a transaction. -/
def estimateTransactionFee : Method where
  name := "estimateTransactionFee"
  operation :=
    .ofClient "estimate_transaction_fee" ["transaction"]
      ["fee_token", "signer_key", "sig_verify"]
  reply := Reply.Catalog.transactionFee
  warning := none

/-- Estimates the fee of a bundle. -/
def estimateBundleFee : Method where
  name := "estimateBundleFee"
  operation :=
    .ofClient "estimate_bundle_fee" ["transactions"]
      ["fee_token", "signer_key", "sig_verify", "sign_only_indices"]
  reply := Reply.Catalog.bundleFee
  warning := none

/-- Signs a transaction. -/
def signTransaction : Method where
  name := "signTransaction"
  operation := .ofClient "sign_transaction" ["transaction"] ["signer_key", "sig_verify"]
  reply := Reply.Catalog.signedTransaction
  warning := none

/-- Signs a transaction and sends it. -/
def signAndSendTransaction : Method where
  name := "signAndSendTransaction"
  operation := .ofClient "sign_and_send_transaction" ["transaction"] ["signer_key", "sig_verify"]
  reply := Reply.Catalog.sentTransaction
  warning := none

/-- Signs a bundle. -/
def signBundle : Method where
  name := "signBundle"
  operation :=
    .ofClient "sign_bundle" ["transactions"]
      ["signer_key", "sig_verify", "sign_only_indices", "user_id"]
  reply := Reply.Catalog.signedBundle
  warning := none

/-- Signs a bundle and sends it. -/
def signAndSendBundle : Method where
  name := "signAndSendBundle"
  operation :=
    .ofClient "sign_and_send_bundle" ["transactions"]
      ["signer_key", "sig_verify", "sign_only_indices", "user_id"]
  reply := Reply.Catalog.sentBundle
  warning := none

/-- Signs a transaction if it pays the server. -/
def signTransactionIfPaid : Method where
  name := "signTransactionIfPaid"
  operation := .ofClient "sign_transaction_if_paid" ["transaction"] ["signer_key", "sig_verify"]
  reply := Reply.Catalog.paidTransaction
  warning := some "sign_transaction_if_paid is deprecated, use sign_transaction"

/-- Has the server build a transfer. -/
def transferTransaction : Method where
  name := "transferTransaction"
  operation := .ofClient "transfer_transaction" ["amount", "token", "source", "destination"] []
  reply := Reply.Catalog.transfer
  warning := some "transfer_transaction is deprecated, build the transfer client-side"

/-- The parameters that are sent for some arguments: those that are not null, in the order that
the method knows them in. -/
def paramsOf (m : Method) (arguments : List (Text × Json)) : Json :=
  match m.operation.parameters with
  | [] => .null
  | names =>
    .obj <| names.filterMap fun (name : String) =>
      match Json.memberD arguments name .null with
      | .null => none
      | v => some (name, v)

/-- Calls the method. -/
def call [Stack] (m : Method) (arguments : List (Text × Json)) :
    Action (Reply.Record m.reply.fields) := do
  match m.warning with
  | some text => Action.warn text
  | none => pure ()
  let v ← request (.str m.name) (m.paramsOf arguments)
  ofExcept (Reply.decode m.reply.fields v)

end Method

end Paymaster.Rpc
