import Paymaster.Reply.Catalog

/-!
# Replies that the client acts on

The records that the payment flows and the reports look into, with names for their parts.
-/

namespace Paymaster.Reply

/-- Whether a value is a certain text. -/
def isText (text : Text) : Json → Bool
  | .str other => other = text
  | _ => false

/-- The estimated fee of a transaction. -/
structure FeeEstimate where
  inLamports : Json
  inToken : Json
  signer : Json
  paymentAddress : Json

/-- The parts of an estimate. -/
def FeeEstimate.ofRecord (r : Record Catalog.estimateFields) : FeeEstimate :=
  let (inLamports, inToken, signer, paymentAddress, ()) :
    Json × Json × Json × Json × Unit := r
  { inLamports, inToken, signer, paymentAddress }

/-- Who signs for the server, and where it is paid. -/
structure PayerSigner where
  signer : Json
  paymentDestination : Json

/-- The parts of an answer on the payer. -/
def PayerSigner.ofRecord (r : Record Catalog.payerSigner.fields) : PayerSigner :=
  let (signer, paymentDestination, ()) : Json × Json × Unit := r
  { signer, paymentDestination }

/-- A transaction that the server has signed and sent. -/
structure SentTransaction where
  signature : Json
  signedTransaction : Json
  signer : Json

/-- The parts of an answer on a sent transaction. -/
def SentTransaction.ofRecord (r : Record Catalog.sentTransaction.fields) : SentTransaction :=
  let (signature, signedTransaction, signer, ()) : Json × Json × Json × Unit := r
  { signature, signedTransaction, signer }

/-- A recent block hash. -/
def blockhashOf (r : Record Catalog.blockhash.fields) : Json :=
  let (hash, ()) : Json × Unit := r
  hash

/-- The version of the server. -/
def versionOf (r : Record Catalog.version.fields) : Json :=
  let (version, ()) : Json × Unit := r
  version

/-- How the server prices a transaction. -/
structure Price where
  model : Json
  margin : Json
  amount : Json
  token : Json

/-- The parts of a price. -/
def Price.ofRecord (r : Record Catalog.priceConfig.fields) : Price :=
  let (model, margin, amount, token, ()) : Json × Json × Json × Json × Unit := r
  { model, margin, amount, token }

/-- Whether the server asks for no payment. -/
def Price.isFree (p : Price) : Bool :=
  isText "free" p.model

/-- What the fee payer may transfer, by program. -/
structure TransferPolicy where
  system : Json
  token : Json
  token2022 : Json

/-- The transfers that a policy of the fee payer allows. -/
def TransferPolicy.ofRecord (r : Record Catalog.feePayerPolicy.fields) : TransferPolicy :=
  let (system, token, token2022, ()) :
    Record Catalog.systemPolicy.fields × Record Catalog.tokenPolicy.fields
      × Record Catalog.token2022Policy.fields × Unit := r
  let (systemTransfer, _) : Json × Record _ := system
  let (tokenTransfer, _) : Json × Record _ := token
  let (token2022Transfer, _) : Json × Record _ := token2022
  { system := systemTransfer, token := tokenTransfer, token2022 := token2022Transfer }

/-- What the server takes. -/
structure Validation where
  maxAllowedLamports : Json
  maxSignatures : Json
  priceSource : Json
  allowedPrograms : List Json
  allowedTokens : List Json
  paidTokens : List Json
  disallowedAccounts : List Json
  transfers : TransferPolicy
  price : Price

/-- The parts of a section on what the server takes. -/
def Validation.ofRecord (r : Record Catalog.validationConfig.fields) : Validation :=
  let (maxAllowedLamports, maxSignatures, priceSource, allowedPrograms, allowedTokens, paidTokens,
      disallowedAccounts, policy, price, _) :
    Json × Json × Json × List Json × List Json × List Json × List Json
      × Record Catalog.feePayerPolicy.fields × Record Catalog.priceConfig.fields × Record _ := r
  { maxAllowedLamports, maxSignatures, priceSource, allowedPrograms, allowedTokens, paidTokens
    disallowedAccounts, transfers := .ofRecord policy, price := .ofRecord price }

/-- The server's configuration. -/
structure Config where
  feePayers : List Json
  validation : Validation
  /-- Each method by name, and whether it is enabled. -/
  methods : List (Text × Json)

/-- The parts of a configuration. -/
def Config.ofRecord (r : Record Catalog.config.fields) : Config :=
  let (feePayers, validation, methods, ()) :
    List Json × Record Catalog.validationConfig.fields
      × Record Catalog.enabledMethods.fields × Unit := r
  { feePayers, validation := .ofRecord validation
    methods := toMembers Catalog.enabledMethods.fields methods }

end Paymaster.Reply
