import Paymaster.Reply.Fields

/-!
# The replies of the server

The shape of each section of the server's configuration, and of what each of its methods answers.
The price is the one section whose stand-ins differ: with no price at all the server charges no
margin, and with a price that names none the margin is open.
-/

namespace Paymaster.Reply.Catalog

/-- Plain values that are null when missing. -/
def plains (names : List String) (rest : Fields) : Fields :=
  names.foldr (fun name rest => .value name .null .null rest) rest

/-- Switches that are off when missing. -/
def switches (names : List String) (rest : Fields) : Fields :=
  names.foldr (fun name rest => .value name (.bool false) (.bool false) rest) rest

/-- A value with one stand-in for every case. -/
def withDefault (name : String) (missing : Json) (rest : Fields) : Fields :=
  .value name missing missing rest

/-! ## Configuration -/

/-- What the fee payer may do with the accounts that guard against replays. -/
def noncePolicy : Shape where
  title := "NonceInstructionPolicy"
  fields :=
    switches ["allow_initialize", "allow_advance", "allow_withdraw", "allow_authorize"] .done

/-- What the fee payer may do with the system program. -/
def systemPolicy : Shape where
  title := "SystemInstructionPolicy"
  fields :=
    switches ["allow_transfer", "allow_assign", "allow_create_account", "allow_allocate"] <|
    .nested "nonce" noncePolicy.title noncePolicy.fields .done

/-- What the fee payer may do with tokens. -/
def tokenSwitches : Fields :=
  switches
    ["allow_transfer", "allow_burn", "allow_close_account", "allow_approve", "allow_revoke",
     "allow_set_authority", "allow_mint_to", "allow_initialize_mint", "allow_initialize_account",
     "allow_initialize_multisig", "allow_freeze_account", "allow_thaw_account"] .done

/-- What the fee payer may do with the token program. -/
def tokenPolicy : Shape where
  title := "SplTokenInstructionPolicy"
  fields := tokenSwitches

/-- What the fee payer may do with the second token program. -/
def token2022Policy : Shape where
  title := "Token2022InstructionPolicy"
  fields := tokenSwitches

/-- What the fee payer may be used for, by program. -/
def feePayerPolicy : Shape where
  title := "FeePayerPolicy"
  fields :=
    .nested "system" systemPolicy.title systemPolicy.fields <|
    .nested "spl_token" tokenPolicy.title tokenPolicy.fields <|
    .nested "token_2022" token2022Policy.title token2022Policy.fields .done

/-- The extensions of tokens that are not taken. -/
def token2022Config : Shape where
  title := "Token2022Config"
  fields := .items "blocked_mint_extensions" <| .items "blocked_account_extensions" .done

/-- How the server prices a transaction. -/
def priceConfig : Shape where
  title := "PriceConfig"
  fields :=
    withDefault "type" (.str "margin") <|
    .value "margin" .null (.double .zero) <|
    plains ["amount", "token"] .done

/-- What the server takes. -/
def validationConfig : Shape where
  title := "ValidationConfig"
  fields :=
    withDefault "max_allowed_lamports" (.int 0) <|
    withDefault "max_signatures" (.int 0) <|
    withDefault "price_source" (.str "") <|
    .items "allowed_programs" <|
    .items "allowed_tokens" <|
    .items "allowed_spl_paid_tokens" <|
    .items "disallowed_accounts" <|
    .nested "fee_payer_policy" feePayerPolicy.title feePayerPolicy.fields <|
    .nested "price" priceConfig.title priceConfig.fields <|
    .nested "token2022" token2022Config.title token2022Config.fields .done

/-- Which methods the server answers. -/
def enabledMethods : Shape where
  title := "EnabledMethods"
  fields :=
    switches
      ["liveness", "estimate_transaction_fee", "estimate_bundle_fee", "get_supported_tokens",
       "get_payer_signer", "sign_transaction", "sign_and_send_transaction", "sign_bundle",
       "sign_and_send_bundle", "transfer_transaction", "get_blockhash", "get_config",
       "get_version", "sign_transaction_if_paid"] .done

/-- The server's configuration. -/
def config : Shape where
  title := "Config"
  fields :=
    .items "fee_payers" <|
    .nested "validation_config" validationConfig.title validationConfig.fields <|
    .nested "enabled_methods" enabledMethods.title enabledMethods.fields .done

/-! ## Answers of methods -/

/-- A recent block hash. -/
def blockhash : Shape where
  title := "GetBlockhashResponse"
  fields := plains ["blockhash"] .done

/-- The version of the server. -/
def version : Shape where
  title := "GetVersionResponse"
  fields := plains ["version"] .done

/-- The tokens that the server knows. -/
def supportedTokens : Shape where
  title := "GetSupportedTokensResponse"
  fields := .items "tokens" .done

/-- Who signs for the server, and where it is paid. -/
def payerSigner : Shape where
  title := "GetPayerSignerResponse"
  fields := plains ["signer", "payment_destination"] .done

/-- What an estimate of a fee says. -/
def estimateFields : Fields :=
  plains ["fee_in_lamports", "fee_in_token", "signer_pubkey", "payment_address"] .done

/-- The estimated fee of a transaction. -/
def transactionFee : Shape where
  title := "EstimateTransactionFeeResponse"
  fields := estimateFields

/-- The estimated fee of a bundle. -/
def bundleFee : Shape where
  title := "EstimateBundleFeeResponse"
  fields := estimateFields

/-- A transaction that the server has signed. -/
def signedTransaction : Shape where
  title := "SignTransactionResponse"
  fields := plains ["signed_transaction", "signer_pubkey", "signature"] .done

/-- A transaction that the server has signed and sent. -/
def sentTransaction : Shape where
  title := "SignAndSendTransactionResponse"
  fields := plains ["signature", "signed_transaction", "signer_pubkey"] .done

/-- A transaction that the server has signed because it is paid for. -/
def paidTransaction : Shape where
  title := "SignTransactionIfPaidResponse"
  fields := plains ["transaction", "signed_transaction", "signer_pubkey"] .done

/-- A bundle that the server has signed. -/
def signedBundle : Shape where
  title := "SignBundleResponse"
  fields := .items "signed_transactions" <| plains ["signer_pubkey"] .done

/-- A bundle that the server has signed and sent. -/
def sentBundle : Shape where
  title := "SignAndSendBundleResponse"
  fields := .items "signed_transactions" <| plains ["signer_pubkey", "bundle_uuid"] .done

/-- A transfer that the server has built. -/
def transfer : Shape where
  title := "TransferTransactionResponse"
  fields := plains ["transaction", "message", "blockhash", "signer_pubkey"] .done

/-- Every shape. -/
def all : List Shape :=
  [noncePolicy, systemPolicy, tokenPolicy, token2022Policy, feePayerPolicy, token2022Config,
   priceConfig, validationConfig, enabledMethods, config, blockhash, version, supportedTokens,
   payerSigner, transactionFee, bundleFee, signedTransaction, sentTransaction, paidTransaction,
   signedBundle, sentBundle, transfer]

end Paymaster.Reply.Catalog
