import Paymaster.Command.Console
import Paymaster.Double.Layout
import Paymaster.Reply.Views
import Paymaster.Rpc.Method

/-!
# Showing a server's configuration

The command asks for the configuration, the version and the payer of a server and prints them.
Without a configuration it ends; the other two answers it can do without.
-/

namespace Paymaster.Command.ShowConfig

open Rpc

/-- The options of the command. -/
def flags : List Flag :=
  [⟨"--rpc-url", true, false⟩, ⟨"--api-key", true, false⟩, ⟨"--hmac-secret", true, false⟩]

/-- The address of the server that a command line names. -/
def urlOf (a : Arguments) : Json :=
  (a.value? "--rpc-url").getD (.str defaultUrl)

/-- The settings that a command line gives. -/
def settingsOf (a : Arguments) : Settings :=
  { url := urlOf a
    apiKey := (a.value? "--api-key").getD .null
    hmacSecret := (a.value? "--hmac-secret").getD .null
    challenge := none }

/-- How many places a percentage is shown with. -/
def percentPlaces : Nat := 2

/-- A share as a percentage.  A text is repeated rather than multiplied, and a list likewise, so
that both fail only when they are to be shown with decimal places. -/
def percentage (share : Json) : Except Error String :=
  let ofInt (n : Int) : Except Error String :=
    match Double.ofInt? (n * 100) with
    | some x => .ok (String.ofList (x.fixed percentPlaces))
    | none => .error .tooLarge
  match share with
  | .int n => ofInt n
  | .bool b => ofInt (if b then 1 else 0)
  | .double x => .ok (String.ofList ((x.scale 100).fixed percentPlaces))
  | .str _ => .error .textAsNumber
  | .arr _ => .error .listAsNumber
  | v => .error (.notScalable v.kind)

/-- The number of elements of a list. -/
def count (xs : List Json) : String :=
  String.ofList (Numeral.decimal xs.length)

/-- Prints some values, one a line. -/
def printAll (values : List Json) : Job Unit :=
  values.forM fun v => Job.print ("  " ++ v.display)

/-- Prints the price of the server. -/
def printPrice (price : Reply.Price) : Job Unit := do
  Job.print ("Price Model:            " ++ price.model.display)
  match price.margin with
  | .null => pure ()
  | margin => do
    let text ← Job.require (percentage margin)
    Job.print ("Margin:                 " ++ text ++ "%")
  match price.amount with
  | .null => pure ()
  | amount =>
    Job.print ("Fixed Amount:           " ++ amount.display ++ " of " ++ price.token.display)

/-- Prints what the server takes. -/
def printValidation (v : Reply.Validation) : Job Unit := do
  Job.print "=== Validation ==="
  Job.print ("Max Allowed Lamports:   " ++ v.maxAllowedLamports.display)
  Job.print ("Max Signatures:         " ++ v.maxSignatures.display)
  Job.print ("Price Source:           " ++ v.priceSource.display)
  printPrice v.price
  Job.print ("Allowed Programs:       " ++ count v.allowedPrograms)
  Job.print ("Disallowed Accounts:    " ++ count v.disallowedAccounts)
  Job.print ""
  Job.print ("=== Paid Tokens (" ++ count v.paidTokens ++ ") ===")
  printAll v.paidTokens
  Job.print ""
  Job.print "=== Fee Payer Policy ==="
  Job.print ("System Transfer:        " ++ v.transfers.system.display)
  Job.print ("SPL Transfer:           " ++ v.transfers.token.display)
  Job.print ("Token-2022 Transfer:    " ++ v.transfers.token2022.display)
  Job.print ""

/-- The names of the methods that are enabled. -/
def enabledNames (config : Reply.Config) : List Json :=
  (config.methods.filter fun m => !m.2.isBlank).map fun m => .str m.1

/-- Prints a configuration. -/
def printConfig (config : Reply.Config) : Job Unit := do
  Job.print "=== Fee Payers ==="
  printAll config.feePayers
  Job.print ""
  printValidation config.validation
  let enabled := enabledNames config
  Job.print ("=== Enabled Methods (" ++ count enabled ++ ") ===")
  printAll enabled
  Job.print ""

/-- Prints the version of the server, or why there is none to be seen. -/
def printVersion (answer : Except Error (Reply.Record Reply.Catalog.version.fields)) : Job Unit :=
  Job.rescue
    (do
      let record ← Job.require answer
      Job.print ("Server Version:         " ++ (Reply.versionOf record).display))
    fun e => Job.print ("Server Version:         unavailable (" ++ e.message ++ ")")

/-- Prints the payer of the server, or why there is none to be seen. -/
def printSigner (answer : Except Error (Reply.Record Reply.Catalog.payerSigner.fields)) :
    Job Unit :=
  Job.rescue
    (do
      let record ← Job.require answer
      let payer := Reply.PayerSigner.ofRecord record
      Job.print "=== Payer Signer ==="
      Job.print ("Signer:                 " ++ payer.signer.display)
      Job.print ("Payment Destination:    " ++ payer.paymentDestination.display))
    fun e => do
      Job.print "=== Payer Signer ==="
      Job.print ("  Error: " ++ e.message)

/-- The command for a server of an address. -/
def job [Stack] (url : Json) : Job Unit := do
  Job.print ("Fetching paymaster configuration from " ++ url.display ++ "...\n")
  match ← Job.attempt (Method.getConfig.call []) with
  | .error e =>
    Job.print ("Error fetching config: " ++ e.message)
    Job.exit 1
  | .ok record =>
    printVersion (← Job.attempt (Method.getVersion.call []))
    Job.print ""
    printConfig (.ofRecord record)
    printSigner (← Job.attempt (Method.getPayerSigner.call []))
    Job.print ""
    Job.print "Done."

/-- Runs the command. -/
def run [Stack] (stream : Stream) (words : List String) (replies : List Response) (clock : Clock) :
    Result :=
  match parse flags words with
  | .refused => .refused (helpText flags)
  | .help => .helped flags
  | .accepted a =>
    runJob (job (urlOf a)) stream (settingsOf a) replies clock

end Paymaster.Command.ShowConfig
