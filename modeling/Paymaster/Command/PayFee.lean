import Paymaster.Command.ShowConfig
import Paymaster.Payment

/-!
# Paying for a transaction from the command line

The command appends the payment to a transaction and prints nothing but the new transaction, or it
prints the payment by itself.  The transaction is an argument or, without one, all that stands on
the input.  The failures that the client reports end in a message and exit code one.
-/

namespace Paymaster.Command.PayFee

open Rpc

/-- The options of the command. -/
def flags : List Flag :=
  ShowConfig.flags ++
    [⟨"--fee-token", true, true⟩, ⟨"--wallet", true, true⟩, ⟨"--token-program", true, false⟩,
     ⟨"--transaction", true, false⟩, ⟨"--instruction-only", false, false⟩]

/-- The transaction: the argument, or without one the input between its blanks. -/
def transactionOf (a : Arguments) (input : List Char) : Json :=
  let given := (a.value? "--transaction").getD .null
  if given.isBlank then .str (.ofChars (Text.strip input)) else given

/-- What is to be paid for, and how. -/
def termsOf (a : Arguments) (input : List Char) : Payment.Terms :=
  { transaction := transactionOf a input
    feeToken := (a.value? "--fee-token").getD .null
    sourceWallet := (a.value? "--wallet").getD .null
    tokenProgram := (a.value? "--token-program").getD .null }

/-- The result of an action; a failure that the client reports ends the command with a message. -/
def orComplain {α : Type} (action : Action α) : Job α := do
  match ← Job.attempt action with
  | .ok result => return result
  | .error e =>
    if e.isReported then
      Job.complain ("Error: " ++ e.message)
      Job.exit 1
    else throw (.failed e)

/-- Prints an account. -/
def printAccount (a : AccountRef) : Job Unit :=
  Job.print ("  " ++ a.key.text ++ " signer=" ++ (Json.bool a.isSigner).display ++ " writable="
    ++ (Json.bool a.isWritable).display)

/-- Prints a payment. -/
def printOffer (offer : Payment.Offer) : Job Unit := do
  Job.print "=== Payment ==="
  Job.print ("Amount:                 " ++ offer.amount.display)
  Job.print ("Token:                  " ++ offer.token.display)
  Job.print ("Pay To:                 " ++ offer.address.display)
  Job.print ("Paymaster Signer:       " ++ offer.signer.display)
  Job.print ("Program:                " ++ offer.instruction.program.text)
  offer.instruction.accounts.forM printAccount

/-- The command. -/
def job [Stack] (terms : Payment.Terms) (instructionOnly : Bool) : Job Unit :=
  if instructionOnly then do
    let offer ← orComplain (Payment.offer terms)
    printOffer offer
  else do
    let text ← orComplain (Payment.append terms true)
    Job.print text

/-- Runs the command. -/
def run [Stack] (stream : Stream) (words : List String) (input : String) (replies : List Response)
    (clock : Clock) : Result :=
  match parse flags words with
  | .refused => .refused (helpText flags)
  | .help => .helped flags
  | .accepted a =>
    runJob (job (termsOf a input.toList) (a.isSet "--instruction-only")) stream
      (ShowConfig.settingsOf a) replies clock

end Paymaster.Command.PayFee
