import Paymaster.Command.Arguments
import Paymaster.Rpc.Exchange

/-!
# Commands

A command prints as it goes, calls the server, and ends by itself, with an exit code, or in an
error that it does not handle.  What it has printed stays printed, and a line that its output cannot
hold is an error like any other: nothing of the line is printed.
-/

namespace Paymaster.Command

open Rpc

/-- How a command ends before its time. -/
inductive Ending where
  | exit (code : Nat)
  | failed (error : Error)

/-- Where a command prints to. -/
inductive Stream where
  /-- A text in memory, which holds any code point. -/
  | memory
  /-- Bytes, which spell the characters of a set only. -/
  | bytes (charset : Text.Charset)
deriving DecidableEq, Repr

/-- The first run of code points in a line that a stream cannot hold, if there is one. -/
def Stream.fault? : Stream → Text → Option Text.Charset.Fault
  | memory, _ => none
  | bytes charset, line => charset.fault? line

/-- What a command runs on: where it prints to and what it has printed, and its exchange with the
server. -/
structure Console where
  stream : Stream
  output : Text
  errors : Text
  exchange : Exchange

/-- A command, or a part of one. -/
abbrev Job (α : Type) := ExceptT Ending (StateM Console) α

namespace Job

/-- Prints a line, if the stream can hold it. -/
def print (line : Text) : Job Unit := do
  let c ← get
  match c.stream.fault? line with
  | none => set { c with output := c.output ++ line ++ "\n" }
  | some fault => throw (.failed (.unencodable fault))

/-- Prints a line where errors go.  What cannot be held there is escaped, so that this never
fails. -/
def complain (line : Text) : Job Unit :=
  modify fun c => { c with errors := c.errors ++ line ++ "\n" }

/-- Ends the command with an exit code. -/
def exit {α : Type} (code : Nat) : Job α :=
  throw (.exit code)

/-- Runs an action and gives its result or its error. -/
def attempt {α : Type} (action : Action α) : Job (Except Error α) := do
  let c ← get
  let (result, exchange) := action.run.run c.exchange
  set { c with exchange }
  return result

/-- Goes on with a result, or ends in its error. -/
def require {α : Type} : Except Error α → Job α
  | .ok a => return a
  | .error e => throw (.failed e)

/-- Runs a job; if it ends in an error, another job is run on it.  What was printed before the error
stays. -/
def rescue (job : Job Unit) (handler : Error → Job Unit) : Job Unit :=
  tryCatch job fun
    | .failed e => handler e
    | .exit code => exit code

end Job

/-- What a command leaves behind: its exit code or the error that it ended in, what it has
printed, and what it has sent. -/
structure Result where
  ending : Except Error Nat
  output : Text
  errors : Text
  requests : List Request

/-- Runs a command on a fresh connection of its own. -/
def runJob (job : Job Unit) (stream : Stream) (settings : Settings) (replies : List Response)
    (clock : Clock) : Result :=
  let exchange : Exchange :=
    { connection := .fresh settings true clock, replies, trace := .empty }
  let (result, console) := job.run.run { stream, output := "", errors := "", exchange }
  let ending : Except Error Nat :=
    match result with
    | .ok () => .ok 0
    | .error (.exit code) => .ok code
    | .error (.failed e) => .error e
  { ending, output := console.output, errors := console.errors
    requests := console.exchange.trace.requests }

/-- The result of a command line that is not taken: exit code two, and nothing done but to name
what would be taken. -/
def Result.refused (hint : String) : Result :=
  { ending := .ok 2, output := "", errors := hint, requests := [] }

/-- The result of a command line that asks for help: the options are printed. -/
def Result.helped (flags : List Flag) : Result :=
  { ending := .ok 0, output := helpText flags, errors := "", requests := [] }

end Paymaster.Command
