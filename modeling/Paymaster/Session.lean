import Paymaster.Sponsor

/-!
# Sessions

A session is one client over time: its connection, and the sponsor that it has set up last.  Its
steps run one after the other, each with replies of its own; those that a step leaves over are
dropped.
-/

namespace Paymaster

open Rpc

/-- What a client can be asked to do.  Arguments are passed by name. -/
inductive Step where
  /-- Call a method of the server. -/
  | method (m : Method) (arguments : List (Text × Json))
  /-- Call any method, and take its result as it comes. -/
  | request (method params : Json)
  /-- Make up the payment for a transaction. -/
  | offerPayment (arguments : List (Text × Json))
  /-- Append the payment to a transaction. -/
  | appendPayment (arguments : List (Text × Json))
  /-- Set up a sponsor of a wallet; with `asKey` its token is passed as a key. -/
  | sponsor (wallet : Crypto.Ed25519.Seed) (asKey : Bool) (arguments : List (Text × Json))
  /-- Build a transaction with the sponsor. -/
  | build (instructions : List Instruction)
  /-- Send a transaction through the sponsor. -/
  | submit (instructions : List Instruction)
  /-- Close the client. -/
  | close (arguments : List (Text × Json))
  /-- Enter and leave a scope that closes the client behind it. -/
  | scope
  /-- Read the settings back. -/
  | settings

/-- What a step results in. -/
inductive Outcome where
  | record (shape : Reply.Shape) (r : Reply.Record shape.fields)
  | value (v : Json)
  | offer (o : Payment.Offer)
  | transaction (text : Text)
  | sponsor (s : Sponsor)
  | signature (s : Signature)
  | closed
  | scoped
  | settings (s : Settings)

/-- A client over time. -/
structure Session where
  connection : Connection
  sponsor : Option Sponsor

namespace Session

variable [Stack]

/-- A step with the replies that the server has ready for it, and the time it runs at if that has
changed. -/
structure Turn where
  step : Step
  replies : List Response
  clock : Option Clock

/-- A step's result and what it has shown of itself. -/
structure Report where
  outcome : Except Error Outcome
  trace : Trace

/-- The sponsor that has been set up, for an operation that needs one. -/
def currentSponsor (sponsor : Option Sponsor) (operation : String) : Action Sponsor :=
  match sponsor with
  | some s => return s
  | none => throw (.noOperation .null operation)

/-- The operation that closes the client. -/
def closing : Operation :=
  .ofClient "aclose" [] []

/-- Checks the names of the arguments that are passed to an operation. -/
def checkArguments (o : Operation) (arguments : List (Text × Json)) : Action Unit :=
  ofExcept ((o.check (arguments.map (·.1))).mapError .arguments)

/-- Runs a step for a client with a sponsor or none. -/
def perform (sponsor : Option Sponsor) : Step → Action Outcome
  | .method m arguments => do
    checkArguments m.operation arguments
    return .record m.reply (← m.call arguments)
  | .request method params => return .value (← request method params)
  | .offerPayment arguments => do
    checkArguments Payment.offering arguments
    return .offer (← Payment.offer (.ofArguments arguments))
  | .appendPayment arguments => do
    checkArguments Payment.appending arguments
    return .transaction
      (← Payment.append (.ofArguments arguments) (Payment.asksForCheck arguments))
  | .sponsor wallet asKey arguments => do
    checkArguments Sponsor.creating arguments
    return .sponsor (← Sponsor.create (.ofArguments wallet asKey arguments))
  | .build instructions => do
    let s ← currentSponsor sponsor "build_transaction"
    return .transaction (← s.build instructions)
  | .submit instructions => do
    let s ← currentSponsor sponsor "send_transaction"
    return .signature (← s.submit instructions)
  | .close arguments => do
    checkArguments closing arguments
    Action.modifyConnection Connection.close
    return .closed
  | .scope => do
    Action.modifyConnection Connection.close
    return .scoped
  | .settings => return .settings (← get).connection.settings

/-- The sponsor after a step: the one that it has set up, or the one before. -/
def nextSponsor (before : Option Sponsor) : Except Error Outcome → Option Sponsor
  | .ok (.sponsor s) => some s
  | _ => before

/-- Runs a step. -/
def step (s : Session) (turn : Turn) : Report × Session :=
  let connection := { s.connection with clock := turn.clock.getD s.connection.clock }
  let (outcome, after) :=
    (perform s.sponsor turn.step).run.run
      { connection, replies := turn.replies, trace := .empty }
  ({ outcome, trace := after.trace },
   { connection := after.connection, sponsor := nextSponsor s.sponsor outcome })

/-- Runs steps one after the other. -/
def run (s : Session) : List Turn → List Report
  | [] => []
  | turn :: rest =>
    let (report, after) := s.step turn
    report :: run after rest

end Session

end Paymaster
