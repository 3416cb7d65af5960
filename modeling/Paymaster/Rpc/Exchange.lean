import Paymaster.Block
import Paymaster.Json.Display
import Paymaster.Rpc.Settings
import Paymaster.Token.Transfer

/-!
# Exchanges

An action of the client runs on an exchange: the connection, which outlives it, the replies that
the server has ready, and the trace of what was sent, noted and warned of.  An action that fails
keeps what it has done, so a request that was numbered, sent or noted stays so.
-/

namespace Paymaster.Rpc

/-- What comes back for a request: some bytes, or a failure of the connection. -/
inductive Response where
  | body (bytes : Bytes)
  | failure (fault : String) (text : Text)

/-- A request, as it goes out. -/
structure Request where
  url : String
  headers : List (String × String)
  body : String
deriving DecidableEq

/-- Something worth noting for whoever looks for a fault. -/
inductive Note where
  /-- A request is about to be sent. -/
  | calling (id : Nat) (method : Json)
  /-- A payment has been made up. -/
  | payment (amount : Json) (token destination : PublicKey)
  /-- The fee is zero and the transaction stays as it is. -/
  | unchanged
  /-- The fee is zero and the transaction goes out as it is. -/
  | unpaid
  /-- A transaction is being paid for. -/
  | paying (amount : Json) (token destination : PublicKey)
deriving Inhabited

/-- The digits of an amount. -/
def amountText (amount : Json) : Text :=
  match amount.toInt? with
  | some n => String.ofList (Numeral.decimalInt n)
  | none => amount.display

/-- A note as a line, behind the part of the client that it comes from. -/
def Note.text : Note → Text
  | calling id method =>
    "kora.rpc: rpc request id=" ++ String.ofList (Numeral.decimal id) ++ " method="
      ++ method.display
  | payment amount token destination =>
    "kora.payment: payment instruction: " ++ amountText amount ++ " of " ++ token.text ++ " to "
      ++ destination.text
  | unchanged => "kora.payment: zero fee, transaction left unchanged"
  | unpaid => "kora.paymaster: zero fee, sending without payment"
  | paying amount token destination =>
    "kora.paymaster: paying " ++ amountText amount ++ " of " ++ token.text ++ " to "
      ++ destination.text

/-- What an action shows of itself, in order. -/
structure Trace where
  requests : List Request
  notes : List Note
  warnings : List String

/-- Nothing yet. -/
def Trace.empty : Trace := ⟨[], [], []⟩

/-- A connection to the server. -/
structure Connection where
  settings : Settings
  /-- Whether the connection is the client's own, to be closed with it. -/
  isOwn : Bool
  isClosed : Bool
  /-- The number of the next request. -/
  nextId : Nat
  /-- The answers to the challenge that are not used up. -/
  answers : List Json
  clock : Clock

/-- A connection on which nothing has been sent. -/
def Connection.fresh (settings : Settings) (isOwn : Bool) (clock : Clock) : Connection :=
  { settings, isOwn, clock, isClosed := false, nextId := 1
    answers :=
      match settings.challenge with
      | some (.answers values) => values
      | _ => [] }

/-- The connection after the client is closed: only one of its own is closed with it. -/
def Connection.close (c : Connection) : Connection :=
  { c with isClosed := c.isClosed || c.isOwn }

/-- What an action runs on. -/
structure Exchange where
  connection : Connection
  replies : List Response
  trace : Trace

/-- An action of the client. -/
abbrev Action (α : Type) := ExceptT Error (StateM Exchange) α

namespace Action

/-- Changes the trace. -/
def modifyTrace (f : Trace → Trace) : Action Unit :=
  modify fun s => { s with trace := f s.trace }

/-- Changes the connection. -/
def modifyConnection (f : Connection → Connection) : Action Unit :=
  modify fun s => { s with connection := f s.connection }

/-- Notes something. -/
def note (n : Note) : Action Unit :=
  modifyTrace fun t => { t with notes := t.notes ++ [n] }

/-- Warns of something. -/
def warn (text : String) : Action Unit :=
  modifyTrace fun t => { t with warnings := t.warnings ++ [text] }

end Action

end Paymaster.Rpc
