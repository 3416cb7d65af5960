import Paymaster.Rpc.Envelope
import Paymaster.Rpc.Exchange

/-!
# Calling the server

A call takes a number, writes its body, collects the headers that prove who is calling, finds out
where it goes, and sends one request, to which one reply is read; nothing is sent twice.  The steps
come in this order, so that a call which cannot be sent has used its number, and one whose address
or headers are refused has been noted but not sent.
-/

namespace Paymaster.Rpc

open Paymaster.Rpc.Action

/-- The number of a call, which no later call gets. -/
def takeId : Action Nat := do
  let id := (← get).connection.nextId
  modifyConnection fun c => { c with nextId := c.nextId + 1 }
  return id

/-- The next answer to the challenge. -/
def takeAnswer (challenge : Challenge) : Action Json :=
  match challenge with
  | .failing text => throw (.challenge text)
  | .answers _ => do
    match (← get).connection.answers with
    | [] => throw (.challenge "no token left")
    | answer :: others =>
      modifyConnection fun c => { c with answers := others }
      return answer

/-- The headers of the keyed signature, when a secret is set: the time, and the signature over it
and the body. -/
def signatureHeaders (secret : Json) (clock : Clock) (body : String) :
    Except Error (List (String × Json)) :=
  if secret.isBlank then .ok []
  else do
    let seconds ← clock.seconds
    let timestamp := Json.str (.ofChars (Numeral.decimalInt seconds))
    let signed ← signature secret timestamp (.str body)
    return [("x-timestamp", timestamp), ("x-hmac-signature", .str signed)]

/-- The header of the challenge, when there is one. -/
def challengeHeaders (challenge : Option Challenge) : Action (List (String × Json)) :=
  match challenge with
  | none => return []
  | some challenge => do
    let answer ← takeAnswer challenge
    return [("x-recaptcha-token", answer)]

/-- The header of the key, when one is set. -/
def keyHeaders (apiKey : Json) : List (String × Json) :=
  if apiKey.isBlank then [] else [("x-api-key", apiKey)]

/-- All headers of a body, in the order in which they are checked. -/
def headers (body : String) : Action (List (String × Json)) := do
  let connection := (← get).connection
  let signed ← ofExcept (signatureHeaders connection.settings.hmacSecret connection.clock body)
  let challenged ← challengeHeaders connection.settings.challenge
  return ("content-type", .str "application/json")
    :: keyHeaders connection.settings.apiKey ++ signed ++ challenged

/-- A header that can be sent: an ASCII text. -/
def checkHeader (header : String × Json) : Except Error (String × String) :=
  match header.2 with
  | .str text => do
    let cs ← (Text.Charset.ascii.charsOf text).mapError .unencodable
    return (header.1, String.ofList cs)
  | v => throw (.headerKind v.kind)

/-- Where a request to an address goes. -/
def targetOf (url : Json) : Except Error Url.Target :=
  match url with
  | .str text => do
    let cs ← (Text.Charset.unicode.charsOf text).mapError .unencodable
    (Url.target cs).mapError .badUrl
  | v => .error (.urlKind v)

/-- Passes a host that can be named to the server: an encoded name has to spell one, and host and
port are ASCII. -/
def checkHost (target : Url.Target) : Except Error Unit := do
  if target.host.any Idna.encodedMark.isPrefixOf then
    let _ ← (Idna.decode (target.host.getD [])).mapError .hostName
  let _ ← (Text.Charset.ascii.charsOf (.ofChars target.place)).mapError .unencodable

/-- Sends a request and takes the reply to it.  With no reply left the connection fails. -/
def send (request : Request) : Action Bytes := do
  let s ← get
  if s.connection.isClosed then throw .closed
  modifyTrace fun t => { t with requests := t.requests ++ [request] }
  match s.replies with
  | [] => throw (.connection "ConnectError" "no reply left")
  | .failure fault text :: others =>
    modify fun s => { s with replies := others }
    throw (.connection fault text)
  | .body bytes :: others =>
    modify fun s => { s with replies := others }
    return bytes

/-- The result in a response, or the error that it reports. -/
def readResponse (v : Json) : Except Error Json :=
  match v with
  | .obj members =>
    let error := Json.memberD members "error" .null
    if error.isBlank then .ok (Json.memberD members "result" .null)
    else
      match error with
      | .obj details =>
        .error (.rpc (Json.memberD details "code" .null) (Json.memberD details "message" .null))
      | _ => .error (.rpc .null .null)
  | v => .error (.invalidResponse v)

/-- The body of a request. -/
def bodyOf [Stack] (method params : Json) (id : Nat) : Except Error String :=
  let v := envelope method params (.int id)
  match v.unwritable? with
  | some obstacle => .error (.unwritable obstacle)
  | none => .ok v.write

/-- Calls a method of the server, with parameters unless they are null.  A reply is of use only if
the request went to a server. -/
def request [Stack] (method params : Json) : Action Json := do
  let id ← takeId
  let body ← ofExcept (bodyOf method params id)
  let unchecked ← headers body
  note (.calling id method)
  let target ← ofExcept (targetOf (← get).connection.settings.url)
  let headers ← ofExcept (unchecked.mapM checkHeader)
  ofExcept (checkHost target)
  let bytes ← send { url := String.ofList target.url, headers, body }
  if target.host.isNone then throw (.noServer target.url)
  let v ← ofExcept ((Json.ofBytes? Stack.reading bytes).mapError .badReply)
  ofExcept (readResponse v)

end Paymaster.Rpc
