import Paymaster.Error

/-!
# Settings of a connection

Where the server is and what proves who is calling.  The settings come from a configuration and may
be values of any kind: a blank credential counts as none, and what is no text shows only when it is
used.
-/

namespace Paymaster.Rpc

/-- Where answers to the server's challenge come from: a list that is used up, or a source that
always fails. -/
inductive Challenge where
  | answers (values : List Json)
  | failing (text : Text)

/-- The settings of a connection. -/
structure Settings where
  url : Json
  apiKey : Json
  hmacSecret : Json
  challenge : Option Challenge

/-- The server that is called when none is named. -/
def defaultUrl : String := "http://localhost:8080"

/-- The settings in an environment of named texts.  An empty credential counts as none. -/
def Settings.ofEnvironment (environment : List (Text × Text)) : Settings :=
  let valueOf? (name : Text) : Option Text := environment.lookup name
  let credential (name : Text) : Json :=
    match valueOf? name with
    | some text => if text.isEmpty then .null else .str text
    | none => .null
  { url := .str ((valueOf? "KORA_RPC_URL").getD defaultUrl)
    apiKey := credential "KORA_API_KEY"
    hmacSecret := credential "KORA_HMAC_SECRET"
    challenge := none }

/-- The time that the clock shows, in seconds. -/
inductive Clock where
  | whole (seconds : Int)
  | real (seconds : Double)

/-- The time in whole seconds; a fraction is cut off. -/
def Clock.seconds : Clock → Except Error Int
  | whole n => .ok n
  | real x =>
    match x.truncate? with
    | some n => .ok n
    | none => .error (.clock (x = .nan))

end Paymaster.Rpc
