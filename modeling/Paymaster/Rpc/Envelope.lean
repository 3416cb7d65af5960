import Paymaster.Crypto.Hmac
import Paymaster.Error
import Paymaster.Json.Writer

/-!
# Requests and their signature

A request names its method and its number, and has parameters only when there are some.  Its
keyed signature is over the time and the body, exactly as both are sent.
-/

namespace Paymaster.Rpc

/-- A request object; parameters that are null are left out. -/
def envelope (method params id : Json) : Json :=
  let optional : List (Text × Json) :=
    match params with
    | .null => []
    | params => [("params", params)]
  .obj (("jsonrpc", .str "2.0") :: ("id", id) :: ("method", method) :: optional)

/-- The keyed digest of a message, in hexadecimal. -/
def digest (secret message : List Char) : String :=
  Bytes.toHex
    (Crypto.Hmac.digest (Text.Encoding.encodeUtf8 secret) (Text.Encoding.encodeUtf8 message)).bytes

/-- The characters of a text that is to be signed. -/
def signedChars (text : Text) : Except Error (List Char) :=
  (Text.Charset.unicode.charsOf text).mapError .unencodable

/-- What the sum of two values is, if the first is no text and they have one. -/
def sumKind (left right : Json) : Except Error Json.Kind :=
  match left, right, left.toInt?, right.toInt? with
  | .arr _, .arr _, _, _ => .ok .arr
  | .arr _, v, _, _ => .error (.noJoin .arr v.kind)
  | .double _, .double _, _, _ => .ok .double
  | .double _, _, _, some n | _, .double _, some n, _ =>
    if (Double.ofInt? n).isSome then .ok .double else .error .tooLarge
  | _, _, some _, some _ => .ok .int
  | v, w, _, _ => .error (.noSum v.kind w.kind)

/-- Two texts as one. -/
def joinTexts (left right : Json) : Except Error Text :=
  match left, right with
  | .str a, .str b => .ok (a ++ b)
  | .str _, v => .error (.noJoin .str v.kind)
  | v, w => do
    let kind ← sumKind v w
    throw (.noOperation kind "encode")

/-- The signature of a time and a body. -/
def signature (secret timestamp body : Json) : Except Error String := do
  let message ← signedChars (← joinTexts timestamp body)
  match secret with
  | .str text => return digest (← signedChars text) message
  | v => throw (.noOperation v.kind "encode")

end Paymaster.Rpc
