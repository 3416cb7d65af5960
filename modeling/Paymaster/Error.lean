import Paymaster.Json.Display
import Paymaster.Json.Reader
import Paymaster.Operation
import Paymaster.Text.Base64
import Paymaster.Text.Charset
import Paymaster.Url.Normal

/-!
# Errors

Every way in which a call can fail, by its cause, and the wording of each in one function.  Some
are failures that the client itself reports (`Error.isReported`): the refusals of the server, the
addresses that are none, and everything about paying.  The others come from below and pass
through as they are.
-/

namespace Paymaster

/-- Why a call failed. -/
inductive Error where
  /-- A failure that the client reports, in words of its own. -/
  | reported (details : List Json)
  /-- The server answered with an error. -/
  | rpc (code message : Json)
  /-- What should be an address is none. -/
  | invalidAddress (field value : Json)
  /-- The answer of the server is no response object. -/
  | invalidResponse (body : Json)
  /-- A payment could not be made, in words of its own. -/
  | payment (details : List Json)
  /-- The estimate names no fee in the token. -/
  | feeMissing (token : Json)
  /-- The estimated fee is below zero. -/
  | feeNegative (fee : Json)
  /-- The server takes no payment in the token. -/
  | unsupportedToken (token : Json)
  /-- The server asks for no payment. -/
  | paymentNotRequired
  /-- The operation does not take the arguments. -/
  | arguments (fault : Operation.Fault)
  /-- The connection failed, in a way and with words that are its own. -/
  | connection (fault : String) (text : Text)
  /-- The connection has been closed. -/
  | closed
  /-- No answer to the challenge could be had. -/
  | challenge (text : Text)
  /-- The body of a request cannot be written. -/
  | unwritable (obstacle : Json.Obstacle)
  /-- A value that is to be named in a failure cannot be shown. -/
  | unshowable (obstacle : Json.Obstacle)
  /-- The address of the server is no text. -/
  | urlKind (value : Json)
  /-- The address of the server is refused. -/
  | badUrl (fault : Url.Fault)
  /-- The name of the server's host does not spell what it encodes. -/
  | hostName (fault : Idna.Fault)
  /-- The address that a request went out under names no server. -/
  | noServer (url : List Char)
  /-- The body of a reply is no JSON. -/
  | badReply (fault : Json.Fault)
  /-- The value of a header is no text. -/
  | headerKind (kind : Json.Kind)
  /-- A text holds what its bytes could not spell. -/
  | unencodable (fault : Text.Charset.Fault)
  /-- The clock shows no time that can be written as a whole number. -/
  | clock (undefined : Bool)
  /-- A value is of a kind that an operation does not apply to. -/
  | noOperation (kind : Json.Kind) (operation : String)
  /-- Two values have no sum. -/
  | noSum (left right : Json.Kind)
  /-- A text or a list is followed by a value that it cannot be joined with. -/
  | noJoin (left right : Json.Kind)
  /-- A value that should be a list cannot be gone through. -/
  | notIterable (kind : Json.Kind)
  /-- A value that should be a number cannot be compared with one. -/
  | notComparable (kind : Json.Kind)
  /-- A value that should be a number cannot be multiplied. -/
  | notScalable (kind : Json.Kind)
  /-- A value that should be a number is a list and cannot be shown with decimal places. -/
  | listAsNumber
  /-- A value that should be a number is a text and cannot be shown with decimal places. -/
  | textAsNumber
  /-- A whole number is too large for double precision. -/
  | tooLarge
  /-- A value is of a kind that an instruction cannot hold. -/
  | argumentKind
  /-- What should be a base 64 text is no text. -/
  | base64Kind (kind : Json.Kind)
  /-- A text is no base 64. -/
  | base64 (fault : Text.Base64.Fault)
  /-- A text is no base 58. -/
  | base58 (character : Char)
  /-- The encoding of a transaction is unknown. -/
  | unsupportedEncoding (name : Json)
  /-- Bytes are no transaction. -/
  | malformedTransaction
  /-- A text is no block hash. -/
  | malformedHash
  /-- A text is no signature. -/
  | malformedSignature
  /-- A message takes accounts from lookup tables, which only the ledger has. -/
  | usesLookups
  /-- An index points outside its list. -/
  | index
  /-- A message has more keys than one byte can number. -/
  | tooManyKeys
  /-- A header cannot count its keys. -/
  | headerOverflow
  /-- A list is longer than the wire format can express. -/
  | listTooLong
  /-- The program is none of the token programs. -/
  | unsupportedTokenProgram
  /-- No associated account exists. -/
  | noAssociatedAccount
  /-- An amount is no number of 64 bits. -/
  | amount
  /-- A number does not fit into its field. -/
  | outOfRange

namespace Error

/-- Whether the client itself reports the failure. -/
def isReported : Error → Bool
  | reported _ | rpc _ _ | invalidAddress _ _ | invalidResponse _ | payment _ | feeMissing _
  | feeNegative _ | unsupportedToken _ | paymentNotRequired => true
  | _ => false

/-- Whether the failure is one of paying. -/
def isPayment : Error → Bool
  | payment _ | feeMissing _ | feeNegative _ | unsupportedToken _ | paymentNotRequired => true
  | _ => false

/-- The wording of a failure. -/
def message : Error → Text
  | reported details => Json.displayAll details
  | rpc code message => "RPC Error " ++ code.display ++ ": " ++ message.display
  | invalidAddress field value => "invalid " ++ field.display ++ " address: " ++ value.nested
  | invalidResponse body => "invalid JSON-RPC response: " ++ body.nested
  | payment details => Json.displayAll details
  | feeMissing token => "fee estimate did not include a fee in token " ++ token.display
  | feeNegative fee => "fee estimate returned a negative fee (" ++ fee.display ++ ")"
  | unsupportedToken token => "token " ++ token.display ++ " is not supported for fee payment"
  | paymentNotRequired => "payment not required: server price model is free"
  | arguments fault => fault.message
  | connection _ text => text
  | closed => "Cannot send a request, as the client has been closed."
  | challenge text => text
  | unwritable .tooDeep => "maximum recursion depth exceeded while encoding a JSON object"
  | unshowable .tooDeep =>
    "maximum recursion depth exceeded while getting the repr of an object"
  | unwritable .longNumber | unshowable .longNumber =>
    "Exceeds the limit (" ++ String.ofList (Numeral.decimal Numeral.digitLimit)
      ++ " digits) for integer string conversion; use sys.set_int_max_str_digits() to increase the "
      ++ "limit"
  | urlKind value =>
    "Invalid type for url.  Expected str or httpx.URL, got <class '" ++ value.kind.name ++ "'>: "
      ++ value.nested
  | badUrl fault => fault.message
  | hostName fault => fault.message
  | noServer url => "unknown url type: " ++ Text.quote (.ofChars url)
  | badReply fault => fault.message
  | headerKind kind => "Header value must be str or bytes, not <class '" ++ kind.name ++ "'>"
  | unencodable fault => fault.message
  | clock undefined =>
    if undefined then "cannot convert float NaN to integer"
    else "cannot convert float infinity to integer"
  | noOperation kind operation =>
    "'" ++ kind.name ++ "' object has no attribute '" ++ operation ++ "'"
  | noSum left right =>
    "unsupported operand type(s) for +: '" ++ left.name ++ "' and '" ++ right.name ++ "'"
  | noJoin left right =>
    "can only concatenate " ++ left.name ++ " (not \"" ++ right.name ++ "\") to " ++ left.name
  | notIterable kind => "'" ++ kind.name ++ "' object is not iterable"
  | notComparable kind =>
    "'<' not supported between instances of '" ++ kind.name ++ "' and 'int'"
  | notScalable kind => "unsupported operand type(s) for *: '" ++ kind.name ++ "' and 'int'"
  | listAsNumber => "unsupported format string passed to list.__format__"
  | textAsNumber => "Unknown format code 'f' for object of type 'str'"
  | tooLarge => "int too large to convert to float"
  | argumentKind => "a number was expected"
  | base64Kind kind =>
    "argument should be a bytes-like object or ASCII string, not '" ++ kind.name ++ "'"
  | base64 fault => fault.message
  | base58 character => "Invalid character " ++ Text.quote (.ofChars [character])
  | unsupportedEncoding name => "unsupported transaction encoding: " ++ name.display
  | malformedTransaction => "the bytes are no transaction"
  | malformedHash => "the text is no block hash"
  | malformedSignature => "the text is no signature"
  | usesLookups => "cannot decompile a message that uses address lookup tables"
  | index => "list index out of range"
  | tooManyKeys => "the message has more than 256 keys"
  | headerOverflow => "the message has more than 255 keys of one kind"
  | listTooLong => "the list has more than 65535 elements"
  | unsupportedTokenProgram =>
    "token_program_id must be one of TOKEN_PROGRAM_ID or TOKEN_2022_PROGRAM_ID."
  | noAssociatedAccount => "the accounts have no associated account"
  | amount => "the amount is no number of 64 bits"
  | outOfRange => "the number does not fit into its field"

end Error

end Paymaster
