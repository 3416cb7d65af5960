import Paymaster.Bytes
import Paymaster.Json
import Paymaster.Text.Encoding

/-!
# Reading JSON

The reader works on the list of code points and hands on what is left of it; the place of a fault
is found from how many code points are left there.  Blanks are the space, the tab and the two line
ends.  Beyond the plain grammar it takes `NaN` and the infinities, and it stops a number at the
longest text that is one.  Of members with one name the last counts, at the place of the first.
Arrays and objects may be nested up to a limit.

The fuel bounds the length: two calls at most are made for a code point, so twice the length of
the text suffices.  The room bounds the nesting.
-/

namespace Paymaster.Json

open Paymaster.Text.Encoding (Piece joinPieces)

/-- What is wrong with a text. -/
inductive Reason where
  | value
  | extraData
  | name
  | colon
  | comma
  | unterminatedString
  | controlCharacter
  | escape
  | codeUnit
deriving Repr, DecidableEq

/-- The wording of a reason. -/
def Reason.message : Reason → String
  | .value => "Expecting value"
  | .extraData => "Extra data"
  | .name => "Expecting property name enclosed in double quotes"
  | .colon => "Expecting ':' delimiter"
  | .comma => "Expecting ',' delimiter"
  | .unterminatedString => "Unterminated string starting at"
  | .controlCharacter => "Invalid control character at"
  | .escape => "Invalid \\escape"
  | .codeUnit => "Invalid \\uXXXX escape"

/-- What other values may stand inside of. -/
inductive Container where
  | array
  | object
deriving Repr, DecidableEq

/-- The name of a container in messages. -/
def Container.name : Container → String
  | array => "array"
  | object => "object"

/-- Where and why reading stopped. -/
inductive Stop where
  /-- `left` code points are left where the text is wrong, the wrong one included. -/
  | unexpected (reason : Reason) (left : Nat)
  /-- A whole number has more digits than are read. -/
  | longNumber (digits : Nat)
  /-- A container stands inside more others than are read. -/
  | tooDeep (container : Container)
deriving Repr, DecidableEq

/-! ## Strings -/

/-- How far an escape in a string has been read. -/
inductive Escape where
  | none
  /-- The backslash is behind. -/
  | letter
  /-- `count` digits of a code unit, of value `value`, are behind. -/
  | unit (count value : Nat)
deriving Repr, DecidableEq

/-- The character that a letter after a backslash stands for. -/
def escapeLetter? (c : Char) : Option Char :=
  if c = '"' ∨ c = '\\' ∨ c = '/' then some c
  else if c = 'b' then some '\x08'
  else if c = 'f' then some '\x0c'
  else if c = 'n' then some '\n'
  else if c = 'r' then some '\r'
  else if c = 't' then some '\t'
  else Option.none

/-- Reads on in a string up to its closing quote: the code points and escaped units in it, and
what is left behind the quote.  A code unit must have a code point behind it. -/
def stringPieces : Escape → List CodePoint → Except Stop (List Piece × List CodePoint)
  | .none, [] => .error (.unexpected .unterminatedString 0)
  | .letter, [] => .error (.unexpected .unterminatedString 0)
  | .unit count _, [] => .error (.unexpected .codeUnit (count + 1))
  | .none, p :: rest =>
    if p = .char '"' then .ok ([], rest)
    else if p = .char '\\' then stringPieces .letter rest
    else if p.value < 0x20 then .error (.unexpected .controlCharacter (rest.length + 1))
    else (stringPieces .none rest).map fun (ps, left) => (.point p :: ps, left)
  | .letter, p :: rest =>
    if p = .char 'u' then stringPieces (.unit 0 0) rest
    else
      match p.char?.bind escapeLetter? with
      | some e => (stringPieces .none rest).map fun (ps, left) => (.point (.char e) :: ps, left)
      | Option.none => .error (.unexpected .escape (rest.length + 2))
  | .unit count value, p :: rest =>
    match p.char?.bind Bytes.hexValue? with
    | Option.none => .error (.unexpected .codeUnit (rest.length + count + 2))
    | some h =>
      if count < 3 then stringPieces (.unit (count + 1) (value * 16 + h)) rest
      else if rest.isEmpty then .error (.unexpected .codeUnit (rest.length + count + 2))
      else (stringPieces .none rest).map fun (ps, left) => (.unit (value * 16 + h) :: ps, left)

/-- A string, from behind its opening quote on.  One that does not end is reported at that
quote. -/
def readString (text : List CodePoint) : Except Stop (Text × List CodePoint) :=
  match stringPieces .none text with
  | .ok (ps, rest) => .ok (⟨joinPieces none ps⟩, rest)
  | .error (.unexpected .unterminatedString _) =>
    .error (.unexpected .unterminatedString (text.length + 1))
  | .error stop => .error stop

/-! ## Numbers -/

/-- Whether a code point is a decimal digit. -/
def isDigit (p : CodePoint) : Bool :=
  48 ≤ p.value && p.value ≤ 57

/-- The number that decimal digits spell. -/
def ofDigits (ds : List CodePoint) : Nat :=
  Numeral.value 10 (ds.map fun p => p.value - 48)

/-- The digits in front of a text, and what is left. -/
def spanDigits (text : List CodePoint) : List CodePoint × List CodePoint :=
  (text.takeWhile isDigit, text.dropWhile isDigit)

/-- A point and digits in front of a text, if they are there: the digits, and what is left. -/
def readFraction (text : List CodePoint) : List CodePoint × List CodePoint :=
  match text with
  | .char '.' :: rest =>
    let (ds, left) := spanDigits rest
    if ds.isEmpty then ([], text) else (ds, left)
  | _ => ([], text)

/-- The sign in front of a text, if one is there: whether it is a minus, and what is left. -/
def readSign : List CodePoint → Bool × List CodePoint
  | .char '-' :: rest => (true, rest)
  | .char '+' :: rest => (false, rest)
  | rest => (false, rest)

/-- An exponent in front of a text, if one is there: its value, and what is left. -/
def readExponent (text : List CodePoint) : Option Int × List CodePoint :=
  match text with
  | p :: rest =>
    if p = .char 'e' ∨ p = .char 'E' then
      let (negative, rest) := readSign rest
      let (ds, left) := spanDigits rest
      if ds.isEmpty then (none, text)
      else (some (if negative then -(ofDigits ds : Int) else ofDigits ds), left)
    else (none, text)
  | [] => (none, text)

/-- The digits in front of the point: a zero stands alone. -/
def readWhole : List CodePoint → List CodePoint × List CodePoint
  | .char '0' :: rest => ([.char '0'], rest)
  | text => spanDigits text

/-- A number without its sign: the longest text that is one.  It is whole if it has neither a
fraction nor an exponent. -/
def readMagnitude (negative : Bool) (text : List CodePoint) :
    Option (Except Stop (Json × List CodePoint)) :=
  let (ds, rest) := readWhole text
  if ds.isEmpty then none
  else
    let (fraction, rest) := readFraction rest
    let (exponent, rest) := readExponent rest
    some <|
      if fraction.isEmpty && exponent.isNone then
        if Numeral.digitLimit < ds.length then .error (.longNumber ds.length)
        else .ok (int (if negative then -(ofDigits ds : Int) else ofDigits ds), rest)
      else
        .ok (double (.ofDecimal negative (ofDigits (ds ++ fraction))
          (exponent.getD 0 - fraction.length)), rest)

/-- What is left behind a word in front of a text, if it is there. -/
def behindWord? (word : String) (text : List CodePoint) : Option (List CodePoint) :=
  let points := (Text.ofString word).points
  if points.isPrefixOf text then some (text.drop points.length) else none

/-- The words that stand for values. -/
def words : List (String × Json) :=
  [("null", null), ("true", bool true), ("false", bool false), ("NaN", double .nan),
   ("Infinity", double (.infinite false)), ("-Infinity", double (.infinite true))]

/-- A word in front of a text, if one is there, and what is left. -/
def readWord (text : List CodePoint) : Option (Json × List CodePoint) :=
  words.findSome? fun (word, v) => (behindWord? word text).map (v, ·)

/-- A word or a number. -/
def readPlain (text : List CodePoint) : Except Stop (Json × List CodePoint) :=
  match readWord text with
  | some found => .ok found
  | none =>
    let number :=
      match text with
      | .char '-' :: rest => readMagnitude true rest
      | _ => readMagnitude false text
    number.getD (.error (.unexpected .value text.length))

/-! ## Values -/

/-- Whether a code point may stand between the parts of a text. -/
def isSpace (p : CodePoint) : Bool :=
  p = .char ' ' || p = .char '\t' || p = .char '\n' || p = .char '\r'

/-- The text behind the blanks in front of it. -/
def skipSpace (text : List CodePoint) : List CodePoint :=
  text.dropWhile isSpace

mutual

/-- A value in front of a text, and what is left. -/
def readValue : Nat → Nat → List CodePoint → Except Stop (Json × List CodePoint)
  | 0, _, text => .error (.unexpected .value text.length)
  | fuel + 1, room, text =>
    match text with
    | .char '"' :: rest => (readString rest).map fun (s, left) => (str s, left)
    | .char '[' :: rest =>
      match room with
      | 0 => .error (.tooDeep .array)
      | room + 1 =>
        match skipSpace rest with
        | .char ']' :: left => .ok (arr [], left)
        | rest => (readItems fuel room rest).map fun (items, left) => (arr items, left)
    | .char '\x7b' :: rest =>
      match room with
      | 0 => .error (.tooDeep .object)
      | room + 1 =>
        match skipSpace rest with
        | .char '\x7d' :: left => .ok (obj [], left)
        | rest =>
          (readMembers fuel room rest).map
            fun (members, left) => (obj (distinctMembers members), left)
    | _ => readPlain text

/-- The items of an array from the first code point of one on, to behind the closing bracket. -/
def readItems : Nat → Nat → List CodePoint → Except Stop (List Json × List CodePoint)
  | 0, _, text => .error (.unexpected .value text.length)
  | fuel + 1, room, text =>
    match readValue fuel room text with
    | .error stop => .error stop
    | .ok (v, rest) =>
      match skipSpace rest with
      | .char ']' :: left => .ok ([v], left)
      | .char ',' :: rest =>
        (readItems fuel room (skipSpace rest)).map fun (items, left) => (v :: items, left)
      | rest => .error (.unexpected .comma rest.length)

/-- The members of an object from the first code point of one on, to behind the closing brace. -/
def readMembers : Nat → Nat → List CodePoint → Except Stop (List (Text × Json) × List CodePoint)
  | 0, _, text => .error (.unexpected .name text.length)
  | fuel + 1, room, text =>
    match text with
    | .char '"' :: rest =>
      match readString rest with
      | .error stop => .error stop
      | .ok (name, rest) =>
        match skipSpace rest with
        | .char ':' :: rest =>
          match readValue fuel room (skipSpace rest) with
          | .error stop => .error stop
          | .ok (v, rest) =>
            match skipSpace rest with
            | .char '\x7d' :: left => .ok ([(name, v)], left)
            | .char ',' :: rest =>
              (readMembers fuel room (skipSpace rest)).map
                fun (members, left) => ((name, v) :: members, left)
            | rest => .error (.unexpected .comma rest.length)
        | rest => .error (.unexpected .colon rest.length)
    | _ => .error (.unexpected .name text.length)

end

/-- The value of a whole text, with blanks around it. -/
def readText (room : Nat) (text : List CodePoint) : Except Stop Json :=
  match readValue (2 * text.length + 2) room (skipSpace text) with
  | .error stop => .error stop
  | .ok (v, rest) =>
    match skipSpace rest with
    | [] => .ok v
    | rest => .error (.unexpected .extraData rest.length)

/-! ## Faults -/

/-- Why some bytes are no JSON. -/
inductive Fault where
  /-- The bytes are not well formed in their encoding. -/
  | encoding (fault : Text.Encoding.Fault)
  /-- The text is wrong at a place: a line and a column from one on, a position from zero on. -/
  | text (reason : Reason) (line column position : Nat)
  /-- A whole number has more digits than are read. -/
  | longNumber (digits : Nat)
  /-- A container stands inside more others than are read. -/
  | tooDeep (container : Container)
deriving Repr, DecidableEq

/-- The wording of a fault. -/
def Fault.message : Fault → String
  | .encoding fault => fault.message
  | .text reason line column position =>
    let decimal (n : Nat) := String.ofList (Numeral.decimal n)
    reason.message ++ ": line " ++ decimal line ++ " column " ++ decimal column
      ++ " (char " ++ decimal position ++ ")"
  | .longNumber digits =>
    let decimal (n : Nat) := String.ofList (Numeral.decimal n)
    "Exceeds the limit (" ++ decimal Numeral.digitLimit
      ++ " digits) for integer string conversion: value has " ++ decimal digits
      ++ " digits; use sys.set_int_max_str_digits() to increase the limit"
  | .tooDeep container =>
    "maximum recursion depth exceeded while decoding a JSON " ++ container.name
      ++ " from a unicode string"

/-- The fault of a text at the place where reading it stopped. -/
def Stop.fault (text : List CodePoint) : Stop → Fault
  | .unexpected reason left =>
    let position := text.length - left
    let behind := text.take position
    .text reason (behind.count (.char '\n') + 1)
      ((behind.reverse.takeWhile (· ≠ .char '\n')).length + 1) position
  | .longNumber digits => .longNumber digits
  | .tooDeep container => .tooDeep container

/-- The value of a text, with `room` containers at most inside each other. -/
def ofText? (room : Nat) (text : Text) : Except Fault Json :=
  (readText room text.points).mapError (Stop.fault text.points)

/-- The value of some bytes, in the encoding that they show. -/
def ofBytes? (room : Nat) (bytes : Bytes) : Except Fault Json :=
  match Text.Encoding.decode bytes with
  | .error fault => .error (.encoding fault)
  | .ok text => ofText? room text

end Paymaster.Json
