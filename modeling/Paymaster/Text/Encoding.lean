import Paymaster.Bytes
import Paymaster.Numeral
import Paymaster.Text

/-!
# Encodings of text

The three encodings that a reply may come in, and how to tell which one it is: by a byte order
mark in front, else by where the zero bytes stand among the first four, since a reply opens with
an ASCII character.  Bytes that are not well formed are refused, with the place, the bytes and the
reason; only half of a pair is let pass, and stays a code point of its own.
-/

namespace Paymaster.Text

/-- The order of the bytes of a unit. -/
inductive ByteOrder where
  | little
  | big
deriving Repr, DecidableEq

/-- An encoding of text as bytes. -/
inductive Encoding where
  | utf8
  | utf16 (order : ByteOrder)
  | utf32 (order : ByteOrder)
deriving Repr, DecidableEq

/-- Why bytes are not well formed. -/
inductive Encoding.Reason where
  /-- The byte cannot open a sequence. -/
  | invalidStart
  /-- A byte that should continue a sequence does not. -/
  | invalidContinuation
  /-- The bytes end inside a sequence. -/
  | unexpectedEnd
  /-- The bytes end inside a unit. -/
  | truncated
  /-- The unit is beyond the last code point. -/
  | outOfRange
deriving Repr, DecidableEq

/-- Bytes that are not well formed: `length` of them from `start` on, the first being `byte`. -/
structure Encoding.Fault where
  encoding : Encoding
  reason : Encoding.Reason
  byte : UInt8
  start : Nat
  length : Nat
deriving Repr, DecidableEq

namespace Encoding

/-- The name of an encoding in messages. -/
def name : Encoding → String
  | utf8 => "utf-8"
  | utf16 .little => "utf-16-le"
  | utf16 .big => "utf-16-be"
  | utf32 .little => "utf-32-le"
  | utf32 .big => "utf-32-be"

/-- The wording of a reason. -/
def Reason.message : Reason → String
  | .invalidStart => "invalid start byte"
  | .invalidContinuation => "invalid continuation byte"
  | .unexpectedEnd => "unexpected end of data"
  | .truncated => "truncated data"
  | .outOfRange => "code point not in range(0x110000)"

/-- The wording of a fault. -/
def Fault.message (f : Fault) : String :=
  let place := String.ofList (Numeral.decimal f.start)
  let what :=
    if f.length = 1 then
      "byte 0x" ++ String.ofList (Bytes.hexDigits 2 f.byte.toNat) ++ " in position " ++ place
    else
      "bytes in position " ++ place ++ "-"
        ++ String.ofList (Numeral.decimal (f.start + f.length - 1))
  "'" ++ f.encoding.name ++ "' codec can't decode " ++ what ++ ": " ++ f.reason.message

/-! ## Writing -/

/-- The bytes of a text, one to four a character. -/
def encodeUtf8 (text : List Char) : Bytes :=
  text.flatMap String.utf8EncodeChar

/-! ## Halves of pairs -/

/-- Whether a unit is the first half of a pair. -/
def isHighHalf (u : Nat) : Bool :=
  0xD800 ≤ u && u < 0xDC00

/-- Whether a unit is the second half of a pair. -/
def isLowHalf (u : Nat) : Bool :=
  0xDC00 ≤ u && u < 0xE000

/-- The code point that the halves of a pair stand for. -/
def joinHalves (high low : Nat) : Nat :=
  0x10000 + (high - 0xD800) * 0x400 + (low - 0xDC00)

/-- What a text is spelled by: whole code points, and units of sixteen bits. -/
inductive Piece where
  | point (p : CodePoint)
  | unit (u : Nat)
deriving Repr, DecidableEq

/-- The code points that pieces stand for, `high` being the first half of a pair that has come
last.  Only two units in a row make a pair. -/
def joinPieces : (high : Option Nat) → List Piece → List CodePoint
  | none, [] => []
  | some h, [] => [.ofNat h]
  | none, .point p :: rest => p :: joinPieces none rest
  | some h, .point p :: rest => .ofNat h :: p :: joinPieces none rest
  | none, .unit u :: rest =>
    if isHighHalf u then joinPieces (some u) rest else .ofNat u :: joinPieces none rest
  | some h, .unit u :: rest =>
    if isLowHalf u then .ofNat (joinHalves h u) :: joinPieces none rest
    else if isHighHalf u then .ofNat h :: joinPieces (some u) rest
    else .ofNat h :: .ofNat u :: joinPieces none rest

/-! ## One byte and more a character -/

/-- Whether a byte continues a sequence. -/
def isContinuation (b : UInt8) : Bool :=
  0x80 ≤ b && b < 0xC0

/-- Whether the second byte of a sequence fits its first: it continues it, does not make it an
overlong spelling, and leads neither to half of a pair nor beyond the last code point. -/
def fitsSecond (a b : UInt8) : Bool :=
  isContinuation b
    && !(a == 0xE0 && b < 0xA0) && !(a == 0xED && 0xA0 ≤ b)
    && !(a == 0xF0 && b < 0x90) && !(a == 0xF4 && 0x90 ≤ b)

/-- The low six bits of a continuation byte. -/
def payload (b : UInt8) : Nat :=
  b.toNat % 64

/-- Reads sequences of one to four bytes, of three for half of a pair; `pos` bytes are behind. -/
def decodeUtf8 (pos : Nat) : Bytes → Except Fault (List CodePoint)
  | [] => .ok []
  | a :: rest =>
    let fail (reason : Reason) (length : Nat) : Except Fault (List CodePoint) :=
      .error { encoding := utf8, reason, byte := a, start := pos, length }
    if a < 0x80 then (decodeUtf8 (pos + 1) rest).map (CodePoint.ofNat a.toNat :: ·)
    else if a < 0xC2 then fail .invalidStart 1
    else if a < 0xE0 then
      match rest with
      | [] => fail .unexpectedEnd 1
      | b :: rest =>
        if isContinuation b then
          (decodeUtf8 (pos + 2) rest).map (CodePoint.ofNat (a.toNat % 32 * 64 + payload b) :: ·)
        else fail .invalidContinuation 1
    else if a < 0xF0 then
      match rest with
      | [] => fail .unexpectedEnd 1
      | [b] => if fitsSecond a b then fail .unexpectedEnd 2 else fail .invalidContinuation 1
      | b :: c :: rest =>
        if fitsSecond a b then
          if isContinuation c then
            (decodeUtf8 (pos + 3) rest).map
              (CodePoint.ofNat ((a.toNat % 16 * 64 + payload b) * 64 + payload c) :: ·)
          else fail .invalidContinuation 2
        else if a == 0xED && isContinuation b && isContinuation c then
          (decodeUtf8 (pos + 3) rest).map
            (CodePoint.ofNat ((a.toNat % 16 * 64 + payload b) * 64 + payload c) :: ·)
        else fail .invalidContinuation 1
    else if a < 0xF5 then
      match rest with
      | [] => fail .unexpectedEnd 1
      | b :: rest =>
        if !fitsSecond a b then fail .invalidContinuation 1
        else
          match rest with
          | [] => fail .unexpectedEnd 2
          | c :: rest =>
            if !isContinuation c then fail .invalidContinuation 2
            else
              match rest with
              | [] => fail .unexpectedEnd 3
              | d :: rest =>
                if !isContinuation d then fail .invalidContinuation 3
                else
                  (decodeUtf8 (pos + 4) rest).map
                    (CodePoint.ofNat
                      (((a.toNat % 8 * 64 + payload b) * 64 + payload c) * 64 + payload d) :: ·)
    else fail .invalidStart 1

/-! ## Two and four bytes a unit -/

/-- The unit of two bytes in an order. -/
def unit16 (order : ByteOrder) (a b : UInt8) : Nat :=
  match order with
  | .little => a.toNat + 256 * b.toNat
  | .big => b.toNat + 256 * a.toNat

/-- The unit of four bytes in an order. -/
def unit32 (order : ByteOrder) (a b c d : UInt8) : Nat :=
  match order with
  | .little => Bytes.ofLittleEndian [a, b, c, d]
  | .big => Bytes.ofLittleEndian [d, c, b, a]

/-- Reads units of two bytes; `pos` bytes are behind. -/
def units16 (order : ByteOrder) (pos : Nat) : Bytes → Except Fault (List Nat)
  | [] => .ok []
  | [a] =>
    .error { encoding := utf16 order, reason := .truncated, byte := a, start := pos, length := 1 }
  | a :: b :: rest => (units16 order (pos + 2) rest).map (unit16 order a b :: ·)

/-- Reads code points of four bytes; `pos` bytes are behind. -/
def decodeUtf32 (order : ByteOrder) (pos : Nat) : Bytes → Except Fault (List CodePoint)
  | [] => .ok []
  | a :: b :: c :: d :: rest =>
    let u := unit32 order a b c d
    if 0x110000 ≤ u then
      .error { encoding := utf32 order, reason := .outOfRange, byte := a, start := pos,
               length := 4 }
    else (decodeUtf32 order (pos + 4) rest).map (.ofNat u :: ·)
  | a :: rest =>
    .error { encoding := utf32 order, reason := .truncated, byte := a, start := pos,
             length := rest.length + 1 }

/-! ## Which encoding it is -/

/-- The byte order marks, and the encoding that each shows.  A longer one comes before those that it
opens with. -/
def marks : List (Bytes × Encoding) :=
  [([0x00, 0x00, 0xFE, 0xFF], utf32 .big), ([0xFF, 0xFE, 0x00, 0x00], utf32 .little),
   ([0xFE, 0xFF], utf16 .big), ([0xFF, 0xFE], utf16 .little), ([0xEF, 0xBB, 0xBF], utf8)]

/-- The encoding of some bytes without a mark: an ASCII character in front leaves zeros in a unit of
two or four bytes. -/
def withoutMark : Bytes → Encoding
  | a :: b :: c :: d :: _ =>
    if a = 0 then (if b = 0 then utf32 .big else utf16 .big)
    else if b = 0 then (if c = 0 ∧ d = 0 then utf32 .little else utf16 .little)
    else utf8
  | [a, b] => if a = 0 then utf16 .big else if b = 0 then utf16 .little else utf8
  | _ => utf8

/-- The encoding of some bytes, and how long their byte order mark is. -/
def detect (bytes : Bytes) : Encoding × Nat :=
  match marks.find? (·.1.isPrefixOf bytes) with
  | some (mark, encoding) => (encoding, mark.length)
  | none => (withoutMark bytes, 0)

/-- The text of some bytes in the encoding that they show.  The places in a fault count the mark,
except that of the encoding by single bytes. -/
def decode (bytes : Bytes) : Except Fault Text :=
  let (encoding, mark) := detect bytes
  let rest := bytes.drop mark
  Except.map Text.mk <|
    match encoding with
    | utf8 => decodeUtf8 0 rest
    | utf16 order => (units16 order mark rest).map fun us => joinPieces none (us.map .unit)
    | utf32 order => decodeUtf32 order mark rest

end Encoding

end Paymaster.Text
