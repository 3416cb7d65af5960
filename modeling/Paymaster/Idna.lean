import Paymaster.Idna.Label
import Paymaster.Idna.Punycode
import Paymaster.Numeral
import Paymaster.Segment

/-!
# Host names beyond ASCII

A host name is sent in ASCII.  A label with other characters is encoded and marked as such; a label
that bears the mark is decoded before it is looked at, and encoding what comes out has to lead back
to it.  Either way it has to be a label that may stand in a host name.
-/

namespace Paymaster.Idna

/-- What is wrong with a host name. -/
inductive Fault where
  | empty
  | tooLong
  | label (label : Label) (fault : LabelFault)
  /-- A label bears the mark of an encoded one and nothing else. -/
  | noContent
  /-- An encoded label ends in a hyphen. -/
  | trailingHyphen
  /-- A label bears the mark of an encoded one and cannot be decoded. -/
  | undecodable
  /-- An encoded label is not what the label that it stands for is encoded as. -/
  | notCanonical
deriving DecidableEq, Repr

/-! ## Wording -/

/-- The number of a code point, in four upper-case digits or more. -/
def pointText (n : Nat) : String :=
  let width := if n < 0x10000 then 4 else if n < 0x100000 then 5 else 6
  "U+" ++ String.ofList ((Bytes.hexDigits width n).map Char.toUpper)

/-- A label in quotes. -/
def labelText (label : Label) : String :=
  Text.quote ⟨label.map CodePoint.ofNat⟩

/-- A position, counted from one. -/
def positionText (position : Nat) : String :=
  String.ofList (Numeral.decimal (position + 1))

/-- The wording of a fault of directions. -/
def DirectionFault.message (label : Label) : DirectionFault → String
  | unknown position =>
    "Unknown directionality in label " ++ labelText label ++ " at position "
      ++ positionText position
  | first =>
    "First codepoint in label " ++ labelText label ++ " must be directionality L, R or AL"
  | inRightToLeft position =>
    "Invalid direction for codepoint at position " ++ positionText position
      ++ " in a right-to-left label"
  | inLeftToRight position =>
    "Invalid direction for codepoint at position " ++ positionText position
      ++ " in a left-to-right label"
  | mixedNumbers => "Can not mix numeral types in a right-to-left label"
  | ending => "Label ends with illegal codepoint directionality"

/-- The wording of a fault of a label. -/
def LabelFault.message (label : Label) : LabelFault → String
  | empty => "Empty Label"
  | tooLong => "Label too long"
  | notComposed => "Label must be in Normalization Form C"
  | earlyHyphens => "Label has disallowed hyphens in 3rd and 4th position"
  | outerHyphen => "Label must not start or end with a hyphen"
  | leadingMark => "Label begins with an illegal combining character"
  | besideUnknown point position =>
    "Unknown codepoint adjacent to joiner " ++ pointText point ++ " at position "
      ++ positionText position ++ " in " ++ labelText label
  | joiner point position =>
    "Joiner " ++ pointText point ++ " not allowed at position " ++ positionText position ++ " in "
      ++ labelText label
  | context point position =>
    "Codepoint " ++ pointText point ++ " not allowed at position " ++ positionText position
      ++ " in " ++ labelText label
  | forbidden point position =>
    "Codepoint " ++ pointText point ++ " at position " ++ positionText position ++ " of "
      ++ labelText label ++ " not allowed"
  | direction fault => fault.message label

/-- The wording of a fault. -/
def Fault.message : Fault → String
  | empty => "Empty domain"
  | tooLong => "Domain too long"
  | label l fault => fault.message l
  | noContent => "Malformed A-label, no Punycode eligible content found"
  | trailingHyphen => "A-label must not end with a hyphen"
  | undecodable => "Invalid A-label"
  | notCanonical => "A-label is not the canonical Punycode encoding of its U-label"

/-! ## Labels -/

/-- The most ASCII characters of a label. -/
def encodedLengthLimit : Nat := 63

/-- The mark of an encoded label. -/
def encodedMark : List Char := ['x', 'n', '-', '-']

/-- Passes a label that may stand in a host name. -/
def checkLabel (label : Label) : Except Fault Label :=
  match labelFault? label with
  | none => .ok label
  | some fault => .error (.label label fault)

/-- The label that an encoded label stands for, given by what is behind the mark. -/
def decodeContent (content : List Char) : Except Fault Label :=
  if content.isEmpty then .error .noContent
  else if content.getLast? = some '-' then .error .trailingHyphen
  else
    match Punycode.decode? content with
    | some label =>
      if Punycode.encode label = content then checkLabel label else .error .notCanonical
    | none => .error .undecodable

/-- The label that an ASCII label stands for, in either case. -/
def decodeLabel (label : List Char) : Except Fault Label :=
  let lowered := label.map Char.toLower
  if encodedMark.isPrefixOf lowered then decodeContent (lowered.drop encodedMark.length)
  else checkLabel (lowered.map Char.toNat)

/-- The ASCII label that stands for a label. -/
def encodeLabel (label : Label) : Except Fault (List Char) := do
  let encoded ←
    if label.all (· < 128) then do
      let text := label.map Char.ofNat
      let _ ← decodeLabel text
      pure text
    else do
      let _ ← checkLabel label
      pure (encodedMark ++ Punycode.encode label)
  if encodedLengthLimit < encoded.length then throw (.label label .tooLong) else return encoded

/-! ## Names -/

/-- The most characters of a name, and one more if it ends in a dot. -/
def nameLengthLimit (endsInDot : Bool) : Nat :=
  if endsInDot then 254 else 253

/-- Whether a code point is a dot between labels. -/
def isDot (n : Nat) : Bool :=
  n = 0x2E || n = 0x3002 || n = 0xFF0E || n = 0xFF61

/-- The labels of a name, and whether it ends in a dot. -/
def labelsOf (name : Label) : Except Fault (List Label × Bool) :=
  if nameLengthLimit true < name.length then .error .tooLong
  else
    let labels := segments isDot name
    if labels = [[]] then .error .empty
    else if labels.getLast? = some [] then .ok (labels.dropLast, true)
    else .ok (labels, false)

/-- The ASCII form of a name. -/
def encode (name : Label) : Except Fault (List Char) := do
  let (labels, endsInDot) ← labelsOf name
  let encoded ← labels.mapM encodeLabel
  let text := ['.'].intercalate encoded ++ (if endsInDot then ['.'] else [])
  if nameLengthLimit endsInDot < text.length then throw .tooLong else return text

/-- The labels that the ASCII form of a name stands for. -/
def decode (name : List Char) : Except Fault (List Label) := do
  let (labels, _) ← labelsOf (name.map Char.toNat)
  labels.mapM fun label => decodeLabel (label.map Char.ofNat)

end Paymaster.Idna
