import Paymaster.Bytes
import Paymaster.Text
import Paymaster.Unicode.Printable

/-!
# Quoted text

A text in quotes, as messages show it: single quotes, unless the text holds a single quote and
no double one; a backslash before the quote and before itself; line feed, carriage return and tab
by their letters; and every other code point that is not printable by its number.
-/

namespace Paymaster.Text

/-- The number of a code point after a backslash, in two, four or eight digits. -/
def escapedCodePoint (p : CodePoint) : List Char :=
  let n := p.value
  if n < 0x100 then '\\' :: 'x' :: Bytes.hexDigits 2 n
  else if n < 0x10000 then '\\' :: 'u' :: Bytes.hexDigits 4 n
  else '\\' :: 'U' :: Bytes.hexDigits 8 n

/-- The quote that a text is put in. -/
def quoteFor (t : Text) : Char :=
  if t.points.contains (.char '\'') && !t.points.contains (.char '"') then '"' else '\''

/-- One code point of a quoted text. -/
def quotedPoint (quote : Char) : CodePoint → List Char
  | .char c =>
    if c = quote ∨ c = '\\' then ['\\', c]
    else if c = '\n' then ['\\', 'n']
    else if c = '\r' then ['\\', 'r']
    else if c = '\t' then ['\\', 't']
    else if Unicode.isPrintable c then [c]
    else escapedCodePoint (.char c)
  | .half index => escapedCodePoint (.half index)

/-- The text in quotes. -/
def quoted (t : Text) : List Char :=
  let quote := t.quoteFor
  quote :: t.points.flatMap (quotedPoint quote) ++ [quote]

/-- The text in quotes, as a string. -/
def quote (t : Text) : String :=
  String.ofList t.quoted

end Paymaster.Text
