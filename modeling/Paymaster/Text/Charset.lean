import Paymaster.Numeral
import Paymaster.Text.Quoted

/-!
# Character sets

A text that becomes bytes has to stay within the characters that the bytes can spell.  A failure
names the first run of code points beyond them: a run of one by its number and place, a longer one
by its first and last place.
-/

namespace Paymaster.Text

/-- A set of characters that a text may have to stay within. -/
inductive Charset where
  | ascii
  /-- All characters, but no half of a pair. -/
  | unicode
deriving DecidableEq, Repr

namespace Charset

/-- Whether a code point is in the set. -/
def holds : Charset → CodePoint → Bool
  | ascii, p => p.isAscii
  | unicode, p => p.char?.isSome

/-- The name that the set goes by in messages. -/
def name : Charset → String
  | ascii => "ascii"
  | unicode => "utf-8"

/-- What messages say of code points beyond the set. -/
def bound : Charset → String
  | ascii => "ordinal not in range(128)"
  | unicode => "surrogates not allowed"

/-- The first run of code points beyond a set. -/
structure Fault where
  charset : Charset
  first : CodePoint
  start : Nat
  length : Nat
deriving Repr, DecidableEq

/-- The wording of a fault. -/
def Fault.message (f : Fault) : String :=
  let place := String.ofList (Numeral.decimal f.start)
  let what :=
    if f.length = 1 then
      "character '" ++ String.ofList (escapedCodePoint f.first) ++ "' in position " ++ place
    else
      "characters in position " ++ place ++ "-"
        ++ String.ofList (Numeral.decimal (f.start + f.length - 1))
  "'" ++ f.charset.name ++ "' codec can't encode " ++ what ++ ": " ++ f.charset.bound

/-- The first run of code points beyond a set, if there is one. -/
def fault? (charset : Charset) (t : Text) : Option Fault :=
  match t.points.dropWhile charset.holds with
  | [] => none
  | p :: rest =>
    some { charset, first := p, start := (t.points.takeWhile charset.holds).length,
           length := ((p :: rest).takeWhile (!charset.holds ·)).length }

/-- The characters of a text that stays within a set. -/
def charsOf (charset : Charset) (t : Text) : Except Fault (List Char) :=
  match fault? charset t with
  | none => .ok (t.points.filterMap CodePoint.char?)
  | some f => .error f

end Charset

end Paymaster.Text
