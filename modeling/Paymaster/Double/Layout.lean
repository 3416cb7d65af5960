import Paymaster.Double.Shortest

/-!
# How doubles are written

The digits come from `Double.shortest`; a layout says what is made of them: up to which size the
point stands among the digits, how the exponent looks beyond, and how the values without digits
are spelled.  A fixed number of places is the other form, in which the exact value is rounded.
-/

namespace Paymaster.Double

/-- The decisions of a written form. -/
structure Layout where
  /-- The least exponent of the leading digit that is written with the point in place. -/
  plainFrom : Int
  /-- The least exponent above it that is not. -/
  plainBelow : Int
  /-- The least number of digits of an exponent. -/
  exponentWidth : Nat
  infinity : String
  undefined : String

/-- A sign in front of the digits. -/
def signed (negative : Bool) (text : List Char) : List Char :=
  if negative then '-' :: text else text

/-- Digits with the point after the first `point` of them, filled up with zeros on either side;
at least one digit stands on both. -/
def plain (digits : List Char) (point : Int) : List Char :=
  if point ≤ 0 then
    '0' :: '.' :: List.replicate (-point).toNat '0' ++ digits
  else
    let whole := digits.take point.toNat
    let rest := digits.drop point.toNat
    whole ++ List.replicate (point.toNat - whole.length) '0'
      ++ '.' :: (if rest.isEmpty then ['0'] else rest)

/-- Digits with the point after the first of them, and the exponent with its sign. -/
def scientific (width : Nat) (digits : List Char) (exponent : Int) : List Char :=
  let power := Numeral.decimal exponent.natAbs
  let rest := digits.drop 1
  digits.take 1 ++ (if rest.isEmpty then [] else '.' :: rest)
    ++ 'e' :: (if exponent < 0 then '-' else '+')
    :: List.replicate (width - power.length) '0' ++ power

/-- The written form of a number: the fewest digits that read back to it. -/
def Layout.render (l : Layout) : Double → List Char
  | nan => l.undefined.toList
  | infinite negative => signed negative l.infinity.toList
  | finite negative significand exponent =>
    if significand = 0 then signed negative ['0', '.', '0']
    else
      let d := shortest significand exponent
      let digits := Numeral.decimal d.digits
      let point := d.scale + digits.length
      signed negative <|
        if l.plainFrom ≤ point - 1 ∧ point - 1 < l.plainBelow then plain digits point
        else scientific l.exponentWidth digits (point - 1)

/-- The number with a set count of places after the point: the exact value is rounded, from the
middle to the even digit. -/
def fixed (places : Nat) : Double → List Char
  | nan => "nan".toList
  | infinite negative => signed negative "inf".toList
  | finite negative significand exponent =>
    let units :=
      roundDiv (significand * Nat.pow 10 places * Nat.pow 2 exponent.toNat)
        (Nat.pow 2 (-exponent).toNat)
    let digits := Numeral.decimal units
    let digits := List.replicate (places + 1 - digits.length) '0' ++ digits
    let whole := digits.length - places
    signed negative <|
      digits.take whole ++ (if places = 0 then [] else '.' :: digits.drop whole)

end Paymaster.Double
