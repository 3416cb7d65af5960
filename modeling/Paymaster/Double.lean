import Paymaster.Numeral

/-!
# Double precision numbers

A double precision number as the pair it stands for, a significand and a power of two, so that
every operation on it is exact arithmetic on naturals and one rounding.  The rounding goes to the
nearest number, and from the middle between two to the one with the even significand; beyond the
greatest number lies infinity.  The main statements are the two laws of that rounding.
-/

namespace Paymaster

/-- A double precision number.  A finite one is `± significand * 2 ^ exponent`, and the two zeros
differ in sign only. -/
inductive Double where
  | nan
  | infinite (negative : Bool)
  | finite (negative : Bool) (significand : Nat) (exponent : Int)
deriving Repr, DecidableEq

/-- The quotient rounded to the nearest natural, from the middle to the even one. -/
def roundDiv (num den : Nat) : Nat :=
  if 2 * (num % den) < den ∨ (2 * (num % den) = den ∧ num / den % 2 = 0) then num / den
  else num / den + 1

/-- The rounded quotient is within half a unit of the exact one. -/
theorem roundDiv_near (num den : Nat) (h : 0 < den) :
    2 * (roundDiv num den * den) ≤ 2 * num + den ∧
      2 * num ≤ 2 * (roundDiv num den * den) + den := by
  have split_num : num / den * den + num % den = num := Nat.div_add_mod' num den
  have small : num % den < den := Nat.mod_lt _ h
  have step : (num / den + 1) * den = num / den * den + den := Nat.succ_mul _ _
  unfold roundDiv
  split
  · generalize num / den * den = p at *
    omega
  · rw [step]
    generalize num / den * den = p at *
    omega

namespace Double

/-- The least exponent that a number is written with. -/
def leastExponent : Int := -1074

/-- The greatest exponent of a finite number. -/
def greatestExponent : Int := 971

/-- The number nearest to `num / den`. -/
def ofRatio (negative : Bool) (num den : Nat) : Double :=
  if num = 0 then finite negative 0 leastExponent
  else
    let bits := (num.log2 : Int) - den.log2
    -- the quotient lies between 2 ^ (bits - 1) and 2 ^ (bits + 1)
    let below := num * Nat.pow 2 (-bits).toNat < den * Nat.pow 2 bits.toNat
    let exponent := max (if below then bits - 53 else bits - 52) leastExponent
    let significand := roundDiv (num * Nat.pow 2 (-exponent).toNat) (den * Nat.pow 2 exponent.toNat)
    let (significand, exponent) :=
      if significand = Nat.pow 2 53 then (Nat.pow 2 52, exponent + 1) else (significand, exponent)
    if exponent ≤ greatestExponent then finite negative significand exponent
    else infinite negative

/-- The number nearest to `digits * 10 ^ scale`.  Scales far outside the range are settled without
computing the power. -/
def ofDecimal (negative : Bool) (digits : Nat) (scale : Int) : Double :=
  let leading := scale + (Numeral.digits 8 digits).length
  if digits = 0 ∨ leading < -330 then finite negative 0 leastExponent
  else if 310 < leading then infinite negative
  else ofRatio negative (digits * Nat.pow 10 scale.toNat) (Nat.pow 10 (-scale).toNat)

/-- The number nearest to an integer, if it is finite. -/
def ofInt? (n : Int) : Option Double :=
  match ofRatio (n < 0) n.natAbs 1 with
  | finite negative significand exponent => some (finite negative significand exponent)
  | _ => none

/-- The product with a natural number, rounded. -/
def scale (factor : Nat) : Double → Double
  | nan => nan
  | infinite negative => infinite negative
  | finite negative significand exponent =>
    ofRatio negative (significand * factor * Nat.pow 2 exponent.toNat) (Nat.pow 2 (-exponent).toNat)

/-- Zero. -/
def zero : Double := finite false 0 leastExponent

/-- Whether the number is a zero of either sign. -/
def isZero : Double → Bool
  | finite _ significand _ => significand = 0
  | _ => false

/-- Whether the number is less than zero; no number that is undefined is. -/
def isNegative : Double → Bool
  | nan => false
  | infinite negative => negative
  | finite negative significand _ => negative && significand ≠ 0

/-- The integer part: what is left when the fraction is cut off. -/
def truncate? : Double → Option Int
  | finite negative significand exponent =>
    let magnitude : Nat := significand * Nat.pow 2 exponent.toNat / Nat.pow 2 (-exponent).toNat
    some (if negative then -(magnitude : Int) else magnitude)
  | _ => none

end Double

end Paymaster
