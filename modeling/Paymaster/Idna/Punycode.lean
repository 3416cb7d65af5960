/-!
# Punycode

A way to write the code points of a label in ASCII.  The basic code points, which are ASCII, come
first as they are.  The others follow in ascending order, each as a number that says how far on
from the one before it is inserted; the number is written in digits to base 36, and where it ends
is told by thresholds that adapt to the numbers so far.
-/

namespace Paymaster.Idna.Punycode

/-! ## Digits and thresholds -/

/-- The digit of a value below 36. -/
def digitChar (d : Nat) : Char :=
  if d < 26 then Char.ofNat (97 + d) else Char.ofNat (22 + d)

/-- The value of a digit in either case. -/
def digitValue? (c : Char) : Option Nat :=
  if 'a' ≤ c ∧ c ≤ 'z' then some (c.toNat - 97)
  else if 'A' ≤ c ∧ c ≤ 'Z' then some (c.toNat - 65)
  else if '0' ≤ c ∧ c ≤ '9' then some (c.toNat - 22)
  else none

/-- The digit from which on a number goes on, for the digit at a place. -/
def threshold (place bias : Nat) : Nat :=
  max 1 (min 26 (36 * (place + 1) - bias))

theorem threshold_pos (place bias : Nat) : 1 ≤ threshold place bias := by
  simp only [threshold]
  omega

/-- Halves a number by steps until it is small: the steps' part of the bias, and what is left. -/
def reduce (steps delta : Nat) : Nat × Nat :=
  if 455 < delta then reduce (steps + 36) (delta / 35) else (steps, delta)
termination_by delta
decreasing_by exact Nat.div_lt_self (by omega) (by omega)

/-- The bias after a number, for a text of so many code points. -/
def adapt (delta count : Nat) (isFirst : Bool) : Nat :=
  let delta := if isFirst then delta / 700 else delta / 2
  let (steps, delta) := reduce 0 (delta + delta / count)
  steps + 36 * delta / (delta + 38)

/-! ## Writing -/

/-- The digits of a number from a place on. -/
def writeNumber (bias place n : Nat) : List Char :=
  let t := threshold place bias
  if n < t then [digitChar n]
  else digitChar (t + (n - t) % (36 - t)) :: writeNumber bias (place + 1) ((n - t) / (36 - t))
termination_by n
decreasing_by
  have := threshold_pos place bias
  exact Nat.lt_of_le_of_lt (Nat.div_le_self _ _) (by omega)

/-- What has been written of a text. -/
structure Writer where
  digits : List Char
  delta : Nat
  bias : Nat
  /-- How many code points are written. -/
  count : Nat

/-- Passes a code point of the text on the way to those of number `n`, which are written. -/
def Writer.pass (basic n : Nat) (w : Writer) (p : Nat) : Writer :=
  if p < n then { w with delta := w.delta + 1 }
  else if p = n then
    { digits := w.digits ++ writeNumber w.bias 0 w.delta, delta := 0
      bias := adapt w.delta (w.count + 1) (w.count = basic), count := w.count + 1 }
  else w

/-- Writes the code points of the given numbers, `next` being the least that is not written. -/
def Writer.run (text : List Nat) (basic next : Nat) (w : Writer) : List Nat → Writer
  | [] => w
  | n :: rest =>
    let start := { w with delta := w.delta + (n - next) * (w.count + 1) }
    let passed := text.foldl (Writer.pass basic n) start
    Writer.run text basic (n + 1) { passed with delta := passed.delta + 1 } rest

/-- Numbers in ascending order, each once. -/
def sortedOnce (ns : List Nat) : List Nat :=
  (ns.mergeSort (· ≤ ·)).eraseReps

/-- The ASCII form of a text. -/
def encode (text : List Nat) : List Char :=
  let basic := text.filter (· < 128)
  let others := sortedOnce (text.filter (128 ≤ ·))
  let start : Writer := { digits := [], delta := 0, bias := 72, count := basic.length }
  basic.map Char.ofNat ++ (if basic.isEmpty then [] else ['-'])
    ++ (start.run text basic.length 128 others).digits

/-! ## Reading -/

/-- What has been read of a text, and of the number that is being read. -/
structure Reader where
  points : List Nat
  /-- The number of the code point that was inserted last. -/
  last : Nat
  /-- The place behind that code point. -/
  place : Nat
  bias : Nat
  isFirst : Bool
  /-- How many digits of the number are read, their value, and the weight of the next. -/
  digits : Nat
  value : Nat
  weight : Nat

/-- Inserts the code point that a number says, if there is one. -/
def Reader.insert? (r : Reader) (delta : Nat) : Option Reader :=
  let count := r.points.length + 1
  let place := (r.place + delta) % count
  let n := r.last + (r.place + delta) / count
  if n < 0x110000 then
    some
      { points := r.points.take place ++ n :: r.points.drop place, last := n, place := place + 1
        bias := adapt delta count r.isFirst, isFirst := false
        digits := 0, value := 0, weight := 1 }
  else none

/-- Reads a digit. -/
def Reader.digit? (r : Reader) (c : Char) : Option Reader := do
  let d ← digitValue? c
  let t := threshold r.digits r.bias
  let value := r.value + d * r.weight
  if d < t then r.insert? value
  else some { r with digits := r.digits + 1, value, weight := r.weight * (36 - t) }

/-- What stands before the last hyphen, and what stands behind it. -/
def splitAtHyphen (text : List Char) : List Char × List Char :=
  match text.reverse.dropWhile (· ≠ '-') with
  | [] => ([], text)
  | _ :: before => (before.reverse, (text.reverse.takeWhile (· ≠ '-')).reverse)

/-- The text of an ASCII form.  The digits must not end inside a number. -/
def decode? (text : List Char) : Option (List Nat) := do
  let (basic, digits) := splitAtHyphen text
  let start : Reader :=
    { points := basic.map Char.toNat, last := 128, place := 0, bias := 72, isFirst := true
      digits := 0, value := 0, weight := 1 }
  let r ← digits.foldlM Reader.digit? start
  if r.digits = 0 then some r.points else none

end Paymaster.Idna.Punycode
