import Paymaster.Unicode.CombiningClass
import Paymaster.Unicode.Composition

/-!
# Composed form

One text can be spelled in several ways, with composed characters or with marks behind plain ones,
and with marks in one order or another.  The composed form is one of them: everything is taken
apart, marks are put in the order of their classes, and everything is put together again.
-/

namespace Paymaster.Unicode

/-- How often a character can be taken apart, and its parts again. -/
def splitDepth : Nat := 4

/-- The characters that a character stands for, taken apart so often. -/
def decompose : Nat → Nat → List Nat
  | 0, n => [n]
  | depth + 1, n =>
    match split? n with
    | some (a, b) => decompose depth a ++ decompose depth b
    | none => [n]

/-- Puts a mark in front of those of later classes; the text is read backwards. -/
def placeMark (n : Nat) : List Nat → List Nat
  | [] => [n]
  | m :: rest =>
    if combiningClass n ≠ 0 ∧ combiningClass n < combiningClass m then m :: placeMark n rest
    else n :: m :: rest

/-- A text with its marks in the order of their classes. -/
def orderMarks (text : List Nat) : List Nat :=
  (text.foldl (fun placed n => placeMark n placed) []).reverse

/-- Whether a character cannot join the one before the marks that stand in front of it. -/
def isBlocked (marks : List Nat) (n : Nat) : Bool :=
  match marks with
  | [] => false
  | m :: _ => combiningClass n ≤ combiningClass m

/-- Puts characters together: `base` is the last one that others can join, and `marks` are those
behind it that have not joined it, the last first. -/
def composeFrom (base : Option Nat) (marks : List Nat) : List Nat → List Nat
  | [] => base.toList ++ marks.reverse
  | n :: rest =>
    match base.bind fun b => if isBlocked marks n then none else join? b n with
    | some joined => composeFrom (some joined) marks rest
    | none =>
      if combiningClass n = 0 then base.toList ++ marks.reverse ++ composeFrom (some n) [] rest
      else composeFrom base (n :: marks) rest

/-- The composed form of a text without characters that composed text does not use. -/
def compose (text : List Nat) : List Nat :=
  composeFrom none [] (orderMarks (text.flatMap (decompose splitDepth)))

/-- Whether a text is in composed form. -/
def isComposed (text : List Nat) : Bool :=
  text.all (fun n => !inRanges n neverComposed) && compose text == text

end Paymaster.Unicode
