import Paymaster.Idna.Allowed
import Paymaster.Text.Quoted
import Paymaster.Unicode.Direction
import Paymaster.Unicode.Joining
import Paymaster.Unicode.Normal
import Paymaster.Unicode.Script

/-!
# Labels of host names

What a label of a host name may hold, given by its code points: it is in composed form, its hyphens
stand inside and do not look like the mark of an encoded label, it does not begin with a mark, each
of its characters may stand where it does, and those that run from right to left do not mix with
others in a way that would make the label look like another one.  The first rule that a label
breaks is its fault.
-/

namespace Paymaster.Idna

open Paymaster.Unicode

/-- The characters of a label, by their numbers. -/
abbrev Label := List Nat

/-- Why the characters of a label must not run in the directions in which they do. -/
inductive DirectionFault where
  /-- The direction of a character is not known. -/
  | unknown (position : Nat)
  /-- The first character gives the label no direction. -/
  | first
  /-- A character may not stand in a label from right to left. -/
  | inRightToLeft (position : Nat)
  /-- A character may not stand in a label from left to right. -/
  | inLeftToRight (position : Nat)
  /-- Digits of two kinds stand in a label from right to left. -/
  | mixedNumbers
  /-- The label ends in a character that may not end it. -/
  | ending
deriving DecidableEq, Repr

/-- What is wrong with a label. -/
inductive LabelFault where
  | empty
  | tooLong
  | notComposed
  | earlyHyphens
  | outerHyphen
  | leadingMark
  /-- A joiner stands behind a character that has no name. -/
  | besideUnknown (point position : Nat)
  /-- A joiner has no neighbours that it could join. -/
  | joiner (point position : Nat)
  /-- A character does not stand where it may. -/
  | context (point position : Nat)
  /-- A character may not stand in a label. -/
  | forbidden (point position : Nat)
  | direction (fault : DirectionFault)
deriving DecidableEq, Repr

/-! ## The place of characters -/

/-- The ideographs of Tangut. -/
def tangutRanges : List Range :=
  [(0x17000, 0x187F7), (0x18D00, 0x18D08)]

/-- Whether a character has a name by which its class can be looked up.  The ideographs of Tangut
have none but their numbers, and what is newer than the table of directions has none yet. -/
def isNamed (n : Nat) : Bool :=
  direction n ≠ .unknown && !inRanges n tangutRanges

/-- Whether the nearest characters before and behind a place, those that let others join apart,
join across it. -/
def joinsAcross (before behind : Label) : Bool :=
  let nearest (side : Label) : Joining :=
    joining ((side.find? fun n => joining n ≠ .transparent).getD 0)
  (nearest before = .left || nearest before = .both)
    && (nearest behind = .right || nearest behind = .both)

/-- Whether a joiner may stand behind what comes before it, read backwards, and in front of what
comes behind it. -/
def allowsJoiner (n : Nat) (before behind : Label) : Bool :=
  (before.head?.any fun m => combiningClass m = viramaClass)
    || (n = 0x200C && joinsAcross before behind)

/-- Whether a character that needs a context may stand in a label behind what comes before it, read
backwards, and in front of what comes behind it. -/
def allowsContext (label : Label) (n : Nat) (before behind : Label) : Bool :=
  let isIn (ranges : List Range) (neighbour : Option Nat) : Bool :=
    neighbour.any fun m => inRanges m ranges
  if n = 0xB7 then before.head? = some 0x6C && behind.head? = some 0x6C
  else if n = 0x375 then isIn greekRanges behind.head?
  else if n = 0x5F3 || n = 0x5F4 then isIn hebrewRanges before.head?
  else if n = 0x30FB then
    label.any fun m => m ≠ 0x30FB && (inRanges m kanaRanges || inRanges m hanRanges)
  else if 0x660 ≤ n && n ≤ 0x669 then label.all fun m => !(0x6F0 ≤ m && m ≤ 0x6F9)
  else label.all fun m => !(0x660 ≤ m && m ≤ 0x669)

/-- Whether a character joins its neighbours without being shown. -/
def isJoiner (n : Nat) : Bool :=
  n = 0x200C || n = 0x200D

/-- Whether a character may stand only in a context. -/
def needsContext (n : Nat) : Bool :=
  [0xB7, 0x375, 0x5F3, 0x5F4, 0x30FB].contains n || (0x660 ≤ n && n ≤ 0x669)
    || (0x6F0 ≤ n && n ≤ 0x6F9)

/-- What is wrong with a character at a position. -/
def pointFault? (label : Label) (position n : Nat) : Option LabelFault :=
  let before := (label.take position).reverse
  let behind := label.drop (position + 1)
  if isAllowed n then none
  else if isJoiner n then
    if before.head?.any (!isNamed ·) then some (.besideUnknown n position)
    else if allowsJoiner n before behind then none
    else some (.joiner n position)
  else if needsContext n then
    if allowsContext label n before behind then none else some (.context n position)
  else some (.forbidden n position)

/-! ## Directions -/

/-- Whether a label with a character of a direction has to keep the rules on directions. -/
def isBidirectional (d : Direction) : Bool :=
  d = .rightToLeft || d = .arabicLetter || d = .arabicNumber

/-- Whether a character of a direction may stand in a label either way. -/
def runsEitherWay (d : Direction) : Bool :=
  d = .europeanNumber || d = .separator || d = .neutral || d = .boundary || d = .mark

/-- The direction that ends a label: the last that is not a mark's. -/
def endingDirection (ds : List Direction) : Option Direction :=
  ds.reverse.find? (· ≠ .mark)

/-- What is wrong with the directions of a label from right to left. -/
def rightToLeftFault? (ds : List Direction) : Option DirectionFault :=
  let isNumber (d : Direction) : Bool := d = .europeanNumber || d = .arabicNumber
  let firstNumber := ds.find? isNumber
  let faultAt (position : Nat) (d : Direction) : Option DirectionFault :=
    if !isBidirectional d && !runsEitherWay d then some (.inRightToLeft position)
    else if isNumber d && firstNumber ≠ some d then some .mixedNumbers
    else none
  match (ds.mapIdx fun i d => (i, d)).findSome? fun (i, d) => faultAt i d with
  | some fault => some fault
  | none =>
    if (endingDirection ds).any fun d => isBidirectional d || d = .europeanNumber then none
    else some .ending

/-- What is wrong with the directions of a label from left to right. -/
def leftToRightFault? (ds : List Direction) : Option DirectionFault :=
  match ds.findIdx? fun d => d ≠ .leftToRight && !runsEitherWay d with
  | some position => some (.inLeftToRight position)
  | none =>
    if (endingDirection ds).any fun d => d = .leftToRight || d = .europeanNumber then none
    else some .ending

/-- What is wrong with the directions of a label.  Only one that holds characters from right to
left has to keep the rules. -/
def directionFault? (ds : List Direction) : Option DirectionFault :=
  match ds.findIdx? (· = .unknown) with
  | some position => some (.unknown position)
  | none =>
    if !ds.any isBidirectional then none
    else
      match ds.head? with
      | some .leftToRight => leftToRightFault? ds
      | some .rightToLeft | some .arabicLetter => rightToLeftFault? ds
      | _ => some .first

/-! ## The rules together -/

/-- The most characters of a label before it is encoded. -/
def lengthLimit : Nat := 254

/-- What is wrong with a label, if anything is. -/
def labelFault? (label : Label) : Option LabelFault :=
  if label.isEmpty then some .empty
  else if lengthLimit < label.length then some .tooLong
  else if !isComposed label then some .notComposed
  else if (label.drop 2).take 2 = [0x2D, 0x2D] then some .earlyHyphens
  else if label.head? = some 0x2D || label.getLast? = some 0x2D then some .outerHyphen
  else if label.head?.any isMark then some .leadingMark
  else
    match (label.mapIdx fun i n => (i, n)).findSome? fun (i, n) => pointFault? label i n with
    | some fault => some fault
    | none => (directionFault? (label.map direction)).map .direction

end Paymaster.Idna
