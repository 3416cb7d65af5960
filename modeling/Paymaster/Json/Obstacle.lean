import Paymaster.Json

/-!
# What is not written and not shown

Values inside each other take up the stack: whoever reads, writes or shows a value goes down a
level for each.  How many levels are left is no matter of the client, but of the process that calls
it, so it is given by a `Stack`.  And a whole number is spelled only up to a number of digits.
-/

namespace Paymaster

/-- What is left of the stack of a process where it reads, writes and shows values.  A text is read
further down than a value is shown, and there is room for what the client itself has to say. -/
class Stack where
  /-- How many containers may stand inside each other in a text that is read. -/
  reading : Nat
  /-- How many containers may stand inside each other in a value that is written. -/
  writing : Nat
  /-- How many values may stand inside each other in one that is shown. -/
  showing : Nat
  reading_lt_showing : reading < showing
  le_reading : 8 ≤ reading
  le_writing : 8 ≤ writing

namespace Stack

/-- The stack of a process that does little else. -/
scoped instance usual : Stack where
  reading := 979
  writing := 980
  showing := 983
  reading_lt_showing := by decide
  le_reading := by decide
  le_writing := by decide

end Stack

namespace Json

/-- Why a value is not written or not shown. -/
inductive Obstacle where
  /-- A value stands inside too many others. -/
  | tooDeep
  /-- A whole number has too many digits. -/
  | longNumber
deriving Repr, DecidableEq

mutual

/-- The first obstacle in a value where `room` levels are left.  A container needs a level, and so
does any other value if `leaves` says so. -/
def obstacle? (leaves : Bool) (room : Nat) : Json → Option Obstacle
  | arr items =>
    match room with
    | 0 => some .tooDeep
    | room + 1 => obstacleOfItems? leaves room items
  | obj members =>
    match room with
    | 0 => some .tooDeep
    | room + 1 => obstacleOfMembers? leaves room members
  | int n =>
    if leaves ∧ room = 0 then some .tooDeep
    else if Numeral.digitLimit < (Numeral.decimal n.natAbs).length then some .longNumber
    else none
  | _ => if leaves ∧ room = 0 then some .tooDeep else none

/-- The first obstacle in some items. -/
def obstacleOfItems? (leaves : Bool) (room : Nat) : List Json → Option Obstacle
  | [] => none
  | v :: rest => (obstacle? leaves room v).or (obstacleOfItems? leaves room rest)

/-- The first obstacle in the values of some members. -/
def obstacleOfMembers? (leaves : Bool) (room : Nat) : List (Text × Json) → Option Obstacle
  | [] => none
  | (_, v) :: rest => (obstacle? leaves room v).or (obstacleOfMembers? leaves room rest)

end

/-- What keeps a value from being written: only containers take up the stack. -/
def unwritable? [Stack] (v : Json) : Option Obstacle :=
  v.obstacle? false Stack.writing

/-- What keeps a value from being shown. -/
def unshowable? [Stack] (v : Json) : Option Obstacle :=
  v.obstacle? true Stack.showing

end Json

end Paymaster
