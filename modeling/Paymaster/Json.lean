import Paymaster.Double
import Paymaster.Text

/-!
# JSON values

The values that requests and replies are made of.  Whole numbers and numbers with a fraction or
an exponent are different kinds, and the members of an object keep their order.
-/

namespace Paymaster

/-- A JSON value. -/
inductive Json where
  | null
  | bool (b : Bool)
  | int (n : Int)
  | double (x : Double)
  | str (text : Text)
  | arr (items : List Json)
  | obj (members : List (Text × Json))
deriving Repr, Inhabited

namespace Json

/-- The kind of a value. -/
inductive Kind where
  | null
  | bool
  | int
  | double
  | str
  | arr
  | obj
deriving Repr, DecidableEq

/-- The name of a kind in messages. -/
def Kind.name : Kind → String
  | null => "NoneType"
  | bool => "bool"
  | int => "int"
  | double => "float"
  | str => "str"
  | arr => "list"
  | obj => "dict"

/-- The kind of a value. -/
def kind : Json → Kind
  | null => .null
  | bool _ => .bool
  | int _ => .int
  | double _ => .double
  | str _ => .str
  | arr _ => .arr
  | obj _ => .obj

/-- Whether a value counts as absent: null, false, a zero, and whatever is empty. -/
def isBlank : Json → Bool
  | null => true
  | bool b => !b
  | int n => n = 0
  | double x => x.isZero
  | str text => text.isEmpty
  | arr items => items.isEmpty
  | obj members => members.isEmpty

/-- The whole number of a value; a truth value counts as zero or one. -/
def toInt? : Json → Option Int
  | int n => some n
  | bool b => some (if b then 1 else 0)
  | _ => none

/-- The members with one more: a name that is there keeps its place and takes the new value. -/
def putMember (name : Text) (v : Json) : List (Text × Json) → List (Text × Json)
  | [] => [(name, v)]
  | (other, w) :: rest =>
    if other = name then (name, v) :: rest else (other, w) :: putMember name v rest

/-- Members in the order in which their names first come, each with the last of its values. -/
def distinctMembers (members : List (Text × Json)) : List (Text × Json) :=
  members.foldl (fun acc m => putMember m.1 m.2 acc) []

/-- The value of a member, or a stand-in for a name that is not there. -/
def memberD (members : List (Text × Json)) (name : Text) (absent : Json) : Json :=
  (members.lookup name).getD absent

end Json

end Paymaster
