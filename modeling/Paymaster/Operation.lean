import Paymaster.Numeral
import Paymaster.Text

/-!
# Operations

What a caller can ask for by name, with arguments by name or by place.  An operation requires some
arguments and knows others.  The first argument that it does not know, or has already, is refused,
and so are more arguments than it has places; after that, those that are missing.
-/

namespace Paymaster

/-- An operation that a caller names. -/
structure Operation where
  name : String
  /-- The names of what it has before the caller passes anything. -/
  given : List String
  required : List String
  optional : List String
deriving Repr, DecidableEq

namespace Operation

/-- Why arguments are refused. -/
inductive Fault where
  /-- The operation knows no argument of the name. -/
  | unknown (operation : String) (argument : Text)
  /-- The operation has the argument already. -/
  | repeated (operation : String) (argument : Text)
  /-- The operation has places for `least` to `most` arguments, and gets more. -/
  | tooMany (operation : String) (least most count : Nat)
  /-- Arguments that are required are not passed. -/
  | missing (operation : String) (arguments : List String)
deriving Repr, DecidableEq

/-- An operation of the client. -/
def ofClient (name : String) (required optional : List String) : Operation :=
  { name := "Client." ++ name, given := ["self"], required, optional }

/-- The names of the arguments that a caller may pass, in their order. -/
def parameters (o : Operation) : List String :=
  o.required ++ o.optional

/-- Whether a text is among some names. -/
def isAmong (names : List String) (argument : Text) : Bool :=
  names.any fun name => argument = Text.ofString name

/-- Checks one argument. -/
def checkArgument (o : Operation) (argument : Text) : Except Fault Unit :=
  if isAmong o.given argument then .error (.repeated o.name argument)
  else if isAmong o.parameters argument then .ok ()
  else .error (.unknown o.name argument)

/-- Refuses that some arguments are missing, if there are any. -/
def checkMissing (o : Operation) : List String → Except Fault Unit
  | [] => .ok ()
  | names => .error (.missing o.name names)

/-- Checks the names of the arguments that a caller passes by name. -/
def check (o : Operation) (arguments : List Text) : Except Fault Unit := do
  arguments.forM o.checkArgument
  o.checkMissing (o.required.filter fun name => !arguments.contains (Text.ofString name))

/-- Checks the number of the arguments that a caller passes by place; what the operation has
already takes places too. -/
def checkCount (o : Operation) (count : Nat) : Except Fault Unit :=
  let least := o.given.length + o.required.length
  let most := least + o.optional.length
  let all := o.given.length + count
  if most < all then .error (.tooMany o.name least most all)
  else o.checkMissing (o.required.drop count)

/-- Names in quotes as a list in words: `'a'`, `'a' and 'b'`, `'a', 'b', and 'c'`. -/
def listed (names : List String) : String :=
  match names.map fun name => "'" ++ name ++ "'" with
  | [] => ""
  | [a] => a
  | [a, b] => a ++ " and " ++ b
  | quoted => ", ".intercalate quoted.dropLast ++ ", and " ++ quoted.getLastD ""

/-- A number in digits. -/
def digits (n : Nat) : String :=
  String.ofList (Numeral.decimal n)

/-- A noun for so many things. -/
def counted (noun : String) (n : Nat) : String :=
  if n = 1 then noun else noun ++ "s"

/-- The wording of a refusal. -/
def Fault.message : Fault → Text
  | unknown operation argument =>
    operation ++ "() got an unexpected keyword argument '" ++ argument ++ "'"
  | repeated operation argument =>
    operation ++ "() got multiple values for argument '" ++ argument ++ "'"
  | tooMany operation least most count =>
    let places :=
      if least = most then digits most ++ counted " positional argument" most
      else "from " ++ digits least ++ " to " ++ digits most ++ " positional arguments"
    operation ++ "() takes " ++ places ++ " but " ++ digits count
      ++ (if count = 1 then " was" else " were") ++ " given"
  | missing operation arguments =>
    operation ++ "() missing " ++ digits arguments.length
      ++ counted " required positional argument" arguments.length ++ ": " ++ listed arguments

end Operation

end Paymaster
