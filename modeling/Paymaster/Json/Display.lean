import Paymaster.Double.Layout
import Paymaster.Json.Obstacle
import Paymaster.Text.Quoted

/-!
# How messages show values

Messages and reports show a value in words of their own: `None`, `True` and `False`, strings in
quotes, and lists and objects with a blank after each comma and colon.  At the outermost place a
string is shown as it is.
-/

namespace Paymaster.Json

/-- Messages show numbers with the fewest digits that read back, positionally below `10 ^ 16`. -/
def messageLayout : Double.Layout where
  plainFrom := -4
  plainBelow := 16
  exponentWidth := 2
  infinity := "inf"
  undefined := "nan"

mutual

/-- A value as it is shown inside another. -/
def nestedChars : Json → List Char
  | null => ['N', 'o', 'n', 'e']
  | bool true => ['T', 'r', 'u', 'e']
  | bool false => ['F', 'a', 'l', 's', 'e']
  | int n => Numeral.decimalInt n
  | double x => messageLayout.render x
  | str text => text.quoted
  | arr items => '[' :: nestedItems items
  | obj members => '{' :: nestedMembers members

/-- The items of a list and its closing bracket. -/
def nestedItems : List Json → List Char
  | [] => [']']
  | v :: rest => nestedChars v ++ nestedMoreItems rest

/-- The items after the first, each behind a comma, and the closing bracket. -/
def nestedMoreItems : List Json → List Char
  | [] => [']']
  | v :: rest => ',' :: ' ' :: nestedChars v ++ nestedMoreItems rest

/-- The members of an object and its closing brace. -/
def nestedMembers : List (Text × Json) → List Char
  | [] => ['}']
  | (name, v) :: rest =>
    name.quoted ++ ':' :: ' ' :: nestedChars v ++ nestedMoreMembers rest

/-- The members after the first, each behind a comma, and the closing brace. -/
def nestedMoreMembers : List (Text × Json) → List Char
  | [] => ['}']
  | (name, v) :: rest =>
    ',' :: ' ' :: name.quoted ++ ':' :: ' ' :: nestedChars v ++ nestedMoreMembers rest

end

/-- A value as it is shown inside another: strings are in quotes. -/
def nested (v : Json) : String :=
  String.ofList (nestedChars v)

/-- A value as it is shown by itself: a string is shown as it is. -/
def display : Json → Text
  | str text => text
  | v => nested v

/-- A value as it is shown by itself, if nothing in it stands in the way. -/
def shown [Stack] (v : Json) : Except Obstacle Text :=
  match v.unshowable? with
  | none => .ok v.display
  | some obstacle => .error obstacle

/-- Values as they are shown together: none as nothing, one by itself, and more in parentheses. -/
def displayAll : List Json → Text
  | [] => ""
  | [v] => v.display
  | values => "(" ++ ", ".intercalate (values.map nested) ++ ")"

end Paymaster.Json
