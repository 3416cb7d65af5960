import Paymaster.Error

/-!
# Typed replies

What the server answers is read leniently.  A shape lists the members that are looked for, and a
record of that shape holds exactly them: plain values as they come, lists, and sections, which are
records again.  A member that is missing has a stand-in, a blank section counts as one without
members, a blank list as an empty one, and members that the shape does not list are passed over.
Only a section that is no object and a list that cannot be gone through are refused.

The type of a record follows from its shape, so that reading can give nothing else.
-/

namespace Paymaster.Reply

/-- The members that are looked for in an object, in order. -/
inductive Fields where
  | done
  /-- A plain value.  One stand-in is for an object without the member, the other for a section
  that is blank itself. -/
  | value (name : String) (absent blank : Json) (rest : Fields)
  /-- A list. -/
  | items (name : String) (rest : Fields)
  /-- A section, with a title of its own. -/
  | nested (name title : String) (inner rest : Fields)

/-- What is read by some fields. -/
def Record : Fields → Type
  | .done => Unit
  | .value _ _ _ rest => Json × Record rest
  | .items _ rest => List Json × Record rest
  | .nested _ _ inner rest => Record inner × Record rest

/-- The members of a section; a blank one is told apart from one without members. -/
def sectionMembers (v : Json) : Except Error (Option (List (Text × Json))) :=
  if v.isBlank then .ok none
  else
    match v with
    | .obj members => .ok (some members)
    | v => .error (.noOperation v.kind "get")

/-- What a list holds: a text stands for its code points, and an object for its names. -/
def listItems (v : Json) : Except Error (List Json) :=
  if v.isBlank then .ok []
  else
    match v with
    | .arr items => .ok items
    | .str text => .ok (text.singletons.map .str)
    | .obj members => .ok (members.map fun m => .str m.1)
    | v => .error (.notIterable v.kind)

/-- A member of a section, or null. -/
def memberOf (members : Option (List (Text × Json))) (name : String) : Json :=
  match members with
  | none => .null
  | some members => Json.memberD members name .null

/-- A member of a section, or its stand-in. -/
def plainMember (members : Option (List (Text × Json))) (name : String) (absent blank : Json) :
    Json :=
  match members with
  | none => blank
  | some members => Json.memberD members name absent

/-- Reads the fields of a section, from the first on. -/
def readFields : (f : Fields) → Option (List (Text × Json)) → Except Error (Record f)
  | .done, _ => .ok ()
  | .value name absent blank rest, members => do
    let others ← readFields rest members
    return (plainMember members name absent blank, others)
  | .items name rest, members => do
    let items ← listItems (memberOf members name)
    let others ← readFields rest members
    return (items, others)
  | .nested name _ inner rest, members => do
    let part ← sectionMembers (memberOf members name)
    let record ← readFields inner part
    let others ← readFields rest members
    return (record, others)

/-- Reads a value as a record. -/
def decode (f : Fields) (v : Json) : Except Error (Record f) := do
  let members ← sectionMembers v
  readFields f members

/-- The members that a record is written out with. -/
def toMembers : (f : Fields) → Record f → List (Text × Json)
  | .done, () => []
  | .value name _ _ rest, (v, others) => (name, v) :: toMembers rest others
  | .items name rest, (items, others) => (name, .arr items) :: toMembers rest others
  | .nested name _ inner rest, (record, others) =>
    (name, .obj (toMembers inner record)) :: toMembers rest others

/-- A record written out. -/
def toJson (f : Fields) (r : Record f) : Json :=
  .obj (toMembers f r)

/-- The names of some fields. -/
def Fields.names : Fields → List String
  | .done => []
  | .value name _ _ rest => name :: rest.names
  | .items name rest => name :: rest.names
  | .nested name _ _ rest => name :: rest.names

/-- Fields with a title. -/
structure Shape where
  title : String
  fields : Fields

end Paymaster.Reply
