/-!
# Addresses of servers

The parts of an address, without the marks that set them off.  Every text can be taken apart, and
a part that it lacks is empty; whether the parts make sense is another question.
-/

namespace Paymaster

/-- The parts of an address. -/
structure Url where
  scheme : List Char
  user : List Char
  host : List Char
  port : List Char
  path : List Char
  /-- What stands behind the question mark, if there is one. -/
  query : Option (List Char)
  /-- What stands behind the number sign, if there is one. -/
  fragment : Option (List Char)
deriving DecidableEq, Repr

namespace Url

/-- Whether a character may stand in a scheme. -/
def isSchemeChar (c : Char) : Bool :=
  c.isAlphanum || c = '+' || c = '.' || c = '-'

/-- The scheme, and what is behind its colon. -/
def splitScheme (text : List Char) : List Char × List Char :=
  let scheme := text.takeWhile isSchemeChar
  match text.dropWhile isSchemeChar with
  | ':' :: rest => if scheme.head?.all Char.isAlpha then (scheme, rest) else ([], text)
  | _ => ([], text)

/-- What stands before a mark, and what stands behind it if it is there. -/
def splitAtMark (mark : Char) (text : List Char) : List Char × Option (List Char) :=
  match text.dropWhile (· ≠ mark) with
  | [] => (text, none)
  | _ :: rest => (text.takeWhile (· ≠ mark), some rest)

/-- What stands before the last of a mark, and what stands behind it if it is there. -/
def splitAtLastMark (mark : Char) (text : List Char) : List Char × Option (List Char) :=
  match splitAtMark mark text.reverse with
  | (_, none) => (text, none)
  | (behind, some before) => (before.reverse, some behind.reverse)

/-- Whether a character ends the part that names user, host and port. -/
def endsAuthority (c : Char) : Bool :=
  c = '/' || c = '?' || c = '#'

/-- The part that names user, host and port, behind two slashes, and what follows it. -/
def splitAuthority : List Char → List Char × List Char
  | '/' :: '/' :: rest =>
    (rest.takeWhile (!endsAuthority ·), rest.dropWhile (!endsAuthority ·))
  | text => ([], text)

/-- A host that may stand in square brackets, and what is behind it. -/
def splitHost (text : List Char) : List Char × List Char :=
  match text, splitAtLastMark ']' text with
  | '[' :: _, (host, some behind) => (host ++ [']'], behind)
  | _, _ => (text.takeWhile (· ≠ ':'), text.dropWhile (· ≠ ':'))

/-- The parts of an address. -/
def ofChars (text : List Char) : Url :=
  let (scheme, rest) := splitScheme text
  let (authority, rest) := splitAuthority rest
  let (user, place) :=
    match splitAtLastMark '@' authority with
    | (user, some place) => (user, place)
    | (_, none) => ([], authority)
  let (host, port) := splitHost place
  let (rest, fragment) := splitAtMark '#' rest
  let (path, query) := splitAtMark '?' rest
  { scheme, user, host, path, query, fragment
    port := if port.head? = some ':' then port.tail else port }

end Url

end Paymaster
