import Paymaster.Text.Quoted
import Paymaster.Url.Host
import Paymaster.Url.Port

/-!
# Normal form of an address

A request goes out under the normal form of the server's address: scheme and host in lower case,
the port only where it is not the scheme's own, no dot segments in the path, and every character
that a part may not hold written by its bytes.  An address that lacks a scheme or a host stands
for its path and query alone.
-/

namespace Paymaster.Url

/-! ## Refusals -/

/-- Why an address is refused. -/
inductive Fault where
  | tooLong
  /-- The address holds a control character. -/
  | control (c : Char) (position : Nat)
  | host (fault : HostFault) (name : List Char)
  | port (text : List Char)
  /-- The path of an address without scheme and host begins with two slashes. -/
  | slashes
  /-- The path of an address without scheme and host begins with a colon. -/
  | colon
  /-- The path of an address without scheme or host is too long when it is encoded. -/
  | pathTooLong
  /-- The query of an address without scheme or host is too long when it is encoded. -/
  | queryTooLong
deriving DecidableEq, Repr

/-- What an invalid host was taken for. -/
def HostFault.subject : HostFault → String
  | numbers => "IPv4 address"
  | groups => "IPv6 address"
  | name => "IDNA hostname"

/-- The wording of a refusal. -/
def Fault.message : Fault → String
  | tooLong => "URL too long"
  | control c position =>
    "Invalid non-printable ASCII character in URL, " ++ Text.quote (.ofChars [c])
      ++ " at position " ++ String.ofList (Numeral.decimal position) ++ "."
  | .host fault name => "Invalid " ++ fault.subject ++ ": " ++ Text.quote (.ofChars name)
  | .port text => "Invalid port: " ++ Text.quote (.ofChars text)
  | slashes => "Relative URLs cannot have a path starting with '//'"
  | colon => "Relative URLs cannot have a path starting with ':'"
  | pathTooLong => "URL component 'path' too long"
  | queryTooLong => "URL component 'query' too long"

/-- The most characters of an address, and of a part of it. -/
def lengthLimit : Nat := 65536

/-! ## Paths -/

/-- A path without dot segments, its segments the last first.  Two dots take the segment before
them back, but not the root. -/
def resolveDots (path : List (List Char)) : List (List Char) :=
  path.foldl
    (fun taken s =>
      if s = ['.'] then taken
      else if s = ['.', '.'] then (if taken = [[]] then taken else taken.drop 1)
      else s :: taken)
    []

/-- A path without dot segments. -/
def normalPath (path : List Char) : List Char :=
  ['/'].intercalate (resolveDots (segments (· = '/') path)).reverse

/-! ## The normal form of the parts -/

/-- The parts of an address in normal form. -/
structure Normal where
  scheme : List Char
  user : List Char
  /-- The host, an address of eight groups without its brackets. -/
  host : List Char
  port : Option Int
  path : List Char
  query : Option (List Char)
  fragment : Option (List Char)
deriving DecidableEq, Repr

/-- The port of an address, unless it has none or its scheme's own. -/
def normalPort (u : Url) : Except Fault (Option Int) :=
  if u.port.isEmpty then .ok none
  else
    match portNumber? u.port with
    | some n => .ok (if ownPort? u.scheme = some n then none else some n)
    | none => .error (.port u.port)

/-- Refuses the path of an address without scheme and host if that could be mistaken for them. -/
def checkPath (path : List Char) : Except Fault Unit :=
  match path with
  | '/' :: '/' :: _ => .error .slashes
  | ':' :: _ => .error .colon
  | _ => .ok ()

/-- The parts of an address in normal form.  Dot segments stay in an address without scheme and
host. -/
def normalize (u : Url) : Except Fault Normal := do
  let user := percentEncode isUserChar u.user
  let host ← (normalHost u.host).mapError fun fault => Fault.host fault u.host
  let port ← normalPort u
  let isBare := u.scheme.isEmpty && user.isEmpty && host.isEmpty && port.isNone
  if isBare then checkPath u.path
  return {
    scheme := u.scheme.map Char.toLower, user, host, port
    path := percentEncode isPathChar (if isBare then u.path else normalPath u.path)
    query := u.query.map (percentEncode isQueryChar)
    fragment := u.fragment.map (percentEncode isFragmentChar) }

namespace Normal

/-- Whether an address names a server. -/
def isAbsolute (n : Normal) : Bool :=
  !n.scheme.isEmpty && !n.host.isEmpty

/-- A part behind its mark, if it is there. -/
def behindMark (mark : Char) (part : Option (List Char)) : List Char :=
  match part with
  | some text => mark :: text
  | none => []

/-- The host, and the port behind it. -/
def place (n : Normal) : List Char :=
  hostText n.host ++ behindMark ':' (n.port.map Numeral.decimalInt)

/-- The normal form of an address that names a server. -/
def absoluteText (n : Normal) : List Char :=
  n.scheme ++ [':', '/', '/'] ++ (if n.user.isEmpty then [] else n.user ++ ['@']) ++ n.place
    ++ n.path ++ behindMark '?' n.query ++ behindMark '#' n.fragment

/-- The path of an address that names no server, from the root on. -/
def rootPath (n : Normal) : List Char :=
  '/' :: n.path.dropWhile (· = '/')

/-- The address that stands for one without a server: its path and query alone. -/
def relativeText (n : Normal) : Except Fault (List Char) :=
  if lengthLimit < n.rootPath.length then .error .pathTooLong
  else if n.query.any fun query => lengthLimit < query.length then .error .queryTooLong
  else .ok (n.rootPath ++ behindMark '?' n.query)

end Normal

/-! ## The normal form of an address -/

/-- Where a request goes. -/
structure Target where
  /-- The address that the request goes out under. -/
  url : List Char
  /-- The host that is called, as it stands in the address, and the port behind it; none for an
  address that names no server. -/
  host : Option (List Char)
  place : List Char
deriving DecidableEq, Repr

/-- Whether a character is an ASCII control. -/
def isControl (c : Char) : Bool :=
  c.toNat < 0x20 || c.toNat = 0x7F

/-- Refuses an address that is too long or holds a control character. -/
def checkText (text : List Char) : Except Fault Unit :=
  if lengthLimit < text.length then .error .tooLong
  else
    match text.dropWhile (!isControl ·) with
    | [] => .ok ()
    | c :: _ => .error (.control c (text.takeWhile (!isControl ·)).length)

/-- Where a request to an address goes. -/
def target (address : List Char) : Except Fault Target := do
  checkText address
  let n ← normalize (ofChars address)
  if n.isAbsolute then return { url := n.absoluteText, host := some n.host, place := n.place }
  else return { url := ← n.relativeText, host := none, place := [] }

end Paymaster.Url
