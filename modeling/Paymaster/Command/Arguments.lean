import Paymaster.Json
import Paymaster.Unicode.Digit

/-!
# Command line arguments

A command knows some options, each a switch or followed by a value, and takes nothing else.  An
option may be shortened as long as only one option begins so, and a value may stand behind an
equals sign.  A value does not begin with a dash, unless it is a lone dash, a number or holds a
blank; behind an equals sign it may be any text, but two dashes stand for no value at all there.
Of an option that is given twice the last counts.  Every command also knows a switch that asks for
help, which counts as soon as it is read.
-/

namespace Paymaster.Command

/-- An option of a command. -/
structure Flag where
  name : String
  takesValue : Bool
  isRequired : Bool
deriving DecidableEq, Repr

/-- The options that a command line sets, the latest first. -/
structure Arguments where
  values : List (String × Json)
  switches : List String

/-- No options. -/
def Arguments.empty : Arguments := ⟨[], []⟩

/-- The value of an option. -/
def Arguments.value? (a : Arguments) (name : String) : Option Json :=
  a.values.lookup name

/-- Whether a switch is set. -/
def Arguments.isSet (a : Arguments) (name : String) : Bool :=
  a.switches.contains name

/-- What a command line asks for. -/
inductive CommandLine where
  /-- It is no command line that the command takes. -/
  | refused
  /-- It asks for the options of the command. -/
  | help
  | accepted (a : Arguments)

/-- What a word of a command line is. -/
inductive Word where
  | flag (flag : Flag) (value : Option String)
  | plain (text : String)
  /-- The beginning of more than one option. -/
  | ambiguous
  | unknown
deriving DecidableEq, Repr

/-- The switch that asks for help. -/
def helpFlag : Flag := ⟨"--help", false, false⟩

/-- Whether characters are a run of one digit or more, in any script. -/
def isDigits (cs : List Char) : Bool :=
  !cs.isEmpty && cs.all Unicode.isDigit

/-- Whether characters are digits, with or without a point among them and digits behind it. -/
def isNumber (cs : List Char) : Bool :=
  isDigits cs
    || match cs.dropWhile Unicode.isDigit with
      | '.' :: places => isDigits places
      | _ => false

/-- Whether a word is a number behind a dash; a line end may follow. -/
def isNegativeNumber : List Char → Bool
  | '-' :: rest => isNumber (if rest.getLast? = some '\n' then rest.dropLast else rest)
  | _ => false

/-- A word up to its first equals sign, and what is behind it. -/
def splitValue (word : List Char) : List Char × Option String :=
  match word.dropWhile (· ≠ '=') with
  | [] => (word, none)
  | _ :: value => (word.takeWhile (· ≠ '='), some (String.ofList value))

/-- What a word with two dashes is that spells no option in full: an option that is shortened, or
has a value behind an equals sign. -/
def matchFlag (flags : List Flag) (word : List Char) : Word :=
  let (name, value) := splitValue word
  match flags.find? (·.name.toList = name) with
  | some flag => .flag flag value
  | none =>
    match flags.filter fun flag => name.isPrefixOf flag.name.toList with
    | [] => .unknown
    | [flag] => .flag flag value
    | _ => .ambiguous

/-- What a word is that begins with a dash and the letter of help: help once more for every further
such letter, which may stand behind an equals sign.  With anything else it is help with a value. -/
def matchHelp (rest : List Char) : Word :=
  let letters := if rest.head? = some '=' then rest.tail else rest
  if rest.isEmpty || (!letters.isEmpty && letters.all (· = 'h')) then .flag helpFlag none
  else .flag helpFlag (some (String.ofList rest))

/-- What a word behind a dash is: an option if there is a second dash, help if it begins with its
letter. -/
def matchDash (known : List Flag) : List Char → Word
  | '-' :: rest => matchFlag known ('-' :: '-' :: rest)
  | 'h' :: rest => matchHelp rest
  | _ => .unknown

/-- What a word is for a command with some options. -/
def classify (flags : List Flag) (word : String) : Word :=
  let known := helpFlag :: flags
  match known.find? (·.name = word), word.toList with
  | some flag, _ => .flag flag none
  | none, '-' :: c :: rest =>
    match matchDash known (c :: rest) with
    | .unknown =>
      if isNegativeNumber ('-' :: c :: rest) || (c :: rest).contains ' ' then .plain word
      else .unknown
    | w => w
  | none, _ => .plain word

/-- What the words of a command line are.  Behind two lone dashes every word is plain. -/
def classifyAll (flags : List Flag) : List String → List Word
  | [] => []
  | word :: rest =>
    if word = "--" then .unknown :: rest.map .plain
    else classify flags word :: classifyAll flags rest

/-- Sets an option to a value. -/
def Arguments.put (a : Arguments) (flag : Flag) (value : Json) : Arguments :=
  { a with values := (flag.name, value) :: a.values }

/-- What stands behind an equals sign as a value.  Two dashes end the options, so that no value is
left of them. -/
def attachedValue (text : String) : Json :=
  if text = "--" then .arr [] else .str text

/-- The options that some words set.  A word that is no option may only stand before a switch that
asks for help. -/
def collect : Arguments → List Word → Option CommandLine
  | a, [] => some (.accepted a)
  | a, .flag flag (some value) :: rest =>
    if flag.takesValue then collect (a.put flag (attachedValue value)) rest else none
  | a, .flag flag none :: rest =>
    if flag = helpFlag then some .help
    else if flag.takesValue then
      match rest with
      | .plain value :: rest => collect (a.put flag (.str value)) rest
      | _ => none
    else collect { a with switches := flag.name :: a.switches } rest
  | a, _ :: rest =>
    match collect a rest with
    | some .help => some .help
    | _ => none

/-- Whether every option that is required is set. -/
def Arguments.isComplete (a : Arguments) (flags : List Flag) : Bool :=
  flags.all fun flag => !flag.isRequired || (a.value? flag.name).isSome

/-- What a command line asks for. -/
def parse (flags : List Flag) (words : List String) : CommandLine :=
  let classified := classifyAll flags words
  if classified.contains .ambiguous then .refused
  else
    match collect .empty classified with
    | some (.accepted a) => if a.isComplete flags then .accepted a else .refused
    | some line => line
    | none => .refused

/-- An option as it stands in the help. -/
def Flag.describe (flag : Flag) : String :=
  "  " ++ flag.name ++ (if flag.takesValue then " VALUE" else "")
    ++ (if flag.isRequired then " (required)" else "")

/-- The options of a command, one a line. -/
def helpText (flags : List Flag) : String :=
  "options:\n" ++ String.join ((helpFlag :: flags).map fun flag => flag.describe ++ "\n")

end Paymaster.Command
