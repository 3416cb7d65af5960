import Paymaster.Command.PayFee

/-!
# The command line

The first word names the command and the others are its options.  What the server answers stands
on the input, one reply a line; a command that reads a transaction takes it from the line before.
What the command prints goes out, and its exit code becomes that of the process.
-/

namespace Paymaster.Command

open Rpc

/-- A time in whole seconds; what is no number counts as zero. -/
def clockOfText (text : Option String) : Clock :=
  .whole ((text.bind String.toInt?).getD 0)

/-- A line of the input as a reply. -/
def replyOfLine (line : String) : Response :=
  .body (Text.Encoding.encodeUtf8 line.toList)

/-- Runs the command that the first word names, on the lines of the input. -/
def dispatch [Stack] (stream : Stream) (words lines : List String) (clock : Clock) : Result :=
  match words with
  | "show-config" :: options => ShowConfig.run stream options (lines.map replyOfLine) clock
  | "pay-fee" :: options =>
    PayFee.run stream options (lines.headD "") (lines.tail.map replyOfLine) clock
  | _ => .refused "commands: show-config, pay-fee\n"

/-- The exit code of a process that has run a command: an error that the command does not handle
counts as one. -/
def Result.exitCode (r : Result) : UInt32 :=
  match r.ending with
  | .ok code => UInt32.ofNat code
  | .error _ => 1

/-- What goes out where errors go: what the command has printed there, and the error that it does
not handle. -/
def Result.complaints (r : Result) : Text :=
  match r.ending with
  | .ok _ => r.errors
  | .error e => r.errors ++ e.message ++ "\n"

/-- A text as a terminal shows it: half of a pair, which has no bytes, stands there by its number. -/
def terminalText (text : Text) : String :=
  String.ofList <| text.points.flatMap fun p =>
    match p.char? with
    | some c => [c]
    | none => Text.escapedCodePoint p

end Paymaster.Command

open scoped Paymaster.Stack in
/-- Runs a command on the lines of the input.  What it prints goes out as bytes. -/
def main (words : List String) : IO UInt32 := do
  let input ← (← IO.getStdin).readToEnd
  let clock := Paymaster.Command.clockOfText (← IO.getEnv "PAYMASTER_TIME")
  let result :=
    Paymaster.Command.dispatch (.bytes .unicode) words (input.splitOn "\n") clock
  IO.print (Paymaster.Command.terminalText result.output)
  IO.eprint (Paymaster.Command.terminalText result.complaints)
  return result.exitCode
