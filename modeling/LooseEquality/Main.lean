import LooseEquality.Console

/-!
# The program

The only part of the library that acts on the world.  It looks up what the program needs to know,
has `Reply` and `Conversation` decide what to answer, and writes that down.  Text is as wide as
`Text.width` says.
-/

namespace LooseEquality
namespace Program

/-- Write what a reply says, and give its status. -/
def write (reply : Reply) : IO UInt32 := do
  (← IO.getStdout).putStr reply.out
  (← IO.getStdout).flush
  (← IO.getStderr).putStr reply.err
  return reply.status.toUInt32

/-- Why the system would not read a file.  Some of its calls give the code of an error negated. -/
def readFailure : IO.Error → ReadFailure
  | .noFileOrDirectory .. => .missing
  | .inappropriateType file code detail =>
    if code = 20 || code = -20 then .notFolder
    else if code = 21 || code = -21 then .isFolder
    else .other (toString (IO.Error.inappropriateType file code detail))
  | e => .other (toString e)

/-- Read a file. -/
def readFile (path : String) : IO (Except ReadFailure ByteArray) := do
  try
    return .ok (← IO.FS.readBinFile path)
  catch e =>
    return .error (readFailure e)

/-- Answer line after line as they come in.  Each byte and the end of the input come to what they
come to in `Conversation.run`. -/
partial def converse (stdin : IO.FS.Stream) (c : Conversation) : IO UInt32 := do
  match (← stdin.read 1).toList with
  | [] => write (c.finish Text.width)
  | b :: _ =>
    match c.hear b Text.width with
    | .listen next => converse stdin next
    | .answer reply next => do
      let _ ← write reply
      converse stdin next
    | .stop reply => write reply

end Program
end LooseEquality

open LooseEquality in
/-- Carry out what the arguments ask for. -/
def main (args : List String) : IO UInt32 := do
  match Invocation.ofArgs? args with
  | none =>
    IO.eprintln "usage: [--array-truthiness always|non-empty] [eval INPUT | run FILE | cases [-v]]"
    return 2
  | some ⟨truthiness, .evaluate script⟩ => Program.write (.evaluate truthiness script Text.width)
  | some ⟨truthiness, .run path⟩ =>
    Program.write (.run truthiness path (← Program.readFile path) Text.width)
  | some ⟨truthiness, .cases verbose⟩ => Program.write (.cases truthiness verbose Text.width)
  | some ⟨truthiness, .interactive⟩ =>
    Program.converse (← IO.getStdin) (.new truthiness)
