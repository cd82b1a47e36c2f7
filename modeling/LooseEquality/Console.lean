import LooseEquality.Console.Conversation
import LooseEquality.Console.Invocation

/-!
# The program as a function

The whole program, from its arguments, the files around it and its standard input to what it
answers.  Apart from the measure of width nothing else takes part in the answer.
-/

namespace LooseEquality

/-- What the program answers, or nothing if its arguments are rejected. -/
def Reply.ofArgs? (args : List String) (folder : Folder) (input : ByteArray)
    (width : List Char → Nat := Text.width) : Option Reply :=
  (Invocation.ofArgs? args).map fun invocation =>
    match invocation.command with
    | .evaluate script => evaluate invocation.truthiness script width
    | .run path => run invocation.truthiness path (folder.read path) width
    | .cases verbose => cases invocation.truthiness verbose width
    | .interactive => interactive invocation.truthiness input width

end LooseEquality
