import LooseEquality.Script.Read
import LooseEquality.Session

/-!
# Running texts

A text is run in a session by reading it as a script and evaluating that.  The text is read as a
whole before anything is evaluated, so a text that is no script has no outcomes, and it leaves the
session as it was.
-/

namespace LooseEquality
namespace Session

/-- Run a text, and keep the outcomes before a fault. -/
def run (s : Session) (text : String) : Transcript × Session :=
  match Script.parse text with
  | .error fault => (⟨[], some fault⟩, s)
  | .ok script => s.transcript script

/-- Run a text for its outcomes: all of them, or the fault that is in the way. -/
def runAll (s : Session) (text : String) : Except Fault (List Outcome) × Session :=
  match Script.parse text with
  | .error fault => (.error fault, s)
  | .ok script => s.outcomes script

end Session
end LooseEquality
