import LooseEquality.Case.Table
import LooseEquality.Console.Folder
import LooseEquality.Report

/-!
# What the program answers

Each command as a function from what it works on to a `Reply`: what the program writes to its two
outputs, and the status it ends with.

* `Reply.evaluate` — a script from the command line;
* `Reply.run` — a script from a file;
* `Reply.cases` — the case table;
* `Reply.line` — a line among others, in a session that goes on behind it.

Outcomes and the tally of the cases go to the first output, everything about faults to the second.
Evaluating a script ends at its first fault, and the program fails with it.  Among lines a fault is
only reported, and the session goes on.  All of them take the measure of width that reports are
laid out with.
-/

namespace LooseEquality

/-- What the program writes to its two outputs, and the status it ends with. -/
structure Reply where
  status : Nat
  out : String
  err : String
  deriving DecidableEq, Repr

namespace Reply

/-- The reply of a program that has nothing to say. -/
def nothing : Reply := ⟨0, "", ""⟩

/-- The status of a program that fails. -/
def failed : Nat := 1

/-- The status of a program that gives up because a report cannot be laid out. -/
def aborted : Nat := 101

/-- Text as lines, each with its end. -/
def lines (texts : List String) : String := String.join (texts.map (· ++ "\n"))

/-- How a program that fails says why. -/
def errorLine (message : String) : String := "Error: " ++ message ++ "\n"

/-- The reply of a program that fails before it has written anything. -/
def failure (message : String) : Reply := ⟨failed, "", errorLine message⟩

/-- One reply followed by another, unless it ends the program. -/
def followedBy (r s : Reply) : Reply :=
  if r.status = 0 then ⟨s.status, r.out ++ s.out, r.err ++ s.err⟩ else r

/-- The outcomes in a transcript, a line for each. -/
def outcomeLines (t : Transcript) : String := lines (t.outcomes.map Outcome.text)

/-- The reply to a script that ends the program at its first fault.  The report of that fault
starts with the `origin` of the script. -/
def ofScript (origin text : String) (t : Transcript) (width : List Char → Nat) : Reply :=
  match t.fault with
  | none => ⟨0, outcomeLines t, ""⟩
  | some fault =>
    match fault.describe? text width with
    | some report => ⟨failed, outcomeLines t, errorLine (origin ++ report)⟩
    | none => ⟨aborted, outcomeLines t, ""⟩

/-- The reply to a line among others, where a fault is only reported. -/
def ofLine (text : String) (t : Transcript) (width : List Char → Nat) : Reply :=
  match t.fault with
  | none => ⟨0, outcomeLines t, ""⟩
  | some fault =>
    match fault.describe? text width with
    | some report => ⟨0, outcomeLines t, lines [report]⟩
    | none => ⟨aborted, outcomeLines t, ""⟩

/-- Evaluate a script. -/
def evaluate (truthiness : Truthiness) (script : String) (width : List Char → Nat) : Reply :=
  ofScript "" script ((Session.new truthiness).run script).1 width

/-- Evaluate the script in a file, given its path and what came of reading it. -/
def run (truthiness : Truthiness) (path : String) (contents : Except ReadFailure ByteArray)
    (width : List Char → Nat) : Reply :=
  match contents with
  | .error reason => failure reason.message
  | .ok bytes =>
    match String.fromUTF8? bytes with
    | none => failure ReadFailure.notText.message
    | some script =>
      ofScript (path ++ ": ") script ((Session.new truthiness).run script).1 width

/-- How a case that holds is listed. -/
def heldLine (c : Case) : String := "ok " ++ c.name ++ ": " ++ c.input

/-- How a case that does not hold is listed. -/
def mismatchLine (m : Case.Mismatch) : String := "FAILED " ++ m.text

/-- Verify a table of cases.  The cases that hold are listed on request, those that do not always
are. -/
def ofCases (truthiness : Truthiness) (table : List Case) (verbose : Bool)
    (width : List Char → Nat) : Reply :=
  let verdicts := (Case.verifyAll (Session.new truthiness) table width).1
  let mismatches := verdicts.filterMap Prod.snd
  let held := (verdicts.filter fun verdict => verdict.2.isNone).map Prod.fst
  let listing := if verbose then lines (held.map heldLine) else ""
  let complaints := lines (mismatches.map mismatchLine)
  let total := Numeral.ofNat table.length
  if mismatches.isEmpty then ⟨0, listing ++ lines [total ++ " cases passed"], complaints⟩
  else
    ⟨failed, listing, complaints ++
      errorLine (Numeral.ofNat mismatches.length ++ " of " ++ total ++ " cases failed")⟩

/-- Verify the standard case table. -/
def cases (truthiness : Truthiness) (verbose : Bool) (width : List Char → Nat) : Reply :=
  ofCases truthiness CaseTable.standard verbose width

/-- Evaluate one line in a session. -/
def line (s : Session) (text : String) (width : List Char → Nat) : Reply × Session :=
  match s.run text with
  | (transcript, s₁) => (ofLine text transcript width, s₁)

end Reply
end LooseEquality
