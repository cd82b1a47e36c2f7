import LooseEquality.Location
import LooseEquality.Session.Run

/-!
# Cases

A case pairs a script of one comparison with what has to come of it: an outcome, or a fault with
its message and the place where it is reported.  Verifying a case evaluates its script in a
session and compares; a case that does not hold yields a `Mismatch` that says what came instead.
The column of a fault depends on how wide the text before it is, so verifying takes a measure of
width.
-/

namespace LooseEquality

/-- What is expected of a comparison. -/
inductive Case.Expectation where
  | outcome (o : Outcome)
  | fault (message : String) (location : Location)
  deriving DecidableEq, Repr

/-- A script of one comparison, and what is expected of it. -/
structure Case where
  name : String
  input : String
  expect : Case.Expectation
  deriving DecidableEq, Repr

namespace Case

/-- An expectation in words. -/
def Expectation.text : Expectation → String
  | outcome o => o.text
  | fault message location => "error \"" ++ message ++ "\" at " ++ location.text

/-- A case that does not hold: what was expected and what came of it. -/
structure Mismatch where
  name : String
  input : String
  expected : String
  actual : String
  deriving DecidableEq, Repr

/-- A mismatch in words. -/
def Mismatch.text (m : Mismatch) : String :=
  m.name ++ ": `" ++ m.input ++ "`: expected " ++ m.expected ++ ", got " ++ m.actual

/-- The place where a fault in a text is reported.  A fault without one counts as being before the
first line. -/
def locationOf (f : Fault) (text : String) (width : List Char → Nat) : Location :=
  match f.span? with
  | none => ⟨0, 0⟩
  | some span => (span.location? text width).getD ⟨0, 0⟩

/-- A fault in a text, as something that could have been expected. -/
def Expectation.ofFault (f : Fault) (text : String) (width : List Char → Nat) : Expectation :=
  .fault f.message (locationOf f text width)

/-- The mismatch of a case of which something else came than was expected. -/
def mismatch (c : Case) (actual : String) : Mismatch := ⟨c.name, c.input, c.expect.text, actual⟩

/-- Nothing if what came of a case is what was expected, and the mismatch if not. -/
def judge (c : Case) (actual : Expectation) : Option Mismatch :=
  if actual = c.expect then none else some (c.mismatch actual.text)

/-- Verify a case: nothing if it holds, the mismatch if it does not.  A script with any other number
of comparisons than one is a mismatch whatever is expected, unless it fails. -/
def verify (c : Case) (s : Session) (width : List Char → Nat) : Option Mismatch × Session :=
  match s.runAll c.input with
  | (.error fault, s₁) => (c.judge (.ofFault fault c.input width), s₁)
  | (.ok [o], s₁) => (c.judge (.outcome o), s₁)
  | (.ok os, s₁) => (some (c.mismatch (Numeral.ofNat os.length ++ " comparisons")), s₁)

/-- Verify several cases one after the other in the same session. -/
def verifyAll (s : Session) (cs : List Case) (width : List Char → Nat := Text.width) :
    List (Case × Option Mismatch) × Session :=
  match cs with
  | [] => ([], s)
  | c :: cs =>
    match c.verify s width with
    | (verdict, s₁) =>
      match verifyAll s₁ cs width with
      | (verdicts, s₂) => ((c, verdict) :: verdicts, s₂)

end Case
end LooseEquality
