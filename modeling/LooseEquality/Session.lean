import LooseEquality.Equality
import LooseEquality.Literal
import LooseEquality.Script
import LooseEquality.Text.Alphabetic

/-!
# Sessions

Scripts are evaluated in a session.  What a session remembers from one comparison to the next is
its arrays: a name stands for the same array as long as the session lasts, and an array comes into
being, empty, when its name is first used.  The name `[]` is not remembered; it stands for a new
array every time.

* `Session.operand` — the value an operand denotes;
* `Session.comparison` — the outcome of one comparison;
* `Session.outcomes` — all outcomes of a script, or the fault that stopped it;
* `Session.transcript` — the outcomes up to the fault that stopped a script, and the fault.

An operand that denotes nothing leaves the session as it was, which is why `Session.operand` has no
session to return along with a fault.  A comparison may leave a trace even if it fails: by the time
its right operand turns out to be bad, its left operand may have brought an array into being.
-/

namespace LooseEquality

/-- The state in which scripts are evaluated: how arrays count in comparisons with booleans, the
contents of all arrays, and the names that stand for arrays. -/
structure Session where
  truthiness : Truthiness
  heap : Heap
  names : List (String × ArrayRef)
  deriving DecidableEq

/-- The outcome of a comparison, with the kinds of its operands. -/
structure Outcome where
  result : Bool
  lhs : Kind
  rhs : Kind
  deriving DecidableEq, Repr

/-- How `true` and `false` are written. -/
def Outcome.resultText (b : Bool) : String := if b then "true" else "false"

/-- An outcome on one line. -/
def Outcome.text (o : Outcome) : String :=
  resultText o.result ++ " (" ++ o.lhs.name ++ ", " ++ o.rhs.name ++ ")"

/-- What became of a script: the outcomes of its comparisons up to the first that failed, and the
fault of that one. -/
structure Transcript where
  outcomes : List Outcome
  fault : Option Fault
  deriving DecidableEq, Repr

/-- A transcript with one more outcome in front. -/
def Transcript.cons (o : Outcome) (t : Transcript) : Transcript :=
  ⟨o :: t.outcomes, t.fault⟩

namespace Session

/-- A session in which nothing has been evaluated. -/
def new (truthiness : Truthiness) : Session := ⟨truthiness, .empty, []⟩

/-! ## Arrays -/

/-- The name that stands for a new array each time it is used. -/
def anonymous : String := "[]"

/-- Whether a name can be given to an array: it starts with a letter or an underscore. -/
def isArrayName (name : String) : Bool :=
  match name.toList with
  | [] => false
  | c :: _ => Text.isAlphabetic c || c == '_'

/-- Make a new array, without a name. -/
def fresh (s : Session) : ArrayRef × Session :=
  ((s.heap.alloc #[]).1, { s with heap := (s.heap.alloc #[]).2 })

/-- The array that a name stands for, which is made if the name is new. -/
def named (s : Session) (name : String) : ArrayRef × Session :=
  match s.names.lookup name with
  | some a => (a, s)
  | none => (s.fresh.1, { s.fresh.2 with names := (name, s.fresh.1) :: s.names })

/-- The array an array literal denotes. -/
def array (s : Session) (text : String) : Except Fault (ArrayRef × Session) :=
  if text = anonymous then .ok s.fresh
  else if isArrayName text then .ok (s.named text)
  else .error (.invalidLiteral .array text)

/-- Append a value to an array. -/
def push (s : Session) (a : ArrayRef) (v : Value) : Session := { s with heap := s.heap.push a v }

/-! ## Evaluation -/

/-- The value of the given kind that a literal denotes. -/
def literal (s : Session) (kind : Kind) (text : String) : Except Fault (Value × Session) :=
  match kind with
  | .null => .ok (.null, s)
  | .boolean => (Literal.boolean text).map (·, s)
  | .integer => (Literal.integer text).map (·, s)
  | .real => (Literal.real text).map (·, s)
  | .string => .ok (.string text, s)
  | .array => (s.array text).map fun made => (.array made.1, made.2)

/-- The value an operand denotes.  A fault is tied to the operand. -/
def operand (s : Session) (o : Spanned Operand) : Except Fault (Value × Session) :=
  (s.literal o.val.kind o.val.literalText).mapError (Fault.locate o.span)

/-- Evaluate a comparison, from left to right.  That the operands cannot be compared is the fault
of the operator between them. -/
def comparison (s : Session) (c : Spanned Comparison) : Except Fault Outcome × Session :=
  match s.operand c.val.lhs with
  | .error fault => (.error fault, s)
  | .ok (lhs, s₁) =>
    match s₁.operand c.val.rhs with
    | .error fault => (.error fault, s₁)
    | .ok (rhs, s₂) =>
      match Equality.evaluate s₂.truthiness s₂.heap c.val.op.val lhs rhs with
      | .error fault => (.error (fault.locate c.val.op.span), s₂)
      | .ok result => (.ok ⟨result, lhs.kind, rhs.kind⟩, s₂)

/-- Evaluate a script for its outcomes.  If a comparison fails, its fault is all there is, and
nothing behind it is evaluated. -/
def outcomes (s : Session) : Script → Except Fault (List Outcome) × Session
  | [] => (.ok [], s)
  | c :: cs =>
    match s.comparison c with
    | (.error fault, s₁) => (.error fault, s₁)
    | (.ok outcome, s₁) =>
      match s₁.outcomes cs with
      | (rest, s₂) => (rest.map (outcome :: ·), s₂)

/-- Evaluate a script and keep the outcomes of the comparisons before the one that failed. -/
def transcript (s : Session) : Script → Transcript × Session
  | [] => (⟨[], none⟩, s)
  | c :: cs =>
    match s.comparison c with
    | (.error fault, s₁) => (⟨[], some fault⟩, s₁)
    | (.ok outcome, s₁) =>
      match s₁.transcript cs with
      | (rest, s₂) => (rest.cons outcome, s₂)

end Session
end LooseEquality
