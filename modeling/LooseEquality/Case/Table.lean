import LooseEquality.Case

/-!
# The case table

What the rules of comparison come to, spelled out on examples of every pair of kinds.  The table is
given as a list of *facts* such as "`boolean false` equals `integer 0`", and a fact stands for all
the cases that follow from it: one for each operator and, where that makes a difference, one for
each order of the operands.

Cases are numbered through the table, and their names say what is compared with what.

* `Fact.cases` — the cases of one fact;
* `CaseTable.ofFacts` — the cases of several facts, numbered in order;
* `CaseTable.standard` — the table itself.
-/

namespace LooseEquality

/-- Something to be said about two operands. -/
inductive Fact where
  /-- The operands are equal, or they are not.  Equality holds in both orders. -/
  | equality (lhs rhs : Operand) (same : Bool)
  /-- The operands cannot be compared in the given order. -/
  | incomparability (lhs rhs : Operand)
  deriving DecidableEq, Repr

namespace Fact

/-! ## Cases of a fact -/

/-- How the name of a case spells an operator. -/
def operatorName : Operator → String
  | .equal => "equal_to"
  | .notEqual => "not_equal_to"

/-- The name of a case, with its number in the table. -/
def caseName (number : Nat) (op : Operator) (lhs rhs : Operand) : String :=
  "test" ++ Numeral.ofNat number ++ "_" ++ lhs.kind.name ++ "_" ++ operatorName op ++ "_"
    ++ rhs.kind.name

/-- The script of a case. -/
def caseInput (op : Operator) (lhs rhs : Operand) : String :=
  lhs.plainText ++ " " ++ op.symbol ++ " " ++ rhs.plainText

/-- The case that the operator gives the outcome it must, given whether the operands are equal. -/
def outcomeCase (lhs rhs : Operand) (same : Bool) (number : Nat) (op : Operator) : Case where
  name := caseName number op lhs rhs
  input := caseInput op lhs rhs
  expect := .outcome ⟨op.apply same, lhs.kind, rhs.kind⟩

/-- The column of a script in which an operator first stands, counted in bytes from one, and `0` if
it stands nowhere. -/
def columnOf (op : Operator) (input : String) : Nat :=
  match Text.offsetOf? op.symbol.toList input.toList with
  | some offset => offset + 1
  | none => 0

/-- The case that the comparison fails, and that the fault is reported at the operator. -/
def faultCase (lhs rhs : Operand) (number : Nat) (op : Operator) : Case where
  name := caseName number op lhs rhs
  input := caseInput op lhs rhs
  expect := .fault (Fault.incomparable op lhs.kind rhs.kind).message
    ⟨1, columnOf op (caseInput op lhs rhs)⟩

/-- A case for each operator, numbered from the given number on. -/
def forBothOperators (number : Nat) (case : Nat → Operator → Case) : List Case :=
  [case number .equal, case (number + 1) .notEqual]

/-- The cases of a fact, numbered from the given number on.  Operands that are the same would only
give the same cases again in the other order. -/
def cases (number : Nat) : Fact → List Case
  | equality lhs rhs same =>
    forBothOperators number (outcomeCase lhs rhs same) ++
      if lhs = rhs then [] else forBothOperators (number + 2) (outcomeCase rhs lhs same)
  | incomparability lhs rhs => forBothOperators number (faultCase lhs rhs)

end Fact

namespace CaseTable

/-- The cases of several facts, numbered from the given number on. -/
def ofFacts (number : Nat) : List Fact → List Case
  | [] => []
  | fact :: facts =>
    fact.cases number ++ ofFacts (number + (fact.cases number).length) facts

/-! ## The facts

Each pair of kinds is treated once, under the kind that is listed first. -/

def null : Operand := ⟨.null, none⟩
def boolean (literal : String) : Operand := ⟨.boolean, some literal⟩
def integer (literal : String) : Operand := ⟨.integer, some literal⟩
def real (literal : String) : Operand := ⟨.real, some literal⟩
def string (literal : String) : Operand := ⟨.string, some literal⟩
def array (literal : String) : Operand := ⟨.array, some literal⟩

/-- The two operands are equal. -/
def equal (lhs rhs : Operand) : Fact := .equality lhs rhs true

/-- The two operands are not equal. -/
def unequal (lhs rhs : Operand) : Fact := .equality lhs rhs false

/-- The two operands cannot be compared. -/
def incomparable (lhs rhs : Operand) : Fact := .incomparability lhs rhs

/-- Null equals itself and no value of another kind. -/
def nullFacts : List Fact :=
  [equal null null,
   unequal null (boolean "false"),
   unequal null (boolean "true"),
   unequal null (integer "-1"),
   unequal null (integer "0"),
   unequal null (integer "1"),
   unequal null (real "-1.0"),
   unequal null (real "0.0"),
   unequal null (real "1.0"),
   unequal null (string "false"),
   unequal null (string "true"),
   unequal null (string "null"),
   unequal null (array "i")]

/-- Booleans against booleans, by every spelling, and against the later kinds. -/
def booleanFacts : List Fact :=
  [equal (boolean "false") (boolean "False"),
   equal (boolean "true") (boolean "True"),
   equal (boolean "false") (boolean "no"),
   equal (boolean "true") (boolean "yes"),
   equal (boolean "false") (boolean "0"),
   equal (boolean "true") (boolean "1"),
   unequal (boolean "false") (boolean "True"),
   unequal (boolean "true") (boolean "False"),
   unequal (boolean "false") (boolean "yes"),
   unequal (boolean "true") (boolean "no"),
   unequal (boolean "false") (boolean "1"),
   unequal (boolean "true") (boolean "0"),
   equal (boolean "false") (integer "0"),
   unequal (boolean "true") (integer "0"),
   unequal (boolean "false") (integer "1"),
   equal (boolean "true") (integer "1"),
   unequal (boolean "false") (integer "-1"),
   equal (boolean "true") (integer "-1"),
   equal (boolean "false") (real "0"),
   unequal (boolean "true") (real "0"),
   unequal (boolean "false") (real "1"),
   equal (boolean "true") (real "1"),
   unequal (boolean "false") (real "-1"),
   equal (boolean "true") (real "-1"),
   equal (boolean "false") (string "false"),
   equal (boolean "true") (string "true"),
   equal (boolean "true") (array "i"),
   unequal (boolean "false") (array "j")]

/-- Integers against integers and the later kinds. -/
def integerFacts : List Fact :=
  [equal (integer "0") (integer "0"),
   unequal (integer "0") (integer "1"),
   unequal (integer "-1") (integer "1"),
   unequal (integer "-1") (integer "0"),
   unequal (integer "0") (real "0.1"),
   equal (integer "0") (real "0.0"),
   equal (integer "1") (real "1.0"),
   equal (integer "-1") (real "-1.0"),
   unequal (integer "-1") (real "-0.9"),
   equal (integer "0") (string "0"),
   equal (integer "10") (string "10"),
   equal (integer "-10") (string "-10"),
   unequal (integer "0") (string "1"),
   unequal (integer "10") (string "101"),
   unequal (integer "-10") (string "-101"),
   incomparable (integer "0") (array "i")]

/-- Reals against reals and the later kinds.  A real equals no string, not even its own text. -/
def realFacts : List Fact :=
  [equal (real "0") (real "0"),
   unequal (real "0") (real "1"),
   equal (real "0.0") (real "0.0"),
   unequal (real "0.0") (real "0.1"),
   unequal (real "-3.14e5") (real "-31400"),
   unequal (real "0") (string "1"),
   unequal (real "1") (string "0"),
   unequal (real "0.0") (string "0.0"),
   unequal (real "1.234") (string "1.234"),
   unequal (real "0.1") (string "0.0"),
   incomparable (real "0") (array "i")]

/-- Arrays against arrays. -/
def arrayFacts : List Fact :=
  [incomparable (array "i") (array "j")]

/-- All facts of the table. -/
def facts : List Fact := nullFacts ++ booleanFacts ++ integerFacts ++ realFacts ++ arrayFacts

/-- The table of all cases, numbered from one. -/
def standard : List Case := ofFacts 1 facts

end CaseTable
end LooseEquality
