import LooseEquality.Numeral
import LooseEquality.Script

/-!
# Outlines of scripts

A script written out on one line with everything that was read: each part with its span, in the
form `Node@offset+length(part)`.  Outlines are for looking at what the reader made of a text, so
nothing is left out and literals are quoted.
-/

namespace LooseEquality
namespace Outline

/-- A character inside a quoted literal.  Backslashes, quotes and the characters that would break
the line are escaped. -/
def escaped : Char → List Char
  | '\\' => ['\\', '\\']
  | '"' => ['\\', '"']
  | '\n' => ['\\', 'n']
  | '\r' => ['\\', 'r']
  | '\t' => ['\\', 't']
  | '\x00' => ['\\', '0']
  | c => [c]

/-- A text in quotes. -/
def quoted (text : String) : String :=
  "\"" ++ String.ofList (text.toList.flatMap escaped) ++ "\""

/-- A record: its name, and its fields with their contents. -/
def record (name : String) (fields : List (String × String)) : String :=
  let contents := fields.map fun field => field.1 ++ ": " ++ field.2
  name ++ " \x7b " ++ String.intercalate ", " contents ++ " \x7d"

/-- A part of a script with its span around it. -/
def node {α : Type} (outline : α → String) (x : Spanned α) : String :=
  "Node@" ++ Numeral.ofNat x.span.offset ++ "+" ++ Numeral.ofNat x.span.length
    ++ "(" ++ outline x.val ++ ")"

def kind : Kind → String
  | .null => "Null"
  | .boolean => "Boolean"
  | .integer => "Integer"
  | .real => "Real"
  | .string => "String"
  | .array => "Array"

def operator : Operator → String
  | .equal => "Equal"
  | .notEqual => "NotEqual"

def literal : Option String → String
  | none => "None"
  | some text => "Some(" ++ quoted text ++ ")"

def operand (o : Operand) : String :=
  record "Operand" [("kind", kind o.kind), ("literal", literal o.literal)]

def comparison (c : Comparison) : String :=
  record "Comparison" [("op", node operator c.op), ("lhs", node operand c.lhs),
    ("rhs", node operand c.rhs)]

end Outline

/-- The outline of a script. -/
def Script.outline (script : Script) : String :=
  Outline.record "Program"
    [("comparisons", "[" ++ String.intercalate ", " (script.map (Outline.node Outline.comparison))
      ++ "]")]

end LooseEquality
