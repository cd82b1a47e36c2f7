import LooseEquality.Operator
import LooseEquality.Span
import LooseEquality.Text.Bytes

/-!
# Tokens

The pieces a script is made of: words, quoted strings, operators, and the two separators that end
a comparison.  A token keeps the text it was made from, so a list of tokens is all that later
stages need; the script itself is never consulted again.

A quoted string that is not closed on its line is a token as well.  Cutting a text into tokens
therefore always succeeds, and it is left to the reader of the tokens to object.
-/

namespace LooseEquality

/-- What a token is. -/
inductive Token.Form where
  /-- A bare word: the name of a kind, or a literal without quotes. -/
  | word
  /-- A string in double quotes. -/
  | quoted
  | operator (op : Operator)
  | semicolon
  | newline
  /-- A double quote without a partner on its line, and what follows it there. -/
  | unterminated
  deriving DecidableEq, Repr

/-- A piece of a script: its form, the offset it starts at, and its text, quotes included. -/
structure Token where
  form : Token.Form
  offset : Nat
  text : String
  deriving DecidableEq, Repr

namespace Token

/-- What messages call a token of the form. -/
def Form.label : Form → String
  | word => "Word"
  | quoted => "String"
  | operator .equal => "EqualEqual"
  | operator .notEqual => "BangEqual"
  | semicolon => "Semicolon"
  | newline => "Newline"
  | unterminated => "Unterminated"

/-- Whether tokens of the form end a comparison. -/
def Form.isSeparator : Form → Bool
  | semicolon => true
  | newline => true
  | _ => false

/-- Where the token stands in its script. -/
def span (t : Token) : Span := ⟨t.offset, Text.byteLength t.text.toList⟩

/-- Whether the token ends a comparison. -/
def isSeparator (t : Token) : Bool := t.form.isSeparator

/-- The literal a token stands for: a word as it is, a quoted string without its quotes.  Other
tokens are no literals. -/
def literal? (t : Token) : Option String :=
  match t.form with
  | .word => some t.text
  | .quoted => some (String.ofList (t.text.toList.drop 1).dropLast)
  | _ => none

end Token
end LooseEquality
