import LooseEquality.Fault
import LooseEquality.Token

/-!
# Flaws of scripts

Why a list of tokens is no script.  A flaw names what the grammar asked for and what stood there
instead, and the span where it stood; the end of the text has a span too, an empty one.
`Flaw.fault` puts it into words.
-/

namespace LooseEquality
namespace Script

/-- What the grammar asks for at some point of a script. -/
inductive Wanted where
  | kind
  | literal (kind : Kind)
  | operator
  | endOfComparison
  deriving DecidableEq, Repr

/-- What is wrong with a script. -/
inductive Flaw.Cause where
  /-- Something else than was wanted: a token of another form, or the end of the text. -/
  | misplaced (wanted : Wanted) (found : Option Token.Form)
  /-- A word that names no kind, where a kind was wanted. -/
  | unknownKind (name : String)
  /-- A quoted string that is not closed on its line. -/
  | unterminatedString
  deriving DecidableEq, Repr

/-- What is wrong with a script, and where. -/
structure Flaw where
  cause : Flaw.Cause
  span : Span
  deriving DecidableEq, Repr

/-- What is wanted, in words. -/
def Wanted.text : Wanted → String
  | kind => "kind"
  | literal k => k.name ++ " literal"
  | operator => "`==` or `!=`"
  | endOfComparison => "end of comparison"

namespace Flaw

/-- What was found, in words. -/
def foundText : Option Token.Form → String
  | some form => form.label
  | none => "EOF"

/-- The cause of a flaw, in words. -/
def Cause.text : Cause → String
  | misplaced wanted found => "Expected " ++ wanted.text ++ ", got " ++ foundText found
  | unknownKind name => "Unknown kind `" ++ name ++ "`"
  | unterminatedString => "Unterminated string"

/-- A flaw as a fault. -/
def fault (f : Flaw) : Fault := .malformed f.cause.text f.span

/-- The flaw of tokens that do not start with what is wanted.  The text they come from ends at
`stop`.  An unterminated string is reported as such, whatever was wanted in its place. -/
def ofTokens (stop : Nat) (wanted : Wanted) : List Token → Flaw
  | [] => ⟨.misplaced wanted none, ⟨stop, 0⟩⟩
  | t :: _ =>
    if t.form = .unterminated then ⟨.unterminatedString, t.span⟩
    else ⟨.misplaced wanted (some t.form), t.span⟩

end Flaw
end Script

/-- The fault of an unterminated string, told by its token alone. -/
def Token.unterminatedFault (t : Token) : Fault := (Script.Flaw.mk .unterminatedString t.span).fault

end LooseEquality
