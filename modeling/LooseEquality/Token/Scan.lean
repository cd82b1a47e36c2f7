import LooseEquality.Text.Blank
import LooseEquality.Token

/-!
# Cutting a script into tokens

`Token.scan` goes through a script from left to right.  The next character alone decides what kind
of token starts there, with one exception: a `=` or `!` is an operator only if a `=` follows, and
otherwise begins or continues a word like any other character.

* `Token.wordTail`, `Token.quotedTail` — how far a word or a quoted string goes on;
* `Token.first` — the token that starts with a given character;
* `Token.scan` — all tokens of a script.

A token takes nothing beyond its own text: the scan goes on with the characters after it, which is
also why it ends.  Blanks between tokens are dropped, except for the line feed, a token itself.
-/

namespace LooseEquality
namespace Token

/-- The operator that starts with a character, given the characters that follow it. -/
def operatorAt? : Char → List Char → Option Operator
  | '=', '=' :: _ => some .equal
  | '!', '=' :: _ => some .notEqual
  | _, _ => none

/-- Whether a word cannot go on with a character, given the characters that follow it. -/
def endsWord (c : Char) (cs : List Char) : Bool :=
  Text.isBlank c || c == ';' || c == '"' || (operatorAt? c cs).isSome

/-- The part of a text that continues a word: everything up to a character that ends one. -/
def wordTail : List Char → List Char
  | [] => []
  | c :: cs => if endsWord c cs then [] else c :: wordTail cs

/-- Whether a quoted string goes on with a character.  Strings do not span lines. -/
def continuesQuote (c : Char) : Bool := c != '"' && c != '\n'

/-- The part of a text that belongs to a quoted string whose opening quote stands before it, and
whether the string is closed. -/
def quotedTail (cs : List Char) : Form × List Char :=
  let body := cs.takeWhile continuesQuote
  match cs.dropWhile continuesQuote with
  | '"' :: _ => (.quoted, body ++ ['"'])
  | _ => (.unterminated, body)

/-- The form of the token that starts with a character, and the rest of its text, taken from the
characters that follow. -/
def first (c : Char) (cs : List Char) : Form × List Char :=
  if c = '\n' then (.newline, [])
  else if c = ';' then (.semicolon, [])
  else if c = '"' then quotedTail cs
  else match operatorAt? c cs with
    | some op => (.operator op, ['='])
    | none => (.word, wordTail cs)

/-- Whether a character lies between tokens. -/
def isGap (c : Char) : Bool := Text.isBlank c && c != '\n'

/-- The tokens of a text that starts at the given offset. -/
def scanFrom (offset : Nat) : List Char → List Token
  | [] => []
  | c :: cs =>
    if isGap c then scanFrom (offset + c.utf8Size) cs
    else
      let form := (first c cs).1
      let tail := (first c cs).2
      { form, offset, text := String.ofList (c :: tail) } ::
        scanFrom (offset + Text.byteLength (c :: tail)) (cs.drop tail.length)
termination_by cs => cs.length

/-- The tokens of a script. -/
def scan (script : String) : List Token := scanFrom 0 script.toList

theorem scanFrom_nil (offset : Nat) : scanFrom offset [] = [] := by
  rw [scanFrom]

/-- A gap is dropped; its bytes still count. -/
theorem scanFrom_gap {c : Char} (h : isGap c = true) (offset : Nat) (cs : List Char) :
    scanFrom offset (c :: cs) = scanFrom (offset + c.utf8Size) cs := by
  rw [scanFrom, if_pos h]

/-- Every other character starts a token, and the scan goes on behind that token. -/
theorem scanFrom_token {c : Char} (h : isGap c = false) (offset : Nat) (cs : List Char) :
    scanFrom offset (c :: cs) =
      { form := (first c cs).1, offset, text := String.ofList (c :: (first c cs).2) } ::
        scanFrom (offset + Text.byteLength (c :: (first c cs).2))
          (cs.drop (first c cs).2.length) := by
  rw [scanFrom, if_neg (by simp [h])]

end Token
end LooseEquality
