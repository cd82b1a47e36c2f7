import LooseEquality.Numeral
import LooseEquality.Span
import LooseEquality.Text.Bytes
import LooseEquality.Text.Line
import LooseEquality.Text.Width

/-!
# Spans in a text

What a span looks like to somebody who reads the text: the text it covers (`Span.extract?`), the
line and column where it starts (`Span.location?`), and a picture of the line with the span
underlined (`Span.highlight?`).

Lines and columns are counted from one, and columns are terminal cells, so that the carets of a
highlight stand under what they point at also behind wide characters.  How many cells a text takes
up is for the terminal to say.  So the measure is a parameter, the last one of all functions that
need it, and nothing is asked of it; the program itself measures with `Text.width`.

A span comes without its text, so it need not fit the text it is shown in: it may end behind it or
cut a character in two.  Then there is nothing to show, and the three functions say `none`.  They
differ in how much of the span they look at.  A location is about the start alone; a highlight
stops at the end of the line.

Offsets are machine words.  Where a highlight ends is found by a sum (`Span.stop?`) before it is cut
off at the end of the line, and this sum can be too big for a word.
-/

namespace LooseEquality

/-- A place in a text: line and column, both counted from one. -/
structure Location where
  line : Nat
  column : Nat
  deriving DecidableEq, Repr

/-- A place as reports write it. -/
def Location.text (l : Location) : String := Numeral.ofNat l.line ++ ":" ++ Numeral.ofNat l.column

/-- The place between two parts of a text, told by the part before it. -/
def Location.after (before : List Char) (width : List Char → Nat) : Location where
  line := Text.lineFeeds before + 1
  column := width (Text.lastLine before) + 1

namespace Span

/-- The text a span covers. -/
def extract? (s : Span) (text : String) : Option String :=
  match Text.splitAtByte? s.offset text.toList with
  | none => none
  | some (_, after) =>
    (Text.splitAtByte? s.length after).map fun parts => String.ofList parts.1

/-- The place where a span starts. -/
def location? (s : Span) (text : String) (width : List Char → Nat := Text.width) :
    Option Location :=
  (Text.splitAtByte? s.offset text.toList).map fun parts => .after parts.1 width

/-- The widest run of spaces or carets that a highlight can draw. -/
def maxRun : Nat := 65535

/-- A run of one character, if it is not too wide to be drawn. -/
def run? (c : Char) (n : Nat) : Option (List Char) :=
  if n ≤ maxRun then some (List.replicate n c) else none

/-- The number of different machine words. -/
def wordCount : Nat := 1 <<< 64

/-- The offset right behind a span as a machine word, if it fits one.  An offset inside of the text
always does, as a text has fewer bytes than there are words. -/
def stop? (s : Span) (text : List Char) : Option Nat :=
  if s.stop < wordCount ∨ s.stop ≤ Text.byteLength text then some s.stop else none

/-- The part of a line that a span covers, given the line from the start of the span on.  A span
that goes on behind the line covers all of it. -/
def covered? (s : Span) (restOfLine : List Char) : Option (List Char) :=
  (Text.splitAtByte? (min s.length (Text.byteLength restOfLine)) restOfLine).map Prod.fst

/-- The line in which a span starts, with its number in front, and carets on a second line under
the part of it that the span covers.  There is always a caret, also under an empty span.  There is
no highlight of a span whose end is no machine word, even if its line ends much sooner. -/
def highlight? (s : Span) (text : String) (width : List Char → Nat := Text.width) :
    Option String :=
  match Text.splitAtByte? s.offset text.toList, s.stop? text.toList with
  | some (before, after), some _ =>
    let left := Text.lastLine before
    let right := Text.firstLine after
    let number := Numeral.digits (Text.lineFeeds before + 1)
    match covered? s right with
    | none => none
    | some marked =>
      match run? ' ' (width left), run? '^' (max 1 (width marked)) with
      | some margin, some carets =>
        some <| String.ofList <|
          number ++ [':', ' '] ++ (left ++ right) ++ ['\n']
            ++ List.replicate (number.length + 2) ' ' ++ margin ++ carets
      | _, _ => none
  | _, _ => none

end Span
end LooseEquality
