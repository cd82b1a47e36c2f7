import LooseEquality.Proofs.Text.Slice
import LooseEquality.Proofs.Token.Scan

/-!
# Cutting a script by offsets

`Token.scan` goes on with the characters that are left and always knows what follows.  The same
work can be done over an array of bytes: there a loop draws characters together with their offsets,
looks ahead by a slice of the whole text, and measures a token by the offset of the character that
the loop would draw next.  Each of these steps can go out of bounds.

* `Checked.places` — the characters of a text and their offsets;
* `Checked.first?` — what the loop does for one token;
* `Checked.scan?` — the loop, with the tokens as marks: a form and a span, and no text.

**`scan?_eq`** says that the loop never goes out of bounds, and that its marks are those of the
tokens of `Token.scan`.  The invariant of the loop is that the characters not drawn yet carry the
offsets they have in the text.
-/

namespace LooseEquality

/-- A token without its text. -/
abbrev Mark := Spanned Token.Form

/-- A token, told by its form and its place. -/
def Token.mark (t : Token) : Mark := ⟨t.form, t.span⟩

namespace Checked

/-- The characters of a text with their offsets, if the first has the given offset. -/
def places (offset : Nat) : List Char → List (Nat × Char)
  | [] => []
  | c :: cs => (offset, c) :: places (offset + c.utf8Size) cs

section Loop

variable (text : List Char)

/-- Whether a character starts an operator.  What follows it is looked up by a slice. -/
def startsOperator? (i : Nat) (c : Char) : Option Bool :=
  if c = '=' ∨ c = '!' then (Text.behind? (i + 1) text).map fun after => after.head? == some '='
  else some false

/-- Whether a word cannot go on with a character. -/
def endsWord? (i : Nat) (c : Char) : Option Bool :=
  if Text.isBlank c || c == ';' || c == '"' then some true else startsOperator? text i c

/-- The places behind a word. -/
def skipWord? : List (Nat × Char) → Option (List (Nat × Char))
  | [] => some []
  | (i, c) :: ps =>
    (endsWord? text i c).bind fun ends => if ends then some ((i, c) :: ps) else skipWord? ps

/-- The places behind a string whose opening quote stands before them, and whether it is closed. -/
def skipQuoted : List (Nat × Char) → Token.Form × List (Nat × Char)
  | [] => (.unterminated, [])
  | (i, c) :: ps =>
    if c = '\n' then (.unterminated, (i, c) :: ps)
    else if c = '"' then (.quoted, ps)
    else skipQuoted ps

/-- The form of the token that starts with a character, and the places behind it. -/
def first? (i : Nat) (c : Char) (ps : List (Nat × Char)) :
    Option (Token.Form × List (Nat × Char)) :=
  if c = '\n' then some (.newline, ps)
  else if c = ';' then some (.semicolon, ps)
  else (startsOperator? text i c).bind fun starts =>
    if starts then some (.operator (if c = '=' then .equal else .notEqual), ps.drop 1)
    else if c = '"' then some (skipQuoted ps)
    else (skipWord? text ps).map fun rest => (.word, rest)

/-- The offset of the next character to be drawn, or else the end of the text. -/
def nextOffset : List (Nat × Char) → Nat
  | [] => Text.byteLength text
  | (i, _) :: _ => i

lemma length_skipWord? {ps rest : List (Nat × Char)} (h : skipWord? text ps = some rest) :
    rest.length ≤ ps.length := by
  induction ps with
  | nil => cases h; rfl
  | cons p ps ih =>
    simp only [skipWord?, Option.bind_eq_some_iff] at h
    obtain ⟨ends, -, h⟩ := h
    split at h
    · cases h
      rfl
    · exact (ih h).trans (Nat.le_succ _)

lemma length_skipQuoted (ps : List (Nat × Char)) : (skipQuoted ps).2.length ≤ ps.length := by
  induction ps with
  | nil => rfl
  | cons p ps ih =>
    simp only [skipQuoted]
    split
    · rfl
    · split
      · exact Nat.le_succ _
      · exact ih.trans (Nat.le_succ _)

lemma length_first? {i : Nat} {c : Char} {ps rest : List (Nat × Char)} {form : Token.Form}
    (h : first? text i c ps = some (form, rest)) : rest.length ≤ ps.length := by
  simp only [first?] at h
  split at h
  · cases h; rfl
  split at h
  · cases h; rfl
  obtain ⟨starts, -, h⟩ := Option.bind_eq_some_iff.1 h
  split at h
  · cases h
    simp
  split at h
  · have hskip := length_skipQuoted ps
    rwa [Option.some.inj h] at hskip
  · obtain ⟨rest', hskip, h⟩ := Option.map_eq_some_iff.1 h
    cases h
    exact length_skipWord? text hskip

/-- The marks of the tokens from the places on. -/
def scanFrom? : List (Nat × Char) → Option (List Mark)
  | [] => some []
  | (start, c) :: ps =>
    if Token.isGap c then scanFrom? ps
    else
      match _h : first? text start c ps with
      | none => none
      | some (form, rest) =>
        (Text.distance? start (nextOffset text rest)).bind fun length =>
          (scanFrom? rest).map (⟨form, ⟨start, length⟩⟩ :: ·)
termination_by ps => ps.length
decreasing_by
  · simp
  · exact Nat.lt_succ_of_le (length_first? text ‹_›)

end Loop

/-- The marks of the tokens of a script. -/
def scan? (script : String) : Option (List Mark) :=
  scanFrom? script.toList (places 0 script.toList)

/-! ## One token

`done` is what has been drawn from the text so far. -/

lemma startsOperator?_eq (done : List Char) (c : Char) (cs : List Char) :
    startsOperator? (done ++ c :: cs) (Text.byteLength done) c
      = some (Token.operatorAt? c cs).isSome := by
  unfold startsOperator?
  split
  · next hc =>
    have hsize : Text.byteLength (done ++ [c]) = Text.byteLength done + 1 := by
      rcases hc with rfl | rfl <;> simp <;> rfl
    have hbehind : Text.behind? (Text.byteLength done + 1) (done ++ c :: cs) = some cs := by
      rw [← hsize, List.append_cons done c cs, Text.behind?_append]
    rw [hbehind, Option.map_some]
    congr 1
    rw [Bool.eq_iff_iff, Token.operatorAt?_isSome_iff]
    cases cs with
    | nil => simp [Token.StartsOperator]
    | cons d cs => simp [Token.StartsOperator, hc]
  · next hc =>
    congr 1
    symm
    rw [Bool.eq_false_iff, Ne, Token.operatorAt?_isSome_iff]
    exact fun h => hc h.1

lemma endsWord?_eq (done : List Char) (c : Char) (cs : List Char) :
    endsWord? (done ++ c :: cs) (Text.byteLength done) c = some (Token.endsWord c cs) := by
  unfold endsWord? Token.endsWord
  split
  · next h => simp [h]
  · next h => simp [startsOperator?_eq, h]

lemma skipWord?_eq (done cs : List Char) :
    skipWord? (done ++ cs) (places (Text.byteLength done) cs)
      = some (places (Text.byteLength (done ++ Token.wordTail cs))
          (cs.drop (Token.wordTail cs).length)) := by
  induction cs generalizing done with
  | nil => simp [places, skipWord?, Token.wordTail]
  | cons c cs ih =>
    rw [places, skipWord?, endsWord?_eq, Option.bind_some, Token.wordTail]
    split
    · simp [places]
    · have hrest := ih (done ++ [c])
      simpa using hrest

lemma quotedTail_cons {c : Char} (h : Token.continuesQuote c = true) (cs : List Char) :
    Token.quotedTail (c :: cs) = ((Token.quotedTail cs).1, c :: (Token.quotedTail cs).2) := by
  simp only [Token.quotedTail, List.takeWhile_cons_of_pos h, List.dropWhile_cons_of_pos h]
  split <;> rfl

lemma skipQuoted_eq (offset : Nat) (cs : List Char) :
    skipQuoted (places offset cs)
      = ((Token.quotedTail cs).1, places (offset + Text.byteLength (Token.quotedTail cs).2)
          (cs.drop (Token.quotedTail cs).2.length)) := by
  induction cs generalizing offset with
  | nil => simp [places, skipQuoted, Token.quotedTail]
  | cons c cs ih =>
    rw [places, skipQuoted]
    split
    · next hc =>
      subst hc
      simp [places, Token.quotedTail, Token.continuesQuote]
    · split
      · next hc =>
        subst hc
        simp [Token.quotedTail, Token.continuesQuote]
      · next hnewline hquote =>
        rw [ih, quotedTail_cons (Token.continuesQuote_iff.2 ⟨hquote, hnewline⟩)]
        simp [Nat.add_assoc]

/-- **One token.**  The loop finds the form of the token, and has drawn its characters. -/
theorem first?_eq (done : List Char) (c : Char) (cs : List Char) :
    first? (done ++ c :: cs) (Text.byteLength done) c (places (Text.byteLength (done ++ [c])) cs)
      = some ((Token.first c cs).1, places (Text.byteLength (done ++ c :: (Token.first c cs).2))
          (cs.drop (Token.first c cs).2.length)) := by
  unfold first? Token.first
  split
  · rfl
  split
  · rfl
  rw [startsOperator?_eq, Option.bind_some]
  by_cases hquote : c = '"'
  · subst hquote
    rw [skipQuoted_eq]
    simp [Token.operatorAt?, Nat.add_assoc]
  cases hop : Token.operatorAt? c cs with
  | some op =>
    simp only [Token.operatorAt?] at hop
    split at hop <;> cases hop <;> simp [places, Nat.add_assoc]
  | none =>
    have hword := skipWord?_eq (done ++ [c]) cs
    rw [List.append_assoc done, List.append_assoc done, List.singleton_append,
      List.singleton_append] at hword
    simp only [Option.isSome_none, Bool.false_eq_true, if_false, if_neg hquote, hword,
      Option.map_some]

lemma nextOffset_places (done cs : List Char) :
    nextOffset (done ++ cs) (places (Text.byteLength done) cs) = Text.byteLength done := by
  cases cs with
  | nil => simp [places, nextOffset]
  | cons c cs => rfl

/-! ## The loop -/

/-- From any place on, the loop finds the tokens that the scan finds. -/
theorem scanFrom?_eq (done cs : List Char) :
    scanFrom? (done ++ cs) (places (Text.byteLength done) cs)
      = some ((Token.scanFrom (Text.byteLength done) cs).map Token.mark) := by
  induction done, cs using Token.scan_induction with
  | nil done => rw [places, scanFrom?, Token.scanFrom_nil, List.map_nil]
  | gap done c cs hc ih =>
    have hlen : Text.byteLength (done ++ [c]) = Text.byteLength done + c.utf8Size := by simp
    rw [places, scanFrom?, if_pos hc, Token.scanFrom_gap hc, ← hlen, List.append_cons done c cs]
    exact ih
  | token done c cs hc ih =>
    have hlen : Text.byteLength (done ++ [c]) = Text.byteLength done + c.utf8Size := by simp
    have hnext := nextOffset_places (done ++ c :: (Token.first c cs).2)
      (cs.drop (Token.first c cs).2.length)
    rw [Token.append_first done hc] at ih hnext
    rw [places, scanFrom?, ← hlen, Token.scanFrom_token hc, ← Text.byteLength_append]
    simp only [hc, Bool.false_eq_true, if_false]
    split
    · next h =>
      rw [first?_eq] at h
      cases h
    · next form rest h =>
      rw [first?_eq] at h
      cases h
      rw [hnext, ih, Text.byteLength_append, Text.distance?_add]
      simp [Token.mark, Token.span]

/-- **Offsets never go out of bounds** while a script is cut, and the marks are those of the tokens
that `Token.scan` finds. -/
theorem scan?_eq (script : String) : scan? script = some ((Token.scan script).map Token.mark) :=
  scanFrom?_eq [] script.toList

end Checked
end LooseEquality
