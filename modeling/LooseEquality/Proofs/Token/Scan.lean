import LooseEquality.Proofs.Text.Bytes
import LooseEquality.Token.Scan
import Mathlib.Data.List.TakeWhile

/-!
# Which lists are the tokens of a text

`Token.scan` says how a script is cut into tokens, from left to right.  Here the result is described
without an order of work, by conditions on the finished list.

* `Token.EndsWord` — the characters that cannot be part of a word;
* `Token.Form.Reads` — the texts that tokens of a form have, given what follows them;
* `Token.StandsIn` — a token has its text from the script, and the text is one of its form;
* `Token.Tokenizes` — tokens that stand in a text, in order, with nothing but blanks between them.

**`tokenizes_iff`** says that the tokens of `Token.scan` are one such list and the only one.

Both halves come from one induction along the scan.  Its steps are equivalences, one for each way
the scan goes on: at the end no token is left (`tokenizesFrom_end`), a gap can be skipped
(`tokenizesFrom_gap`), and any other character starts the first of the remaining tokens
(`tokenizesFrom_token`).  The last needs that a form and what follows leave no choice of the text
(`first_of_reads`), which is what longest match amounts to.
-/

namespace LooseEquality
namespace Token

/-! ## Conditions on single tokens -/

/-- A character starts an operator, given what follows it. -/
def StartsOperator (c : Char) (after : List Char) : Prop :=
  (c = '=' ∨ c = '!') ∧ ∃ rest, after = '=' :: rest

/-- A character cannot be part of a word, given what follows it. -/
def EndsWord (c : Char) (after : List Char) : Prop :=
  Text.isBlank c = true ∨ c = ';' ∨ c = '"' ∨ StartsOperator c after

/-- The texts that tokens of a form have, given what follows them in the script.  A word goes on as
long as it can; a string that is not closed goes on to the end of its line. -/
def Form.Reads : Form → List Char → List Char → Prop
  | newline, text, _ => text = ['\n']
  | semicolon, text, _ => text = [';']
  | operator op, text, _ => text = op.symbol.toList
  | quoted, text, _ =>
    ∃ body, text = '"' :: (body ++ ['"']) ∧ ∀ c ∈ body, c ≠ '"' ∧ c ≠ '\n'
  | unterminated, text, after =>
    (∃ body, text = '"' :: body ∧ ∀ c ∈ body, c ≠ '"' ∧ c ≠ '\n') ∧
      (after = [] ∨ ∃ rest, after = '\n' :: rest)
  | word, text, after =>
    (∀ front c back, text = front ++ c :: back → ¬ EndsWord c (back ++ after)) ∧
      ∀ c rest, after = c :: rest → EndsWord c rest

/-- The token has its text, which is not empty, from its place in the script. -/
def StandsIn (t : Token) (script : List Char) : Prop :=
  ∃ before after, script = before ++ t.text.toList ++ after ∧ Text.byteLength before = t.offset ∧
    t.text.toList ≠ [] ∧ t.form.Reads t.text.toList after

/-- The place right after `n` bytes is inside the token. -/
def Covers (t : Token) (n : Nat) : Prop := t.offset ≤ n ∧ n < t.span.stop

/-- The tokens of a text from a place on: they stand in the text, one behind the other, and each
character outside of them is a blank other than a line feed. -/
structure TokenizesFrom (start : Nat) (script : List Char) (ts : List Token) : Prop where
  le_offset : ∀ t ∈ ts, start ≤ t.offset
  standsIn : ∀ t ∈ ts, t.StandsIn script
  ordered : ts.Pairwise fun s t => s.span.stop ≤ t.offset
  gaps : ∀ before c after, script = before ++ c :: after → start ≤ Text.byteLength before →
    (∀ t ∈ ts, ¬ t.Covers (Text.byteLength before)) → Text.isBlank c = true ∧ c ≠ '\n'

/-- The tokens of a script. -/
def Tokenizes (script : String) (ts : List Token) : Prop := TokenizesFrom 0 script.toList ts

/-! ## Words -/

lemma operatorAt?_isSome_iff {c : Char} {cs : List Char} :
    (operatorAt? c cs).isSome = true ↔ StartsOperator c cs := by
  unfold operatorAt? StartsOperator
  split
  · simp
  · simp
  · next hequal hnotEqual =>
    simp only [Option.isSome_none, Bool.false_eq_true, false_iff]
    rintro ⟨rfl | rfl, rest, rfl⟩
    · exact hequal rest rfl rfl
    · exact hnotEqual rest rfl rfl

lemma endsWord_iff {c : Char} {cs : List Char} : endsWord c cs = true ↔ EndsWord c cs := by
  simp only [endsWord, EndsWord, Bool.or_eq_true, beq_iff_eq, operatorAt?_isSome_iff, or_assoc]

/-- Words one character at a time. -/
lemma reads_word_cons {c : Char} {text after : List Char} :
    Form.word.Reads (c :: text) after ↔
      ¬ EndsWord c (text ++ after) ∧ Form.word.Reads text after := by
  constructor
  · rintro ⟨hin, hafter⟩
    refine ⟨hin [] c text rfl, ?_, hafter⟩
    intro front d back h
    exact hin (c :: front) d back (by rw [h, List.cons_append])
  · rintro ⟨hc, hin, hafter⟩
    refine ⟨?_, hafter⟩
    intro front d back h
    cases front with
    | nil =>
      obtain ⟨rfl, rfl⟩ := List.cons.inj h
      exact hc
    | cons e front =>
      rw [List.cons_append] at h
      exact hin front d back (List.cons.inj h).2

lemma wordTail_append_drop (cs : List Char) : wordTail cs ++ cs.drop (wordTail cs).length = cs := by
  induction cs with
  | nil => rfl
  | cons c cs ih =>
    rw [wordTail]
    split
    · rfl
    · simpa using ih

/-- A word goes on as far as `wordTail` says. -/
lemma reads_wordTail (cs : List Char) :
    Form.word.Reads (wordTail cs) (cs.drop (wordTail cs).length) := by
  induction cs with
  | nil => exact ⟨by simp [wordTail], by simp [wordTail]⟩
  | cons c cs ih =>
    rw [wordTail]
    split
    · next h =>
      refine ⟨by simp, ?_⟩
      intro d rest heq
      obtain ⟨rfl, rfl⟩ := List.cons.inj heq
      exact endsWord_iff.1 h
    · next h =>
      refine reads_word_cons.2 ⟨?_, ih⟩
      rw [List.length_cons, List.drop_succ_cons, wordTail_append_drop]
      exact mt endsWord_iff.2 h

/-- A word goes on no farther than `wordTail` says, and no less. -/
lemma wordTail_of_reads {text after : List Char} (h : Form.word.Reads text after) :
    wordTail (text ++ after) = text := by
  induction text with
  | nil =>
    cases after with
    | nil => rfl
    | cons c rest => rw [List.nil_append, wordTail, if_pos (endsWord_iff.2 (h.2 c rest rfl))]
  | cons c text ih =>
    obtain ⟨hc, htext⟩ := reads_word_cons.1 h
    rw [List.cons_append, wordTail, if_neg (mt endsWord_iff.1 hc), ih htext]

/-! ## Strings -/

lemma continuesQuote_iff {c : Char} : continuesQuote c = true ↔ c ≠ '"' ∧ c ≠ '\n' := by
  simp [continuesQuote]

/-- Where the inside of a quoted string ends, and what follows it there. -/
lemma takeWhile_continuesQuote {body : List Char} (hbody : ∀ c ∈ body, c ≠ '"' ∧ c ≠ '\n')
    (rest : List Char) (hrest : ∀ c cs, rest = c :: cs → continuesQuote c = false) :
    (body ++ rest).takeWhile continuesQuote = body ∧
      (body ++ rest).dropWhile continuesQuote = rest := by
  have hall : ∀ c ∈ body, continuesQuote c = true := by
    intro c hc
    exact continuesQuote_iff.2 (hbody c hc)
  rw [List.takeWhile_append_of_pos hall, List.dropWhile_append_of_pos hall]
  cases rest with
  | nil => simp
  | cons c cs => simp [hrest c cs rfl]

lemma quotedTail_closed {body : List Char} (hbody : ∀ c ∈ body, c ≠ '"' ∧ c ≠ '\n')
    (after : List Char) : quotedTail (body ++ '"' :: after) = (.quoted, body ++ ['"']) := by
  have hstops : ∀ c cs, '"' :: after = c :: cs → continuesQuote c = false := by
    intro c cs h
    obtain ⟨rfl, rfl⟩ := List.cons.inj h
    rfl
  obtain ⟨htake, hdrop⟩ := takeWhile_continuesQuote hbody ('"' :: after) hstops
  simp only [quotedTail, htake, hdrop]

lemma quotedTail_open {body : List Char} (hbody : ∀ c ∈ body, c ≠ '"' ∧ c ≠ '\n')
    {after : List Char} (hafter : after = [] ∨ ∃ rest, after = '\n' :: rest) :
    quotedTail (body ++ after) = (.unterminated, body) := by
  have hstops : ∀ c cs, after = c :: cs → continuesQuote c = false := by
    intro c cs h
    rcases hafter with rfl | ⟨rest, rfl⟩
    · cases h
    · obtain ⟨rfl, rfl⟩ := List.cons.inj h
      rfl
  obtain ⟨htake, hdrop⟩ := takeWhile_continuesQuote hbody after hstops
  rcases hafter with rfl | ⟨rest, rfl⟩
  · rw [quotedTail, htake, hdrop]
  · rw [quotedTail, htake, hdrop]
    rfl

/-- What `quotedTail` takes is a string, closed or not as it says. -/
lemma reads_quotedTail (cs : List Char) :
    (quotedTail cs).1.Reads ('"' :: (quotedTail cs).2) (cs.drop (quotedTail cs).2.length) ∧
      (quotedTail cs).2 ++ cs.drop (quotedTail cs).2.length = cs := by
  obtain ⟨body, rest, rfl, hbody, hrest⟩ : ∃ body rest, cs = body ++ rest ∧
      (∀ c ∈ body, c ≠ '"' ∧ c ≠ '\n') ∧ ∀ c cs, rest = c :: cs → c = '"' ∨ c = '\n' := by
    refine ⟨cs.takeWhile continuesQuote, cs.dropWhile continuesQuote,
      List.takeWhile_append_dropWhile.symm, fun c hc => ?_, fun c ds h => ?_⟩
    · exact continuesQuote_iff.1 (List.mem_takeWhile_imp hc)
    · have hnot := List.head?_dropWhile_not continuesQuote cs
      simp only [h, List.head?_cons, continuesQuote, Bool.and_eq_false_iff, bne_eq_false_iff_eq]
        at hnot
      exact hnot
  rcases rest with - | ⟨c, rest⟩
  · rw [List.append_nil, ← List.append_nil body, quotedTail_open hbody (.inl rfl)]
    simp only [List.append_nil, List.drop_length, and_true]
    exact ⟨⟨body, rfl, hbody⟩, .inl rfl⟩
  · rcases hrest c rest rfl with rfl | rfl
    · rw [quotedTail_closed hbody]
      have hsplit : body ++ '"' :: rest = (body ++ ['"']) ++ rest := by simp
      rw [hsplit, List.drop_left]
      exact ⟨⟨body, rfl, hbody⟩, rfl⟩
    · rw [quotedTail_open hbody (.inr ⟨rest, rfl⟩), List.drop_left]
      exact ⟨⟨⟨body, rfl, hbody⟩, .inr ⟨rest, rfl⟩⟩, rfl⟩

/-! ## Single tokens -/

lemma isGap_iff {c : Char} : isGap c = true ↔ Text.isBlank c = true ∧ c ≠ '\n' := by
  simp [isGap]

/-- **The text of a token is settled** by its first character, its form and what follows: it is
what `Token.first` takes, and the first character is no gap. -/
theorem first_of_reads {form : Form} {c : Char} {tail after : List Char}
    (h : form.Reads (c :: tail) after) :
    isGap c = false ∧ first c (tail ++ after) = (form, tail) := by
  cases form with
  | newline =>
    obtain ⟨rfl, rfl⟩ := List.cons.inj h
    exact ⟨by decide, rfl⟩
  | semicolon =>
    obtain ⟨rfl, rfl⟩ := List.cons.inj h
    exact ⟨by decide, rfl⟩
  | operator op =>
    cases op <;> obtain ⟨rfl, rfl⟩ := List.cons.inj h <;> exact ⟨by decide, rfl⟩
  | quoted =>
    obtain ⟨body, htext, hbody⟩ := h
    obtain ⟨rfl, rfl⟩ := List.cons.inj htext
    refine ⟨by decide, ?_⟩
    rw [List.append_assoc, List.singleton_append]
    exact quotedTail_closed hbody after
  | unterminated =>
    obtain ⟨⟨body, htext, hbody⟩, hafter⟩ := h
    obtain ⟨rfl, rfl⟩ := List.cons.inj htext
    exact ⟨by decide, quotedTail_open hbody hafter⟩
  | word =>
    obtain ⟨hc, htail⟩ := reads_word_cons.1 h
    simp only [EndsWord, not_or] at hc
    obtain ⟨hblank, hsemicolon, hquote, hoperator⟩ := hc
    have hnewline : c ≠ '\n' := by
      rintro rfl
      exact hblank (by decide)
    have hnone : operatorAt? c (tail ++ after) = none := by
      rw [← Option.not_isSome_iff_eq_none, operatorAt?_isSome_iff]
      exact hoperator
    refine ⟨?_, ?_⟩
    · rw [isGap, Bool.eq_false_iff.2 hblank, Bool.false_and]
    · rw [first, if_neg hnewline, if_neg hsemicolon, if_neg hquote, hnone, wordTail_of_reads htail]

/-- What `Token.first` takes is the text of a token, and is taken from the front of what is
there. -/
theorem reads_first {c : Char} (h : isGap c = false) (cs : List Char) :
    (first c cs).1.Reads (c :: (first c cs).2) (cs.drop (first c cs).2.length) ∧
      (first c cs).2 ++ cs.drop (first c cs).2.length = cs := by
  by_cases hnewline : c = '\n'
  · subst hnewline
    exact ⟨rfl, rfl⟩
  by_cases hsemicolon : c = ';'
  · subst hsemicolon
    exact ⟨rfl, rfl⟩
  by_cases hquote : c = '"'
  · subst hquote
    exact reads_quotedTail cs
  rw [first, if_neg hnewline, if_neg hsemicolon, if_neg hquote]
  cases hop : operatorAt? c cs with
  | some op =>
    simp only [operatorAt?] at hop
    split at hop <;> cases hop <;> exact ⟨rfl, rfl⟩
  | none =>
    refine ⟨reads_word_cons.2 ⟨?_, reads_wordTail cs⟩, wordTail_append_drop cs⟩
    have hblank : ¬ Text.isBlank c = true := by
      intro hb
      rw [isGap_iff.2 ⟨hb, hnewline⟩] at h
      cases h
    rw [wordTail_append_drop, EndsWord, ← operatorAt?_isSome_iff, hop]
    simp [hblank, hsemicolon, hquote]

/-! ## Along the scan

`done` is the part of the text that lies behind, and the place reached is its length. -/

/-- What is taken for the first token and what is left make up the text. -/
lemma append_first (done : List Char) {c : Char} (h : isGap c = false) (cs : List Char) :
    (done ++ c :: (first c cs).2) ++ cs.drop (first c cs).2.length = done ++ c :: cs := by
  rw [List.append_assoc, List.cons_append, (reads_first h cs).2]

/-- **Induction along the scan.**  The scan ends, or drops a gap, or takes a token. -/
@[elab_as_elim]
theorem scan_induction {motive : List Char → List Char → Prop} (nil : ∀ done, motive done [])
    (gap : ∀ done c cs, isGap c = true → motive (done ++ [c]) cs → motive done (c :: cs))
    (token : ∀ done c cs, isGap c = false →
      motive (done ++ c :: (first c cs).2) (cs.drop (first c cs).2.length) → motive done (c :: cs))
    (done cs : List Char) : motive done cs := by
  induction hn : cs.length using Nat.strong_induction_on generalizing done cs with
  | _ n ih =>
  cases cs with
  | nil => exact nil done
  | cons c cs =>
    rw [List.length_cons] at hn
    cases hc : isGap c with
    | true => exact gap done c cs hc (ih cs.length (by omega) _ cs rfl)
    | false =>
      refine token done c cs hc (ih _ ?_ _ _ rfl)
      rw [List.length_drop]
      omega

variable {ts : List Token}

/-- The token that the scan finds at an offset. -/
def firstAt (offset : Nat) (c : Char) (cs : List Char) : Token where
  form := (first c cs).1
  offset := offset
  text := String.ofList (c :: (first c cs).2)

/-- A token that stands where the scan has come to is the one that the scan finds. -/
lemma StandsIn.eq_firstAt {t : Token} {done : List Char} {c : Char} {cs : List Char}
    (h : t.StandsIn (done ++ c :: cs)) (hoffset : t.offset = Text.byteLength done) :
    isGap c = false ∧ t = firstAt (Text.byteLength done) c cs := by
  obtain ⟨before, after, hsplit, hbefore, hne, hreads⟩ := h
  rw [List.append_assoc] at hsplit
  obtain ⟨-, hrest⟩ := Text.append_inj_of_byteLength hsplit (hbefore.trans hoffset).symm
  obtain ⟨d, tail, htext⟩ := List.exists_cons_of_ne_nil hne
  rw [htext, List.cons_append] at hrest
  obtain ⟨rfl, rfl⟩ := List.cons.inj hrest
  rw [htext] at hreads
  obtain ⟨hgap, hfirst⟩ := first_of_reads hreads
  refine ⟨hgap, ?_⟩
  obtain ⟨form, offset, text⟩ := t
  simp only at htext hoffset hfirst
  rw [firstAt, hfirst, hoffset, ← htext, String.ofList_toList]

/-- The token that the scan finds stands in the text. -/
lemma standsIn_firstAt (done : List Char) {c : Char} (h : isGap c = false) (cs : List Char) :
    (firstAt (Text.byteLength done) c cs).StandsIn (done ++ c :: cs) := by
  obtain ⟨hreads, htail⟩ := reads_first h cs
  have htext : (firstAt (Text.byteLength done) c cs).text.toList = c :: (first c cs).2 :=
    String.toList_ofList
  rw [StandsIn, htext]
  refine ⟨done, cs.drop (first c cs).2.length, ?_, rfl, List.cons_ne_nil _ _, hreads⟩
  rw [List.append_assoc, List.cons_append, htail]

lemma stop_firstAt (done : List Char) (c : Char) (cs : List Char) :
    (firstAt (Text.byteLength done) c cs).span.stop
      = Text.byteLength (done ++ c :: (first c cs).2) := by
  simp [firstAt, span, Span.stop]

lemma stop_of_standsIn {t : Token} {script : List Char} (h : t.StandsIn script) :
    t.offset < t.span.stop ∧ t.span.stop ≤ Text.byteLength script := by
  obtain ⟨before, after, rfl, hbefore, hne, -⟩ := h
  have := Text.byteLength_pos hne
  simp only [span, Span.stop, Text.byteLength_append]
  omega

/-- At the end of a text no token is left. -/
lemma tokenizesFrom_end (done : List Char) :
    TokenizesFrom (Text.byteLength done) done ts ↔ ts = [] := by
  constructor
  · intro h
    cases ts with
    | nil => rfl
    | cons t ts =>
      have := h.le_offset t List.mem_cons_self
      have := stop_of_standsIn (h.standsIn t List.mem_cons_self)
      omega
  · rintro rfl
    refine ⟨by simp, by simp, .nil, fun before c after hsplit hle _ => ?_⟩
    have hlen := congrArg Text.byteLength hsplit
    have := c.utf8Size_pos
    simp only [Text.byteLength_append, Text.byteLength_cons] at hlen
    omega

/-- A place that is not before the one reached is that place, or lies behind the next character. -/
lemma place_cases {done before after cs : List Char} {c d : Char}
    (h : done ++ c :: cs = before ++ d :: after)
    (hle : Text.byteLength done ≤ Text.byteLength before) :
    (before = done ∧ d = c) ∨ Text.byteLength (done ++ [c]) ≤ Text.byteLength before := by
  obtain ⟨mid, rfl, hmid⟩ := Text.exists_append_of_byteLength_le h hle
  cases mid with
  | nil =>
    obtain ⟨rfl, rfl⟩ := List.cons.inj hmid
    exact .inl ⟨List.append_nil done, rfl⟩
  | cons e mid =>
    rw [List.cons_append] at hmid
    obtain ⟨rfl, rfl⟩ := List.cons.inj hmid
    refine .inr ?_
    simp only [Text.byteLength_append, Text.byteLength_cons, Text.byteLength_nil]
    omega

/-- A gap can be skipped. -/
lemma tokenizesFrom_gap (done : List Char) {c : Char} (hc : isGap c = true) (cs : List Char) :
    TokenizesFrom (Text.byteLength done) (done ++ c :: cs) ts ↔
      TokenizesFrom (Text.byteLength (done ++ [c])) (done ++ c :: cs) ts := by
  have hle : Text.byteLength done ≤ Text.byteLength (done ++ [c]) := by simp
  constructor
  · intro h
    refine ⟨?_, h.standsIn, h.ordered, ?_⟩
    -- a token at the gap itself would start with it
    · intro t ht
      obtain ⟨before, after, hsplit, hbefore, hne, -⟩ := h.standsIn t ht
      obtain ⟨d, tail, htext⟩ := List.exists_cons_of_ne_nil hne
      rw [List.append_assoc, htext, List.cons_append] at hsplit
      have hoffset := h.le_offset t ht
      rcases place_cases hsplit (by omega) with ⟨rfl, -⟩ | hbehind
      · have hgap := ((h.standsIn t ht).eq_firstAt hbefore.symm).1
        rw [hc] at hgap
        cases hgap
      · omega
    · intro before d after hsplit hstart hout
      exact h.gaps before d after hsplit (hle.trans hstart) hout
  · intro h
    refine ⟨?_, h.standsIn, h.ordered, ?_⟩
    · intro t ht
      exact hle.trans (h.le_offset t ht)
    · intro before d after hsplit hstart hout
      rcases place_cases hsplit hstart with ⟨rfl, rfl⟩ | hbehind
      · exact isGap_iff.1 hc
      · exact h.gaps before d after hsplit hbehind hout

/-- A character that is no gap starts the first token. -/
lemma tokenizesFrom_token (done : List Char) {c : Char} (hc : isGap c = false) (cs : List Char) :
    TokenizesFrom (Text.byteLength done) (done ++ c :: cs) ts ↔
      ∃ rest, ts = firstAt (Text.byteLength done) c cs :: rest ∧
        TokenizesFrom (Text.byteLength (done ++ c :: (first c cs).2)) (done ++ c :: cs) rest := by
  have hstands := standsIn_firstAt done hc cs
  have hlt := (stop_of_standsIn hstands).1
  rw [← stop_firstAt]
  generalize htoken : firstAt (Text.byteLength done) c cs = token at hstands hlt ⊢
  have hoffset : token.offset = Text.byteLength done := by rw [← htoken]; rfl
  constructor
  · intro h
    -- the character is covered, and only a token that starts with it can cover it
    obtain ⟨t, ht, hcovers⟩ : ∃ t ∈ ts, t.Covers (Text.byteLength done) := by
      by_contra hnone
      simp only [not_exists, not_and] at hnone
      have := isGap_iff.2 (h.gaps done c cs rfl le_rfl hnone)
      rw [hc] at this
      cases this
    have htoffset : t.offset = Text.byteLength done := le_antisymm hcovers.1 (h.le_offset t ht)
    obtain rfl : t = token := ((h.standsIn t ht).eq_firstAt htoffset).2.trans htoken
    -- and no token comes before it
    cases ts with
    | nil => cases ht
    | cons s rest =>
      have hordered := List.pairwise_cons.1 h.ordered
      obtain rfl : t = s := by
        rcases List.mem_cons.1 ht with heq | hmem
        · exact heq
        · have := hordered.1 t hmem
          have := h.le_offset s List.mem_cons_self
          have := stop_of_standsIn (h.standsIn s List.mem_cons_self)
          omega
      refine ⟨rest, rfl, hordered.1, (List.forall_mem_cons.1 h.standsIn).2, hordered.2, ?_⟩
      intro before d after hsplit hstart hout
      refine h.gaps before d after hsplit (by omega) ?_
      intro t' ht'
      rcases List.mem_cons.1 ht' with rfl | hmem
      · intro hcov
        exact absurd hcov.2 (not_lt.2 hstart)
      · exact hout t' hmem
  · rintro ⟨rest, rfl, h⟩
    refine ⟨?_, ?_, List.pairwise_cons.2 ⟨h.le_offset, h.ordered⟩, ?_⟩
    · refine List.forall_mem_cons.2 ⟨hoffset.ge, ?_⟩
      intro t ht
      have := h.le_offset t ht
      omega
    · exact List.forall_mem_cons.2 ⟨hstands, h.standsIn⟩
    · intro before d after hsplit hstart hout
      have hout := List.forall_mem_cons.1 hout
      refine h.gaps before d after hsplit ?_ hout.2
      by_contra hlow
      exact hout.1 ⟨by omega, by omega⟩

/-- From any place on, the scan gives the tokens of the rest. -/
theorem tokenizesFrom_iff (done cs : List Char) (ts : List Token) :
    TokenizesFrom (Text.byteLength done) (done ++ cs) ts ↔
      ts = scanFrom (Text.byteLength done) cs := by
  induction done, cs using scan_induction generalizing ts with
  | nil done =>
    rw [List.append_nil, scanFrom_nil]
    exact tokenizesFrom_end done
  | gap done c cs hc ih =>
    have hlen : Text.byteLength (done ++ [c]) = Text.byteLength done + c.utf8Size := by simp
    rw [scanFrom_gap hc, tokenizesFrom_gap done hc, ← hlen, List.append_cons done c cs]
    exact ih ts
  | token done c cs hc ih =>
    rw [append_first done hc] at ih
    rw [scanFrom_token hc, tokenizesFrom_token done hc, ← Text.byteLength_append]
    simp only [ih]
    constructor
    · rintro ⟨rest, rfl, rfl⟩
      rfl
    · rintro rfl
      exact ⟨_, rfl, rfl⟩

lemma standsIn_of_mem_scan {script : String} {t : Token} (h : t ∈ scan script) :
    t.StandsIn script.toList :=
  ((tokenizesFrom_iff [] script.toList (scan script)).2 rfl).standsIn t h

/-- **The tokens of a script are the one list that tokenizes it.** -/
theorem tokenizes_iff (script : String) (ts : List Token) :
    Tokenizes script ts ↔ ts = scan script :=
  tokenizesFrom_iff [] script.toList ts

end Token
end LooseEquality
