import LooseEquality.Proofs.Token.Scan

/-!
# Stretches of tokens

Consecutive tokens of a text take a stretch of it, from the start of the first token to the end of
the last.  A stretch can be cut out of the text, and scanned by itself it gives the same tokens.

This is not obvious, because what a word is depends on the characters behind it: a `=` at its end is
part of the word only if no other follows.  The word can be cut off all the same.  Whether a text
ends a word in front of it is settled by its first token and by the gap before that
(`endsWords_iff_of_scanFrom`), and these are the same in the stretch and in the text.

* `Token.EndsWords` — what may follow a word;
* `Token.Leads` — the first token of a text, with what stands before it and behind it.

**`scanFrom_cut`** says that a text cut behind a token has the tokens up to there.
-/

namespace LooseEquality
namespace Token

/-! ## Scanning piece by piece -/

/-- What follows ends a word: nothing at all, or a character that no word goes on with. -/
def EndsWords (after : List Char) : Prop := ∀ c rest, after = c :: rest → EndsWord c rest

lemma endsWords_cons_iff {c : Char} {rest : List Char} :
    EndsWords (c :: rest) ↔ EndsWord c rest := by
  constructor
  · intro h
    exact h c rest rfl
  · intro h d ds heq
    obtain ⟨rfl, rfl⟩ := List.cons.inj heq
    exact h

lemma endsWords_nil : EndsWords [] := by
  intro c rest h
  cases h

/-- A text of a form, at the place the scan has come to, is the next token. -/
lemma scanFrom_reads {form : Form} {text after : List Char} (h : form.Reads text after)
    (hne : text ≠ []) (offset : Nat) :
    scanFrom offset (text ++ after)
      = ⟨form, offset, String.ofList text⟩ :: scanFrom (offset + Text.byteLength text) after := by
  obtain ⟨c, tail, rfl⟩ := List.exists_cons_of_ne_nil hne
  obtain ⟨hgap, hfirst⟩ := first_of_reads h
  rw [List.cons_append, scanFrom_token hgap, hfirst, List.drop_left]

lemma scanFrom_string {form : Form} {text : String} {after : List Char}
    (h : form.Reads text.toList after) (hne : text.toList ≠ []) (offset : Nat) :
    scanFrom offset (text.toList ++ after)
      = ⟨form, offset, text⟩ :: scanFrom (offset + Text.byteLength text.toList) after := by
  rw [scanFrom_reads h hne, String.ofList_toList]

/-- Gaps are dropped. -/
lemma scanFrom_gaps {gap : List Char} (h : ∀ c ∈ gap, isGap c = true) (offset : Nat)
    (cs : List Char) :
    scanFrom offset (gap ++ cs) = scanFrom (offset + Text.byteLength gap) cs := by
  induction gap generalizing offset with
  | nil => rfl
  | cons c gap ih =>
    obtain ⟨hc, hgap⟩ := List.forall_mem_cons.1 h
    rw [List.cons_append, scanFrom_gap hc, ih hgap, Text.byteLength_cons, Nat.add_assoc]

variable {t : Token} {ts us : List Token} {n : Nat} {cs gap rest : List Char}

lemma isBlank_of_isGap {c : Char} (h : isGap c = true) : Text.isBlank c = true :=
  (isGap_iff.1 h).1

/-! ## The first token -/

/-- The first token of a text that starts at an offset: it stands behind a gap, which may be empty,
and the rest of the text decides where it ends. -/
structure Leads (t : Token) (n : Nat) (cs gap rest : List Char) : Prop where
  eq_append : cs = gap ++ (t.text.toList ++ rest)
  isGap : ∀ c ∈ gap, isGap c = true
  offset_eq : t.offset = n + Text.byteLength gap
  ne_nil : t.text.toList ≠ []
  reads : t.form.Reads t.text.toList rest

lemma Leads.stop_eq (h : t.Leads n cs gap rest) :
    t.span.stop = n + Text.byteLength gap + Text.byteLength t.text.toList := by
  simp only [span, Span.stop, h.offset_eq]

/-- **The first of the tokens** that are scanned leads the text. -/
theorem exists_leads (h : scanFrom n cs = t :: ts) :
    ∃ gap rest, t.Leads n cs gap rest ∧ scanFrom t.span.stop rest = ts := by
  induction cs generalizing n with
  | nil =>
    rw [scanFrom_nil] at h
    cases h
  | cons c cs ih =>
    cases hc : isGap c with
    | true =>
      rw [scanFrom_gap hc] at h
      obtain ⟨gap, rest, hleads, hrest⟩ := ih h
      refine ⟨c :: gap, rest, ⟨?_, ?_, ?_, hleads.ne_nil, hleads.reads⟩, hrest⟩
      · rw [hleads.eq_append, List.cons_append]
      · exact List.forall_mem_cons.2 ⟨hc, hleads.isGap⟩
      · rw [hleads.offset_eq, Text.byteLength_cons, Nat.add_assoc]
    | false =>
      rw [scanFrom_token hc] at h
      obtain ⟨rfl, rfl⟩ := List.cons.inj h
      obtain ⟨hreads, htail⟩ := reads_first hc cs
      refine ⟨[], cs.drop (first c cs).2.length, ⟨?_, by simp, rfl, ?_, ?_⟩, ?_⟩
      · rw [String.toList_ofList, List.cons_append, htail, List.nil_append]
      · rw [String.toList_ofList]
        exact List.cons_ne_nil _ _
      · rw [String.toList_ofList]
        exact hreads
      · rw [span, Span.stop, String.toList_ofList]

/-- Behind the first tokens of a text stand the others. -/
lemma exists_append_of_scanFrom (h : scanFrom n cs = ts ++ us) :
    ∃ before rest, cs = before ++ rest ∧ scanFrom (n + Text.byteLength before) rest = us := by
  induction ts generalizing n cs with
  | nil => exact ⟨[], cs, rfl, h⟩
  | cons t ts ih =>
    obtain ⟨gap, rest, hleads, hrest⟩ := exists_leads h
    obtain ⟨before, rest', rfl, hus⟩ := ih hrest
    refine ⟨gap ++ (t.text.toList ++ before), rest', ?_, ?_⟩
    · simpa only [List.append_assoc] using hleads.eq_append
    · rw [hleads.stop_eq] at hus
      simpa only [Text.byteLength_append, Nat.add_assoc] using hus

/-- A token at the place the scan has come to is the next one. -/
lemma scanFrom_text (h : t.form.Reads t.text.toList rest) (hne : t.text.toList ≠ []) :
    scanFrom t.offset (t.text.toList ++ rest) = t :: scanFrom t.span.stop rest :=
  scanFrom_string h hne t.offset

/-- Tokens do not start before the place from which they are scanned. -/
lemma le_offset_of_mem_scanFrom (h : t ∈ scanFrom n cs) : n ≤ t.offset := by
  fun_induction scanFrom n cs with
  | case1 n => cases h
  | case2 n c cs hgap ih => exact Nat.le_of_add_right_le (ih h)
  | case3 n c cs hgap form tail ih =>
    rcases List.mem_cons.1 h with rfl | h
    · exact Nat.le_refl n
    · exact Nat.le_of_add_right_le (ih h)

/-! ## What ends a word -/

/-- Of a token, a word does not end the word before it and everything else does. -/
lemma Form.Reads.endsWord_iff {form : Form} {c : Char} {tail after : List Char}
    (h : form.Reads (c :: tail) after) : EndsWord c (tail ++ after) ↔ form ≠ .word := by
  cases form with
  | word => exact iff_of_false (reads_word_cons.1 h).1 (by simp)
  | newline =>
    obtain ⟨rfl, -⟩ := List.cons.inj h
    exact iff_of_true (.inl (by decide)) (by simp)
  | semicolon =>
    obtain ⟨rfl, -⟩ := List.cons.inj h
    exact iff_of_true (.inr (.inl rfl)) (by simp)
  | quoted =>
    obtain ⟨body, htext, -⟩ := h
    obtain ⟨rfl, -⟩ := List.cons.inj htext
    exact iff_of_true (.inr (.inr (.inl rfl))) (by simp)
  | unterminated =>
    obtain ⟨⟨body, htext, -⟩, -⟩ := h
    obtain ⟨rfl, -⟩ := List.cons.inj htext
    exact iff_of_true (.inr (.inr (.inl rfl))) (by simp)
  | operator op =>
    refine iff_of_true (.inr (.inr (.inr ?_))) (by simp)
    cases op with
    | equal =>
      obtain ⟨rfl, rfl⟩ := List.cons.inj h
      exact ⟨.inl rfl, after, rfl⟩
    | notEqual =>
      obtain ⟨rfl, rfl⟩ := List.cons.inj h
      exact ⟨.inr rfl, after, rfl⟩

/-- **Whether a text ends a word before it** shows in its first token: there is a gap, or the token
is no word itself. -/
theorem endsWords_iff_of_scanFrom (h : scanFrom n cs = t :: ts) :
    EndsWords cs ↔ n < t.offset ∨ t.form ≠ .word := by
  obtain ⟨gap, rest, hleads, -⟩ := exists_leads h
  have hoffset := hleads.offset_eq
  rw [hleads.eq_append]
  cases gap with
  | nil =>
    obtain ⟨c, tail, htext⟩ := List.exists_cons_of_ne_nil hleads.ne_nil
    have hreads := hleads.reads
    rw [htext] at hreads ⊢
    rw [List.nil_append, List.cons_append, endsWords_cons_iff, hreads.endsWord_iff]
    have hnot : ¬ n < t.offset := by simp [hoffset]
    rw [or_iff_right hnot]
  | cons c gap =>
    have hblank := isBlank_of_isGap (hleads.isGap c List.mem_cons_self)
    have hlt : n < t.offset := by
      have := c.utf8Size_pos
      rw [hoffset, Text.byteLength_cons]
      omega
    rw [List.cons_append, endsWords_cons_iff]
    exact iff_of_true (.inl hblank) (.inl hlt)

lemma EndsWord.append {c : Char} {after : List Char} (h : EndsWord c after) (more : List Char) :
    EndsWord c (after ++ more) := by
  rcases h with h | h | h | ⟨h, rest, rfl⟩
  · exact .inl h
  · exact .inr (.inl h)
  · exact .inr (.inr (.inl h))
  · exact .inr (.inr (.inr ⟨h, rest ++ more, rfl⟩))

/-- The text of a token stays one if the text behind it is cut off somewhere, as long as what is
left behind a word ends it. -/
lemma Form.Reads.cut {form : Form} {text mid after : List Char}
    (h : form.Reads text (mid ++ after)) (hmid : form = .word → EndsWords mid) :
    form.Reads text mid := by
  cases form with
  | word =>
    refine ⟨fun front c back htext hends => ?_, hmid rfl⟩
    have hlong := hends.append after
    rw [List.append_assoc] at hlong
    exact h.1 front c back htext hlong
  | unterminated =>
    refine ⟨h.1, ?_⟩
    cases mid with
    | nil => exact .inl rfl
    | cons c mid =>
      rcases h.2 with hnil | ⟨rest, hcons⟩
      · cases hnil
      · obtain ⟨rfl, -⟩ := List.cons.inj hcons
        exact .inr ⟨mid, rfl⟩
  | _ => exact h

/-- The text of a token stays one if something else is put behind it.  Behind a word this has to end
the word, and it must not start with a `=` that was not there: the last character of the word might
be half of an operator. -/
lemma Form.Reads.exchange {form : Form} {text after after' : List Char} (h : form.Reads text after)
    (hform : form ≠ .unterminated) (hends : form = .word → EndsWords after')
    (hequals : ∀ rest, after' = '=' :: rest → ∃ rest', after = '=' :: rest') :
    form.Reads text after' := by
  cases form with
  | unterminated => exact absurd rfl hform
  | word =>
    refine ⟨fun front c back htext hc => h.1 front c back htext ?_, hends rfl⟩
    rcases hc with hc | hc | hc | ⟨hc, rest, heq⟩
    · exact .inl hc
    · exact .inr (.inl hc)
    · exact .inr (.inr (.inl hc))
    · refine .inr (.inr (.inr ⟨hc, ?_⟩))
      cases back with
      | nil => exact hequals rest heq
      | cons d back =>
        obtain ⟨rfl, -⟩ := List.cons.inj heq
        exact ⟨back ++ after, rfl⟩
  | _ => exact h

/-! ## Cutting a text -/

/-- **A text that is cut behind a token** has the tokens up to that one, as it had them before. -/
theorem scanFrom_cut {mid after : List Char} (h : scanFrom n (mid ++ after) = ts ++ us)
    (hlast : ts.getLast? = some t) (hstop : t.span.stop = n + Text.byteLength mid) :
    scanFrom n mid = ts := by
  induction ts generalizing n mid with
  | nil => cases hlast
  | cons u ts ih =>
    obtain ⟨gap, rest, hleads, hrest⟩ := exists_leads h
    have hu := hleads.stop_eq
    -- the cut is not before the end of the first token
    have hle : u.span.stop ≤ t.span.stop := by
      cases ts with
      | nil =>
        obtain rfl : u = t := by simpa using hlast
        exact Nat.le_refl _
      | cons v ts =>
        have hmem : t ∈ scanFrom u.span.stop rest := by
          rw [hrest]
          refine List.mem_append_left us (List.mem_of_getLast? ?_)
          simpa using hlast
        exact (le_offset_of_mem_scanFrom hmem).trans (Nat.le_add_right _ _)
    have hsplit := hleads.eq_append.symm
    rw [← List.append_assoc] at hsplit
    obtain ⟨mid', rfl, rfl⟩ := Text.exists_append_of_byteLength_le hsplit
      (by rw [Text.byteLength_append]; omega)
    simp only [Text.byteLength_append] at hstop
    -- behind it are the other tokens, and they end it as before if it is a word
    have htail : scanFrom u.span.stop mid' = ts ∧ (u.form = .word → EndsWords mid') := by
      cases ts with
      | nil =>
        obtain rfl : u = t := by simpa using hlast
        obtain rfl : mid' = [] := Text.byteLength_eq_zero.1 (by omega)
        exact ⟨scanFrom_nil _, fun _ => endsWords_nil⟩
      | cons v ts =>
        have hmid := ih hrest (by simpa using hlast) (by omega)
        refine ⟨hmid, fun hword => ?_⟩
        have hreads := hleads.reads
        rw [hword] at hreads
        have hends : EndsWords (mid' ++ after) := hreads.2
        rwa [endsWords_iff_of_scanFrom hrest, ← endsWords_iff_of_scanFrom hmid] at hends
    rw [List.append_assoc, scanFrom_gaps hleads.isGap, ← hleads.offset_eq,
      scanFrom_text (hleads.reads.cut htail.2) hleads.ne_nil, htail.1]

/-- A word has neither blanks nor quotes. -/
lemma bare_of_reads {text after : List Char} (h : Form.word.Reads text after) {c : Char}
    (hc : c ∈ text) : Text.isBlank c = false ∧ c ≠ '"' := by
  obtain ⟨front, back, rfl⟩ := List.append_of_mem hc
  have hnot := h.1 front c back rfl
  simp only [EndsWord, not_or] at hnot
  exact ⟨Bool.eq_false_iff.2 hnot.1, hnot.2.2.1⟩

/-- Only a line feed that is a token is part of one. -/
lemma Form.Reads.lineFeed_not_mem {form : Form} {text after : List Char}
    (h : form.Reads text after) (hform : form ≠ .newline) : '\n' ∉ text := by
  cases form with
  | newline => exact absurd rfl hform
  | semicolon =>
    obtain rfl : text = [';'] := h
    decide
  | operator op =>
    obtain rfl : text = op.symbol.toList := h
    cases op <;> decide
  | quoted =>
    obtain ⟨body, rfl, hbody⟩ := h
    intro hmem
    simp only [List.mem_cons, List.mem_append, Char.reduceEq, List.not_mem_nil, or_false,
      false_or] at hmem
    exact (hbody _ hmem).2 rfl
  | unterminated =>
    obtain ⟨⟨body, rfl, hbody⟩, -⟩ := h
    intro hmem
    simp only [List.mem_cons, Char.reduceEq, false_or] at hmem
    exact (hbody _ hmem).2 rfl
  | word =>
    intro hmem
    exact absurd (bare_of_reads h hmem).1 (by decide)

end Token
end LooseEquality
