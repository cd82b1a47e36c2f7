import LooseEquality.Proofs.Shift

/-!
# The tokens of several lines

A line feed is always a token of its own, and the scan starts anew behind it: no word or operator
goes on past it, and a string that is not closed ends there.  So the tokens of two texts with a line
feed between them are those of the first, the line feed, and those of the second.

The reason is in the single token.  Whether a text is one of a form depends on what follows it
through the next character alone, and for all forms a line feed is as good as the end of the text
(`Form.Reads.append_newline`).  **`scanFrom_append_newline`** carries this through the scan.
-/

namespace LooseEquality
namespace Token

/-- The token of a line feed. -/
def newlineAt (offset : Nat) : Token := ⟨.newline, offset, "\n"⟩

lemma isSeparator_newlineAt (offset : Nat) : (newlineAt offset).isSeparator = true := rfl

lemma span_newlineAt (offset : Nat) : (newlineAt offset).span = ⟨offset, 1⟩ := by
  simp [newlineAt, span, Text.utf8Size_newline]

/-- Whether an operator starts with a character is settled before a character other than `=`. -/
lemma startsOperator_append_cons {c d : Char} (hd : d ≠ '=') (after rest : List Char) :
    StartsOperator c (after ++ d :: rest) ↔ StartsOperator c after := by
  cases after with
  | nil => simp [StartsOperator, hd]
  | cons e after => simp [StartsOperator]

lemma endsWord_append_cons {c d : Char} (hd : d ≠ '=') (after rest : List Char) :
    EndsWord c (after ++ d :: rest) ↔ EndsWord c after := by
  simp only [EndsWord, startsOperator_append_cons hd]

lemma endsWord_newline (rest : List Char) : EndsWord '\n' rest := .inl (by decide)

/-- **A line feed is as good as the end of the text.** -/
theorem Form.Reads.append_newline {form : Form} {text after : List Char}
    (h : form.Reads text after) (rest : List Char) : form.Reads text (after ++ '\n' :: rest) := by
  cases form with
  | word =>
    obtain ⟨hin, hafter⟩ := h
    constructor
    · intro front c back htext
      rw [← List.append_assoc, endsWord_append_cons (by decide)]
      exact hin front c back htext
    · intro c ds hcons
      cases after with
      | nil =>
        obtain ⟨rfl, rfl⟩ := List.cons.inj hcons
        exact endsWord_newline rest
      | cons d after =>
        rw [List.cons_append] at hcons
        obtain ⟨rfl, rfl⟩ := List.cons.inj hcons
        exact (endsWord_append_cons (by decide) after rest).2 (hafter d after rfl)
  | unterminated =>
    obtain ⟨hbody, rfl | ⟨ds, rfl⟩⟩ := h
    · exact ⟨hbody, .inr ⟨rest, rfl⟩⟩
    · exact ⟨hbody, .inr ⟨ds ++ '\n' :: rest, rfl⟩⟩
  | _ => exact h

lemma first_append_newline {c : Char} (hc : isGap c = false) (cs rest : List Char) :
    first c (cs ++ '\n' :: rest) = first c cs := by
  obtain ⟨hreads, hsplit⟩ := reads_first hc cs
  have hfirst := (first_of_reads (hreads.append_newline rest)).2
  rwa [← List.append_assoc, hsplit] at hfirst

lemma length_first_le {c : Char} (hc : isGap c = false) (cs : List Char) :
    (first c cs).2.length ≤ cs.length := by
  have hsplit := congrArg List.length (reads_first hc cs).2
  rw [List.length_append] at hsplit
  omega

/-- **The scan starts anew behind a line feed.** -/
theorem scanFrom_append_newline (offset : Nat) (cs rest : List Char) :
    scanFrom offset (cs ++ '\n' :: rest)
      = scanFrom offset cs ++ newlineAt (offset + Text.byteLength cs) ::
          scanFrom (offset + Text.byteLength cs + 1) rest := by
  fun_induction scanFrom offset cs with
  | case1 offset =>
    rw [List.nil_append, scanFrom_token (by decide)]
    rfl
  | case2 offset c cs hgap ih =>
    rw [List.cons_append, scanFrom_gap hgap, ih, Text.byteLength_cons, Nat.add_assoc]
  | case3 offset c cs hgap form tail ih =>
    have hc := Bool.eq_false_iff.2 hgap
    have hlen : Text.byteLength (c :: tail) + Text.byteLength (cs.drop tail.length)
        = Text.byteLength (c :: cs) := by
      rw [← Text.byteLength_append, List.cons_append, (reads_first hc cs).2]
    rw [List.cons_append, scanFrom_token hc, first_append_newline hc,
      List.drop_append_of_le_length (length_first_le hc cs), ih, Nat.add_assoc offset, hlen]
    rfl

/-- The tokens of two texts with a line feed between them. -/
theorem scan_append_newline (a b : String) :
    scan (a ++ "\n" ++ b)
      = scan a ++ newlineAt (Text.byteLength a.toList) ::
          (scan b).map (Token.shift (Text.byteLength a.toList + 1)) := by
  have htext : (a ++ "\n" ++ b).toList = a.toList ++ '\n' :: b.toList := by
    simp [String.toList_append]
  rw [scan, htext, scanFrom_append_newline, Nat.zero_add, scanFrom_eq_shift _ b.toList]
  rfl

end Token
end LooseEquality
