import LooseEquality.Proofs.Token.Scan
import LooseEquality.Script.Read

/-!
# Moving a text

When something is put in front of a text, everything that is read from the text keeps what it is
and changes its place.  `shift` does this to all that has a place:

* `Span.shift`, `Spanned.shift`, `Token.shift`;
* `Comparison.shift`, `Script.shift`;
* `Script.Flaw.shift`, `Script.Reading.shift`.

Neither the scan nor the reader of tokens ever looks at an offset, so shifting commutes with both:
**`scanFrom_shift`** for the tokens of a text and **`ofTokens_shift`** for the script they spell.
-/

namespace LooseEquality

/-- A span in a text that has moved by `n` bytes. -/
def Span.shift (n : Nat) (s : Span) : Span := ⟨s.offset + n, s.length⟩

def Spanned.shift {α : Type} (n : Nat) (x : Spanned α) : Spanned α := ⟨x.val, x.span.shift n⟩

def Token.shift (n : Nat) (t : Token) : Token := { t with offset := t.offset + n }

def Comparison.shift (n : Nat) (c : Comparison) : Comparison :=
  ⟨c.op.shift n, c.lhs.shift n, c.rhs.shift n⟩

/-- A script whose text has moved: all spans move along. -/
def Script.shift (n : Nat) (script : Script) : Script :=
  script.map fun c => ⟨c.val.shift n, c.span.shift n⟩

def Script.Flaw.shift (n : Nat) (flaw : Flaw) : Flaw := ⟨flaw.cause, flaw.span.shift n⟩

/-- What a reader gives for tokens that have moved: what it read and the tokens it left move along,
and so does the flaw. -/
def Script.Reading.shift {α : Type} (n : Nat) (move : α → α) : Reading α → Reading α
  | .ok (a, rest) => .ok (move a, rest.map (Token.shift n))
  | .error flaw => .error (flaw.shift n)

namespace Span

@[simp] lemma offset_shift (n : Nat) (s : Span) : (s.shift n).offset = s.offset + n := rfl

/-- A cover moves with its two parts. -/
lemma cover_shift (n : Nat) (s t : Span) : (s.shift n).cover (t.shift n) = (s.cover t).shift n := by
  simp only [cover, shift, stop, mk.injEq]
  omega

end Span

namespace Token

@[simp] lemma form_shift (n : Nat) (t : Token) : (t.shift n).form = t.form := rfl

@[simp] lemma text_shift (n : Nat) (t : Token) : (t.shift n).text = t.text := rfl

@[simp] lemma span_shift (n : Nat) (t : Token) : (t.shift n).span = t.span.shift n := rfl

@[simp] lemma isSeparator_shift (n : Nat) (t : Token) : (t.shift n).isSeparator = t.isSeparator :=
  rfl

@[simp] lemma literal?_shift (n : Nat) (t : Token) : (t.shift n).literal? = t.literal? := rfl

/-- **The tokens of a text move with it.** -/
theorem scanFrom_shift (n offset : Nat) (cs : List Char) :
    scanFrom (offset + n) cs = (scanFrom offset cs).map (Token.shift n) := by
  fun_induction scanFrom offset cs with
  | case1 offset => simp [scanFrom_nil]
  | case2 offset c cs hgap ih =>
    rw [scanFrom_gap hgap, Nat.add_right_comm]
    exact ih
  | case3 offset c cs hgap form tail ih =>
    rw [scanFrom_token (Bool.eq_false_iff.2 hgap), Nat.add_right_comm, List.map_cons]
    exact congrArg _ ih

lemma scanFrom_eq_shift (n : Nat) (cs : List Char) :
    scanFrom n cs = (scanFrom 0 cs).map (Token.shift n) := by
  rw [← scanFrom_shift, Nat.zero_add]

end Token

namespace Script

@[simp] lemma shift_nil (n : Nat) : Script.shift n [] = [] := rfl

@[simp] lemma shift_cons (n : Nat) (c : Spanned Comparison) (script : Script) :
    Script.shift n (c :: script) = ⟨c.val.shift n, c.span.shift n⟩ :: script.shift n := rfl

/-! ## Readers -/

section Readers

variable (n stop : Nat) (ts : List Token)

lemma flaw_ofTokens_shift (wanted : Wanted) :
    Flaw.ofTokens (stop + n) wanted (ts.map (Token.shift n))
      = (Flaw.ofTokens stop wanted ts).shift n := by
  cases ts with
  | nil => rfl
  | cons t ts =>
    simp only [List.map_cons, Flaw.ofTokens, Token.form_shift, Token.span_shift]
    rw [apply_ite (Flaw.shift n)]
    rfl

lemma readLiteral_shift (word : Token) (kind : Kind) :
    readLiteral (stop + n) (word.shift n) kind (ts.map (Token.shift n))
      = (readLiteral stop word kind ts).shift n (Spanned.shift n) := by
  cases ts with
  | nil => rfl
  | cons t ts =>
    have hflaw := flaw_ofTokens_shift n stop (t :: ts) (.literal kind)
    simp only [List.map_cons] at hflaw
    simp only [List.map_cons, readLiteral, Token.literal?_shift, Token.span_shift,
      Span.cover_shift, hflaw]
    cases t.literal? <;> rfl

lemma readOperand_shift :
    readOperand (stop + n) (ts.map (Token.shift n))
      = (readOperand stop ts).shift n (Spanned.shift n) := by
  cases ts with
  | nil => rfl
  | cons t ts =>
    have hflaw := flaw_ofTokens_shift n stop (t :: ts) .kind
    simp only [List.map_cons] at hflaw
    simp only [List.map_cons, readOperand, Token.form_shift, Token.text_shift, Token.span_shift,
      hflaw, readLiteral_shift]
    split
    · split <;> rfl
    · rfl

lemma readOperator_shift :
    readOperator (stop + n) (ts.map (Token.shift n))
      = (readOperator stop ts).shift n (Spanned.shift n) := by
  cases ts with
  | nil => rfl
  | cons t ts =>
    have hflaw := flaw_ofTokens_shift n stop (t :: ts) .operator
    simp only [List.map_cons] at hflaw
    simp only [List.map_cons, readOperator, Token.form_shift, Token.span_shift, hflaw]
    cases t.form <;> rfl

lemma readComparison_shift :
    readComparison (stop + n) (ts.map (Token.shift n))
      = (readComparison stop ts).shift n fun c => ⟨c.val.shift n, c.span.shift n⟩ := by
  rw [readComparison, readComparison, readOperand_shift]
  cases readOperand stop ts with
  | error flaw => rfl
  | ok read =>
    obtain ⟨lhs, ts₁⟩ := read
    simp only [Reading.shift, readOperator_shift]
    cases readOperator stop ts₁ with
    | error flaw => rfl
    | ok read =>
      obtain ⟨op, ts₂⟩ := read
      simp only [Reading.shift, readOperand_shift]
      cases readOperand stop ts₂ with
      | error flaw => rfl
      | ok read =>
        obtain ⟨rhs, ts₃⟩ := read
        simp only [Comparison.spanned, Comparison.shift, Spanned.shift, Span.cover_shift]

end Readers

/-! ## Whole scripts -/

/-- How a script goes on after what was read where its first comparison should be. -/
def afterComparison (stop : Nat) : Reading (Spanned Comparison) → Except Flaw Script
  | .error flaw => .error flaw
  | .ok (c, []) => .ok [c]
  | .ok (c, s :: after) =>
    if s.isSeparator then (ofTokens stop (s :: after)).map (c :: ·)
    else .error (.ofTokens stop .endOfComparison (s :: after))

lemma ofTokens_nil (stop : Nat) : ofTokens stop [] = .ok [] := by
  rw [ofTokens]

lemma ofTokens_separator (stop : Nat) {t : Token} (ht : t.isSeparator = true) (ts : List Token) :
    ofTokens stop (t :: ts) = ofTokens stop ts := by
  rw [ofTokens, if_pos ht]

lemma ofTokens_cons (stop : Nat) {t : Token} (ht : ¬ t.isSeparator = true) (ts : List Token) :
    ofTokens stop (t :: ts) = afterComparison stop (readComparison stop (t :: ts)) := by
  rw [ofTokens, if_neg ht]
  split <;> next hread => rw [hread, afterComparison]

lemma ofTokens_cons_shift (n stop : Nat) {t : Token} (ht : ¬ t.isSeparator = true)
    (ts : List Token) :
    ofTokens (stop + n) ((t :: ts).map (Token.shift n))
      = afterComparison (stop + n)
          ((readComparison stop (t :: ts)).shift n fun c => ⟨c.val.shift n, c.span.shift n⟩) := by
  have hshift : ¬ (t.shift n).isSeparator = true := ht
  rw [← readComparison_shift, List.map_cons, ofTokens_cons _ hshift]

/-- **The script of a text moves with it**, and so does the flaw if it is none. -/
theorem ofTokens_shift (n stop : Nat) (ts : List Token) :
    ofTokens (stop + n) (ts.map (Token.shift n))
      = ((ofTokens stop ts).map (Script.shift n)).mapError (Flaw.shift n) := by
  fun_induction ofTokens stop ts with
  | case1 =>
    rw [List.map_nil, ofTokens_nil]
    rfl
  | case2 t rest hsep ih =>
    have hshift : (t.shift n).isSeparator = true := hsep
    rw [List.map_cons, ofTokens_separator _ hshift]
    exact ih
  | case3 t rest hsep flaw hread =>
    rw [ofTokens_cons_shift n stop hsep, hread]
    rfl
  | case4 t rest hsep c hread =>
    rw [ofTokens_cons_shift n stop hsep, hread]
    rfl
  | case5 t rest hsep c s after hread hs ih =>
    rw [ofTokens_cons_shift n stop hsep, hread]
    simp only [Reading.shift, List.map_cons, afterComparison, Token.isSeparator_shift, hs, if_true]
    rw [List.map_cons] at ih
    rw [ih]
    cases ofTokens stop (s :: after) <;> rfl
  | case6 t rest hsep c s after hread hs =>
    rw [ofTokens_cons_shift n stop hsep, hread]
    have hflaw := flaw_ofTokens_shift n stop (s :: after) .endOfComparison
    rw [List.map_cons] at hflaw
    simp only [Reading.shift, List.map_cons, afterComparison, Token.isSeparator_shift, hs, hflaw]
    rfl

end Script
end LooseEquality
