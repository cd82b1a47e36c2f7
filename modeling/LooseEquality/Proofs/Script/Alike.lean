import LooseEquality.Proofs.Script.Print
import LooseEquality.Proofs.Shift
import Mathlib.Data.List.Forall2

/-!
# Tokens that read alike

A reader looks at the form and the text of a token, and it keeps the span without looking at it.
Where a separator may stand, it does not even matter which of the two it is.  So two lists of
tokens that differ in no more than this are read as the same script, up to the spans.

How the spans are related is left open: `R` is any relation that covers respect
(`Span.Respects`).  With equality, scripts that are alike are equal; with the relation that always
holds, they say the same (`Script.Alike.content_eq`).

* `Token.Alike`, `Spanned.Alike`, `Comparison.Alike`, `Script.Alike` — likeness, for everything
  that has a span.

There is a lemma for each reader, and **`ofTokens_alike`** for whole scripts.  All of them are about
what is read without a flaw; a flaw can name the separator that was found.
-/

namespace LooseEquality

/-- The covers of related spans are related. -/
def Span.Respects (R : Span → Span → Prop) : Prop :=
  ∀ s s' t t', R s s' → R t t' → R (s.cover t) (s'.cover t')

lemma Span.respects_eq : Respects Eq := by
  rintro s s' t t' rfl rfl
  rfl

lemma Span.respects_true : Respects fun _ _ => True := fun _ _ _ _ _ _ => trivial

/-- Tokens that a reader takes for the same: separators, or tokens of one form and text. -/
inductive Token.Alike (R : Span → Span → Prop) (t u : Token) : Prop where
  | same (hform : t.form = u.form) (htext : t.text = u.text) (hspan : R t.span u.span)
  | separators (ht : t.isSeparator = true) (hu : u.isSeparator = true)

def Spanned.Alike {α : Type} (R : Span → Span → Prop) (x y : Spanned α) : Prop :=
  x.val = y.val ∧ R x.span y.span

structure Comparison.Alike (R : Span → Span → Prop) (c d : Comparison) : Prop where
  op : c.op.Alike R d.op
  lhs : c.lhs.Alike R d.lhs
  rhs : c.rhs.Alike R d.rhs

/-- Scripts with the same comparisons, each at a related place. -/
def Script.Alike (R : Span → Span → Prop) (p q : Script) : Prop :=
  List.Forall₂ (fun c d => c.val.Alike R d.val ∧ R c.span d.span) p q

/-! ## What likeness says -/

section

variable {R : Span → Span → Prop}

lemma Comparison.Alike.content_eq {c d : Comparison} (h : c.Alike R d) : c.content = d.content := by
  simp only [content, h.op.1, h.lhs.1, h.rhs.1]

/-- Scripts that are alike say the same. -/
lemma Script.Alike.content_eq {p q : Script} (h : p.Alike R q) : p.content = q.content := by
  induction h with
  | nil => rfl
  | cons hc _ ih =>
    simp only [content, List.map_cons] at ih ⊢
    rw [hc.1.content_eq, ih]

lemma Spanned.Alike.eq {α : Type} {x y : Spanned α} (h : x.Alike Eq y) : x = y := by
  obtain ⟨x, s⟩ := x
  obtain ⟨rfl, rfl⟩ := h
  rfl

lemma Comparison.Alike.eq {c d : Comparison} (h : c.Alike Eq d) : c = d := by
  obtain ⟨op, lhs, rhs⟩ := c
  obtain ⟨op', lhs', rhs'⟩ := d
  obtain rfl : op = op' := h.op.eq
  obtain rfl : lhs = lhs' := h.lhs.eq
  obtain rfl : rhs = rhs' := h.rhs.eq
  rfl

/-- Scripts that are alike, with equal spans, are equal. -/
lemma Script.Alike.eq {p q : Script} (h : p.Alike Eq q) : p = q := by
  induction h with
  | nil => rfl
  | cons hc _ ih =>
    have hval := hc.1.eq
    rw [ih, Spanned.Alike.eq ⟨hval, hc.2⟩]

namespace Token.Alike

variable {t u : Token}

lemma isSeparator_eq (h : t.Alike R u) : t.isSeparator = u.isSeparator := by
  cases h with
  | same hform htext hspan => rw [Token.isSeparator, hform, Token.isSeparator]
  | separators ht hu => rw [ht, hu]

/-- A token that is no separator has one of its own kind beside it. -/
lemma same_of_form_eq (h : t.Alike R u) {form : Form} (hform : t.form = form)
    (hsep : form.isSeparator = false) : u.form = form ∧ t.text = u.text ∧ R t.span u.span := by
  cases h with
  | same hform' htext hspan => exact ⟨hform'.symm.trans hform, htext, hspan⟩
  | separators ht hu =>
    rw [Token.isSeparator, hform, hsep] at ht
    cases ht

/-- A literal has the same literal beside it. -/
lemma literal? (h : t.Alike R u) {text : String} (ht : t.literal? = some text) :
    u.literal? = some text ∧ R t.span u.span := by
  cases h with
  | same hform htext hspan =>
    simp only [Token.literal?, hform, htext] at ht
    exact ⟨ht, hspan⟩
  | separators hsep hu =>
    rw [Token.isSeparator] at hsep
    rw [Token.literal?] at ht
    cases hform : t.form <;> simp [hform, Form.isSeparator] at hsep ht

end Token.Alike

end

namespace Script

/-! ## Readers -/

section Readers

variable {R : Span → Span → Prop} {stop : Nat} {ts us rest : List Token}

lemma readLiteral_alike (hR : Span.Respects R) {word word' : Token} {kind : Kind}
    {o : Spanned Operand} (hword : R word.span word'.span)
    (h : List.Forall₂ (Token.Alike R) ts us)
    (hread : readLiteral stop word kind ts = .ok (o, rest)) (stop' : Nat) :
    ∃ o' rest', readLiteral stop' word' kind us = .ok (o', rest') ∧ o.Alike R o' ∧
      List.Forall₂ (Token.Alike R) rest rest' := by
  cases h with
  | nil => cases hread
  | @cons t u ts us hhead htail =>
    rw [readLiteral] at hread
    split at hread
    · next text htext =>
      cases hread
      obtain ⟨htext', hspan⟩ := hhead.literal? htext
      refine ⟨⟨⟨kind, some text⟩, word'.span.cover u.span⟩, us, ?_, ⟨rfl, ?_⟩, htail⟩
      · simp only [readLiteral, htext']
      · exact hR _ _ _ _ hword hspan
    · cases hread

lemma readOperand_alike (hR : Span.Respects R) {o : Spanned Operand}
    (h : List.Forall₂ (Token.Alike R) ts us) (hread : readOperand stop ts = .ok (o, rest))
    (stop' : Nat) :
    ∃ o' rest', readOperand stop' us = .ok (o', rest') ∧ o.Alike R o' ∧
      List.Forall₂ (Token.Alike R) rest rest' := by
  cases h with
  | nil => cases hread
  | @cons t u ts us hhead htail =>
    rw [readOperand] at hread
    split at hread
    · next hword =>
      obtain ⟨hword', htext, hspan⟩ := hhead.same_of_form_eq hword rfl
      rw [readOperand, if_pos hword', ← htext]
      split at hread
      · cases hread
      · cases hread
        exact ⟨⟨⟨.null, none⟩, u.span⟩, us, rfl, ⟨rfl, hspan⟩, htail⟩
      · exact readLiteral_alike hR hspan htail hread stop'
    · cases hread

lemma readOperator_alike {op : Spanned Operator} (h : List.Forall₂ (Token.Alike R) ts us)
    (hread : readOperator stop ts = .ok (op, rest)) (stop' : Nat) :
    ∃ op' rest', readOperator stop' us = .ok (op', rest') ∧ op.Alike R op' ∧
      List.Forall₂ (Token.Alike R) rest rest' := by
  cases h with
  | nil => cases hread
  | @cons t u ts us hhead htail =>
    rw [readOperator] at hread
    split at hread
    · next op hop =>
      cases hread
      obtain ⟨hop', -, hspan⟩ := hhead.same_of_form_eq hop rfl
      exact ⟨⟨op, u.span⟩, us, by simp only [readOperator, hop'], ⟨rfl, hspan⟩, htail⟩
    · cases hread

lemma readComparison_alike (hR : Span.Respects R) {c : Spanned Comparison}
    (h : List.Forall₂ (Token.Alike R) ts us) (hread : readComparison stop ts = .ok (c, rest))
    (stop' : Nat) :
    ∃ c' rest', readComparison stop' us = .ok (c', rest') ∧
      (c.val.Alike R c'.val ∧ R c.span c'.span) ∧ List.Forall₂ (Token.Alike R) rest rest' := by
  rw [readComparison] at hread
  split at hread
  · cases hread
  · next lhs ts₁ hlhs =>
    split at hread
    · cases hread
    · next op ts₂ hop =>
      split at hread
      · cases hread
      · next rhs ts₃ hrhs =>
        cases hread
        obtain ⟨lhs', us₁, hlhs', halikel, h₁⟩ := readOperand_alike hR h hlhs stop'
        obtain ⟨op', us₂, hop', halikeo, h₂⟩ := readOperator_alike h₁ hop stop'
        obtain ⟨rhs', us₃, hrhs', haliker, h₃⟩ := readOperand_alike hR h₂ hrhs stop'
        refine ⟨Comparison.spanned ⟨op', lhs', rhs'⟩, us₃, ?_, ⟨?_, ?_⟩, h₃⟩
        · simp only [readComparison, hlhs', hop', hrhs']
        · exact ⟨halikeo, halikel, haliker⟩
        · exact hR _ _ _ _ halikel.2 haliker.2

end Readers

/-! ## Whole scripts -/

/-- **Tokens that are alike are read as scripts that are alike.** -/
theorem ofTokens_alike {R : Span → Span → Prop} (hR : Span.Respects R) {stop : Nat}
    {ts us : List Token} {p : Script} (h : List.Forall₂ (Token.Alike R) ts us)
    (hread : ofTokens stop ts = .ok p) (stop' : Nat) :
    ∃ q, ofTokens stop' us = .ok q ∧ p.Alike R q := by
  fun_induction ofTokens stop ts generalizing us p with
  | case1 =>
    cases h
    cases hread
    exact ⟨[], ofTokens_nil stop', .nil⟩
  | case2 t rest hsep ih =>
    cases h with
    | @cons _ u _ us hhead htail =>
      rw [ofTokens_separator stop' (hhead.isSeparator_eq ▸ hsep)]
      exact ih htail hread
  | case3 t rest hsep flaw hflaw => cases hread
  | case4 t rest hsep c hc =>
    cases hread
    cases h with
    | @cons _ u _ us hhead htail =>
      obtain ⟨c', rest', hc', halike, hrest⟩ := readComparison_alike hR (.cons hhead htail) hc stop'
      cases hrest
      rw [ofTokens_cons stop' (hhead.isSeparator_eq ▸ hsep), hc', afterComparison]
      exact ⟨[c'], rfl, .cons halike .nil⟩
  | case5 t rest hsep c s after hc hs ih =>
    cases h with
    | @cons _ u _ us hhead htail =>
      obtain ⟨c', rest', hc', halike, hrest⟩ := readComparison_alike hR (.cons hhead htail) hc stop'
      cases hrest with
      | @cons _ s' _ after' hs' hafter =>
        cases hmore : ofTokens stop (s :: after) with
        | error flaw =>
          rw [hmore] at hread
          cases hread
        | ok more =>
          rw [hmore] at hread
          cases hread
          obtain ⟨more', hmore', halikes⟩ := ih (.cons hs' hafter) hmore
          rw [ofTokens_cons stop' (hhead.isSeparator_eq ▸ hsep), hc', afterComparison,
            if_pos (hs'.isSeparator_eq ▸ hs), hmore']
          exact ⟨c' :: more', rfl, .cons halike halikes⟩
  | case6 t rest hsep c s after hc hs => cases hread

/-- Texts whose tokens are alike spell scripts that are alike. -/
lemma parse_alike {R : Span → Span → Prop} (hR : Span.Respects R) {text text' : String} {p : Script}
    (h : List.Forall₂ (Token.Alike R) (Token.scan text) (Token.scan text'))
    (hp : parse text = .ok p) : ∃ q, parse text' = .ok q ∧ p.Alike R q := by
  obtain ⟨q, hq, halike⟩ := ofTokens_alike hR h (read_of_parse hp) (Text.byteLength text'.toList)
  exact ⟨q, by rw [parse, read, hq]; rfl, halike⟩

end Script
end LooseEquality
