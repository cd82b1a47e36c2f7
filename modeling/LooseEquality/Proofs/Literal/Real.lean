import LooseEquality.Literal
import LooseEquality.Proofs.Decimal
import LooseEquality.Proofs.Decimal.Spelling

/-!
# Literals of reals

Reading a real knows two kinds of texts, decimals and words, and a literal is only the first of
them.  The reader of literals tells the two apart by a look at the first character behind all signs,
of which there may be more than a real has (`startsLikeNumber`).  No word passes this test and each
decimal does, so what is left are the decimals.

* `Binary64.IsWord` — a word for infinity or for what is no number.

**`real_eq_rounded_spelling`** says which texts are literals, and that a literal of any length is
rounded once, from the number that it spells.
-/

namespace LooseEquality

open Numeral (Sign IsSign)

namespace Binary64

/-! ## Words -/

/-- `inf`, `infinity` or `nan`, in letters of either case, with a sign or without. -/
def IsWord (cs : List Char) : Prop :=
  ∃ (s : Sign) (word : List Char), cs = s.text ++ word ∧
    String.ofList (word.map Char.toLower) ∈ ["inf", "infinity", "nan"]

lemma word?_isSome_iff {cs : List Char} :
    (word? cs).isSome = true ↔
      String.ofList (cs.map Char.toLower) ∈ ["inf", "infinity", "nan"] := by
  rw [List.mem_cons, List.mem_cons, List.mem_singleton, ← or_assoc]
  simp only [word?, Bool.or_eq_true, decide_eq_true_eq]
  split_ifs with hinf hnan
  · exact iff_of_true rfl (.inl hinf)
  · exact iff_of_true rfl (.inr hnan)
  · exact iff_of_false Bool.false_ne_true (not_or.2 ⟨hinf, hnan⟩)

/-- A letter has no digit, point or sign as its upper case. -/
lemma isLetter_of_toLower {c : Char} (h : 'A'.toNat ≤ c.toLower.toNat) :
    ¬ IsSign c ∧ c.isDigit = false ∧ c ≠ '.' := by
  have hc : 'A'.toNat ≤ c.toNat := by
    by_contra hlt
    have hlower : c.toLower = c := dif_neg fun hupper => hlt hupper.1
    exact hlt (hlower ▸ h)
  refine ⟨?_, ?_, ?_⟩
  · rintro (rfl | rfl) <;> exact absurd hc (by decide)
  · by_contra hdigit
    have hrange : c.toNat ≤ '9'.toNat := by
      simp only [Char.isDigit, Bool.not_eq_false, Bool.and_eq_true, decide_eq_true_eq] at hdigit
      exact hdigit.2
    exact absurd (hc.trans hrange) (by decide)
  · rintro rfl
    exact absurd hc (by decide)

lemma exists_letter {word : List Char}
    (h : String.ofList (word.map Char.toLower) ∈ ["inf", "infinity", "nan"]) :
    ∃ c cs, word = c :: cs ∧ ¬ IsSign c ∧ c.isDigit = false ∧ c ≠ '.' := by
  have hletters : ∀ text ∈ ["inf", "infinity", "nan"],
      ∃ c cs, String.toList text = c :: cs ∧ 'A'.toNat ≤ c.toNat := by
    intro text htext
    simp only [List.mem_cons, List.not_mem_nil, or_false] at htext
    rcases htext with rfl | rfl | rfl <;> exact ⟨_, _, rfl, by decide⟩
  obtain ⟨d, ds, hcons, hd⟩ := hletters _ h
  rw [String.toList_ofList] at hcons
  obtain ⟨c, cs, rfl, rfl, -⟩ := List.map_eq_cons_iff.1 hcons
  exact ⟨c, cs, rfl, isLetter_of_toLower hd⟩

/-- What reads as a real is a spelling or a word. -/
theorem read?_isSome_iff {cs : List Char} :
    (read? cs).isSome = true ↔ (∃ s : Decimal.Spelling, s.text = cs) ∨ IsWord cs := by
  rw [read?]
  split
  · next d hd =>
    obtain ⟨s, hs, -⟩ := Decimal.read?_eq_some_iff.1 hd
    exact iff_of_true rfl (.inl ⟨s, hs⟩)
  · next hnone =>
    have hspelling : ¬ ∃ s : Decimal.Spelling, s.text = cs := by
      rintro ⟨s, rfl⟩
      rw [Decimal.read?_text] at hnone
      cases hnone
    rw [Option.isSome_map, word?_isSome_iff, or_iff_right hspelling]
    constructor
    · intro h
      obtain ⟨s, hs, -⟩ := Numeral.exists_sign cs
      exact ⟨s, _, hs, h⟩
    · rintro ⟨s, word, rfl, hword⟩
      obtain ⟨c, rest, rfl, hsign, -⟩ := exists_letter hword
      rw [Numeral.splitSign_text s]
      · exact hword
      · intro d ds hcons
        rw [← (List.cons.inj hcons).1]
        exact hsign

end Binary64

namespace Literal

open Binary64 (IsWord)
open Decimal (Spelling)

/-! ## Where a number starts -/

lemma startsLikeNumber_text (s : Sign) {c : Char} (cs : List Char) (h : ¬ IsSign c) :
    startsLikeNumber (s.text ++ c :: cs) = (c.isDigit || c == '.') := by
  have hc : (c == '-' || c == '+') = false := by
    rw [Bool.or_eq_false_iff, beq_eq_false_iff_ne, beq_eq_false_iff_ne]
    exact ⟨fun hminus => h (.inr hminus), fun hplus => h (.inl hplus)⟩
  cases s <;> simp [startsLikeNumber, Sign.text, hc]

lemma startsLikeNumber_spelling (s : Spelling) : startsLikeNumber s.text = true := by
  obtain ⟨c, cs, htext, hsign, hc⟩ := s.mantissa.exists_text_eq_cons
  rw [Spelling.text, htext, List.cons_append, startsLikeNumber_text _ _ hsign, Bool.or_eq_true,
    beq_iff_eq]
  exact hc

lemma not_startsLikeNumber_of_isWord {cs : List Char} (h : IsWord cs) :
    startsLikeNumber cs = false := by
  obtain ⟨s, word, rfl, hword⟩ := h
  obtain ⟨c, rest, rfl, hsign, hdigit, hpoint⟩ := Binary64.exists_letter hword
  rw [startsLikeNumber_text s rest hsign, hdigit, Bool.false_or, beq_eq_false_iff_ne]
  exact hpoint

/-! ## Which texts are literals -/

/-- A spelling is a literal of the real that its number rounds to. -/
theorem real_spelling {text : String} {s : Spelling} (h : s.text = text.toList) :
    real text = .ok (.real s.decimal.toBinary64) ∧
      s.decimal.toBinary64.IsRounded s.sign.isMinus s.value := by
  refine ⟨?_, s.value_decimal ▸ Decimal.isRounded_toBinary64 s.decimal⟩
  simp only [real, real?, Binary64.read?, ← h, Decimal.read?_text, startsLikeNumber_spelling,
    if_true, Option.map_some, orInvalid]

/-- Nothing else is a literal. -/
theorem real_of_not_spelling {text : String} (h : ∀ s : Spelling, s.text ≠ text.toList) :
    real text = .error (.invalidLiteral .real text) := by
  have hnone : real? text = none := by
    rw [real?]
    split
    · next r hr =>
      have hread : (Binary64.read? text.toList).isSome = true := by rw [hr]; rfl
      have hword := (Binary64.read?_isSome_iff.1 hread).resolve_left fun ⟨s, hs⟩ => h s hs
      rw [not_startsLikeNumber_of_isWord hword, if_neg Bool.false_ne_true]
    · rfl
  rw [real, hnone]
  rfl

lemma spelling_ne_of_isWord {cs : List Char} (h : IsWord cs) (s : Spelling) : s.text ≠ cs := by
  rintro rfl
  have := startsLikeNumber_spelling s
  rw [not_startsLikeNumber_of_isWord h] at this
  cases this

/-- What reads as a real and is no word is a literal of that real. -/
lemma real_of_not_isWord {text : String} {r : Binary64} (hr : Binary64.read? text.toList = some r)
    (h : ¬ IsWord text.toList) : real text = .ok (.real r) := by
  have hsome : (Binary64.read? text.toList).isSome = true := by rw [hr]; rfl
  obtain ⟨s, hs⟩ := (Binary64.read?_isSome_iff.1 hsome).resolve_right h
  have hstart : startsLikeNumber text.toList = true := hs ▸ startsLikeNumber_spelling s
  simp only [real, real?, hr, hstart, if_true, Option.map_some, orInvalid]

/-- Where the number of a spelling is between the finite reals shows in what it is rounded to. -/
lemma bounds_of_isRounded {s : Spelling} {r : Binary64}
    (h : r.IsRounded s.sign.isMinus s.value) :
    r.isNaN = false ∧ r.isNegative = s.sign.isMinus ∧
      (r.isFinite = true ↔ |s.value| < Binary64.overflowBound) ∧
      (r.isZero = true ↔ |s.value| ≤ Binary64.underflowBound) := by
  have hmantissa : 0 ≤ s.mantissa.value * 10 ^ s.powerValue :=
    mul_nonneg s.mantissa.value_nonneg (zpow_nonneg (by norm_num) _)
  refine ⟨h.isNaN_eq, h.isNegative_eq, h.isFinite_iff, ?_⟩
  rw [h.isZero_iff hmantissa, Spelling.value, Binary64.abs_signOf_mul, abs_of_nonneg hmantissa]

/-- **Literals of reals are the spellings of decimals**, of any length, and a literal is the real
that is nearest to the number it spells.  Every other text is at fault, and of the texts that read
as a real these are the words.  What a literal makes of its number is never a NaN: it has the sign
of the literal, it is infinite for the numbers from halfway beyond the last finite real, and zero
for those up to half of the first. -/
theorem real_eq_rounded_spelling (text : String) :
    (∀ v, real text = .ok v ↔ ∃ s : Spelling, s.text = text.toList ∧
      ∃ r : Binary64, v = .real r ∧ r.IsRounded s.sign.isMinus s.value) ∧
    (∀ fault, real text = .error fault ↔
      (∀ s : Spelling, s.text ≠ text.toList) ∧ fault = .invalidLiteral .real text) ∧
    (IsWord text.toList → real text = .error (.invalidLiteral .real text)) ∧
    (∀ r, Binary64.read? text.toList = some r → ¬ IsWord text.toList →
      real text = .ok (.real r)) ∧
    ∀ (s : Spelling) (r : Binary64), s.text = text.toList → real text = .ok (.real r) →
      r.isNaN = false ∧ r.isNegative = s.sign.isMinus ∧
      (r.isFinite = true ↔ |s.value| < Binary64.overflowBound) ∧
      (r.isZero = true ↔ |s.value| ≤ Binary64.underflowBound) := by
  refine ⟨fun v => ⟨fun h => ?_, ?_⟩, fun fault => ⟨fun h => ?_, ?_⟩,
    fun h => real_of_not_spelling (spelling_ne_of_isWord h), fun r => real_of_not_isWord,
    fun s r hs h => ?_⟩
  · by_cases hspelling : ∃ s : Spelling, s.text = text.toList
    · obtain ⟨s, hs⟩ := hspelling
      obtain ⟨hreal, hrounded⟩ := real_spelling hs
      exact ⟨s, hs, _, Except.ok.inj (h.symm.trans hreal), hrounded⟩
    · have hnone := real_of_not_spelling fun s hs => hspelling ⟨s, hs⟩
      cases h.symm.trans hnone
  · rintro ⟨s, hs, r, rfl, hr⟩
    obtain ⟨hreal, hrounded⟩ := real_spelling hs
    rw [hreal, hr.unique hrounded]
  · have hnone : ∀ s : Spelling, s.text ≠ text.toList := by
      intro s hs
      cases h.symm.trans (real_spelling hs).1
    exact ⟨hnone, Except.error.inj (h.symm.trans (real_of_not_spelling hnone))⟩
  · rintro ⟨hnone, rfl⟩
    exact real_of_not_spelling hnone
  · obtain ⟨hreal, hrounded⟩ := real_spelling hs
    obtain rfl := Value.real.inj (Except.ok.inj (h.symm.trans hreal))
    exact bounds_of_isRounded hrounded

end Literal
end LooseEquality
