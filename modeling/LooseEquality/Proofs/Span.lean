import LooseEquality.Location
import LooseEquality.Proofs.Text.Bytes
import LooseEquality.Proofs.Token.Scan

/-!
# Spans that fit a text

A span is two numbers, and most pairs of numbers do not fit a given text.  Those that do divide it
into three parts.

* `Text.IsPlace` — the offsets in range that are not inside a character;
* `Span.Divides` — the three parts of a text, with the covered part in the middle;
* `Span.Fits` — the spans between two places of a text.

Where a span that fits ends is a machine word, and for other spans it need not be one
(`Span.stop?_eq_none_iff`).

The spans of tokens fit (`Token.StandsIn.fits`), and so does what covers two spans that fit
(`Fits.cover`).  All spans of a script are made in these two ways.
-/

namespace LooseEquality

/-- An offset is in range of a text and not inside a character. -/
def Text.IsPlace (text : List Char) (n : Nat) : Prop :=
  ∃ before after, text = before ++ after ∧ byteLength before = n

/-- In an ASCII text all offsets in range are places. -/
lemma Text.isPlace_iff_of_ascii {text : List Char} (h : ∀ c ∈ text, c.toNat < 128) {n : Nat} :
    IsPlace text n ↔ n ≤ byteLength text := by
  constructor
  · rintro ⟨before, after, rfl, rfl⟩
    rw [byteLength_append]
    exact Nat.le_add_right _ _
  · intro hn
    rw [byteLength_of_ascii h] at hn
    refine ⟨text.take n, text.drop n, (List.take_append_drop n text).symm, ?_⟩
    rw [byteLength_of_ascii fun c hc => h c (List.mem_of_mem_take hc), List.length_take,
      Nat.min_eq_left hn]

namespace Span

/-- What a span has in front of it, what it covers, and what stands behind it. -/
structure Divides (s : Span) (text before mid after : List Char) : Prop where
  eq_append : text = before ++ (mid ++ after)
  offset_eq : s.offset = Text.byteLength before
  length_eq : s.length = Text.byteLength mid

/-- A span starts and ends at places of a text. -/
def Fits (s : Span) (text : List Char) : Prop :=
  Text.IsPlace text s.offset ∧ Text.IsPlace text s.stop

variable {s t : Span} {text before mid after : List Char}

lemma Divides.fits (h : s.Divides text before mid after) : s.Fits text := by
  constructor
  · exact ⟨before, mid ++ after, h.eq_append, h.offset_eq.symm⟩
  · refine ⟨before ++ mid, after, by rw [h.eq_append, List.append_assoc], ?_⟩
    rw [Text.byteLength_append, stop, h.offset_eq, h.length_eq]

/-- **A span that fits divides the text.** -/
theorem Fits.exists_divides (h : s.Fits text) :
    ∃ before mid after, s.Divides text before mid after := by
  obtain ⟨⟨before, rest, rfl, hbefore⟩, front, after, hsplit, hfront⟩ := h
  obtain ⟨mid, rfl, rfl⟩ := Text.exists_append_of_byteLength_le hsplit
    (by rw [hbefore, hfront, stop]; omega)
  refine ⟨before, mid, after, rfl, hbefore.symm, ?_⟩
  rw [Text.byteLength_append, stop] at hfront
  omega

/-- A cover starts where one of the two spans starts, and ends where one of them ends. -/
theorem Fits.cover (hs : s.Fits text) (ht : t.Fits text) : (s.cover t).Fits text := by
  constructor
  · simp only [Span.cover]
    rcases Nat.le_total s.offset t.offset with h | h
    · rw [Nat.min_eq_left h]
      exact hs.1
    · rw [Nat.min_eq_right h]
      exact ht.1
  · rw [stop_cover]
    rcases Nat.le_total s.stop t.stop with h | h
    · rw [Nat.max_eq_right h]
      exact ht.2
    · rw [Nat.max_eq_left h]
      exact hs.2

lemma fits_end (text : List Char) : Fits ⟨Text.byteLength text, 0⟩ text := by
  have hplace : Text.IsPlace text (Text.byteLength text) := ⟨text, [], by simp, rfl⟩
  exact ⟨hplace, hplace⟩

/-! ### Ends as machine words -/

lemma eq_of_stop?_eq_some {n : Nat} (h : s.stop? text = some n) : n = s.stop := by
  rw [stop?] at h
  split at h
  · exact (Option.some.inj h).symm
  · cases h

lemma stop?_of_lt (h : s.stop < wordCount) (text : List Char) : s.stop? text = some s.stop :=
  if_pos (.inl h)

/-- What ends in the text does not overflow. -/
lemma Fits.stop?_eq (h : s.Fits text) : s.stop? text = some s.stop := by
  obtain ⟨-, front, back, rfl, hfront⟩ := h
  refine if_pos (.inr ?_)
  rw [Text.byteLength_append, hfront]
  exact Nat.le_add_right _ _

/-- **An end is no machine word** if the sum of offset and length overflows. -/
theorem stop?_eq_none_iff (htext : Text.byteLength text < wordCount) :
    s.stop? text = none ↔ wordCount ≤ s.stop := by
  rw [stop?]
  split
  · simp only [reduceCtorEq, false_iff]
    omega
  · simp only [true_iff]
    omega

/-- What a span covers can be extracted. -/
lemma Divides.extract? {text : String} (h : s.Divides text.toList before mid after) :
    s.extract? text = some (String.ofList mid) := by
  have hafter := Text.splitAtByte?_eq_some_iff.2 ⟨h.eq_append, h.offset_eq.symm⟩
  have hmid := Text.splitAtByte?_eq_some_iff.2
    ⟨(rfl : mid ++ after = mid ++ after), h.length_eq.symm⟩
  simp [Span.extract?, hafter, hmid]

end Span

/-! ## Tokens -/

namespace Token

variable {t : Token}

lemma StandsIn.divides {script : List Char} (h : t.StandsIn script) :
    ∃ before after, t.span.Divides script before t.text.toList after := by
  obtain ⟨before, after, hsplit, hoffset, -, -⟩ := h
  rw [List.append_assoc] at hsplit
  exact ⟨before, after, hsplit, hoffset.symm, rfl⟩

lemma StandsIn.fits {script : List Char} (h : t.StandsIn script) : t.span.Fits script := by
  obtain ⟨before, after, hdivides⟩ := h.divides
  exact hdivides.fits

/-- A token is where its span says. -/
lemma StandsIn.extract? {script : String} (h : t.StandsIn script.toList) :
    t.span.extract? script = some t.text := by
  obtain ⟨before, after, hdivides⟩ := h.divides
  rw [hdivides.extract?, String.ofList_toList]

end Token
end LooseEquality
