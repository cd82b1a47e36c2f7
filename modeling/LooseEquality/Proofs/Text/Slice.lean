import LooseEquality.Proofs.Text.Bytes
import LooseEquality.Text.Line
import Mathlib.Data.List.TakeWhile

/-!
# Slices of a text

Parts of a text named by offsets alone, the way they are named where the text is an array of bytes:
what stands before an offset (`Text.upTo?`), from an offset on (`Text.behind?`), and between two
offsets (`Text.slice?`).  A slice that starts or ends inside a character or outside of the text, or
that ends before it starts, is `none`; and so is a difference of offsets in the wrong order
(`Text.distance?`).

**The line around an offset** takes two searches for line feeds, one to the left and one to the
right.  `exists_append_lineStart` and `offsetOf?_lineFeed` say that they end where
`Text.lastLine` and `Text.firstLine` end.
-/

namespace LooseEquality
namespace Text

/-- The part of a text before an offset. -/
def upTo? (n : Nat) (cs : List Char) : Option (List Char) := (splitAtByte? n cs).map Prod.fst

/-- The part of a text from an offset on. -/
def behind? (n : Nat) (cs : List Char) : Option (List Char) := (splitAtByte? n cs).map Prod.snd

/-- The distance from one offset to a later one. -/
def distance? (i j : Nat) : Option Nat := if i ≤ j then some (j - i) else none

/-- The part of a text from one offset to another. -/
def slice? (i j : Nat) (cs : List Char) : Option (List Char) :=
  (distance? i j).bind fun n => (behind? i cs).bind (upTo? n)

/-- The offset of the last occurrence of a character. -/
def lastOffsetOf? (sought : Char) : List Char → Option Nat
  | [] => none
  | c :: cs =>
    match lastOffsetOf? sought cs with
    | some n => some (c.utf8Size + n)
    | none => if c = sought then some 0 else none

/-- The offset at which the last line of a text starts. -/
def lineStart (cs : List Char) : Nat := ((lastOffsetOf? '\n' cs).map (· + 1)).getD 0

/-! ## Slices between characters -/

lemma splitAtByte?_append (before after : List Char) :
    splitAtByte? (byteLength before) (before ++ after) = some (before, after) :=
  splitAtByte?_eq_some_iff.2 ⟨rfl, rfl⟩

lemma upTo?_append (before after : List Char) :
    upTo? (byteLength before) (before ++ after) = some before := by
  simp [upTo?, splitAtByte?_append]

lemma behind?_append (before after : List Char) :
    behind? (byteLength before) (before ++ after) = some after := by
  simp [behind?, splitAtByte?_append]

lemma distance?_add (i n : Nat) : distance? i (i + n) = some n := by
  simp [distance?]

/-- **A slice between two places of a text** is what stands between them. -/
lemma slice?_append (before mid after : List Char) :
    slice? (byteLength before) (byteLength before + byteLength mid) (before ++ (mid ++ after))
      = some mid := by
  simp [slice?, distance?_add, behind?_append, upTo?_append]

/-- A part at the front of a text does not depend on what is behind it. -/
lemma upTo?_append_of_le {n : Nat} {cs : List Char} (h : n ≤ byteLength cs) (ds : List Char) :
    upTo? n (cs ++ ds) = upTo? n cs := by
  simp only [upTo?]
  cases hcut : splitAtByte? n cs with
  | some parts =>
    obtain ⟨front, back⟩ := parts
    obtain ⟨rfl, rfl⟩ := splitAtByte?_eq_some_iff.1 hcut
    rw [List.append_assoc, splitAtByte?_append]
    rfl
  | none =>
    cases hcut' : splitAtByte? n (cs ++ ds) with
    | none => rfl
    | some parts =>
      -- a cut at the front of the longer text is one of the shorter
      obtain ⟨front, back⟩ := parts
      obtain ⟨hsplit, rfl⟩ := splitAtByte?_eq_some_iff.1 hcut'
      obtain ⟨mid, rfl, -⟩ := exists_append_of_byteLength_le hsplit.symm h
      rw [splitAtByte?_append] at hcut
      cases hcut

/-! ## Lines -/

@[simp] lemma lineFeeds_append (cs ds : List Char) :
    lineFeeds (cs ++ ds) = lineFeeds cs + lineFeeds ds := List.count_append

@[simp] lemma lineFeeds_cons_newline (cs : List Char) :
    lineFeeds ('\n' :: cs) = lineFeeds cs + 1 := List.count_cons_self

lemma lastOffsetOf?_eq_none {sought : Char} {cs : List Char} (h : sought ∉ cs) :
    lastOffsetOf? sought cs = none := by
  induction cs with
  | nil => rfl
  | cons c cs ih =>
    simp only [List.mem_cons, not_or] at h
    simp [lastOffsetOf?, ih h.2, Ne.symm h.1]

lemma lastOffsetOf?_append_cons (front : List Char) {sought : Char} {cs : List Char}
    (h : sought ∉ cs) : lastOffsetOf? sought (front ++ sought :: cs) = some (byteLength front) := by
  induction front with
  | nil => simp [lastOffsetOf?, lastOffsetOf?_eq_none h]
  | cons c front ih => simp [lastOffsetOf?, ih]

lemma lineFeed_not_mem_firstLine (cs : List Char) : '\n' ∉ firstLine cs := by
  intro h
  have hinside := List.mem_takeWhile_imp h
  simp [isInLine] at hinside

lemma lineFeed_not_mem_lastLine (cs : List Char) : '\n' ∉ lastLine cs := by
  intro h
  have := List.mem_takeWhile_imp (List.mem_reverse.1 h)
  simp [isInLine] at this

lemma lastLine_sublist (cs : List Char) : (lastLine cs).Sublist cs := by
  have hreverse := (List.takeWhile_sublist isInLine (l := cs.reverse)).reverse
  rwa [List.reverse_reverse] at hreverse

lemma firstLine_sublist (cs : List Char) : (firstLine cs).Sublist cs :=
  List.takeWhile_sublist isInLine

/-- **The last line of a text** is what stands behind its start. -/
theorem exists_append_lineStart (cs : List Char) :
    ∃ front, cs = front ++ lastLine cs ∧ byteLength front = lineStart cs := by
  have hsplit : cs = (cs.reverse.dropWhile isInLine).reverse ++ lastLine cs := by
    rw [lastLine, ← List.reverse_append, List.takeWhile_append_dropWhile, List.reverse_reverse]
  refine ⟨_, hsplit, ?_⟩
  cases hfront : cs.reverse.dropWhile isInLine with
  | nil =>
    rw [hfront, List.reverse_nil, List.nil_append] at hsplit
    have hnot := lineFeed_not_mem_lastLine cs
    rw [← hsplit] at hnot
    simp [lineStart, lastOffsetOf?_eq_none hnot]
  | cons c front =>
    obtain rfl : c = '\n' := by
      have := List.head?_dropWhile_not isInLine cs.reverse
      simpa [hfront, isInLine] using this
    rw [hfront, List.reverse_cons, List.append_assoc, List.singleton_append] at hsplit
    have hlast := lastOffsetOf?_append_cons front.reverse (lineFeed_not_mem_lastLine cs)
    rw [← hsplit] at hlast
    have hsize : '\n'.utf8Size = 1 := rfl
    simp [lineStart, hlast, hsize]

lemma firstLine_cons {c : Char} (hc : c ≠ '\n') (cs : List Char) :
    firstLine (c :: cs) = c :: firstLine cs :=
  List.takeWhile_cons_of_pos (by simp [isInLine, hc])

/-- The first line of a text ends at the first line feed, or at the end of the text. -/
theorem offsetOf?_lineFeed (cs : List Char) :
    (offsetOf? ['\n'] cs).getD (byteLength cs) = byteLength (firstLine cs) := by
  induction cs with
  | nil => rfl
  | cons c cs ih =>
    by_cases hc : c = '\n'
    · subst hc
      rfl
    · simp only [firstLine_cons hc, byteLength_cons, ← ih]
      cases h : offsetOf? ['\n'] cs with
      | none => simp [offsetOf?, Ne.symm hc, h]
      | some n => simp [offsetOf?, Ne.symm hc, h]

lemma exists_append_firstLine (cs : List Char) : ∃ back, cs = firstLine cs ++ back :=
  ⟨cs.dropWhile isInLine, List.takeWhile_append_dropWhile.symm⟩

/-- The end of a line does not depend on where in the line it is looked for. -/
lemma firstLine_append {left : List Char} (h : '\n' ∉ left) (right : List Char) :
    firstLine (left ++ right) = left ++ firstLine right := by
  refine List.takeWhile_append_of_pos fun c hc => ?_
  simp only [isInLine, bne_iff_ne]
  rintro rfl
  exact h hc

/-- The first line of the front of a text is the front of the first line. -/
lemma firstLine_append_split (mid after : List Char) :
    min (byteLength mid) (byteLength (firstLine (mid ++ after))) = byteLength (firstLine mid) ∧
      ∃ back, firstLine (mid ++ after) = firstLine mid ++ back := by
  induction mid with
  | nil => exact ⟨Nat.zero_min _, firstLine after, rfl⟩
  | cons c mid ih =>
    by_cases hc : c = '\n'
    · subst hc
      exact ⟨Nat.min_zero _, [], rfl⟩
    · obtain ⟨hmin, back, hback⟩ := ih
      rw [List.cons_append, firstLine_cons hc, firstLine_cons hc, hback]
      refine ⟨?_, back, rfl⟩
      rw [hback] at hmin
      simp only [byteLength_cons]
      omega

/-! ## The line around a place -/

section Line

variable (before rest : List Char)

lemma byteLength_eq_lineStart_add :
    byteLength before = lineStart before + byteLength (lastLine before) := by
  obtain ⟨front, hsplit, hstart⟩ := exists_append_lineStart before
  rw [← hstart, ← byteLength_append, ← hsplit]

lemma behind?_lineStart :
    behind? (lineStart before) (before ++ rest) = some (lastLine before ++ rest) := by
  obtain ⟨front, hsplit, hstart⟩ := exists_append_lineStart before
  have htext : before ++ rest = front ++ (lastLine before ++ rest) := by
    rw [← List.append_assoc, ← hsplit]
  rw [htext, ← hstart, behind?_append]

/-- A slice from the start of the line on. -/
lemma slice?_lineStart (n : Nat) :
    slice? (lineStart before) (lineStart before + n) (before ++ rest)
      = upTo? n (lastLine before ++ rest) := by
  rw [slice?, distance?_add, Option.bind_some, behind?_lineStart, Option.bind_some]

end Line

end Text
end LooseEquality
