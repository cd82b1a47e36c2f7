import LooseEquality.Proofs.Session.Transcript
import LooseEquality.Proofs.Text.Slice
import LooseEquality.Report

/-!
# Reports of a text among others

A text may be part of a larger one and have its lines for itself there (`Text.HasLinesIn`).  Then a
span of the text, moved to where the text is, looks the same as before:

* **`location?_shift`** — it starts in the same column, and the lines before it are counted in;
* **`isSome_highlight?_shift`** — it can be underlined if it could be before.

Whether a span can be underlined is a question of what stands to its left on its line and of the
part of the line that it covers, and of nothing else (`isSome_highlight?_congr`).  The spans have to
fit their texts for this, or the end of one that is moved might get too big for a machine word.
-/

namespace LooseEquality
namespace Text

/-- A text is part of a larger one, and no other part of it is on the same lines. -/
structure HasLinesIn (text whole before after : List Char) : Prop where
  eq_append : whole = before ++ (text ++ after)
  lastLine_before : lastLine before = []
  firstLine_after : firstLine after = []

lemma lastLine_append {cs : List Char} (h : lastLine cs = []) (ds : List Char) :
    lastLine (cs ++ ds) = lastLine ds := by
  rw [lastLine, List.reverse_eq_nil_iff] at h
  rw [lastLine, lastLine, List.reverse_append, List.takeWhile_append, h, List.append_nil]
  split
  · next hall => rw [(List.takeWhile_sublist isInLine).eq_of_length hall]
  · rfl

lemma firstLine_append_of_nil {ds : List Char} (h : firstLine ds = []) (cs : List Char) :
    firstLine (cs ++ ds) = firstLine cs := by
  rw [firstLine] at h
  rw [firstLine, firstLine, List.takeWhile_append, h, List.append_nil]
  split
  · next hall => rw [(List.takeWhile_sublist isInLine).eq_of_length hall]
  · rfl

end Text

namespace Span

variable {width : List Char → Nat}

/-- Whether there is a highlight depends on the line to the left of the span and on what the span
covers of the line. -/
lemma isSome_highlight?_congr {s s' : Span} {text text' : String}
    {before after before' after' : List Char}
    (h : Text.splitAtByte? s.offset text.toList = some (before, after))
    (h' : Text.splitAtByte? s'.offset text'.toList = some (before', after'))
    (hfits : s.Fits text.toList) (hfits' : s'.Fits text'.toList)
    (hleft : Text.lastLine before = Text.lastLine before')
    (hcovered : s.covered? (Text.firstLine after) = s'.covered? (Text.firstLine after')) :
    (s.highlight? text width).isSome = (s'.highlight? text' width).isSome := by
  simp only [highlight?, h, h', hfits.stop?_eq, hfits'.stop?_eq, hleft, hcovered]
  cases s'.covered? (Text.firstLine after') with
  | none => rfl
  | some marked =>
    simp only
    cases run? ' ' (width (Text.lastLine before')) with
    | none => rfl
    | some margin =>
      cases run? '^' (max 1 (width marked)) with
      | none => rfl
      | some carets => rfl

section Part

variable {s : Span} {text whole : String} {before after : List Char}
  (h : Text.HasLinesIn text.toList whole.toList before after)

include h

lemma splitAtByte?_shift {front back : List Char}
    (hsplit : Text.splitAtByte? s.offset text.toList = some (front, back)) :
    Text.splitAtByte? (s.shift (Text.byteLength before)).offset whole.toList
      = some (before ++ front, back ++ after) := by
  obtain ⟨htext, hoffset⟩ := Text.splitAtByte?_eq_some_iff.1 hsplit
  refine Text.splitAtByte?_eq_some_iff.2 ⟨?_, ?_⟩
  · rw [h.eq_append, htext]
    simp only [List.append_assoc]
  · rw [Text.byteLength_append, offset_shift, hoffset, Nat.add_comm]

/-- A span that fits its text fits the larger one where it is moved to. -/
lemma Fits.shift (hs : s.Fits text.toList) :
    (s.shift (Text.byteLength before)).Fits whole.toList := by
  obtain ⟨front, mid, back, hdivides⟩ := hs.exists_divides
  have hmoved : (s.shift (Text.byteLength before)).Divides whole.toList (before ++ front) mid
      (back ++ after) := by
    refine ⟨?_, ?_, hdivides.length_eq⟩
    · rw [h.eq_append, hdivides.eq_append]
      simp only [List.append_assoc]
    · rw [Text.byteLength_append, offset_shift, hdivides.offset_eq, Nat.add_comm]
  exact hmoved.fits

/-- **Where a span is** among the other lines: in the same column, as many lines further down as
there are before the text. -/
theorem location?_shift {l : Location} (hl : s.location? text width = some l) :
    (s.shift (Text.byteLength before)).location? whole width
      = some ⟨Text.lineFeeds before + l.line, l.column⟩ := by
  obtain ⟨⟨front, back⟩, hsplit, rfl⟩ := Option.map_eq_some_iff.1 hl
  rw [location?, splitAtByte?_shift h hsplit, Option.map_some]
  simp only [Location.after, Text.lineFeeds_append, Text.lastLine_append h.lastLine_before,
    Nat.add_assoc]

/-- **A span can be underlined** among the other lines if it can be in its text alone. -/
theorem isSome_highlight?_shift (hfits : s.Fits text.toList)
    (hs : (s.highlight? text width).isSome) :
    ((s.shift (Text.byteLength before)).highlight? whole width).isSome := by
  cases hsplit : Text.splitAtByte? s.offset text.toList with
  | none => simp [highlight?, hsplit] at hs
  | some parts =>
    obtain ⟨front, back⟩ := parts
    rw [← hs]
    refine isSome_highlight?_congr (splitAtByte?_shift h hsplit) hsplit (hfits.shift h) hfits
      (Text.lastLine_append h.lastLine_before front) ?_
    rw [Text.firstLine_append_of_nil h.firstLine_after]
    rfl

end Part

end Span

namespace Fault

variable {width : List Char → Nat} {f : Fault} {text whole : String}

/-- A fault with a place is reported if its place can be underlined. -/
lemma isSome_describe?_iff {span : Span} (hspan : f.span? = some span) :
    (f.describe? text width).isSome ↔ (span.highlight? text width).isSome := by
  simp only [describe?, hspan]
  cases hhighlight : span.highlight? text width with
  | none => cases span.location? text width <;> simp
  | some highlight =>
    have hlocation : (span.location? text width).isSome := by
      simp only [Span.highlight?] at hhighlight
      simp only [Span.location?, Option.isSome_map]
      cases hsplit : Text.splitAtByte? span.offset text.toList with
      | none => simp [hsplit] at hhighlight
      | some parts => rfl
    obtain ⟨location, hlocation⟩ := Option.isSome_iff_exists.1 hlocation
    simp [hlocation]

/-- **A fault is reported** among other lines if it is for its text alone. -/
theorem isSome_describe?_shift {before after : List Char}
    (h : Text.HasLinesIn text.toList whole.toList before after) (hfits : f.Fits text.toList)
    (hf : (f.describe? text width).isSome) :
    ((f.shift (Text.byteLength before)).describe? whole width).isSome := by
  obtain ⟨span, hspan, hspanFits⟩ := hfits
  have hshift : (f.shift (Text.byteLength before)).span?
      = some (span.shift (Text.byteLength before)) := by
    rw [span?_shift, hspan, Option.map_some]
  rw [isSome_describe?_iff hshift]
  exact Span.isSome_highlight?_shift h hspanFits ((isSome_describe?_iff hspan).1 hf)

end Fault
end LooseEquality
