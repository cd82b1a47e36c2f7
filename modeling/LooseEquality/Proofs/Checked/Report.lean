import LooseEquality.Proofs.Span
import LooseEquality.Proofs.Text.Slice
import LooseEquality.Report
import Mathlib.Tactic.Ring

/-!
# Reports by offsets

The place of a span and the picture of its line, found with offsets alone: the line starts behind
the last line feed before the span, ends at the first one from there on, and the marked part is a
slice from the start of the span to its end or to the end of the line, whichever comes first.  The
end of the span is found before it is compared to that of the line, and it has to be a machine word.

Nothing is asked of the measure of width, and what is found is what the library shows with the same
measure (`describe?_eq`).

**`describe?_eq_none_iff`** says when there is no report of a fault that is tied to a place of the
text: the part of the line before the span, or the part of it that is marked, is wider than a run of
spaces or carets can be.  The margin under the number of the line is drawn without a check, for no
text that fits into memory has a line number that long (`length_lineNumber_le`).
-/

namespace LooseEquality
namespace Checked

section Width

variable (width : List Char → Nat)

/-- The place where a span starts. -/
def location? (s : Span) (text : List Char) : Option Location := do
  let before ← Text.upTo? s.offset text
  let left ← Text.slice? (Text.lineStart before) s.offset text
  some ⟨Text.lineFeeds before + 1, width left + 1⟩

/-- A line with its number in front, and carets under what is marked behind a part on the left. -/
def picture? (number line left marked : List Char) : Option String := do
  let margin ← Span.run? ' ' (width left)
  let carets ← Span.run? '^' (max 1 (width marked))
  some <| String.ofList <|
    number ++ [':', ' '] ++ line ++ ['\n']
      ++ List.replicate (number.length + 2) ' ' ++ margin ++ carets

/-- The line in which a span starts, with the part of it underlined that the span covers. -/
def highlight? (s : Span) (text : List Char) : Option String := do
  let before ← Text.upTo? s.offset text
  let start := Text.lineStart before
  let rest ← Text.behind? start text
  let lineStop := start + (Text.offsetOf? ['\n'] rest).getD (Text.byteLength rest)
  let line ← Text.slice? start lineStop text
  let stop ← s.stop? text
  let left ← Text.slice? start s.offset text
  let marked ← Text.slice? s.offset (min stop lineStop) text
  picture? width (Numeral.digits (Text.lineFeeds before + 1)) line left marked

/-- The report of a fault in a text. -/
def describe? (f : Fault) (text : String) : Option String :=
  match f.span? with
  | none => some f.message
  | some span => do
    let location ← location? width span text.toList
    let highlight ← highlight? width span text.toList
    some (f.message ++ " at " ++ location.text ++ "\n" ++ highlight)

/-! ## Spans that start at a place of the text -/

variable {s : Span} {before : List Char}

lemma slice?_left (before rest : List Char) :
    Text.slice? (Text.lineStart before) (Text.byteLength before) (before ++ rest)
      = some (Text.lastLine before) := by
  rw [Text.byteLength_eq_lineStart_add, Text.slice?_lineStart, Text.upTo?_append]

lemma location?_append (hoffset : s.offset = Text.byteLength before) (rest : List Char) :
    location? width s (before ++ rest)
      = some ⟨Text.lineFeeds before + 1, width (Text.lastLine before) + 1⟩ := by
  simp [location?, hoffset, Text.upTo?_append, slice?_left]

/-- The line ends where the rest of the line ends. -/
lemma lineStart_add_lineLength (before rest : List Char) :
    Text.lineStart before + (Text.offsetOf? ['\n'] (Text.lastLine before ++ rest)).getD
        (Text.byteLength (Text.lastLine before ++ rest))
      = Text.byteLength before + Text.byteLength (Text.firstLine rest) := by
  rw [Text.offsetOf?_lineFeed, Text.firstLine_append (Text.lineFeed_not_mem_lastLine before),
    Text.byteLength_append, Text.byteLength_eq_lineStart_add before, Nat.add_assoc]

lemma slice?_line (before rest : List Char) :
    Text.slice? (Text.lineStart before)
        (Text.byteLength before + Text.byteLength (Text.firstLine rest)) (before ++ rest)
      = some (Text.lastLine before ++ Text.firstLine rest) := by
  obtain ⟨back, hback⟩ := Text.exists_append_firstLine rest
  rw [Text.byteLength_eq_lineStart_add before, Nat.add_assoc, Text.slice?_lineStart,
    ← Text.byteLength_append]
  have hline := Text.upTo?_append (Text.lastLine before ++ Text.firstLine rest) back
  rwa [List.append_assoc, ← hback] at hline

/-- What is marked is what the span covers of the rest of the line. -/
lemma slice?_marked (hoffset : s.offset = Text.byteLength before) (rest : List Char) :
    Text.slice? s.offset
        (min s.stop (Text.byteLength before + Text.byteLength (Text.firstLine rest)))
        (before ++ rest)
      = s.covered? (Text.firstLine rest) := by
  obtain ⟨back, hback⟩ := Text.exists_append_firstLine rest
  rw [Span.stop, hoffset, Nat.add_min_add_left, Text.slice?, Text.distance?_add, Option.bind_some,
    Text.behind?_append, Option.bind_some]
  have hmarked := Text.upTo?_append_of_le
    (Nat.min_le_right s.length (Text.byteLength (Text.firstLine rest))) back
  rwa [← hback] at hmarked

/-- **A highlight** shows the line around the start of the span, unless the end of the span is no
machine word. -/
theorem highlight?_append (hoffset : s.offset = Text.byteLength before) (rest : List Char) :
    highlight? width s (before ++ rest)
      = (s.stop? (before ++ rest)).bind fun _ => (s.covered? (Text.firstLine rest)).bind
          (picture? width (Numeral.digits (Text.lineFeeds before + 1))
            (Text.lastLine before ++ Text.firstLine rest) (Text.lastLine before)) := by
  simp only [highlight?, hoffset, Text.upTo?_append, Text.behind?_lineStart,
    lineStart_add_lineLength, slice?_line, slice?_left, Option.bind_eq_bind, Option.bind_some]
  cases hstop : s.stop? (before ++ rest) with
  | none => rfl
  | some stop =>
    obtain rfl := Span.eq_of_stop?_eq_some hstop
    have hmarked := slice?_marked hoffset rest
    rw [hoffset] at hmarked
    simp only [hmarked, Option.bind_some]

/-! ## What can be in the way of a report -/

lemma run?_eq_none_iff {c : Char} {n : Nat} : Span.run? c n = none ↔ Span.maxRun < n := by
  simp [Span.run?]

lemma picture?_eq_none_iff (number line left marked : List Char) :
    picture? width number line left marked = none ↔
      Span.maxRun < width left ∨ Span.maxRun < width marked := by
  have hcaret : Span.maxRun < max 1 (width marked) ↔ Span.maxRun < width marked := by
    have : 1 ≤ Span.maxRun := by decide
    omega
  rw [picture?, ← hcaret, ← run?_eq_none_iff (c := ' '), ← run?_eq_none_iff (c := '^')]
  cases Span.run? ' ' (width left) with
  | none => simp
  | some margin =>
    cases Span.run? '^' (max 1 (width marked)) with
    | none => simp
    | some carets => simp

/-- What a span covers of its line is the first line of what it covers. -/
lemma covered?_eq {text mid after : List Char} (h : s.Divides text before mid after) :
    s.covered? (Text.firstLine (mid ++ after)) = some (Text.firstLine mid) := by
  obtain ⟨hmin, back, hback⟩ := Text.firstLine_append_split mid after
  rw [Span.covered?, h.length_eq, hmin, hback, Text.splitAtByte?_append, Option.map_some]

/-- **A report of a fault at a place of the text** is there, unless the text before it on its line
or the marked text is too wide to be drawn. -/
theorem describe?_eq_none_iff {f : Fault} {text : String} {mid after : List Char}
    (hf : f.span? = some s) (h : s.Divides text.toList before mid after) :
    describe? width f text = none ↔
      Span.maxRun < width (Text.lastLine before) ∨ Span.maxRun < width (Text.firstLine mid) := by
  have hstop := h.fits.stop?_eq
  rw [h.eq_append] at hstop
  rw [← picture?_eq_none_iff width (Numeral.digits (Text.lineFeeds before + 1))
    (Text.lastLine before ++ Text.firstLine (mid ++ after))]
  simp only [describe?, hf, h.eq_append, location?_append width h.offset_eq,
    highlight?_append width h.offset_eq, hstop, covered?_eq h, Option.bind_eq_bind,
    Option.bind_some]
  cases picture? width (Numeral.digits (Text.lineFeeds before + 1))
      (Text.lastLine before ++ Text.firstLine (mid ++ after)) (Text.lastLine before)
      (Text.firstLine mid) with
  | none => simp
  | some picture => simp

/-! ## The reports of the library -/

lemma location?_eq (s : Span) (text : String) :
    location? width s text.toList = s.location? text width := by
  cases hcut : Text.splitAtByte? s.offset text.toList with
  | none => simp [location?, Span.location?, Text.upTo?, hcut]
  | some parts =>
    obtain ⟨before, rest⟩ := parts
    obtain ⟨htext, hoffset⟩ := Text.splitAtByte?_eq_some_iff.1 hcut
    rw [Span.location?, hcut, htext, location?_append width hoffset.symm]
    rfl

lemma highlight?_eq (s : Span) (text : String) :
    highlight? width s text.toList = s.highlight? text width := by
  cases hcut : Text.splitAtByte? s.offset text.toList with
  | none => simp [highlight?, Span.highlight?, Text.upTo?, hcut]
  | some parts =>
    obtain ⟨before, rest⟩ := parts
    obtain ⟨htext, hoffset⟩ := Text.splitAtByte?_eq_some_iff.1 hcut
    rw [Span.highlight?, hcut, htext, highlight?_append width hoffset.symm]
    cases s.stop? (before ++ rest) with
    | none => rfl
    | some stop =>
      cases hcovered : s.covered? (Text.firstLine rest) with
      | none => simp [hcovered]
      | some marked =>
        simp only [hcovered, Option.bind_some, picture?]
        cases Span.run? ' ' (width (Text.lastLine before)) with
        | none => rfl
        | some margin =>
          cases Span.run? '^' (max 1 (width marked)) with
          | none => rfl
          | some carets => rfl

/-- **Reports by offsets are the reports of the library**, of any fault in any text. -/
theorem describe?_eq (f : Fault) (text : String) :
    describe? width f text = f.describe? text width := by
  unfold describe? Fault.describe?
  cases f.span? with
  | none => rfl
  | some span =>
    simp only [location?_eq, highlight?_eq]
    cases span.location? text width with
    | none => rfl
    | some location =>
      cases span.highlight? text width with
      | none => rfl
      | some highlight => rfl

end Width

/-! ## Line numbers -/

lemma length_digits_le {n k : Nat} (h : n < 10 ^ (k + 1)) : (Numeral.digits n).length ≤ k + 1 := by
  induction k generalizing n with
  | zero =>
    rw [Numeral.digits, if_pos (by simpa using h)]
    rfl
  | succ k ih =>
    rw [Numeral.digits]
    split
    · simp
    · have := ih (n := n / 10) (by rw [pow_succ] at h; omega)
      simpa using this

lemma lineFeeds_le_byteLength (cs : List Char) : Text.lineFeeds cs ≤ Text.byteLength cs := by
  induction cs with
  | nil => rfl
  | cons c cs ih =>
    have := c.utf8Size_pos
    simp only [Text.lineFeeds, List.count_cons, Text.byteLength_cons] at ih ⊢
    split <;> omega

/-- The number of a line in a text that can be addressed with 64 bits has at most twenty digits. -/
theorem length_lineNumber_le {before : List Char} (h : Text.byteLength before < 2 ^ 64) :
    (Numeral.digits (Text.lineFeeds before + 1)).length ≤ 20 := by
  have := lineFeeds_le_byteLength before
  exact length_digits_le (by omega)

end Checked
end LooseEquality
