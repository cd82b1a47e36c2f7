import LooseEquality.Proofs.Checked.Report
import LooseEquality.Proofs.Text.Pieces

/-!
# Locations and highlights by pieces

A text is split into pieces at its line feeds, and a span starts in one of them.  What is shown of
the span is told from that piece alone: its index gives the line, what it has in front of the span
the column, and the carets are under the part of it that the span covers.

* `Span.clampedStop` — where a span ends, or its piece if that is sooner;
* `Span.drawn` — a line with its number, and carets under a part of it.

**`location_highlight_of_piece`** holds for any measure of width.  Location and highlight agree on
the line and on what stands to the left of the span because both are told from one piece.

They do not agree on which spans they are there for.  The end of the span is cut off at the end of
the piece, but only after offset and length were added up; so there is no highlight if the sum is no
machine word (`highlight?_beyond_words`), while the location is there in any case.
-/

namespace LooseEquality
namespace Span

/-- Where a span ends that starts in the piece with index `k`: at its own end, or at that of the
piece. -/
def clampedStop (s : Span) (text : List Char) (k : Nat) (piece : List Char) : Nat :=
  min s.stop (Text.startOf (Text.pieces text) k + Text.byteLength piece)

/-- A line with its number in front, and carets on a second line behind a margin.  The margin is
counted from where the line starts behind its number. -/
def drawn (number : Nat) (line : List Char) (margin carets : Nat) : String :=
  String.ofList <|
    Numeral.digits number ++ [':', ' '] ++ line ++ ['\n'] ++
      List.replicate ((Numeral.digits number).length + 2 + margin) ' ' ++
      List.replicate carets '^'

/-- Words have 64 bits. -/
lemma wordCount_eq : wordCount = 2 ^ 64 := rfl

section Piece

variable {s : Span} {text before rest piece : List Char} {k : Nat}

/-- The piece that a place is in, told by what stands before the place and behind it. -/
lemma exists_append_of_holds (hplace : Text.IsPlace text s.offset)
    (h : Text.Holds text k piece s.offset) :
    ∃ before rest, text = before ++ rest ∧ s.offset = Text.byteLength before ∧
      k = Text.lineFeeds before ∧ piece = Text.lastLine before ++ Text.firstLine rest := by
  obtain ⟨before, rest, rfl, hbefore⟩ := hplace
  rw [← hbefore] at h
  obtain ⟨hk, hpiece⟩ := Text.holds_unique h (Text.holds_append before rest)
  exact ⟨before, rest, rfl, hbefore.symm, hk, hpiece⟩

/-- Behind the place, the clamped span ends after a part of what is left of the piece. -/
lemma clampedStop_append (hoffset : s.offset = Text.byteLength before) :
    s.clampedStop (before ++ rest) (Text.lineFeeds before)
        (Text.lastLine before ++ Text.firstLine rest)
      = s.offset + min s.length (Text.byteLength (Text.firstLine rest)) := by
  have hstart := Text.startOf_pieces_append before rest
  rw [clampedStop, stop, Text.byteLength_append]
  omega

/-- A clamped span that ends at a place of the text covers a part of its line. -/
lemma exists_covered? (hoffset : s.offset = Text.byteLength before)
    (hstop : Text.IsPlace (before ++ rest)
      (s.offset + min s.length (Text.byteLength (Text.firstLine rest)))) :
    ∃ marked behind, Text.firstLine rest = marked ++ behind ∧
      Text.byteLength marked = min s.length (Text.byteLength (Text.firstLine rest)) ∧
      s.covered? (Text.firstLine rest) = some marked := by
  obtain ⟨upTo, after, hsplit, hupTo⟩ := hstop
  obtain ⟨marked, rfl, hrest⟩ := Text.exists_append_of_byteLength_le hsplit (by omega)
  have hmarked : Text.byteLength marked
      = min s.length (Text.byteLength (Text.firstLine rest)) := by
    rw [Text.byteLength_append, hoffset] at hupTo
    omega
  -- the marked part is no longer than the line, so it is a part of it
  obtain ⟨back, hback⟩ := Text.exists_append_firstLine rest
  obtain ⟨behind, hline, -⟩ :=
    Text.exists_append_of_byteLength_le (hrest.symm.trans hback) (by omega)
  refine ⟨marked, behind, hline, hmarked, ?_⟩
  rw [covered?, ← hmarked, hline, Text.splitAtByte?_append]
  rfl

/-- A picture that is not too wide is drawn. -/
lemma picture?_eq_drawn {width : List Char → Nat} (number : Nat) (line : List Char)
    {left marked : List Char} (hleft : width left ≤ maxRun)
    (hmarked : max 1 (width marked) ≤ maxRun) :
    Checked.picture? width (Numeral.digits number) line left marked
      = some (drawn number line (width left) (max 1 (width marked))) := by
  simp only [Checked.picture?, run?, hleft, hmarked, if_true, Option.bind_eq_bind,
    Option.bind_some, drawn, ← List.replicate_append_replicate, List.append_assoc]

end Piece

/-- **What is shown of a span is told from its piece.**  The start of a span is in exactly one piece
of the text.  The number of that piece is the line of the location, and what the piece has to the
left of the span is as wide as the columns in front.

If the end of the span is a machine word, then the span, clamped to the piece, does not end before
it starts; and if it ends at a place of the text, what it covers of the piece can be cut out, and
the highlight shows the piece under the same number, with carets behind as many columns for that
part.  If the end is no machine word, there is no highlight, wherever the piece ends. -/
theorem location_highlight_of_piece (width : List Char → Nat) (s : Span) (text : String)
    (hoffset : Text.IsPlace text.toList s.offset) :
    (∃! k, ∃ piece, Text.Holds text.toList k piece s.offset) ∧
    (∀ k piece, Text.Holds text.toList k piece s.offset → ∃ left right, piece = left ++ right ∧
      Text.startOf (Text.pieces text.toList) k + Text.byteLength left = s.offset ∧
      s.location? text width = some ⟨k + 1, width left + 1⟩ ∧
      (s.offset + s.length < 2 ^ 64 → s.offset ≤ s.clampedStop text.toList k piece ∧
        (Text.IsPlace text.toList (s.clampedStop text.toList k piece) → ∃ marked behind,
          right = marked ++ behind ∧
          s.offset + Text.byteLength marked = s.clampedStop text.toList k piece ∧
          Text.slice? s.offset (s.clampedStop text.toList k piece) text.toList = some marked ∧
          (width left ≤ 65535 → max 1 (width marked) ≤ 65535 →
            s.highlight? text width
              = some (drawn (k + 1) piece (width left) (max 1 (width marked))))))) ∧
    (Text.byteLength text.toList < 2 ^ 64 → 2 ^ 64 ≤ s.offset + s.length →
      s.highlight? text width = none) ∧
    s.location? text width = Checked.location? width s text.toList ∧
    s.highlight? text width = Checked.highlight? width s text.toList := by
  rw [← Checked.location?_eq, ← Checked.highlight?_eq]
  refine ⟨?_, ?_, fun htext hword => ?_, rfl, rfl⟩
  · obtain ⟨before, rest, htext, hbefore⟩ := hoffset
    have hholds := Text.holds_append before rest
    rw [← htext, hbefore] at hholds
    exact ⟨_, ⟨_, hholds⟩, fun k' ⟨piece', h'⟩ => (Text.holds_unique h' hholds).1⟩
  · intro k piece hholds
    obtain ⟨before, rest, htext, hbefore, rfl, rfl⟩ := exists_append_of_holds hoffset hholds
    rw [htext, clampedStop_append hbefore]
    refine ⟨_, _, rfl, ?_, Checked.location?_append width hbefore rest, fun hword => ?_⟩
    · rw [hbefore]
      exact Text.startOf_pieces_append before rest
    · refine ⟨Nat.le_add_right _ _, fun hstop => ?_⟩
      obtain ⟨marked, behind, hline, hmarked, hcovered⟩ := exists_covered? hbefore hstop
      refine ⟨marked, behind, hline, by rw [hmarked], ?_, fun hleft hcarets => ?_⟩
      · have hslice := Checked.slice?_marked hbefore rest
        rwa [hcovered, stop, hbefore, Nat.add_min_add_left, ← hbefore] at hslice
      · rw [Checked.highlight?_append width hbefore, stop?_of_lt (wordCount_eq ▸ hword),
          Option.bind_some, hcovered, Option.bind_some]
        exact picture?_eq_drawn _ _ hleft hcarets
  · obtain ⟨before, rest, htext', hbefore⟩ := hoffset
    rw [← wordCount_eq] at htext hword
    rw [htext'] at htext ⊢
    rw [Checked.highlight?_append width hbefore.symm, (stop?_eq_none_iff htext).2 hword,
      Option.bind_none]

/-- **A span that goes on beyond all words** is not shown, although it starts at a place of its line
and ends, clamped to the line, at another.  It does have a location, and without the sum it would
look like this. -/
theorem highlight?_beyond_words :
    Text.Holds "null".toList 0 "null".toList 1 ∧ Text.IsPlace "null".toList 1 ∧
      Text.IsPlace "null".toList
        (clampedStop ⟨1, 18446744073709551615⟩ "null".toList 0 "null".toList) ∧
      location? ⟨1, 18446744073709551615⟩ "null" List.length = some ⟨1, 2⟩ ∧
      highlight? ⟨1, 18446744073709551615⟩ "null" List.length = none ∧
      drawn 1 "null".toList ("n".toList.length) ("ull".toList.length) = "1: null\n    ^^^" := by
  have hplace : ∀ before after : String, "null".toList = before.toList ++ after.toList →
      Text.IsPlace "null".toList (Text.byteLength before.toList) :=
    fun before after h => ⟨before.toList, after.toList, h, rfl⟩
  exact ⟨⟨by decide +kernel, by decide +kernel, by decide +kernel⟩, hplace "n" "ull" rfl,
    hplace "null" "" rfl, by decide +kernel, by decide +kernel, by decide +kernel⟩

/-! A span behind a wide character that goes on beyond its line. -/

def wideLine : String := "null\nstring 世 == array i\n"

lemma isPlace_wideLine {n : Nat} (before after : List Char)
    (htext : wideLine.toList = before ++ after) (hn : Text.byteLength before = n) :
    Text.IsPlace wideLine.toList n := ⟨before, after, htext, hn⟩

theorem location_highlight_of_wideLine :
    Text.IsPlace wideLine.toList 16 ∧
      location? ⟨16, 100⟩ wideLine Text.width = some ⟨2, 11⟩ ∧
      highlight? ⟨16, 100⟩ wideLine Text.width
        = some "2: string 世 == array i\n             ^^^^^^^^^^" := by
  have hoffset := isPlace_wideLine "null\nstring 世 ".toList "== array i\n".toList rfl rfl
  have hstop := isPlace_wideLine "null\nstring 世 == array i".toList "\n".toList rfl rfl
  have hholds : Text.Holds wideLine.toList 1 "string 世 == array i".toList 16 :=
    ⟨by decide +kernel, by decide +kernel, by decide +kernel⟩
  obtain ⟨-, hshown, -⟩ := location_highlight_of_piece Text.width ⟨16, 100⟩ wideLine hoffset
  obtain ⟨left, right, hpiece, hleft, hat, hword⟩ := hshown 1 _ hholds
  obtain ⟨-, hdrawn⟩ := hword (by decide)
  have hstart : Text.startOf (Text.pieces wideLine.toList) 1 = 5 := by decide +kernel
  have hclamped : clampedStop ⟨16, 100⟩ wideLine.toList 1 "string 世 == array i".toList = 26 := by
    decide +kernel
  have hsplit : "string 世 ".toList ++ "== array i".toList = left ++ right := hpiece
  have hlength : Text.byteLength "string 世 ".toList = Text.byteLength left := by
    have hsize : Text.byteLength "string 世 ".toList = 11 := by decide +kernel
    rw [hstart] at hleft
    exact hsize.trans (Nat.add_left_cancel (hleft.symm : 5 + 11 = 5 + Text.byteLength left))
  obtain ⟨rfl, rfl⟩ := Text.append_inj_of_byteLength hsplit hlength
  obtain ⟨marked, behind, hright, hmarked, -, hdrawn⟩ := hdrawn (hclamped ▸ hstop)
  have hsplit' : "== array i".toList ++ [] = marked ++ behind := hright
  have hlength' : Text.byteLength "== array i".toList = Text.byteLength marked := by
    rw [hclamped] at hmarked
    exact Nat.add_left_cancel (hmarked.symm : 16 + 10 = 16 + Text.byteLength marked)
  obtain ⟨rfl, -⟩ := Text.append_inj_of_byteLength hsplit' hlength'
  have hwidth : Text.width "string 世 ".toList = 10 ∧ Text.width "== array i".toList = 10 := by
    decide +kernel
  rw [hwidth.1, hwidth.2] at hdrawn
  rw [hwidth.1] at hat
  refine ⟨hoffset, hat, ?_⟩
  rw [hdrawn (by decide) (by decide)]
  decide +kernel

end Span
end LooseEquality
