import LooseEquality.Proofs.Location
import Mathlib.Data.List.Basic

/-!
# Locations as offsets

A location can be turned back into the offset it is the location of, given the text: the lines in
front of its own have to be counted in, each with its line feed, and so have the columns in front of
its own.

* `Location.offsetIn` — the offset that a location stands for;
* `Location.IsIn` — the locations that a text has, by its lines;
* `Location.Precedes` — one location comes before another, by line and then by column.

The first part is about locations and lines alone.  Locations of a text come in the order of their
offsets (`offsetIn_lt_iff`), so no two of them have the same offset, and no two locations at all are
written in the same way (`text_injective`).

In the second part columns are measured.  **`location_encodes_offset`** says that in an ASCII text
nothing is lost between an offset and its location.  All that is asked of the measure is that a
line in ASCII is as wide as it is long.  Nothing is asked of it where there is a line feed, for a
carriage return and the line feed behind it may well be measured as one.
-/

namespace LooseEquality
namespace Location

/-- The offset that a location stands for: the length of the lines in front of its own, a line feed
for each of them, and the columns in front of its own. -/
def offsetIn (l : Location) (text : List Char) : Nat :=
  Text.byteLength ((Text.pieces text).take (l.line - 1)).flatten + (l.line - 1) + (l.column - 1)

/-- The text has a line of this number, and the column is that of a byte of the line or the one
right behind the last. -/
structure IsIn (l : Location) (text : List Char) : Prop where
  line_pos : 1 ≤ l.line
  column_pos : 1 ≤ l.column
  exists_piece : ∃ piece, (Text.pieces text)[l.line - 1]? = some piece ∧
    l.column ≤ Text.byteLength piece + 1

/-- The order of locations, line by line. -/
def Precedes (l l' : Location) : Prop :=
  Prod.Lex (· < ·) (· < ·) (l.line, l.column) (l'.line, l'.column)

variable {l l' : Location} {text : List Char}

lemma precedes_iff :
    l.Precedes l' ↔ l.line < l'.line ∨ l.line = l'.line ∧ l.column < l'.column := Prod.lex_def

/-! ## Locations of a text -/

lemma IsIn.offsetIn_eq (h : l.IsIn text) :
    l.offsetIn text = Text.startOf (Text.pieces text) (l.line - 1) + (l.column - 1) := by
  obtain ⟨piece, hpiece, -⟩ := h.exists_piece
  obtain ⟨hlt, -⟩ := List.getElem?_eq_some_iff.1 hpiece
  rw [offsetIn, Text.startOf_eq_byteLength_flatten (Nat.le_of_lt hlt)]

lemma IsIn.offsetIn_le (h : l.IsIn text) : l.offsetIn text ≤ Text.byteLength text := by
  obtain ⟨piece, hpiece, hcolumn⟩ := h.exists_piece
  rw [h.offsetIn_eq]
  exact Text.startOf_add_le_byteLength hpiece (Nat.sub_le_of_le_add hcolumn)

/-- **Locations of a text come in the order of their offsets.** -/
theorem offsetIn_lt_iff (h : l.IsIn text) (h' : l'.IsIn text) :
    l.offsetIn text < l'.offsetIn text ↔ l.Precedes l' := by
  rw [h.offsetIn_eq, h'.offsetIn_eq]
  obtain ⟨hline, hpos, piece, hpiece, hcolumn⟩ := h
  obtain ⟨hline', hpos', piece', hpiece', hcolumn'⟩ := h'
  rw [Text.startOf_add_lt_iff hpiece hpiece' (Nat.sub_le_of_le_add hcolumn)
    (Nat.sub_le_of_le_add hcolumn'), precedes_iff]
  -- lines and columns are counted from one, pieces and the bytes in them from zero
  omega

/-- No two locations of a text stand for one offset. -/
lemma eq_of_offsetIn_eq (h : l.IsIn text) (h' : l'.IsIn text)
    (heq : l.offsetIn text = l'.offsetIn text) : l = l' := by
  have hnot : ¬ l.Precedes l' := fun hlt => heq.not_lt ((offsetIn_lt_iff h h').2 hlt)
  have hnot' : ¬ l'.Precedes l := fun hlt => heq.not_gt ((offsetIn_lt_iff h' h).2 hlt)
  rw [precedes_iff] at hnot hnot'
  obtain ⟨line, column⟩ := l
  obtain ⟨line', column'⟩ := l'
  rw [Location.mk.injEq]
  dsimp only at hnot hnot'
  omega

/-- Counted in bytes, a place has a location on the line that it is in. -/
lemma isIn_append (before rest : List Char) :
    IsIn ⟨Text.lineFeeds before + 1, Text.byteLength (Text.lastLine before) + 1⟩
      (before ++ rest) := by
  refine ⟨Nat.succ_pos _, Nat.succ_pos _, _, (Text.holds_append before rest).getElem?_eq, ?_⟩
  rw [Text.byteLength_append]
  exact Nat.succ_le_succ (Nat.le_add_right _ _)

lemma offsetIn_append (before rest : List Char) :
    offsetIn ⟨Text.lineFeeds before + 1, Text.byteLength (Text.lastLine before) + 1⟩
      (before ++ rest) = Text.byteLength before := by
  rw [(isIn_append before rest).offsetIn_eq]
  exact Text.startOf_pieces_append before rest

/-! ## Locations as they are written -/

lemma toList_text (l : Location) :
    l.text.toList = Numeral.digits l.line ++ ':' :: Numeral.digits l.column := by
  simp [text, Numeral.ofNat]

lemma colon_not_mem_digits (n : Nat) : ':' ∉ Numeral.digits n := by
  intro h
  have hdigit := Numeral.isDigit_of_mem_digits h
  simp at hdigit

/-- **Different locations are written differently**: the colon ends the line, and digits denote
their number. -/
theorem text_injective : Function.Injective Location.text := by
  intro l l' h
  have hdigits := congrArg String.toList h
  rw [toList_text, toList_text, List.append_cons_inj_of_notMem (colon_not_mem_digits _)
    (colon_not_mem_digits _)] at hdigits
  obtain ⟨hline, -, hcolumn⟩ := hdigits
  have hinjective := Function.LeftInverse.injective Numeral.value_digits
  obtain ⟨line, column⟩ := l
  obtain ⟨line', column'⟩ := l'
  rw [Location.mk.injEq]
  exact ⟨hinjective hline, hinjective hcolumn⟩

end Location

namespace Span

section Ascii

variable {width : List Char → Nat} {s : Span} {text : List Char} {l : Location}

/-- Only a place of the text has a location. -/
lemma isPlace_of_location? (h : Checked.location? width s text = some l) :
    Text.IsPlace text s.offset := by
  cases hcut : Text.splitAtByte? s.offset text with
  | none => simp [Checked.location?, Text.upTo?, hcut] at h
  | some parts => exact ⟨parts.1, parts.2, Text.splitAtByte?_eq_some_iff.1 hcut⟩

variable
  (hwidth : ∀ line : List Char, (∀ c ∈ line, c.toNat < 128) → '\n' ∉ line →
    width line = line.length)
  (htext : ∀ c ∈ text, c.toNat < 128)

include hwidth htext

/-- **An offset can be told from its location.** -/
theorem exists_location?_of_ascii (hoffset : s.offset ≤ Text.byteLength text) :
    ∃ l, Checked.location? width s text = some l ∧ l.IsIn text ∧ l.offsetIn text = s.offset := by
  obtain ⟨before, rest, rfl, hbefore⟩ := (Text.isPlace_iff_of_ascii htext).2 hoffset
  have hleft : ∀ c ∈ Text.lastLine before, c.toNat < 128 := fun c hc =>
    htext c (List.mem_append_left rest ((Text.lastLine_sublist before).subset hc))
  have hcolumns : width (Text.lastLine before) = Text.byteLength (Text.lastLine before) := by
    rw [hwidth _ hleft (Text.lineFeed_not_mem_lastLine before), Text.byteLength_of_ascii hleft]
  refine ⟨_, ?_, Location.isIn_append before rest, ?_⟩
  · rw [Checked.location?_append width hbefore.symm rest, hcolumns]
  · rw [Location.offsetIn_append, hbefore]

/-- The location of an offset is the one location of the text that stands for it. -/
lemma location?_eq_some_iff_of_ascii :
    Checked.location? width s text = some l ↔ l.IsIn text ∧ l.offsetIn text = s.offset := by
  constructor
  · intro h
    have hoffset := (Text.isPlace_iff_of_ascii htext).1 (isPlace_of_location? h)
    obtain ⟨l', hl', hin, heq⟩ := exists_location?_of_ascii hwidth htext hoffset
    obtain rfl : l = l' := Option.some.inj (h.symm.trans hl')
    exact ⟨hin, heq⟩
  · rintro ⟨hin, heq⟩
    obtain ⟨l', hl', hin', heq'⟩ :=
      exists_location?_of_ascii (s := s) hwidth htext (heq ▸ hin.offsetIn_le)
    rw [hl', Location.eq_of_offsetIn_eq hin' hin (heq'.trans heq.symm)]

end Ascii

/-- **In an ASCII text a location is an offset written in another way.**  Each offset up to the end
of the text has a location and no other offset has one.  The locations are those of the lines of the
text, and each is that of the offset it stands for and of no other.  Of two offsets the smaller one
has the location that comes first, and if two locations are written alike, then the offsets are the
same. -/
theorem location_encodes_offset (width : List Char → Nat)
    (hwidth : ∀ line : List Char, (∀ c ∈ line, c.toNat < 128) → '\n' ∉ line →
      width line = line.length)
    (text : String) (htext : ∀ c ∈ text.toList, c.toNat < 128) :
    (∀ s : Span, s.offset ≤ Text.byteLength text.toList ↔
      ∃ l, Checked.location? width s text.toList = some l) ∧
    (∀ (s : Span) (l : Location), Checked.location? width s text.toList = some l ↔
      l.IsIn text.toList ∧ l.offsetIn text.toList = s.offset) ∧
    (∀ (s s' : Span) (l l' : Location), Checked.location? width s text.toList = some l →
      Checked.location? width s' text.toList = some l' →
        (s.offset < s'.offset ↔ l.Precedes l') ∧ (s.offset ≠ s'.offset → l.text ≠ l'.text)) ∧
    ∀ s : Span, Checked.location? width s text.toList = s.location? text width := by
  refine ⟨fun s => ⟨fun hoffset => ?_, ?_⟩,
    fun s l => location?_eq_some_iff_of_ascii hwidth htext, ?_,
    fun s => Checked.location?_eq width s text⟩
  · obtain ⟨l, hl, -⟩ := exists_location?_of_ascii hwidth htext hoffset
    exact ⟨l, hl⟩
  · rintro ⟨l, hl⟩
    exact (Text.isPlace_iff_of_ascii htext).1 (isPlace_of_location? hl)
  · intro s s' l l' hl hl'
    obtain ⟨hin, heq⟩ := (location?_eq_some_iff_of_ascii hwidth htext).1 hl
    obtain ⟨hin', heq'⟩ := (location?_eq_some_iff_of_ascii hwidth htext).1 hl'
    rw [← heq, ← heq']
    refine ⟨Location.offsetIn_lt_iff hin hin', fun hne hsame => hne ?_⟩
    rw [Location.text_injective hsame]

/-! A text with an empty line in it and another at its end. -/

def gappedText : String := "null\n\narray x == real 1\n"

theorem location_encodes_offset_gappedText :
    (∀ line : List Char, (∀ c ∈ line, c.toNat < 128) → '\n' ∉ line →
      Text.width line = line.length) ∧
    (∀ c ∈ gappedText.toList, c.toNat < 128) ∧
    location? ⟨5, 0⟩ gappedText Text.width = some ⟨2, 1⟩ ∧
    location? ⟨14, 2⟩ gappedText Text.width = some ⟨3, 9⟩ ∧
    location? ⟨24, 0⟩ gappedText Text.width = some ⟨4, 1⟩ ∧
    location? ⟨25, 0⟩ gappedText Text.width = none ∧
    Location.Precedes ⟨3, 9⟩ ⟨4, 1⟩ ∧ Location.text ⟨3, 9⟩ ≠ Location.text ⟨4, 1⟩ := by
  have hwidth : ∀ line : List Char, (∀ c ∈ line, c.toNat < 128) → '\n' ∉ line →
      Text.width line = line.length := fun line hline _ => Text.width_of_ascii hline
  have hascii : ∀ c ∈ gappedText.toList, c.toNat < 128 := by simp [gappedText]
  obtain ⟨hrange, hcode, horder, hlibrary⟩ :=
    location_encodes_offset Text.width hwidth gappedText hascii
  have hempty := (hcode ⟨5, 0⟩ ⟨2, 1⟩).2
    ⟨⟨by decide, by decide, [], by decide +kernel, by decide⟩, by decide +kernel⟩
  have hsign := (hcode ⟨14, 2⟩ ⟨3, 9⟩).2
    ⟨⟨by decide, by decide, "array x == real 1".toList, by decide +kernel, by decide +kernel⟩,
      by decide +kernel⟩
  have hend := (hcode ⟨24, 0⟩ ⟨4, 1⟩).2
    ⟨⟨by decide, by decide, [], by decide +kernel, by decide⟩, by decide +kernel⟩
  obtain ⟨hprecedes, hwritten⟩ := horder _ _ _ _ hsign hend
  refine ⟨hwidth, hascii, hlibrary _ ▸ hempty, hlibrary _ ▸ hsign, hlibrary _ ▸ hend, ?_,
    hprecedes.1 (by decide), hwritten (by decide)⟩
  rw [← hlibrary, Option.eq_none_iff_forall_ne_some]
  intro l hl
  have hbehind : (25 : Nat) ≤ Text.byteLength gappedText.toList := (hrange ⟨25, 0⟩).2 ⟨l, hl⟩
  revert hbehind
  decide +kernel

end Span
end LooseEquality
