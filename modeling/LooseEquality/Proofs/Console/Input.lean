import LooseEquality.Console.Conversation
import Mathlib.Data.List.Basic

/-!
# Lines as bytes

What the program makes of an input that was written line by line.  The input is cut at the bytes of
line feeds, and a byte in the range of ASCII never occurs inside the encoding of another character
(`eq_of_mem_utf8EncodeChar`).  So no line is cut within, and none loses its end, unless that is a
carriage return.

* **`run_line`** — a line that is written with its end is answered as that line, and what follows
  it is answered after it;
* **`run_lastLine`** — so is what is left where the input ends.
-/

namespace LooseEquality

/-- A text that stands for itself as a line of an input: there is no line feed in it, and no
carriage return at its end. -/
def IsLine (text : String) : Prop :=
  '\n' ∉ text.toList ∧ text.toList.getLast? ≠ some '\r'

instance (text : String) : Decidable (IsLine text) := inferInstanceAs (Decidable (_ ∧ _))

lemma Reply.toList_lines_cons (text : String) (texts : List String) :
    (lines (text :: texts)).toList = text.toList ++ '\n' :: (lines texts).toList := by
  simp [lines, String.toList_append]

namespace Conversation

/-! ## Encodings -/

/-- The bytes of a text, one character after the other. -/
def encode (cs : List Char) : List UInt8 := cs.flatMap String.utf8EncodeChar

lemma toList_toUTF8 (s : String) : s.toUTF8.data.toList = encode s.toList := by
  show s.toByteArray.data.toList = encode s.toList
  rw [← String.utf8Encode_toList, List.utf8Encode, List.toList_data_toByteArray, encode]

lemma fromUTF8?_toUTF8 (s : String) : String.fromUTF8? s.toUTF8 = some s := by
  unfold String.fromUTF8?
  rw [String.toUTF8_eq_toByteArray, dif_pos s.isValidUTF8]
  rfl

lemma fromUTF8?_encode (s : String) : String.fromUTF8? ⟨(encode s.toList).toArray⟩ = some s := by
  rw [← toList_toUTF8, Array.toArray_toList]
  exact fromUTF8?_toUTF8 s

/-- **A byte in the range of ASCII is a character by itself.**  In the encoding of any other
character all bytes are out of that range. -/
theorem eq_of_mem_utf8EncodeChar {c : Char} {b : UInt8} (hb : b ∈ String.utf8EncodeChar c)
    (hlt : b.toNat < 128) : c.toNat = b.toNat := by
  have hval : c.toNat = c.val.toNat := rfl
  have hbyte : ∀ n, (UInt8.ofNat n).toNat = n % 256 := fun n => UInt8.toNat_ofNat'
  simp only [String.utf8EncodeChar] at hb
  split at hb
  · obtain rfl := List.mem_singleton.1 hb
    rw [hbyte] at hlt ⊢
    omega
  · split at hb
    · simp only [List.mem_cons, List.not_mem_nil, or_false] at hb
      rcases hb with rfl | rfl <;> rw [hbyte] at hlt <;> omega
    · split at hb
      · simp only [List.mem_cons, List.not_mem_nil, or_false] at hb
        rcases hb with rfl | rfl | rfl <;> rw [hbyte] at hlt <;> omega
      · simp only [List.mem_cons, List.not_mem_nil, or_false] at hb
        rcases hb with rfl | rfl | rfl | rfl <;> rw [hbyte] at hlt <;> omega

lemma lineFeed_not_mem_encode {cs : List Char} (h : '\n' ∉ cs) : lineFeed ∉ encode cs := by
  intro hmem
  obtain ⟨c, hc, hb⟩ := List.mem_flatMap.1 hmem
  obtain rfl : c = '\n' := Char.toNat_inj.1 (eq_of_mem_utf8EncodeChar hb (by decide))
  exact h hc

/-- The last byte of a text belongs to its last character. -/
lemma getLast?_encode_ne {cs : List Char} (h : cs.getLast? ≠ some '\r') :
    (encode cs).getLast? ≠ some carriageReturn := by
  intro hlast
  rcases cs.eq_nil_or_concat with rfl | ⟨front, c, rfl⟩
  · cases hlast
  · have hne : String.utf8EncodeChar c ≠ [] := by
      rw [Ne, ← List.length_eq_zero_iff, String.length_utf8EncodeChar]
      exact Nat.pos_iff_ne_zero.1 c.utf8Size_pos
    have hbytes : encode (front.concat c) = encode front ++ String.utf8EncodeChar c := by
      simp [encode]
    rw [hbytes, List.getLast?_append_of_ne_nil _ hne] at hlast
    obtain rfl : c = '\r' := Char.toNat_inj.1
      (eq_of_mem_utf8EncodeChar (List.mem_of_getLast? hlast) (by decide))
    simp at h

lemma encode_append (cs ds : List Char) : encode (cs ++ ds) = encode cs ++ encode ds :=
  List.flatMap_append

lemma encode_lines_cons (text : String) (texts : List String) :
    encode (Reply.lines (text :: texts)).toList
      = encode text.toList ++ lineFeed :: encode (Reply.lines texts).toList := by
  rw [Reply.toList_lines_cons, encode_append]
  rfl

/-! ## Hearing an input -/

variable {width : List Char → Nat}

lemma withoutReturn_reverse {bs : List UInt8} (h : bs.getLast? ≠ some carriageReturn) :
    withoutReturn bs.reverse = bs := by
  rw [List.getLast?_eq_head?_reverse] at h
  generalize hbs : bs.reverse = rs at h ⊢
  cases rs with
  | nil => rw [withoutReturn, List.reverse_eq_nil_iff.1 hbs]
  | cons r rs =>
    have hr : r ≠ carriageReturn := by simpa using h
    rw [withoutReturn, if_neg hr, ← hbs, List.reverse_reverse]

/-- Bytes that end no line are kept for the line they belong to. -/
lemma run_append {bs : List UInt8} (h : lineFeed ∉ bs) (s : Session) (start rest : List UInt8) :
    run ⟨s, start⟩ (bs ++ rest) width = run ⟨s, bs.reverse ++ start⟩ rest width := by
  induction bs generalizing start with
  | nil => rfl
  | cons b bs ih =>
    obtain ⟨hb, hbs⟩ := not_or.1 (mt List.mem_cons.2 h)
    rw [List.cons_append, run, hear, if_neg (Ne.symm hb)]
    simp only [ih hbs, List.reverse_cons, List.append_assoc, List.singleton_append]

/-- A line is answered, and its reply decides whether the conversation goes on. -/
lemma takeLine_encode (s : Session) (text : String) :
    takeLine s (encode text.toList) width =
      if (Reply.line s text width).1.status = 0 then
        .answer (Reply.line s text width).1 ⟨(Reply.line s text width).2, []⟩
      else .stop (Reply.line s text width).1 := by
  rw [takeLine, fromUTF8?_encode]

/-- **A line with its end** is answered, and then what follows it. -/
theorem run_line {text : String} (h : IsLine text) (s : Session) (rest : List UInt8) :
    run ⟨s, []⟩ (encode text.toList ++ lineFeed :: rest) width
      = (Reply.line s text width).1.followedBy
          (run ⟨(Reply.line s text width).2, []⟩ rest width) := by
  rw [run_append (lineFeed_not_mem_encode h.1), List.append_nil, run, hear, if_pos rfl]
  simp only [withoutReturn_reverse (getLast?_encode_ne h.2), takeLine_encode]
  by_cases hstatus : (Reply.line s text width).1.status = 0
  · rw [if_pos hstatus]
  · rw [if_neg hstatus, Reply.followedBy, if_neg hstatus]

/-- **A line that the input ends in** is answered like one with its end. -/
theorem run_lastLine {text : String} (hfeed : '\n' ∉ text.toList) (hne : text ≠ "")
    (s : Session) :
    run ⟨s, []⟩ (encode text.toList) width = (Reply.line s text width).1 := by
  have hbytes : encode text.toList ≠ [] := by
    intro hnil
    have hdecoded := fromUTF8?_encode text
    rw [hnil] at hdecoded
    exact hne (Option.some.inj (hdecoded.symm.trans (fromUTF8?_encode "")))
  have hrun : run ⟨s, []⟩ (encode text.toList ++ []) width = _ :=
    run_append (lineFeed_not_mem_encode hfeed) s [] []
  rw [List.append_nil, List.append_nil] at hrun
  rw [hrun, run, finish, if_neg (by simpa using hbytes), List.reverse_reverse, takeLine_encode]
  split <;> rfl

end Conversation
end LooseEquality
