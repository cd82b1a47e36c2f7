import LooseEquality.Proofs.Console.Input
import LooseEquality.Proofs.Report
import LooseEquality.Proofs.Script.Lines
import LooseEquality.Proofs.Script.Spans
import LooseEquality.Proofs.Session.Alike

/-!
# Texts of several lines

A text that is put together from lines can be run as a whole, or line by line.  What comes of a line
by itself, in a new session, is `Session.alone`; and as no session that only evaluated can be told
from a new one, that is also what comes of it after other lines.

* **`alone_joined`** — if every line is a script, the whole text comes to what its lines come to,
  one after the other up to the first fault (`Session.through`);
* **`hasLinesIn_joined`** — each line has its place in the whole text, from which reports are made;
* **`read_joined_eq_error`** — if some line is no script, the whole text is none either.
-/

namespace LooseEquality

/-- Lines as one text, with line feeds between them. -/
def joined (texts : List String) : String := "\n".intercalate texts

lemma joined_cons_cons (text next : String) (texts : List String) :
    joined (text :: next :: texts) = text ++ "\n" ++ joined (next :: texts) := by
  simp only [joined, String.intercalate_cons_cons, String.append_assoc]

lemma joined_cons_of_ne_nil (text : String) {texts : List String} (h : texts ≠ []) :
    joined (text :: texts) = text ++ "\n" ++ joined texts := by
  cases texts with
  | nil => exact absurd rfl h
  | cons next texts => exact joined_cons_cons text next texts

lemma Script.read_empty : read "" = .ok [] := by
  rw [read, Token.scan, String.toList_empty, Token.scanFrom_nil, ofTokens_nil]

namespace Session

/-- What comes of a text in a new session. -/
def alone (truthiness : Truthiness) (text : String) : Transcript :=
  ((new truthiness).run text).1

/-- What comes of lines one after the other, up to the first fault.  Its place is counted from the
start of the first line. -/
def through (truthiness : Truthiness) : List String → Transcript
  | [] => ⟨[], none⟩
  | text :: texts =>
    (alone truthiness text).append
      ((through truthiness texts).shift (Text.byteLength text.toList + 1))

/-- A session after some lines. -/
def after (s : Session) (texts : List String) : Session :=
  texts.foldl (fun s text => (s.run text).2) s

variable {truthiness : Truthiness} {s : Session}

/-! ## Sessions that only evaluated -/

/-- After a line, a session still cannot be told from a new one. -/
lemma alike_run (h : Alike (new truthiness) s) (text : String) :
    Alike (new truthiness) (s.run text).2 :=
  h.trans ((growsTo_run s text).alike h.wellFormed_right)

lemma alike_after (h : Alike (new truthiness) s) (texts : List String) :
    Alike (new truthiness) (s.after texts) := by
  induction texts generalizing s with
  | nil => exact h
  | cons text texts ih => exact ih (alike_run h text)

lemma run_eq_alone (h : Alike (new truthiness) s) (text : String) :
    (s.run text).1 = alone truthiness text :=
  (run_of_alike h text).symm

lemma alike_new (truthiness : Truthiness) : Alike (new truthiness) (new truthiness) :=
  (GrowsTo.refl _).alike (wellFormed_new truthiness)

/-! ## Two parts -/

lemma run_of_read {text : String} {script : Script} (h : Script.read text = .ok script) :
    s.run text = s.transcript script := by
  simp only [run, Script.parse, h, Except.mapError]

/-- Nothing is evaluated in a text that is no script. -/
lemma alone_of_read_error {text : String} {flaw : Script.Flaw}
    (h : Script.read text = .error flaw) :
    alone truthiness text = ⟨[], some flaw.fault⟩ := by
  rw [alone, run, Script.parse, h]
  rfl

lemma alone_append_newline {a b : String} {p q : Script} (ha : Script.read a = .ok p)
    (hb : Script.read b = .ok q) :
    alone truthiness (a ++ "\n" ++ b)
      = (alone truthiness a).append
          ((alone truthiness b).shift (Text.byteLength a.toList + 1)) := by
  have hread := Script.read_append_newline a b
  rw [ha, hb] at hread
  have hsecond := run_eq_alone (alike_run (alike_new truthiness) a) b
  rw [run_of_read ha, run_of_read hb] at hsecond
  rw [alone, alone, run_of_read hread, run_of_read ha, transcript_append, transcript_shift,
    hsecond]

/-! ## Any number of lines -/

variable {texts : List String}

/-- Lines that are scripts are a script together. -/
lemma exists_read_joined (h : ∀ text ∈ texts, ∃ p, Script.read text = .ok p) :
    ∃ p, Script.read (joined texts) = .ok p := by
  induction texts with
  | nil => exact ⟨[], by rw [joined, String.intercalate_nil, Script.read_empty]⟩
  | cons text texts ih =>
    obtain ⟨⟨p, hp⟩, htexts⟩ := List.forall_mem_cons.1 h
    cases texts with
    | nil => exact ⟨p, by rwa [joined, String.intercalate_singleton]⟩
    | cons next texts =>
      obtain ⟨q, hq⟩ := ih htexts
      rw [joined_cons_cons, Script.read_append_newline, hp, hq]
      exact ⟨_, rfl⟩

/-- **Lines that are scripts**, run as one text, come to what they come to one after the other. -/
theorem alone_joined (h : ∀ text ∈ texts, ∃ p, Script.read text = .ok p) :
    alone truthiness (joined texts) = through truthiness texts := by
  induction texts with
  | nil =>
    rw [joined, String.intercalate_nil, alone, run_of_read Script.read_empty]
    rfl
  | cons text texts ih =>
    obtain ⟨⟨p, hp⟩, htexts⟩ := List.forall_mem_cons.1 h
    cases texts with
    | nil =>
      rw [joined, String.intercalate_singleton]
      exact (Transcript.append_nil _).symm
    | cons next texts =>
      obtain ⟨q, hq⟩ := exists_read_joined htexts
      rw [joined_cons_cons, alone_append_newline hp hq, ih htexts]
      rfl

/-! ## Up to the first fault -/

lemma through_cons_of_none {text : String} (h : (alone truthiness text).fault = none)
    (texts : List String) :
    through truthiness (text :: texts)
      = ⟨(alone truthiness text).outcomes ++ (through truthiness texts).outcomes,
          (through truthiness texts).fault.map
            (Fault.shift (Text.byteLength text.toList + 1))⟩ := by
  rw [through, Transcript.append, h]
  rfl

/-- Behind a fault nothing is evaluated. -/
lemma through_cons_of_some {text : String} {fault : Fault}
    (h : (alone truthiness text).fault = some fault) (texts : List String) :
    through truthiness (text :: texts) = alone truthiness text := by
  rw [through, Transcript.append_of_some h]

lemma fault_through_eq_none_iff :
    (through truthiness texts).fault = none ↔
      ∀ text ∈ texts, (alone truthiness text).fault = none := by
  induction texts with
  | nil => simp [through]
  | cons text texts ih =>
    rw [List.forall_mem_cons]
    cases htext : (alone truthiness text).fault with
    | none => rw [through_cons_of_none htext, Option.map_eq_none_iff, ih, eq_self, true_and]
    | some fault => simp [through_cons_of_some htext, htext]

lemma byteLength_lines_cons (text : String) (texts : List String) :
    Text.byteLength (Reply.lines (text :: texts)).toList
      = Text.byteLength (Reply.lines texts).toList + (Text.byteLength text.toList + 1) := by
  rw [Reply.toList_lines_cons, Text.byteLength_append, Text.byteLength_cons, Text.utf8Size_newline]
  omega

/-- **Lines without faults** move the fault of what follows them. -/
theorem fault_through_append {front : List String}
    (h : ∀ text ∈ front, (alone truthiness text).fault = none) (texts : List String) :
    (through truthiness (front ++ texts)).fault
      = (through truthiness texts).fault.map
          (Fault.shift (Text.byteLength (Reply.lines front).toList)) := by
  induction front with
  | nil =>
    have hlines : Text.byteLength (Reply.lines []).toList = 0 := rfl
    rw [hlines, Fault.shift_zero, Option.map_id]
    rfl
  | cons text front ih =>
    obtain ⟨htext, hfront⟩ := List.forall_mem_cons.1 h
    rw [List.cons_append, through_cons_of_none htext, ih hfront, byteLength_lines_cons,
      Option.map_map]
    simp only [Function.comp_def, Fault.shift_shift]

end Session

/-! ## Where the lines are -/

lemma lastLine_lines (front : List String) : Text.lastLine (Reply.lines front).toList = [] := by
  rcases front.eq_nil_or_concat with rfl | ⟨front, text, rfl⟩
  · rfl
  · have hlines : (Reply.lines (front.concat text)).toList
        = ((Reply.lines front).toList ++ text.toList) ++ '\n' :: [] := by
      simp [Reply.lines, String.toList_append]
    rw [hlines, Text.lastLine_append_newline]
    rfl

/-- Each line adds one line feed. -/
lemma lineFeeds_lines {front : List String} (h : ∀ text ∈ front, '\n' ∉ text.toList) :
    Text.lineFeeds (Reply.lines front).toList = front.length := by
  induction front with
  | nil => rfl
  | cons text front ih =>
    obtain ⟨htext, hfront⟩ := List.forall_mem_cons.1 h
    have hrest : Text.lineFeeds ('\n' :: (Reply.lines front).toList) = front.length + 1 := by
      rw [← ih hfront, Text.lineFeeds, List.count_cons_self, Text.lineFeeds]
    rw [Reply.toList_lines_cons, Text.lineFeeds_append, hrest, Text.lineFeeds,
      List.count_eq_zero_of_not_mem htext, Nat.zero_add, List.length_cons]

/-- What stands behind a line that others follow. -/
def behind : List String → List Char
  | [] => []
  | text :: texts => '\n' :: (joined (text :: texts)).toList

lemma firstLine_behind (back : List String) : Text.firstLine (behind back) = [] := by
  cases back <;> rfl

lemma toList_joined (front : List String) (text : String) (back : List String) :
    (joined (front ++ text :: back)).toList
      = (Reply.lines front).toList ++ (text.toList ++ behind back) := by
  induction front with
  | nil =>
    cases back with
    | nil => simp [joined, behind, Reply.lines]
    | cons next back =>
      rw [List.nil_append, joined_cons_cons, Script.toList_append_newline]
      rfl
  | cons first front ih =>
    rw [List.cons_append, joined_cons_of_ne_nil _ (by simp), Script.toList_append_newline, ih,
      Reply.toList_lines_cons, List.append_assoc, List.cons_append]

/-- **Each line has its place** in the whole text, behind the lines before it. -/
theorem hasLinesIn_joined (front : List String) (text : String) (back : List String) :
    Text.HasLinesIn text.toList (joined (front ++ text :: back)).toList
      (Reply.lines front).toList (behind back) :=
  ⟨toList_joined front text back, lastLine_lines front, firstLine_behind back⟩

/-- All but the first line have their places behind that one. -/
lemma hasLinesIn_append_newline (a b : String) :
    Text.HasLinesIn b.toList (a ++ "\n" ++ b).toList (a.toList ++ ['\n']) [] := by
  refine ⟨by simp, ?_, rfl⟩
  rw [Text.lastLine_append_newline]
  rfl

/-! ## Lines that are no script -/

namespace Script

variable {width : List Char → Nat}

/-- **The flaw of a text is reported** where another line follows if it is for the text alone.  At
the end of the text there is nothing to underline, and so it is at a line feed. -/
theorem isSome_describe?_before {text : String} {flaw : Flaw} (hread : read text = .error flaw)
    (h : (flaw.fault.describe? text width).isSome) (more : String) :
    ((flaw.before (Token.newlineAt (Text.byteLength text.toList))).fault.describe?
      (text ++ "\n" ++ more) width).isSome := by
  have hplace : Text.HasLinesIn text.toList (text ++ "\n" ++ more).toList []
      ('\n' :: more.toList) :=
    ⟨toList_append_newline text more, rfl, rfl⟩
  rcases isAt_of_ofTokens hread with ⟨wanted, rfl⟩ | ⟨-, hcause⟩
  · have hhere : Text.splitAtByte? (Text.byteLength text.toList) (text ++ "\n" ++ more).toList
        = some (text.toList, '\n' :: more.toList) :=
      Text.splitAtByte?_eq_some_iff.2 ⟨toList_append_newline text more, rfl⟩
    have hend : Text.splitAtByte? (Text.byteLength text.toList) text.toList
        = some (text.toList, []) :=
      Text.splitAtByte?_eq_some_iff.2 ⟨(List.append_nil _).symm, rfl⟩
    have hhighlight := (Fault.isSome_describe?_iff rfl).1 h
    have hspan : ((Flaw.mk (.misplaced wanted none) ⟨Text.byteLength text.toList, 0⟩).before
        (Token.newlineAt (Text.byteLength text.toList))).fault.span?
          = some ⟨Text.byteLength text.toList, 1⟩ :=
      congrArg some (Token.span_newlineAt _)
    have hfeed : Span.Divides ⟨Text.byteLength text.toList, 1⟩ (text ++ "\n" ++ more).toList
        text.toList ['\n'] more.toList := ⟨toList_append_newline text more, rfl, rfl⟩
    rw [Fault.isSome_describe?_iff hspan, ← hhighlight]
    exact Span.isSome_highlight?_congr hhere hend hfeed.fits (Span.fits_end text.toList) rfl rfl
  · rw [Flaw.before_of_ne hcause]
    have hshift := Fault.isSome_describe?_shift hplace (fits_of_read_error hread) h
    rwa [Text.byteLength_nil, Fault.shift_zero] at hshift

/-- **If some line is no script**, the whole text is none, and that is reported. -/
theorem read_joined_eq_error {texts : List String}
    (hreport : ∀ text ∈ texts, ∀ flaw, read text = .error flaw →
      (flaw.fault.describe? text width).isSome)
    (hbad : ∃ text ∈ texts, ∀ p, read text ≠ .ok p) :
    ∃ flaw, read (joined texts) = .error flaw ∧
      (flaw.fault.describe? (joined texts) width).isSome := by
  induction texts with
  | nil =>
    obtain ⟨text, hmem, -⟩ := hbad
    cases hmem
  | cons text texts ih =>
    obtain ⟨htext, htexts⟩ := List.forall_mem_cons.1 hreport
    have hread := read_append_newline text (joined texts)
    cases hfirst : read text with
    | error flaw =>
      cases texts with
      | nil =>
        rw [joined, String.intercalate_singleton]
        exact ⟨flaw, hfirst, htext flaw hfirst⟩
      | cons next texts =>
        rw [hfirst] at hread
        rw [joined_cons_cons, hread]
        exact ⟨_, rfl, isSome_describe?_before hfirst (htext flaw hfirst) _⟩
    | ok p =>
      have hrest : ∃ text ∈ texts, ∀ p, read text ≠ .ok p := by
        obtain ⟨other, hother, hnone⟩ := hbad
        rcases List.mem_cons.1 hother with rfl | hmem
        · exact absurd hfirst (hnone p)
        · exact ⟨other, hmem, hnone⟩
      obtain ⟨flaw, hflaw, hdescribe⟩ := ih htexts hrest
      have hne : texts ≠ [] := by
        rintro rfl
        obtain ⟨other, hother, -⟩ := hrest
        cases hother
      rw [hfirst, hflaw] at hread
      rw [joined_cons_of_ne_nil text hne, hread]
      refine ⟨_, rfl, ?_⟩
      have hplace := hasLinesIn_append_newline text (joined texts)
      have hshift := Fault.isSome_describe?_shift hplace (fits_of_read_error hflaw) hdescribe
      rwa [Text.byteLength_append, Text.byteLength_cons, Text.byteLength_nil,
        Text.utf8Size_newline] at hshift

end Script

end LooseEquality
