import LooseEquality.Proofs.Checked.Report
import LooseEquality.Proofs.Console.Lines

/-!
# Three ways to evaluate lines

The same lines can be given to the program each as a script of its own, one after the other in one
session, or together in a file.  The three differ in when a line is read, in what a session
remembers and in what happens behind a fault, and yet they give the same answers.

* `Reply.evaluate` — what each line comes to by itself (`Session.alone`), which `evaluate_eq` spells
  out;
* `Reply.typed` — the lines as an input: every line is answered as if it were alone
  (`typed_eq`), and it makes no difference if the last one has no end (`typedWithoutEnd_eq`);
* `Reply.stored` — the lines in a file: if all are scripts, the answers up to the first fault, and
  none if some line is no script.

**`replies_to_lines`** puts the three side by side, whatever text is measured with.  The assumption
on the lines is that they are lines, and that their faults can be reported one by one; that the
fault of the file can be reported is then no assumption.
-/

namespace LooseEquality

/-- A fault is at a place of a text. -/
def Fault.IsAt (f : Fault) (text : String) (l : Location) (width : List Char → Nat) : Prop :=
  ∃ span, f.span? = some span ∧ span.location? text width = some l

namespace Reply

/-- The fault of a text, if there is one, can be reported. -/
def Reportable (truthiness : Truthiness) (text : String) (width : List Char → Nat) : Prop :=
  ∀ fault, (Session.alone truthiness text).fault = some fault →
    (fault.describe? text width).isSome

/-- The report of the fault of a text, if there is one. -/
def report? (truthiness : Truthiness) (text : String) (width : List Char → Nat) : Option String :=
  (Session.alone truthiness text).fault.bind fun fault => fault.describe? text width

/-- The reply to lines that are typed in, each with its end. -/
def typed (truthiness : Truthiness) (texts : List String) (width : List Char → Nat) : Reply :=
  interactive truthiness (lines texts).toUTF8 width

/-- The reply to lines that are typed in, where the input ends right behind the last one. -/
def typedWithoutEnd (truthiness : Truthiness) (texts : List String) (width : List Char → Nat) :
    Reply :=
  interactive truthiness (joined texts).toUTF8 width

/-- The reply to a file that holds the lines. -/
def stored (truthiness : Truthiness) (path : String) (texts : List String)
    (width : List Char → Nat) : Reply :=
  run truthiness path (.ok (joined texts).toUTF8) width

/-- What is written for texts that are evaluated one by one. -/
def outputs (truthiness : Truthiness) (texts : List String) (width : List Char → Nat) : String :=
  String.join (texts.map fun text => (evaluate truthiness text width).out)

/-- What is written for lines that are answered one by one, where faults are only reported. -/
def answered (truthiness : Truthiness) (texts : List String) (width : List Char → Nat) : Reply :=
  ⟨0, outputs truthiness texts width, lines (texts.filterMap (report? truthiness · width))⟩

variable {width : List Char → Nat} {truthiness : Truthiness} {text : String}
  {texts : List String}

/-! ## Texts by themselves -/

lemma ofScript_of_none (origin : String) {t : Transcript} (h : t.fault = none) :
    ofScript origin text t width = ⟨0, outcomeLines t, ""⟩ := by
  rw [ofScript, h]

lemma ofScript_of_some (origin : String) {t : Transcript} {fault : Fault} {report : String}
    (h : t.fault = some fault) (hreport : fault.describe? text width = some report) :
    ofScript origin text t width = ⟨failed, outcomeLines t, errorLine (origin ++ report)⟩ := by
  simp only [ofScript, h, hreport]

/-- A reply to a script has its outcomes, whatever becomes of the fault. -/
lemma out_ofScript (origin text : String) (t : Transcript) :
    (ofScript origin text t width).out = outcomeLines t := by
  unfold ofScript
  split
  · rfl
  · split <;> rfl

lemma out_evaluate (truthiness : Truthiness) (text : String) (width : List Char → Nat) :
    (evaluate truthiness text width).out = outcomeLines (Session.alone truthiness text) :=
  out_ofScript "" text (Session.alone truthiness text)

/-- **A text by itself** fails if and only if there is a report. -/
theorem evaluate_eq (h : Reportable truthiness text width) :
    evaluate truthiness text width =
      match report? truthiness text width with
      | none => ⟨0, outcomeLines (Session.alone truthiness text), ""⟩
      | some report =>
        ⟨failed, outcomeLines (Session.alone truthiness text), errorLine report⟩ := by
  show ofScript "" text (Session.alone truthiness text) width = _
  cases hfault : (Session.alone truthiness text).fault with
  | none => rw [ofScript_of_none "" hfault, report?, hfault, Option.bind_none]
  | some fault =>
    obtain ⟨report, hreport⟩ := Option.isSome_iff_exists.1 (h fault hfault)
    rw [ofScript_of_some "" hfault hreport, report?, hfault, Option.bind_some, hreport,
      String.empty_append]

lemma status_ofScript_eq_zero_iff (origin : String) (t : Transcript) :
    (ofScript origin text t width).status = 0 ↔ t.fault = none := by
  cases hfault : t.fault with
  | none => simp [ofScript_of_none origin hfault]
  | some fault =>
    simp only [ofScript, hfault, reduceCtorEq, iff_false]
    cases fault.describe? text width with
    | none => exact Nat.succ_ne_zero 100
    | some report => exact Nat.succ_ne_zero 0

lemma status_evaluate_eq_zero_iff (truthiness : Truthiness) (text : String) :
    (evaluate truthiness text width).status = 0 ↔ (Session.alone truthiness text).fault = none :=
  status_ofScript_eq_zero_iff "" _

/-- **A text in ASCII that is not too long** can be reported whatever its fault is. -/
theorem reportable_of_ascii
    (hwidth : ∀ line : List Char, (∀ c ∈ line, c.toNat < 128) → '\n' ∉ line →
      width line = line.length)
    (truthiness : Truthiness) (hascii : ∀ c ∈ text.toList, c.toNat < 128)
    (hlength : text.toList.length ≤ Span.maxRun) : Reportable truthiness text width := by
  intro fault hfault
  obtain ⟨span, hspan, hfits⟩ := Session.fits_of_run hfault
  obtain ⟨before, mid, after, hdivides⟩ := hfits.exists_divides
  have hnarrow : ∀ cs, cs.Sublist text.toList → '\n' ∉ cs → width cs ≤ Span.maxRun := by
    intro cs hcs hfeed
    rw [hwidth cs (fun c hc => hascii c (hcs.subset hc)) hfeed]
    exact hcs.length_le.trans hlength
  have hbefore : before.Sublist text.toList :=
    hdivides.eq_append ▸ List.sublist_append_left before (mid ++ after)
  have hmid : mid.Sublist text.toList :=
    hdivides.eq_append ▸ (List.sublist_append_left mid after).trans
      (List.sublist_append_right before (mid ++ after))
  have hleft := hnarrow _ ((Text.lastLine_sublist before).trans hbefore)
    (Text.lineFeed_not_mem_lastLine before)
  have hmarked := hnarrow _ ((Text.firstLine_sublist mid).trans hmid)
    (Text.lineFeed_not_mem_firstLine mid)
  rw [Option.isSome_iff_ne_none, ← Checked.describe?_eq]
  intro hnone
  rcases (Checked.describe?_eq_none_iff width hspan hdivides).1 hnone with h | h
  · exact absurd hleft (Nat.not_le.2 h)
  · exact absurd hmarked (Nat.not_le.2 h)

/-! ## Lines that are typed in -/

lemma lines_append (front back : List String) :
    lines (front ++ back) = lines front ++ lines back := by
  rw [lines, List.map_append, String.join_append, lines, lines]

lemma outputs_append (front back : List String) :
    outputs truthiness (front ++ back) width
      = outputs truthiness front width ++ outputs truthiness back width := by
  rw [outputs, List.map_append, String.join_append, outputs, outputs]

lemma followedBy_assoc (r s t : Reply) :
    (r.followedBy s).followedBy t = r.followedBy (s.followedBy t) := by
  by_cases hr : r.status = 0
  · by_cases hs : s.status = 0
    · simp only [followedBy, hr, hs, if_true, String.append_assoc]
    · simp only [followedBy, hr, hs, if_true, if_false]
  · simp only [followedBy, hr, if_false]

lemma answered_append (front back : List String) :
    answered truthiness (front ++ back) width
      = (answered truthiness front width).followedBy (answered truthiness back width) := by
  simp only [answered, followedBy, if_true, outputs_append, List.filterMap_append, lines_append]

/-- A session that cannot be told from a new one answers a line as if it were alone. -/
lemma line_eq {s : Session} (hs : Session.Alike (Session.new truthiness) s)
    (h : Reportable truthiness text width) :
    line s text width = (answered truthiness [text] width, (s.run text).2) := by
  show (ofLine text (s.run text).1 width, (s.run text).2) = _
  rw [Session.run_eq_alone hs text, ofLine, answered, outputs, List.map_singleton,
    String.join_cons, String.join_nil, String.append_empty, out_evaluate, List.filterMap_cons,
    List.filterMap_nil, report?]
  cases hfault : (Session.alone truthiness text).fault with
  | none => rfl
  | some fault =>
    obtain ⟨report, hreport⟩ := Option.isSome_iff_exists.1 (h fault hfault)
    simp only [hreport, Option.bind_some]

/-- **Lines at the start of an input**, in a session that cannot be told from a new one, are
answered one by one, and what follows them is answered after them. -/
theorem run_lines {s : Session} (hs : Session.Alike (Session.new truthiness) s)
    (hlines : ∀ text ∈ texts, IsLine text)
    (h : ∀ text ∈ texts, Reportable truthiness text width) (rest : List UInt8) :
    Conversation.run ⟨s, []⟩ (Conversation.encode (lines texts).toList ++ rest) width
      = (answered truthiness texts width).followedBy
          (Conversation.run ⟨s.after texts, []⟩ rest width) := by
  induction texts generalizing s with
  | nil => simp [followedBy, answered, outputs, lines, Conversation.encode, Session.after]
  | cons text texts ih =>
    obtain ⟨hline, hlines⟩ := List.forall_mem_cons.1 hlines
    obtain ⟨htext, htexts⟩ := List.forall_mem_cons.1 h
    rw [Conversation.encode_lines_cons, List.append_assoc, List.cons_append,
      Conversation.run_line hline, line_eq hs htext, ih (Session.alike_run hs text) hlines htexts,
      ← followedBy_assoc, ← answered_append]
    rfl

/-- **Lines that are typed in** are answered one by one. -/
theorem typed_eq (hlines : ∀ text ∈ texts, IsLine text)
    (h : ∀ text ∈ texts, Reportable truthiness text width) :
    typed truthiness texts width = answered truthiness texts width := by
  have hrun := run_lines (Session.alike_new truthiness) hlines h []
  rw [List.append_nil] at hrun
  rw [typed, interactive, Conversation.toList_toUTF8, Conversation.new, hrun]
  simp [followedBy, answered, Conversation.run, Conversation.finish, nothing]

/-- What the input ends in is answered like a line.  If nothing is left, there is no line, and to an
empty line there would be nothing to say. -/
lemma run_lastLine_eq {s : Session} (hs : Session.Alike (Session.new truthiness) s)
    (hline : IsLine text) (h : Reportable truthiness text width) :
    Conversation.run ⟨s, []⟩ (Conversation.encode text.toList) width
      = answered truthiness [text] width := by
  by_cases hne : text = ""
  · subst hne
    have halone : Session.alone truthiness "" = ⟨[], none⟩ :=
      congrArg Prod.fst (Session.run_of_read Script.read_empty)
    simp [Conversation.run, Conversation.finish, Conversation.encode, answered, outputs,
      out_evaluate, report?, halone, outcomeLines, lines, nothing]
  · rw [Conversation.run_lastLine hline.1 hne, line_eq hs h]

/-- **The end of the last line may be missing.** -/
theorem typedWithoutEnd_eq (hlines : ∀ text ∈ texts, IsLine text)
    (h : ∀ text ∈ texts, Reportable truthiness text width) :
    typedWithoutEnd truthiness texts width = answered truthiness texts width := by
  rcases texts.eq_nil_or_concat with rfl | ⟨front, text, rfl⟩
  · have htyped : typed truthiness [] width = answered truthiness [] width := typed_eq hlines h
    exact htyped
  · rw [List.concat_eq_append] at hlines h ⊢
    obtain ⟨hfront, hlast⟩ := List.forall_mem_append.1 hlines
    obtain ⟨hfrontReport, hlastReport⟩ := List.forall_mem_append.1 h
    have hnew := Session.alike_new truthiness
    have hbytes : (joined (front ++ [text])).toList = (lines front).toList ++ text.toList := by
      rw [toList_joined, behind, List.append_nil]
    rw [typedWithoutEnd, interactive, Conversation.toList_toUTF8, Conversation.new, hbytes,
      Conversation.encode_append, run_lines hnew hfront hfrontReport,
      run_lastLine_eq (Session.alike_after hnew front) (hlast text List.mem_cons_self)
        (hlastReport text List.mem_cons_self), answered_append]

/-! ## Places of faults -/

/-- What a report says about a fault with a place. -/
lemma eq_of_describe? {f : Fault} {l : Location} {report : String} (hat : f.IsAt text l width)
    (h : f.describe? text width = some report) :
    ∃ highlight, report = f.message ++ " at " ++ l.text ++ "\n" ++ highlight := by
  obtain ⟨span, hspan, hlocation⟩ := hat
  simp only [Fault.describe?, hspan, hlocation] at h
  cases hhighlight : span.highlight? text width with
  | none => simp [hhighlight] at h
  | some highlight =>
    simp only [hhighlight, Option.some.injEq] at h
    exact ⟨highlight, h.symm⟩

/-- The fault of a text of one line is on that line. -/
lemma exists_isAt_of_fits (width : List Char → Nat) {f : Fault} (hfits : f.Fits text.toList)
    (hline : '\n' ∉ text.toList) :
    ∃ column, f.IsAt text ⟨1, column⟩ width := by
  obtain ⟨span, hspan, ⟨before, after, hsplit, hoffset⟩, -⟩ := hfits
  have hcut := Text.splitAtByte?_eq_some_iff.2 ⟨hsplit, hoffset⟩
  have hbefore : '\n' ∉ before := fun hmem => hline (hsplit ▸ List.mem_append_left after hmem)
  refine ⟨width (Text.lastLine before) + 1, span, hspan, ?_⟩
  rw [Span.location?, hcut, Option.map_some, Location.after, Text.lineFeeds,
    List.count_eq_zero_of_not_mem hbefore]

/-- The place of a fault among other lines. -/
lemma isAt_shift {f : Fault} {whole : String} {before after : List Char} {l : Location}
    (h : Text.HasLinesIn text.toList whole.toList before after) (hat : f.IsAt text l width) :
    (f.shift (Text.byteLength before)).IsAt whole ⟨Text.lineFeeds before + l.line, l.column⟩
      width := by
  obtain ⟨span, hspan, hlocation⟩ := hat
  refine ⟨span.shift (Text.byteLength before), ?_, Span.location?_shift h hlocation⟩
  rw [Fault.span?_shift, hspan, Option.map_some]

/-! ## Lines in a file -/

lemma stored_eq (truthiness : Truthiness) (path : String) (texts : List String)
    (width : List Char → Nat) :
    stored truthiness path texts width
      = ofScript (path ++ ": ") (joined texts) (Session.alone truthiness (joined texts)) width := by
  simp only [stored, run, Conversation.fromUTF8?_toUTF8, Session.alone]

/-- **Lines without faults** are answered one after the other. -/
lemma outcomeLines_through_append (width : List Char → Nat) {front : List String}
    (h : ∀ text ∈ front, (Session.alone truthiness text).fault = none) (texts : List String) :
    outcomeLines (Session.through truthiness (front ++ texts))
      = outputs truthiness front width ++ outcomeLines (Session.through truthiness texts) := by
  induction front with
  | nil => rw [List.nil_append, outputs, List.map_nil, String.join_nil, String.empty_append]
  | cons text front ih =>
    obtain ⟨htext, hfront⟩ := List.forall_mem_cons.1 h
    have ih := ih hfront
    simp only [outcomeLines] at ih
    rw [List.cons_append, Session.through_cons_of_none htext, outcomeLines]
    simp only [List.map_append, lines_append, ih, outputs, List.map_cons, String.join_cons,
      out_evaluate, outcomeLines, String.append_assoc]

/-- Lines that all succeed are answered in full. -/
lemma outcomeLines_through_of_none
    (h : ∀ text ∈ texts, (Session.alone truthiness text).fault = none) :
    outcomeLines (Session.through truthiness texts) = outputs truthiness texts width := by
  have happend := outcomeLines_through_append width h []
  rw [List.append_nil] at happend
  rw [happend]
  exact String.append_empty

section FirstFault

variable {front back : List String} {fault : Fault}
  (hscripts : ∀ other ∈ front ++ text :: back, ∃ script, Script.read other = .ok script)
  (hfront : ∀ other ∈ front, (Session.alone truthiness other).fault = none)
  (hfault : (Session.alone truthiness text).fault = some fault)

include hscripts hfront hfault

/-- The fault of a file is that of the first line that has one, at its place in the file. -/
lemma fault_joined :
    (Session.alone truthiness (joined (front ++ text :: back))).fault
      = some (fault.shift (Text.byteLength (lines front).toList)) := by
  rw [Session.alone_joined hscripts, Session.fault_through_append hfront,
    Session.through_cons_of_some hfault, hfault, Option.map_some]

/-- The outcomes of a file are those of its lines up to the first fault. -/
lemma outcomeLines_joined (width : List Char → Nat) :
    outcomeLines (Session.alone truthiness (joined (front ++ text :: back)))
      = outputs truthiness (front ++ [text]) width := by
  rw [Session.alone_joined hscripts, outcomeLines_through_append width hfront,
    Session.through_cons_of_some hfault, outputs_append, ← out_evaluate truthiness text width]
  simp [outputs]

end FirstFault

/-- Evaluation only finds faults that are about values, and these are the same wherever they are. -/
lemma root_shift {script : Script} {fault : Fault} (hread : Script.read text = .ok script)
    (hfault : (Session.alone truthiness text).fault = some fault) (n : Nat) :
    (fault.shift n).root = fault.root ∧ (fault.shift n).message = fault.message := by
  rw [Session.alone, Session.run_of_read hread] at hfault
  obtain ⟨cause, span, rfl⟩ := Session.located_of_transcript hfault
  exact ⟨rfl, rfl⟩

/-! ## All three -/

/-- Lines that are typed in are answered one by one: with the outcomes each has by itself, and with
the report of the fault that each fails with by itself.  Whether the last of them has an end makes
no difference. -/
structure TypedOneByOne (truthiness : Truthiness) (texts : List String) (width : List Char → Nat) :
    Prop where
  status_eq : (typed truthiness texts width).status = 0
  out_eq : (typed truthiness texts width).out = outputs truthiness texts width
  err_eq : (typed truthiness texts width).err
    = lines (texts.filterMap (report? truthiness · width))
  withoutEnd_eq : typedWithoutEnd truthiness texts width = typed truthiness texts width
  alone : ∀ text ∈ texts,
    (report? truthiness text width = none ∧ (evaluate truthiness text width).status = 0 ∧
      (evaluate truthiness text width).err = "") ∨
    ∃ report, report? truthiness text width = some report ∧
      (evaluate truthiness text width).status = failed ∧
      (evaluate truthiness text width).err = errorLine report

/-- How a file ends at the first line that fails.  What was written up to then is what is written
for the lines that are typed in, cut off at the fault; and the fault is the one of that line, by
itself and behind the lines before it, in the same column of the line that has its number. -/
structure StopsAt (truthiness : Truthiness) (path : String) (front : List String) (text : String)
    (back : List String) (width : List Char → Nat) : Prop where
  status_eq : (stored truthiness path (front ++ text :: back) width).status = failed
  out_eq : (stored truthiness path (front ++ text :: back) width).out
    = outputs truthiness (front ++ [text]) width
  typed_out_eq : (typed truthiness (front ++ text :: back) width).out
    = (stored truthiness path (front ++ text :: back) width).out
      ++ outputs truthiness back width
  fault : ∃ fault fault' column highlight highlight',
    (Session.alone truthiness text).fault = some fault ∧
    (((Session.new truthiness).after front).run text).1.fault = some fault ∧
    (Session.alone truthiness (joined (front ++ text :: back))).fault = some fault' ∧
    fault'.root = fault.root ∧
    fault.IsAt text ⟨1, column⟩ width ∧
    fault'.IsAt (joined (front ++ text :: back)) ⟨front.length + 1, column⟩ width ∧
    report? truthiness text width
      = some (fault.message ++ " at " ++ Location.text ⟨1, column⟩ ++ "\n" ++ highlight) ∧
    (stored truthiness path (front ++ text :: back) width).err
      = errorLine (path ++ ": " ++ (fault.message ++ " at "
          ++ Location.text ⟨front.length + 1, column⟩ ++ "\n" ++ highlight'))

/-- A file succeeds if and only if all its lines do, and otherwise it stops at the first that does
not. -/
structure StoredUpToFault (truthiness : Truthiness) (path : String) (texts : List String)
    (width : List Char → Nat) : Prop where
  status_eq_zero_iff : (stored truthiness path texts width).status = 0 ↔
    ∀ text ∈ texts, (evaluate truthiness text width).status = 0
  of_status_eq_zero : (stored truthiness path texts width).status = 0 →
    (stored truthiness path texts width).out = (typed truthiness texts width).out ∧
      (stored truthiness path texts width).err = ""
  stopsAt : ∀ front text back, texts = front ++ text :: back →
    (∀ other ∈ front, (evaluate truthiness other width).status = 0) →
    (evaluate truthiness text width).status ≠ 0 → StopsAt truthiness path front text back width

lemma typedOneByOne (hlines : ∀ text ∈ texts, IsLine text)
    (hreport : ∀ text ∈ texts, Reportable truthiness text width) :
    TypedOneByOne truthiness texts width := by
  have htyped := typed_eq hlines hreport
  have hsame := (typedWithoutEnd_eq hlines hreport).trans htyped.symm
  refine ⟨by rw [htyped]; rfl, by rw [htyped]; rfl, by rw [htyped]; rfl, hsame,
    fun text htext => ?_⟩
  rw [evaluate_eq (hreport text htext)]
  cases report? truthiness text width with
  | none => exact .inl ⟨rfl, rfl, rfl⟩
  | some report => exact .inr ⟨report, rfl, rfl, rfl⟩

lemma stopsAt {path : String} {front back : List String}
    (hlines : ∀ other ∈ front ++ text :: back, IsLine other)
    (hreport : ∀ other ∈ front ++ text :: back, Reportable truthiness other width)
    (hscripts : ∀ other ∈ front ++ text :: back, ∃ script, Script.read other = .ok script)
    (hfront : ∀ other ∈ front, (Session.alone truthiness other).fault = none) {fault : Fault}
    (hfault : (Session.alone truthiness text).fault = some fault) :
    StopsAt truthiness path front text back width := by
  have hmem : text ∈ front ++ text :: back := List.mem_append_right front List.mem_cons_self
  have hplace := hasLinesIn_joined front text back
  have hwhole := fault_joined hscripts hfront hfault
  have hfits := Session.fits_of_run hfault
  -- the report of the line, and from it that of the file
  obtain ⟨report, hline⟩ := Option.isSome_iff_exists.1 (hreport text hmem fault hfault)
  obtain ⟨report', hfile⟩ := Option.isSome_iff_exists.1
    (Fault.isSome_describe?_shift hplace hfits (hreport text hmem fault hfault))
  obtain ⟨column, hat⟩ := exists_isAt_of_fits width hfits (hlines text hmem).1
  have hat' := isAt_shift hplace hat
  rw [lineFeeds_lines fun other hother => (hlines other (List.mem_append_left _ hother)).1] at hat'
  obtain ⟨highlight, rfl⟩ := eq_of_describe? hat hline
  obtain ⟨highlight', rfl⟩ := eq_of_describe? hat' hfile
  obtain ⟨script, hread⟩ := hscripts text hmem
  obtain ⟨hroot, hmessage⟩ := root_shift hread hfault (Text.byteLength (lines front).toList)
  have hstored : stored truthiness path (front ++ text :: back) width = _ :=
    (stored_eq truthiness path _ width).trans (ofScript_of_some _ hwhole hfile)
  rw [outcomeLines_joined hscripts hfront hfault width] at hstored
  refine ⟨by rw [hstored], by rw [hstored], ?_, ?_⟩
  · rw [typed_eq hlines hreport, hstored, ← outputs_append, List.append_assoc]
    rfl
  · have hbehind : (((Session.new truthiness).after front).run text).1.fault = some fault := by
      rwa [Session.run_eq_alone (Session.alike_after (Session.alike_new truthiness) front) text]
    refine ⟨fault, _, column, highlight, highlight', hfault, hbehind, hwhole, hroot, hat, hat', ?_,
      ?_⟩
    · rw [report?, hfault, Option.bind_some, hline]
    · rw [hstored, hmessage]

lemma storedUpToFault {path : String} (hlines : ∀ text ∈ texts, IsLine text)
    (hreport : ∀ text ∈ texts, Reportable truthiness text width)
    (hscripts : ∀ text ∈ texts, ∃ script, Script.read text = .ok script) :
    StoredUpToFault truthiness path texts width := by
  have hstatus : (stored truthiness path texts width).status = 0 ↔
      ∀ text ∈ texts, (Session.alone truthiness text).fault = none := by
    rw [stored_eq, status_ofScript_eq_zero_iff, Session.alone_joined hscripts,
      Session.fault_through_eq_none_iff]
  refine ⟨?_, fun hzero => ?_, ?_⟩
  · simp only [hstatus, status_evaluate_eq_zero_iff]
  · have hnone := hstatus.1 hzero
    have hwhole : (Session.alone truthiness (joined texts)).fault = none := by
      rwa [Session.alone_joined hscripts, Session.fault_through_eq_none_iff]
    rw [stored_eq, ofScript_of_none _ hwhole, typed_eq hlines hreport,
      Session.alone_joined hscripts, outcomeLines_through_of_none hnone]
    exact ⟨rfl, rfl⟩
  · rintro front text back rfl hfront hfails
    cases hfault : (Session.alone truthiness text).fault with
    | none => exact absurd ((status_evaluate_eq_zero_iff truthiness text).2 hfault) hfails
    | some fault =>
      exact stopsAt hlines hreport hscripts
        (fun other hother => (status_evaluate_eq_zero_iff truthiness other).1 (hfront other hother))
        hfault

/-- A file with a line that is no script fails, and nothing in it is evaluated. -/
lemma stored_of_read_error {path : String}
    (hreport : ∀ text ∈ texts, Reportable truthiness text width)
    (hbad : ∃ text ∈ texts, ∀ script, Script.read text ≠ .ok script) :
    (stored truthiness path texts width).status = failed ∧
      (stored truthiness path texts width).out = "" := by
  obtain ⟨flaw, hread, hdescribe⟩ := Script.read_joined_eq_error
    (fun text htext flaw hread => hreport text htext flaw.fault
      (by rw [Session.alone_of_read_error hread])) hbad
  obtain ⟨report, hdescribe⟩ := Option.isSome_iff_exists.1 hdescribe
  rw [stored_eq, Session.alone_of_read_error hread, ofScript_of_some _ rfl hdescribe]
  exact ⟨rfl, rfl⟩

/-- **Lines by themselves, typed in, and in a file.**  Typed in, every line is answered as it is by
itself, to the last one.  In a file the same answers are given up to the first line that fails, and
the fault is the one that line has by itself, in the same column; unless some line is no script, and
then there is no answer at all. -/
theorem replies_to_lines (width : List Char → Nat) (path : String)
    (hlines : ∀ text ∈ texts, IsLine text)
    (hreport : ∀ text ∈ texts, Reportable truthiness text width) :
    TypedOneByOne truthiness texts width ∧
    ((∀ text ∈ texts, ∃ script, Script.parse text = .ok script) →
      StoredUpToFault truthiness path texts width) ∧
    ((∃ text ∈ texts, ∃ fault, Script.parse text = .error fault) →
      (stored truthiness path texts width).status = failed ∧
        (stored truthiness path texts width).out = "") := by
  refine ⟨typedOneByOne hlines hreport, fun hscripts => ?_, ?_⟩
  · refine storedUpToFault hlines hreport fun text htext => ?_
    obtain ⟨script, hscript⟩ := hscripts text htext
    exact ⟨script, Script.read_of_parse hscript⟩
  · rintro ⟨text, htext, fault, hparse⟩
    refine stored_of_read_error hreport ⟨text, htext, fun script hread => ?_⟩
    rw [Script.parse, hread] at hparse
    cases hparse

/-! Four lines, of which the second fails behind its first comparison. -/

def fourLines : List String :=
  ["string a == boolean true; array a == null", "null == null; real 0 == array i", "",
    "integer 1 == string \"1\""]

lemma reportable_of_mem_fourLines :
    ∀ text ∈ fourLines, Reportable .nonEmpty text Text.width := by
  have hplain : ∀ text ∈ fourLines,
      (∀ c ∈ text.toList, c.toNat < 128) ∧ text.toList.length ≤ Span.maxRun := by
    simp [fourLines, Span.maxRun]
  exact fun text htext => reportable_of_ascii (fun line hline _ => Text.width_of_ascii hline)
    .nonEmpty (hplain text htext).1 (hplain text htext).2

lemma exists_parse_of_mem_fourLines :
    ∀ text ∈ fourLines, ∃ script, Script.parse text = .ok script := by
  have hparse : ∀ text ∈ fourLines, (Script.parse text).toBool = true := by decide +kernel
  intro text htext
  have htrue := hparse text htext
  cases h : Script.parse text with
  | error fault => simp [h, Except.toBool] at htrue
  | ok script => exact ⟨script, rfl⟩

theorem replies_to_four_lines :
    (∀ text ∈ fourLines, IsLine text) ∧
      (∀ text ∈ fourLines, Reportable .nonEmpty text Text.width) ∧
      TypedOneByOne .nonEmpty fourLines Text.width ∧
      StopsAt .nonEmpty "four.txt" ["string a == boolean true; array a == null"]
        "null == null; real 0 == array i" ["", "integer 1 == string \"1\""] Text.width ∧
      typed .nonEmpty fourLines Text.width = ⟨0,
        "false (string, boolean)\nfalse (array, null)\ntrue (null, null)\n"
          ++ "true (integer, string)\n",
        "operator '==': incomparable operands at 1:22\n"
          ++ "1: null == null; real 0 == array i\n"
          ++ "                        ^^\n"⟩ ∧
      stored .nonEmpty "four.txt" fourLines Text.width = ⟨1,
        "false (string, boolean)\nfalse (array, null)\ntrue (null, null)\n",
        "Error: four.txt: operator '==': incomparable operands at 2:22\n"
          ++ "2: null == null; real 0 == array i\n"
          ++ "                        ^^\n"⟩ ∧
      evaluate .nonEmpty "null == null; real 0 == array i" Text.width = ⟨1,
        "true (null, null)\n",
        "Error: operator '==': incomparable operands at 1:22\n"
          ++ "1: null == null; real 0 == array i\n"
          ++ "                        ^^\n"⟩ := by
  have hlines : ∀ text ∈ fourLines, IsLine text := by decide
  have hreplies := replies_to_lines Text.width "four.txt" hlines reportable_of_mem_fourLines
  have hstops := (hreplies.2.1 exists_parse_of_mem_fourLines).stopsAt
    ["string a == boolean true; array a == null"] "null == null; real 0 == array i"
    ["", "integer 1 == string \"1\""] rfl (by decide +kernel) (by decide +kernel)
  have htyped := typed_eq hlines reportable_of_mem_fourLines
  have hstored := stored_eq .nonEmpty "four.txt" fourLines Text.width
  exact ⟨hlines, reportable_of_mem_fourLines, hreplies.1, hstops,
    htyped.trans (by decide +kernel), hstored.trans (by decide +kernel), by decide +kernel⟩

end Reply
end LooseEquality
