import LooseEquality.Proofs.Case
import LooseEquality.Proofs.Script.Plain
import LooseEquality.Proofs.Session.Denotation
import LooseEquality.Proofs.Text.Pieces

/-!
# What facts amount to

A fact is one thing to be said about two operands, and it stands for several cases.  This file shows
that the cases say what the fact does, no more and no less: they all hold in a session if and only
if the operands denote values that are equal, or unequal, or incomparable, as the fact has it.

**`facts_hold_iff`** is about all tables, all sessions that a host gets to (they are well formed by
`Session.Reachable.wellFormed`), and all operands that can be written without quotes.  There are
three steps to it:

* the script of a case is read back as the comparison it was made from (`Script.parse_caseInput`);
* cases do not get in each other's way (`Case.verifyAll_eq_map`), and which operand comes first
  makes no difference (`Session.finds_comm`), so all cases of a fact come down to one comparison;
* the column in which a case expects a fault is found by looking for the operator in the script.  No
  operator can hide in an operand (`offsetOf?_word`), so it is the column of the operator that
  is meant.  Columns are counted in bytes here and in terminal cells by those who evaluate.  That is
  the same for ASCII if the measure of width has a line in ASCII as wide as it is long, which is all
  that is asked of it.
-/

namespace LooseEquality

/-! ## Looking for the operator -/

namespace Text

lemma offsetOf?_symbol (op : Operator) (after : List Char) :
    offsetOf? op.symbol.toList (op.symbol.toList ++ after) = some 0 := by
  cases op <;> simp [Operator.symbol, offsetOf?]

lemma offsetOf?_cons_of_not_startsOperator {op : Operator} {c : Char} {cs : List Char}
    (h : ¬ Token.StartsOperator c cs) :
    offsetOf? op.symbol.toList (c :: cs)
      = (offsetOf? op.symbol.toList cs).map (c.utf8Size + ·) := by
  rw [offsetOf?, if_neg]
  intro hprefix
  refine h ?_
  obtain ⟨rest, hrest⟩ := List.isPrefixOf_iff_prefix.1 hprefix
  cases op with
  | equal =>
    obtain ⟨rfl, rfl⟩ := List.cons.inj hrest
    exact ⟨.inl rfl, rest, rfl⟩
  | notEqual =>
    obtain ⟨rfl, rfl⟩ := List.cons.inj hrest
    exact ⟨.inr rfl, rest, rfl⟩

/-- There is no operator in a word, nor does one start in it. -/
lemma offsetOf?_word {op : Operator} {text after : List Char}
    (h : Token.Form.word.Reads text after) :
    offsetOf? op.symbol.toList (text ++ after)
      = (offsetOf? op.symbol.toList after).map (byteLength text + ·) := by
  induction text with
  | nil => simp
  | cons c text ih =>
    obtain ⟨hc, htext⟩ := Token.reads_word_cons.1 h
    have hstarts : ¬ Token.StartsOperator c (text ++ after) :=
      fun hop => hc (.inr (.inr (.inr hop)))
    rw [List.cons_append, offsetOf?_cons_of_not_startsOperator hstarts, ih htext, Option.map_map,
      byteLength_cons]
    congr 1
    funext n
    exact (Nat.add_assoc _ _ _).symm

lemma offsetOf?_space (op : Operator) (after : List Char) :
    offsetOf? op.symbol.toList (' ' :: after)
      = (offsetOf? op.symbol.toList after).map (1 + ·) := by
  refine offsetOf?_cons_of_not_startsOperator ?_
  rintro ⟨h | h, -⟩ <;> exact absurd h (by decide)

end Text

namespace Operand

/-- A plain operand and the space behind it: there is no operator in them, and no line feed. -/
lemma Plain.offsetOf?_symbol {o : Operand} (ho : o.Plain) (op : Operator) (after : List Char) :
    Text.offsetOf? op.symbol.toList (o.plainText.toList ++ ' ' :: (op.symbol.toList ++ after))
      = some (Text.byteLength o.plainText.toList + 1) := by
  obtain ⟨kind, literal⟩ := o
  have hname : ∀ rest, Token.Form.word.Reads kind.name.toList (' ' :: rest) := fun rest =>
    Token.reads_kind_name kind (Token.endsWords_space rest)
  rcases ho with ⟨hkind, hlit⟩ | ⟨hkind, text, hlit, hscan⟩
  · obtain rfl : literal = none := hlit
    have htext : (plainText ⟨kind, none⟩).toList = kind.name.toList := rfl
    rw [htext, Text.offsetOf?_word (hname _), Text.offsetOf?_space, Text.offsetOf?_symbol]
    rfl
  · obtain rfl : literal = some text := hlit
    have hword := (Token.reads_of_scan_eq_word hscan
      (Token.blankFirst_space (op.symbol.toList ++ after))).1
    rw [Script.plainText_of_literal, List.append_assoc, List.cons_append,
      Text.offsetOf?_word (hname _), Text.offsetOf?_space, Text.offsetOf?_word hword,
      Text.offsetOf?_space, Text.offsetOf?_symbol, Text.byteLength_append, Text.byteLength_cons,
      Text.utf8Size_space]
    simp only [Option.map_some, Option.some.injEq]
    omega

lemma Plain.lineFeed_not_mem {o : Operand} (ho : o.Plain) : '\n' ∉ o.plainText.toList := by
  obtain ⟨kind, literal⟩ := o
  have hname : '\n' ∉ kind.name.toList :=
    (Token.reads_kind_name kind Token.endsWords_nil).lineFeed_not_mem Token.Form.noConfusion
  rcases ho with ⟨hkind, hlit⟩ | ⟨hkind, text, hlit, hscan⟩
  · obtain rfl : literal = none := hlit
    exact hname
  · obtain rfl : literal = some text := hlit
    have htext := (Token.reads_of_scan_eq_word hscan Token.blankFirst_nil).1.lineFeed_not_mem
      Token.Form.noConfusion
    rw [Script.plainText_of_literal]
    simp [hname, htext]

/-- All characters of the literal are in the range of ASCII. -/
def IsAscii (o : Operand) : Prop := ∀ c ∈ o.literalText.toList, c.toNat < 128

lemma IsAscii.plainText {o : Operand} (ho : o.IsAscii) :
    ∀ c ∈ o.plainText.toList, c.toNat < 128 := by
  obtain ⟨kind, literal⟩ := o
  have hname : ∀ c ∈ kind.name.toList, c.toNat < 128 := by
    cases kind <;> simp [Kind.name]
  cases literal with
  | none => exact hname
  | some text =>
    rw [Script.plainText_of_literal]
    intro c hc
    rcases List.mem_append.1 hc with hc | hc
    · exact hname c hc
    rcases List.mem_cons.1 hc with rfl | hc
    · decide
    · exact ho c hc

end Operand

namespace Fact

variable {width : List Char → Nat} {s : Session} {lhs rhs : Operand}
  (hwidth : ∀ line : List Char, (∀ c ∈ line, c.toNat < 128) → '\n' ∉ line →
    width line = line.length)

/-- **The column that is expected** is the one behind the left operand and a space. -/
lemma columnOf_caseInput (op : Operator) (hlhs : lhs.Plain) (rhs : Operand) :
    columnOf op (caseInput op lhs rhs) = Text.byteLength lhs.plainText.toList + 2 := by
  rw [columnOf, Script.toList_caseInput, hlhs.offsetOf?_symbol]

include hwidth in
/-- The place of the operator is in that column, if the left operand is in ASCII. -/
lemma location?_caseInput (op : Operator) (hlhs : lhs.Plain) (hascii : lhs.IsAscii)
    (rhs : Operand) :
    (Comparison.plain op lhs rhs).op.span.location? (caseInput op lhs rhs) width
      = some ⟨1, columnOf op (caseInput op lhs rhs)⟩ := by
  have hleft : ∀ c ∈ lhs.plainText.toList ++ [' '], c.toNat < 128 := by
    intro c hc
    rcases List.mem_append.1 hc with hc | hc
    · exact hascii.plainText c hc
    · obtain rfl := List.mem_singleton.1 hc
      decide
  have hfeed : '\n' ∉ lhs.plainText.toList ++ [' '] := by
    simp [hlhs.lineFeed_not_mem]
  have hsplit : Text.splitAtByte? (Text.byteLength lhs.plainText.toList + 1)
      (caseInput op lhs rhs).toList
        = some (lhs.plainText.toList ++ [' '],
            op.symbol.toList ++ ' ' :: rhs.plainText.toList) := by
    refine Text.splitAtByte?_eq_some_iff.2 ⟨?_, ?_⟩
    · rw [Script.toList_caseInput, List.append_assoc, List.singleton_append]
    · rw [Text.byteLength_append, Text.byteLength_cons, Text.utf8Size_space, Text.byteLength_nil]
  have hcolumns : width (lhs.plainText.toList ++ [' '])
      = Text.byteLength lhs.plainText.toList + 1 := by
    rw [hwidth _ hleft hfeed, List.length_append, Text.byteLength_of_ascii hascii.plainText]
    rfl
  simp only [Span.location?, Comparison.plain, hsplit, Option.map_some, Location.after,
    Text.lastLine_of_not_mem hfeed, Text.lineFeeds, List.count_eq_zero.2 hfeed, hcolumns,
    columnOf_caseInput op hlhs]

/-! ## Cases of two operands -/

/-- What comes of a script of one comparison, as something that could have been expected. -/
def expectationOf (input : String) (width : List Char → Nat) :
    Except Fault Outcome → Case.Expectation
  | .ok o => .outcome o
  | .error fault => .ofFault fault input width

/-- A case of two operands holds if what is expected is what comes of their comparison. -/
lemma holdsIn_iff (hlhs : lhs.Plain) (hrhs : rhs.Plain) {c : Case} {op : Operator}
    (hinput : c.input = caseInput op lhs rhs) :
    c.HoldsIn s width ↔
      expectationOf c.input width (s.comparison (Comparison.plain op lhs rhs).spanned).1
        = c.expect := by
  rw [Case.HoldsIn, Case.verify, hinput, Session.runAll_caseInput s op hlhs hrhs]
  cases (s.comparison (Comparison.plain op lhs rhs).spanned).1 with
  | error fault => exact Case.judge_eq_none_iff
  | ok o => exact Case.judge_eq_none_iff

lemma expectationOf_eq_outcome_iff {input : String} {answer : Except Fault Outcome} {o : Outcome} :
    expectationOf input width answer = .outcome o ↔ answer = .ok o := by
  cases answer with
  | error fault => exact iff_of_false (fun h => by cases h) (fun h => by cases h)
  | ok o' => simp [expectationOf]

/-- A case that expects an outcome holds if the operands are found to be as they are said to be.
The operator and the number of the case do not matter. -/
lemma holdsIn_outcomeCase_iff (hlhs : lhs.Plain) (hrhs : rhs.Plain) (same : Bool) (number : Nat)
    (op : Operator) :
    (outcomeCase lhs rhs same number op).HoldsIn s width ↔ s.Finds lhs rhs same := by
  rw [holdsIn_iff hlhs hrhs rfl, outcomeCase, expectationOf_eq_outcome_iff,
    Session.comparison_eq_ok_iff]
  constructor
  · rintro ⟨same', hfinds, heq⟩
    have happly : op.apply same = op.apply same' := congrArg Outcome.result heq
    have hsame : same = same' := by
      cases op with
      | equal => exact happly
      | notEqual => exact Bool.not_inj happly
    rw [hsame]
    exact hfinds
  · intro hfinds
    exact ⟨same, hfinds, rfl⟩

/-- The message of an invalid literal does not start like one of incomparable operands. -/
lemma message_invalid_ne (o : Spanned Operand) (op : Operator) (k l : Kind) :
    (Operand.invalid o).message ≠ (Fault.incomparable op k l).message := by
  intro h
  have hlist : ("invalid " ++ o.val.kind.name ++ " literal `" ++ o.val.literalText ++ "`").toList
      = ("operator '" ++ op.symbol ++ "': incomparable operands").toList :=
    congrArg String.toList h
  simp [String.toList_append] at hlist

include hwidth in
/-- A case that expects a fault holds if the operands are valid, and incomparable. -/
lemma holdsIn_faultCase_iff (hlhs : lhs.Plain) (hrhs : rhs.Plain) (hascii : lhs.IsAscii)
    (number : Nat) (op : Operator) :
    (faultCase lhs rhs number op).HoldsIn s width ↔
      (¬ lhs.IsInvalid ∧ ¬ rhs.IsInvalid) ∧ Equality.Incomparable lhs.kind rhs.kind := by
  rw [holdsIn_iff hlhs hrhs rfl]
  constructor
  · intro h
    cases hanswer : (s.comparison (Comparison.plain op lhs rhs).spanned).1 with
    | ok o =>
      rw [hanswer] at h
      cases h
    | error fault =>
      rw [hanswer] at h
      have hmessage : fault.message = (Fault.incomparable op lhs.kind rhs.kind).message :=
        (Case.Expectation.fault.inj h).1
      cases Session.comparison_eq_error_iff.1 hanswer with
      | lhs hinvalid => exact absurd hmessage (message_invalid_ne _ _ _ _)
      | rhs _ hinvalid => exact absurd hmessage (message_invalid_ne _ _ _ _)
      | operator hl hr hkinds => exact ⟨⟨hl, hr⟩, hkinds⟩
  · rintro ⟨⟨hl, hr⟩, hkinds⟩
    have hblames : (Comparison.plain op lhs rhs).Blames
        (.located (.incomparable op lhs.kind rhs.kind) (Comparison.plain op lhs rhs).op.span) :=
      .operator hl hr hkinds
    rw [Session.comparison_eq_error_iff.2 hblames]
    simp only [expectationOf, Case.Expectation.ofFault, Case.locationOf, Fault.span?, faultCase,
      location?_caseInput hwidth op hlhs hascii rhs, Option.getD_some]
    rfl

/-! ## All cases of a fact -/

lemma forall_forBothOperators {p : Case → Prop} {number : Nat} {case : Nat → Operator → Case} :
    (∀ c ∈ forBothOperators number case, p c) ↔
      p (case number .equal) ∧ p (case (number + 1) .notEqual) := by
  simp [forBothOperators]

/-- The cases of an equality come down to one comparison. -/
lemma allHoldIn_equality_iff (hs : s.WellFormed) (hlhs : lhs.Plain) (hrhs : rhs.Plain)
    (same : Bool) (number : Nat) :
    Case.AllHoldIn (cases number (.equality lhs rhs same)) s width ↔ s.Finds lhs rhs same := by
  rw [Case.allHoldIn_iff hs, cases, List.forall_mem_append, forall_forBothOperators,
    holdsIn_outcomeCase_iff hlhs hrhs, holdsIn_outcomeCase_iff hlhs hrhs, and_self]
  split
  · simp
  · rw [forall_forBothOperators, holdsIn_outcomeCase_iff hrhs hlhs,
      holdsIn_outcomeCase_iff hrhs hlhs, Session.finds_comm hs rhs lhs, and_self, and_self]

include hwidth in
/-- The cases of an incomparability come down to the kinds of two valid operands. -/
lemma allHoldIn_incomparability_iff (hs : s.WellFormed) (hlhs : lhs.Plain) (hrhs : rhs.Plain)
    (hascii : lhs.IsAscii) (number : Nat) :
    Case.AllHoldIn (cases number (.incomparability lhs rhs)) s width ↔
      ∃ v w t, s.Denotes lhs rhs v w t ∧ Equality.Incomparable v.kind w.kind := by
  rw [Case.allHoldIn_iff hs, cases, forall_forBothOperators,
    holdsIn_faultCase_iff hwidth hlhs hrhs hascii, holdsIn_faultCase_iff hwidth hlhs hrhs hascii,
    and_self, ← Session.exists_denotes_iff (s := s)]
  constructor
  · rintro ⟨⟨v, w, t, h⟩, hkinds⟩
    refine ⟨v, w, t, h, ?_⟩
    rwa [h.kind_eq.1, h.kind_eq.2]
  · rintro ⟨v, w, t, h, hkinds⟩
    rw [h.kind_eq.1, h.kind_eq.2] at hkinds
    exact ⟨⟨v, w, t, h⟩, hkinds⟩

lemma length_cases_equality (number : Nat) (same : Bool) :
    (cases number (.equality lhs rhs same)).length = if lhs = rhs then 2 else 4 := by
  simp only [cases, List.length_append, forBothOperators]
  split <;> rfl

/-- One more fact adds its cases to a table, numbered behind the others. -/
lemma ofFacts_append (number : Nat) (facts : List Fact) (fact : Fact) :
    CaseTable.ofFacts number (facts ++ [fact])
      = CaseTable.ofFacts number facts
          ++ fact.cases (number + (CaseTable.ofFacts number facts).length) := by
  induction facts generalizing number with
  | nil => simp [CaseTable.ofFacts]
  | cons first facts ih =>
    simp only [List.cons_append, CaseTable.ofFacts, ih, List.append_assoc, List.length_append,
      Nat.add_assoc]

/-- **What facts amount to.**  To any table, a fact about two operands in plain print adds cases
that hold in a session, verified in order and with any measure of width, if and only if the fact is
true there:

* for an equality, the operands denote values, and whether they are equal is as the fact says; there
  are two cases if the operands are the same, and four otherwise;
* for an incomparability, the operands denote values of incomparable kinds; there are always two
  cases.  The left operand has to be in ASCII for this, as the operator is looked for behind it, and
  the measure must have lines in ASCII as wide as they are long. -/
theorem facts_hold_iff (width : List Char → Nat) (hs : s.WellFormed) (hlhs : lhs.Plain)
    (hrhs : rhs.Plain) (facts : List Fact) :
    (∀ same, ∃ added,
      CaseTable.ofFacts 1 (facts ++ [.equality lhs rhs same])
        = CaseTable.ofFacts 1 facts ++ added ∧
      added.length = (if lhs = rhs then 2 else 4) ∧
      (Case.AllHoldIn added s width ↔ ∃ v w t, s.Denotes lhs rhs v w t ∧
        Equality.equal? t.truthiness t.heap v w = some same)) ∧
    ((∀ line : List Char, (∀ c ∈ line, c.toNat < 128) → '\n' ∉ line →
      width line = line.length) → lhs.IsAscii → ∃ added,
      CaseTable.ofFacts 1 (facts ++ [.incomparability lhs rhs])
        = CaseTable.ofFacts 1 facts ++ added ∧
      added.length = 2 ∧
      (Case.AllHoldIn added s width ↔
        ∃ v w t, s.Denotes lhs rhs v w t ∧ Equality.Incomparable v.kind w.kind)) := by
  refine ⟨fun same => ?_, fun hwidth hascii => ?_⟩
  · exact ⟨_, ofFacts_append 1 facts _, length_cases_equality _ same,
      allHoldIn_equality_iff hs hlhs hrhs same _⟩
  · exact ⟨_, ofFacts_append 1 facts _, rfl,
      allHoldIn_incomparability_iff hwidth hs hlhs hrhs hascii _⟩

/-! A literal without an operator in it, although it starts with one half and ends in another, and
an array that contains itself. -/

def halves : Operand := ⟨.string, some "=x!"⟩

def knot : Operand := ⟨.array, some "a"⟩

theorem facts_hold_halves_knot :
    Session.tangled.WellFormed ∧ halves.Plain ∧ knot.Plain ∧ halves.IsAscii ∧
      (∀ line : List Char, (∀ c ∈ line, c.toNat < 128) → '\n' ∉ line →
        Text.width line = line.length) ∧
      ∃ added,
        CaseTable.ofFacts 1 (CaseTable.nullFacts ++ [.incomparability halves knot])
          = CaseTable.ofFacts 1 CaseTable.nullFacts ++ added ∧
        added.length = 2 ∧ Case.AllHoldIn added Session.tangled Text.width := by
  have hhalves : halves.Plain := .inr ⟨by decide, "=x!", rfl, by decide +kernel⟩
  have hknot : knot.Plain := .inr ⟨by decide, "a", rfl, by decide +kernel⟩
  have hascii : halves.IsAscii := by
    intro c hc
    simp only [halves, Operand.literalText, Option.getD_some, String.reduceToList, List.mem_cons,
      List.not_mem_nil, or_false] at hc
    rcases hc with rfl | rfl | rfl <;> decide
  have hwidth : ∀ line : List Char, (∀ c ∈ line, c.toNat < 128) → '\n' ∉ line →
      Text.width line = line.length := fun line hline _ => Text.width_of_ascii hline
  obtain ⟨added, htable, hlength, hiff⟩ := (facts_hold_iff Text.width Session.wellFormed_tangled
    hhalves hknot CaseTable.nullFacts).2 hwidth hascii
  refine ⟨Session.wellFormed_tangled, hhalves, hknot, hascii, hwidth, added, htable, hlength,
    hiff.2 ⟨.string "=x!", .array ⟨0⟩, Session.tangled, ⟨Session.tangled, rfl, ?_⟩, ?_⟩⟩
  · rfl
  · exact .inr ⟨rfl, by decide, by decide⟩

end Fact
end LooseEquality
