import LooseEquality.Proofs.Checked.Scan
import LooseEquality.Proofs.Script.Spans

/-!
# Reading a script by offsets

The readers of `LooseEquality.Script.Read` find the text of a token in the token.  Here they are
given marks, which have none, and have to go back to the script for it.  What can go wrong on the
way is a slice of the script, a slice that takes the quotes off a string, a span whose end is
before its start, and a fault taken from a mark that has none.

* `Checked.readOperand?`, `Checked.readOperator?`, `Checked.readComparison?` — the readers;
* `Checked.ofMarks?` — the loop over the comparisons of a script;
* `Checked.parse?` — from a text to a script.

**`parse?_eq`** says that nothing goes wrong on any text, and that the script or fault is that of
`Script.parse`.  What the proofs carry from reader to reader is that the marks left are those of
tokens that stand in the text.
-/

namespace LooseEquality
namespace Checked

open Script (Flaw Wanted)

/-- The smallest span that covers both of two spans. -/
def cover? (s t : Span) : Option Span :=
  let offset := if s.offset < t.offset then s.offset else t.offset
  let stop := if s.stop < t.stop then t.stop else s.stop
  (Text.distance? offset stop).map fun length => ⟨offset, length⟩

/-- A text without its first and its last byte. -/
def unquote? (quoted : String) : Option String :=
  (Text.distance? 1 (Text.byteLength quoted.toList)).bind fun stop =>
    (Text.slice? 1 stop quoted.toList).map String.ofList

/-- The flaw that is in a mark itself. -/
def unterminated? (m : Mark) : Option Flaw :=
  if m.val = .unterminated then some ⟨.unterminatedString, m.span⟩ else none

/-- What reading gives: a part of a script and the marks behind it, or a flaw. -/
abbrev Reading (α : Type) := Except Flaw (α × List Mark)

section Readers

variable (text : String)

/-- The flaw of marks that do not start with what is wanted. -/
def flaw? (wanted : Wanted) : List Mark → Option Flaw
  | [] => some ⟨.misplaced wanted none, ⟨Text.byteLength text.toList, 0⟩⟩
  | m :: _ =>
    if m.val = .unterminated then unterminated? m
    else some ⟨.misplaced wanted (some m.val), m.span⟩

/-- Read the literal that belongs to a kind word. -/
def readLiteral? (word : Mark) (kind : Kind) : List Mark → Option (Reading (Spanned Operand))
  | [] => (flaw? text (.literal kind) []).map .error
  | m :: ms =>
    match m.val with
    | .word => do
      let literal ← m.span.extract? text
      let span ← cover? word.span m.span
      some (.ok (⟨⟨kind, some literal⟩, span⟩, ms))
    | .quoted => do
      let quoted ← m.span.extract? text
      let literal ← unquote? quoted
      let span ← cover? word.span m.span
      some (.ok (⟨⟨kind, some literal⟩, span⟩, ms))
    | _ => (flaw? text (.literal kind) (m :: ms)).map .error

/-- Read an operand. -/
def readOperand? : List Mark → Option (Reading (Spanned Operand))
  | [] => (flaw? text .kind []).map .error
  | m :: ms =>
    if m.val = .word then do
      let name ← m.span.extract? text
      match Kind.ofName? name with
      | none => some (.error ⟨.unknownKind name, m.span⟩)
      | some .null => some (.ok (⟨⟨.null, none⟩, m.span⟩, ms))
      | some kind => readLiteral? text m kind ms
    else (flaw? text .kind (m :: ms)).map .error

/-- Read an operator. -/
def readOperator? : List Mark → Option (Reading (Spanned Operator))
  | [] => (flaw? text .operator []).map .error
  | m :: ms =>
    match m.val with
    | .operator op => some (.ok (⟨op, m.span⟩, ms))
    | _ => (flaw? text .operator (m :: ms)).map .error

/-- Read a comparison. -/
def readComparison? (ms : List Mark) : Option (Reading (Spanned Comparison)) := do
  match ← readOperand? text ms with
  | .error flaw => some (.error flaw)
  | .ok (lhs, ms₁) =>
    match ← readOperator? text ms₁ with
    | .error flaw => some (.error flaw)
    | .ok (op, ms₂) =>
      match ← readOperand? text ms₂ with
      | .error flaw => some (.error flaw)
      | .ok (rhs, ms₃) =>
        let span ← cover? lhs.span rhs.span
        some (.ok (⟨⟨op, lhs, rhs⟩, span⟩, ms₃))

variable {text}

lemma length_readLiteral? {word : Mark} {kind : Kind} {ms rest : List Mark} {o : Spanned Operand}
    (h : readLiteral? text word kind ms = some (.ok (o, rest))) : rest.length < ms.length := by
  simp only [readLiteral?] at h
  split at h
  · simp at h
  · split at h
    · simp only [Option.bind_eq_bind, Option.bind_eq_some_iff] at h
      obtain ⟨_, _, _, _, h⟩ := h
      cases h
      simp
    · simp only [Option.bind_eq_bind, Option.bind_eq_some_iff] at h
      obtain ⟨_, _, _, _, _, _, h⟩ := h
      cases h
      simp
    · simp at h

lemma length_readOperand? {ms rest : List Mark} {o : Spanned Operand}
    (h : readOperand? text ms = some (.ok (o, rest))) : rest.length < ms.length := by
  simp only [readOperand?] at h
  split at h
  · simp at h
  · split at h
    · simp only [Option.bind_eq_bind, Option.bind_eq_some_iff] at h
      obtain ⟨_, _, h⟩ := h
      split at h
      · cases h
      · cases h
        simp
      · exact (length_readLiteral? h).trans (Nat.lt_succ_self _)
    · simp at h

lemma length_readOperator? {ms rest : List Mark} {op : Spanned Operator}
    (h : readOperator? text ms = some (.ok (op, rest))) : rest.length < ms.length := by
  simp only [readOperator?] at h
  split at h
  · simp at h
  · split at h
    · cases h
      simp
    · simp at h

lemma length_readComparison? {ms rest : List Mark} {c : Spanned Comparison}
    (h : readComparison? text ms = some (.ok (c, rest))) : rest.length < ms.length := by
  simp only [readComparison?] at h
  simp only [Option.bind_eq_bind, Option.bind_eq_some_iff] at h
  obtain ⟨_ | ⟨lhs, ms₁⟩, hlhs, h⟩ := h
  · cases h
  obtain ⟨_ | ⟨op, ms₂⟩, hop, h⟩ := Option.bind_eq_some_iff.1 h
  · cases h
  obtain ⟨_ | ⟨rhs, ms₃⟩, hrhs, h⟩ := Option.bind_eq_some_iff.1 h
  · cases h
  obtain ⟨span, -, h⟩ := Option.bind_eq_some_iff.1 h
  cases h
  have := length_readOperand? hlhs
  have := length_readOperator? hop
  have := length_readOperand? hrhs
  omega

variable (text) in
/-- Read comparisons until the marks end. -/
def ofMarks? (ms : List Mark) : Option (Except Flaw Script) :=
  match ms with
  | [] => some (.ok [])
  | m :: rest =>
    if m.val.isSeparator then ofMarks? rest
    else
      match _h : readComparison? text (m :: rest) with
      | none => none
      | some (.error flaw) => some (.error flaw)
      | some (.ok (c, [])) => some (.ok [c])
      | some (.ok (c, s :: after)) =>
        if s.val.isSeparator then (ofMarks? (s :: after)).map fun read => read.map (c :: ·)
        else (flaw? text .endOfComparison (s :: after)).map .error
termination_by ms.length
decreasing_by
  · simp
  · exact length_readComparison? ‹_›

/-- What becomes of a script whose first comparison, if there is one, was read. -/
lemma ofMarks?_of_readComparison? {m : Mark} {ms : List Mark} {r : Reading (Spanned Comparison)}
    (hm : m.val.isSeparator = false) :
    readComparison? text (m :: ms) = some r → ofMarks? text (m :: ms) =
      match r with
      | .error flaw => some (.error flaw)
      | .ok (c, []) => some (.ok [c])
      | .ok (c, s :: after) =>
        if s.val.isSeparator then (ofMarks? text (s :: after)).map fun read => read.map (c :: ·)
        else (flaw? text .endOfComparison (s :: after)).map .error := by
  intro h
  rw [ofMarks?, hm]
  simp only [Bool.false_eq_true, if_false]
  split <;> next h' => cases h.symm.trans h' <;> rfl

end Readers

/-- The script a text spells out. -/
def parse? (text : String) : Option (Except Fault Script) := do
  let ms ← scan? text
  let read ← ofMarks? text ms
  some (read.mapError Flaw.fault)

/-! ## Single tokens -/

/-- The end of a cover is never before its start. -/
lemma cover?_eq (s t : Span) : cover? s t = some (s.cover t) := by
  have hoffset : (if s.offset < t.offset then s.offset else t.offset) = min s.offset t.offset := by
    split <;> omega
  have hstop : (if s.stop < t.stop then t.stop else s.stop) = max s.stop t.stop := by
    split <;> omega
  have hle : min s.offset t.offset ≤ max s.stop t.stop := by
    simp only [Span.stop]
    omega
  simp only [cover?, hoffset, hstop, Text.distance?, if_pos hle]
  rfl

variable {text : String}

/-- The quotes of a quoted token can be taken off. -/
lemma unquote?_eq {t : Token} (h : t.StandsIn text.toList) (hform : t.form = .quoted) :
    unquote? t.text = t.literal? := by
  obtain ⟨_, _, _, _, _, hreads⟩ := h
  rw [hform] at hreads
  obtain ⟨body, htext, -⟩ := hreads
  have hsize : Text.byteLength ['"'] = 1 := rfl
  have hstop : Text.distance? 1 (Text.byteLength t.text.toList)
      = some (1 + Text.byteLength body) := by
    rw [htext, Text.byteLength_cons, Text.byteLength_append, hsize, Nat.add_comm 1]
    exact Text.distance?_add 1 _
  have hslice : Text.slice? 1 (1 + Text.byteLength body) t.text.toList = some body := by
    rw [htext]
    exact Text.slice?_append ['"'] body ['"']
  rw [unquote?, hstop, Option.bind_some, hslice, Option.map_some, Token.literal?, hform, htext]
  simp

/-- What was read from tokens, as it is read from their marks. -/
def marked {α : Type} (r : Script.Reading α) : Reading α :=
  r.map fun p => (p.1, p.2.map Token.mark)

lemma flaw?_eq (text : String) (wanted : Wanted) (ts : List Token) :
    flaw? text wanted (ts.map Token.mark)
      = some (Flaw.ofTokens (Text.byteLength text.toList) wanted ts) := by
  cases ts with
  | nil => rfl
  | cons t ts =>
    simp only [List.map_cons, flaw?, Flaw.ofTokens, Token.mark, unterminated?]
    split <;> rfl

/-! ## The readers -/

section Readers

variable {ts : List Token}

lemma readLiteral?_eq (word : Token) (kind : Kind) (hts : ∀ t ∈ ts, t.StandsIn text.toList) :
    readLiteral? text word.mark kind (ts.map Token.mark)
      = some (marked (Script.readLiteral (Text.byteLength text.toList) word kind ts)) := by
  cases ts with
  | nil => rfl
  | cons t ts =>
    have ht := hts t List.mem_cons_self
    have hflaw := flaw?_eq text (.literal kind) (t :: ts)
    rw [List.map_cons] at hflaw ⊢
    rw [readLiteral?, Script.readLiteral, hflaw]
    simp only [Token.mark, ht.extract?, cover?_eq]
    cases hform : t.form with
    | word => simp [Token.literal?, hform, marked, Except.map]
    | quoted =>
      have hquote := unquote?_eq ht hform
      rw [Token.literal?, hform] at hquote
      simp [Token.literal?, hform, hquote, marked, Except.map]
    | _ => simp [Token.literal?, hform, marked, Except.map]

lemma readOperand?_eq (hts : ∀ t ∈ ts, t.StandsIn text.toList) :
    readOperand? text (ts.map Token.mark)
      = some (marked (Script.readOperand (Text.byteLength text.toList) ts)) := by
  cases ts with
  | nil => rfl
  | cons t ts =>
    obtain ⟨ht, hrest⟩ := List.forall_mem_cons.1 hts
    have hflaw := flaw?_eq text .kind (t :: ts)
    rw [List.map_cons] at hflaw ⊢
    rw [readOperand?, Script.readOperand, hflaw]
    by_cases hform : t.form = .word
    · have hmark : t.mark.val = .word := hform
      have hname : t.mark.span.extract? text = some t.text := ht.extract?
      rw [if_pos hmark, if_pos hform, hname]
      simp only [Option.bind_eq_bind, Option.bind_some]
      cases Kind.ofName? t.text with
      | none => rfl
      | some kind =>
        cases kind with
        | null => rfl
        | _ => exact readLiteral?_eq t _ hrest
    · have hmark : ¬ t.mark.val = .word := hform
      rw [if_neg hmark, if_neg hform]
      rfl

lemma readOperator?_eq (ts : List Token) :
    readOperator? text (ts.map Token.mark)
      = some (marked (Script.readOperator (Text.byteLength text.toList) ts)) := by
  cases ts with
  | nil => rfl
  | cons t ts =>
    have hflaw := flaw?_eq text .operator (t :: ts)
    rw [List.map_cons] at hflaw ⊢
    rw [readOperator?, Script.readOperator, hflaw]
    simp only [Token.mark]
    cases t.form <;> rfl

/-- **One comparison** is read from marks as it is read from tokens. -/
theorem readComparison?_eq (hts : ∀ t ∈ ts, t.StandsIn text.toList) :
    readComparison? text (ts.map Token.mark)
      = some (marked (Script.readComparison (Text.byteLength text.toList) ts)) := by
  have hlhs := Script.readOperand_within fun t ht => (hts t ht).fits
  rw [readComparison?, Script.readComparison, readOperand?_eq hts]
  cases hl : Script.readOperand (Text.byteLength text.toList) ts with
  | error flaw => rfl
  | ok p =>
    obtain ⟨lhs, ts₁⟩ := p
    rw [hl] at hlhs
    have hts₁ : ∀ t ∈ ts₁, t.StandsIn text.toList := by
      intro t ht
      exact hts t (hlhs.2 ht)
    have hop := Script.readOperator_within fun t ht => (hts₁ t ht).fits
    simp only [marked, Except.map, Option.bind_eq_bind, Option.bind_some, readOperator?_eq ts₁]
    cases ho : Script.readOperator (Text.byteLength text.toList) ts₁ with
    | error flaw => rfl
    | ok p =>
      obtain ⟨op, ts₂⟩ := p
      rw [ho] at hop
      have hts₂ : ∀ t ∈ ts₂, t.StandsIn text.toList := by
        intro t ht
        exact hts₁ t (hop.2 ht)
      simp only [marked, Except.map, Option.bind_some, readOperand?_eq hts₂]
      cases hr : Script.readOperand (Text.byteLength text.toList) ts₂ with
      | error flaw => rfl
      | ok p => simp [cover?_eq, Comparison.spanned]

/-- **All comparisons** are read from marks as they are read from tokens. -/
theorem ofMarks?_eq (hts : ∀ t ∈ ts, t.StandsIn text.toList) :
    ofMarks? text (ts.map Token.mark)
      = some (Script.ofTokens (Text.byteLength text.toList) ts) := by
  fun_induction Script.ofTokens (Text.byteLength text.toList) ts with
  | case1 => rw [List.map_nil, ofMarks?]
  | case2 t rest hsep ih =>
    have hmark : t.mark.val.isSeparator = true := hsep
    rw [List.map_cons, ofMarks?, if_pos hmark]
    exact ih (List.forall_mem_cons.1 hts).2
  | case3 t rest hsep flaw hread =>
    have hmark : t.mark.val.isSeparator = false := Bool.eq_false_iff.2 hsep
    have hmarks := readComparison?_eq hts
    rw [hread] at hmarks
    exact ofMarks?_of_readComparison? hmark hmarks
  | case4 t rest hsep c hread =>
    have hmark : t.mark.val.isSeparator = false := Bool.eq_false_iff.2 hsep
    have hmarks := readComparison?_eq hts
    rw [hread] at hmarks
    exact ofMarks?_of_readComparison? hmark hmarks
  | case5 t rest hsep c s after hread hs ih =>
    have hmark : t.mark.val.isSeparator = false := Bool.eq_false_iff.2 hsep
    have hmarks := readComparison?_eq hts
    have hwithin := Script.readComparison_within fun u hu => (hts u hu).fits
    rw [hread] at hmarks hwithin
    have hafter : ofMarks? text (s.mark :: after.map Token.mark)
        = some (Script.ofTokens (Text.byteLength text.toList) (s :: after)) := by
      apply ih
      intro u hu
      exact hts u (hwithin.2 hu)
    have hseparator : s.mark.val.isSeparator = true := hs
    refine (ofMarks?_of_readComparison? hmark hmarks).trans ?_
    simp [marked, Except.map, hseparator, hafter]
  | case6 t rest hsep c s after hread hs =>
    have hmark : t.mark.val.isSeparator = false := Bool.eq_false_iff.2 hsep
    have hmarks := readComparison?_eq hts
    have hflaw := flaw?_eq text .endOfComparison (s :: after)
    rw [hread] at hmarks
    rw [List.map_cons] at hflaw
    have hseparator : s.mark.val.isSeparator = false := Bool.eq_false_iff.2 hs
    refine (ofMarks?_of_readComparison? hmark hmarks).trans ?_
    simp [marked, Except.map, hseparator, hflaw]

end Readers

/-- **Reading a text by offsets never goes out of bounds**, and gives the script or the fault that
`Script.parse` gives. -/
theorem parse?_eq (text : String) : parse? text = some (Script.parse text) := by
  rw [parse?, scan?_eq]
  simp only [Option.bind_eq_bind, Option.bind_some]
  rw [ofMarks?_eq fun t ht => Token.standsIn_of_mem_scan ht]
  rfl

end Checked
end LooseEquality
