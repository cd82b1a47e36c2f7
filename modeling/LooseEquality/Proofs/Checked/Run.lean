import LooseEquality.Case
import LooseEquality.Proofs.Checked.Read
import LooseEquality.Proofs.Checked.Report
import LooseEquality.Proofs.Equality
import LooseEquality.Proofs.Session.Spans

/-!
# Running a script by offsets

The rest of the way, from a script to its outcomes and to the verdict of a case.  Two more things
can go wrong here.  A rule that was found for two kinds may have no answer for the values, and the
place of a fault may not be in the text in which it is looked for.

* `Checked.comparison?` — one comparison, where a rule without an answer is `none`;
* `Checked.runAll?`, `Checked.run?` — a text for its outcomes, and for as many as there are;
* `Checked.verify?` — a case, with the place of its fault.

**`in_bounds`** puts together what the checked versions say about the whole library: from any text
to any report, nothing goes wrong but for the one thing that `describe?_eq_none_iff` is about.
-/

namespace LooseEquality
namespace Checked

/-- The answer to `a op b`.  Only a rule that has no answer for its operands gives none. -/
def evaluate? (truthiness : Truthiness) (heap : Heap) (op : Operator) (a b : Value) :
    Option (Except Fault Bool) :=
  match Rule.resolve a.kind b.kind with
  | none => some (.error (.incomparable op a.kind b.kind))
  | some r => (r.holds? truthiness heap a b).map fun same => .ok (op.apply same)

/-- Evaluate a comparison. -/
def comparison? (s : Session) (c : Spanned Comparison) : Option (Except Fault Outcome × Session) :=
  match s.operand c.val.lhs with
  | .error fault => some (.error fault, s)
  | .ok (lhs, s₁) =>
    match s₁.operand c.val.rhs with
    | .error fault => some (.error fault, s₁)
    | .ok (rhs, s₂) => do
      match ← evaluate? s₂.truthiness s₂.heap c.val.op.val lhs rhs with
      | .error fault => some (.error (fault.locate c.val.op.span), s₂)
      | .ok result => some (.ok ⟨result, lhs.kind, rhs.kind⟩, s₂)

/-- Evaluate a script for its outcomes. -/
def outcomes? (s : Session) : Script → Option (Except Fault (List Outcome) × Session)
  | [] => some (.ok [], s)
  | c :: cs => do
    match ← comparison? s c with
    | (.error fault, s₁) => some (.error fault, s₁)
    | (.ok outcome, s₁) =>
      let (rest, s₂) ← outcomes? s₁ cs
      some (rest.map (outcome :: ·), s₂)

/-- Evaluate a script and keep the outcomes before a fault. -/
def transcript? (s : Session) : Script → Option (Transcript × Session)
  | [] => some (⟨[], none⟩, s)
  | c :: cs => do
    match ← comparison? s c with
    | (.error fault, s₁) => some (⟨[], some fault⟩, s₁)
    | (.ok outcome, s₁) =>
      let (rest, s₂) ← transcript? s₁ cs
      some (rest.cons outcome, s₂)

/-- Run a text for its outcomes. -/
def runAll? (s : Session) (text : String) : Option (Except Fault (List Outcome) × Session) := do
  match ← parse? text with
  | .error fault => some (.error fault, s)
  | .ok script => outcomes? s script

/-- Run a text, and keep the outcomes before a fault. -/
def run? (s : Session) (text : String) : Option (Transcript × Session) := do
  match ← parse? text with
  | .error fault => some (⟨[], some fault⟩, s)
  | .ok script => transcript? s script

/-- The place where a fault in a text is reported. -/
def locationOf? (width : List Char → Nat) (f : Fault) (text : String) : Option Location :=
  match f.span? with
  | none => some ⟨0, 0⟩
  | some span => location? width span text.toList

/-- Verify a case. -/
def verify? (width : List Char → Nat) (c : Case) (s : Session) :
    Option (Option Case.Mismatch × Session) := do
  match ← runAll? s c.input with
  | (.error fault, s₁) =>
    let location ← locationOf? width fault c.input
    some (c.judge (.fault fault.message location), s₁)
  | (.ok [o], s₁) => some (c.judge (.outcome o), s₁)
  | (.ok os, s₁) => some (some (c.mismatch (Numeral.ofNat os.length ++ " comparisons")), s₁)

/-! ## Evaluation -/

/-- **Rules have answers** for the values they were found for. -/
theorem evaluate?_eq (truthiness : Truthiness) (heap : Heap) (op : Operator) (a b : Value) :
    evaluate? truthiness heap op a b = some (Equality.evaluate truthiness heap op a b) := by
  rw [evaluate?, Equality.evaluate, Equality.equal?_eq_bind]
  cases hr : Rule.resolve a.kind b.kind with
  | none => rfl
  | some r =>
    obtain ⟨same, hsame⟩ := Equality.holds?_of_resolve truthiness heap hr
    simp [hsame]

lemma comparison?_eq (s : Session) (c : Spanned Comparison) :
    comparison? s c = some (s.comparison c) := by
  rw [comparison?, Session.comparison]
  cases s.operand c.val.lhs with
  | error fault => rfl
  | ok p =>
    obtain ⟨lhs, s₁⟩ := p
    simp only
    cases s₁.operand c.val.rhs with
    | error fault => rfl
    | ok p =>
      obtain ⟨rhs, s₂⟩ := p
      simp only [evaluate?_eq, Option.bind_eq_bind, Option.bind_some]
      cases Equality.evaluate s₂.truthiness s₂.heap c.val.op.val lhs rhs with
      | error fault => rfl
      | ok result => rfl

lemma outcomes?_eq (s : Session) (script : Script) :
    outcomes? s script = some (s.outcomes script) := by
  induction script generalizing s with
  | nil => rfl
  | cons c cs ih =>
    simp only [outcomes?, Session.outcomes, comparison?_eq, Option.bind_eq_bind, Option.bind_some]
    cases s.comparison c with
    | mk r s₁ =>
      cases r with
      | error fault => rfl
      | ok outcome => simp [ih s₁]

lemma transcript?_eq (s : Session) (script : Script) :
    transcript? s script = some (s.transcript script) := by
  induction script generalizing s with
  | nil => rfl
  | cons c cs ih =>
    simp only [transcript?, Session.transcript, comparison?_eq, Option.bind_eq_bind,
      Option.bind_some]
    cases s.comparison c with
    | mk r s₁ =>
      cases r with
      | error fault => rfl
      | ok outcome => simp [ih s₁]

theorem runAll?_eq (s : Session) (text : String) : runAll? s text = some (s.runAll text) := by
  rw [runAll?, Session.runAll, parse?_eq]
  simp only [Option.bind_eq_bind, Option.bind_some]
  cases Script.parse text with
  | error fault => rfl
  | ok script => exact outcomes?_eq s script

theorem run?_eq (s : Session) (text : String) : run? s text = some (s.run text) := by
  rw [run?, Session.run, parse?_eq]
  simp only [Option.bind_eq_bind, Option.bind_some]
  cases Script.parse text with
  | error fault => rfl
  | ok script => exact transcript?_eq s script

/-! ## Cases -/

variable (width : List Char → Nat)

/-- The place of a fault is found in the text that it comes from. -/
lemma locationOf?_isSome {f : Fault} {text : String} (h : f.Fits text.toList) :
    (locationOf? width f text).isSome = true := by
  obtain ⟨span, hspan, hfits⟩ := h
  obtain ⟨before, mid, after, hdivides⟩ := hfits.exists_divides
  rw [locationOf?, hspan]
  simp only
  rw [hdivides.eq_append, location?_append width hdivides.offset_eq]
  rfl

lemma locationOf?_eq {f : Fault} {text : String} (h : f.Fits text.toList) :
    locationOf? width f text = some (Case.locationOf f text width) := by
  obtain ⟨location, hlocation⟩ := Option.isSome_iff_exists.1 (locationOf?_isSome width h)
  obtain ⟨span, hspan, -⟩ := h
  simp only [locationOf?, Case.locationOf, hspan, location?_eq] at hlocation ⊢
  rw [hlocation, Option.getD_some]

theorem verify?_isSome (c : Case) (s : Session) : (verify? width c s).isSome = true := by
  rw [verify?, runAll?_eq]
  simp only [Option.bind_eq_bind, Option.bind_some]
  cases hrun : s.runAll c.input with
  | mk r s₁ =>
    cases r with
    | error fault =>
      have hfits : fault.Fits c.input.toList := Session.fits_of_runAll (by rw [hrun])
      obtain ⟨location, hlocation⟩ := Option.isSome_iff_exists.1 (locationOf?_isSome width hfits)
      simp [hlocation]
    | ok os =>
      cases os with
      | nil => rfl
      | cons o os =>
        cases os with
        | nil => rfl
        | cons o' os => rfl

theorem verify?_eq (c : Case) (s : Session) : verify? width c s = some (c.verify s width) := by
  rw [verify?, runAll?_eq, Case.verify]
  simp only [Option.bind_eq_bind, Option.bind_some]
  cases hrun : s.runAll c.input with
  | mk r s₁ =>
    cases r with
    | error fault =>
      have hfits : fault.Fits c.input.toList := Session.fits_of_runAll (by rw [hrun])
      simp [locationOf?_eq width hfits, Case.Expectation.ofFault]
    | ok os =>
      cases os with
      | nil => rfl
      | cons o os =>
        cases os with
        | nil => rfl
        | cons o' os => rfl

/-! ## The whole way -/

/-- **Nothing goes out of bounds.**  Of any text, in any session and for any measure of width:

* the text is cut and read, the script is run, and a case with the text is verified, all without
  anything going wrong, and with the results that the library has for them;
* a fault that comes out of this is tied to a place of the text, and there is no report of it if and
  only if the line before the place or the marked part of the line is wider than a run can be.  The
  number of the line is never that long. -/
theorem in_bounds (width : List Char → Nat) (text : String) (s : Session) :
    (scan? text = some ((Token.scan text).map Token.mark) ∧
      parse? text = some (Script.parse text) ∧
      runAll? s text = some (s.runAll text) ∧
      run? s text = some (s.run text) ∧
      ∀ name expect, (verify? width ⟨name, text, expect⟩ s).isSome = true ∧
        verify? width ⟨name, text, expect⟩ s
          = some (Case.verify ⟨name, text, expect⟩ s width)) ∧
    ∀ f : Fault, (Script.parse text = .error f ∨ (s.runAll text).1 = .error f ∨
        (s.run text).1.fault = some f) →
      ∃ before mid after, text.toList = before ++ (mid ++ after) ∧
        f.span? = some ⟨Text.byteLength before, Text.byteLength mid⟩ ∧
        (describe? width f text = none ↔ Span.maxRun < width (Text.lastLine before) ∨
          Span.maxRun < width (Text.firstLine mid)) ∧
        describe? width f text = f.describe? text width ∧
        (Text.byteLength text.toList < 2 ^ 64 →
          (Numeral.digits (Text.lineFeeds before + 1)).length ≤ Span.maxRun) := by
  have hverify : ∀ name expect, (verify? width ⟨name, text, expect⟩ s).isSome = true ∧
      verify? width ⟨name, text, expect⟩ s
        = some (Case.verify ⟨name, text, expect⟩ s width) := by
    intro name expect
    exact ⟨verify?_isSome width _ s, verify?_eq width _ s⟩
  refine ⟨⟨scan?_eq text, parse?_eq text, runAll?_eq s text, run?_eq s text, hverify⟩, ?_⟩
  intro f hf
  have hfits : f.Fits text.toList := by
    rcases hf with h | h | h
    · exact Script.fits_of_parse_error h
    · exact Session.fits_of_runAll h
    · exact Session.fits_of_run h
  obtain ⟨⟨offset, length⟩, hspan, hspanFits⟩ := hfits
  obtain ⟨before, mid, after, hdivides⟩ := hspanFits.exists_divides
  refine ⟨before, mid, after, hdivides.eq_append, ?_, describe?_eq_none_iff width hspan hdivides,
    describe?_eq width f text, ?_⟩
  · rw [hspan, ← hdivides.offset_eq, ← hdivides.length_eq]
  · intro hlen
    have hbefore : Text.byteLength before < 2 ^ 64 := by
      rw [hdivides.eq_append, Text.byteLength_append] at hlen
      omega
    exact (length_lineNumber_le hbefore).trans (by decide)

end Checked
end LooseEquality
