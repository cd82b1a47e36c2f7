import LooseEquality.Proofs.Session.Spans
import LooseEquality.Proofs.Shift

/-!
# Transcripts

A script can be evaluated for all its outcomes or for as many as there are.  The second is the finer
of the two: `Transcript.result` is what the first makes of a transcript, and **`outcomes_eq`** says
that evaluating for the outcomes is just that.  So what holds of transcripts is all there is to
know.

* **`transcript_append`** — a script in two parts is evaluated part by part, and the second only if
  the first is free of faults;
* **`transcript_shift`** — where in a text a script was read from shows in the place of its fault
  and nowhere else;
* `located_of_transcript` — the fault of a transcript has a place, and a cause that has none.
-/

namespace LooseEquality

/-- The outcomes of a script, or the fault that is in the way. -/
def Transcript.result (t : Transcript) : Except Fault (List Outcome) :=
  match t.fault with
  | none => .ok t.outcomes
  | some fault => .error fault

/-- A transcript that goes on with another, unless there was a fault. -/
def Transcript.append (t u : Transcript) : Transcript :=
  match t.fault with
  | none => ⟨t.outcomes ++ u.outcomes, u.fault⟩
  | some fault => ⟨t.outcomes, some fault⟩

/-- A fault in a text that has moved by `n` bytes. -/
def Fault.shift (n : Nat) : Fault → Fault
  | malformed detail span => malformed detail (span.shift n)
  | located cause span => located cause (span.shift n)
  | fault => fault

def Transcript.shift (n : Nat) (t : Transcript) : Transcript :=
  ⟨t.outcomes, t.fault.map (Fault.shift n)⟩

namespace Fault

lemma shift_zero : shift 0 = id := by
  funext f
  cases f <;> rfl

lemma shift_shift (m n : Nat) (f : Fault) : (f.shift m).shift n = f.shift (m + n) := by
  cases f <;> simp [shift, Span.shift, Nat.add_assoc]

@[simp] lemma span?_shift (n : Nat) (f : Fault) :
    (f.shift n).span? = f.span?.map (Span.shift n) := by
  cases f <;> rfl

end Fault

namespace Transcript

lemma result_cons (o : Outcome) (t : Transcript) :
    (t.cons o).result = t.result.map (o :: ·) := by
  simp only [result, cons]
  cases t.fault <;> rfl

lemma cons_append (o : Outcome) (t u : Transcript) :
    (t.cons o).append u = (t.append u).cons o := by
  simp only [append, cons]
  cases t.fault <;> rfl

/-- A transcript does not change if there is nothing to go on with. -/
lemma append_nil (t : Transcript) : t.append ⟨[], none⟩ = t := by
  obtain ⟨outcomes, fault⟩ := t
  cases fault with
  | none => simp [append]
  | some fault => rfl

/-- Nor does it if there was a fault. -/
lemma append_of_some {t : Transcript} {fault : Fault} (h : t.fault = some fault)
    (u : Transcript) : t.append u = t := by
  obtain ⟨outcomes, _⟩ := t
  cases h
  rfl

end Transcript

namespace Session

/-- **Evaluating for the outcomes** is evaluating for the transcript. -/
theorem outcomes_eq (s : Session) (script : Script) :
    s.outcomes script = ((s.transcript script).1.result, (s.transcript script).2) := by
  induction script generalizing s with
  | nil => rfl
  | cons c cs ih =>
    rw [outcomes, transcript]
    cases s.comparison c with
    | mk r s₁ =>
      cases r with
      | error fault => rfl
      | ok outcome =>
        simp only [ih s₁, Transcript.result_cons]

/-! ## Parts of a script -/

/-- **Parts of a script** are evaluated one after the other, up to the first fault. -/
theorem transcript_append (s : Session) (p q : Script) :
    (s.transcript (p ++ q)).1
      = (s.transcript p).1.append ((s.transcript p).2.transcript q).1 := by
  induction p generalizing s with
  | nil => rfl
  | cons c cs ih =>
    rw [List.cons_append, transcript, transcript]
    cases s.comparison c with
    | mk r s₁ =>
      cases r with
      | error fault => rfl
      | ok outcome => simp only [ih s₁, Transcript.cons_append]

/-! ## Scripts that have moved -/

lemma operand_shift (s : Session) (n : Nat) (o : Spanned Operand) :
    s.operand (o.shift n) = (s.operand o).mapError (Fault.shift n) := by
  simp only [operand, Spanned.shift]
  cases hlit : s.literal o.val.kind o.val.literalText with
  | error fault =>
    rw [literal_eq_error hlit]
    rfl
  | ok made => rfl

lemma comparison_shift (s : Session) (n : Nat) (c : Spanned Comparison) :
    s.comparison ⟨c.val.shift n, c.span.shift n⟩
      = ((s.comparison c).1.mapError (Fault.shift n), (s.comparison c).2) := by
  simp only [comparison, Comparison.shift, operand_shift]
  cases s.operand c.val.lhs with
  | error fault => rfl
  | ok made =>
    obtain ⟨lhs, s₁⟩ := made
    simp only [Except.mapError]
    cases s₁.operand c.val.rhs with
    | error fault => rfl
    | ok made =>
      obtain ⟨rhs, s₂⟩ := made
      simp only [Spanned.shift]
      cases heval : Equality.evaluate s₂.truthiness s₂.heap c.val.op.val lhs rhs with
      | error fault =>
        rw [evaluate_eq_error heval]
        rfl
      | ok result => rfl

/-- **Where a script stands in a text** shows only in the place of its fault. -/
theorem transcript_shift (s : Session) (n : Nat) (script : Script) :
    s.transcript (script.shift n)
      = ((s.transcript script).1.shift n, (s.transcript script).2) := by
  induction script generalizing s with
  | nil => rfl
  | cons c cs ih =>
    rw [Script.shift_cons, transcript, transcript, comparison_shift]
    cases s.comparison c with
    | mk r s₁ =>
      cases r with
      | error fault => rfl
      | ok outcome =>
        simp only [Except.mapError, ih s₁]
        rfl

/-! ## Faults of evaluation -/

lemma located_of_operand {s : Session} {o : Spanned Operand} {fault : Fault}
    (h : s.operand o = .error fault) : ∃ cause span, fault = .located cause span := by
  simp only [operand] at h
  cases hlit : s.literal o.val.kind o.val.literalText with
  | error cause =>
    rw [hlit, literal_eq_error hlit] at h
    cases h
    exact ⟨_, o.span, rfl⟩
  | ok made =>
    rw [hlit] at h
    cases h

/-- The fault of a comparison is tied to one of its operands or to its operator. -/
lemma located_of_comparison {s : Session} {c : Spanned Comparison} {fault : Fault}
    (h : (s.comparison c).1 = .error fault) : ∃ cause span, fault = .located cause span := by
  simp only [comparison] at h
  split at h
  · next fault' hlhs =>
    cases h
    exact located_of_operand hlhs
  · split at h
    · next fault' hrhs =>
      cases h
      exact located_of_operand hrhs
    · split at h
      · next fault' heval =>
        cases h
        rw [evaluate_eq_error heval]
        exact ⟨_, c.val.op.span, rfl⟩
      · cases h

lemma located_of_transcript {s : Session} {script : Script} {fault : Fault}
    (h : (s.transcript script).1.fault = some fault) :
    ∃ cause span, fault = .located cause span := by
  induction script generalizing s with
  | nil => cases h
  | cons c cs ih =>
    rw [transcript] at h
    split at h
    · next fault' s₁ hfail =>
      cases h
      exact located_of_comparison (by rw [hfail])
    · exact ih h

end Session
end LooseEquality
