import LooseEquality.Proofs.Script.Spans
import LooseEquality.Session.Run

/-!
# Where the faults of a session are

A fault of a text that is run is tied to a place of that text, in whatever session.  If the text is
no script, that is the place of the flaw.  Otherwise a comparison failed, and the fault was tied to
one of its operands or to its operator, whose spans fit because they were read from the text.

Locating does not change a place that was given before, so this needs that the faults of literals
and of the equality test come without one (`literal_eq_error`, `evaluate_eq_error`).

**`fits_of_run`** and **`fits_of_runAll`** say it for the two ways to run a text.
-/

namespace LooseEquality
namespace Session

lemma orInvalid_eq_error {kind : Kind} {lit : String} {v : Option Value} {fault : Fault}
    (h : Literal.orInvalid kind lit v = .error fault) : fault = .invalidLiteral kind lit := by
  cases v with
  | none =>
    cases h
    rfl
  | some v => cases h

lemma array_eq_error {s : Session} {lit : String} {fault : Fault}
    (h : s.array lit = .error fault) : fault = .invalidLiteral .array lit := by
  simp only [array] at h
  split at h
  · cases h
  · split at h
    · cases h
    · cases h
      rfl

lemma map_eq_error {ε α β : Type} {f : α → β} {x : Except ε α} {e : ε}
    (h : x.map f = .error e) : x = .error e := by
  cases x with
  | error e' =>
    cases h
    rfl
  | ok a => cases h

/-- The fault of a text that denotes nothing names the kind and the text. -/
lemma literal_eq_error {s : Session} {kind : Kind} {lit : String} {fault : Fault}
    (h : s.literal kind lit = .error fault) : fault = .invalidLiteral kind lit := by
  cases kind with
  | null => cases h
  | boolean => exact orInvalid_eq_error (map_eq_error h)
  | integer => exact orInvalid_eq_error (map_eq_error h)
  | real => exact orInvalid_eq_error (map_eq_error h)
  | string => cases h
  | array => exact array_eq_error (map_eq_error h)

lemma evaluate_eq_error {truthiness : Truthiness} {heap : Heap} {op : Operator} {a b : Value}
    {fault : Fault} (h : Equality.evaluate truthiness heap op a b = .error fault) :
    fault = .incomparable op a.kind b.kind := by
  simp only [Equality.evaluate] at h
  split at h
  · cases h
  · cases h
    rfl

variable {text : List Char} {s : Session} {fault : Fault}

lemma operand_fits {o : Spanned Operand} (ho : o.span.Fits text)
    (h : s.operand o = .error fault) : fault.Fits text := by
  simp only [operand] at h
  cases hlit : s.literal o.val.kind o.val.literalText with
  | error cause =>
    rw [hlit] at h
    cases h
    rw [literal_eq_error hlit]
    exact ⟨o.span, rfl, ho⟩
  | ok made =>
    rw [hlit] at h
    cases h

/-- **One comparison.**  Its fault is at one of the operands or at the operator. -/
theorem comparison_fits {c : Spanned Comparison} (hc : c.val.Fits text)
    (h : (s.comparison c).1 = .error fault) : fault.Fits text := by
  simp only [comparison] at h
  split at h
  · next fault' hlhs =>
    cases h
    exact operand_fits hc.lhs hlhs
  · split at h
    · next fault' hrhs =>
      cases h
      exact operand_fits hc.rhs hrhs
    · split at h
      · next fault' heval =>
        cases h
        rw [evaluate_eq_error heval]
        exact ⟨c.val.op.span, rfl, hc.op⟩
      · cases h

lemma outcomes_fits {script : Script} (hscript : ∀ c ∈ script, c.val.Fits text)
    (h : (s.outcomes script).1 = .error fault) : fault.Fits text := by
  induction script generalizing s with
  | nil => cases h
  | cons c cs ih =>
    obtain ⟨hc, hcs⟩ := List.forall_mem_cons.1 hscript
    rw [outcomes] at h
    split at h
    · next fault' s₁ hfail =>
      cases h
      exact comparison_fits hc (by rw [hfail])
    · exact ih hcs (map_eq_error h)

lemma transcript_fits {script : Script} (hscript : ∀ c ∈ script, c.val.Fits text)
    (h : (s.transcript script).1.fault = some fault) : fault.Fits text := by
  induction script generalizing s with
  | nil => cases h
  | cons c cs ih =>
    obtain ⟨hc, hcs⟩ := List.forall_mem_cons.1 hscript
    rw [transcript] at h
    split at h
    · next fault' s₁ hfail =>
      cases h
      exact comparison_fits hc (by rw [hfail])
    · exact ih hcs h

/-! ## Texts -/

/-- The fault of a text that is run for its outcomes is at a place of the text. -/
theorem fits_of_runAll {text : String} (h : (s.runAll text).1 = .error fault) :
    fault.Fits text.toList := by
  simp only [runAll] at h
  split at h
  · next fault' hparse =>
    cases h
    exact Script.fits_of_parse_error hparse
  · next script hparse => exact outcomes_fits (Script.fits_of_parse hparse) h

/-- The fault of a text that is run is at a place of the text. -/
theorem fits_of_run {text : String} (h : (s.run text).1.fault = some fault) :
    fault.Fits text.toList := by
  simp only [run] at h
  split at h
  · next fault' hparse =>
    cases h
    exact Script.fits_of_parse_error hparse
  · next script hparse => exact transcript_fits (Script.fits_of_parse hparse) h

end Session
end LooseEquality
