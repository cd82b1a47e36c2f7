import LooseEquality.Proofs.Session.Transcript

/-!
# What evaluation does to a session

Evaluating reaches a session at one point only, where an array literal denotes an array: one is
made, with or without a name.  So whatever holds between the session before and after that
(`Lasting`) holds between the session before and after anything that is evaluated, faults or not.
The inductions over comparisons and scripts are here, and nowhere else.
-/

namespace LooseEquality
namespace Session

/-- A relation of sessions to what becomes of them: it holds where an array is made, and lasts. -/
structure Lasting (R : Session → Session → Prop) : Prop where
  refl : ∀ s, R s s
  trans : ∀ {s s' s''}, R s s' → R s' s'' → R s s''
  fresh : ∀ s : Session, R s s.fresh.2
  named : ∀ (s : Session) (name : String), isArrayName name = true → R s (s.named name).2

lemma literal_of_operand {s : Session} {o : Spanned Operand} {r : Value × Session}
    (h : s.operand o = .ok r) : s.literal o.val.kind o.val.literalText = .ok r := by
  simp only [operand] at h
  cases hlit : s.literal o.val.kind o.val.literalText with
  | error fault =>
    rw [hlit] at h
    cases h
  | ok made =>
    rw [hlit] at h
    exact h

/-- The literals that have readers are no arrays, so a session has nothing to do with them. -/
lemma kind_of_map_orInvalid {α : Type} {f : α → Value} {kind : Kind} {text : String} {x : Option α}
    {v : Value} (hf : ∀ a, (f a).kind ≠ .array)
    (h : Literal.orInvalid kind text (x.map f) = .ok v) : v.kind ≠ .array := by
  cases x with
  | none => cases h
  | some a =>
    cases h
    exact hf a

namespace Lasting

variable {R : Session → Session → Prop} {s s' : Session}

lemma array (hR : Lasting R) {text : String} {a : ArrayRef} (h : s.array text = .ok (a, s')) :
    R s s' := by
  simp only [Session.array] at h
  split at h
  · cases h
    exact hR.fresh s
  · split at h
    · next hname =>
      have hnamed := hR.named s text hname
      rw [Except.ok.inj h] at hnamed
      exact hnamed
    · cases h

lemma literal (hR : Lasting R) {kind : Kind} {text : String} {v : Value}
    (h : s.literal kind text = .ok (v, s')) : R s s' := by
  have hpure : ∀ x : Except Fault Value, x.map (·, s) = .ok (v, s') → R s s' := by
    intro x hx
    cases x with
    | error fault => cases hx
    | ok w =>
      cases hx
      exact hR.refl s
  cases kind with
  | null =>
    cases h
    exact hR.refl s
  | string =>
    cases h
    exact hR.refl s
  | array =>
    simp only [Session.literal] at h
    cases hmade : s.array text with
    | error fault =>
      rw [hmade] at h
      cases h
    | ok made =>
      rw [hmade] at h
      cases h
      exact hR.array hmade
  | _ => exact hpure _ h

lemma operand (hR : Lasting R) {o : Spanned Operand} {v : Value}
    (h : s.operand o = .ok (v, s')) : R s s' := hR.literal (literal_of_operand h)

/-- **One comparison**, whether or not it fails. -/
theorem comparison (hR : Lasting R) (s : Session) (c : Spanned Comparison) :
    R s (s.comparison c).2 := by
  simp only [Session.comparison]
  split
  · exact hR.refl s
  · next lhs s₁ hlhs =>
    have h₁ := hR.operand hlhs
    split
    · exact h₁
    · next rhs s₂ hrhs =>
      have h₂ := hR.trans h₁ (hR.operand hrhs)
      split
      · exact h₂
      · exact h₂

theorem transcript (hR : Lasting R) (s : Session) (script : Script) :
    R s (s.transcript script).2 := by
  induction script generalizing s with
  | nil => exact hR.refl s
  | cons c cs ih =>
    have hstep := hR.comparison s c
    simp only [Session.transcript]
    split
    · next fault s₁ hc =>
      rw [hc] at hstep
      exact hstep
    · next outcome s₁ hc =>
      rw [hc] at hstep
      exact hR.trans hstep (ih s₁)

theorem outcomes (hR : Lasting R) (s : Session) (script : Script) :
    R s (s.outcomes script).2 := by
  rw [outcomes_eq]
  exact hR.transcript s script

theorem run (hR : Lasting R) (s : Session) (text : String) : R s (s.run text).2 := by
  simp only [Session.run]
  split
  · exact hR.refl s
  · exact hR.transcript s _

end Lasting
end Session
end LooseEquality
