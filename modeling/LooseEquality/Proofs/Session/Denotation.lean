import LooseEquality.Proofs.Script.Plain
import LooseEquality.Proofs.Session.Alike
import LooseEquality.Proofs.Session.Blame

/-!
# The values that are compared

A comparison has an outcome if its two literals denote values that can be compared.  The literals
are evaluated from left to right, so the right one is evaluated in the session that the left one
leaves behind, and what the two values are compared in is the session after both.

* `Session.Denotes` — the values of two operands, and the session after both;
* `Session.Finds` — whether those values are equal.

**`comparison_eq_ok_iff`** says that the outcomes of comparisons come about in this way.  The order
of evaluation leaves a trace in the session, as arrays are made in it, but no comparison can see
that: **`finds_comm`** says that operands that change places are found equal or unequal as before.
-/

namespace LooseEquality

lemma Equality.equal?_comm (truthiness : Truthiness) (heap : Heap) (v w : Value) :
    equal? truthiness heap v w = equal? truthiness heap w v := by
  cases h : equal? truthiness heap v w with
  | none =>
    have hkinds := (equal?_eq_none_iff truthiness heap).1 h
    rw [(equal?_eq_none_iff truthiness heap).2 (incomparable_comm.1 hkinds)]
  | some same =>
    have hkinds : ¬ Incomparable v.kind w.kind := by
      rw [← equal?_eq_none_iff truthiness heap, h]
      exact Option.some_ne_none same
    have hequal := (equal?_eq_some_iff hkinds).1 h
    rw [(equal?_eq_some_iff (mt incomparable_comm.1 hkinds)).2 (hequal.trans equal_comm)]

namespace Session

/-- The values that the literals of two operands denote, the left one evaluated first, and the
session after both. -/
def Denotes (s : Session) (lhs rhs : Operand) (v w : Value) (t : Session) : Prop :=
  ∃ s₁, s.literal lhs.kind lhs.literalText = .ok (v, s₁) ∧
    s₁.literal rhs.kind rhs.literalText = .ok (w, t)

/-- Two operands denote values, and whether these are equal is as said. -/
def Finds (s : Session) (lhs rhs : Operand) (same : Bool) : Prop :=
  ∃ v w t, s.Denotes lhs rhs v w t ∧ Equality.equal? t.truthiness t.heap v w = some same

variable {s t : Session} {lhs rhs : Operand}

/-! ## Literals of operands -/

lemma operand_eq_ok_iff {o : Spanned Operand} {r : Value × Session} :
    s.operand o = .ok r ↔ s.literal o.val.kind o.val.literalText = .ok r := by
  refine ⟨literal_of_operand, fun h => ?_⟩
  rw [operand, h]
  rfl

/-- A literal is of the kind that is asked for, or it is invalid whatever the session. -/
lemma literal_cases (s : Session) (o : Operand) :
    (o.IsInvalid ∧ ∀ r, s.literal o.kind o.literalText ≠ .ok r) ∨
      (¬ o.IsInvalid ∧ ∃ v t, s.literal o.kind o.literalText = .ok (v, t) ∧ v.kind = o.kind) := by
  rcases operand_cases s ⟨o, ⟨0, 0⟩⟩ with ⟨ho, heval⟩ | ⟨ho, v, t, heval, hkind⟩
  · refine .inl ⟨ho, fun r h => ?_⟩
    rw [operand_eq_ok_iff.2 h] at heval
    cases heval
  · exact .inr ⟨ho, v, t, operand_eq_ok_iff.1 heval, hkind⟩

lemma kind_of_literal {o : Operand} {v : Value} (h : s.literal o.kind o.literalText = .ok (v, t)) :
    ¬ o.IsInvalid ∧ v.kind = o.kind := by
  rcases literal_cases s o with ⟨-, hnone⟩ | ⟨ho, w, u, heval, hkind⟩
  · exact absurd h (hnone (v, t))
  · rw [h] at heval
    cases heval
    exact ⟨ho, hkind⟩

/-- Two operands denote values unless one of them is invalid, in any session. -/
lemma exists_denotes_iff :
    (∃ v w t, s.Denotes lhs rhs v w t) ↔ ¬ lhs.IsInvalid ∧ ¬ rhs.IsInvalid := by
  constructor
  · rintro ⟨v, w, t, s₁, hv, hw⟩
    exact ⟨(kind_of_literal hv).1, (kind_of_literal hw).1⟩
  · rintro ⟨hlhs, hrhs⟩
    rcases literal_cases s lhs with ⟨hinvalid, -⟩ | ⟨-, v, s₁, hv, -⟩
    · exact absurd hinvalid hlhs
    rcases literal_cases s₁ rhs with ⟨hinvalid, -⟩ | ⟨-, w, t, hw, -⟩
    · exact absurd hinvalid hrhs
    exact ⟨v, w, t, s₁, hv, hw⟩

lemma Denotes.kind_eq {v w : Value} (h : s.Denotes lhs rhs v w t) :
    v.kind = lhs.kind ∧ w.kind = rhs.kind := by
  obtain ⟨s₁, hv, hw⟩ := h
  exact ⟨(kind_of_literal hv).2, (kind_of_literal hw).2⟩

/-! ## Comparisons -/

lemma comparison_of_denotes {c : Spanned Comparison} {v w : Value} {same : Bool}
    (h : s.Denotes c.val.lhs.val c.val.rhs.val v w t)
    (hequal : Equality.equal? t.truthiness t.heap v w = some same) :
    s.comparison c
      = (.ok ⟨c.val.op.val.apply same, c.val.lhs.val.kind, c.val.rhs.val.kind⟩, t) := by
  obtain ⟨s₁, hv, hw⟩ := h
  simp only [comparison, operand_eq_ok_iff.2 hv, operand_eq_ok_iff.2 hw, Equality.evaluate, hequal,
    (kind_of_literal hv).2, (kind_of_literal hw).2]

/-- **The outcome of a comparison** is what the operator makes of the values that are found. -/
theorem comparison_eq_ok_iff {c : Spanned Comparison} {o : Outcome} :
    (s.comparison c).1 = .ok o ↔
      ∃ same, s.Finds c.val.lhs.val c.val.rhs.val same ∧
        o = ⟨c.val.op.val.apply same, c.val.lhs.val.kind, c.val.rhs.val.kind⟩ := by
  constructor
  · intro h
    simp only [comparison] at h
    split at h
    · cases h
    · next v s₁ hv =>
      have hlit := operand_eq_ok_iff.1 hv
      split at h
      · cases h
      · next w t hw =>
        have hlit' := operand_eq_ok_iff.1 hw
        simp only [Equality.evaluate] at h
        cases hequal : Equality.equal? t.truthiness t.heap v w with
        | none =>
          rw [hequal] at h
          cases h
        | some same =>
          rw [hequal] at h
          cases h
          refine ⟨same, ⟨v, w, t, ⟨s₁, hlit, hlit'⟩, hequal⟩, ?_⟩
          rw [(kind_of_literal hlit).2, (kind_of_literal hlit').2]
  · rintro ⟨same, ⟨v, w, t, hdenotes, hequal⟩, rfl⟩
    rw [comparison_of_denotes hdenotes hequal]

/-- A script of one comparison in plain print has its outcome, or fails with its fault. -/
lemma runAll_caseInput (s : Session) (op : Operator) (hlhs : lhs.Plain) (hrhs : rhs.Plain) :
    s.runAll (Fact.caseInput op lhs rhs)
      = ((s.comparison (Comparison.plain op lhs rhs).spanned).1.map fun o => [o],
          (s.comparison (Comparison.plain op lhs rhs).spanned).2) := by
  rw [runAll, Script.parse_caseInput op hlhs hrhs]
  simp only [outcomes]
  generalize s.comparison (Comparison.plain op lhs rhs).spanned = answer
  obtain ⟨result, s₁⟩ := answer
  cases result <;> rfl

lemma runAll_of_denotes {v w : Value} {same : Bool} (op : Operator) (hlhs : lhs.Plain)
    (hrhs : rhs.Plain) (h : s.Denotes lhs rhs v w t)
    (hequal : Equality.equal? t.truthiness t.heap v w = some same) :
    s.runAll (Fact.caseInput op lhs rhs) = (.ok [⟨op.apply same, lhs.kind, rhs.kind⟩], t) := by
  have hdenotes : s.Denotes (Comparison.plain op lhs rhs).lhs.val
      (Comparison.plain op lhs rhs).rhs.val v w t := h
  rw [runAll_caseInput s op hlhs hrhs,
    comparison_of_denotes (c := (Comparison.plain op lhs rhs).spanned) hdenotes hequal]
  rfl

/-! ## Operands that change places -/

/-- The values of operands that change places are alike. -/
lemma Denotes.exists_swap {v w : Value} (hs : s.WellFormed) (h : s.Denotes lhs rhs v w t) :
    ∃ v' w' u, s.Denotes rhs lhs w' v' u ∧ v.Like t.truthiness t.heap u.heap v' ∧
      w.Like t.truthiness t.heap u.heap w' ∧ u.truthiness = t.truthiness := by
  obtain ⟨s₁, hv, hw⟩ := h
  have hgrow₁ : s.GrowsTo s₁ := lasting_growsTo.literal hv
  have hgrow₂ : s₁.GrowsTo t := lasting_growsTo.literal hw
  have halike := hgrow₁.alike hs
  have hrhs := likeResults_literal halike.symm rhs.kind rhs.literalText
  rw [hw] at hrhs
  generalize hw' : s.literal rhs.kind rhs.literalText = x at hrhs
  cases hrhs with
  | @ok _ w' _ u₁ hlikew =>
    have hgrow₁' : s.GrowsTo u₁ := lasting_growsTo.literal hw'
    have hlhs := likeResults_literal (hgrow₁'.alike hs) lhs.kind lhs.literalText
    rw [hv] at hlhs
    generalize hv' : u₁.literal lhs.kind lhs.literalText = y at hlhs
    cases hlhs with
    | @ok _ v' _ u hlikev =>
      have hgrow₂' : u₁.GrowsTo u := lasting_growsTo.literal hv'
      have htruth : t.truthiness = s.truthiness :=
        hgrow₂.truthiness_eq.trans hgrow₁.truthiness_eq
      rw [hgrow₁.truthiness_eq, ← htruth] at hlikew
      rw [← htruth] at hlikev
      refine ⟨v', w', u, ⟨u₁, hw', hv'⟩, hlikev.mono hgrow₂.kept (.refl _),
        hlikew.mono (.refl _) hgrow₂'.kept, ?_⟩
      rw [hgrow₂'.truthiness_eq, hgrow₁'.truthiness_eq, htruth]

lemma Finds.swap {same : Bool} (hs : s.WellFormed) (h : s.Finds lhs rhs same) :
    s.Finds rhs lhs same := by
  obtain ⟨v, w, t, hdenotes, hequal⟩ := h
  obtain ⟨v', w', u, hdenotes', hlikev, hlikew, htruth⟩ := hdenotes.exists_swap hs
  refine ⟨w', v', u, hdenotes', ?_⟩
  rw [htruth, Equality.equal?_comm, ← equal?_of_like hlikev hlikew, hequal]

/-- **Operands that change places** are found equal or unequal as before. -/
theorem finds_comm (hs : s.WellFormed) (lhs rhs : Operand) (same : Bool) :
    s.Finds lhs rhs same ↔ s.Finds rhs lhs same :=
  ⟨.swap hs, .swap hs⟩

end Session
end LooseEquality
