import LooseEquality.Proofs.Equality
import LooseEquality.Proofs.Session.Transcript

/-!
# What a script fails with

A comparison fails for one of three reasons: its left literal denotes nothing, or its right one, or
there is no rule for the kinds of the two.  Evaluating from left to right means that the reasons are
asked for in this order.  None of them depends on the session, so which fault a comparison has can
be read off the comparison alone.

* `Operand.IsInvalid` — the literal of an operand denotes nothing;
* `Comparison.Blames` — the fault of a comparison, with the part of it that is to blame;
* `Session.Passes` — comparisons that are evaluated one after the other without a fault;
* `Session.Stops` — a script that gets as far as its first comparison with a fault.

**`comparison_eq_error_iff`** says that the faults of comparisons are those, in any session, and
**`outcomes_agree_with_transcript`** what this comes to for scripts: evaluated for all outcomes or
for as many as there are, a script passes or stops, with the same fault and in the same session.
-/

namespace LooseEquality

/-- The literal of an operand denotes nothing.  An operand that is null goes without a literal, and
every text is a string. -/
def Operand.IsInvalid (o : Operand) : Prop :=
  match o.kind with
  | .null => False
  | .boolean => Literal.boolean? o.literalText = none
  | .integer => Literal.integer? o.literalText = none
  | .real => Literal.real? o.literalText = none
  | .string => False
  | .array => o.literalText ≠ Session.anonymous ∧ Session.isArrayName o.literalText = false

/-- The fault of an operand with such a literal. -/
def Operand.invalid (o : Spanned Operand) : Fault :=
  .located (.invalidLiteral o.val.kind o.val.literalText) o.span

/-- The fault of a comparison.  The left operand is blamed first, then the right one, and the
operator only if both are right but do not go together. -/
inductive Comparison.Blames (c : Comparison) : Fault → Prop
  | lhs (h : c.lhs.val.IsInvalid) : Blames c (Operand.invalid c.lhs)
  | rhs (hlhs : ¬ c.lhs.val.IsInvalid) (h : c.rhs.val.IsInvalid) :
      Blames c (Operand.invalid c.rhs)
  | operator (hlhs : ¬ c.lhs.val.IsInvalid) (hrhs : ¬ c.rhs.val.IsInvalid)
      (h : Equality.Incomparable c.lhs.val.kind c.rhs.val.kind) :
      Blames c
        (.located (.incomparable c.op.val c.lhs.val.kind c.rhs.val.kind) c.op.span)

/-- A fault of a literal or of two kinds, which has no place of its own. -/
inductive Fault.IsPlain : Fault → Prop
  | invalidLiteral (kind : Kind) (text : String) : IsPlain (.invalidLiteral kind text)
  | incomparable (op : Operator) (lhs rhs : Kind) : IsPlain (.incomparable op lhs rhs)

namespace Session

/-- Comparisons that are evaluated one after the other, none of which fails. -/
inductive Passes : Session → Script → List Outcome → Session → Prop
  | nil (s : Session) : Passes s [] [] s
  | cons {s s₁ s₂ : Session} {c : Spanned Comparison} {cs : Script} {o : Outcome}
      {os : List Outcome} (hc : s.comparison c = (.ok o, s₁)) (hcs : Passes s₁ cs os s₂) :
      Passes s (c :: cs) (o :: os) s₂

/-- A script with a comparison that fails, behind others that do not.  What stands behind it has no
part in this. -/
inductive Stops (s : Session) : Script → List Outcome → Fault → Session → Prop
  | intro {front : Script} {os : List Outcome} {s₁ : Session} {c : Spanned Comparison}
      {fault : Fault} (hfront : Passes s front os s₁) (hc : c.val.Blames fault) (back : Script) :
      Stops s (front ++ c :: back) os fault (s₁.comparison c).2

/-! ## Operands -/

/-- A literal that has a reader is read as a value of its kind, or the reader says `none`. -/
lemma orInvalid_cases {α : Type} (kind : Kind) (text : String) {f : α → Value}
    (hf : ∀ a, (f a).kind = kind) (x : Option α) :
    (x = none ∧ Literal.orInvalid kind text (x.map f) = .error (.invalidLiteral kind text)) ∨
      (x ≠ none ∧ ∃ v, Literal.orInvalid kind text (x.map f) = .ok v ∧ v.kind = kind) := by
  cases x with
  | none => exact .inl ⟨rfl, rfl⟩
  | some a => exact .inr ⟨by simp, f a, rfl, hf a⟩

/-- **An operand denotes a value of its kind, or is invalid**, in any session. -/
theorem operand_cases (s : Session) (o : Spanned Operand) :
    (o.val.IsInvalid ∧ s.operand o = .error (Operand.invalid o)) ∨
      (¬ o.val.IsInvalid ∧ ∃ v s', s.operand o = .ok (v, s') ∧ v.kind = o.val.kind) := by
  obtain ⟨⟨kind, literal⟩, span⟩ := o
  -- what evaluating an operand makes of the reader of its literal
  have hread : ∀ {p : Prop} {x : Except Fault Value},
      (p ∧ x = .error (.invalidLiteral kind (Operand.literalText ⟨kind, literal⟩))) ∨
        (¬ p ∧ ∃ v, x = .ok v ∧ v.kind = kind) →
      (p ∧ (x.map (·, s)).mapError (Fault.locate span)
          = .error (Operand.invalid ⟨⟨kind, literal⟩, span⟩)) ∨
        (¬ p ∧ ∃ v s', (x.map (·, s)).mapError (Fault.locate span) = .ok (v, s') ∧
          v.kind = kind) := by
    rintro p x (⟨hp, rfl⟩ | ⟨hp, v, rfl, hv⟩)
    · exact .inl ⟨hp, rfl⟩
    · exact .inr ⟨hp, v, s, rfl, hv⟩
  cases kind with
  | null => exact .inr ⟨id, .null, s, rfl, rfl⟩
  | boolean => exact hread (orInvalid_cases .boolean _ (fun _ => rfl) _)
  | integer => exact hread (orInvalid_cases .integer _ (fun _ => rfl) _)
  | real => exact hread (orInvalid_cases .real _ (fun _ => rfl) _)
  | string => exact .inr ⟨id, .string _, s, rfl, rfl⟩
  | array =>
    simp only [Operand.IsInvalid, operand, Session.literal, array]
    split_ifs with hanonymous hname
    · exact .inr ⟨fun h => h.1 hanonymous, _, _, rfl, rfl⟩
    · refine .inr ⟨fun h => ?_, _, _, rfl, rfl⟩
      rw [hname] at h
      exact Bool.noConfusion h.2
    · exact .inl ⟨⟨hanonymous, Bool.eq_false_iff.2 hname⟩, rfl⟩

/-! ## Comparisons -/

/-- What comes of a comparison: the fault that it is to be blamed for, or an outcome. -/
theorem comparison_cases (s : Session) (c : Spanned Comparison) :
    (∃ fault, c.val.Blames fault ∧ (s.comparison c).1 = .error fault) ∨
      ((∀ fault, ¬ c.val.Blames fault) ∧ ∃ o, (s.comparison c).1 = .ok o) := by
  simp only [comparison]
  rcases operand_cases s c.val.lhs with ⟨hlhs, heval⟩ | ⟨hlhs, lhs, s₁, heval, hkind⟩
  · rw [heval]
    exact .inl ⟨_, .lhs hlhs, rfl⟩
  rw [heval]
  simp only
  rcases operand_cases s₁ c.val.rhs with ⟨hrhs, heval⟩ | ⟨hrhs, rhs, s₂, heval, hkind'⟩
  · rw [heval]
    exact .inl ⟨_, .rhs hlhs hrhs, rfl⟩
  rw [heval]
  simp only [Equality.evaluate]
  have hnone := Equality.equal?_eq_none_iff s₂.truthiness s₂.heap (a := lhs) (b := rhs)
  rw [hkind, hkind'] at hnone
  cases hequal : Equality.equal? s₂.truthiness s₂.heap lhs rhs with
  | none =>
    refine .inl ⟨_, .operator hlhs hrhs (hnone.1 hequal), ?_⟩
    rw [hkind, hkind']
    rfl
  | some same =>
    refine .inr ⟨fun fault hblames => ?_, _, rfl⟩
    cases hblames with
    | lhs h => exact hlhs h
    | rhs _ h => exact hrhs h
    | operator _ _ h =>
      rw [hnone.2 h] at hequal
      cases hequal

/-- No comparison has two faults: the reasons for them exclude each other. -/
lemma blames_unique {c : Comparison} {fault fault' : Fault} (h : c.Blames fault)
    (h' : c.Blames fault') : fault = fault' := by
  cases h with
  | lhs h =>
    cases h' with
    | lhs _ => rfl
    | rhs hlhs _ => exact absurd h hlhs
    | operator hlhs _ _ => exact absurd h hlhs
  | rhs hlhs h =>
    cases h' with
    | lhs h' => exact absurd h' hlhs
    | rhs _ _ => rfl
    | operator _ hrhs _ => exact absurd h hrhs
  | operator hlhs hrhs h =>
    cases h' with
    | lhs h' => exact absurd h' hlhs
    | rhs _ h' => exact absurd h' hrhs
    | operator _ _ _ => rfl

/-- **The fault of a comparison** is the one that it is to be blamed for, in any session. -/
theorem comparison_eq_error_iff {s : Session} {c : Spanned Comparison} {fault : Fault} :
    (s.comparison c).1 = .error fault ↔ c.val.Blames fault := by
  rcases comparison_cases s c with ⟨fault', hblames, heval⟩ | ⟨hnone, o, heval⟩
  · rw [heval, Except.error.injEq]
    constructor
    · rintro rfl
      exact hblames
    · exact blames_unique hblames
  · rw [heval]
    exact iff_of_false (fun h => by cases h) (hnone fault)

/-- A fault of a comparison is located once, and says what it says without its place. -/
lemma located_of_blames {c : Comparison} {fault : Fault} (h : c.Blames fault) :
    ∃ cause span, fault = .located cause span ∧ cause.IsPlain ∧ fault.root = cause ∧
      fault.message = cause.message := by
  cases h with
  | lhs h => exact ⟨_, _, rfl, .invalidLiteral _ _, rfl, rfl⟩
  | rhs hlhs h => exact ⟨_, _, rfl, .invalidLiteral _ _, rfl, rfl⟩
  | operator hlhs hrhs h => exact ⟨_, _, rfl, .incomparable _ _ _, rfl, rfl⟩

/-! ## Scripts -/

lemma transcript_of_passes {s s' : Session} {script : Script} {os : List Outcome}
    (h : Passes s script os s') : s.transcript script = (⟨os, none⟩, s') := by
  induction h with
  | nil s => rfl
  | cons hc hcs ih =>
    simp only [transcript, hc, ih]
    rfl

lemma transcript_of_stops {s s' : Session} {script : Script} {os : List Outcome} {fault : Fault}
    (h : s.Stops script os fault s') : s.transcript script = (⟨os, some fault⟩, s') := by
  obtain ⟨hfront, hblames, back⟩ := h
  induction hfront with
  | nil s =>
    have hfails := comparison_eq_error_iff (s := s).2 hblames
    rw [List.nil_append, transcript]
    split
    · next fault' s₁ heval =>
      rw [heval] at hfails ⊢
      rw [Except.error.inj hfails]
    · next o s₁ heval =>
      rw [heval] at hfails
      cases hfails
  | cons hc hcs ih =>
    rw [List.cons_append]
    simp only [transcript, hc, ih]
    rfl

/-- **A script passes or stops.** -/
theorem passes_or_stops (s : Session) (script : Script) :
    (∃ os s', s.Passes script os s') ∨ ∃ os fault s', s.Stops script os fault s' := by
  induction script generalizing s with
  | nil => exact .inl ⟨[], s, .nil s⟩
  | cons c cs ih =>
    cases hc : s.comparison c with
    | mk r s₁ =>
      cases r with
      | error fault =>
        have hblames : c.val.Blames fault := comparison_eq_error_iff.1 (by rw [hc])
        exact .inr ⟨[], fault, _, .intro (.nil s) hblames cs⟩
      | ok o =>
        rcases ih s₁ with ⟨os, s', hpasses⟩ | ⟨os, fault, s', hstops⟩
        · exact .inl ⟨o :: os, s', .cons hc hpasses⟩
        · obtain ⟨hfront, hblames, back⟩ := hstops
          exact .inr ⟨o :: os, fault, _, .intro (.cons hc hfront) hblames back⟩

/-- Transcripts without a fault are those of scripts that pass. -/
lemma passes_iff {s s' : Session} {script : Script} {os : List Outcome} :
    s.Passes script os s' ↔ s.transcript script = (⟨os, none⟩, s') := by
  refine ⟨transcript_of_passes, fun h => ?_⟩
  rcases passes_or_stops s script with ⟨os', s'', hpasses⟩ | ⟨os', fault, s'', hstops⟩
  · have heq := (transcript_of_passes hpasses).symm.trans h
    cases heq
    exact hpasses
  · have heq := (transcript_of_stops hstops).symm.trans h
    cases heq

/-- Transcripts with a fault are those of scripts that stop. -/
lemma stops_iff {s s' : Session} {script : Script} {os : List Outcome} {fault : Fault} :
    s.Stops script os fault s' ↔ s.transcript script = (⟨os, some fault⟩, s') := by
  refine ⟨transcript_of_stops, fun h => ?_⟩
  rcases passes_or_stops s script with ⟨os', s'', hpasses⟩ | ⟨os', fault', s'', hstops⟩
  · have heq := (transcript_of_passes hpasses).symm.trans h
    cases heq
  · have heq := (transcript_of_stops hstops).symm.trans h
    cases heq
    exact hstops

/-- **Scripts for all their outcomes and for as many as there are.**  Of any script in any session:

* evaluated in either way, it leaves the same session;
* it has all its outcomes exactly if it passes, and then those are in its transcript;
* it has a fault exactly if it stops, and then the transcript has the outcomes of the comparisons in
  front of the one to blame, and the same fault; what stands behind that one is not evaluated;
* a fault is located once, and the literal or the kinds it is about stay what they are. -/
theorem outcomes_agree_with_transcript (s : Session) (script : Script) :
    (s.outcomes script).2 = (s.transcript script).2 ∧
    (∀ os, (s.outcomes script).1 = .ok os ↔ (s.transcript script).1 = ⟨os, none⟩) ∧
    (∀ os s', s.transcript script = (⟨os, none⟩, s') ↔ s.Passes script os s') ∧
    (∀ fault, (s.outcomes script).1 = .error fault ↔
      ∃ os s', s.transcript script = (⟨os, some fault⟩, s') ∧ s.Stops script os fault s') ∧
    (∀ os fault s', s.transcript script = (⟨os, some fault⟩, s') ↔
      s.Stops script os fault s') ∧
    (∀ (c : Comparison) fault, c.Blames fault → ∃ cause span, fault = .located cause span ∧
      cause.IsPlain ∧ fault.root = cause ∧ fault.message = cause.message) := by
  rw [outcomes_eq]
  refine ⟨rfl, ?_, fun os s' => passes_iff.symm, ?_, fun os fault s' => stops_iff.symm,
    fun c fault => located_of_blames⟩
  · intro os
    obtain ⟨⟨os', fault⟩, s'⟩ := s.transcript script
    cases fault <;> simp [Transcript.result]
  · intro fault
    simp only [stops_iff, and_self]
    obtain ⟨⟨os', fault'⟩, s'⟩ := s.transcript script
    cases fault' <;> simp [Transcript.result]

end Session
end LooseEquality
