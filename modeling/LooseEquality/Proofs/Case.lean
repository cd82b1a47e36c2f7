import LooseEquality.Case
import LooseEquality.Proofs.Session.Alike

/-!
# Verifying cases in order

Cases are verified one after the other in the same session, and verifying a case changes it: a name
that is used for the first time stands for an array from then on.  No other case can tell, so what
comes of each of them can be found out in the session that all started in
(**`verifyAll_eq_map`**), and the order they are in makes no difference.

* `Case.HoldsIn` — what was expected is what comes of a case;
* `Case.AllHoldIn` — this is so for each of several cases, verified in order.

The measure of width that columns are counted with is the same one throughout, and nothing is asked
of it.
-/

namespace LooseEquality

namespace Session

variable {s t : Session}

lemma runAll_of_alike (h : Alike s t) (text : String) : (s.runAll text).1 = (t.runAll text).1 := by
  simp only [runAll]
  split
  · rfl
  · rw [outcomes_eq, outcomes_eq, transcript_of_alike h]

lemma growsTo_runAll (s : Session) (text : String) : s.GrowsTo (s.runAll text).2 := by
  simp only [runAll]
  split
  · exact .refl s
  · exact growsTo_outcomes s _

end Session

namespace Case

/-- What is expected of the case is what comes of it. -/
def HoldsIn (c : Case) (s : Session) (width : List Char → Nat) : Prop :=
  (c.verify s width).1 = none

/-- What is expected is what comes of each of several cases, verified in order. -/
def AllHoldIn (cs : List Case) (s : Session) (width : List Char → Nat) : Prop :=
  ∀ verdict ∈ (verifyAll s cs width).1, verdict.2 = none

variable {width : List Char → Nat} {s t : Session}

/-- Sessions that are alike have one verdict on a case. -/
lemma verify_of_alike (h : Session.Alike s t) (c : Case) :
    (c.verify s width).1 = (c.verify t width).1 := by
  have hrun := Session.runAll_of_alike h c.input
  simp only [verify]
  generalize s.runAll c.input = x at hrun ⊢
  generalize t.runAll c.input = y at hrun ⊢
  obtain ⟨result, s₁⟩ := x
  obtain ⟨result', t₁⟩ := y
  obtain rfl : result = result' := hrun
  cases result with
  | error fault => rfl
  | ok os => rcases os with - | ⟨o, - | ⟨o', os⟩⟩ <;> rfl

lemma growsTo_verify (c : Case) (s : Session) (width : List Char → Nat) :
    s.GrowsTo (c.verify s width).2 := by
  have hrun := Session.growsTo_runAll s c.input
  simp only [verify]
  split <;> next h => rwa [h] at hrun

/-- Cases that are verified in a session alike to another have the verdicts of that one. -/
lemma verifyAll_of_alike (h : Session.Alike s t) (cs : List Case) :
    (verifyAll t cs width).1 = cs.map fun c => (c, (c.verify s width).1) := by
  induction cs generalizing t with
  | nil => rfl
  | cons c cs ih =>
    have hnext := h.trans ((growsTo_verify c t width).alike h.wellFormed_right)
    rw [List.map_cons, verify_of_alike h, ← ih hnext]
    rfl

/-- **No case makes a difference to another one.** -/
theorem verifyAll_eq_map (hs : s.WellFormed) (cs : List Case) :
    (verifyAll s cs width).1 = cs.map fun c => (c, (c.verify s width).1) :=
  verifyAll_of_alike ((Session.GrowsTo.refl s).alike hs) cs

/-- So cases hold in order if each of them holds by itself. -/
lemma allHoldIn_iff (hs : s.WellFormed) (cs : List Case) :
    AllHoldIn cs s width ↔ ∀ c ∈ cs, c.HoldsIn s width := by
  rw [AllHoldIn, verifyAll_eq_map hs, List.forall_mem_map]
  rfl

lemma judge_eq_none_iff {c : Case} {actual : Expectation} :
    c.judge actual = none ↔ actual = c.expect := by
  simp [judge]

end Case
end LooseEquality
