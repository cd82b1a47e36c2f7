import LooseEquality.Text.Bytes
import Mathlib.Tactic.Common

/-!
# Places in a text, counted in bytes

A count of bytes names at most one place between two characters of a text.  So a way to write a
text as two parts is determined by the length of the first part (`append_inj_of_byteLength`), and
of two such ways one refines the other (`exists_append_of_byteLength_le`).
-/

namespace LooseEquality
namespace Text

lemma utf8Size_newline : '\n'.utf8Size = 1 := rfl

lemma utf8Size_space : ' '.utf8Size = 1 := rfl

@[simp] lemma byteLength_eq_zero {cs : List Char} : byteLength cs = 0 ↔ cs = [] := by
  cases cs with
  | nil => simp
  | cons c cs =>
    have := c.utf8Size_pos
    simp only [byteLength_cons, reduceCtorEq, iff_false]
    omega

lemma byteLength_pos {cs : List Char} (h : cs ≠ []) : 0 < byteLength cs :=
  Nat.pos_of_ne_zero (mt byteLength_eq_zero.1 h)

/-- A character in the range of ASCII has one byte. -/
lemma utf8Size_of_ascii {c : Char} (h : c.toNat < 128) : c.utf8Size = 1 := by
  refine Char.utf8Size_eq_one_iff.2 ?_
  rw [UInt32.le_iff_toNat_le]
  exact Nat.le_of_lt_succ h

lemma byteLength_of_ascii {cs : List Char} (h : ∀ c ∈ cs, c.toNat < 128) :
    byteLength cs = cs.length := by
  induction cs with
  | nil => rfl
  | cons c cs ih =>
    obtain ⟨hc, hcs⟩ := List.forall_mem_cons.1 h
    rw [byteLength_cons, utf8Size_of_ascii hc, ih hcs, List.length_cons, Nat.add_comm]

/-- Two parts of a text are determined by the length of the first. -/
lemma append_inj_of_byteLength {before after before' after' : List Char}
    (h : before ++ after = before' ++ after') (hlen : byteLength before = byteLength before') :
    before = before' ∧ after = after' := by
  have h₁ : splitAtByte? (byteLength before') (before ++ after) = some (before, after) :=
    splitAtByte?_eq_some_iff.2 ⟨rfl, hlen⟩
  have h₂ : splitAtByte? (byteLength before') (before ++ after) = some (before', after') :=
    splitAtByte?_eq_some_iff.2 ⟨h, rfl⟩
  simpa using h₁.symm.trans h₂

/-- Of two places in a text, the later one splits what follows the earlier one. -/
lemma exists_append_of_byteLength_le {before after before' after' : List Char}
    (h : before ++ after = before' ++ after') (hlen : byteLength before ≤ byteLength before') :
    ∃ mid, before' = before ++ mid ∧ after = mid ++ after' := by
  rcases List.append_eq_append_iff.1 h with ⟨mid, hbefore, hafter⟩ | ⟨mid, hbefore, hafter⟩
  · exact ⟨mid, hbefore, hafter⟩
  · have hmid : mid = [] := by
      rw [hbefore, byteLength_append] at hlen
      rw [← byteLength_eq_zero]
      omega
    subst hmid
    exact ⟨[], by simpa using hbefore.symm, by simpa using hafter.symm⟩

end Text
end LooseEquality
