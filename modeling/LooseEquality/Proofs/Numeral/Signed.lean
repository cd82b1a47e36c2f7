import LooseEquality.Proofs.Numeral
import Mathlib.Tactic.Ring

/-!
# Signed numerals

The grammar of numerals: digits, of which there is at least one, with at most one sign in front.

* `Numeral.Sign` — no sign, or one of the two;
* `Numeral.Digits` — one or more digits.

**`toInt?_eq_some_iff`** says that a text is read as an integer exactly if it is a sign and digits,
and that the integer is then the one that the digits denote, with the sign.
-/

namespace LooseEquality
namespace Numeral

/-- What may stand in front of the digits. -/
inductive Sign where
  | none
  | plus
  | minus
  deriving DecidableEq

/-- One or more digits. -/
abbrev Digits := { ds : List Char // ds ≠ [] ∧ ∀ c ∈ ds, c.isDigit = true }

namespace Sign

def text : Sign → List Char
  | none => []
  | plus => ['+']
  | minus => ['-']

def isMinus : Sign → Bool
  | minus => true
  | _ => false

/-- An integer with the sign. -/
def apply (s : Sign) (n : Nat) : Int := if s.isMinus then -(n : Int) else n

end Sign

/-- Whether a character is taken for a sign. -/
def IsSign (c : Char) : Prop := c = '+' ∨ c = '-'

lemma not_isSign_of_isDigit {c : Char} (h : c.isDigit = true) : ¬ IsSign c := by
  rintro (rfl | rfl) <;> exact absurd h (by decide)

/-- A sign is taken off a text that goes on without another. -/
lemma splitSign_text (s : Sign) {cs : List Char} (h : ∀ c rest, cs = c :: rest → ¬ IsSign c) :
    splitSign (s.text ++ cs) = (s.isMinus, cs) := by
  cases s with
  | none =>
    rw [Sign.text, List.nil_append]
    unfold splitSign
    split
    · exact absurd (.inr rfl) (h _ _ rfl)
    · exact absurd (.inl rfl) (h _ _ rfl)
    · rfl
  | plus => rfl
  | minus => rfl

/-- Whatever a text is, it is what is taken for a sign and the rest. -/
lemma exists_sign (cs : List Char) :
    ∃ s : Sign, cs = s.text ++ (splitSign cs).2 ∧ (splitSign cs).1 = s.isMinus := by
  unfold splitSign
  split
  · exact ⟨.minus, rfl, rfl⟩
  · exact ⟨.plus, rfl, rfl⟩
  · exact ⟨.none, rfl, rfl⟩

lemma Digits.not_isSign (ds : Digits) (rest : List Char) (c : Char) (cs : List Char)
    (h : ds.val ++ rest = c :: cs) : ¬ IsSign c := by
  obtain ⟨_ | ⟨d, ds⟩, hne, hall⟩ := ds
  · exact absurd rfl hne
  · obtain ⟨rfl, -⟩ := List.cons.inj h
    exact not_isSign_of_isDigit (hall d List.mem_cons_self)

/-- **Reading a numeral.** -/
theorem toInt?_eq_some_iff {cs : List Char} {i : Int} :
    toInt? cs = some i ↔
      ∃ (s : Sign) (ds : Digits), cs = s.text ++ ds.val ∧ i = s.apply (value ds) := by
  constructor
  · intro h
    obtain ⟨s, hcs, hs⟩ := exists_sign cs
    simp only [toInt?, hs] at h
    split at h
    · cases h
    · next hdigits =>
      simp only [Bool.or_eq_true, List.isEmpty_iff, Bool.not_eq_true', not_or,
        Bool.not_eq_false, List.all_eq_true] at hdigits
      exact ⟨s, ⟨_, hdigits⟩, hcs, (Option.some.inj h).symm⟩
  · rintro ⟨s, ds, rfl, rfl⟩
    have hsign : ∀ c rest, ds.val = c :: rest → ¬ IsSign c := by
      intro c rest hds
      exact ds.not_isSign [] c rest ((List.append_nil _).trans hds)
    have hempty : ds.val.isEmpty = false := List.isEmpty_eq_false_iff.2 ds.property.1
    have hall : ds.val.all Char.isDigit = true := List.all_eq_true.2 ds.property.2
    simp only [toInt?, splitSign_text s hsign, hempty, hall, Bool.not_true, Bool.or_false,
      Bool.false_eq_true, if_false, Sign.apply]

/-- Digits behind others are worth as much as they are alone, and move the others to the left. -/
lemma value_append (ds es : List Char) :
    value (ds ++ es) = value ds * 10 ^ es.length + value es := by
  induction es using List.reverseRecOn with
  | nil => simp [value]
  | append_singleton es c ih =>
    rw [← List.append_assoc, value_concat, value_concat, ih, List.length_append,
      List.length_singleton, pow_succ]
    ring

end Numeral
end LooseEquality
