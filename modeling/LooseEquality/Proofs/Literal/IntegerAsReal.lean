import LooseEquality.Proofs.Binary64.Exact
import LooseEquality.Proofs.Literal.Integer
import LooseEquality.Proofs.Literal.Real
import LooseEquality.Proofs.Script.Plain
import LooseEquality.Proofs.Session.Denotation

/-!
# Integers that are written as reals

Every literal of an integer is one of a real, too.  The two readers take different ways with it: the
one is exact and the other rounds.  So a text may denote an integer and a real that are not equal,
and the scripts

    integer 9007199254740993 == real 9007199254740993
    real 9007199254740993 == integer 9007199254740993

both say `false`.  **`integer_literal_equals_real`** has the texts for which they do.  The integer
alone decides about that, so neither a sign in front nor leading zeros make a difference.
-/

namespace LooseEquality

namespace Numeral

/-- A digit can be part of any word. -/
lemma isWordPart_of_isDigit {c : Char} (h : c.isDigit = true) :
    Text.isBlank c = false ∧ c ∉ [';', '"', '=', '!'] := by
  constructor
  · have hrange := toNat_of_isDigit h
    simp only [Text.isBlank, Text.blankRanges, Text.CodeRanges.contains, List.any_cons,
      List.any_nil, Bool.or_eq_false_iff, Bool.and_eq_false_iff, decide_eq_false_iff_not, and_true]
    omega
  · intro hmem
    simp only [List.mem_cons, List.not_mem_nil, or_false] at hmem
    rcases hmem with rfl | rfl | rfl | rfl <;> exact absurd h (by decide)

/-- A numeral is a single word. -/
lemma scan_of_toInt? {text : String} {n : Int} (h : toInt? text.toList = some n) :
    Token.scan text = [⟨.word, 0, text⟩] := by
  obtain ⟨s, ds, htext, -⟩ := toInt?_eq_some_iff.1 h
  have hne : text.toList ≠ [] := by
    rw [htext]
    exact List.append_ne_nil_of_right_ne_nil _ ds.property.1
  have hchars : ∀ c ∈ text.toList, Text.isBlank c = false ∧ c ∉ [';', '"', '=', '!'] := by
    intro c hc
    rw [htext] at hc
    rcases List.mem_append.1 hc with hc | hc
    · cases s with
      | none => cases hc
      | plus =>
        obtain rfl := List.mem_singleton.1 hc
        decide
      | minus =>
        obtain rfl := List.mem_singleton.1 hc
        decide
    · exact isWordPart_of_isDigit (ds.property.2 c hc)
  have hscan := Token.scanFrom_string (Token.reads_word_of_forall hchars Token.endsWords_nil) hne 0
  rwa [List.append_nil, Token.scanFrom_nil] at hscan

end Numeral

namespace Literal

variable {text : String} {i : Int64}

lemma signOf_mul_eq_apply (s : Numeral.Sign) (n : ℕ) :
    Binary64.signOf s.isMinus * n = (s.apply n : ℤ) := by
  cases s <;> simp [Binary64.signOf, Numeral.Sign.isMinus, Numeral.Sign.apply]

/-- A literal of an integer is one of the real that the integer rounds to. -/
lemma real_of_integer (h : integer text = .ok (.integer i)) :
    ∃ r negative, real text = .ok (.real r) ∧ r.IsRounded negative i.toInt := by
  obtain ⟨j, hread, hj⟩ := integer_eq_ok_iff.1 h
  obtain rfl : i = j := Value.integer.inj hj
  obtain ⟨s, ds, htext, hi⟩ := Numeral.toInt?_eq_some_iff.1 hread
  let spelling : Decimal.Spelling := ⟨s, .whole ds, none⟩
  have hspelling : spelling.text = text.toList := by
    rw [htext]
    exact congrArg (s.text ++ ·) (List.append_nil ds.val)
  have hmantissa : spelling.mantissa.value = Numeral.value ds.val := by
    simp [spelling, Decimal.Mantissa.value, Decimal.Mantissa.front, Decimal.Mantissa.back,
      Numeral.value]
  have hpower : spelling.powerValue = 0 := rfl
  have hvalue : spelling.value = i.toInt := by
    rw [Decimal.Spelling.value, hmantissa, hpower, zpow_zero, mul_one, signOf_mul_eq_apply, hi]
  obtain ⟨hreal, hrounded⟩ := real_spelling hspelling
  rw [hvalue] at hrounded
  exact ⟨_, _, hreal, hrounded⟩

/-- **One text, as an integer and as a real.**  A literal of an integer is one of a real.  Compared
with each other in either order, the two are equal if and only if the integer is a real, which is to
say that it is zero, or has no more than 53 bits once it is divided by the largest power of two in
it.  There is an outcome in any case, and no session is changed by that. -/
theorem integer_literal_equals_real (h : integer text = .ok (.integer i)) :
    (∃ r, real text = .ok (.real r)) ∧
    ∃ same : Bool,
      (same = true ↔ ∃ x : Binary64, x.isFinite = true ∧ x.value = i.toInt) ∧
      (same = true ↔ i.toInt = 0 ∨ i.toInt.natAbs.divMaxPow 2 < 2 ^ 53) ∧
      ∀ s : Session,
        s.runAll ("integer " ++ text ++ " == real " ++ text)
          = (.ok [⟨same, .integer, .real⟩], s) ∧
        s.runAll ("real " ++ text ++ " == integer " ++ text)
          = (.ok [⟨same, .real, .integer⟩], s) := by
  obtain ⟨r, negative, hreal, hrounded⟩ := real_of_integer h
  have hexact := Binary64.equalsInt_iff_isExact hrounded
  have hrange : i.toInt.natAbs < 2 ^ 1024 := by
    have hle := i.le_toInt
    have hlt := i.toInt_lt
    have hbits : i.toInt.natAbs ≤ 2 ^ 63 := by omega
    exact lt_of_le_of_lt hbits (Binary64.two_pow_lt_two_pow 1024 (by decide))
  obtain ⟨j, hread, -⟩ := integer_eq_ok_iff.1 h
  have hplain : ∀ kind, kind ≠ .null → Operand.Plain ⟨kind, some text⟩ := fun kind hkind =>
    .inr ⟨hkind, text, rfl, Numeral.scan_of_toInt? hread⟩
  have hi := hplain .integer (by decide)
  have hr := hplain .real (by decide)
  refine ⟨⟨r, hreal⟩, r.equalsInt i, hexact, hexact.trans (Binary64.isExact_iff hrange),
    fun s => ?_⟩
  have hliti : s.literal .integer text = .ok (.integer i, s) := by
    rw [Session.literal, h]
    rfl
  have hlitr : s.literal .real text = .ok (.real r, s) := by
    rw [Session.literal, hreal]
    rfl
  have htext : "integer " ++ text ++ " == real " ++ text
      = Fact.caseInput .equal ⟨.integer, some text⟩ ⟨.real, some text⟩ := by
    rw [← String.toList_inj]
    simp [Script.toList_caseInput, Script.plainText_of_literal, String.toList_append, Kind.name,
      Operator.symbol]
  have htext' : "real " ++ text ++ " == integer " ++ text
      = Fact.caseInput .equal ⟨.real, some text⟩ ⟨.integer, some text⟩ := by
    rw [← String.toList_inj]
    simp [Script.toList_caseInput, Script.plainText_of_literal, String.toList_append, Kind.name,
      Operator.symbol]
  constructor
  · rw [htext]
    exact Session.runAll_of_denotes .equal hi hr ⟨s, hliti, hlitr⟩ rfl
  · rw [htext']
    exact Session.runAll_of_denotes .equal hr hi ⟨s, hlitr, hliti⟩ rfl

/-- The odd number of 54 bits that is closest to zero, with zeros in front of it. -/
def oddNumeral : String := "-009007199254740993"

theorem integer_literal_equals_real_oddNumeral :
    integer oddNumeral = .ok (.integer (-9007199254740993)) ∧
      let s := Session.new .nonEmpty
      s.runAll ("integer " ++ oddNumeral ++ " == real " ++ oddNumeral)
          = (.ok [⟨false, .integer, .real⟩], s) ∧
        s.runAll ("real " ++ oddNumeral ++ " == integer " ++ oddNumeral)
          = (.ok [⟨false, .real, .integer⟩], s) := by
  have hread : integer oddNumeral = .ok (.integer (-9007199254740993)) := by decide +kernel
  obtain ⟨-, same, -, hsame, hrun⟩ := integer_literal_equals_real hread
  have hodd : ¬ ((-9007199254740993 : Int64).toInt = 0 ∨
      (-9007199254740993 : Int64).toInt.natAbs.divMaxPow 2 < 2 ^ 53) := by decide +kernel
  obtain rfl : same = false := Bool.eq_false_iff.2 (mt hsame.1 hodd)
  exact ⟨hread, hrun _⟩

end Literal
end LooseEquality
