import LooseEquality.Proofs.Decimal
import LooseEquality.Proofs.Numeral.Signed
import Mathlib.Data.List.TakeWhile

/-!
# Spellings of decimals

The grammar of decimals,

    decimal   ::=  sign? mantissa exponent?
    mantissa  ::=  digit+  |  digit+ `.` digit*  |  `.` digit+
    exponent  ::=  (`e` | `E`) sign? digit+

as a type: a `Decimal.Spelling` is a text of this form, taken apart.  It has a text, it denotes a
number, and it stands for a decimal, the coefficient of which is made of all the digits of the
mantissa.

**`read?_eq_some_iff`** says that a text is read as a decimal exactly if it has a spelling, and
**`Spelling.value_decimal`** that the number of that decimal is the number which the spelling
denotes.
-/

namespace LooseEquality
namespace Decimal

open Numeral (Sign Digits IsSign)

/-- Digits with or without a point. -/
inductive Mantissa where
  | whole (ds : Digits)
  | pointed (ds : Digits) (fs : List Char) (hfs : ∀ c ∈ fs, c.isDigit = true)
  | fraction (fs : Digits)

/-- A power of ten. -/
structure Power where
  letter : Char
  hletter : letter = 'e' ∨ letter = 'E'
  sign : Sign
  digits : Digits

/-- A decimal as it is written. -/
structure Spelling where
  sign : Sign
  mantissa : Mantissa
  power : Option Power

namespace Mantissa

def text : Mantissa → List Char
  | whole ds => ds.val
  | pointed ds fs _ => ds.val ++ '.' :: fs
  | fraction fs => '.' :: fs.val

/-- The digits in front of the point. -/
def front : Mantissa → List Char
  | whole ds => ds.val
  | pointed ds _ _ => ds.val
  | fraction _ => []

/-- The digits behind the point. -/
def back : Mantissa → List Char
  | whole _ => []
  | pointed _ fs _ => fs
  | fraction fs => fs.val

/-- The number denoted: each digit behind the point counts a tenth of the one before. -/
def value (m : Mantissa) : ℚ :=
  Numeral.value m.front + Numeral.value m.back / 10 ^ m.back.length

lemma value_nonneg (m : Mantissa) : 0 ≤ m.value := by
  rw [value]
  positivity

end Mantissa

namespace Power

def text (p : Power) : List Char := p.letter :: (p.sign.text ++ p.digits.val)

def value (p : Power) : ℤ := p.sign.apply (Numeral.value p.digits)

end Power

namespace Spelling

def powerText (s : Spelling) : List Char := (s.power.map Power.text).getD []

def powerValue (s : Spelling) : ℤ := (s.power.map Power.value).getD 0

def text (s : Spelling) : List Char := s.sign.text ++ (s.mantissa.text ++ s.powerText)

/-- The number that is spelled. -/
def value (s : Spelling) : ℚ :=
  Binary64.signOf s.sign.isMinus * (s.mantissa.value * 10 ^ s.powerValue)

/-- The decimal that is spelled. -/
def decimal (s : Spelling) : Decimal where
  negative := s.sign.isMinus
  coefficient := Numeral.value (s.mantissa.front ++ s.mantissa.back)
  exponent := s.powerValue - s.mantissa.back.length

/-- **A spelling and its decimal denote one number.** -/
theorem value_decimal (s : Spelling) : s.decimal.value = s.value := by
  have hten : (10 : ℚ) ≠ 0 := by norm_num
  rw [Decimal.value, value, decimal, Mantissa.value, Numeral.value_append, zpow_sub₀ hten,
    zpow_natCast]
  push_cast
  field_simp

end Spelling

/-! ## Spellings are read -/

/-- A character that is not a digit ends a run of digits. -/
lemma takeWhile_isDigit {ds rest : List Char} (hds : ∀ c ∈ ds, c.isDigit = true)
    (hrest : ∀ c cs, rest = c :: cs → c.isDigit = false) :
    (ds ++ rest).takeWhile Char.isDigit = ds ∧ (ds ++ rest).dropWhile Char.isDigit = rest := by
  rw [List.takeWhile_append_of_pos hds, List.dropWhile_append_of_pos hds]
  cases rest with
  | nil => simp
  | cons c cs => simp [hrest c cs rfl]

lemma exponentPart?_powerText (s : Spelling) : exponentPart? s.powerText = some s.powerValue := by
  obtain ⟨sign, mantissa, power⟩ := s
  cases power with
  | none => rfl
  | some p =>
    have hread : Numeral.toInt? (p.sign.text ++ p.digits.val) = some p.value :=
      Numeral.toInt?_eq_some_iff.2 ⟨p.sign, p.digits, rfl, rfl⟩
    show exponentPart? (p.letter :: (p.sign.text ++ p.digits.val)) = some p.value
    rcases p.hletter with h | h <;> simp [exponentPart?, h, hread]

lemma powerText_not_isDigit (s : Spelling) (c : Char) (cs : List Char)
    (h : s.powerText = c :: cs) : c.isDigit = false ∧ c ≠ '.' := by
  obtain ⟨sign, mantissa, power⟩ := s
  cases power with
  | none => cases h
  | some p =>
    obtain ⟨rfl, -⟩ := List.cons.inj (h : p.letter :: _ = c :: cs)
    rcases p.hletter with h | h <;> rw [h] <;> decide

lemma fractionPart_of_not_point {cs : List Char} (h : ∀ c rest, cs = c :: rest → c ≠ '.') :
    fractionPart cs = ([], cs) := by
  unfold fractionPart
  split
  · exact absurd rfl (h _ _ rfl)
  · rfl

namespace Mantissa

/-- A mantissa is split at its point, and ends where neither a digit nor a point goes on. -/
lemma split_text (m : Mantissa) {rest : List Char}
    (hrest : ∀ c cs, rest = c :: cs → c.isDigit = false ∧ c ≠ '.') :
    (m.text ++ rest).takeWhile Char.isDigit = m.front ∧
      fractionPart ((m.text ++ rest).dropWhile Char.isDigit) = (m.back, rest) := by
  have hdigit : ∀ c cs, rest = c :: cs → c.isDigit = false := fun c cs h => (hrest c cs h).1
  have hpoint : ∀ cs tail, ∀ c rest, ('.' :: cs) ++ tail = c :: rest → c.isDigit = false := by
    intro cs tail c rest h
    rw [← (List.cons.inj h).1]
    decide
  cases m with
  | whole ds =>
    obtain ⟨htake, hdrop⟩ := takeWhile_isDigit ds.property.2 hdigit
    refine ⟨htake, ?_⟩
    rw [text, hdrop]
    exact fractionPart_of_not_point fun c cs h => (hrest c cs h).2
  | pointed ds fs hfs =>
    obtain ⟨htake, hdrop⟩ := takeWhile_isDigit ds.property.2 (hpoint fs rest)
    obtain ⟨hfraction, hback⟩ := takeWhile_isDigit hfs hdigit
    rw [text, List.append_assoc]
    refine ⟨htake, ?_⟩
    rw [hdrop, List.cons_append, fractionPart, hfraction, hback]
    rfl
  | fraction fs =>
    obtain ⟨htake, hdrop⟩ := takeWhile_isDigit (List.forall_mem_nil _) (hpoint fs.val rest)
    obtain ⟨hfraction, hback⟩ := takeWhile_isDigit fs.property.2 hdigit
    refine ⟨htake, ?_⟩
    rw [List.nil_append] at hdrop
    rw [text, hdrop, List.cons_append, fractionPart, hfraction, hback]
    rfl

/-- There is a digit on one side of the point. -/
lemma front_or_back (m : Mantissa) : (m.front.isEmpty && m.back.isEmpty) = false := by
  rw [Bool.and_eq_false_iff, List.isEmpty_eq_false_iff, List.isEmpty_eq_false_iff]
  cases m with
  | whole ds => exact .inl ds.property.1
  | pointed ds fs hfs => exact .inl ds.property.1
  | fraction fs => exact .inr fs.property.1

/-- A mantissa starts with a digit or with its point, neither of which is a sign. -/
lemma exists_text_eq_cons (m : Mantissa) :
    ∃ c cs, m.text = c :: cs ∧ ¬ IsSign c ∧ (c.isDigit = true ∨ c = '.') := by
  have hdigits : ∀ ds : Digits, ∃ c cs, ds.val = c :: cs ∧ ¬ IsSign c ∧ c.isDigit = true := by
    rintro ⟨_ | ⟨c, cs⟩, hne, hall⟩
    · exact absurd rfl hne
    · have hc := hall c List.mem_cons_self
      exact ⟨c, cs, rfl, Numeral.not_isSign_of_isDigit hc, hc⟩
  cases m with
  | whole ds =>
    obtain ⟨c, cs, h, hsign, hc⟩ := hdigits ds
    exact ⟨c, cs, h, hsign, .inl hc⟩
  | pointed ds fs hfs =>
    obtain ⟨c, cs, h, hsign, hc⟩ := hdigits ds
    exact ⟨c, cs ++ '.' :: fs, by rw [text, h, List.cons_append], hsign, .inl hc⟩
  | fraction fs =>
    refine ⟨'.', fs.val, rfl, ?_, .inr rfl⟩
    rintro (h | h) <;> cases h

end Mantissa

lemma splitSign_spelling (s : Spelling) :
    Numeral.splitSign s.text = (s.sign.isMinus, s.mantissa.text ++ s.powerText) := by
  refine Numeral.splitSign_text s.sign fun c rest h => ?_
  obtain ⟨d, ds, htext, hsign, -⟩ := s.mantissa.exists_text_eq_cons
  rw [htext, List.cons_append] at h
  rw [← (List.cons.inj h).1]
  exact hsign

theorem read?_text (s : Spelling) : read? s.text = some s.decimal := by
  obtain ⟨htake, hfraction⟩ := s.mantissa.split_text (powerText_not_isDigit s)
  simp only [read?, splitSign_spelling, htake, hfraction, s.mantissa.front_or_back,
    exponentPart?_powerText, Bool.false_eq_true, if_false, Option.map_some, Spelling.decimal]

/-! ## What is read is a spelling -/

lemma exists_power {cs : List Char} {e : ℤ} (h : exponentPart? cs = some e) :
    ∃ p : Option Power, cs = (p.map Power.text).getD [] ∧ e = (p.map Power.value).getD 0 := by
  unfold exponentPart? at h
  split at h
  · exact ⟨none, rfl, (Option.some.inj h).symm⟩
  · next c cs =>
    split at h
    · next hletter =>
      simp only [Bool.or_eq_true, decide_eq_true_eq] at hletter
      obtain ⟨s, ds, rfl, rfl⟩ := Numeral.toInt?_eq_some_iff.1 h
      exact ⟨some ⟨c, hletter, s, ds⟩, rfl, rfl⟩
    · cases h

lemma exists_mantissa {cs fraction rest : List Char}
    (hfraction : fractionPart (cs.dropWhile Char.isDigit) = (fraction, rest))
    (hdigit : ((cs.takeWhile Char.isDigit).isEmpty && fraction.isEmpty) = false) :
    ∃ m : Mantissa, cs = m.text ++ rest ∧ m.front = cs.takeWhile Char.isDigit ∧
      m.back = fraction := by
  have hcs : cs = cs.takeWhile Char.isDigit ++ cs.dropWhile Char.isDigit :=
    List.takeWhile_append_dropWhile.symm
  have hall : ∀ c ∈ cs.takeWhile Char.isDigit, c.isDigit = true := fun c h =>
    List.mem_takeWhile_imp h
  rw [Bool.and_eq_false_iff, List.isEmpty_eq_false_iff, List.isEmpty_eq_false_iff] at hdigit
  generalize cs.takeWhile Char.isDigit = whole at hcs hall hdigit
  generalize cs.dropWhile Char.isDigit = unread at hcs hfraction
  subst hcs
  unfold fractionPart at hfraction
  split at hfraction
  · next after =>
    obtain ⟨rfl, rfl⟩ := Prod.mk.inj hfraction
    have hback : ∀ c ∈ after.takeWhile Char.isDigit, c.isDigit = true := fun c h =>
      List.mem_takeWhile_imp h
    -- Digits in front of the point make those behind it optional.
    by_cases hwhole : whole = []
    · have hfront := hdigit.resolve_left (not_not.2 hwhole)
      subst hwhole
      refine ⟨.fraction ⟨_, hfront, hback⟩, ?_, rfl, rfl⟩
      rw [Mantissa.text, List.cons_append, List.takeWhile_append_dropWhile, List.nil_append]
    · refine ⟨.pointed ⟨whole, hwhole, hall⟩ _ hback, ?_, rfl, rfl⟩
      rw [Mantissa.text, List.append_assoc, List.cons_append, List.takeWhile_append_dropWhile]
  · obtain ⟨rfl, rfl⟩ := Prod.mk.inj hfraction
    exact ⟨.whole ⟨whole, hdigit.resolve_right (not_not.2 rfl), hall⟩, rfl, rfl, rfl⟩

/-- **Reading a decimal.** -/
theorem read?_eq_some_iff {cs : List Char} {d : Decimal} :
    read? cs = some d ↔ ∃ s : Spelling, s.text = cs ∧ s.decimal = d := by
  constructor
  · intro h
    obtain ⟨sign, hsign, hminus⟩ := Numeral.exists_sign cs
    simp only [read?, hminus] at h
    split at h
    · cases h
    · next hdigit =>
      obtain ⟨e, hexponent, rfl⟩ := Option.map_eq_some_iff.1 h
      obtain ⟨power, hrest, rfl⟩ := exists_power hexponent
      obtain ⟨m, hmantissa, hfront, hback⟩ :=
        exists_mantissa Prod.mk.eta.symm (Bool.eq_false_of_not_eq_true hdigit)
      refine ⟨⟨sign, m, power⟩, ?_, ?_⟩
      · calc sign.text ++ (m.text ++ (power.map Power.text).getD [])
            = sign.text ++ (Numeral.splitSign cs).2 := by rw [← hrest, ← hmantissa]
          _ = cs := hsign.symm
      · rw [← hfront, ← hback]
        rfl
  · rintro ⟨s, rfl, rfl⟩
    exact read?_text s

end Decimal
end LooseEquality
