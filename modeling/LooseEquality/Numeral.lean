/-!
# Decimal numerals

The library writes numbers in one notation only: decimal digits, no leading zero, a `-` in front
of a negative number.  Line numbers, span offsets, case counts and the text an integer compares
equal to all come from here, and nothing else in the library turns a number into text.

Reading is more liberal than writing.  A numeral that is read may carry one sign of either kind
and any number of leading zeros, so several texts denote one number while each number has exactly
one text.

* `Numeral.value` — the number a run of digits denotes;
* `Numeral.digits`, `Numeral.ofNat`, `Numeral.ofInt` — the text of a number;
* `Numeral.splitSign`, `Numeral.toInt?` — reading a signed numeral.

The statement that ties the two directions together is **`value_digits`**: the digits of `n`
denote `n`.
-/

namespace LooseEquality
namespace Numeral

/-! ## Digits to numbers -/

/-- The number a digit character stands for.  Only meaningful on `'0'` to `'9'`. -/
def digitValue (c : Char) : Nat := c.toNat - '0'.toNat

/-- The number denoted by a run of digits, most significant first.  The empty run denotes `0`. -/
def value (ds : List Char) : Nat := ds.foldl (fun n c => 10 * n + digitValue c) 0

/-- One more digit on the right multiplies by ten and adds the digit. -/
theorem value_concat (ds : List Char) (c : Char) :
    value (ds ++ [c]) = 10 * value ds + digitValue c := by
  simp [value]

/-! ## Numbers to digits -/

/-- The decimal digits of a number, without leading zeros; `0` is the single digit `0`. -/
def digits (n : Nat) : List Char :=
  if n < 10 then [n.digitChar] else digits (n / 10) ++ [(n % 10).digitChar]
termination_by n

/-- The text of a natural number. -/
def ofNat (n : Nat) : String := String.ofList (digits n)

/-- The text of an integer. -/
def ofInt : Int → String
  | .ofNat n => ofNat n
  | .negSucc n => "-" ++ ofNat (n + 1)

theorem digitValue_digitChar {d : Nat} (h : d < 10) : digitValue d.digitChar = d := by
  have : ∀ d : Fin 10, digitValue d.val.digitChar = d.val := by decide
  exact this ⟨d, h⟩

theorem isDigit_digitChar {d : Nat} (h : d < 10) : d.digitChar.isDigit = true := by
  have : ∀ d : Fin 10, d.val.digitChar.isDigit = true := by decide
  exact this ⟨d, h⟩

/-- **The digits of a number denote it.** -/
theorem value_digits (n : Nat) : value (digits n) = n := by
  fun_induction digits n with
  | case1 n h => simp [value, digitValue_digitChar h]
  | case2 n h ih =>
    rw [value_concat, ih, digitValue_digitChar (Nat.mod_lt n (by decide))]
    omega

/-- Every character that `digits` writes is a digit. -/
theorem isDigit_of_mem_digits {n : Nat} {c : Char} (h : c ∈ digits n) : c.isDigit = true := by
  fun_induction digits n with
  | case1 n hn =>
    rw [List.mem_singleton.1 h]
    exact isDigit_digitChar hn
  | case2 n hn ih =>
    rcases List.mem_append.1 h with h | h
    · exact ih h
    · rw [List.mem_singleton.1 h]
      exact isDigit_digitChar (Nat.mod_lt n (by decide))

theorem digits_ne_nil (n : Nat) : digits n ≠ [] := by
  fun_cases digits n <;> simp

/-! ## Reading a signed numeral -/

/-- Take one sign off the front.  The flag says whether the sign was `-`; a second sign stays where
it is and makes the rest no run of digits. -/
def splitSign : List Char → Bool × List Char
  | '-' :: cs => (true, cs)
  | '+' :: cs => (false, cs)
  | cs => (false, cs)

/-- The integer a numeral denotes: at most one sign, then one or more digits and nothing else. -/
def toInt? (cs : List Char) : Option Int :=
  match splitSign cs with
  | (negative, ds) =>
    if ds.isEmpty || !ds.all Char.isDigit then none
    else some (if negative then -(value ds : Int) else value ds)

end Numeral
end LooseEquality
