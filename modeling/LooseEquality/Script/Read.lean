import LooseEquality.Script
import LooseEquality.Script.Flaw
import LooseEquality.Token.Scan

/-!
# Reading scripts

From tokens to scripts, after the grammar

    script      ::=  separator* [comparison (separator+ comparison)* separator*]
    comparison  ::=  operand operator operand
    operand     ::=  `null`  |  kind literal
    literal     ::=  word  |  quoted string

Each reader takes the tokens from some point on and returns what it read along with the tokens it
left, or the first flaw it met.  The word after a kind is always its literal, even if it happens to
name a kind; so the reader never has to look further than one token ahead.

`stop` is the length of the text the tokens come from.  It is needed for one purpose only: to say
where the text ends when more was wanted.
-/

namespace LooseEquality
namespace Script

/-- What reading gives: a part of a script and the tokens behind it, or a flaw. -/
abbrev Reading (α : Type) := Except Flaw (α × List Token)

/-- Read the literal that belongs to a kind word. -/
def readLiteral (stop : Nat) (word : Token) (kind : Kind) : List Token → Reading (Spanned Operand)
  | [] => .error (.ofTokens stop (.literal kind) [])
  | t :: ts =>
    match t.literal? with
    | some text => .ok (⟨⟨kind, some text⟩, word.span.cover t.span⟩, ts)
    | none => .error (.ofTokens stop (.literal kind) (t :: ts))

/-- Read an operand: a kind and, unless it is `null`, a literal. -/
def readOperand (stop : Nat) : List Token → Reading (Spanned Operand)
  | [] => .error (.ofTokens stop .kind [])
  | t :: ts =>
    if t.form = .word then
      match Kind.ofName? t.text with
      | none => .error ⟨.unknownKind t.text, t.span⟩
      | some .null => .ok (⟨⟨.null, none⟩, t.span⟩, ts)
      | some kind => readLiteral stop t kind ts
    else .error (.ofTokens stop .kind (t :: ts))

/-- Read an operator. -/
def readOperator (stop : Nat) : List Token → Reading (Spanned Operator)
  | [] => .error (.ofTokens stop .operator [])
  | t :: ts =>
    match t.form with
    | .operator op => .ok (⟨op, t.span⟩, ts)
    | _ => .error (.ofTokens stop .operator (t :: ts))

/-- Read a comparison: an operand, an operator, and another operand. -/
def readComparison (stop : Nat) (ts : List Token) : Reading (Spanned Comparison) :=
  match readOperand stop ts with
  | .error flaw => .error flaw
  | .ok (lhs, ts₁) =>
    match readOperator stop ts₁ with
    | .error flaw => .error flaw
    | .ok (op, ts₂) =>
      match readOperand stop ts₂ with
      | .error flaw => .error flaw
      | .ok (rhs, ts₃) => .ok (Comparison.spanned ⟨op, lhs, rhs⟩, ts₃)

/-! ## Reading takes tokens away

The readers leave fewer tokens than they were given.  This is what makes the loop over the
comparisons of a script end. -/

theorem length_readOperand {stop : Nat} {ts rest : List Token} {o : Spanned Operand}
    (h : readOperand stop ts = .ok (o, rest)) : rest.length < ts.length := by
  unfold readOperand readLiteral at h
  grind

theorem length_readOperator {stop : Nat} {ts rest : List Token} {op : Spanned Operator}
    (h : readOperator stop ts = .ok (op, rest)) : rest.length < ts.length := by
  unfold readOperator at h
  grind

theorem length_readComparison {stop : Nat} {ts rest : List Token} {c : Spanned Comparison}
    (h : readComparison stop ts = .ok (c, rest)) : rest.length < ts.length := by
  unfold readComparison at h
  split at h
  · cases h
  · next lhs ts₁ h₁ =>
    split at h
    · cases h
    · next op ts₂ h₂ =>
      split at h
      · cases h
      · next rhs ts₃ h₃ =>
        cases h
        have := length_readOperand h₁
        have := length_readOperator h₂
        have := length_readOperand h₃
        omega

/-! ## Whole scripts -/

/-- Read comparisons until the tokens end.  Separators may stand anywhere but inside a comparison;
between two comparisons there has to be one. -/
def ofTokens (stop : Nat) (ts : List Token) : Except Flaw Script :=
  match ts with
  | [] => .ok []
  | t :: rest =>
    if t.isSeparator then ofTokens stop rest
    else
      match _h : readComparison stop (t :: rest) with
      | .error flaw => .error flaw
      | .ok (c, []) => .ok [c]
      | .ok (c, s :: after) =>
        if s.isSeparator then (ofTokens stop (s :: after)).map (c :: ·)
        else .error (.ofTokens stop .endOfComparison (s :: after))
termination_by ts.length
decreasing_by
  · simp
  · exact length_readComparison ‹_›

/-- The script a text spells out. -/
def read (text : String) : Except Flaw Script :=
  ofTokens (Text.byteLength text.toList) (Token.scan text)

/-- The script a text spells out, with a flaw put into words. -/
def parse (text : String) : Except Fault Script := (read text).mapError Flaw.fault

end Script
end LooseEquality
