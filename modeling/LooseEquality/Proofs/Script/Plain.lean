import LooseEquality.Case.Table
import LooseEquality.Proofs.Script.Print
import LooseEquality.Proofs.Token.Spacing

/-!
# Scripts in plain print

Where a literal is a word, it can be written without quotes:

    boolean yes == array a=!

An operand is `Plain` if its literal is such a word, or if it is `null` and has none.  A word may
have a `=` or a `!` in it and even end in one, as long as no operator comes about, so what follows
the word has to be kept at a distance.  With a blank behind each operand, a comparison in plain
print is read back, and **`parse_caseInput`** says from which places.

* `Operand.Plain` — the operands that can be written without quotes;
* `Comparison.plain` — a comparison with the places it has in plain print.
-/

namespace LooseEquality

/-- An operand that can be written without quotes: its literal is a word. -/
def Operand.Plain (o : Operand) : Prop :=
  (o.kind = .null ∧ o.literal = none) ∨
    (o.kind ≠ .null ∧
      ∃ text, o.literal = some text ∧ Token.scan text = [⟨.word, 0, text⟩])

/-- The comparison of two operands in plain print, with a space on each side of the operator. -/
def Comparison.plain (op : Operator) (lhs rhs : Operand) : Comparison :=
  let left := Text.byteLength lhs.plainText.toList
  { op := ⟨op, ⟨left + 1, 2⟩⟩
    lhs := ⟨lhs, ⟨0, left⟩⟩
    rhs := ⟨rhs, ⟨left + 4, Text.byteLength rhs.plainText.toList⟩⟩ }

/-! ## Words -/

namespace Token

/-- A text that is one word by itself is a word in front of a blank, too. -/
lemma reads_of_scan_eq_word {text : String} (h : scan text = [⟨.word, 0, text⟩])
    {after : List Char} (hafter : BlankFirst after) :
    Form.word.Reads text.toList after ∧ text.toList ≠ [] := by
  obtain ⟨gap, rest, hleads, -⟩ := exists_leads h
  exact ⟨hleads.reads.before_blank Form.noConfusion hafter, hleads.ne_nil⟩

end Token

/-! ## Operands and comparisons -/

namespace Script

lemma plainText_of_literal (kind : Kind) (text : String) :
    (Operand.plainText ⟨kind, some text⟩).toList = kind.name.toList ++ ' ' :: text.toList := by
  simp [Operand.plainText, String.toList_append]

lemma cover_adjacent (offset m n : Nat) :
    Span.cover ⟨offset, m⟩ ⟨offset + m + 1, n⟩ = ⟨offset, m + (1 + n)⟩ := by
  simp only [Span.cover, Span.stop, Span.mk.injEq]
  omega

/-- An operand in plain print is scanned as the tokens of one, if a blank follows. -/
lemma scanFrom_plainText {o : Operand} (ho : o.Plain) (offset : Nat) {after : List Char}
    (hafter : Token.BlankFirst after) :
    ∃ d : OperandTree, d.operand = ⟨o, ⟨offset, Text.byteLength o.plainText.toList⟩⟩ ∧
      Token.scanFrom offset (o.plainText.toList ++ after)
        = d.tokens ++ Token.scanFrom (offset + Text.byteLength o.plainText.toList) after := by
  obtain ⟨kind, literal⟩ := o
  rcases ho with ⟨hkind, hlit⟩ | ⟨hkind, text, hlit, hscan⟩
  · obtain rfl : kind = .null := hkind
    obtain rfl : literal = none := hlit
    refine ⟨.null ⟨.word, offset, Kind.null.name⟩ ⟨rfl, rfl⟩, rfl, ?_⟩
    exact Token.scanFrom_string (Token.reads_kind_name .null hafter.endsWords)
      (kind_name_ne_nil .null) offset
  · obtain rfl : literal = some text := hlit
    obtain ⟨hreads, hne⟩ := Token.reads_of_scan_eq_word hscan hafter
    have hname := Token.reads_kind_name kind (Token.endsWords_space (text.toList ++ after))
    refine ⟨.literal kind hkind ⟨.word, offset, kind.name⟩ ⟨rfl, rfl⟩
      ⟨.word, offset + Text.byteLength kind.name.toList + 1, text⟩ text (.inl ⟨rfl, rfl⟩), ?_, ?_⟩
    · simp only [OperandTree.operand, Token.span, cover_adjacent, plainText_of_literal,
        Text.byteLength_append, Text.byteLength_cons, Text.utf8Size_space]
    · rw [plainText_of_literal, List.append_assoc, List.cons_append,
        Token.scanFrom_string hname (kind_name_ne_nil kind), Token.scanFrom_space,
        Token.scanFrom_string hreads hne, Text.byteLength_append, Text.byteLength_cons,
        Text.utf8Size_space]
      simp only [OperandTree.tokens, List.cons_append, List.nil_append, Nat.add_assoc]

lemma toList_caseInput (op : Operator) (lhs rhs : Operand) :
    (Fact.caseInput op lhs rhs).toList
      = lhs.plainText.toList ++ ' ' :: (op.symbol.toList ++ ' ' :: rhs.plainText.toList) := by
  simp [Fact.caseInput, String.toList_append]

lemma byteLength_symbol (op : Operator) : Text.byteLength op.symbol.toList = 2 := by
  cases op <;> decide

/-- **A comparison in plain print is read back**, with the places it has there. -/
theorem parse_caseInput (op : Operator) {lhs rhs : Operand} (hlhs : lhs.Plain) (hrhs : rhs.Plain) :
    parse (Fact.caseInput op lhs rhs) = .ok [(Comparison.plain op lhs rhs).spanned] := by
  have hsign : Token.Form.Reads (.operator op) op.symbol.toList
      (' ' :: rhs.plainText.toList) := rfl
  obtain ⟨l, hl, hscanl⟩ := scanFrom_plainText hlhs 0
    (Token.blankFirst_space (op.symbol.toList ++ ' ' :: rhs.plainText.toList))
  obtain ⟨r, hr, hscanr⟩ := scanFrom_plainText hrhs
    (Text.byteLength lhs.plainText.toList + 4) Token.blankFirst_nil
  rw [List.append_nil, Token.scanFrom_nil, List.append_nil] at hscanr
  let sign : Token := ⟨.operator op, Text.byteLength lhs.plainText.toList + 1, op.symbol⟩
  let tree : ComparisonTree := ⟨l, op, sign, rfl, r⟩
  have htokens : tree.tokens = Token.scan (Fact.caseInput op lhs rhs) := by
    rw [Token.scan, toList_caseInput, hscanl, Nat.zero_add, Token.scanFrom_space,
      Token.scanFrom_string hsign (symbol_ne_nil op), byteLength_symbol, Token.scanFrom_space,
      hscanr]
    rfl
  rw [parse_of_comparison_tokens_eq htokens]
  simp only [tree, sign, ComparisonTree.comparison, hl, hr, Comparison.spanned, Comparison.plain,
    Token.span, byteLength_symbol]

end Script
end LooseEquality
