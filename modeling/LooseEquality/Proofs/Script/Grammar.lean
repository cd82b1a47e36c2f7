import LooseEquality.Proofs.Token.Scan
import LooseEquality.Script.Read

/-!
# Scripts and their grammar

The reader of scripts works its way through a list of tokens.  The grammar it follows is

    script      ::=  separator* [comparison (separator+ comparison)* separator*]
    comparison  ::=  operand operator operand
    operand     ::=  `null`  |  kind literal
    literal     ::=  word  |  quoted string

and here it is a type: a `Script.Tree` is a derivation.  A derivation has a list of tokens at its
leaves (`Tree.tokens`) and the script that it stands for (`Tree.script`).

* **`ofTokens_tokens`** — the tokens of a derivation are read as its script;
* **`exists_tree_of_ofTokens`** — what is read as a script has a derivation;
* **`Tree.tokens_injective`** — tokens have one derivation at most.

**`parse_iff_tree`** puts the three together for texts.

A derivation cannot be built from the wrong tokens: each node has the conditions on its own leaves
among its fields.  A literal carries the text it spells, quotes removed, and the reader finds that
text only because quoted tokens of a text do have their quotes (`exists_spells_of_mem_scan`).
-/

namespace LooseEquality

/-- The token is the word that names the kind. -/
def Token.Names (t : Token) (k : Kind) : Prop := t.form = .word ∧ t.text = k.name

/-- The token is a literal with the given text: a word, or a string with the text in quotes. -/
def Token.Spells (t : Token) (text : String) : Prop :=
  (t.form = .word ∧ t.text = text) ∨ (t.form = .quoted ∧ t.text = "\"" ++ text ++ "\"")

/-- A token that ends comparisons. -/
abbrev Separator := { t : Token // t.form = .newline ∨ t.form = .semicolon }

namespace Script

/-! ## Derivations -/

/-- A derivation of an operand. -/
inductive OperandTree where
  | null (word : Token) (hword : word.Names .null)
  | literal (kind : Kind) (hkind : kind ≠ .null) (word : Token) (hword : word.Names kind)
      (lit : Token) (text : String) (hlit : lit.Spells text)

/-- A derivation of a comparison. -/
structure ComparisonTree where
  lhs : OperandTree
  op : Operator
  sign : Token
  hsign : sign.form = .operator op
  rhs : OperandTree

/-- A comparison with the separators in front of it, of which there is at least one. -/
structure NextTree where
  separator : Separator
  separators : List Separator
  comparison : ComparisonTree

/-- A derivation of a script. -/
inductive Tree where
  | blank (separators : List Separator)
  | filled (leading : List Separator) (first : ComparisonTree) (more : List NextTree)
      (trailing : List Separator)

/-- The tokens of several separators. -/
def separatorTokens (ss : List Separator) : List Token := ss.map Subtype.val

namespace OperandTree

def tokens : OperandTree → List Token
  | null word _ => [word]
  | literal _ _ word _ lit _ _ => [word, lit]

/-- The operand that is derived, with the span from its first token to its last. -/
def operand : OperandTree → Spanned Operand
  | null word _ => ⟨⟨.null, none⟩, word.span⟩
  | literal kind _ word _ lit text _ => ⟨⟨kind, some text⟩, word.span.cover lit.span⟩

end OperandTree

namespace ComparisonTree

def tokens (d : ComparisonTree) : List Token := d.lhs.tokens ++ d.sign :: d.rhs.tokens

/-- The comparison that is derived, with the span from one operand to the other. -/
def comparison (d : ComparisonTree) : Spanned Comparison :=
  ⟨⟨⟨d.op, d.sign.span⟩, d.lhs.operand, d.rhs.operand⟩,
    d.lhs.operand.span.cover d.rhs.operand.span⟩

end ComparisonTree

def NextTree.tokens (d : NextTree) : List Token :=
  separatorTokens (d.separator :: d.separators) ++ d.comparison.tokens

namespace Tree

/-- What follows the first comparison. -/
def tailTokens (more : List NextTree) (trailing : List Separator) : List Token :=
  more.flatMap NextTree.tokens ++ separatorTokens trailing

def tokens : Tree → List Token
  | blank separators => separatorTokens separators
  | filled leading first more trailing =>
    separatorTokens leading ++ (first.tokens ++ tailTokens more trailing)

/-- The script that is derived: its comparisons, in order. -/
def script : Tree → Script
  | blank _ => []
  | filled _ first more _ => first.comparison :: more.map fun d => d.comparison.comparison

end Tree

/-! ## Single tokens -/

lemma kind_name_injective {k l : Kind} (h : k.name = l.name) : k = l := by
  have := Kind.ofName?_name k
  rw [h, Kind.ofName?_name] at this
  exact (Option.some.inj this).symm

lemma kind_name_ne_nil (k : Kind) : k.name.toList ≠ [] := by
  cases k <;> decide

lemma symbol_ne_nil (op : Operator) : op.symbol.toList ≠ [] := by
  cases op <;> decide

lemma quoted_toList (text : String) :
    ("\"" ++ text ++ "\"").toList = '"' :: (text.toList ++ ['"']) := by
  simp [String.toList_append]

/-- A token spells one text at most. -/
lemma spells_unique {t : Token} {text text' : String} (h : t.Spells text) (h' : t.Spells text') :
    text = text' := by
  rcases h with ⟨hform, htext⟩ | ⟨hform, htext⟩ <;>
    rcases h' with ⟨hform', htext'⟩ | ⟨hform', htext'⟩
  · exact htext.symm.trans htext'
  · rw [hform] at hform'
    cases hform'
  · rw [hform] at hform'
    cases hform'
  · have hlist := congrArg String.toList (htext.symm.trans htext')
    rw [quoted_toList, quoted_toList] at hlist
    exact String.toList_inj.1 (List.append_cancel_right (List.cons.inj hlist).2)

lemma literal?_of_spells {t : Token} {text : String} (h : t.Spells text) :
    t.literal? = some text := by
  rcases h with ⟨hform, htext⟩ | ⟨hform, htext⟩
  · rw [Token.literal?, hform, htext]
  · simp [Token.literal?, hform, htext]

/-- A token that is read as a literal spells what is read, provided its quotes are there. -/
lemma spells_of_literal? {t : Token} {text : String} (hquotes : t.form = .quoted → ∃ s, t.Spells s)
    (h : t.literal? = some text) : t.Spells text := by
  simp only [Token.literal?] at h
  split at h
  · next hform => exact .inl ⟨hform, Option.some.inj h⟩
  · next hform =>
    obtain ⟨s, hs⟩ := hquotes hform
    have := literal?_of_spells hs
    simp only [Token.literal?, hform] at this
    rwa [← Option.some.inj (h.symm.trans this)] at hs
  · cases h

/-- Quoted tokens of a text have their quotes. -/
lemma exists_spells_of_mem_scan {script : String} {t : Token} (ht : t ∈ Token.scan script)
    (hform : t.form = .quoted) : ∃ text, t.Spells text := by
  obtain ⟨_, _, _, _, _, hreads⟩ := Token.standsIn_of_mem_scan ht
  rw [hform] at hreads
  obtain ⟨body, htext, -⟩ := hreads
  refine ⟨String.ofList body, .inr ⟨hform, ?_⟩⟩
  rw [← String.toList_inj, quoted_toList, String.toList_ofList, htext]

lemma isSeparator_iff {t : Token} :
    t.isSeparator = true ↔ t.form = .newline ∨ t.form = .semicolon := by
  unfold Token.isSeparator Token.Form.isSeparator
  cases t.form <;> simp

/-! ## Derived tokens are read -/

lemma readOperand_tokens (stop : Nat) (d : OperandTree) (rest : List Token) :
    readOperand stop (d.tokens ++ rest) = .ok (d.operand, rest) := by
  cases d with
  | null word hword =>
    have hkind : Kind.ofName? word.text = some .null := Kind.ofName?_eq_some_iff.2 hword.2
    simp [OperandTree.tokens, OperandTree.operand, readOperand, hword.1, hkind]
  | literal kind hkind word hword lit text hlit =>
    have hname : Kind.ofName? word.text = some kind := Kind.ofName?_eq_some_iff.2 hword.2
    have htext := literal?_of_spells hlit
    cases kind with
    | null => exact absurd rfl hkind
    | _ =>
      simp [OperandTree.tokens, OperandTree.operand, readOperand, readLiteral, hword.1, hname,
        htext]

lemma readComparison_tokens (stop : Nat) (d : ComparisonTree) (rest : List Token) :
    readComparison stop (d.tokens ++ rest) = .ok (d.comparison, rest) := by
  have hop : ∀ ts, readOperator stop (d.sign :: ts) = .ok (⟨d.op, d.sign.span⟩, ts) := by
    intro ts
    simp only [readOperator, d.hsign]
  rw [readComparison, ComparisonTree.tokens, List.append_assoc, List.cons_append,
    readOperand_tokens]
  simp only [hop, readOperand_tokens]
  rfl

/-- The tokens of a comparison start with a word, which is no separator. -/
lemma exists_tokens_cons (d : ComparisonTree) :
    ∃ t ts, d.tokens = t :: ts ∧ t.isSeparator = false := by
  obtain ⟨lhs, op, sign, hsign, rhs⟩ := d
  cases lhs with
  | null word hword =>
    refine ⟨word, _, rfl, ?_⟩
    rw [Token.isSeparator, hword.1]
    rfl
  | literal kind hkind word hword lit text hlit =>
    refine ⟨word, _, rfl, ?_⟩
    rw [Token.isSeparator, hword.1]
    rfl

/-- Separators in front are skipped. -/
lemma ofTokens_separatorTokens (stop : Nat) (ss : List Separator) (ts : List Token) :
    ofTokens stop (separatorTokens ss ++ ts) = ofTokens stop ts := by
  induction ss with
  | nil => rfl
  | cons s ss ih =>
    have hs : s.val.isSeparator = true := isSeparator_iff.2 s.property
    rw [separatorTokens, List.map_cons, List.cons_append, ofTokens]
    simp only [hs, if_true]
    exact ih

/-- Where a comparison stands, it is read, and then the tokens have to end or go on with a
separator. -/
lemma ofTokens_comparison (stop : Nat) (d : ComparisonTree) {ts : List Token}
    (hts : ∀ t rest, ts = t :: rest → t.isSeparator = true) :
    ofTokens stop (d.tokens ++ ts) = (ofTokens stop ts).map (d.comparison :: ·) := by
  have hread := readComparison_tokens stop d ts
  obtain ⟨t, rest, htokens, ht⟩ := exists_tokens_cons d
  rw [htokens, List.cons_append] at hread ⊢
  rw [ofTokens]
  simp only [ht, Bool.false_eq_true, if_false]
  split
  · next flaw herror =>
    rw [hread] at herror
    cases herror
  · next c hok =>
    rw [hread] at hok
    cases hok
    rw [ofTokens]
    rfl
  · next c s after hok =>
    rw [hread] at hok
    cases hok
    rw [if_pos (hts s after rfl)]

lemma tailTokens_cons (d : NextTree) (more : List NextTree) (trailing : List Separator) :
    Tree.tailTokens (d :: more) trailing
      = separatorTokens (d.separator :: d.separators) ++
        (d.comparison.tokens ++ Tree.tailTokens more trailing) := by
  simp [Tree.tailTokens, NextTree.tokens]

/-- What follows a comparison starts with a separator, if there is anything. -/
lemma isSeparator_of_tailTokens_eq_cons {more : List NextTree} {trailing : List Separator}
    {t : Token} {ts : List Token} (h : Tree.tailTokens more trailing = t :: ts) :
    t.isSeparator = true := by
  cases more with
  | nil =>
    cases trailing with
    | nil => cases h
    | cons s ss =>
      obtain ⟨rfl, -⟩ := List.cons.inj h
      exact isSeparator_iff.2 s.property
  | cons d more =>
    rw [tailTokens_cons] at h
    obtain ⟨rfl, -⟩ := List.cons.inj h
    exact isSeparator_iff.2 d.separator.property

lemma ofTokens_tailTokens (stop : Nat) (more : List NextTree) (trailing : List Separator) :
    ofTokens stop (Tree.tailTokens more trailing)
      = .ok (more.map fun d => d.comparison.comparison) := by
  induction more with
  | nil =>
    have := ofTokens_separatorTokens stop trailing []
    rw [List.append_nil] at this
    rw [Tree.tailTokens, List.flatMap_nil, List.nil_append, this, ofTokens]
    rfl
  | cons d more ih =>
    rw [tailTokens_cons, ofTokens_separatorTokens,
      ofTokens_comparison stop _ fun _ _ h => isSeparator_of_tailTokens_eq_cons h, ih]
    rfl

/-- **The tokens of a derivation are read as its script.** -/
theorem ofTokens_tokens (stop : Nat) (d : Tree) : ofTokens stop d.tokens = .ok d.script := by
  cases d with
  | blank separators => exact ofTokens_tailTokens stop [] separators
  | filled leading first more trailing =>
    rw [Tree.tokens, ofTokens_separatorTokens,
      ofTokens_comparison stop _ fun _ _ h => isSeparator_of_tailTokens_eq_cons h,
      ofTokens_tailTokens]
    rfl

/-! ## What is read is derived

Throughout, the tokens that are read have their quotes if they are quoted. -/

/-- Quoted tokens among the given ones have their quotes. -/
def Quoted (ts : List Token) : Prop := ∀ t ∈ ts, t.form = .quoted → ∃ text, t.Spells text

lemma Quoted.of_append {front back : List Token} (h : Quoted (front ++ back)) : Quoted back :=
  fun t ht => h t (List.mem_append_right front ht)

lemma Quoted.of_cons {t : Token} {ts : List Token} (h : Quoted (t :: ts)) : Quoted ts :=
  fun u hu => h u (List.mem_cons_of_mem t hu)

lemma exists_tree_of_readLiteral {stop : Nat} {word : Token} {kind : Kind} {ts rest : List Token}
    {o : Spanned Operand} (hword : word.Names kind) (hkind : kind ≠ .null) (hquoted : Quoted ts)
    (h : readLiteral stop word kind ts = .ok (o, rest)) :
    ∃ d : OperandTree, word :: ts = d.tokens ++ rest ∧ o = d.operand := by
  cases ts with
  | nil => cases h
  | cons t ts =>
    simp only [readLiteral] at h
    split at h
    · next text htext =>
      cases h
      have hlit := spells_of_literal? (hquoted t List.mem_cons_self) htext
      exact ⟨.literal kind hkind word hword t text hlit, rfl, rfl⟩
    · cases h

lemma exists_tree_of_readOperand {stop : Nat} {ts rest : List Token} {o : Spanned Operand}
    (hquoted : Quoted ts) (h : readOperand stop ts = .ok (o, rest)) :
    ∃ d : OperandTree, ts = d.tokens ++ rest ∧ o = d.operand := by
  cases ts with
  | nil => cases h
  | cons t ts =>
    simp only [readOperand] at h
    split at h
    · next hform =>
      split at h
      · cases h
      · next hnull =>
        cases h
        exact ⟨.null t ⟨hform, Kind.ofName?_eq_some_iff.1 hnull⟩, rfl, rfl⟩
      · next kind hkind hname =>
        exact exists_tree_of_readLiteral ⟨hform, Kind.ofName?_eq_some_iff.1 hname⟩
          hkind hquoted.of_cons h
    · cases h

lemma exists_of_readOperator {stop : Nat} {ts rest : List Token} {op : Spanned Operator}
    (h : readOperator stop ts = .ok (op, rest)) :
    ∃ t, ts = t :: rest ∧ t.form = .operator op.val ∧ op.span = t.span := by
  cases ts with
  | nil => cases h
  | cons t ts =>
    simp only [readOperator] at h
    split at h
    · next sign hform =>
      cases h
      exact ⟨t, rfl, hform, rfl⟩
    · cases h

lemma exists_tree_of_readComparison {stop : Nat} {ts rest : List Token} {c : Spanned Comparison}
    (hquoted : Quoted ts) (h : readComparison stop ts = .ok (c, rest)) :
    ∃ d : ComparisonTree, ts = d.tokens ++ rest ∧ c = d.comparison := by
  simp only [readComparison] at h
  split at h
  · cases h
  · next lhs ts₁ hlhs =>
    obtain ⟨l, rfl, rfl⟩ := exists_tree_of_readOperand hquoted hlhs
    split at h
    · cases h
    · next op ts₂ hop =>
      obtain ⟨t, rfl, hform, hspan⟩ := exists_of_readOperator hop
      split at h
      · cases h
      · next rhs ts₃ hrhs =>
        have hquoted₂ : Quoted ts₂ := hquoted.of_append.of_cons
        obtain ⟨r, rfl, rfl⟩ := exists_tree_of_readOperand hquoted₂ hrhs
        cases h
        refine ⟨⟨l, op.val, t, hform, r⟩, by simp [ComparisonTree.tokens], ?_⟩
        rw [ComparisonTree.comparison, ← hspan]
        rfl

/-- A comparison can be put in front of a derivation whose tokens start with a separator. -/
lemma exists_tree_cons (d : ComparisonTree) {e : Tree} {s : Token} {ts : List Token}
    (htokens : e.tokens = s :: ts) (hs : s.isSeparator = true) :
    ∃ d' : Tree, d'.tokens = d.tokens ++ e.tokens ∧ d'.script = d.comparison :: e.script := by
  cases e with
  | blank separators => exact ⟨.filled [] d [] separators, rfl, rfl⟩
  | filled leading first more trailing =>
    cases leading with
    | nil =>
      -- then the tokens start with those of a comparison
      obtain ⟨t, rest, hfirst, ht⟩ := exists_tokens_cons first
      rw [Tree.tokens, hfirst] at htokens
      obtain ⟨rfl, -⟩ := List.cons.inj htokens
      rw [hs] at ht
      cases ht
    | cons s' leading =>
      refine ⟨.filled [] d (⟨s', leading, first⟩ :: more) trailing, ?_, rfl⟩
      rw [Tree.tokens, tailTokens_cons]
      rfl

/-- A separator can be put in front of any derivation. -/
lemma exists_tree_separator (s : Separator) (e : Tree) :
    ∃ d' : Tree, d'.tokens = s.val :: e.tokens ∧ d'.script = e.script := by
  cases e with
  | blank separators => exact ⟨.blank (s :: separators), rfl, rfl⟩
  | filled leading first more trailing =>
    exact ⟨.filled (s :: leading) first more trailing, rfl, rfl⟩

/-- **What is read as a script has a derivation.** -/
theorem exists_tree_of_ofTokens {stop : Nat} {ts : List Token} {p : Script} (hquoted : Quoted ts)
    (h : ofTokens stop ts = .ok p) : ∃ d : Tree, d.tokens = ts ∧ d.script = p := by
  fun_induction ofTokens stop ts generalizing p with
  | case1 =>
    cases h
    exact ⟨.blank [], rfl, rfl⟩
  | case2 t rest hsep ih =>
    obtain ⟨e, rfl, rfl⟩ := ih hquoted.of_cons h
    exact exists_tree_separator ⟨t, isSeparator_iff.1 hsep⟩ e
  | case3 t rest hsep flaw hread => cases h
  | case4 t rest hsep c hread =>
    cases h
    obtain ⟨d, htokens, rfl⟩ := exists_tree_of_readComparison hquoted hread
    exact ⟨.filled [] d [] [], htokens.symm, rfl⟩
  | case5 t rest hsep c s after hread hs ih =>
    obtain ⟨d, htokens, rfl⟩ := exists_tree_of_readComparison hquoted hread
    rw [htokens] at hquoted ⊢
    cases hrest : ofTokens stop (s :: after) with
    | error flaw =>
      rw [hrest] at h
      cases h
    | ok q =>
      rw [hrest] at h
      cases h
      obtain ⟨e, he, rfl⟩ := ih hquoted.of_append hrest
      obtain ⟨d', htokens', hscript⟩ := exists_tree_cons d he hs
      exact ⟨d', by rw [htokens', he], hscript⟩
  | case6 t rest hsep c s after hread hs => cases h

/-! ## The leaves of a derivation -/

lemma form_ne_unterminated_of_mem_separatorTokens {ss : List Separator} {t : Token}
    (h : t ∈ separatorTokens ss) : t.form ≠ .unterminated := by
  obtain ⟨s, -, rfl⟩ := List.mem_map.1 h
  rcases s.property with hform | hform <;> rw [hform] <;> exact Token.Form.noConfusion

lemma OperandTree.form_ne_unterminated {d : OperandTree} {t : Token} (h : t ∈ d.tokens) :
    t.form ≠ .unterminated := by
  cases d with
  | null word hword =>
    rw [List.mem_singleton.1 h, hword.1]
    exact Token.Form.noConfusion
  | literal kind hkind word hword lit text hlit =>
    rcases List.mem_cons.1 h with rfl | h
    · rw [hword.1]
      exact Token.Form.noConfusion
    · rw [List.mem_singleton.1 h]
      rcases hlit with ⟨hform, -⟩ | ⟨hform, -⟩ <;> rw [hform] <;> exact Token.Form.noConfusion

lemma ComparisonTree.form_ne_unterminated {d : ComparisonTree} {t : Token} (h : t ∈ d.tokens) :
    t.form ≠ .unterminated := by
  rcases List.mem_append.1 h with h | h
  · exact OperandTree.form_ne_unterminated h
  · rcases List.mem_cons.1 h with rfl | h
    · rw [d.hsign]
      exact Token.Form.noConfusion
    · exact OperandTree.form_ne_unterminated h

/-- No leaf of a derivation is a string that is left open. -/
lemma Tree.form_ne_unterminated {d : Tree} {t : Token} (h : t ∈ d.tokens) :
    t.form ≠ .unterminated := by
  cases d with
  | blank separators => exact form_ne_unterminated_of_mem_separatorTokens h
  | filled leading first more trailing =>
    rcases List.mem_append.1 h with h | h
    · exact form_ne_unterminated_of_mem_separatorTokens h
    rcases List.mem_append.1 h with h | h
    · exact ComparisonTree.form_ne_unterminated h
    rcases List.mem_append.1 h with h | h
    · obtain ⟨e, -, h⟩ := List.mem_flatMap.1 h
      rcases List.mem_append.1 h with h | h
      · exact form_ne_unterminated_of_mem_separatorTokens h
      · exact ComparisonTree.form_ne_unterminated h
    · exact form_ne_unterminated_of_mem_separatorTokens h

/-! ## Tokens have one derivation at most -/

lemma OperandTree.tokens_append_inj {d e : OperandTree} {ts us : List Token}
    (h : d.tokens ++ ts = e.tokens ++ us) : d = e ∧ ts = us := by
  cases d with
  | null word hword =>
    cases e with
    | null word' hword' =>
      obtain ⟨rfl, rfl⟩ := List.cons.inj h
      exact ⟨rfl, rfl⟩
    | literal kind hkind word' hword' lit text hlit =>
      obtain ⟨rfl, -⟩ := List.cons.inj h
      exact absurd (kind_name_injective (hword'.2.symm.trans hword.2)) hkind
  | literal kind hkind word hword lit text hlit =>
    cases e with
    | null word' hword' =>
      obtain ⟨rfl, -⟩ := List.cons.inj h
      exact absurd (kind_name_injective (hword.2.symm.trans hword'.2)) hkind
    | literal kind' hkind' word' hword' lit' text' hlit' =>
      obtain ⟨rfl, hlits⟩ := List.cons.inj h
      obtain ⟨rfl, rfl⟩ := List.cons.inj hlits
      obtain rfl := kind_name_injective (hword.2.symm.trans hword'.2)
      obtain rfl := spells_unique hlit hlit'
      exact ⟨rfl, rfl⟩

lemma ComparisonTree.tokens_append_inj {d e : ComparisonTree} {ts us : List Token}
    (h : d.tokens ++ ts = e.tokens ++ us) : d = e ∧ ts = us := by
  obtain ⟨lhs, op, sign, hsign, rhs⟩ := d
  obtain ⟨lhs', op', sign', hsign', rhs'⟩ := e
  simp only [tokens, List.append_assoc, List.cons_append] at h
  obtain ⟨rfl, hsigns⟩ := OperandTree.tokens_append_inj h
  obtain ⟨rfl, hrhs⟩ := List.cons.inj hsigns
  obtain ⟨rfl, rfl⟩ := OperandTree.tokens_append_inj hrhs
  obtain rfl : op = op' := by
    rw [hsign] at hsign'
    exact Token.Form.operator.inj hsign'
  exact ⟨rfl, rfl⟩

/-- Separators stop where a token comes that is none. -/
lemma separatorTokens_append_inj {ss ss' : List Separator} {ts us : List Token}
    (hts : ∀ t rest, ts = t :: rest → t.isSeparator = false)
    (hus : ∀ t rest, us = t :: rest → t.isSeparator = false)
    (h : separatorTokens ss ++ ts = separatorTokens ss' ++ us) : ss = ss' ∧ ts = us := by
  have hsep : ∀ s : Separator, ¬ s.val.isSeparator = false := by
    intro s
    rw [isSeparator_iff.2 s.property]
    exact Bool.noConfusion
  induction ss generalizing ss' with
  | nil =>
    cases ss' with
    | nil => exact ⟨rfl, h⟩
    | cons s' ss' => exact absurd (hts s'.val _ h) (hsep s')
  | cons s ss ih =>
    cases ss' with
    | nil => exact absurd (hus s.val _ h.symm) (hsep s)
    | cons s' ss' =>
      obtain ⟨hs, h⟩ := List.cons.inj h
      obtain ⟨rfl, rfl⟩ := ih h
      exact ⟨by rw [Subtype.ext hs], rfl⟩

lemma isSeparator_of_tokens_append_eq_cons (d : ComparisonTree) {us : List Token} (t : Token)
    (rest : List Token) (h : d.tokens ++ us = t :: rest) : t.isSeparator = false := by
  obtain ⟨t', ts, htokens, ht⟩ := exists_tokens_cons d
  rw [htokens, List.cons_append] at h
  rw [← (List.cons.inj h).1]
  exact ht

lemma tailTokens_inj {more more' : List NextTree} {trailing trailing' : List Separator}
    (h : Tree.tailTokens more trailing = Tree.tailTokens more' trailing') :
    more = more' ∧ trailing = trailing' := by
  have hblank : ∀ ss : List Separator, Tree.tailTokens [] ss = separatorTokens ss ++ [] :=
    fun ss => (List.append_nil _).symm
  induction more generalizing more' with
  | nil =>
    cases more' with
    | nil =>
      rw [hblank, hblank] at h
      exact ⟨rfl, (separatorTokens_append_inj (by simp) (by simp) h).1⟩
    | cons e more' =>
      rw [hblank, tailTokens_cons] at h
      obtain ⟨-, h⟩ := separatorTokens_append_inj (by simp)
        (isSeparator_of_tokens_append_eq_cons e.comparison) h
      obtain ⟨t, ts, htokens, -⟩ := exists_tokens_cons e.comparison
      rw [htokens] at h
      cases h
  | cons d more ih =>
    cases more' with
    | nil =>
      rw [hblank, tailTokens_cons] at h
      obtain ⟨-, h⟩ := separatorTokens_append_inj
        (isSeparator_of_tokens_append_eq_cons d.comparison) (by simp) h
      obtain ⟨t, ts, htokens, -⟩ := exists_tokens_cons d.comparison
      rw [htokens] at h
      cases h
    | cons e more' =>
      rw [tailTokens_cons, tailTokens_cons] at h
      obtain ⟨hseparators, h⟩ := separatorTokens_append_inj
        (isSeparator_of_tokens_append_eq_cons d.comparison)
        (isSeparator_of_tokens_append_eq_cons e.comparison) h
      obtain ⟨hcomparison, h⟩ := ComparisonTree.tokens_append_inj h
      obtain ⟨rfl, rfl⟩ := ih h
      obtain ⟨separator, separators, comparison⟩ := d
      obtain ⟨rfl, rfl⟩ := List.cons.inj hseparators
      obtain rfl := hcomparison
      exact ⟨rfl, rfl⟩

/-- **Tokens have one derivation at most.** -/
theorem Tree.tokens_injective : Function.Injective Tree.tokens := by
  intro d e h
  have hblank : ∀ ss : List Separator, (Tree.blank ss).tokens = Tree.tailTokens [] ss :=
    fun ss => rfl
  cases d with
  | blank separators =>
    cases e with
    | blank separators' =>
      rw [hblank, hblank] at h
      obtain ⟨-, rfl⟩ := tailTokens_inj h
      rfl
    | filled leading first more trailing =>
      rw [Tree.tokens, Tree.tokens, ← List.append_nil (separatorTokens separators)] at h
      obtain ⟨-, h⟩ := separatorTokens_append_inj (by simp)
        (isSeparator_of_tokens_append_eq_cons first) h
      obtain ⟨t, ts, htokens, -⟩ := exists_tokens_cons first
      rw [htokens] at h
      cases h
  | filled leading first more trailing =>
    cases e with
    | blank separators =>
      rw [Tree.tokens, Tree.tokens, ← List.append_nil (separatorTokens separators)] at h
      obtain ⟨-, h⟩ := separatorTokens_append_inj
        (isSeparator_of_tokens_append_eq_cons first) (by simp) h
      obtain ⟨t, ts, htokens, -⟩ := exists_tokens_cons first
      rw [htokens] at h
      cases h
    | filled leading' first' more' trailing' =>
      obtain ⟨rfl, hfirst⟩ := separatorTokens_append_inj
        (isSeparator_of_tokens_append_eq_cons first)
        (isSeparator_of_tokens_append_eq_cons first') h
      obtain ⟨rfl, htail⟩ := ComparisonTree.tokens_append_inj hfirst
      obtain ⟨rfl, rfl⟩ := tailTokens_inj htail
      rfl

/-! ## Texts -/

/-- A text whose tokens have a derivation is read as the script that is derived. -/
lemma parse_of_tokens_eq {text : String} {d : Tree} (h : d.tokens = Token.scan text) :
    parse text = .ok d.script := by
  rw [parse, read, ← h, ofTokens_tokens]
  rfl

lemma tokens_single (d : ComparisonTree) : Tree.tokens (.filled [] d [] []) = d.tokens := by
  simp [Tree.tokens, separatorTokens, Tree.tailTokens]

/-- A text with the tokens of a comparison is read as that comparison alone. -/
lemma parse_of_comparison_tokens_eq {text : String} {d : ComparisonTree}
    (h : d.tokens = Token.scan text) : parse text = .ok [d.comparison] :=
  parse_of_tokens_eq ((tokens_single d).trans h)

lemma read_of_parse {text : String} {p : Script} (h : parse text = .ok p) : read text = .ok p := by
  rw [parse] at h
  cases hread : read text with
  | error flaw =>
    rw [hread] at h
    cases h
  | ok q =>
    rw [hread] at h
    exact congrArg _ (Except.ok.inj h)

/-- The tokens of a text that is read as a script have a derivation. -/
lemma exists_tree_of_parse {text : String} {p : Script} (h : parse text = .ok p) :
    ∃ d : Tree, d.tokens = Token.scan text ∧ d.script = p :=
  exists_tree_of_ofTokens (fun _ ht => exists_spells_of_mem_scan ht) (read_of_parse h)

/-- **Parsing is deriving.**  A text is read as a script exactly if its tokens have a derivation,
and the script is the one that is derived.  The derivation is the only one.  No string in it is
left open. -/
theorem parse_iff_tree (text : String) :
    (∀ p, parse text = .ok p ↔ ∃ d : Tree, d.tokens = Token.scan text ∧ d.script = p) ∧
    (∀ d e : Tree, d.tokens = Token.scan text → e.tokens = Token.scan text → d = e) ∧
    (∀ p, parse text = .ok p → ∀ t ∈ Token.scan text, t.form ≠ .unterminated) := by
  have hparse : ∀ p, parse text = .ok p ↔
      ∃ d : Tree, d.tokens = Token.scan text ∧ d.script = p := by
    intro p
    have hquoted : Quoted (Token.scan text) := by
      intro t ht
      exact exists_spells_of_mem_scan ht
    constructor
    · intro h
      refine exists_tree_of_ofTokens hquoted (?_ : ofTokens (Text.byteLength text.toList) _ = _)
      simp only [parse, read] at h
      cases hread : ofTokens (Text.byteLength text.toList) (Token.scan text) with
      | error flaw =>
        rw [hread] at h
        cases h
      | ok q =>
        rw [hread] at h
        cases h
        rfl
    · rintro ⟨d, htokens, rfl⟩
      rw [parse, read, ← htokens, ofTokens_tokens]
      rfl
  refine ⟨hparse, ?_, ?_⟩
  · intro d e hd he
    exact Tree.tokens_injective (hd.trans he.symm)
  · intro p h t ht
    obtain ⟨d, htokens, -⟩ := (hparse p).1 h
    rw [← htokens] at ht
    exact Tree.form_ne_unterminated ht

end Script
end LooseEquality
