import LooseEquality.Proofs.Script.Lines

/-!
# Where tokens stop being a script

A list of tokens that starts some script is called viable here, and a flaw is reported at the first
token with which the tokens of a text are not viable any more.  This needs two things.  The tokens
in front of the flaw are viable: behind them, a token of the sort that was wanted can be taken, and
a script be made of the result.  And the flaw is the same whatever follows its token, so no script
starts with all of them.

* `Script.IsViable` — the tokens start a script;
* `Wanted.Admits` — the tokens that are what is wanted, and `Wanted.complaint`, what is said of
  others;
* `Misreads` — what a reader has to show for a flaw.

Readers use each other on the tokens behind those that are read already, and `Misreads.behind` moves
what is known of the one to the other.

**`parse_eq_error`** is the result for texts.
-/

namespace LooseEquality
namespace Script

/-! ## What is wanted -/

namespace Wanted

/-- The tokens that are what is wanted. -/
def Admits : Wanted → Token → Prop
  | kind, t => ∃ k, t.Names k
  | literal _, t => ∃ text, t.Spells text
  | operator, t => ∃ op, t.form = .operator op
  | endOfComparison, t => t.isSeparator = true

/-- What is said of a token that is not what is wanted. -/
def complaint (wanted : Wanted) (t : Token) : String :=
  if t.form = .unterminated then "Unterminated string"
  else if wanted = kind ∧ t.form = .word then "Unknown kind `" ++ t.text ++ "`"
  else "Expected " ++ wanted.text ++ ", got " ++ t.form.label

/-- Only unterminated strings are said to be that. -/
lemma complaint_eq_unterminated_iff (wanted : Wanted) (t : Token) :
    wanted.complaint t = "Unterminated string" ↔ t.form = .unterminated := by
  rw [complaint]
  split_ifs with hform hkind
  · exact iff_of_true rfl hform
  · refine iff_of_false (fun h => ?_) hform
    have := congrArg String.toList h
    simp [String.toList_append] at this
  · refine iff_of_false (fun h => ?_) hform
    have := congrArg String.toList h
    simp [String.toList_append] at this

end Wanted

/-! ## Starts of sentences -/

/-- The tokens start a sentence: with more of them behind, a sentence is derived. -/
def Starts {δ : Type} (tokens : δ → List Token) (ts : List Token) : Prop :=
  ∃ (d : δ) (more : List Token), tokens d = ts ++ more

/-- The tokens start a script. -/
def IsViable (ts : List Token) : Prop := Starts Tree.tokens ts

/-- A token that is a literal, whatever it spells. -/
def someLiteral : Token := ⟨.word, 0, ""⟩

def someOperand : OperandTree := .null ⟨.word, 0, "null"⟩ ⟨rfl, rfl⟩

lemma starts_operand_of_names {u : Token} (h : Wanted.kind.Admits u) :
    Starts OperandTree.tokens [u] := by
  obtain ⟨kind, hu⟩ := h
  by_cases hkind : kind = .null
  · subst hkind
    exact ⟨.null u hu, [], rfl⟩
  · exact ⟨.literal kind hkind u hu someLiteral "" (.inl ⟨rfl, rfl⟩), [someLiteral], rfl⟩

lemma starts_comparison_of_operand {ts : List Token} (h : Starts OperandTree.tokens ts) :
    Starts ComparisonTree.tokens ts := by
  obtain ⟨d, more, htokens⟩ := h
  let sign : Token := ⟨.operator .equal, 0, "=="⟩
  refine ⟨⟨d, .equal, sign, rfl, someOperand⟩, more ++ sign :: someOperand.tokens, ?_⟩
  rw [ComparisonTree.tokens, htokens, List.append_assoc]

lemma starts_comparison_of_sign (lhs : OperandTree) {u : Token} (h : Wanted.operator.Admits u) :
    Starts ComparisonTree.tokens (lhs.tokens ++ [u]) := by
  obtain ⟨op, hu⟩ := h
  refine ⟨⟨lhs, op, u, hu, someOperand⟩, someOperand.tokens, ?_⟩
  rw [List.append_assoc]
  rfl

lemma starts_comparison_of_rhs (lhs : OperandTree) {op : Operator} {sign : Token}
    (hsign : sign.form = .operator op) {ts : List Token} (h : Starts OperandTree.tokens ts) :
    Starts ComparisonTree.tokens (lhs.tokens ++ [sign] ++ ts) := by
  obtain ⟨rhs, more, htokens⟩ := h
  refine ⟨⟨lhs, op, sign, hsign, rhs⟩, more, ?_⟩
  simp [ComparisonTree.tokens, htokens]

lemma isViable_of_comparison {ts : List Token} (h : Starts ComparisonTree.tokens ts) :
    IsViable ts := by
  obtain ⟨d, more, htokens⟩ := h
  refine ⟨.filled [] d [] [], more, ?_⟩
  rw [← htokens]
  exact List.append_nil _

lemma isViable_nil : IsViable [] := ⟨.blank [], [], rfl⟩

lemma isViable_separator {s : Token} (hs : s.isSeparator = true) {ts : List Token}
    (h : IsViable ts) : IsViable (s :: ts) := by
  obtain ⟨e, more, htokens⟩ := h
  obtain ⟨d, hd, -⟩ := exists_tree_separator ⟨s, isSeparator_iff.1 hs⟩ e
  exact ⟨d, more, by rw [hd, htokens, List.cons_append]⟩

lemma isViable_comparison (d : ComparisonTree) {s : Token} (hs : s.isSeparator = true)
    {ts : List Token} (h : IsViable ts) : IsViable (d.tokens ++ [s] ++ ts) := by
  obtain ⟨e, more, htokens⟩ := isViable_separator hs h
  obtain ⟨d', hd', -⟩ := exists_tree_cons d htokens hs
  refine ⟨d', more, ?_⟩
  rw [hd', htokens]
  simp

/-- The start of a viable list is viable. -/
lemma IsViable.of_append {ts us : List Token} (h : IsViable (ts ++ us)) : IsViable ts := by
  obtain ⟨d, more, htokens⟩ := h
  exact ⟨d, us ++ more, by rw [htokens, List.append_assoc]⟩

/-! ## What a flaw goes to show -/

/-- The reader fails on the tokens at the first one that makes them go wrong.  What it wanted there
goes on a sentence, but what it found is something else, and it does not look behind that. -/
inductive Misreads {α : Type} (stop : Nat) (IsStart : List Token → Prop)
    (read : List Token → Except Flaw α) : List Token → Flaw → Prop
  | ends (ts : List Token) (wanted : Wanted)
      (hgoes : ∀ u, wanted.Admits u → IsStart (ts ++ [u])) :
      Misreads stop IsStart read ts ⟨.misplaced wanted none, ⟨stop, 0⟩⟩
  | stops (ts : List Token) (wanted : Wanted) {rest : List Token} {t : Token} {flaw : Flaw}
      (hgoes : ∀ u, wanted.Admits u → IsStart (ts ++ [u])) (ht : ¬ wanted.Admits t)
      (hspan : flaw.span = t.span) (htext : flaw.cause.text = wanted.complaint t)
      (hread : ∀ us, read (ts ++ t :: us) = .error flaw) :
      Misreads stop IsStart read (ts ++ t :: rest) flaw

section

variable {α β : Type} {stop : Nat} {IsStart IsStart' : List Token → Prop} {ts : List Token}
  {read : List Token → Except Flaw α} {read' : List Token → Except Flaw β} {flaw : Flaw}

/-- A reader misreads what another one misreads behind some tokens, if it uses that one there. -/
lemma Misreads.behind (front : List Token) (h : Misreads stop IsStart read ts flaw)
    (hstart : ∀ us, IsStart us → IsStart' (front ++ us))
    (hread' : ∀ us, us.head? = ts.head? → ∀ flaw, read us = .error flaw →
      read' (front ++ us) = .error flaw) :
    Misreads stop IsStart' read' (front ++ ts) flaw := by
  cases h with
  | ends ts wanted hgoes =>
    refine .ends _ wanted fun u hu => ?_
    rw [List.append_assoc]
    exact hstart _ (hgoes u hu)
  | stops ts wanted hgoes ht hspan htext hread =>
    rw [← List.append_assoc]
    refine .stops _ wanted (fun u hu => ?_) ht hspan htext fun us => ?_
    · rw [List.append_assoc]
      exact hstart _ (hgoes u hu)
    · rw [List.append_assoc]
      refine hread' _ ?_ flaw (hread us)
      cases ts <;> rfl

/-- The usual flaw, that the tokens behind some others do not start with what is wanted. -/
lemma misreads_ofTokens (front : List Token) {wanted : Wanted}
    (hgoes : ∀ u, wanted.Admits u → IsStart (front ++ [u]))
    (hfound : ∀ t ∈ ts.head?, ¬ wanted.Admits t ∧ (wanted = .kind → t.form ≠ .word))
    (hread : ∀ us, us.head? = ts.head? → read (front ++ us) = .error (.ofTokens stop wanted us)) :
    Misreads stop IsStart read (front ++ ts) (.ofTokens stop wanted ts) := by
  cases ts with
  | nil =>
    rw [List.append_nil]
    exact .ends front wanted hgoes
  | cons t rest =>
    obtain ⟨ht, hword⟩ := hfound t rfl
    refine .stops front wanted hgoes ht ?_ ?_ fun us => hread (t :: us) rfl
    · rw [Flaw.ofTokens]
      split <;> rfl
    · have hkind : ¬ (wanted = .kind ∧ t.form = .word) := fun h => hword h.1 h.2
      rw [Flaw.ofTokens, Wanted.complaint, if_neg hkind]
      split <;> rfl

end

/-! ## The readers -/

section

variable {stop : Nat} {ts : List Token} {flaw : Flaw}

lemma readOperand_of_not_word (h : ∀ t ∈ ts.head?, t.form ≠ .word) :
    readOperand stop ts = .error (.ofTokens stop .kind ts) := by
  cases ts with
  | nil => rfl
  | cons t ts => rw [readOperand, if_neg (h t rfl)]

lemma readOperand_of_names {t : Token} {kind : Kind} (ht : t.Names kind) (hkind : kind ≠ .null)
    (ts : List Token) : readOperand stop (t :: ts) = readLiteral stop t kind ts := by
  rw [readOperand, if_pos ht.1, Kind.ofName?_eq_some_iff.2 ht.2]
  cases kind with
  | null => exact absurd rfl hkind
  | _ => rfl

lemma readLiteral_of_not_literal {word : Token} {kind : Kind}
    (h : ∀ t ∈ ts.head?, t.literal? = none) :
    readLiteral stop word kind ts = .error (.ofTokens stop (.literal kind) ts) := by
  cases ts with
  | nil => rfl
  | cons t ts => rw [readLiteral, h t rfl]

lemma readOperator_of_not_operator (h : ∀ t ∈ ts.head?, ∀ op, t.form ≠ .operator op) :
    readOperator stop ts = .error (.ofTokens stop .operator ts) := by
  cases ts with
  | nil => rfl
  | cons t ts =>
    rw [readOperator]
    split
    · next op hop => exact absurd hop (h t rfl op)
    · rfl

lemma misreads_literal {word : Token} {kind : Kind} (hword : word.Names kind)
    (hkind : kind ≠ .null) (h : readOperand stop (word :: ts) = .error flaw) :
    Misreads stop (Starts OperandTree.tokens) (readOperand stop) (word :: ts) flaw := by
  have hnone : ∀ t ∈ ts.head?, t.literal? = none := by
    rintro t ht
    obtain ⟨rest, rfl⟩ := List.head?_eq_some_iff.1 ht
    rw [readOperand_of_names hword hkind, readLiteral] at h
    split at h
    · cases h
    · next hlit => exact hlit
  have hread : ∀ us : List Token, us.head? = ts.head? →
      readOperand stop ([word] ++ us) = .error (.ofTokens stop (.literal kind) us) := by
    intro us hus
    rw [List.singleton_append, readOperand_of_names hword hkind]
    exact readLiteral_of_not_literal (hus ▸ hnone)
  obtain rfl := Except.error.inj ((hread ts rfl).symm.trans h)
  refine misreads_ofTokens [word] (fun u hu => ?_) (fun t ht => ⟨?_, fun h => by cases h⟩) hread
  · obtain ⟨text, htext⟩ := hu
    exact ⟨.literal kind hkind word hword u text htext, [], rfl⟩
  · rintro ⟨text, htext⟩
    cases (literal?_of_spells htext).symm.trans (hnone t ht)

lemma misreads_readOperand (h : readOperand stop ts = .error flaw) :
    Misreads stop (Starts OperandTree.tokens) (readOperand stop) ts flaw := by
  by_cases hword : ∀ t ∈ ts.head?, t.form ≠ .word
  · obtain rfl := Except.error.inj ((readOperand_of_not_word hword).symm.trans h)
    refine misreads_ofTokens [] (fun u => starts_operand_of_names) (fun t ht => ⟨?_, ?_⟩)
      fun us hus => readOperand_of_not_word (hus ▸ hword)
    · rintro ⟨kind, hform, -⟩
      exact hword t ht hform
    · exact fun _ => hword t ht
  · push Not at hword
    obtain ⟨t, ht, hform⟩ := hword
    obtain ⟨rest, rfl⟩ := List.head?_eq_some_iff.1 ht
    cases hname : Kind.ofName? t.text with
    | none =>
      have hread : ∀ us, readOperand stop (t :: us) = .error ⟨.unknownKind t.text, t.span⟩ := by
        intro us
        rw [readOperand, if_pos hform, hname]
      obtain rfl := Except.error.inj ((hread rest).symm.trans h)
      refine .stops [] .kind (fun u => starts_operand_of_names) ?_ rfl ?_ hread
      · rintro ⟨kind, -, htext⟩
        cases (Kind.ofName?_eq_some_iff.2 htext).symm.trans hname
      · rw [Wanted.complaint, hform]
        rfl
    | some kind =>
      have hnames : t.Names kind := ⟨hform, Kind.ofName?_eq_some_iff.1 hname⟩
      by_cases hkind : kind = .null
      · subst hkind
        cases (readOperand_tokens stop (.null t hnames) rest).symm.trans h
      · exact misreads_literal hnames hkind h

lemma misreads_readComparison (hquoted : Quoted ts) (h : readComparison stop ts = .error flaw) :
    Misreads stop (Starts ComparisonTree.tokens) (readComparison stop) ts flaw := by
  rw [readComparison] at h
  split at h
  · next flaw' hlhs =>
    obtain rfl := Except.error.inj h
    refine (misreads_readOperand hlhs).behind [] (fun us => starts_comparison_of_operand) ?_
    intro us _ flaw hus
    rw [List.nil_append, readComparison, hus]
  · next lhs ts₁ hlhs =>
    obtain ⟨l, rfl, rfl⟩ := exists_tree_of_readOperand hquoted hlhs
    split at h
    · next flaw' hop =>
      obtain rfl := Except.error.inj h
      have hsign : ∀ t ∈ ts₁.head?, ∀ op, t.form ≠ .operator op := by
        rintro t ht op hform
        obtain ⟨rest, rfl⟩ := List.head?_eq_some_iff.1 ht
        rw [readOperator, hform] at hop
        cases hop
      obtain rfl := Except.error.inj ((readOperator_of_not_operator hsign).symm.trans hop)
      refine misreads_ofTokens l.tokens (fun u => starts_comparison_of_sign l)
        (fun t ht => ⟨?_, fun h => by cases h⟩) fun us hus => ?_
      · rintro ⟨op, hform⟩
        exact hsign t ht op hform
      · rw [readComparison, readOperand_tokens]
        simp only [readOperator_of_not_operator (hus ▸ hsign)]
    · next op ts₂ hop =>
      obtain ⟨sign, rfl, hform, -⟩ := exists_of_readOperator hop
      split at h
      · next flaw' hrhs =>
        obtain rfl := Except.error.inj h
        rw [← List.singleton_append, ← List.append_assoc]
        refine (misreads_readOperand hrhs).behind (l.tokens ++ [sign])
          (fun us => starts_comparison_of_rhs l hform) fun us _ flaw hus => ?_
        have hread : readOperator stop (sign :: us) = .ok (⟨op.val, sign.span⟩, us) := by
          simp only [readOperator, hform]
        rw [List.append_assoc, List.singleton_append, readComparison, readOperand_tokens]
        simp only [hread, hus]
      · cases h

lemma ofTokens_comparison_append (stop : Nat) (d : ComparisonTree) (ts : List Token) :
    ofTokens stop (d.tokens ++ ts) = afterComparison stop (.ok (d.comparison, ts)) := by
  obtain ⟨t, rest, htokens, ht⟩ := exists_tokens_cons d
  rw [← readComparison_tokens, htokens, List.cons_append, ofTokens_cons stop (by simp [ht])]

/-- Behind a comparison there has to be a separator, and what follows it is read as before. -/
lemma misreads_behind_comparison (d : ComparisonTree)
    (h : afterComparison stop (.ok (d.comparison, ts)) = .error flaw)
    (htail : ∀ flaw, ofTokens stop ts.tail = .error flaw →
      Misreads stop IsViable (ofTokens stop) ts.tail flaw) :
    Misreads stop IsViable (ofTokens stop) (d.tokens ++ ts) flaw := by
  cases ts with
  | nil => cases h
  | cons s after =>
    by_cases hs : s.isSeparator = true
    · rw [afterComparison, if_pos hs, ofTokens_separator stop hs] at h
      cases hafter : ofTokens stop after with
      | ok p =>
        rw [hafter] at h
        cases h
      | error flaw' =>
        rw [hafter] at h
        obtain rfl := Except.error.inj h
        rw [← List.singleton_append, ← List.append_assoc]
        refine (htail _ hafter).behind (d.tokens ++ [s]) (fun us => isViable_comparison d hs)
          fun us _ flaw hus => ?_
        rw [List.append_assoc, List.singleton_append, ofTokens_comparison_append, afterComparison,
          if_pos hs, ofTokens_separator stop hs, hus]
        rfl
    · rw [afterComparison, if_neg hs] at h
      obtain rfl := Except.error.inj h
      refine misreads_ofTokens d.tokens (fun u hu => ?_) (fun u hu => ⟨?_, fun h => by cases h⟩)
        fun us hus => ?_
      · have hviable := isViable_comparison d hu isViable_nil
        rwa [List.append_nil] at hviable
      · rw [← Option.some.inj hu]
        exact hs
      · obtain ⟨us', rfl⟩ := List.head?_eq_some_iff.1 hus
        rw [ofTokens_comparison_append, afterComparison, if_neg hs]

/-- **A flaw of a script is where its tokens stop being the start of one.**  The induction is on
their number and not on how they are read: what is behind a separator is read in two steps. -/
theorem misreads_of_ofTokens (hquoted : Quoted ts) (h : ofTokens stop ts = .error flaw) :
    Misreads stop IsViable (ofTokens stop) ts flaw := by
  induction hlength : ts.length using Nat.strong_induction_on generalizing ts flaw with
  | _ n ih =>
    cases ts with
    | nil =>
      rw [ofTokens_nil] at h
      cases h
    | cons t rest =>
      by_cases hsep : t.isSeparator = true
      · rw [ofTokens_separator stop hsep] at h
        have hrest := ih rest.length (by simp [← hlength]) hquoted.of_cons h rfl
        refine hrest.behind [t] (fun us => isViable_separator hsep) fun us _ flaw hus => ?_
        rw [List.singleton_append, ofTokens_separator stop hsep, hus]
      · rw [ofTokens_cons stop hsep] at h
        cases hread : readComparison stop (t :: rest) with
        | error flaw' =>
          rw [hread] at h
          obtain rfl := Except.error.inj h
          refine (misreads_readComparison hquoted hread).behind []
            (fun us => isViable_of_comparison) fun us hus flaw hflaw => ?_
          obtain ⟨us', rfl⟩ := List.head?_eq_some_iff.1 hus
          rw [List.nil_append, ofTokens_cons stop hsep, hflaw]
          rfl
        | ok result =>
          obtain ⟨c, after⟩ := result
          have hshorter := length_readComparison hread
          rw [hread] at h
          obtain ⟨d, htokens, rfl⟩ := exists_tree_of_readComparison hquoted hread
          rw [htokens] at hquoted ⊢
          refine misreads_behind_comparison d h fun flaw hflaw => ?_
          have htail : after.tail.length < n := by
            rw [List.length_tail, ← hlength]
            omega
          exact ih _ htail (fun u hu => hquoted.of_append u (List.mem_of_mem_tail hu)) hflaw rfl

end

/-! ## Texts -/

/-- Tokens of every sort can be had. -/
lemma Wanted.exists_admits (wanted : Wanted) : ∃ u, wanted.Admits u := by
  cases wanted with
  | kind => exact ⟨⟨.word, 0, "null"⟩, .null, rfl, rfl⟩
  | literal k => exact ⟨someLiteral, "", .inl ⟨rfl, rfl⟩⟩
  | operator => exact ⟨⟨.operator .equal, 0, "=="⟩, .equal, rfl⟩
  | endOfComparison => exact ⟨⟨.newline, 0, "\n"⟩, rfl⟩

lemma isViable_of_goes {ts : List Token} {wanted : Wanted}
    (h : ∀ u, wanted.Admits u → IsViable (ts ++ [u])) : IsViable ts := by
  obtain ⟨u, hu⟩ := wanted.exists_admits
  exact (h u hu).of_append

/-- The tokens up to number `k` are the start of a script, and with that token no more.  What was
wanted in its place would have done. -/
structure FirstMisfit (ts : List Token) (k : Nat) (t : Token) (wanted : Wanted) : Prop where
  getElem?_eq : ts[k]? = some t
  not_admits : ¬ wanted.Admits t
  goes_on : ∀ u, wanted.Admits u → IsViable (ts.take k ++ [u])
  isViable : IsViable (ts.take k)
  not_isViable : ¬ IsViable (ts.take (k + 1))

/-- The tokens are the start of a script, but none.  What is wanted behind them would do. -/
structure Unfinished (ts : List Token) (wanted : Wanted) : Prop where
  goes_on : ∀ u, wanted.Admits u → IsViable (ts ++ [u])
  isViable : IsViable ts
  tokens_ne : ∀ d : Tree, d.tokens ≠ ts

lemma firstMisfit_of_fixed {stop : Nat} {ts rest : List Token} {t : Token} {wanted : Wanted}
    {flaw : Flaw} (hgoes : ∀ u, wanted.Admits u → IsViable (ts ++ [u])) (ht : ¬ wanted.Admits t)
    (hfixed : ∀ us, ofTokens stop (ts ++ t :: us) = .error flaw) :
    FirstMisfit (ts ++ t :: rest) ts.length t wanted := by
  have htake : (ts ++ t :: rest).take ts.length = ts := by simp
  have htakeNext : (ts ++ t :: rest).take (ts.length + 1) = ts ++ [t] := by
    simp [List.take_append, List.take_of_length_le]
  refine ⟨by simp, ht, ?_, ?_, ?_⟩
  · rwa [htake]
  · rw [htake]
    exact isViable_of_goes hgoes
  · rw [htakeNext]
    rintro ⟨d, more, htokens⟩
    rw [List.append_assoc, List.singleton_append] at htokens
    have hok := ofTokens_tokens stop d
    rw [htokens, hfixed] at hok
    cases hok

/-- **A fault is at the first token with which a text stops being the start of a script.**  It is of
another sort than what was wanted, or no kind has the name, and only a string that is left open is
reported as that.  A fault at the end of a text says that the text is the start of a script. -/
theorem parse_eq_error (text : String) (fault : Fault) (h : parse text = .error fault) :
    (∃ (k : Nat) (t : Token) (wanted : Wanted), FirstMisfit (Token.scan text) k t wanted ∧
      fault = .malformed (wanted.complaint t) t.span ∧
      (wanted.complaint t = "Unterminated string" ↔ t.form = .unterminated)) ∨
    (∃ wanted : Wanted, Unfinished (Token.scan text) wanted ∧
      fault = .malformed ("Expected " ++ wanted.text ++ ", got EOF")
        ⟨Text.byteLength text.toList, 0⟩) := by
  obtain ⟨flaw, hread, rfl⟩ : ∃ flaw, read text = .error flaw ∧ fault = flaw.fault := by
    rw [parse] at h
    cases hread : read text with
    | error flaw =>
      rw [hread] at h
      exact ⟨flaw, rfl, (Except.error.inj h).symm⟩
    | ok p =>
      rw [hread] at h
      cases h
  have hmisreads := misreads_of_ofTokens (fun _ ht => exists_spells_of_mem_scan ht) hread
  rw [read] at hread
  generalize Token.scan text = ts at hmisreads hread ⊢
  cases hmisreads with
  | ends ts wanted hgoes =>
    refine .inr ⟨wanted, ⟨hgoes, isViable_of_goes hgoes, ?_⟩, ?_⟩
    · rintro d rfl
      cases (ofTokens_tokens _ d).symm.trans hread
    · rw [Flaw.fault, text_misplaced_none]
  | stops ts wanted hgoes ht hspan htext hfixed =>
    refine .inl ⟨_, _, wanted, firstMisfit_of_fixed hgoes ht hfixed, ?_,
      wanted.complaint_eq_unterminated_iff _⟩
    rw [Flaw.fault, htext, hspan]

theorem firstMisfit_float :
    parse "null == float 1" = .error (.malformed "Unknown kind `float`" ⟨8, 5⟩) ∧
      ∃ k t wanted, FirstMisfit (Token.scan "null == float 1") k t wanted ∧ t.span = ⟨8, 5⟩ := by
  have hparse : parse "null == float 1" = .error (.malformed "Unknown kind `float`" ⟨8, 5⟩) := by
    decide +kernel
  refine ⟨hparse, ?_⟩
  rcases parse_eq_error _ _ hparse with ⟨k, t, wanted, hmisfit, hfault, -⟩ | ⟨wanted, -, hfault⟩
  · exact ⟨k, t, wanted, hmisfit, (Fault.malformed.inj hfault).2.symm⟩
  · exact absurd (Fault.malformed.inj hfault).2 (by decide)

end Script
end LooseEquality
