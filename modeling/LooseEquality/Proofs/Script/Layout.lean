import LooseEquality.Proofs.Shift
import LooseEquality.Proofs.Script.Grammar
import LooseEquality.Proofs.Span
import LooseEquality.Proofs.Token.Stretch

/-!
# How a script lies in its text

The spans of a script are made from those of its tokens, from the inside out.  This file says what
they come to: the parts of a comparison stand in the text one behind the other, each in its own
words, and so do the comparisons of a script, with a separator between any two of them.

* `Operand.SpelledBy` — the texts that spell an operand;
* `Script.OperandTree.Stands` — an operand at the front of what is left of a text;
* `Comparison.Parts` — a comparison in its text, piece by piece;
* `Comparison.LaidOut`, `Script.LaidOut` — what this says of the spans.

A derivation has its tokens in the order of the text, so it is followed from its leaves: where the
tokens of an operand or a comparison are the next ones, it stands (`OperandTree.exists_stands`,
`ComparisonTree.exists_parts`).  A comparison can also be read by itself.  Its text, cut out, gives
the same tokens (`Token.scanFrom_cut`), and these are read as before, at another place.

**`laidOut_of_parse`** is the result for texts.
-/

namespace LooseEquality

/-- The texts that spell an operand: `null`, or the name of another kind and a literal, with a gap
between them.  Only a literal in quotes can do without the gap, and only one without quotes is
bare. -/
inductive Operand.SpelledBy : Operand → List Char → Prop
  | null : SpelledBy ⟨.null, none⟩ "null".toList
  | bare {kind : Kind} {literal : String} {gap : List Char} (hkind : kind ≠ .null)
      (hgap : ∀ c ∈ gap, Text.isBlank c = true ∧ c ≠ '\n') (hne : gap ≠ [])
      (hbare : ∀ c ∈ literal.toList, Text.isBlank c = false ∧ c ≠ '"') :
      SpelledBy ⟨kind, some literal⟩ (kind.name.toList ++ (gap ++ literal.toList))
  | quoted {kind : Kind} {literal : String} {gap : List Char} (hkind : kind ≠ .null)
      (hgap : ∀ c ∈ gap, Text.isBlank c = true ∧ c ≠ '\n') :
      SpelledBy ⟨kind, some literal⟩
        (kind.name.toList ++ (gap ++ '"' :: (literal.toList ++ ['"'])))

/-- Between two spans of a text stands a character that separates comparisons. -/
def Span.SeparatedIn (text : List Char) (s t : Span) : Prop :=
  ∃ before sep after, text = before ++ sep :: after ∧ (sep = ';' ∨ sep = '\n') ∧
    s.stop ≤ Text.byteLength before ∧ Text.byteLength before < t.offset

/-- The spans of a comparison: its own, and those of its parts. -/
def Comparison.spans (c : Spanned Comparison) : List Span :=
  [c.span, c.val.lhs.span, c.val.op.span, c.val.rhs.span]

/-- A comparison is where its spans say.  Its parts stand one behind the other, in their own words;
it has the text from the one operand to the other, on one line; and this text is read as the same
comparison, with all spans moved back to where it starts. -/
structure Comparison.LaidOut (c : Spanned Comparison) (text : String) : Prop where
  length_pos : ∀ s ∈ Comparison.spans c, 0 < s.length
  fits : ∀ s ∈ Comparison.spans c, s.Fits text.toList
  lhs_stop_le : c.val.lhs.span.stop ≤ c.val.op.span.offset
  op_stop_le : c.val.op.span.stop ≤ c.val.rhs.span.offset
  offset_eq : c.span.offset = c.val.lhs.span.offset
  stop_eq : c.span.stop = c.val.rhs.span.stop
  extract_op : c.val.op.span.extract? text = some c.val.op.val.symbol
  extract_lhs : ∃ written, c.val.lhs.span.extract? text = some written ∧
    c.val.lhs.val.SpelledBy written.toList
  extract_rhs : ∃ written, c.val.rhs.span.extract? text = some written ∧
    c.val.rhs.val.SpelledBy written.toList
  extract_own : ∃ own, c.span.extract? text = some own ∧ '\n' ∉ own.toList ∧
    ∃ d, Script.parse own = .ok [d] ∧ Script.shift c.span.offset [d] = [c]

/-- A comparison in a text, piece by piece: `lhs` and `rhs` are the texts of its operands, with
`gap` and `gap'` between them and the operator. -/
structure Comparison.Parts (c : Spanned Comparison)
    (text front lhs gap gap' rhs back : List Char) : Prop where
  lhs_spelledBy : c.val.lhs.val.SpelledBy lhs
  rhs_spelledBy : c.val.rhs.val.SpelledBy rhs
  oneLine : '\n' ∉ lhs ++ (gap ++ (c.val.op.val.symbol.toList ++ (gap' ++ rhs)))
  lhs_ne_nil : lhs ≠ []
  rhs_ne_nil : rhs ≠ []
  lhs_divides : c.val.lhs.span.Divides text front lhs
    (gap ++ (c.val.op.val.symbol.toList ++ (gap' ++ (rhs ++ back))))
  op_divides : c.val.op.span.Divides text (front ++ (lhs ++ gap)) c.val.op.val.symbol.toList
    (gap' ++ (rhs ++ back))
  rhs_divides : c.val.rhs.span.Divides text
    (front ++ (lhs ++ (gap ++ (c.val.op.val.symbol.toList ++ gap')))) rhs back
  divides : c.span.Divides text front
    (lhs ++ (gap ++ (c.val.op.val.symbol.toList ++ (gap' ++ rhs)))) back

/-- The comparisons of a script are where their spans say, in order, and separated. -/
structure Script.LaidOut (script : Script) (text : String) : Prop where
  comparisons : ∀ c ∈ script, Comparison.LaidOut c text
  separated : script.Pairwise fun c d => c.span.SeparatedIn text.toList d.span

namespace Script

open Token (scanFrom)

/-! ## Operands -/

/-- An operand stands at the front of a text that starts at offset `n`: behind a gap, with `written`
as its text, and with the tokens `us` behind it. -/
structure OperandTree.Stands (d : OperandTree) (n : Nat) (cs : List Char) (us : List Token)
    (gap written rest : List Char) : Prop where
  eq_append : cs = gap ++ (written ++ rest)
  isGap : ∀ c ∈ gap, Token.isGap c = true
  spelledBy : d.operand.val.SpelledBy written
  lineFeed : '\n' ∉ written
  ne_nil : written ≠ []
  span_eq : d.operand.span = ⟨n + Text.byteLength gap, Text.byteLength written⟩
  last : ∃ t, d.tokens.getLast? = some t ∧ t.span.stop = d.operand.span.stop
  behind : scanFrom (n + Text.byteLength gap + Text.byteLength written) rest = us

lemma lineFeed_not_mem_of_isGap {gap : List Char} (h : ∀ c ∈ gap, Token.isGap c = true) :
    '\n' ∉ gap := by
  intro hmem
  exact absurd rfl (Token.isGap_iff.1 (h '\n' hmem)).2

lemma span_of_leads {t : Token} {n : Nat} {cs gap rest : List Char} (h : t.Leads n cs gap rest) :
    t.span = ⟨n + Text.byteLength gap, Text.byteLength t.text.toList⟩ := by
  rw [Token.span, h.offset_eq]

/-- The name of a kind and a literal, one behind the other, spell an operand. -/
lemma spelledBy_of_leads {kind : Kind} {word lit : Token} {text : String} {n : Nat}
    {cs gap gap' rest rest' : List Char} {us : List Token} (hkind : kind ≠ .null)
    (hword : word.Names kind) (hlit : lit.Spells text) (hleads : word.Leads n cs gap rest)
    (hleads' : lit.Leads word.span.stop rest gap' rest')
    (hrest : scanFrom word.span.stop rest = lit :: us) :
    Operand.SpelledBy ⟨kind, some text⟩ (word.text.toList ++ (gap' ++ lit.text.toList)) := by
  have hblank : ∀ c ∈ gap', Text.isBlank c = true ∧ c ≠ '\n' := by
    intro c hc
    exact Token.isGap_iff.1 (hleads'.isGap c hc)
  have hreads := hleads.reads
  have hreads' := hleads'.reads
  rw [hword.1] at hreads
  rw [hword.2]
  rcases hlit with ⟨hform, rfl⟩ | ⟨hform, htext⟩
  · rw [hform] at hreads'
    refine .bare hkind hblank ?_ fun c hc => Token.bare_of_reads hreads' hc
    -- the first word would go on with the second if there were no gap
    rintro rfl
    have hends : Token.EndsWords rest := hreads.2
    rw [Token.endsWords_iff_of_scanFrom hrest] at hends
    simp [hleads'.offset_eq, hform] at hends
  · rw [htext, quoted_toList]
    exact .quoted hkind hblank

/-- **An operand that is read** stands in the text. -/
theorem OperandTree.exists_stands {d : OperandTree} {n : Nat} {cs : List Char} {us : List Token}
    (h : scanFrom n cs = d.tokens ++ us) :
    ∃ gap written rest, d.Stands n cs us gap written rest := by
  cases d with
  | null word hword =>
    obtain ⟨gap, rest, hleads, hrest⟩ := Token.exists_leads h
    have hspan := span_of_leads hleads
    refine ⟨gap, word.text.toList, rest, hleads.eq_append, hleads.isGap, ?_, ?_, hleads.ne_nil,
      hspan, ⟨word, rfl, rfl⟩, ?_⟩
    · rw [hword.2]
      exact .null
    · exact hleads.reads.lineFeed_not_mem (by simp [hword.1])
    · rw [← hleads.stop_eq]
      exact hrest
  | literal kind hkind word hword lit text hlit =>
    obtain ⟨gap, rest, hleads, hrest⟩ := Token.exists_leads h
    obtain ⟨gap', rest', hleads', hrest'⟩ := Token.exists_leads hrest
    have hstop := hleads.stop_eq
    have hoffset' := hleads'.offset_eq
    have hspan : word.span.cover lit.span = ⟨n + Text.byteLength gap,
        Text.byteLength (word.text.toList ++ (gap' ++ lit.text.toList))⟩ := by
      rw [span_of_leads hleads, span_of_leads hleads', hstop]
      simp only [Span.cover, Span.stop, Span.mk.injEq, Text.byteLength_append]
      omega
    refine ⟨gap, word.text.toList ++ (gap' ++ lit.text.toList), rest', ?_, hleads.isGap, ?_, ?_, ?_,
      hspan, ⟨lit, rfl, ?_⟩, ?_⟩
    · rw [hleads.eq_append, hleads'.eq_append]
      simp only [List.append_assoc]
    · exact spelledBy_of_leads hkind hword hlit hleads hleads' hrest
    · have hword' := hleads.reads.lineFeed_not_mem (by simp [hword.1])
      have hlit' := hleads'.reads.lineFeed_not_mem (by
        rcases hlit with ⟨hform, -⟩ | ⟨hform, -⟩ <;> simp [hform])
      simp [hword', lineFeed_not_mem_of_isGap hleads'.isGap, hlit']
    · simp [hleads.ne_nil]
    · show lit.span.stop = (word.span.cover lit.span).stop
      rw [Span.stop_cover]
      simp only [Token.span, Span.stop] at hoffset' ⊢
      omega
    · have hbehind : scanFrom lit.span.stop rest' = us := hrest'
      rw [hleads'.stop_eq, hstop] at hbehind
      simpa only [Text.byteLength_append, Nat.add_assoc] using hbehind

/-! ## Comparisons -/

lemma divides_of_eq {s : Span} {text before mid after : List Char} {offset : Nat}
    (h : s = ⟨offset, Text.byteLength mid⟩) (hoffset : offset = Text.byteLength before)
    (htext : text = before ++ (mid ++ after)) :
    s.Divides text before mid after := by
  subst h
  exact ⟨htext, hoffset, rfl⟩

lemma lineFeed_not_mem_symbol (op : Operator) : '\n' ∉ op.symbol.toList := by
  cases op <;> decide

/-- What stands in a text in one piece, read by itself, is the comparison that it was. -/
lemma exists_parse_of_scanFrom {d : ComparisonTree} {n : Nat} {own : String}
    (h : scanFrom n own.toList = d.tokens) :
    ∃ c, parse own = .ok [c] ∧ Script.shift n [c] = [d.comparison] := by
  have hread := ofTokens_tokens (Text.byteLength own.toList + n) (.filled [] d [] [])
  rw [tokens_single, ← h, Token.scanFrom_eq_shift, ofTokens_shift] at hread
  change ((read own).map (Script.shift n)).mapError (Flaw.shift n) = .ok [d.comparison] at hread
  rw [parse]
  cases hown : read own with
  | error flaw =>
    rw [hown] at hread
    cases hread
  | ok p =>
    rw [hown] at hread
    have hp : Script.shift n p = [d.comparison] := Except.ok.inj hread
    obtain ⟨c, rfl, -⟩ := List.map_eq_singleton_iff.1 hp
    exact ⟨c, rfl, hp⟩

/-- **A comparison that is read** stands in the text piece by piece, and reads the same without what
is before and behind it. -/
theorem ComparisonTree.exists_parts {d : ComparisonTree} {before rest : List Char}
    {us : List Token} (h : scanFrom (Text.byteLength before) rest = d.tokens ++ us) :
    ∃ front lhs gap gap' rhs back,
      Comparison.Parts d.comparison (before ++ rest) front lhs gap gap' rhs back ∧
      scanFrom d.comparison.span.offset
        (lhs ++ (gap ++ (d.op.symbol.toList ++ (gap' ++ rhs)))) = d.tokens := by
  rw [tokens, List.append_assoc, List.cons_append] at h
  obtain ⟨gap₀, lhs, rest₁, hlhs⟩ := OperandTree.exists_stands h
  obtain ⟨gap, rest₂, hsign, hrest₂⟩ := Token.exists_leads hlhs.behind
  obtain ⟨gap', rhs, back, hrhs⟩ := OperandTree.exists_stands hrest₂
  have hsymbol : d.sign.text.toList = d.op.symbol.toList := by
    have hreads := hsign.reads
    rw [d.hsign] at hreads
    exact hreads
  have hstop := hsign.stop_eq
  rw [hsymbol] at hstop
  obtain rfl : rest =
      gap₀ ++ (lhs ++ (gap ++ (d.op.symbol.toList ++ (gap' ++ (rhs ++ back))))) := by
    rw [hlhs.eq_append, hsign.eq_append, hrhs.eq_append, hsymbol]
  have hlhsSpan := hlhs.span_eq
  have hopSpan := span_of_leads hsign
  have hrhsSpan := hrhs.span_eq
  rw [hsymbol] at hopSpan
  rw [hstop] at hrhsSpan
  have hspan : d.comparison.span = ⟨Text.byteLength before + Text.byteLength gap₀,
      Text.byteLength (lhs ++ (gap ++ (d.op.symbol.toList ++ (gap' ++ rhs))))⟩ := by
    show d.lhs.operand.span.cover d.rhs.operand.span = _
    rw [hlhsSpan, hrhsSpan]
    simp only [Span.cover, Span.stop, Span.mk.injEq, Text.byteLength_append]
    omega
  refine ⟨before ++ gap₀, lhs, gap, gap', rhs, back, ⟨hlhs.spelledBy, hrhs.spelledBy, ?_,
    hlhs.ne_nil, hrhs.ne_nil, divides_of_eq hlhsSpan ?_ ?_, divides_of_eq hopSpan ?_ ?_,
    divides_of_eq hrhsSpan ?_ ?_, divides_of_eq hspan ?_ ?_⟩, ?_⟩
  · simp [ComparisonTree.comparison, hlhs.lineFeed, hrhs.lineFeed, lineFeed_not_mem_symbol,
      lineFeed_not_mem_of_isGap hsign.isGap, lineFeed_not_mem_of_isGap hrhs.isGap]
  -- the places are counted and the texts put together in another order
  iterate 4
    · simp [ComparisonTree.comparison, Nat.add_assoc]
    · simp [ComparisonTree.comparison]
  · obtain ⟨t, hlast, ht⟩ := hrhs.last
    rw [hspan]
    have hown : scanFrom (Text.byteLength before + Text.byteLength gap₀)
        ((lhs ++ (gap ++ (d.op.symbol.toList ++ (gap' ++ rhs)))) ++ back) = d.tokens ++ us := by
      rw [Token.scanFrom_gaps hlhs.isGap] at h
      simpa [tokens] using h
    refine Token.scanFrom_cut hown (t := t) ?_ ?_
    · simp [tokens, List.getLast?_append, List.getLast?_cons, hlast]
    · rw [ht, hrhsSpan]
      simp only [Span.stop, Text.byteLength_append]
      omega

/-- A comparison that stands in a text piece by piece is laid out in it, if it can be read by
itself. -/
theorem laidOut_of_parts {c : Spanned Comparison} {text : String}
    {front lhs gap gap' rhs back : List Char}
    (h : Comparison.Parts c text.toList front lhs gap gap' rhs back)
    (hown : ∃ d, parse (String.ofList
      (lhs ++ (gap ++ (c.val.op.val.symbol.toList ++ (gap' ++ rhs))))) = .ok [d] ∧
        Script.shift c.span.offset [d] = [c]) :
    Comparison.LaidOut c text := by
  have hlhs := h.lhs_divides
  have hop := h.op_divides
  have hrhs := h.rhs_divides
  have hcover := h.divides
  constructor
  case length_pos =>
    simp only [Comparison.spans, List.forall_mem_cons, hlhs.length_eq, hop.length_eq,
      hrhs.length_eq, hcover.length_eq]
    refine ⟨Text.byteLength_pos ?_, Text.byteLength_pos h.lhs_ne_nil,
      Text.byteLength_pos (symbol_ne_nil _), Text.byteLength_pos h.rhs_ne_nil, by simp⟩
    simp [h.lhs_ne_nil]
  case fits =>
    simp only [Comparison.spans, List.forall_mem_cons]
    exact ⟨hcover.fits, hlhs.fits, hop.fits, hrhs.fits, by simp⟩
  case lhs_stop_le =>
    rw [Span.stop, hlhs.offset_eq, hlhs.length_eq, hop.offset_eq]
    simp only [Text.byteLength_append]
    omega
  case op_stop_le =>
    rw [Span.stop, hop.offset_eq, hop.length_eq, hrhs.offset_eq]
    simp only [Text.byteLength_append]
    omega
  case offset_eq => rw [hcover.offset_eq, hlhs.offset_eq]
  case stop_eq =>
    rw [Span.stop, Span.stop, hcover.offset_eq, hcover.length_eq, hrhs.offset_eq, hrhs.length_eq]
    simp only [Text.byteLength_append]
    omega
  case extract_op => rw [hop.extract?, String.ofList_toList]
  case extract_lhs =>
    refine ⟨_, hlhs.extract?, ?_⟩
    rw [String.toList_ofList]
    exact h.lhs_spelledBy
  case extract_rhs =>
    refine ⟨_, hrhs.extract?, ?_⟩
    rw [String.toList_ofList]
    exact h.rhs_spelledBy
  case extract_own =>
    refine ⟨_, hcover.extract?, ?_, hown⟩
    rw [String.toList_ofList]
    exact h.oneLine

/-- **A comparison that is read** is laid out in the text. -/
theorem ComparisonTree.laidOut {d : ComparisonTree} {text : String} {before rest : List Char}
    {us : List Token} (htext : text.toList = before ++ rest)
    (h : scanFrom (Text.byteLength before) rest = d.tokens ++ us) :
    Comparison.LaidOut d.comparison text := by
  obtain ⟨front, lhs, gap, gap', rhs, back, hparts, hown⟩ := exists_parts h
  rw [← htext] at hparts
  refine laidOut_of_parts hparts (exists_parse_of_scanFrom ?_)
  rw [String.toList_ofList]
  exact hown

/-! ## Scripts -/

/-- Every comparison of a derivation has its tokens among those of the derivation. -/
lemma exists_append_of_mem {first : ComparisonTree} {more : List NextTree}
    (trailing : List Separator) {c : Spanned Comparison}
    (h : c ∈ first.comparison :: more.map fun d => d.comparison.comparison) :
    ∃ (front : List Token) (ct : ComparisonTree) (back : List Token),
      first.tokens ++ Tree.tailTokens more trailing = front ++ (ct.tokens ++ back) ∧
        c = ct.comparison := by
  induction more generalizing first with
  | nil => exact ⟨[], first, _, rfl, List.mem_singleton.1 h⟩
  | cons d more ih =>
    rcases List.mem_cons.1 h with rfl | h
    · exact ⟨[], first, _, rfl, rfl⟩
    · obtain ⟨front, ct, back, htokens, hc⟩ := ih h
      refine ⟨first.tokens ++ (separatorTokens (d.separator :: d.separators) ++ front), ct, back,
        ?_, hc⟩
      rw [tailTokens_cons, htokens]
      simp only [List.append_assoc]

lemma OperandTree.stop_le {d : OperandTree} {n : Nat} (h : ∀ t ∈ d.tokens, t.span.stop ≤ n) :
    d.operand.span.stop ≤ n := by
  cases d with
  | null word hword => exact h word (by simp [tokens])
  | literal kind hkind word hword lit text hlit =>
    have hword := h word (by simp [tokens])
    have hlit := h lit (by simp [tokens])
    show (word.span.cover lit.span).stop ≤ n
    rw [Span.stop_cover]
    exact Nat.max_le.2 ⟨hword, hlit⟩

lemma OperandTree.le_offset {d : OperandTree} {n : Nat} (h : ∀ t ∈ d.tokens, n ≤ t.offset) :
    n ≤ d.operand.span.offset := by
  cases d with
  | null word hword => exact h word (by simp [tokens])
  | literal kind hkind word hword lit text hlit =>
    have hword := h word (by simp [tokens])
    have hlit := h lit (by simp [tokens])
    exact Nat.le_min.2 ⟨hword, hlit⟩

/-- A comparison ends where its tokens end. -/
lemma ComparisonTree.stop_le {d : ComparisonTree} {n : Nat}
    (h : ∀ t ∈ d.tokens, t.span.stop ≤ n) : d.comparison.span.stop ≤ n := by
  show (d.lhs.operand.span.cover d.rhs.operand.span).stop ≤ n
  rw [Span.stop_cover]
  refine Nat.max_le.2 ⟨OperandTree.stop_le ?_, OperandTree.stop_le ?_⟩
  · intro t ht
    exact h t (by simp [tokens, ht])
  · intro t ht
    exact h t (by simp [tokens, ht])

/-- A comparison starts where its tokens start. -/
lemma ComparisonTree.le_offset {d : ComparisonTree} {n : Nat}
    (h : ∀ t ∈ d.tokens, n ≤ t.offset) : n ≤ d.comparison.span.offset := by
  refine Nat.le_min.2 ⟨OperandTree.le_offset ?_, OperandTree.le_offset ?_⟩
  · intro t ht
    exact h t (by simp [tokens, ht])
  · intro t ht
    exact h t (by simp [tokens, ht])

/-- A separator that stands in a text separates what ends before it from what starts behind it. -/
lemma separatedIn_of_standsIn {text : List Char} {sep : Separator} {s t : Span}
    (h : sep.val.StandsIn text) (hs : s.stop ≤ sep.val.offset)
    (ht : sep.val.span.stop ≤ t.offset) : s.SeparatedIn text t := by
  have hlt := (Token.stop_of_standsIn h).1
  obtain ⟨before, after, htext, hbefore, -, hreads⟩ := h
  obtain ⟨c, hc, hsep⟩ : ∃ c, sep.val.text.toList = [c] ∧ (c = ';' ∨ c = '\n') := by
    rcases sep.property with hform | hform <;> rw [hform] at hreads
    · exact ⟨'\n', hreads, .inr rfl⟩
    · exact ⟨';', hreads, .inl rfl⟩
  rw [hc] at htext
  refine ⟨before, c, after, by simpa using htext, hsep, by omega, by omega⟩

/-- **Comparisons are separated** by the separators between their tokens. -/
theorem pairwise_separatedIn {text : List Char} {first : ComparisonTree} {more : List NextTree}
    {trailing : List Separator}
    (hstands : ∀ t ∈ first.tokens ++ Tree.tailTokens more trailing, t.StandsIn text)
    (hordered : (first.tokens ++ Tree.tailTokens more trailing).Pairwise
      fun s t => s.span.stop ≤ t.offset) :
    (first.comparison :: more.map fun d => d.comparison.comparison).Pairwise
      fun c d => c.span.SeparatedIn text d.span := by
  induction more generalizing first with
  | nil => exact List.pairwise_singleton _ _
  | cons d more ih =>
    rw [tailTokens_cons] at hstands hordered
    obtain ⟨-, hbehind, hacross⟩ := List.pairwise_append.1 hordered
    obtain ⟨-, hrest, hseps⟩ := List.pairwise_append.1 hbehind
    have hsep : d.separator.val ∈ separatorTokens (d.separator :: d.separators) :=
      List.mem_cons_self
    refine List.pairwise_cons.2 ⟨fun c hc => ?_, ih ?_ hrest⟩
    · obtain ⟨front, ct, back, htokens, rfl⟩ := exists_append_of_mem trailing hc
      refine separatedIn_of_standsIn (hstands d.separator.val (by simp [hsep])) ?_ ?_
      · exact ComparisonTree.stop_le fun t ht => hacross t ht _ (by simp [hsep])
      · refine ComparisonTree.le_offset fun t ht => hseps _ hsep t ?_
        rw [htokens]
        simp [ht]
    · intro t ht
      exact hstands t (by simp [List.mem_append.1 ht])

/-- **Scripts are laid out** in the texts they are read from. -/
theorem laidOut_of_parse {text : String} {p : Script} (h : parse text = .ok p) :
    p.LaidOut text := by
  obtain ⟨d, htokens, rfl⟩ := exists_tree_of_parse h
  cases d with
  | blank separators => exact ⟨by simp [Tree.script], .nil⟩
  | filled leading first more trailing =>
    have hscan : scanFrom 0 text.toList
        = separatorTokens leading ++ (first.tokens ++ Tree.tailTokens more trailing) :=
      htokens.symm
    have hall := (Token.tokenizes_iff text _).2 htokens
    constructor
    · intro c hc
      obtain ⟨front, ct, back, hct, rfl⟩ := exists_append_of_mem trailing hc
      rw [hct, ← List.append_assoc] at hscan
      obtain ⟨before, rest, htext, hrest⟩ := Token.exists_append_of_scanFrom hscan
      rw [Nat.zero_add] at hrest
      exact ComparisonTree.laidOut htext hrest
    · refine pairwise_separatedIn (fun t ht => ?_) (List.pairwise_append.1 hall.ordered).2.1
      exact hall.standsIn t (List.mem_append_right _ ht)

/-- Two comparisons in one line, with a wide blank, a literal in quotes right behind its kind, and
a character of two bytes at the end. -/
def tightText : String := " boolean\u3000yes==string\"a b\" ;null!=array é"

theorem laidOut_of_tightText :
    ∃ c d, parse tightText = .ok [c, d] ∧ c.span = ⟨1, 26⟩ ∧ d.span = ⟨29, 14⟩ ∧
      LaidOut [c, d] tightText := by
  have hparse : parse tightText = .ok
      [⟨⟨⟨.equal, ⟨14, 2⟩⟩, ⟨⟨.boolean, some "yes"⟩, ⟨1, 13⟩⟩, ⟨⟨.string, some "a b"⟩, ⟨16, 11⟩⟩⟩,
        ⟨1, 26⟩⟩,
       ⟨⟨⟨.notEqual, ⟨33, 2⟩⟩, ⟨⟨.null, none⟩, ⟨29, 4⟩⟩, ⟨⟨.array, some "é"⟩, ⟨35, 8⟩⟩⟩,
        ⟨29, 14⟩⟩] := by
    decide +kernel
  exact ⟨_, _, hparse, rfl, rfl, laidOut_of_parse hparse⟩

end Script
end LooseEquality
