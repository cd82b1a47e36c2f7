import LooseEquality.Proofs.Span
import LooseEquality.Script.Read

/-!
# The spans of a script

All spans that come out of reading a text fit the text: those of the operands and operators of a
script, and those of flaws.  A span is that of a token, the cover of two such spans, or the empty
one at the end of the text; nothing else is ever made up.

* `Comparison.Fits` — the operands and the operator of a comparison have spans that fit;
* `Script.Reading.Within` — what each reader preserves: given tokens that fit, what was read fits,
  and so does a flaw; and the tokens that are left are among those that were given.

**`fits_of_parse`** and **`fits_of_parse_error`** say it for whole texts.
-/

namespace LooseEquality

/-- The operands and the operator of a comparison fit a text. -/
structure Comparison.Fits (c : Comparison) (text : List Char) : Prop where
  op : c.op.span.Fits text
  lhs : c.lhs.span.Fits text
  rhs : c.rhs.span.Fits text

/-- A fault is tied to a place of a text. -/
def Fault.Fits (f : Fault) (text : List Char) : Prop :=
  ∃ span, f.span? = some span ∧ span.Fits text

namespace Script

/-- What was read from some tokens of a text fits the text, or the flaw does. -/
def Reading.Within {α : Type} (text : List Char) (ts : List Token) (fits : α → Prop) :
    Reading α → Prop
  | .error flaw => flaw.span.Fits text
  | .ok (a, rest) => fits a ∧ rest ⊆ ts

/-- A script that was read from a text fits the text, or the flaw does. -/
def ReadFits (text : List Char) : Except Flaw Script → Prop
  | .error flaw => flaw.span.Fits text
  | .ok script => ∀ c ∈ script, c.val.Fits text

section Readers

variable {text : List Char} {ts : List Token}

lemma ofTokens_span_fits (wanted : Wanted) (hts : ∀ t ∈ ts, t.span.Fits text) :
    (Flaw.ofTokens (Text.byteLength text) wanted ts).span.Fits text := by
  cases ts with
  | nil => exact Span.fits_end text
  | cons t ts =>
    have ht := hts t List.mem_cons_self
    rw [Flaw.ofTokens]
    split <;> exact ht

lemma readLiteral_within {word : Token} (hword : word.span.Fits text) (kind : Kind)
    (hts : ∀ t ∈ ts, t.span.Fits text) :
    Reading.Within text ts (fun o => o.span.Fits text)
      (readLiteral (Text.byteLength text) word kind ts) := by
  cases ts with
  | nil => exact ofTokens_span_fits _ hts
  | cons t ts =>
    rw [readLiteral]
    split
    · exact ⟨hword.cover (hts t List.mem_cons_self), List.subset_cons_self t ts⟩
    · exact ofTokens_span_fits _ hts

lemma readOperand_within (hts : ∀ t ∈ ts, t.span.Fits text) :
    Reading.Within text ts (fun o => o.span.Fits text)
      (readOperand (Text.byteLength text) ts) := by
  cases ts with
  | nil => exact ofTokens_span_fits _ hts
  | cons t ts =>
    obtain ⟨ht, hrest⟩ := List.forall_mem_cons.1 hts
    rw [readOperand]
    split
    · split
      · exact ht
      · exact ⟨ht, List.subset_cons_self t ts⟩
      · next kind _ _ =>
        have hlit := readLiteral_within ht kind hrest
        cases h : readLiteral (Text.byteLength text) t kind ts with
        | error flaw =>
          rw [h] at hlit
          exact hlit
        | ok p =>
          rw [h] at hlit
          exact ⟨hlit.1, List.subset_cons_of_subset t hlit.2⟩
    · exact ofTokens_span_fits _ hts

lemma readOperator_within (hts : ∀ t ∈ ts, t.span.Fits text) :
    Reading.Within text ts (fun op => op.span.Fits text)
      (readOperator (Text.byteLength text) ts) := by
  cases ts with
  | nil => exact ofTokens_span_fits _ hts
  | cons t ts =>
    rw [readOperator]
    split
    · exact ⟨hts t List.mem_cons_self, List.subset_cons_self t ts⟩
    · exact ofTokens_span_fits _ hts

lemma readComparison_within (hts : ∀ t ∈ ts, t.span.Fits text) :
    Reading.Within text ts (fun c => c.val.Fits text)
      (readComparison (Text.byteLength text) ts) := by
  unfold readComparison
  have hlhs := readOperand_within hts
  split
  · next flaw h =>
    rw [h] at hlhs
    exact hlhs
  · next lhs ts₁ h =>
    rw [h] at hlhs
    have hts₁ : ∀ t ∈ ts₁, t.span.Fits text := by
      intro t ht
      exact hts t (hlhs.2 ht)
    have hop := readOperator_within hts₁
    split
    · next flaw h =>
      rw [h] at hop
      exact hop
    · next op ts₂ h =>
      rw [h] at hop
      have hts₂ : ∀ t ∈ ts₂, t.span.Fits text := by
        intro t ht
        exact hts₁ t (hop.2 ht)
      have hrhs := readOperand_within hts₂
      split
      · next flaw h =>
        rw [h] at hrhs
        exact hrhs
      · next rhs ts₃ h =>
        rw [h] at hrhs
        exact ⟨⟨hop.1, hlhs.1, hrhs.1⟩, fun t ht => hlhs.2 (hop.2 (hrhs.2 ht))⟩

/-- **Scripts and flaws fit** where the tokens do. -/
theorem ofTokens_fits (hts : ∀ t ∈ ts, t.span.Fits text) :
    ReadFits text (ofTokens (Text.byteLength text) ts) := by
  fun_induction ofTokens (Text.byteLength text) ts with
  | case1 => simp [ReadFits]
  | case2 t rest hsep ih => exact ih (List.forall_mem_cons.1 hts).2
  | case3 t rest hsep flaw hread =>
    have hwithin := readComparison_within hts
    rw [hread] at hwithin
    exact hwithin
  | case4 t rest hsep c hread =>
    have hwithin := readComparison_within hts
    rw [hread] at hwithin
    simpa [ReadFits] using hwithin.1
  | case5 t rest hsep c s after hread hs ih =>
    have hwithin := readComparison_within hts
    rw [hread] at hwithin
    have hrest : ReadFits text (ofTokens (Text.byteLength text) (s :: after)) := by
      apply ih
      intro u hu
      exact hts u (hwithin.2 hu)
    cases hp : ofTokens (Text.byteLength text) (s :: after) with
    | error flaw =>
      rw [hp] at hrest
      exact hrest
    | ok script =>
      rw [hp] at hrest
      exact List.forall_mem_cons.2 ⟨hwithin.1, hrest⟩
  | case6 t rest hsep c s after hread hs =>
    have hwithin := readComparison_within hts
    rw [hread] at hwithin
    apply ofTokens_span_fits
    intro u hu
    exact hts u (hwithin.2 hu)

end Readers

/-! ## Texts -/

variable {text : String}

lemma read_fits (text : String) : ReadFits text.toList (read text) :=
  ofTokens_fits fun _ ht => (Token.standsIn_of_mem_scan ht).fits

/-- The comparisons of a script fit its text. -/
theorem fits_of_parse {script : Script} (h : parse text = .ok script) :
    ∀ c ∈ script, c.val.Fits text.toList := by
  have hread := read_fits text
  simp only [parse] at h
  cases hp : read text with
  | error flaw =>
    rw [hp] at h
    cases h
  | ok script' =>
    rw [hp] at h hread
    cases h
    exact hread

lemma fits_of_read_error {flaw : Flaw} (h : read text = .error flaw) :
    flaw.fault.Fits text.toList := by
  have hread := read_fits text
  rw [h] at hread
  exact ⟨flaw.span, rfl, hread⟩

/-- A text that is no script has a place where it goes wrong. -/
theorem fits_of_parse_error {fault : Fault} (h : parse text = .error fault) :
    fault.Fits text.toList := by
  simp only [parse] at h
  cases hp : read text with
  | error flaw =>
    rw [hp] at h
    cases h
    exact fits_of_read_error hp
  | ok script =>
    rw [hp] at h
    cases h

end Script
end LooseEquality
