import LooseEquality.Proofs.Token.Stretch

/-!
# Spacing

Tokens can touch: in `string"a"!=null` there are four of them.  They can as well be set apart, and
then they are the same tokens in other places.

* `Token.Spacing` — blanks to set tokens apart with;
* `Spacing.spread` — the texts of tokens with these blanks around them;
* `Spacing.respace` — a script with its tokens set apart.

**`scan_respace`** says that a script has the same tokens when it is respaced, up to their places.
There must be no string without its closing quote in it, because that would take up the blank that
is put behind it.  All other tokens stay what they are when a blank follows: a word is ended by it,
and a character that was no operator because no `=` followed does not become one
(`Form.Reads.before_blank`).
-/

namespace LooseEquality
namespace Token

/-- What a token is, wherever it stands. -/
def content (t : Token) : Form × String := (t.form, t.text)

/-- All strings among the tokens are closed. -/
def Closed (ts : List Token) : Prop := ∀ t ∈ ts, t.form ≠ .unterminated

/-- Blanks to set tokens apart with: `gap i` goes in front of the token with index `i`, and `behind`
goes behind the last one.  Blanks between two tokens must not be empty. -/
structure Spacing where
  gap : Nat → List Char
  behind : List Char
  isGap_gap : ∀ i, ∀ c ∈ gap i, isGap c = true
  isGap_behind : ∀ c ∈ behind, isGap c = true
  gap_ne_nil : ∀ i, gap (i + 1) ≠ []

namespace Spacing

/-- A single space between two tokens. -/
def single : Spacing where
  gap i := if i = 0 then [] else [' ']
  behind := []
  isGap_gap i c hc := by
    split at hc
    · cases hc
    · obtain rfl := List.mem_singleton.1 hc
      decide
  isGap_behind c hc := by cases hc
  gap_ne_nil i := by simp

/-- The blanks that remain when the first token has its own. -/
def tail (σ : Spacing) : Spacing where
  gap i := σ.gap (i + 1)
  behind := σ.behind
  isGap_gap i := σ.isGap_gap (i + 1)
  isGap_behind := σ.isGap_behind
  gap_ne_nil i := σ.gap_ne_nil (i + 1)

/-- The texts of tokens, set apart. -/
def spread (σ : Spacing) : List Token → List Char
  | [] => σ.behind
  | t :: ts => σ.gap 0 ++ (t.text.toList ++ σ.tail.spread ts)

/-- A script with its tokens set apart. -/
def respace (σ : Spacing) (script : String) : String := String.ofList (σ.spread (scan script))

/-- The texts are all that matters. -/
lemma spread_congr (σ : Spacing) {ts us : List Token} (h : ts.map content = us.map content) :
    σ.spread ts = σ.spread us := by
  induction ts generalizing σ us with
  | nil =>
    obtain rfl : us = [] := List.map_eq_nil_iff.1 h.symm
    rfl
  | cons t ts ih =>
    cases us with
    | nil => cases h
    | cons u us =>
      obtain ⟨hhead, htail⟩ := List.cons.inj h
      have htext : t.text = u.text := congrArg Prod.snd hhead
      rw [spread, spread, htext, ih σ.tail htail]

end Spacing

/-! ## Blanks behind tokens -/

/-- Nothing follows, or a blank. -/
def BlankFirst (after : List Char) : Prop :=
  ∀ c rest, after = c :: rest → Text.isBlank c = true

lemma BlankFirst.endsWords {after : List Char} (h : BlankFirst after) : EndsWords after := by
  rintro c rest rfl
  exact .inl (h c rest rfl)

lemma BlankFirst.ne_equals {after : List Char} (h : BlankFirst after) (rest : List Char) :
    after ≠ '=' :: rest := by
  rintro rfl
  exact absurd (h '=' rest rfl) (by decide)

lemma blankFirst_nil : BlankFirst [] := by
  intro c rest h
  cases h

lemma blankFirst_space (after : List Char) : BlankFirst (' ' :: after) := by
  intro c rest h
  obtain ⟨rfl, -⟩ := List.cons.inj h
  decide

/-- **A token stays what it is before a blank.** -/
theorem Form.Reads.before_blank {form : Form} {text after after' : List Char}
    (h : form.Reads text after) (hform : form ≠ .unterminated) (hblank : BlankFirst after') :
    form.Reads text after' :=
  h.exchange hform (fun _ => hblank.endsWords) fun rest heq => absurd heq (hblank.ne_equals rest)

lemma blankFirst_of_isGap {gap after : List Char} (hgap : ∀ c ∈ gap, isGap c = true)
    (hafter : gap = [] → BlankFirst after) : BlankFirst (gap ++ after) := by
  cases gap with
  | nil => exact hafter rfl
  | cons c gap =>
    intro d rest heq
    obtain ⟨rfl, -⟩ := List.cons.inj heq
    exact isBlank_of_isGap (hgap _ List.mem_cons_self)

/-- Behind a token that is set apart, a blank follows. -/
lemma Spacing.blankFirst_spread_tail (σ : Spacing) (ts : List Token) :
    BlankFirst (σ.tail.spread ts) := by
  cases ts with
  | nil =>
    have hbehind := blankFirst_of_isGap σ.isGap_behind fun _ => blankFirst_nil
    rwa [List.append_nil] at hbehind
  | cons t ts => exact blankFirst_of_isGap (σ.isGap_gap 1) fun h => absurd h (σ.gap_ne_nil 0)

/-! ## Tokens that are set apart -/

/-- Tokens that are set apart are scanned again. -/
lemma map_content_scanFrom_spread {n : Nat} {cs : List Char} {ts : List Token}
    (h : scanFrom n cs = ts) (hclosed : Closed ts) (σ : Spacing) (offset : Nat) :
    (scanFrom offset (σ.spread ts)).map content = ts.map content := by
  induction ts generalizing n cs σ offset with
  | nil =>
    have hscan := scanFrom_gaps σ.isGap_behind offset []
    rw [List.append_nil, scanFrom_nil] at hscan
    rw [Spacing.spread, hscan]
  | cons t ts ih =>
    obtain ⟨gap, rest, hleads, hrest⟩ := exists_leads h
    obtain ⟨ht, hts⟩ := List.forall_mem_cons.1 hclosed
    have hreads := hleads.reads.before_blank ht (σ.blankFirst_spread_tail ts)
    rw [Spacing.spread, scanFrom_gaps (σ.isGap_gap 0), scanFrom_string hreads hleads.ne_nil,
      List.map_cons, List.map_cons, ih hrest hts]
    rfl

/-- **A script that is respaced has the same tokens**, up to their places. -/
theorem scan_respace {script : String} (hclosed : Closed (scan script)) (σ : Spacing) :
    (scan (σ.respace script)).map content = (scan script).map content := by
  rw [scan, Spacing.respace, String.toList_ofList]
  exact map_content_scanFrom_spread rfl hclosed σ 0

/-- Respacing makes up for any respacing before. -/
lemma respace_respace {script : String} (hclosed : Closed (scan script)) (σ τ : Spacing) :
    τ.respace (σ.respace script) = τ.respace script := by
  rw [Spacing.respace, τ.spread_congr (scan_respace hclosed σ), ← Spacing.respace]

end Token
end LooseEquality
