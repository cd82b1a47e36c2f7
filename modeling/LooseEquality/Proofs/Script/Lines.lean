import LooseEquality.Proofs.Script.Grammar
import LooseEquality.Proofs.Token.Lines

/-!
# Scripts of several lines

What a line feed between two texts does to reading them.  The reader takes the tokens of the first
text as if nothing followed, except where it looks for a token and finds none.  There it now finds
the line feed, which is never what it looks for, so a flaw at the end of the text turns into a flaw
at the line feed and every other flaw stays what it is (`Flaw.before`).  Behind the first text the
reader is where it would start on the second.

* `readComparison_append` and the lemmas before it — each reader on tokens with a separator behind;
* **`ofTokens_append`** — whole scripts;
* `Flaw.IsAt` — where flaws are: at the end of the text, or at one of its tokens.

**`parse_append_newline`** is the result for texts: scripts are put together, and faults are those
of the first text that has one.
-/

namespace LooseEquality
namespace Script

/-! ## A separator behind the tokens -/

/-- What becomes of a flaw when a token that is not wanted follows: if the flaw was that the text
ends, it is now at that token. -/
def Flaw.before (t : Token) (flaw : Flaw) : Flaw :=
  match flaw.cause with
  | .misplaced wanted none => ⟨.misplaced wanted (some t.form), t.span⟩
  | _ => flaw

lemma Flaw.before_of_ne {flaw : Flaw} (h : ∀ wanted, flaw.cause ≠ .misplaced wanted none)
    (t : Token) : flaw.before t = flaw := by
  unfold Flaw.before
  split
  · next wanted hcause => exact absurd hcause (h wanted)
  · rfl

/-- What a reader gives when more tokens follow those it was given. -/
def Reading.before {α : Type} (t : Token) (us : List Token) : Reading α → Reading α
  | .ok (a, rest) => .ok (a, rest ++ t :: us)
  | .error flaw => .error (flaw.before t)

section Readers

variable {t : Token} (ht : t.isSeparator = true) (stop stop' : Nat) (ts us : List Token)

include ht

lemma flaw_ofTokens_append (wanted : Wanted) :
    Flaw.ofTokens stop' wanted (ts ++ t :: us) = (Flaw.ofTokens stop wanted ts).before t := by
  cases ts with
  | nil =>
    have hform : t.form ≠ .unterminated := by
      rcases isSeparator_iff.1 ht with h | h <;> simp [h]
    simp [Flaw.ofTokens, Flaw.before, hform]
  | cons u ts =>
    simp only [List.cons_append, Flaw.ofTokens]
    split <;> rfl

lemma readLiteral_append (word : Token) (kind : Kind) :
    readLiteral stop' word kind (ts ++ t :: us)
      = (readLiteral stop word kind ts).before t us := by
  have hflaw := flaw_ofTokens_append ht stop stop' ts us (.literal kind)
  cases ts with
  | nil =>
    have hlit : t.literal? = none := by
      rcases isSeparator_iff.1 ht with h | h <;> simp [Token.literal?, h]
    rw [List.nil_append] at hflaw
    simp only [List.nil_append, readLiteral, hlit, hflaw]
    rfl
  | cons u ts =>
    rw [List.cons_append] at hflaw
    simp only [List.cons_append, readLiteral, hflaw]
    cases u.literal? <;> rfl

lemma readOperand_append :
    readOperand stop' (ts ++ t :: us) = (readOperand stop ts).before t us := by
  have hflaw := flaw_ofTokens_append ht stop stop' ts us .kind
  cases ts with
  | nil =>
    have hword : t.form ≠ .word := by
      rcases isSeparator_iff.1 ht with h | h <;> simp [h]
    rw [List.nil_append] at hflaw
    simp only [List.nil_append, readOperand, hword, if_false, hflaw]
    rfl
  | cons u ts =>
    rw [List.cons_append] at hflaw
    simp only [List.cons_append, readOperand, hflaw, readLiteral_append ht stop stop']
    split
    · split <;> rfl
    · rfl

lemma readOperator_append :
    readOperator stop' (ts ++ t :: us) = (readOperator stop ts).before t us := by
  have hflaw := flaw_ofTokens_append ht stop stop' ts us .operator
  cases ts with
  | nil =>
    rw [List.nil_append] at hflaw
    simp only [List.nil_append, readOperator, hflaw]
    rcases isSeparator_iff.1 ht with h | h <;> rw [h] <;> rfl
  | cons u ts =>
    rw [List.cons_append] at hflaw
    simp only [List.cons_append, readOperator, hflaw]
    cases u.form <;> rfl

lemma readComparison_append :
    readComparison stop' (ts ++ t :: us) = (readComparison stop ts).before t us := by
  rw [readComparison, readComparison, readOperand_append ht stop stop']
  cases readOperand stop ts with
  | error flaw => rfl
  | ok read =>
    obtain ⟨lhs, ts₁⟩ := read
    simp only [Reading.before, readOperator_append ht stop stop']
    cases readOperator stop ts₁ with
    | error flaw => rfl
    | ok read =>
      obtain ⟨op, ts₂⟩ := read
      simp only [Reading.before, readOperand_append ht stop stop']
      cases readOperand stop ts₂ with
      | error flaw => rfl
      | ok read => rfl

lemma ofTokens_cons_append {u : Token} (hu : ¬ u.isSeparator = true) :
    ofTokens stop' (u :: ts ++ t :: us)
      = afterComparison stop' ((readComparison stop (u :: ts)).before t us) := by
  rw [← readComparison_append ht stop stop', List.cons_append, ofTokens_cons _ hu]

/-- **Reading goes on behind a separator** as if it started there, and a flaw in front of it is
found all the same. -/
theorem ofTokens_append :
    ofTokens stop' (ts ++ t :: us) =
      match ofTokens stop ts with
      | .ok p => (ofTokens stop' us).map (p ++ ·)
      | .error flaw => .error (flaw.before t) := by
  fun_induction ofTokens stop ts with
  | case1 =>
    rw [List.nil_append, ofTokens_separator _ ht]
    cases ofTokens stop' us <;> rfl
  | case2 u rest hsep ih =>
    rw [List.cons_append, ofTokens_separator _ hsep]
    exact ih
  | case3 u rest hsep flaw hread =>
    rw [ofTokens_cons_append ht stop stop' rest us hsep, hread]
    rfl
  | case4 u rest hsep c hread =>
    rw [ofTokens_cons_append ht stop stop' rest us hsep, hread]
    simp only [Reading.before, List.nil_append, afterComparison, ht, if_true,
      ofTokens_separator _ ht]
    rfl
  | case5 u rest hsep c s after hread hs ih =>
    rw [ofTokens_cons_append ht stop stop' rest us hsep, hread]
    rw [List.cons_append] at ih
    simp only [Reading.before, List.cons_append, afterComparison, hs, if_true, ih]
    cases ofTokens stop (s :: after) with
    | error flaw => rfl
    | ok p => cases ofTokens stop' us <;> rfl
  | case6 u rest hsep c s after hread hs =>
    have hflaw := flaw_ofTokens_append ht stop stop' (s :: after) us .endOfComparison
    rw [List.cons_append] at hflaw
    rw [ofTokens_cons_append ht stop stop' rest us hsep, hread]
    simp only [Reading.before, List.cons_append, afterComparison, hs, hflaw]
    rfl

end Readers

/-! ## Where flaws are -/

/-- A flaw is that the text ends at `stop`, or it is at one of the tokens. -/
def Flaw.IsAt (stop : Nat) (ts : List Token) (flaw : Flaw) : Prop :=
  (∃ wanted, flaw = ⟨.misplaced wanted none, ⟨stop, 0⟩⟩) ∨
    ((∃ t ∈ ts, flaw.span = t.span) ∧ ∀ wanted, flaw.cause ≠ .misplaced wanted none)

section Flaws

variable {stop : Nat} {ts rest : List Token} {flaw : Flaw}

lemma Flaw.IsAt.of_suffix (h : flaw.IsAt stop rest) (hrest : rest <:+ ts) : flaw.IsAt stop ts := by
  rcases h with h | ⟨⟨t, ht, hspan⟩, hcause⟩
  · exact .inl h
  · exact .inr ⟨⟨t, hrest.mem ht, hspan⟩, hcause⟩

lemma isAt_flaw_ofTokens (stop : Nat) (wanted : Wanted) (ts : List Token) :
    (Flaw.ofTokens stop wanted ts).IsAt stop ts := by
  cases ts with
  | nil => exact .inl ⟨wanted, rfl⟩
  | cons t ts =>
    rw [Flaw.ofTokens]
    split
    · exact .inr ⟨⟨t, List.mem_cons_self, rfl⟩, by simp⟩
    · exact .inr ⟨⟨t, List.mem_cons_self, rfl⟩, by simp⟩

lemma suffix_readOperand {o : Spanned Operand} (h : readOperand stop ts = .ok (o, rest)) :
    rest <:+ ts := by
  unfold readOperand readLiteral at h
  grind [List.suffix_cons, List.suffix_cons_iff]

lemma suffix_readOperator {op : Spanned Operator} (h : readOperator stop ts = .ok (op, rest)) :
    rest <:+ ts := by
  unfold readOperator at h
  grind [List.suffix_cons]

lemma isAt_readOperand (h : readOperand stop ts = .error flaw) : flaw.IsAt stop ts := by
  cases ts with
  | nil =>
    cases h
    exact isAt_flaw_ofTokens stop .kind []
  | cons t ts =>
    simp only [readOperand] at h
    split at h
    · split at h
      · cases h
        exact .inr ⟨⟨t, List.mem_cons_self, rfl⟩, by simp⟩
      · cases h
      · next kind _ _ =>
        cases ts with
        | nil =>
          cases h
          exact (isAt_flaw_ofTokens stop (.literal kind) []).of_suffix (List.nil_suffix)
        | cons u ts =>
          simp only [readLiteral] at h
          split at h
          · cases h
          · cases h
            exact (isAt_flaw_ofTokens stop (.literal kind) (u :: ts)).of_suffix
              (List.suffix_cons t (u :: ts))
    · cases h
      exact isAt_flaw_ofTokens stop .kind (t :: ts)

lemma isAt_readOperator (h : readOperator stop ts = .error flaw) : flaw.IsAt stop ts := by
  cases ts with
  | nil =>
    cases h
    exact isAt_flaw_ofTokens stop .operator []
  | cons t ts =>
    simp only [readOperator] at h
    split at h
    · cases h
    · cases h
      exact isAt_flaw_ofTokens stop .operator (t :: ts)

lemma suffix_readComparison {c : Spanned Comparison}
    (h : readComparison stop ts = .ok (c, rest)) : rest <:+ ts := by
  simp only [readComparison] at h
  split at h
  · cases h
  · next lhs ts₁ hlhs =>
    split at h
    · cases h
    · next op ts₂ hop =>
      split at h
      · cases h
      · next rhs ts₃ hrhs =>
        cases h
        exact (suffix_readOperand hrhs).trans ((suffix_readOperator hop).trans
          (suffix_readOperand hlhs))

lemma isAt_readComparison (h : readComparison stop ts = .error flaw) : flaw.IsAt stop ts := by
  simp only [readComparison] at h
  split at h
  · next flaw' hlhs =>
    cases h
    exact isAt_readOperand hlhs
  · next lhs ts₁ hlhs =>
    have hts₁ := suffix_readOperand hlhs
    split at h
    · next flaw' hop =>
      cases h
      exact (isAt_readOperator hop).of_suffix hts₁
    · next op ts₂ hop =>
      have hts₂ := (suffix_readOperator hop).trans hts₁
      split at h
      · next flaw' hrhs =>
        cases h
        exact (isAt_readOperand hrhs).of_suffix hts₂
      · cases h

/-- **A flaw is at a token or at the end of the text.** -/
theorem isAt_of_ofTokens (h : ofTokens stop ts = .error flaw) : flaw.IsAt stop ts := by
  fun_induction ofTokens stop ts with
  | case1 => cases h
  | case2 t rest hsep ih => exact (ih h).of_suffix (List.suffix_cons t rest)
  | case3 t rest hsep flaw' hread =>
    cases h
    exact isAt_readComparison hread
  | case4 t rest hsep c hread => cases h
  | case5 t rest hsep c s after hread hs ih =>
    have hsuffix := suffix_readComparison hread
    cases hrest : ofTokens stop (s :: after) with
    | error flaw' =>
      rw [hrest] at h
      cases h
      exact (ih hrest).of_suffix hsuffix
    | ok p =>
      rw [hrest] at h
      cases h
  | case6 t rest hsep c s after hread hs =>
    cases h
    exact (isAt_flaw_ofTokens stop .endOfComparison (s :: after)).of_suffix
      (suffix_readComparison hread)

end Flaws

/-! ## Texts -/

lemma toList_append_newline (a b : String) :
    (a ++ "\n" ++ b).toList = a.toList ++ '\n' :: b.toList := by
  simp [String.toList_append]

/-- **Reading two texts with a line feed between them.** -/
theorem read_append_newline (a b : String) :
    read (a ++ "\n" ++ b) =
      match read a, read b with
      | .ok p, .ok q => .ok (p ++ q.shift (Text.byteLength a.toList + 1))
      | .ok _, .error flaw => .error (flaw.shift (Text.byteLength a.toList + 1))
      | .error flaw, _ => .error (flaw.before (Token.newlineAt (Text.byteLength a.toList))) := by
  have hstop : Text.byteLength (a ++ "\n" ++ b).toList
      = Text.byteLength b.toList + (Text.byteLength a.toList + 1) := by
    rw [toList_append_newline, Text.byteLength_append, Text.byteLength_cons,
      Text.utf8Size_newline]
    omega
  rw [read, Token.scan_append_newline, hstop,
    ofTokens_append (Token.isSeparator_newlineAt _) (Text.byteLength a.toList), ofTokens_shift]
  simp only [read]
  cases ofTokens (Text.byteLength a.toList) (Token.scan a) with
  | error flaw => rfl
  | ok p => cases ofTokens (Text.byteLength b.toList) (Token.scan b) <;> rfl

/-- The end of a text is told from its tokens by the length of the span: a token has a text. -/
lemma span_ne_of_mem_scan {text : String} {t : Token} (ht : t ∈ Token.scan text) (stop : Nat) :
    t.span ≠ ⟨stop, 0⟩ := by
  have hlt := (Token.stop_of_standsIn (Token.standsIn_of_mem_scan ht)).1
  intro h
  have hoffset : t.offset = stop := congrArg Span.offset h
  rw [h, hoffset] at hlt
  exact absurd hlt (Nat.lt_irrefl stop)

lemma text_misplaced_none (wanted : Wanted) :
    (Flaw.Cause.misplaced wanted none).text = "Expected " ++ wanted.text ++ ", got EOF" := by
  have hfound : ", got " ++ "EOF" = ", got EOF" := rfl
  rw [← hfound, ← String.append_assoc]
  rfl

lemma text_misplaced_newline (wanted : Wanted) :
    (Flaw.Cause.misplaced wanted (some .newline)).text
      = "Expected " ++ wanted.text ++ ", got Newline" := by
  have hfound : ", got " ++ "Newline" = ", got Newline" := rfl
  rw [← hfound, ← String.append_assoc]
  rfl

/-- **Parsing two texts with a line feed between them.**  The tokens are those of the two texts with
the line feed between.  Two scripts give one, with the spans of the second moved; the fault of the
second text, if the first is a script, moves likewise; and the fault of the first text stays what
it is, unless it is that the text ends, which then is a fault at the line feed. -/
theorem parse_append_newline (a b : String) :
    Token.scan (a ++ "\n" ++ b)
        = Token.scan a ++ ⟨.newline, Text.byteLength a.toList, "\n"⟩ ::
            (Token.scan b).map (Token.shift (Text.byteLength a.toList + 1)) ∧
      match parse a, parse b with
      | .ok p, .ok q =>
        parse (a ++ "\n" ++ b) = .ok (p ++ q.shift (Text.byteLength a.toList + 1))
      | .ok _, .error fault => ∃ detail span, fault = .malformed detail span ∧
          parse (a ++ "\n" ++ b)
            = .error (.malformed detail (span.shift (Text.byteLength a.toList + 1)))
      | .error fault, _ => ∃ detail span, fault = .malformed detail span ∧
          ((span ≠ ⟨Text.byteLength a.toList, 0⟩ ∧ parse (a ++ "\n" ++ b) = .error fault) ∨
            ∃ wanted, span = ⟨Text.byteLength a.toList, 0⟩ ∧
              detail = "Expected " ++ wanted ++ ", got EOF" ∧
              parse (a ++ "\n" ++ b) = .error (.malformed ("Expected " ++ wanted ++ ", got Newline")
                ⟨Text.byteLength a.toList, 1⟩)) := by
  refine ⟨Token.scan_append_newline a b, ?_⟩
  have hread := read_append_newline a b
  simp only [parse, hread]
  cases ha : read a with
  | ok p =>
    cases read b with
    | ok q => rfl
    | error flaw => exact ⟨flaw.cause.text, flaw.span, rfl, rfl⟩
  | error flaw =>
    refine ⟨flaw.cause.text, flaw.span, rfl, ?_⟩
    rcases isAt_of_ofTokens ha with ⟨wanted, rfl⟩ | ⟨⟨t, ht, hspan⟩, hcause⟩
    · refine .inr ⟨wanted.text, rfl, text_misplaced_none wanted, ?_⟩
      rw [← text_misplaced_newline, ← Token.span_newlineAt]
      rfl
    · refine .inl ⟨?_, ?_⟩
      · rw [hspan]
        exact span_ne_of_mem_scan ht _
      · show Except.error (flaw.before _).fault = Except.error flaw.fault
        rw [Flaw.before_of_ne hcause]

/-! A comparison in front of another, in front of one that is cut short, and itself cut short. -/

example :
    parse "null == array a" = .ok
      [⟨⟨⟨.equal, ⟨5, 2⟩⟩, ⟨⟨.null, none⟩, ⟨0, 4⟩⟩, ⟨⟨.array, some "a"⟩, ⟨8, 7⟩⟩⟩, ⟨0, 15⟩⟩] ∧
    parse "real 1 != null" = .ok
      [⟨⟨⟨.notEqual, ⟨7, 2⟩⟩, ⟨⟨.real, some "1"⟩, ⟨0, 6⟩⟩, ⟨⟨.null, none⟩, ⟨10, 4⟩⟩⟩, ⟨0, 14⟩⟩] ∧
    parse ("null == array a" ++ "\n" ++ "real 1 != null") = .ok
      [⟨⟨⟨.equal, ⟨5, 2⟩⟩, ⟨⟨.null, none⟩, ⟨0, 4⟩⟩, ⟨⟨.array, some "a"⟩, ⟨8, 7⟩⟩⟩, ⟨0, 15⟩⟩,
       ⟨⟨⟨.notEqual, ⟨23, 2⟩⟩, ⟨⟨.real, some "1"⟩, ⟨16, 6⟩⟩, ⟨⟨.null, none⟩, ⟨26, 4⟩⟩⟩,
        ⟨16, 14⟩⟩] := by
  decide +kernel

example :
    parse "null null" = .error (.malformed "Expected `==` or `!=`, got Word" ⟨5, 4⟩) ∧
    parse ("null == array a" ++ "\n" ++ "null null")
      = .error (.malformed "Expected `==` or `!=`, got Word" ⟨21, 4⟩) ∧
    parse "null == array" = .error (.malformed "Expected array literal, got EOF" ⟨13, 0⟩) ∧
    parse ("null == array" ++ "\n" ++ "null null")
      = .error (.malformed "Expected array literal, got Newline" ⟨13, 1⟩) := by
  decide +kernel

end Script
end LooseEquality
