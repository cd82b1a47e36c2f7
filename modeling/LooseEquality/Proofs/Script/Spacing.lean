import LooseEquality.Proofs.Script.Alike
import LooseEquality.Proofs.Token.Spacing

/-!
# Spacing of scripts

How the tokens of a script are set apart does not change what the script says.  That includes the
question whether it is a script at all: if tokens that touch are no script, then blanks between them
do not make them one.

* `Script.normalize` — a text with single spaces between its tokens.

**`parse_respace`** says this for all spacings and all texts without an open string.  It rests on
`Token.scan_respace` for the tokens, and on `ofTokens_alike` for the script that is read from them.
-/

namespace LooseEquality
namespace Script

/-- A text with single spaces between its tokens. -/
def normalize (text : String) : String := Token.Spacing.single.respace text

/-- Tokens that are the same, up to their places, are read alike. -/
lemma alike_of_content_eq {ts us : List Token} (h : ts.map Token.content = us.map Token.content) :
    List.Forall₂ (Token.Alike fun _ _ => True) ts us := by
  rw [← List.forall₂_eq_eq_eq, List.forall₂_map_left_iff, List.forall₂_map_right_iff] at h
  refine h.imp fun t u htu => ?_
  exact .same (congrArg Prod.fst htu) (congrArg Prod.snd htu) trivial

/-- Texts with the same tokens spell scripts that say the same. -/
lemma exists_parse_of_content_eq {text text' : String} {p : Script}
    (h : (Token.scan text).map Token.content = (Token.scan text').map Token.content)
    (hp : parse text = .ok p) : ∃ q, parse text' = .ok q ∧ q.content = p.content := by
  obtain ⟨q, hq, halike⟩ := parse_alike Span.respects_true (alike_of_content_eq h) hp
  exact ⟨q, hq, halike.content_eq.symm⟩

/-- **Spacing does not matter.**  When the tokens of a text are set apart in any way, they are
scanned again, and what they say as a script is what they said before: there is a script in one text
just if there is one in the other.  So to normalize a text twice is to do it once. -/
theorem parse_respace {text : String} (hclosed : Token.Closed (Token.scan text)) :
    (∀ σ : Token.Spacing,
      (Token.scan (σ.respace text)).map Token.content = (Token.scan text).map Token.content ∧
      ∀ said, (∃ p, parse text = .ok p ∧ p.content = said) ↔
        ∃ q, parse (σ.respace text) = .ok q ∧ q.content = said) ∧
    normalize (normalize text) = normalize text := by
  refine ⟨fun σ => ?_, Token.respace_respace hclosed .single .single⟩
  have hscan := Token.scan_respace hclosed σ
  refine ⟨hscan, fun said => ⟨?_, ?_⟩⟩
  · rintro ⟨p, hp, rfl⟩
    exact exists_parse_of_content_eq hscan.symm hp
  · rintro ⟨q, hq, rfl⟩
    exact exists_parse_of_content_eq hscan hq

/-- Tokens that touch wherever they can, with a word that ends in `=!`. -/
def touching : String := "string\"x\"==array a=!;null!=null"

/-- Wide blanks and carriage returns, in front and behind as well. -/
def wideSpacing : Token.Spacing where
  gap _ := ['\u3000', '\r']
  behind := ['\t']
  isGap_gap _ := List.forall_mem_cons.2 ⟨by decide, List.forall_mem_singleton.2 (by decide)⟩
  isGap_behind := List.forall_mem_singleton.2 (by decide)
  gap_ne_nil _ := by simp

theorem parse_respace_touching :
    Token.Closed (Token.scan touching) ∧
      normalize touching = "string \"x\" == array a=! ; null != null" ∧
      normalize (normalize touching) = normalize touching ∧
      ∃ q, parse (wideSpacing.respace touching) = .ok q ∧
        q.content = [(.equal, ⟨.string, some "x"⟩, ⟨.array, some "a=!"⟩),
          (.notEqual, ⟨.null, none⟩, ⟨.null, none⟩)] := by
  have hclosed : Token.Closed (Token.scan touching) := by
    unfold Token.Closed
    decide +kernel
  have hparse : ∃ p, parse touching = .ok p ∧
      p.content = [(.equal, ⟨.string, some "x"⟩, ⟨.array, some "a=!"⟩),
        (.notEqual, ⟨.null, none⟩, ⟨.null, none⟩)] := by
    refine ⟨[⟨⟨⟨.equal, ⟨9, 2⟩⟩, ⟨⟨.string, some "x"⟩, ⟨0, 9⟩⟩, ⟨⟨.array, some "a=!"⟩, ⟨11, 9⟩⟩⟩,
        ⟨0, 20⟩⟩,
       ⟨⟨⟨.notEqual, ⟨25, 2⟩⟩, ⟨⟨.null, none⟩, ⟨21, 4⟩⟩, ⟨⟨.null, none⟩, ⟨27, 4⟩⟩⟩,
        ⟨21, 10⟩⟩], ?_, rfl⟩
    decide +kernel
  obtain ⟨hspacing, hnormal⟩ := parse_respace hclosed
  exact ⟨hclosed, by decide +kernel, hnormal, ((hspacing wideSpacing).2 _).1 hparse⟩

end Script
end LooseEquality
