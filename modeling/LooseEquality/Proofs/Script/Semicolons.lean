import LooseEquality.Proofs.Console.Reply
import LooseEquality.Proofs.Script.Alike
import LooseEquality.Proofs.Token.Spacing

/-!
# Semicolons for line feeds

A script of several lines can be put into one, with a semicolon for each line feed.  It is the same
script then, and as both characters have one byte, everything in it stays where it is.

* `Script.withSemicolons` — a text with semicolons for some of its line feeds;
* `Script.oneLine` — a text with semicolons for all of them.

**`parse_withSemicolons`** has the precise statement.  It is one about scripts, and not about texts
in general: a string that is left open ends at a line feed, and would go on past a semicolon.  In
a script there is none, and then the token in front of a line feed is the same in front of
a semicolon (`Token.Form.Reads.reline`).
-/

namespace LooseEquality
namespace Script

/-- A text with semicolons for those line feeds that are chosen, by the number of characters in
front of them. -/
def withSemicolons (chosen : Nat → Bool) (text : String) : String :=
  String.ofList (text.toList.mapIdx fun i c => if c = '\n' ∧ chosen i = true then ';' else c)

/-- A text in one line. -/
def oneLine (text : String) : String := withSemicolons (fun _ => true) text

end Script

namespace Token

/-- The second text is the first with semicolons for some line feeds. -/
def Relined (cs ds : List Char) : Prop :=
  List.Forall₂ (fun c d => d = c ∨ (c = '\n' ∧ d = ';')) cs ds

namespace Relined

variable {cs ds : List Char}

lemma mapIdx (chosen : Nat → Bool) (cs : List Char) :
    Relined cs (cs.mapIdx fun i c => if c = '\n' ∧ chosen i = true then ';' else c) := by
  induction cs generalizing chosen with
  | nil => exact .nil
  | cons c cs ih =>
    rw [List.mapIdx_cons]
    refine .cons ?_ (ih fun i => chosen (i + 1))
    split
    · next h => exact .inr ⟨h.1, rfl⟩
    · exact .inl rfl

/-- Where there is no line feed, nothing has changed. -/
lemma exists_append (front : List Char) {back : List Char} (h : Relined (front ++ back) ds)
    (hfront : '\n' ∉ front) : ∃ back', ds = front ++ back' ∧ Relined back back' := by
  induction front generalizing ds with
  | nil => exact ⟨ds, rfl, h⟩
  | cons c front ih =>
    simp only [List.mem_cons, not_or] at hfront
    cases h with
    | @cons _ d _ ds hhead htail =>
      obtain rfl : d = c := hhead.resolve_right fun hc => hfront.1 hc.1.symm
      obtain ⟨back', rfl, hback⟩ := ih htail hfront.2
      exact ⟨back', rfl, hback⟩

/-- No `=` has come in. -/
lemma exists_equals {rest : List Char} (h : Relined cs ('=' :: rest)) :
    ∃ rest', cs = '=' :: rest' := by
  cases h with
  | @cons c _ cs _ hhead htail =>
    rcases hhead with rfl | ⟨-, hd⟩
    · exact ⟨cs, rfl⟩
    · exact absurd hd (by decide)

/-- What ended a word still does. -/
lemma endsWords (h : Relined cs ds) (hends : EndsWords cs) : EndsWords ds := by
  rintro d ds rfl
  cases h with
  | @cons c _ cs _ hhead htail =>
    rcases hhead with rfl | ⟨-, rfl⟩
    · rcases hends d cs rfl with hd | hd | hd | ⟨hd, rest, rfl⟩
      · exact .inl hd
      · exact .inr (.inl hd)
      · exact .inr (.inr (.inl hd))
      · obtain ⟨rest', rfl, -⟩ := exists_append ['='] htail (by decide)
        exact .inr (.inr (.inr ⟨hd, rest', rfl⟩))
    · exact .inr (.inl rfl)

end Relined

/-- **A token stays what it is** when line feeds behind it become semicolons. -/
theorem Form.Reads.reline {form : Form} {text after after' : List Char}
    (h : form.Reads text after) (hform : form ≠ .unterminated) (hrel : Relined after after') :
    form.Reads text after' := by
  refine h.exchange hform ?_ ?_
  · rintro rfl
    exact hrel.endsWords h.2
  · rintro rest rfl
    exact hrel.exists_equals

/-- **The tokens of a text whose line feeds become semicolons** are those it had, in the same
places, up to the separators. -/
theorem alike_scanFrom {n : Nat} {cs ds : List Char} (hclosed : Closed (scanFrom n cs))
    (hrel : Relined cs ds) : List.Forall₂ (Alike Eq) (scanFrom n cs) (scanFrom n ds) := by
  fun_induction scanFrom n cs generalizing ds with
  | case1 n =>
    cases hrel
    rw [scanFrom_nil]
    exact .nil
  | case2 n c cs hgap ih =>
    have hfeed : '\n' ∉ [c] := by simpa using (isGap_iff.1 hgap).2.symm
    obtain ⟨back, rfl, hback⟩ := Relined.exists_append [c] hrel hfeed
    rw [List.singleton_append, scanFrom_gap hgap]
    exact ih hclosed hback
  | case3 n c cs hgap form tail =>
    rename_i ih
    obtain ⟨hreads, hsplit⟩ := reads_first (Bool.eq_false_iff.2 hgap) cs
    obtain ⟨hform, hclosed⟩ := List.forall_mem_cons.1 hclosed
    by_cases hnewline : form = .newline
    · -- a line feed is a separator, and so is what stands for it
      have htext : form.Reads (c :: tail) (cs.drop tail.length) := hreads
      rw [hnewline] at htext
      obtain ⟨rfl, htail⟩ := List.cons.inj htext
      rw [htail] at ih hclosed ⊢
      cases hrel with
      | @cons _ d _ ds hhead hrel =>
        obtain ⟨joint, rfl⟩ : ∃ joint : Script.Joint, d = joint.char := by
          rcases hhead with rfl | ⟨-, rfl⟩
          · exact ⟨.newline, rfl⟩
          · exact ⟨.semicolon, rfl⟩
        have hjoint := Script.isSeparator_iff.2 (joint.separator n).property
        rw [Script.scanFrom_joint]
        refine .cons (.separators ?_ hjoint) (ih hclosed hrel)
        exact Script.isSeparator_iff.2 (.inl hnewline)
    · have hfeed := hreads.lineFeed_not_mem hnewline
      rw [← hsplit] at hrel
      obtain ⟨back, rfl, hback⟩ := Relined.exists_append (c :: tail) hrel hfeed
      rw [scanFrom_reads (hreads.reline hform hback) (List.cons_ne_nil _ _)]
      exact .cons (.same rfl rfl rfl) (ih hclosed hback)

end Token

namespace Script

variable {text : String} {p : Script}

lemma closed_of_parse (h : parse text = .ok p) : Token.Closed (Token.scan text) := by
  obtain ⟨d, hd, -⟩ := exists_tree_of_parse h
  intro t ht
  rw [← hd] at ht
  exact Tree.form_ne_unterminated ht

lemma parse_withSemicolons_of_parse (h : parse text = .ok p) (chosen : Nat → Bool) :
    parse (withSemicolons chosen text) = .ok p := by
  have hrel := Token.Relined.mapIdx chosen text.toList
  have hscan : List.Forall₂ (Token.Alike Eq) (Token.scan text)
      (Token.scan (withSemicolons chosen text)) := by
    rw [Token.scan, Token.scan, withSemicolons, String.toList_ofList]
    exact Token.alike_scanFrom (closed_of_parse h) hrel
  obtain ⟨q, hq, halike⟩ := parse_alike Span.respects_eq hscan h
  rw [hq, halike.eq]

lemma lineFeed_not_mem_oneLine (text : String) : '\n' ∉ (oneLine text).toList := by
  rw [oneLine, withSemicolons, String.toList_ofList]
  intro hmem
  obtain ⟨i, hi, heq⟩ := List.mem_mapIdx.1 hmem
  split at heq
  · exact absurd heq (by decide)
  · next hkept => exact hkept ⟨heq, rfl⟩

/-- **A script with semicolons for line feeds** is the same script, spans included, and so nothing
changes about what becomes of it in a session.  In particular, all of a script can be put into one
line, and given as an argument it has the outcomes that it has in a file. -/
theorem parse_withSemicolons (h : parse text = .ok p) :
    (∀ chosen, parse (withSemicolons chosen text) = .ok p ∧
      ∀ s : Session, s.run (withSemicolons chosen text) = s.run text ∧
        s.runAll (withSemicolons chosen text) = s.runAll text) ∧
    '\n' ∉ (oneLine text).toList ∧
    ∀ truthiness path width, (Reply.evaluate truthiness (oneLine text) width).out
      = (Reply.run truthiness path (.ok text.toUTF8) width).out := by
  have hrun : ∀ chosen (s : Session), s.run (withSemicolons chosen text) = s.run text := by
    intro chosen s
    rw [Session.run, parse_withSemicolons_of_parse h chosen, Session.run, h]
  refine ⟨fun chosen => ⟨parse_withSemicolons_of_parse h chosen, fun s => ⟨hrun chosen s, ?_⟩⟩,
    lineFeed_not_mem_oneLine text, fun truthiness path width => ?_⟩
  · rw [Session.runAll, parse_withSemicolons_of_parse h chosen, Session.runAll, h]
  · simp only [Reply.evaluate, Reply.run, Conversation.fromUTF8?_toUTF8, Reply.out_ofScript]
    rw [oneLine, hrun]

/-- Two comparisons with line feeds around them: one has a semicolon of its own in a string, and one
ends in a `!`. -/
def manyLines : String := "\nnull != string \"a;b\"\n\nboolean no==array x!\n"

/-- The script that is written there. -/
def manyLinesScript : Script :=
  [⟨⟨⟨.notEqual, ⟨6, 2⟩⟩, ⟨⟨.null, none⟩, ⟨1, 4⟩⟩, ⟨⟨.string, some "a;b"⟩, ⟨9, 12⟩⟩⟩, ⟨1, 20⟩⟩,
   ⟨⟨⟨.equal, ⟨33, 2⟩⟩, ⟨⟨.boolean, some "no"⟩, ⟨23, 10⟩⟩, ⟨⟨.array, some "x!"⟩, ⟨35, 8⟩⟩⟩,
    ⟨23, 20⟩⟩]

theorem parse_withSemicolons_manyLines :
    parse manyLines = .ok manyLinesScript ∧
      parse (withSemicolons (fun i => i == 22) manyLines) = .ok manyLinesScript ∧
      oneLine manyLines = ";null != string \"a;b\";;boolean no==array x!;" ∧
      parse ";null != string \"a;b\";;boolean no==array x!;" = .ok manyLinesScript ∧
      (Reply.evaluate .always (oneLine manyLines) Text.width).out
        = "true (null, string)\nfalse (boolean, array)\n" ∧
      (Reply.evaluate .always (oneLine manyLines) Text.width).out
        = (Reply.run .always "script" (.ok manyLines.toUTF8) Text.width).out := by
  have hparse : parse manyLines = .ok manyLinesScript := by decide +kernel
  have hline : oneLine manyLines = ";null != string \"a;b\";;boolean no==array x!;" := by
    decide +kernel
  obtain ⟨hsome, -, hreply⟩ := parse_withSemicolons hparse
  exact ⟨hparse, (hsome _).1, hline, hline ▸ (hsome fun _ => true).1, by decide +kernel,
    hreply _ _ _⟩

end Script
end LooseEquality
