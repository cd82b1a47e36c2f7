import LooseEquality.Proofs.Script.Grammar
import LooseEquality.Proofs.Token.Stretch

/-!
# Scripts in print

A script can be written out again, with all literals in quotes:

    boolean "yes" == integer "1"
    null != array "i"

A literal can stand in quotes if there is no quote and no line feed in it, and a script is
`Printable` if that holds of all its literals, with `null` and only `null` going without one.

* `Script.print` — the text of a script, with a line feed or a semicolon between comparisons;
* `Script.content` — what a script says, without the spans that tell where.

**`parse_print`** has both directions: a printable script is read back from its text, and a script
that was read from any text is printable.  So printable scripts are all there are, and it makes no
difference whether a literal is a word or in quotes.

The text is scanned piece by piece.  Each piece is a text of its form, whatever follows it; a word
only needs something that ends it (`EndsWords`).
-/

namespace LooseEquality

/-! ## Printing -/

/-- An operand that can be written with its literal in quotes. -/
def Operand.Printable (o : Operand) : Prop :=
  (o.kind = .null ∧ o.literal = none) ∨
    (o.kind ≠ .null ∧ ∃ text, o.literal = some text ∧ '"' ∉ text.toList ∧ '\n' ∉ text.toList)

/-- An operand with its literal in quotes. -/
def Operand.print (o : Operand) : String :=
  match o.literal with
  | none => o.kind.name
  | some text => o.kind.name ++ " " ++ ("\"" ++ text ++ "\"")

def Comparison.Printable (c : Comparison) : Prop := c.lhs.val.Printable ∧ c.rhs.val.Printable

def Comparison.print (c : Comparison) : String :=
  c.lhs.val.print ++ " " ++ c.op.val.symbol ++ " " ++ c.rhs.val.print

/-- What a comparison says, wherever it stands. -/
def Comparison.content (c : Comparison) : Operator × Operand × Operand :=
  (c.op.val, c.lhs.val, c.rhs.val)

namespace Script

/-- What can stand between two comparisons. -/
inductive Joint where
  | newline
  | semicolon

namespace Joint

def char : Joint → Char
  | newline => '\n'
  | semicolon => ';'

def form : Joint → Token.Form
  | newline => .newline
  | semicolon => .semicolon

end Joint

def Printable (script : Script) : Prop := ∀ c ∈ script, c.val.Printable

def content (script : Script) : List (Operator × Operand × Operand) :=
  script.map fun c => c.val.content

/-- Comparisons with a joint in front of each: `joints i` in front of the one with index `i`. -/
def printTail (joints : Nat → Joint) : Script → String
  | [] => ""
  | c :: cs =>
    String.singleton (joints 0).char ++ c.val.print ++ printTail (fun i => joints (i + 1)) cs

/-- The text of a script, with joints between its comparisons. -/
def print (joints : Nat → Joint) : Script → String
  | [] => ""
  | c :: cs => c.val.print ++ printTail joints cs

end Script

/-! ## Scanning piece by piece -/

namespace Token

/-- Letters make words, if something follows that ends them. -/
lemma reads_word_of_forall {text after : List Char}
    (htext : ∀ c ∈ text, Text.isBlank c = false ∧ c ∉ [';', '"', '=', '!'])
    (hafter : EndsWords after) : Form.word.Reads text after := by
  refine ⟨fun front c back hsplit => ?_, hafter⟩
  obtain ⟨hblank, hmem⟩ := htext c (by simp [hsplit])
  simp only [List.mem_cons, not_or] at hmem
  rintro (h | h | h | ⟨h | h, -⟩)
  · rw [hblank] at h
    cases h
  · exact hmem.1 h
  · exact hmem.2.1 h
  · exact hmem.2.2.1 h
  · exact hmem.2.2.2.1 h

lemma reads_kind_name (k : Kind) {after : List Char} (hafter : EndsWords after) :
    Form.word.Reads k.name.toList after := by
  refine reads_word_of_forall ?_ hafter
  cases k <;> simp [Kind.name] <;> decide

lemma scanFrom_space (offset : Nat) (after : List Char) :
    scanFrom offset (' ' :: after) = scanFrom (offset + 1) after :=
  scanFrom_gap (by decide) offset after

lemma endsWords_space (after : List Char) : EndsWords (' ' :: after) :=
  endsWords_cons_iff.2 (.inl (by decide))

end Token

namespace Script

lemma endsWords_joint (joint : Joint) (after : List Char) :
    Token.EndsWords (joint.char :: after) := by
  cases joint with
  | newline => exact Token.endsWords_cons_iff.2 (.inl (by decide))
  | semicolon => exact Token.endsWords_cons_iff.2 (.inr (.inl rfl))

/-! ## Printed scripts are read back -/

/-- A printed operand is scanned as the tokens of one. -/
lemma scanFrom_print_operand {o : Operand} (ho : o.Printable) (offset : Nat) {after : List Char}
    (hafter : Token.EndsWords after) :
    ∃ d : OperandTree, d.operand.val = o ∧
      Token.scanFrom offset (o.print.toList ++ after)
        = d.tokens ++ Token.scanFrom (offset + Text.byteLength o.print.toList) after := by
  obtain ⟨kind, literal⟩ := o
  rcases ho with ⟨hkind, hlit⟩ | ⟨hkind, text, hlit, hquote, hfeed⟩
  · obtain rfl : kind = .null := hkind
    obtain rfl : literal = none := hlit
    refine ⟨.null ⟨.word, offset, Kind.null.name⟩ ⟨rfl, rfl⟩, rfl, ?_⟩
    exact Token.scanFrom_string (Token.reads_kind_name .null hafter) (kind_name_ne_nil .null) offset
  · obtain rfl : literal = some text := hlit
    have hquoted : Token.Form.quoted.Reads ("\"" ++ text ++ "\"").toList after := by
      refine ⟨text.toList, quoted_toList text, fun c hc => ⟨?_, ?_⟩⟩
      · rintro rfl
        exact hquote hc
      · rintro rfl
        exact hfeed hc
    refine ⟨.literal kind hkind ⟨.word, offset, kind.name⟩ ⟨rfl, rfl⟩
      ⟨.quoted, offset + Text.byteLength kind.name.toList + 1, "\"" ++ text ++ "\""⟩ text
      (.inr ⟨rfl, rfl⟩), rfl, ?_⟩
    have hprint : (Operand.print ⟨kind, some text⟩).toList
        = kind.name.toList ++ ' ' :: ("\"" ++ text ++ "\"").toList := by
      simp [Operand.print, String.toList_append]
    have hname := Token.reads_kind_name kind
      (Token.endsWords_space (("\"" ++ text ++ "\"").toList ++ after))
    rw [hprint, List.append_assoc, List.cons_append,
      Token.scanFrom_string hname (kind_name_ne_nil kind), Token.scanFrom_space,
      Token.scanFrom_string hquoted (by simp), Text.byteLength_append, Text.byteLength_cons,
      Text.utf8Size_space]
    simp only [OperandTree.tokens, List.cons_append, List.nil_append, Nat.add_assoc]

/-- A printed comparison is scanned as the tokens of one. -/
lemma scanFrom_print_comparison {c : Comparison} (hc : c.Printable) (offset : Nat)
    {after : List Char} (hafter : Token.EndsWords after) :
    ∃ d : ComparisonTree, d.comparison.val.content = c.content ∧
      Token.scanFrom offset (c.print.toList ++ after)
        = d.tokens ++ Token.scanFrom (offset + Text.byteLength c.print.toList) after := by
  have hprint : c.print.toList = c.lhs.val.print.toList ++ ' ' ::
      (c.op.val.symbol.toList ++ ' ' :: c.rhs.val.print.toList) := by
    simp [Comparison.print, String.toList_append]
  have hsign : Token.Form.Reads (.operator c.op.val) c.op.val.symbol.toList
      (' ' :: (c.rhs.val.print.toList ++ after)) := rfl
  obtain ⟨lhs, hlhs, hscanl⟩ := scanFrom_print_operand hc.1 offset (Token.endsWords_space
    (c.op.val.symbol.toList ++ ' ' :: (c.rhs.val.print.toList ++ after)))
  obtain ⟨rhs, hrhs, hscanr⟩ := scanFrom_print_operand hc.2
    (offset + Text.byteLength c.lhs.val.print.toList + 1
      + Text.byteLength c.op.val.symbol.toList + 1) hafter
  refine ⟨⟨lhs, c.op.val, ⟨.operator c.op.val,
    offset + Text.byteLength c.lhs.val.print.toList + 1, c.op.val.symbol⟩, rfl, rhs⟩, ?_, ?_⟩
  · simp only [ComparisonTree.comparison, Comparison.content, hlhs, hrhs]
  · rw [hprint]
    simp only [List.append_assoc, List.cons_append]
    rw [hscanl, Token.scanFrom_space, Token.scanFrom_string hsign (symbol_ne_nil _),
      Token.scanFrom_space, hscanr]
    simp only [ComparisonTree.tokens, List.append_assoc, List.cons_append, Text.byteLength_append,
      Text.byteLength_cons, Text.utf8Size_space, Nat.add_assoc]

lemma endsWords_printTail (joints : Nat → Joint) (script : Script) :
    Token.EndsWords (printTail joints script).toList := by
  cases script with
  | nil =>
    intro c rest h
    simp [printTail] at h
  | cons c cs =>
    simp only [printTail, String.toList_append, String.toList_singleton, List.singleton_append]
    exact endsWords_joint _ _

/-- The token of a joint is a separator. -/
def Joint.separator (joint : Joint) (offset : Nat) : Separator where
  val := ⟨joint.form, offset, String.ofList [joint.char]⟩
  property := by cases joint <;> simp [form]

lemma scanFrom_joint (joint : Joint) (offset : Nat) (after : List Char) :
    Token.scanFrom offset (joint.char :: after)
      = (joint.separator offset).val :: Token.scanFrom (offset + 1) after := by
  have hreads : joint.form.Reads [joint.char] after := by
    cases joint <;> rfl
  have hsize : joint.char.utf8Size = 1 := by
    cases joint <;> rfl
  have hscan := Token.scanFrom_reads hreads (List.cons_ne_nil _ _) offset
  rw [Text.byteLength_cons, hsize] at hscan
  exact hscan

lemma scanFrom_printTail {script : Script} (h : script.Printable) (joints : Nat → Joint)
    (offset : Nat) :
    ∃ more : List NextTree, more.map (fun d => d.comparison.comparison.val.content) = script.content
      ∧ Token.scanFrom offset (printTail joints script).toList = Tree.tailTokens more [] := by
  induction script generalizing joints offset with
  | nil => exact ⟨[], rfl, Token.scanFrom_nil offset⟩
  | cons c cs ih =>
    obtain ⟨hc, hcs⟩ := List.forall_mem_cons.1 h
    have htail := endsWords_printTail (fun i => joints (i + 1)) cs
    obtain ⟨d, hd, hscan⟩ := scanFrom_print_comparison hc (offset + 1) htail
    obtain ⟨more, hmore, hscan'⟩ := ih hcs (fun i => joints (i + 1))
      (offset + 1 + Text.byteLength c.val.print.toList)
    refine ⟨⟨(joints 0).separator offset, [], d⟩ :: more, ?_, ?_⟩
    · simp only [List.map_cons, hd, hmore, content]
    · simp only [printTail, String.toList_append, String.toList_singleton, List.singleton_append]
      rw [List.cons_append, scanFrom_joint, hscan, hscan', tailTokens_cons]
      rfl

/-- A printed script is read back. -/
lemma parse_print_of_printable {script : Script} (h : script.Printable) (joints : Nat → Joint) :
    ∃ q, parse (print joints script) = .ok q ∧ q.content = script.content := by
  obtain ⟨d, hd, hcontent⟩ : ∃ d : Tree, d.tokens = Token.scan (print joints script) ∧
      d.script.content = script.content := by
    cases script with
    | nil => exact ⟨.blank [], (Token.scanFrom_nil 0).symm, rfl⟩
    | cons c cs =>
      obtain ⟨hc, hcs⟩ := List.forall_mem_cons.1 h
      obtain ⟨d, hd, hscan⟩ := scanFrom_print_comparison hc 0 (endsWords_printTail joints cs)
      obtain ⟨more, hmore, hscan'⟩ := scanFrom_printTail hcs joints
        (0 + Text.byteLength c.val.print.toList)
      refine ⟨.filled [] d more [], ?_, ?_⟩
      · rw [Token.scan, print, String.toList_append, hscan, hscan']
        rfl
      · simp only [content, List.map_cons, Tree.script, List.map_map, hd]
        exact congrArg _ hmore
  exact ⟨d.script, parse_of_tokens_eq hd, hcontent⟩

/-! ## What is read can be printed -/

/-- The literal that a token of a text spells can stand in quotes. -/
lemma not_mem_of_spells {text lit : String} {t : Token} (ht : t ∈ Token.scan text)
    (h : t.Spells lit) : '"' ∉ lit.toList ∧ '\n' ∉ lit.toList := by
  obtain ⟨_, _, _, _, _, hreads⟩ := Token.standsIn_of_mem_scan ht
  rcases h with ⟨hform, rfl⟩ | ⟨hform, htext⟩
  · rw [hform] at hreads
    constructor
    · intro hmem
      exact (Token.bare_of_reads hreads hmem).2 rfl
    · exact hreads.lineFeed_not_mem (by simp)
  · rw [hform] at hreads
    obtain ⟨body, hbody, hclear⟩ := hreads
    rw [htext, quoted_toList] at hbody
    rw [List.append_cancel_right (List.cons.inj hbody).2]
    exact ⟨fun hmem => (hclear _ hmem).1 rfl, fun hmem => (hclear _ hmem).2 rfl⟩

section Trees

variable {text : String}

lemma OperandTree.printable {d : OperandTree} (h : ∀ t ∈ d.tokens, t ∈ Token.scan text) :
    d.operand.val.Printable := by
  cases d with
  | null word hword => exact .inl ⟨rfl, rfl⟩
  | literal kind hkind word hword lit spelled hlit =>
    exact .inr ⟨hkind, spelled, rfl, not_mem_of_spells (h lit (by simp [tokens])) hlit⟩

lemma ComparisonTree.printable {d : ComparisonTree} (h : ∀ t ∈ d.tokens, t ∈ Token.scan text) :
    d.comparison.val.Printable := by
  constructor
  · exact OperandTree.printable fun t ht => h t (by simp [tokens, ht])
  · exact OperandTree.printable fun t ht => h t (by simp [tokens, ht])

lemma Tree.printable {d : Tree} (h : d.tokens = Token.scan text) : d.script.Printable := by
  have hmem : ∀ t ∈ d.tokens, t ∈ Token.scan text := fun t ht => h ▸ ht
  cases d with
  | blank separators =>
    intro c hc
    simp [script] at hc
  | filled leading first more trailing =>
    refine List.forall_mem_cons.2 ⟨?_, fun c hc => ?_⟩
    · exact ComparisonTree.printable fun t ht => hmem t (by simp [tokens, ht])
    · obtain ⟨next, hnext, rfl⟩ := List.mem_map.1 hc
      refine ComparisonTree.printable fun t ht => hmem t ?_
      have htail : t ∈ tailTokens more trailing :=
        List.mem_append_left _ (List.mem_flatMap.2 ⟨next, hnext, by simp [NextTree.tokens, ht]⟩)
      simp [tokens, htail]

end Trees

/-- What is read from a text is printable. -/
lemma printable_of_parse {text : String} {script : Script} (h : parse text = .ok script) :
    script.Printable := by
  obtain ⟨d, hd, rfl⟩ := exists_tree_of_parse h
  exact d.printable hd

/-- **Printing and reading.**  A printable script is read back from its text, whatever stands
between the comparisons.  A script that was read from any text is printable, and so reading it back
from its own text changes no more than the spans. -/
theorem parse_print :
    (∀ script : Script, script.Printable → ∀ joints,
      ∃ q, parse (print joints script) = .ok q ∧ q.content = script.content) ∧
    (∀ text p, parse text = .ok p → p.Printable ∧
      ∀ joints, ∃ q, parse (print joints p) = .ok q ∧ q.content = p.content) := by
  constructor
  · intro script h joints
    exact parse_print_of_printable h joints
  · intro text p h
    have hp := printable_of_parse h
    exact ⟨hp, fun joints => parse_print_of_printable hp joints⟩

/-! A literal that says a script of its own and an empty one, and an operand without. -/

def awkward : Script :=
  let here : Span := ⟨0, 0⟩
  let null : Spanned Operand := ⟨⟨.null, none⟩, here⟩
  [⟨⟨⟨.notEqual, here⟩, ⟨⟨.string, some "null == array é; \\ != "⟩, here⟩, null⟩, here⟩,
    ⟨⟨⟨.equal, here⟩, null, ⟨⟨.array, some ""⟩, here⟩⟩, here⟩]

lemma printable_awkward : awkward.Printable := by
  simp [Printable, awkward, Comparison.Printable, Operand.Printable]

theorem parse_print_awkward :
    awkward.Printable ∧
      ∃ q, parse (print (fun _ => .semicolon) awkward) = .ok q ∧ q.content = awkward.content :=
  ⟨printable_awkward, parse_print.1 awkward printable_awkward _⟩

end Script
end LooseEquality
