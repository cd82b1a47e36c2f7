import LooseEquality.Proofs.Text.Slice

/-!
# The pieces of a text

A text is split into pieces at its line feeds.  A place in the text is in one of the pieces, and a
place right before a line feed is at the end of the piece that the line feed ends.

* `Text.pieces` — the pieces of a text, as `List.splitOn` gives them;
* `Text.startOf` — where a piece starts;
* `Text.Holds` — a place is in a piece.

**`holds_append`** says which piece a place is in, told by what stands before it and behind it, and
`holds_unique` that it is in no other.
-/

namespace LooseEquality
namespace Text

/-- The text between the line feeds. -/
def pieces (text : List Char) : List (List Char) := text.splitOn '\n'

/-- The offset at which the piece with index `k` starts: each piece before it takes its own length
and a line feed. -/
def startOf : List (List Char) → Nat → Nat
  | p :: ps, k + 1 => byteLength p + 1 + startOf ps k
  | _, _ => 0

/-- The place at an offset is in the piece with index `k`. -/
structure Holds (text : List Char) (k : Nat) (piece : List Char) (n : Nat) : Prop where
  getElem?_eq : (pieces text)[k]? = some piece
  start_le : startOf (pieces text) k ≤ n
  le_stop : n ≤ startOf (pieces text) k + byteLength piece

@[simp] lemma startOf_zero (ps : List (List Char)) : startOf ps 0 = 0 := by
  cases ps <;> rfl

@[simp] lemma startOf_cons_succ (p : List Char) (ps : List (List Char)) (k : Nat) :
    startOf (p :: ps) (k + 1) = byteLength p + 1 + startOf ps k := rfl

/-- What stands before a piece are the pieces in front of it and a line feed for each. -/
lemma startOf_eq_byteLength_flatten {ps : List (List Char)} {k : Nat} (hk : k ≤ ps.length) :
    startOf ps k = byteLength (ps.take k).flatten + k := by
  induction ps generalizing k with
  | nil =>
    obtain rfl : k = 0 := Nat.le_zero.1 hk
    rfl
  | cons p ps ih =>
    cases k with
    | zero => rfl
    | succ k =>
      have hrest := ih (Nat.le_of_succ_le_succ hk)
      rw [startOf_cons_succ, hrest, List.take_succ_cons, List.flatten_cons, byteLength_append]
      omega

/-! ## Splitting -/

lemma pieces_append_newline (front cs : List Char) :
    pieces (front ++ '\n' :: cs) = pieces front ++ pieces cs :=
  List.splitOnP_append_cons front cs rfl

lemma pieces_cons {c : Char} (hc : c ≠ '\n') (cs : List Char) :
    pieces (c :: cs) = (pieces cs).modifyHead (c :: ·) := by
  rw [pieces, List.splitOn, List.splitOnP_cons_eq_if_modifyHead, if_neg (by simpa using hc)]
  rfl

/-- The first piece is the first line. -/
lemma exists_pieces_eq_cons (cs : List Char) : ∃ ps, pieces cs = firstLine cs :: ps := by
  induction cs with
  | nil => exact ⟨[], rfl⟩
  | cons c cs ih =>
    by_cases hc : c = '\n'
    · subst hc
      exact ⟨pieces cs, pieces_append_newline [] cs⟩
    · obtain ⟨ps, hps⟩ := ih
      refine ⟨ps, ?_⟩
      rw [pieces_cons hc, hps, firstLine_cons hc]
      rfl

/-- There is one piece more than there are line feeds. -/
lemma length_pieces (cs : List Char) : (pieces cs).length = lineFeeds cs + 1 := by
  induction cs with
  | nil => rfl
  | cons c cs ih =>
    by_cases hc : c = '\n'
    · subst hc
      have hsplit := congrArg List.length (pieces_append_newline [] cs)
      simp only [List.nil_append, List.length_append, ih] at hsplit
      rw [hsplit, lineFeeds_cons_newline]
      simp [pieces, Nat.add_comm]
    · rw [pieces_cons hc, List.length_modifyHead, ih]
      simp [lineFeeds, hc]

/-- All pieces together, each with a line feed, are a line feed longer than the text. -/
lemma startOf_length_pieces (cs : List Char) :
    startOf (pieces cs) (pieces cs).length = byteLength cs + 1 := by
  induction cs with
  | nil => rfl
  | cons c cs ih =>
    by_cases hc : c = '\n'
    · subst hc
      have hsplit : pieces ('\n' :: cs) = [] :: pieces cs := pieces_append_newline [] cs
      rw [hsplit, List.length_cons, startOf_cons_succ, ih, byteLength_cons, utf8Size_newline,
        byteLength_nil]
      omega
    · obtain ⟨ps, hps⟩ := exists_pieces_eq_cons cs
      rw [pieces_cons hc, hps, byteLength_cons]
      rw [hps] at ih
      simp only [List.modifyHead_cons, List.length_cons, startOf_cons_succ, byteLength_cons] at ih ⊢
      omega

/-! ## The piece around a place -/

lemma lastLine_of_not_mem {cs : List Char} (h : '\n' ∉ cs) : lastLine cs = cs := by
  have hall : ∀ c ∈ cs.reverse, isInLine c = true := by
    intro c hc
    rw [isInLine, bne_iff_ne]
    rintro rfl
    exact h (List.mem_reverse.1 hc)
  rw [lastLine, List.takeWhile_eq_self_iff.2 hall, List.reverse_reverse]

/-- A text is its last line, or has it behind a line feed. -/
lemma eq_lastLine_or_exists_append (cs : List Char) :
    ('\n' ∉ cs ∧ lastLine cs = cs) ∨ ∃ front, cs = front ++ '\n' :: lastLine cs := by
  by_cases h : '\n' ∈ cs
  · obtain ⟨back, front, hsplit, hback⟩ := List.eq_append_cons_of_mem (List.mem_reverse.2 h)
    have hcs : cs = front.reverse ++ '\n' :: back.reverse := by
      rw [← List.reverse_reverse cs, hsplit]
      simp
    have hlast : lastLine cs = back.reverse := by
      rw [hcs, lastLine_append_newline]
      exact lastLine_of_not_mem (mt List.mem_reverse.1 hback)
    exact .inr ⟨front.reverse, by rw [hlast, ← hcs]⟩
  · exact .inl ⟨h, lastLine_of_not_mem h⟩

/-- What stands in front of the last line are whole pieces, and the line itself is the start of the
next one. -/
lemma exists_pieces_append (before rest : List Char) :
    ∃ ps qs, pieces (before ++ rest) = ps ++ (lastLine before ++ firstLine rest) :: qs ∧
      ps.length = lineFeeds before ∧
      startOf ps ps.length + byteLength (lastLine before) = byteLength before := by
  obtain ⟨qs, hqs⟩ := exists_pieces_eq_cons (lastLine before ++ rest)
  rw [firstLine_append (lineFeed_not_mem_lastLine before)] at hqs
  rcases eq_lastLine_or_exists_append before with ⟨hnot, hlast⟩ | ⟨front, hfront⟩
  · rw [hlast] at hqs ⊢
    exact ⟨[], qs, hqs, (List.count_eq_zero.2 hnot).symm, Nat.zero_add _⟩
  · have htext : before ++ rest = front ++ '\n' :: (lastLine before ++ rest) := by
      rw [← List.cons_append, ← List.append_assoc, ← hfront]
    refine ⟨pieces front, qs, by rw [htext, pieces_append_newline, hqs], ?_, ?_⟩
    · have hnone : lineFeeds (lastLine before) = 0 :=
        List.count_eq_zero.2 (lineFeed_not_mem_lastLine before)
      have hcount := congrArg lineFeeds hfront
      rw [lineFeeds_append, lineFeeds_cons_newline, hnone] at hcount
      rw [length_pieces, hcount]
    · have hlength := congrArg byteLength hfront
      rw [byteLength_append, byteLength_cons, utf8Size_newline] at hlength
      rw [startOf_length_pieces]
      omega

lemma startOf_append (ps qs : List (List Char)) :
    startOf (ps ++ qs) ps.length = startOf ps ps.length := by
  induction ps with
  | nil => simp
  | cons p ps ih =>
    rw [List.cons_append, List.length_cons, startOf_cons_succ, startOf_cons_succ, ih]

/-- Where the piece around a place starts. -/
lemma startOf_pieces_append (before rest : List Char) :
    startOf (pieces (before ++ rest)) (lineFeeds before) + byteLength (lastLine before)
      = byteLength before := by
  obtain ⟨ps, qs, hsplit, hlength, hstart⟩ := exists_pieces_append before rest
  rw [hsplit, ← hlength, startOf_append, hstart]

/-- **The piece that a place is in** has as many pieces in front of it as there are line feeds
before the place. -/
theorem holds_append (before rest : List Char) :
    Holds (before ++ rest) (lineFeeds before) (lastLine before ++ firstLine rest)
      (byteLength before) := by
  have hstart := startOf_pieces_append before rest
  obtain ⟨ps, qs, hsplit, hlength, -⟩ := exists_pieces_append before rest
  refine ⟨?_, by omega, ?_⟩
  · rw [hsplit, ← hlength, List.getElem?_append_right le_rfl, Nat.sub_self]
    rfl
  · rw [byteLength_append]
    omega

/-- A piece ends before the next one starts. -/
lemma startOf_lt {ps : List (List Char)} {p : List Char} {k k' : Nat} (hp : ps[k]? = some p)
    (hlt : k < k') : startOf ps k + byteLength p < startOf ps k' := by
  induction ps generalizing k k' with
  | nil => simp at hp
  | cons q ps ih =>
    obtain ⟨j, rfl⟩ : ∃ j, k' = j + 1 := ⟨k' - 1, by omega⟩
    cases k with
    | zero =>
      obtain rfl : q = p := by simpa using hp
      rw [startOf_zero, startOf_cons_succ]
      omega
    | succ k =>
      have hrest : startOf ps k + byteLength p < startOf ps j :=
        ih (by simpa using hp) (Nat.lt_of_succ_lt_succ hlt)
      rw [startOf_cons_succ, startOf_cons_succ]
      omega

/-- A place in a piece is no further than the end of the text. -/
lemma startOf_add_le_byteLength {text p : List Char} {k n : Nat} (hp : (pieces text)[k]? = some p)
    (hn : n ≤ byteLength p) : startOf (pieces text) k + n ≤ byteLength text := by
  obtain ⟨hk, -⟩ := List.getElem?_eq_some_iff.1 hp
  have hstart := startOf_lt hp hk
  have hall := startOf_length_pieces text
  omega

/-- Places come in the order of their pieces, and within a piece in that of what they have in front
of them there. -/
lemma startOf_add_lt_iff {ps : List (List Char)} {p p' : List Char} {k k' n n' : Nat}
    (hp : ps[k]? = some p) (hp' : ps[k']? = some p') (hn : n ≤ byteLength p)
    (hn' : n' ≤ byteLength p') :
    startOf ps k + n < startOf ps k' + n' ↔ k < k' ∨ k = k' ∧ n < n' := by
  rcases Nat.lt_trichotomy k k' with hlt | rfl | hlt
  · have hstart := startOf_lt hp hlt
    omega
  · omega
  · have hstart := startOf_lt hp' hlt
    omega

/-- **A place is in one piece only.** -/
theorem holds_unique {text p p' : List Char} {k k' n : Nat} (h : Holds text k p n)
    (h' : Holds text k' p' n) : k = k' ∧ p = p' := by
  have hk : k = k' := by
    rcases Nat.lt_trichotomy k k' with hlt | heq | hlt
    · have hstart := startOf_lt h.getElem?_eq hlt
      have hle := h.le_stop
      have hge := h'.start_le
      omega
    · exact heq
    · have hstart := startOf_lt h'.getElem?_eq hlt
      have hle := h'.le_stop
      have hge := h.start_le
      omega
  subst hk
  exact ⟨rfl, Option.some.inj (h.getElem?_eq.symm.trans h'.getElem?_eq)⟩

end Text
end LooseEquality
