/-!
# Bytes of a text

Positions in a text are counted in bytes of its UTF-8 encoding, while the text itself is a list of
characters.  `Text.byteLength` is the position behind a text, `Text.splitAtByte?` cuts a text at a
position, and `Text.offsetOf?` is the position of one text in another.

A position may fall inside a character or behind the end of the text, and then there is nothing to
cut.  **`splitAtByte?_eq_some_iff`** says when there is: the cut yields exactly the two parts whose
first is as long as was asked for.
-/

namespace LooseEquality
namespace Text

/-- The number of bytes in the UTF-8 encoding of a text. -/
def byteLength : List Char → Nat
  | [] => 0
  | c :: cs => c.utf8Size + byteLength cs

@[simp] theorem byteLength_nil : byteLength [] = 0 := rfl

@[simp] theorem byteLength_cons (c : Char) (cs : List Char) :
    byteLength (c :: cs) = c.utf8Size + byteLength cs := rfl

@[simp] theorem byteLength_append (cs ds : List Char) :
    byteLength (cs ++ ds) = byteLength cs + byteLength ds := by
  induction cs with
  | nil => simp
  | cons c cs ih => simp [ih, Nat.add_assoc]

/-- The part of a text before a position and the part from there on, if the position is not behind
the end and not inside a character. -/
def splitAtByte? : Nat → List Char → Option (List Char × List Char)
  | 0, cs => some ([], cs)
  | _ + 1, [] => none
  | n + 1, c :: cs =>
    if c.utf8Size ≤ n + 1 then
      (splitAtByte? (n + 1 - c.utf8Size) cs).map fun parts => (c :: parts.1, parts.2)
    else none

/-- **A cut is a way to write the text as two parts, the first of the given length.** -/
theorem splitAtByte?_eq_some_iff {n : Nat} {cs before after : List Char} :
    splitAtByte? n cs = some (before, after) ↔ cs = before ++ after ∧ byteLength before = n := by
  fun_induction splitAtByte? n cs generalizing before after with
  | case1 cs =>
    constructor
    · rintro ⟨⟩
      simp
    · rintro ⟨rfl, h⟩
      cases before with
      | nil => rfl
      | cons c cs =>
        have := c.utf8Size_pos
        simp at h
        omega
  | case2 n =>
    simp only [reduceCtorEq, List.nil_eq, List.append_eq_nil_iff, false_iff, not_and, and_imp]
    rintro rfl rfl
    simp
  | case3 n c cs hc ih =>
    simp only [Option.map_eq_some_iff, Prod.exists, Prod.mk.injEq]
    constructor
    · rintro ⟨front, back, h, rfl, rfl⟩
      obtain ⟨rfl, hn⟩ := ih.1 h
      refine ⟨rfl, ?_⟩
      simp only [byteLength_cons]
      omega
    · rintro ⟨h, hn⟩
      cases before with
      | nil => simp at hn
      | cons d front =>
        simp only [List.cons_append, List.cons.injEq] at h
        obtain ⟨rfl, rfl⟩ := h
        refine ⟨front, after, ih.2 ⟨rfl, ?_⟩, rfl, rfl⟩
        simp only [byteLength_cons] at hn
        omega
  | case4 n c cs hc =>
    simp only [reduceCtorEq, false_iff, not_and]
    rintro h hn
    cases before with
    | nil => simp at hn
    | cons d front =>
      simp only [List.cons_append, List.cons.injEq] at h
      obtain ⟨rfl, rfl⟩ := h
      simp only [byteLength_cons] at hn
      omega

/-- The position at which a text first contains another, if it does. -/
def offsetOf? (sought : List Char) : List Char → Option Nat
  | [] => if sought.isEmpty then some 0 else none
  | c :: cs =>
    if sought.isPrefixOf (c :: cs) then some 0
    else (offsetOf? sought cs).map (c.utf8Size + ·)

end Text
end LooseEquality
