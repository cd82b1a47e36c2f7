import LooseEquality.Text.CellClass

/-!
# Display width

How many terminal cells a text takes up, as the program has it.  This is only what the program runs
with: everything that is laid out in cells takes the measure as a parameter, and what is proved of
it holds for all measures, or for all that count an ASCII text by its characters as this one does
(`width_of_ascii`).

Mostly the width of a text is the sum over its characters, but some characters merge with what
follows them:

* a selector behind a character chooses whether it looks like text or like an emoji, and with that
  whether it takes up one cell or two;
* a skin tone behind an emoji that can carry one takes up no cells of its own;
* emoji linked by joiners are drawn as one;
* a lam and the alef behind it are drawn as one letter.

A character never depends on what stands before it.  So the width is a fold from the right
(`Text.width`), and the state that goes along with the count of cells, a `Context`, says what the
next character to the left has to know about the text behind it.  Sequences that are cut in two by
the end of a text simply do not form.
-/

namespace LooseEquality
namespace Text

/-! ## What a character has to know about its right -/

/-- What directly follows, as far as it can merge with the character before it. -/
inductive Following where
  /-- Nothing that merges. -/
  | plain
  /-- A letter of the form of alef, perhaps with marks before it. -/
  | alef
  /-- An emoji, alone or drawn from several. -/
  | emoji
  /-- A skin tone. -/
  | tone
  /-- One letter of a flag. -/
  | flagLetter
  /-- Several letters of flags. -/
  | flagLetters
  /-- A joiner with an emoji behind it. -/
  | joiner
  /-- A keycap, then a joiner with an emoji behind it. -/
  | joinedKeycap
  /-- One letter of a flag, then a joiner with an emoji behind it. -/
  | joinedFlagLetter
  /-- Whole flags, then a joiner with an emoji behind it. -/
  | joinedFlags
  /-- Whole flags and a letter before them, then a joiner with an emoji behind it. -/
  | joinedFlagsAndLetter
  deriving DecidableEq, Repr

/-- The look that a selector asks the character before it to take. -/
inductive Look where
  | text
  | emoji
  deriving DecidableEq, Repr

/-- What stands to the right of a character: perhaps a selector, and what follows that. -/
structure Context where
  look : Option Look
  following : Following
  deriving DecidableEq, Repr

/-- The context at the end of a text. -/
def Context.atEnd : Context := ⟨none, .plain⟩

/-- The joiner that links emoji. -/
def joinerChar : Char := '\u200D'

/-- The selector for the look of an emoji. -/
def emojiSelector : Char := '\uFE0F'

/-- The selector for the look of text. -/
def textSelector : Char := '\uFE0E'

/-- The frame that makes a keycap of the character before it. -/
def keycapChar : Char := '\u20E3'

namespace Following

/-- What can still merge across a selector for the look of an emoji. -/
def acrossEmojiSelector : Following → Following
  | alef => alef
  | joiner => joiner
  | joinedKeycap => joinedKeycap
  | _ => plain

/-- What can still merge across a selector that chose no look, or chose the look of text. -/
def acrossTextSelector : Following → Following
  | alef => alef
  | _ => plain

/-- Whether a joiner links whatever comes next to an emoji. -/
def isJoined : Following → Bool
  | joiner => true
  | joinedKeycap => true
  | _ => false

end Following

/-! ## One character at a time -/

/-- A character that merges with nothing: its own cells, and what it is to its left neighbour. -/
def alone (c : Char) : Nat × Following :=
  if isAlef c then (1, .alef)
  else if isFlagLetter c then (1, .flagLetter)
  else if isTone c then (2, .tone)
  else if isEmoji c then (2, .emoji)
  else (cells c, .plain)

/-- A character that merges with what follows: the cells of the text from here on, given those of
the text behind, and what the merged whole is to the left neighbour. -/
def merge? (c : Char) (total : Nat) : Following → Option (Nat × Following)
  | .plain => none
  | .alef =>
    if isLam c then some (total, .plain)
    else if c = joinerChar || joinsThrough c then some (total, .alef)
    else none
  | .emoji => if c = joinerChar then some (total, .joiner) else none
  | .tone =>
    if isToneBase c then some (total, .emoji)
    else if c = joinerChar then some (total, .joiner)
    else none
  | .flagLetter => if isFlagLetter c then some (total + 1, .flagLetters) else none
  | .flagLetters =>
    if isFlagLetter c then some (total + 1, .flagLetters)
    else if c = joinerChar then some (total, .joiner)
    else none
  | .joiner =>
    if c = keycapChar then some (total, .joinedKeycap)
    else if isFlagLetter c then some (total + 1, .joinedFlagLetter)
    else if isTone c then some (total, .tone)
    else if isEmoji c then some (total, .emoji)
    else none
  | .joinedKeycap => none
  | .joinedFlagLetter => if isFlagLetter c then some (total - 1, .joinedFlags) else none
  | .joinedFlags =>
    if isFlagLetter c then some (total + 3, .joinedFlagsAndLetter)
    else if c = joinerChar then some (total, .joiner)
    else none
  | .joinedFlagsAndLetter =>
    if isFlagLetter c then some (total - 1, .joinedFlags)
    else if c = joinerChar then some (total, .joiner)
    else none

/-- Put a character in front of a text whose width and beginning are known, where no selector
chooses its look. -/
def place (c : Char) (total : Nat) (following : Following) : Nat × Context :=
  if c.toNat ≤ 0xA0 then (total + 1, .atEnd)
  else if c = emojiSelector then (total, ⟨some .emoji, following.acrossEmojiSelector⟩)
  else if c = textSelector then (total, ⟨some .text, following.acrossTextSelector⟩)
  else
    match merge? c total following with
    | some (total, following) => (total, ⟨none, following⟩)
    | none => (total + (alone c).1, ⟨none, (alone c).2⟩)

/-- Put a character in front of a text whose width and beginning are known. -/
def widen (c : Char) : Nat × Context → Nat × Context
  | (total, ⟨none, following⟩) => place c total following
  | (total, ⟨some .emoji, following⟩) =>
    if takesEmojiLook c then (if following.isJoined then total else total + 2, ⟨none, .emoji⟩)
    else place c total following.acrossTextSelector
  | (total, ⟨some .text, following⟩) =>
    if takesTextLook c then (total + 1, .atEnd) else place c total following

/-- The number of terminal cells a text takes up. -/
def width (cs : List Char) : Nat := (cs.foldr widen (0, .atEnd)).1

/-! ## Plain texts -/

/-- **An ASCII text takes up one cell for each character.** -/
theorem width_of_ascii {cs : List Char} (h : ∀ c ∈ cs, c.toNat < 128) : width cs = cs.length := by
  suffices hs : cs.foldr widen (0, .atEnd) = (cs.length, .atEnd) by simp [width, hs]
  induction cs with
  | nil => rfl
  | cons c cs ih =>
    have hc : c.toNat ≤ 0xA0 := by
      have := h c List.mem_cons_self
      omega
    rw [List.foldr_cons, ih fun d hd => h d (List.mem_cons_of_mem c hd)]
    simp only [widen, Context.atEnd, place, hc, if_true, List.length_cons]

end Text
end LooseEquality
