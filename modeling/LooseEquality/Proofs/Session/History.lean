import LooseEquality.Proofs.Session.Names
import Mathlib.Data.List.Induction

/-!
# Histories of sessions

A host evaluates operands, comparisons and scripts in a session, in any order, and pushes values
through the arrays that its operands denote.  A `History` is a session with a record of that: which
arrays were given to the host and for which texts, and what was pushed.

Every array has an `Origin`, a name or the one evaluation that made it, and the record is kept by
origins.  That is what makes the invariant short (`History.Sound`): no two origins have one array,
and each array holds what was pushed to its origin.  Evaluating adds origins with empty arrays
(`History.Extends`), and a push adds to one array.

* **`sound_step`** — each step keeps the record sound, and **`sound_after`** — so does a whole
  history.

**`accountable_after`** is what the record then tells of the arrays.
-/

namespace LooseEquality

/-- Where an array comes from: from a name, or from the evaluation that gave it to the host. -/
inductive Origin where
  | named (name : String)
  | anonymous (k : Nat)
  deriving DecidableEq

/-- The origin of the array that was given for a text, as number `k` of those given. -/
def Origin.of (text : String) (k : Nat) : Origin :=
  if text = Session.anonymous then .anonymous k else .named text

/-- Arrays given at different times have one origin if it is a name. -/
lemma Origin.of_eq_of_iff {j k : Nat} (hjk : j ≠ k) {text text' : String} :
    Origin.of text j = .of text' k ↔ text = text' ∧ text ≠ Session.anonymous := by
  rw [of, of]
  split_ifs with htext htext' htext'
  · simp [htext, hjk]
  · simp [htext]
  · simp [htext, htext']
  · simp [htext]

/-- An array that was given to the host, and the text of the operand it was given for. -/
structure Given where
  text : String
  array : ArrayRef

/-- A session and what a host did with it: the arrays it was given, in order, and the values it
pushed through them. -/
structure History where
  session : Session
  given : List Given
  pushes : List (Origin × Value)

/-- What a host can do with a session. -/
inductive History.Step where
  | operand (o : Spanned Operand)
  | comparison (c : Spanned Comparison)
  | script (script : Script)
  /-- Push any value, which may be an array, through the array that was given as number `k`.
  Without one there is nothing to push through. -/
  | push (k : Nat) (v : Value)

namespace History

/-- The beginning of a history. -/
def start (truthiness : Truthiness) : History := ⟨.new truthiness, [], []⟩

/-- Go on with another session. -/
def evolve (h : History) (s : Session) : History := ⟨s, h.given, h.pushes⟩

/-- Go on with another session and give an array to the host. -/
def give (h : History) (s : Session) (x : Given) : History := ⟨s, h.given ++ [x], h.pushes⟩

/-- Push a value through the array that was given as number `k`. -/
def pushThrough (h : History) (k : Nat) (x : Given) (v : Value) : History :=
  ⟨h.session.push x.array v, h.given, h.pushes ++ [(.of x.text k, v)]⟩

def step (h : History) : Step → History
  | .operand o =>
    match h.session.tryOperand o with
    | (.ok (.array a), s) => h.give s ⟨o.val.literalText, a⟩
    | (_, s) => h.evolve s
  | .comparison c => h.evolve (h.session.comparison c).2
  | .script script => h.evolve (h.session.outcomes script).2
  | .push k v =>
    match h.given[k]? with
    | some x => h.pushThrough k x v
    | none => h

/-- The history of some steps, from a new session on. -/
def after (truthiness : Truthiness) (steps : List Step) : History :=
  steps.foldl step (start truthiness)

/-- The values that were pushed through the arrays of an origin, in order. -/
def pushedTo (h : History) (origin : Origin) : List Value :=
  (h.pushes.filter fun push => push.1 = origin).map Prod.snd

/-- The array of an origin. -/
def arrayOf (h : History) : Origin → Option ArrayRef
  | .named name => h.session.names.lookup name
  | .anonymous k =>
    match h.given[k]? with
    | some x => if x.text = Session.anonymous then some x.array else none
    | none => none

/-! ## What the record says -/

/-- The record says which arrays there are and what they hold. -/
structure Sound (h : History) : Prop where
  injective : ∀ {origin other a}, h.arrayOf origin = some a → h.arrayOf other = some a →
    origin = other
  items : ∀ {origin a}, h.arrayOf origin = some a →
    h.session.heap.items? a = some (h.pushedTo origin).toArray
  pushedTo_eq_nil : ∀ {origin}, h.arrayOf origin = none → h.pushedTo origin = []
  given : ∀ {k x}, h.given[k]? = some x → h.arrayOf (.of x.text k) = some x.array

/-- A history that goes on without a push.  Origins keep their arrays, and those that get one get a
new one each, which is empty. -/
structure Extends (h h' : History) : Prop where
  pushes_eq : h'.pushes = h.pushes
  kept : h.session.heap.KeptIn h'.session.heap
  arrayOf_eq : ∀ origin a, h.arrayOf origin = some a → h'.arrayOf origin = some a
  new : ∀ origin a, h.arrayOf origin = none → h'.arrayOf origin = some a →
    ¬ h.session.heap.Has a ∧ h'.session.heap.items? a = some #[]
  injective : ∀ origin other a, h.arrayOf origin = none → h.arrayOf other = none →
    h'.arrayOf origin = some a → h'.arrayOf other = some a → origin = other
  given : ∀ k x, h'.given[k]? = some x →
    h.given[k]? = some x ∨ h'.arrayOf (.of x.text k) = some x.array

variable {h h' : History}

lemma Sound.extends (hs : h.Sound) (hext : h.Extends h') : h'.Sound := by
  have hpushed : ∀ origin, h'.pushedTo origin = h.pushedTo origin := by
    intro origin
    rw [pushedTo, hext.pushes_eq, pushedTo]
  have hhas : ∀ origin a, h.arrayOf origin = some a → h.session.heap.Has a :=
    fun origin a ha => ⟨_, hs.items ha⟩
  refine ⟨fun {origin other a} ha hb => ?_, fun {origin a} ha => ?_, fun {origin} hnone => ?_,
    fun {k x} hx => ?_⟩
  · cases ho : h.arrayOf origin with
    | none =>
      cases ho' : h.arrayOf other with
      | none => exact hext.injective origin other a ho ho' ha hb
      | some b =>
        obtain rfl := Option.some.inj ((hext.arrayOf_eq other b ho').symm.trans hb)
        exact absurd (hhas other b ho') (hext.new origin b ho ha).1
    | some b =>
      obtain rfl := Option.some.inj ((hext.arrayOf_eq origin b ho).symm.trans ha)
      cases ho' : h.arrayOf other with
      | none => exact absurd (hhas origin b ho) (hext.new other b ho' hb).1
      | some c =>
        obtain rfl := Option.some.inj ((hext.arrayOf_eq other c ho').symm.trans hb)
        exact hs.injective ho ho'
  · rw [hpushed]
    cases ho : h.arrayOf origin with
    | none =>
      rw [hs.pushedTo_eq_nil ho]
      exact (hext.new origin a ho ha).2
    | some b =>
      obtain rfl := Option.some.inj ((hext.arrayOf_eq origin b ho).symm.trans ha)
      exact hext.kept b _ (hs.items ho)
  · rw [hpushed]
    cases ho : h.arrayOf origin with
    | none => exact hs.pushedTo_eq_nil ho
    | some b =>
      rw [hext.arrayOf_eq origin b ho] at hnone
      cases hnone
  · rcases hext.given k x hx with hold | hnew
    · exact hext.arrayOf_eq _ _ (hs.given hold)
    · exact hnew

/-! ## Evaluating -/

lemma extends_of_keepsNames {s : Session} (hs : h.session.KeepsNames s) :
    h.Extends (h.evolve s) := by
  refine ⟨rfl, hs.kept, fun origin a ha => ?_, fun origin a hnone ha => ?_,
    fun origin other a hnone hnone' ha hb => ?_, fun k x hx => .inl hx⟩
  · cases origin with
    | named name => exact hs.lookup_eq name a ha
    | anonymous k => exact ha
  · cases origin with
    | named name => exact hs.new name a hnone ha
    | anonymous k => cases hnone.symm.trans ha
  · cases origin with
    | named name =>
      cases other with
      | named name' => rw [hs.injective name name' a hnone hnone' ha hb]
      | anonymous k => cases hnone'.symm.trans hb
    | anonymous k => cases hnone.symm.trans ha

lemma getElem?_give {x y : Given} {k : Nat} (hy : (h.given ++ [x])[k]? = some y) :
    h.given[k]? = some y ∨ (k = h.given.length ∧ y = x) := by
  rcases Nat.lt_trichotomy k h.given.length with hlt | rfl | hgt
  · rw [List.getElem?_append_left hlt] at hy
    exact .inl hy
  · rw [List.getElem?_concat_length] at hy
    exact .inr ⟨rfl, (Option.some.inj hy).symm⟩
  · rw [List.getElem?_eq_none (by simp; omega)] at hy
    cases hy

/-- One more array has been given out, which is that of its origin if it has no name. -/
lemma arrayOf_give (s : Session) (x : Given) (origin : Origin) :
    (h.give s x).arrayOf origin
      = if x.text = Session.anonymous ∧ origin = .anonymous h.given.length then some x.array
        else (h.evolve s).arrayOf origin := by
  cases origin with
  | named name => simp [arrayOf, give, evolve]
  | anonymous k =>
    simp only [Origin.anonymous.injEq]
    rcases Nat.lt_trichotomy k h.given.length with hlt | rfl | hgt
    · rw [if_neg fun hk => hlt.ne hk.2]
      simp only [arrayOf, give, evolve, List.getElem?_append_left hlt]
    · simp [arrayOf, give, evolve]
    · have hnone : (h.given ++ [x])[k]? = none := List.getElem?_eq_none (by simp; omega)
      rw [if_neg fun hk => hgt.ne' hk.2]
      simp only [arrayOf, give, evolve, hnone, List.getElem?_eq_none hgt.le]

/-- Giving out the array of a name. -/
lemma extends_give_named {s : Session} (hs : h.session.KeepsNames s) {x : Given}
    (htext : x.text ≠ Session.anonymous) (hx : s.names.lookup x.text = some x.array) :
    h.Extends (h.give s x) := by
  have hext := extends_of_keepsNames hs
  have harrayOf : (h.give s x).arrayOf = (h.evolve s).arrayOf := by
    funext origin
    rw [arrayOf_give, if_neg fun hk => htext hk.1]
  refine ⟨rfl, hext.kept, ?_, ?_, ?_, fun k y hy => ?_⟩
  · rw [harrayOf]
    exact hext.arrayOf_eq
  · rw [harrayOf]
    exact hext.new
  · rw [harrayOf]
    exact hext.injective
  · rcases getElem?_give hy with hold | ⟨rfl, rfl⟩
    · exact .inl hold
    · refine .inr ?_
      rw [harrayOf, Origin.of, if_neg htext]
      exact hx

/-- Giving out an array that has been made for the purpose. -/
lemma extends_give_anonymous {text : String} (htext : text = Session.anonymous) :
    h.Extends (h.give h.session.fresh.2 ⟨text, h.session.fresh.1⟩) := by
  have harrayOf : ∀ origin,
      (h.give h.session.fresh.2 ⟨text, h.session.fresh.1⟩).arrayOf origin
        = if origin = .anonymous h.given.length then some h.session.fresh.1
          else h.arrayOf origin := by
    intro origin
    rw [arrayOf_give]
    simp only [htext, true_and]
    rfl
  have hnew : ∀ origin a, h.arrayOf origin = none →
      (h.give h.session.fresh.2 ⟨text, h.session.fresh.1⟩).arrayOf origin = some a →
        origin = .anonymous h.given.length ∧ a = h.session.fresh.1 := by
    intro origin a hnone ha
    rw [harrayOf, hnone] at ha
    split at ha
    · next horigin => exact ⟨horigin, (Option.some.inj ha).symm⟩
    · cases ha
  refine ⟨rfl, Heap.keptIn_alloc _ #[], fun origin a ha => ?_, fun origin a hnone ha => ?_,
    fun origin other a hnone hnone' ha hb => ?_, fun k y hy => ?_⟩
  · have horigin : origin ≠ .anonymous h.given.length := by
      rintro rfl
      simp [arrayOf] at ha
    rw [harrayOf, if_neg horigin, ha]
  · obtain ⟨-, rfl⟩ := hnew origin a hnone ha
    exact ⟨Heap.not_has_alloc h.session.heap #[], Session.items?_fresh h.session⟩
  · rw [(hnew origin a hnone ha).1, (hnew other a hnone' hb).1]
  · rcases getElem?_give hy with hold | ⟨rfl, rfl⟩
    · exact .inl hold
    · refine .inr ?_
      rw [harrayOf, Origin.of, if_pos htext, if_pos rfl]

/-- **Evaluating an operand**, for a host. -/
theorem extends_operand (h : History) (o : Spanned Operand) : h.Extends (h.step (.operand o)) := by
  have hsame : h.Extends h := extends_of_keepsNames (Session.lasting_keepsNames.refl h.session)
  have htried := Session.tried_tryOperand h.session o
  simp only [step]
  generalize h.session.tryOperand o = tried at htried
  cases htried with
  | failed fault => exact hsame
  | plain v hkind =>
    cases v with
    | array a => exact absurd rfl hkind
    | _ => exact hsame
  | anonymous htext => exact extends_give_anonymous htext
  | named htext =>
    exact extends_give_named (Session.keepsNames_named h.session _) htext
      (Session.lookup_named_self h.session _)

/-! ## Pushing -/

lemma pushedTo_pushThrough (h : History) (k : Nat) (x : Given) (v : Value) (origin : Origin) :
    (h.pushThrough k x v).pushedTo origin
      = if .of x.text k = origin then h.pushedTo origin ++ [v] else h.pushedTo origin := by
  simp only [pushedTo, pushThrough, List.filter_append, List.map_append]
  split_ifs with horigin <;> simp [horigin]

/-- **Pushing** adds a value to the array of one origin. -/
theorem Sound.push (hs : h.Sound) {k : Nat} {x : Given} (hx : h.given[k]? = some x) (v : Value) :
    (h.pushThrough k x v).Sound := by
  have harrayOf : (h.pushThrough k x v).arrayOf = h.arrayOf := by
    funext origin
    cases origin <;> rfl
  have htarget := hs.given hx
  refine ⟨fun {origin other a} ha hb => ?_, fun {origin a} ha => ?_, fun {origin} hnone => ?_,
    fun {j y} hy => ?_⟩
  · rw [harrayOf] at ha hb
    exact hs.injective ha hb
  · rw [harrayOf] at ha
    rw [pushedTo_pushThrough]
    split_ifs with horigin
    · subst horigin
      obtain rfl := Option.some.inj (htarget.symm.trans ha)
      show (h.session.heap.push x.array v).items? x.array = _
      rw [Heap.items?_push_self, hs.items ha, Option.map_some, List.push_toArray]
    · have hne : x.array ≠ a := by
        rintro rfl
        exact horigin (hs.injective htarget ha)
      show (h.session.heap.push x.array v).items? a = _
      rw [Heap.items?_push_of_ne _ _ hne, hs.items ha]
  · rw [harrayOf] at hnone
    rw [pushedTo_pushThrough, if_neg, hs.pushedTo_eq_nil hnone]
    rintro rfl
    rw [htarget] at hnone
    cases hnone
  · rw [harrayOf]
    exact hs.given hy

/-! ## Histories -/

/-- **One step.** -/
theorem sound_step (hs : h.Sound) (step : Step) : (h.step step).Sound := by
  cases step with
  | operand o => exact hs.extends (extends_operand h o)
  | comparison c =>
    exact hs.extends (extends_of_keepsNames (Session.lasting_keepsNames.comparison h.session c))
  | script script =>
    exact hs.extends (extends_of_keepsNames (Session.lasting_keepsNames.outcomes h.session script))
  | push k v =>
    simp only [History.step]
    split
    · next x hx => exact hs.push hx v
    · exact hs

lemma sound_start (truthiness : Truthiness) : (start truthiness).Sound := by
  have hnone : ∀ origin, (start truthiness).arrayOf origin = none := by
    intro origin
    cases origin <;> rfl
  refine ⟨fun {origin other a} ha => ?_, fun {origin a} ha => ?_, fun _ => rfl, fun {k x} hx => ?_⟩
  · cases (hnone origin).symm.trans ha
  · cases (hnone origin).symm.trans ha
  · cases hx

/-- **Any number of steps.** -/
theorem sound_after (truthiness : Truthiness) (steps : List Step) :
    (after truthiness steps).Sound := by
  induction steps using List.reverseRecOn with
  | nil => exact sound_start truthiness
  | append_singleton steps last ih =>
    rw [after, List.foldl_append]
    exact sound_step ih last

/-- What a host can tell of the arrays of a session.  Two arrays that it was given, for whatever
operands, are one exactly if they were given for one name; a name always gives its array; and an
array has got the values that were pushed to it, through any of the arrays given for its name, or
through the one given if it has none. -/
structure Accountable (h : History) : Prop where
  array_eq_iff : ∀ (j k : Nat) (x y : Given), j ≠ k → h.given[j]? = some x → h.given[k]? = some y →
    (x.array = y.array ↔ x.text = y.text ∧ x.text ≠ Session.anonymous)
  lookup_given : ∀ (k : Nat) (x : Given), h.given[k]? = some x → x.text ≠ Session.anonymous →
    h.session.names.lookup x.text = some x.array
  length_named : ∀ name a, h.session.names.lookup name = some a →
    h.session.heap.items? a = some (h.pushedTo (.named name)).toArray ∧
      h.session.heap.length a = (h.pushedTo (.named name)).length
  length_anonymous : ∀ (k : Nat) (x : Given), h.given[k]? = some x → x.text = Session.anonymous →
    h.session.heap.items? x.array = some (h.pushedTo (.anonymous k)).toArray ∧
      h.session.heap.length x.array = (h.pushedTo (.anonymous k)).length

lemma Sound.length (hs : h.Sound) {origin : Origin} {a : ArrayRef}
    (ha : h.arrayOf origin = some a) :
    h.session.heap.items? a = some (h.pushedTo origin).toArray ∧
      h.session.heap.length a = (h.pushedTo origin).length := by
  refine ⟨hs.items ha, ?_⟩
  rw [Heap.length, hs.items ha]
  simp

theorem Sound.accountable (hs : h.Sound) : h.Accountable where
  array_eq_iff j k x y hjk hx hy := by
    have hx' := hs.given hx
    have hy' := hs.given hy
    rw [← Origin.of_eq_of_iff hjk]
    constructor
    · intro heq
      exact hs.injective hx' (heq ▸ hy')
    · intro horigin
      rw [horigin] at hx'
      exact Option.some.inj (hx'.symm.trans hy')
  lookup_given k x hx htext := by
    have hx' := hs.given hx
    rwa [Origin.of, if_neg htext] at hx'
  length_named name a ha := by
    have harray : h.arrayOf (.named name) = some a := ha
    exact hs.length harray
  length_anonymous k x hx htext := by
    have hx' := hs.given hx
    rw [Origin.of, if_pos htext] at hx'
    exact hs.length hx'

/-- **What a host can tell of the arrays of a session**, after any steps from a new one on
(`Accountable`).  An operand of the kind denotes an array if its text is that for a new one or
starts like a name; an operand that fails leaves all names and arrays as they were. -/
theorem accountable_after (truthiness : Truthiness) (steps : List Step) :
    (after truthiness steps).Accountable ∧
    (∀ (s : Session) (o : Spanned Operand), o.val.kind = .array →
      ((∃ v, (s.tryOperand o).1 = .ok v) ↔
        o.val.literalText = Session.anonymous ∨ ∃ c cs, o.val.literalText.toList = c :: cs ∧
          (Text.isAlphabetic c = true ∨ c = '_'))) ∧
    (∀ (s : Session) (o : Spanned Operand) (fault : Fault), (s.tryOperand o).1 = .error fault →
      (s.tryOperand o).2.names = s.names ∧ (s.tryOperand o).2.heap = s.heap) ∧
    ∀ (s : Session) (o : Spanned Operand), s.tryOperand o = s.settle (s.operand o) := by
  refine ⟨(sound_after truthiness steps).accountable, fun s o => Session.tryOperand_isOk_iff,
    fun s o fault h => ?_, Session.tryOperand_eq⟩
  rw [Session.tryOperand_of_error h]
  exact ⟨rfl, rfl⟩

end History
end LooseEquality
