import LooseEquality.Proofs.Session.Growth

/-!
# Names and their arrays

What evaluating does to the arrays of a session, for each name and each operand.

* `Session.KeepsNames` — names stand for the arrays they stood for, and each new name has got a new
  array of its own;
* `Session.tryOperand` — evaluating an operand in place, with a session afterwards also if it fails;
* `Session.Tried` — all that evaluating an operand can come to.

**`tryOperand_isOk_iff`** says which array operands denote an array, and `tryOperand_of_error` that
the others leave no trace.
-/

namespace LooseEquality

lemma Heap.not_has_alloc (h : Heap) (items : Array Value) : ¬ h.Has (h.alloc items).1 := by
  rintro ⟨found, hfound⟩
  simp [alloc, items?] at hfound

namespace Session

/-- Arrays and the names that stand for them are kept.  A name that is new stands for an array that
is new, too, and empty, and no two new names stand for one array. -/
structure KeepsNames (s s' : Session) : Prop where
  kept : s.heap.KeptIn s'.heap
  lookup_eq : ∀ name a, s.names.lookup name = some a → s'.names.lookup name = some a
  new : ∀ name a, s.names.lookup name = none → s'.names.lookup name = some a →
    ¬ s.heap.Has a ∧ s'.heap.items? a = some #[]
  injective : ∀ name other a, s.names.lookup name = none → s.names.lookup other = none →
    s'.names.lookup name = some a → s'.names.lookup other = some a → name = other

namespace KeepsNames

variable {s s' s'' : Session}

/-- A session with the same names. -/
lemma of_names_eq (hkept : s.heap.KeptIn s'.heap) (hnames : s'.names = s.names) :
    s.KeepsNames s' := by
  refine ⟨hkept, fun name a h => hnames ▸ h, fun name a hnone hsome => ?_,
    fun name other a hnone _ hsome => ?_⟩ <;>
  · rw [hnames, hnone] at hsome
    cases hsome

lemma trans (h : s.KeepsNames s') (h' : s'.KeepsNames s'') : s.KeepsNames s'' := by
  -- an array that has a name in between is there, one that gets a name later is not
  have hmiddle : ∀ name a, s.names.lookup name = none → s'.names.lookup name = some a →
      s'.heap.Has a := fun name a hnone hsome => ⟨#[], (h.new name a hnone hsome).2⟩
  refine ⟨h.kept.trans h'.kept, fun name a ha => h'.lookup_eq name a (h.lookup_eq name a ha),
    fun name a hnone hsome => ?_, fun name other a hname hother hsome hsome' => ?_⟩
  · cases hbetween : s'.names.lookup name with
    | none =>
      obtain ⟨hhas, hitems⟩ := h'.new name a hbetween hsome
      exact ⟨fun ha => hhas (h.kept.has ha), hitems⟩
    | some b =>
      obtain ⟨hhas, hitems⟩ := h.new name b hnone hbetween
      obtain rfl := Option.some.inj ((h'.lookup_eq name b hbetween).symm.trans hsome)
      exact ⟨hhas, h'.kept b #[] hitems⟩
  · cases hbetween : s'.names.lookup name with
    | none =>
      have hnot := (h'.new name a hbetween hsome).1
      cases hbetween' : s'.names.lookup other with
      | none => exact h'.injective name other a hbetween hbetween' hsome hsome'
      | some b =>
        obtain rfl := Option.some.inj ((h'.lookup_eq other b hbetween').symm.trans hsome')
        exact absurd (hmiddle other b hother hbetween') hnot
    | some b =>
      obtain rfl := Option.some.inj ((h'.lookup_eq name b hbetween).symm.trans hsome)
      cases hbetween' : s'.names.lookup other with
      | none =>
        exact absurd (hmiddle name b hname hbetween) (h'.new other b hbetween' hsome').1
      | some c =>
        obtain rfl := Option.some.inj ((h'.lookup_eq other c hbetween').symm.trans hsome')
        exact h.injective name other c hname hother hbetween hbetween'

end KeepsNames

variable {s : Session} {o : Spanned Operand}

lemma keepsNames_named (s : Session) (name : String) : s.KeepsNames (s.named name).2 := by
  cases hname : s.names.lookup name with
  | some a =>
    rw [named_of_some hname]
    exact .of_names_eq (.refl s.heap) rfl
  | none =>
    have hgrows := growsTo_named s name
    have hlookup := lookup_named_of_none hname
    have hnew : ∀ other a, s.names.lookup other = none →
        (s.named name).2.names.lookup other = some a → other = name ∧ a = s.fresh.1 := by
      intro other a hnone hsome
      rw [hlookup, hnone] at hsome
      split at hsome
      · next hother => exact ⟨hother, (Option.some.inj hsome).symm⟩
      · cases hsome
    refine ⟨hgrows.kept, hgrows.lookup_eq, fun other a hnone hsome => ?_,
      fun name' other a hname' hother hsome hsome' => ?_⟩
    · obtain ⟨-, rfl⟩ := hnew other a hnone hsome
      refine ⟨Heap.not_has_alloc s.heap #[], ?_⟩
      rw [named_of_none hname]
      exact items?_fresh s
    · rw [(hnew name' a hname' hsome).1, (hnew other a hother hsome').1]

/-- **Names keep their arrays** through anything that is evaluated. -/
theorem lasting_keepsNames : Lasting KeepsNames where
  refl s := .of_names_eq (.refl s.heap) rfl
  trans := .trans
  fresh s := .of_names_eq (Heap.keptIn_alloc s.heap #[]) rfl
  named s name _ := keepsNames_named s name

lemma lookup_named_self (s : Session) (name : String) :
    (s.named name).2.names.lookup name = some (s.named name).1 := by
  cases hname : s.names.lookup name with
  | some a => rw [named_of_some hname, hname]
  | none => rw [lookup_named_of_none hname, if_pos rfl, named_of_none hname]

/-! ## Operands in place -/

/-- What an array literal comes to, and the session afterwards. -/
def tryArray (s : Session) (text : String) : Except Fault Value × Session :=
  if text = anonymous then (.ok (.array s.fresh.1), s.fresh.2)
  else if !isArrayName text then (.error (.invalidLiteral .array text), s)
  else (.ok (.array (s.named text).1), (s.named text).2)

/-- What a literal comes to, and the session afterwards.  Only arrays matter to the session. -/
def tryLiteral (s : Session) (kind : Kind) (text : String) : Except Fault Value × Session :=
  match kind with
  | .null => (.ok .null, s)
  | .boolean => (Literal.boolean text, s)
  | .integer => (Literal.integer text, s)
  | .real => (Literal.real text, s)
  | .string => (.ok (.string text), s)
  | .array => s.tryArray text

/-- What an operand comes to, and the session afterwards. -/
def tryOperand (s : Session) (o : Spanned Operand) : Except Fault Value × Session :=
  match s.tryLiteral o.val.kind o.val.literalText with
  | (result, s') => (result.mapError (Fault.locate o.span), s')

/-- An evaluation in place, from one that has no session to return along with a fault. -/
def settle (s : Session) : Except Fault (Value × Session) → Except Fault Value × Session
  | .ok (v, s') => (.ok v, s')
  | .error fault => (.error fault, s)

lemma tryLiteral_eq (s : Session) (kind : Kind) (text : String) :
    s.tryLiteral kind text = s.settle (s.literal kind text) := by
  have hpure : ∀ x : Except Fault Value, (x, s) = s.settle (x.map (·, s)) := by
    intro x
    cases x <;> rfl
  cases kind with
  | null => rfl
  | string => rfl
  | array =>
    simp only [tryLiteral, tryArray, literal, array]
    split
    · rfl
    · cases isArrayName text <;> rfl
  | _ => exact hpure _

/-- **Evaluating in place** is evaluating. -/
theorem tryOperand_eq (s : Session) (o : Spanned Operand) :
    s.tryOperand o = s.settle (s.operand o) := by
  simp only [tryOperand, operand, tryLiteral_eq]
  cases s.literal o.val.kind o.val.literalText <;> rfl

/-- All that evaluating an operand can come to. -/
inductive Tried (s : Session) (o : Spanned Operand) : Except Fault Value × Session → Prop
  | failed (fault : Fault) : Tried s o (.error fault, s)
  | plain (v : Value) (hkind : v.kind ≠ .array) : Tried s o (.ok v, s)
  | anonymous (htext : o.val.literalText = anonymous) :
      Tried s o (.ok (.array s.fresh.1), s.fresh.2)
  | named (htext : o.val.literalText ≠ Session.anonymous) :
      Tried s o
        (.ok (.array (s.named o.val.literalText).1), (s.named o.val.literalText).2)

theorem tried_tryOperand (s : Session) (o : Spanned Operand) : Tried s o (s.tryOperand o) := by
  have hpure : ∀ x : Except Fault Value, (∀ v, x = .ok v → v.kind ≠ .array) →
      Tried s o (x.mapError (Fault.locate o.span), s) := by
    intro x hx
    cases x with
    | error fault => exact .failed _
    | ok v => exact .plain v (hx v rfl)
  rw [tryOperand]
  cases o.val.kind with
  | null => exact .plain _ (by simp [Value.kind])
  | string => exact .plain _ (by simp [Value.kind])
  | array =>
    simp only [tryLiteral, tryArray]
    split_ifs with htext hname
    · exact .anonymous htext
    · exact .failed _
    · exact .named htext
  | boolean => exact hpure _ fun v => kind_of_map_orInvalid fun b => by simp [Value.kind]
  | integer => exact hpure _ fun v => kind_of_map_orInvalid fun i => by simp [Value.kind]
  | real => exact hpure _ fun v => kind_of_map_orInvalid fun r => by simp [Value.kind]

/-- Operands that fail leave no trace. -/
theorem tryOperand_of_error {fault : Fault} (h : (s.tryOperand o).1 = .error fault) :
    (s.tryOperand o).2 = s := by
  have htried := tried_tryOperand s o
  generalize s.tryOperand o = tried at h htried
  cases htried with
  | failed fault => rfl
  | plain v hkind => rfl
  | anonymous htext => cases h
  | named htext => cases h

lemma isArrayName_iff {name : String} :
    isArrayName name = true ↔
      ∃ c cs, name.toList = c :: cs ∧ (Text.isAlphabetic c = true ∨ c = '_') := by
  rw [isArrayName]
  split
  · next hnil => simp [hnil]
  · next c cs hcons => simp [hcons]

/-- **An array operand denotes an array** if it has the text for a new one or a name. -/
theorem tryOperand_isOk_iff (hkind : o.val.kind = .array) :
    (∃ v, (s.tryOperand o).1 = .ok v) ↔
      o.val.literalText = anonymous ∨ ∃ c cs, o.val.literalText.toList = c :: cs ∧
        (Text.isAlphabetic c = true ∨ c = '_') := by
  rw [← isArrayName_iff, tryOperand, hkind]
  simp only [tryLiteral, tryArray]
  split_ifs with htext hname
  · exact iff_of_true ⟨_, rfl⟩ (.inl htext)
  · have hfalse : isArrayName o.val.literalText = false := by simpa using hname
    rw [hfalse]
    refine iff_of_false ?_ fun h => h.elim htext Bool.false_ne_true
    rintro ⟨v, hv⟩
    cases hv
  · refine iff_of_true ⟨_, rfl⟩ (.inr ?_)
    simpa using hname

end Session
end LooseEquality
