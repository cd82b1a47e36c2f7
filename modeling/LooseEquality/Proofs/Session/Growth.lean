import LooseEquality.Proofs.Session.Evaluation

/-!
# How a session grows

Evaluating changes a session in one way only: new arrays are made, all of them empty, and some of
them get names.  Nothing is ever pushed, and a name keeps its array.

* `Heap.KeptIn` — every array of a heap holds the same in another heap;
* `Session.WellFormed` — names and elements refer to arrays that there are;
* `Session.Vacant` — the names without an array, or with one that holds nothing;
* `Session.GrowsTo` — what a session may become.

**`growsTo_comparison`** is the step and **`growsTo_transcript`**, **`growsTo_outcomes`** and
`growsTo_run` the runs; they hold whether or not a fault is met on the way.  Since new arrays are
empty, the vacant names stay the same throughout (`GrowsTo.vacant_iff`).

A host can do more than that: it can push values, even such that an array comes to contain itself.
What it cannot do is to make a session refer to an array that there is not, so all sessions it gets
to are well formed (**`Reachable.wellFormed`**).
-/

namespace LooseEquality

namespace Heap

/-- The heap has the array. -/
def Has (h : Heap) (a : ArrayRef) : Prop := ∃ items, h.items? a = some items

/-- Every array of one heap is an array of the other, and holds the same there. -/
def KeptIn (h k : Heap) : Prop := ∀ a items, h.items? a = some items → k.items? a = some items

lemma KeptIn.refl (h : Heap) : h.KeptIn h := fun _ _ ha => ha

lemma KeptIn.trans {h k l : Heap} (hk : h.KeptIn k) (kl : k.KeptIn l) : h.KeptIn l :=
  fun a items ha => kl a items (hk a items ha)

lemma KeptIn.has {h k : Heap} (hk : h.KeptIn k) {a : ArrayRef} (ha : h.Has a) : k.Has a := by
  obtain ⟨items, hitems⟩ := ha
  exact ⟨items, hk a items hitems⟩

lemma keptIn_alloc (h : Heap) (items : Array Value) : h.KeptIn (h.alloc items).2 := by
  intro a old ha
  rw [items?_alloc_of_lt h items (Array.getElem?_eq_some_iff.1 ha).1]
  exact ha

/-- Apart from the new array, a heap has the arrays it had. -/
lemma items?_of_alloc {h : Heap} {items found : Array Value} {a : ArrayRef}
    (ha : (h.alloc items).2.items? a = some found) : found = items ∨ h.items? a = some found := by
  simp only [alloc, items?, Array.getElem?_push] at ha
  split at ha
  · exact .inl (Option.some.inj ha).symm
  · exact .inr ha

/-- No array is lost by a push. -/
lemma Has.push {h : Heap} {b : ArrayRef} (hb : h.Has b) (a : ArrayRef) (v : Value) :
    (h.push a v).Has b := by
  obtain ⟨items, hitems⟩ := hb
  by_cases hab : a = b
  · subst hab
    exact ⟨items.push v, by rw [items?_push_self, hitems, Option.map_some]⟩
  · exact ⟨items, by rw [items?_push_of_ne h v hab, hitems]⟩

/-- What is in an array after a push was there before, or is what was pushed. -/
lemma mem_of_mem_push {h : Heap} {a b : ArrayRef} {v w : Value} {items : Array Value}
    (hitems : (h.push a v).items? b = some items) (hw : w ∈ items) :
    w = v ∨ ∃ old, h.items? b = some old ∧ w ∈ old := by
  by_cases hab : a = b
  · subst hab
    rw [items?_push_self] at hitems
    obtain ⟨old, hold, rfl⟩ := Option.map_eq_some_iff.1 hitems
    rcases Array.mem_push.1 hw with hw | rfl
    · exact .inr ⟨old, hold, hw⟩
    · exact .inl rfl
  · rw [items?_push_of_ne h v hab] at hitems
    exact .inr ⟨items, hitems, hw⟩

end Heap

/-- The array that a value refers to, if any, is in the heap. -/
def Value.LivesIn (v : Value) (h : Heap) : Prop := ∀ a, v = .array a → h.Has a

lemma Value.LivesIn.mono {v : Value} {h k : Heap} (hv : v.LivesIn h) (hk : h.KeptIn k) :
    v.LivesIn k := fun a ha => hk.has (hv a ha)

namespace Session

/-- A session is well formed if names stand for arrays of the heap, and the elements of arrays refer
to arrays of the heap as well.  An array may contain itself. -/
structure WellFormed (s : Session) : Prop where
  names : ∀ name a, s.names.lookup name = some a → s.heap.Has a
  items : ∀ a items, s.heap.items? a = some items → ∀ v ∈ items, v.LivesIn s.heap

/-- A name stands for no array yet, or for one that holds nothing. -/
def Vacant (s : Session) (name : String) : Prop :=
  s.names.lookup name = none ∨
    ∃ a, s.names.lookup name = some a ∧ s.heap.items? a = some #[]

/-- What a session may become by evaluating: arrays and names are kept, and names that are new stand
for empty arrays. -/
structure GrowsTo (s s' : Session) : Prop where
  truthiness_eq : s'.truthiness = s.truthiness
  kept : s.heap.KeptIn s'.heap
  lookup_eq : ∀ name a, s.names.lookup name = some a → s'.names.lookup name = some a
  vacant : ∀ name, s.names.lookup name = none → s'.Vacant name
  wellFormed : s.WellFormed → s'.WellFormed

variable {s s' s'' : Session}

/-- A name that stands for a vacant array goes on to do so. -/
lemma GrowsTo.vacant_of_vacant (h : s.GrowsTo s') {name : String} (hv : s.Vacant name) :
    s'.Vacant name := by
  rcases hv with hnone | ⟨a, hsome, hempty⟩
  · exact h.vacant name hnone
  · exact .inr ⟨a, h.lookup_eq name a hsome, h.kept a #[] hempty⟩

/-- **The vacant names stay the same.** -/
theorem GrowsTo.vacant_iff (h : s.GrowsTo s') (hs : s.WellFormed) (name : String) :
    s'.Vacant name ↔ s.Vacant name := by
  constructor
  · intro hv
    cases hname : s.names.lookup name with
    | none => exact .inl hname
    | some a =>
      obtain ⟨items, hitems⟩ := hs.names name a hname
      have hlookup := h.lookup_eq name a hname
      rcases hv with hnone | ⟨b, hsome, hempty⟩
      · rw [hnone] at hlookup
        cases hlookup
      · obtain rfl : b = a := Option.some.inj (hsome.symm.trans hlookup)
        have hkept := h.kept b items hitems
        rw [hempty] at hkept
        cases hkept
        exact .inr ⟨b, hname, hitems⟩
  · exact h.vacant_of_vacant

lemma GrowsTo.refl (s : Session) : s.GrowsTo s where
  truthiness_eq := rfl
  kept := .refl s.heap
  lookup_eq _ _ h := h
  vacant _ h := .inl h
  wellFormed h := h

lemma GrowsTo.trans (h : s.GrowsTo s') (h' : s'.GrowsTo s'') : s.GrowsTo s'' where
  truthiness_eq := h'.truthiness_eq.trans h.truthiness_eq
  kept := h.kept.trans h'.kept
  lookup_eq name a ha := h'.lookup_eq name a (h.lookup_eq name a ha)
  vacant name hname := h'.vacant_of_vacant (h.vacant name hname)
  wellFormed hs := h'.wellFormed (h.wellFormed hs)

/-! ## Arrays -/

lemma items?_fresh (s : Session) : s.fresh.2.heap.items? s.fresh.1 = some #[] :=
  Heap.items?_alloc_self s.heap #[]

lemma wellFormed_fresh (hs : s.WellFormed) : s.fresh.2.WellFormed := by
  have hkept : s.heap.KeptIn s.fresh.2.heap := Heap.keptIn_alloc s.heap #[]
  constructor
  · intro name a hname
    exact hkept.has (hs.names name a hname)
  · intro a items hitems v hv
    rcases Heap.items?_of_alloc hitems with rfl | hold
    · simp at hv
    · exact (hs.items a items hold v hv).mono hkept

lemma growsTo_fresh (s : Session) : s.GrowsTo s.fresh.2 where
  truthiness_eq := rfl
  kept := Heap.keptIn_alloc s.heap #[]
  lookup_eq _ _ h := h
  vacant _ h := .inl h
  wellFormed := wellFormed_fresh

lemma lookup_cons_eq_ite (other name : String) (a : ArrayRef) (names : List (String × ArrayRef)) :
    List.lookup other ((name, a) :: names)
      = if other = name then some a else names.lookup other := by
  rw [List.lookup_cons]
  by_cases h : other = name
  · rw [if_pos h, beq_iff_eq.2 h]
  · rw [if_neg h, beq_eq_false_iff_ne.2 h]

lemma named_of_some {name : String} {a : ArrayRef} (h : s.names.lookup name = some a) :
    s.named name = (a, s) := by
  simp only [named, h]

lemma named_of_none {name : String} (h : s.names.lookup name = none) :
    s.named name
      = (s.fresh.1, { s.fresh.2 with names := (name, s.fresh.1) :: s.names }) := by
  simp only [named, h]

lemma lookup_named_of_none {name : String} (h : s.names.lookup name = none) (other : String) :
    (s.named name).2.names.lookup other
      = if other = name then some s.fresh.1 else s.names.lookup other := by
  rw [named_of_none h]
  exact lookup_cons_eq_ite other name s.fresh.1 s.names

/-- Naming a new array. -/
lemma growsTo_named (s : Session) (name : String) : s.GrowsTo (s.named name).2 := by
  cases hname : s.names.lookup name with
  | some a =>
    rw [named_of_some hname]
    exact .refl s
  | none =>
    have hlookup := lookup_named_of_none hname
    have hheap : (s.named name).2.heap = s.fresh.2.heap := by rw [named_of_none hname]
    have hkept : s.heap.KeptIn (s.named name).2.heap := hheap ▸ Heap.keptIn_alloc s.heap #[]
    have hnew : (s.named name).2.heap.items? s.fresh.1 = some #[] := hheap ▸ items?_fresh s
    refine ⟨by rw [named_of_none hname]; rfl, hkept, ?_, ?_, ?_⟩
    · intro other a hother
      rw [hlookup, if_neg, hother]
      rintro rfl
      rw [hname] at hother
      cases hother
    · intro other hother
      by_cases heq : other = name
      · exact .inr ⟨s.fresh.1, by rw [hlookup, if_pos heq], hnew⟩
      · exact .inl (by rw [hlookup, if_neg heq, hother])
    · intro hs
      constructor
      · intro other a hother
        rw [hlookup] at hother
        split at hother
        · cases hother
          exact ⟨#[], hnew⟩
        · exact hkept.has (hs.names other a hother)
      · rw [hheap]
        exact (wellFormed_fresh hs).items

/-! ## Evaluation -/

lemma lasting_growsTo : Lasting GrowsTo where
  refl := .refl
  trans := .trans
  fresh := growsTo_fresh
  named s name _ := growsTo_named s name

lemma growsTo_operand {o : Spanned Operand} {v : Value} (h : s.operand o = .ok (v, s')) :
    s.GrowsTo s' := lasting_growsTo.operand h

/-- **One comparison**, whether or not it fails. -/
theorem growsTo_comparison (s : Session) (c : Spanned Comparison) :
    s.GrowsTo (s.comparison c).2 := lasting_growsTo.comparison s c

theorem growsTo_transcript (s : Session) (script : Script) :
    s.GrowsTo (s.transcript script).2 := lasting_growsTo.transcript s script

theorem growsTo_outcomes (s : Session) (script : Script) : s.GrowsTo (s.outcomes script).2 :=
  lasting_growsTo.outcomes s script

theorem growsTo_run (s : Session) (text : String) : s.GrowsTo (s.run text).2 :=
  lasting_growsTo.run s text

/-! ## The sessions a host gets to -/

lemma wellFormed_new (truthiness : Truthiness) : (new truthiness).WellFormed := by
  constructor
  · intro name a h
    cases h
  · intro a items h
    simp [new, Heap.empty, Heap.items?] at h

lemma WellFormed.push (hs : s.WellFormed) {v : Value} (hv : v.LivesIn s.heap) (a : ArrayRef) :
    (s.push a v).WellFormed := by
  constructor
  · intro name b hname
    exact (hs.names name b hname).push a v
  · intro b items hitems w hw c hc
    refine Heap.Has.push ?_ a v
    rcases Heap.mem_of_mem_push hitems hw with rfl | ⟨old, hold, hmem⟩
    · exact hv c hc
    · exact hs.items b old hold w hmem c hc

/-- The sessions a host gets to from a new one.  It evaluates, makes arrays of its own, and pushes
values whose arrays are there to any array. -/
inductive Reachable : Session → Prop where
  | new (truthiness : Truthiness) : Reachable (.new truthiness)
  | operand {s s' : Session} {o : Spanned Operand} {v : Value} (hs : Reachable s)
      (h : s.operand o = .ok (v, s')) : Reachable s'
  | comparison {s : Session} (hs : Reachable s) (c : Spanned Comparison) :
      Reachable (s.comparison c).2
  | script {s : Session} (hs : Reachable s) (script : Script) : Reachable (s.outcomes script).2
  | fresh {s : Session} (hs : Reachable s) : Reachable s.fresh.2
  | push {s : Session} (hs : Reachable s) {v : Value} (hv : v.LivesIn s.heap) (a : ArrayRef) :
      Reachable (s.push a v)

/-- **All sessions a host gets to are well formed.** -/
theorem Reachable.wellFormed (h : s.Reachable) : s.WellFormed := by
  induction h with
  | new truthiness => exact wellFormed_new truthiness
  | operand _ h ih => exact (growsTo_operand h).wellFormed ih
  | comparison _ c ih => exact (growsTo_comparison _ c).wellFormed ih
  | script _ script ih => exact (growsTo_outcomes _ script).wellFormed ih
  | fresh _ ih => exact wellFormed_fresh ih
  | push _ hv a ih => exact ih.push hv a

end Session
end LooseEquality
