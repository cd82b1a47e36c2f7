import LooseEquality.Proofs.Session.Growth

/-!
# Sessions that cannot be told apart

What a script says about a session is very little.  A comparison asks an array only whether it
counts as true, and evaluating brings forth empty arrays only, so all that can show is which names
stand for an array that holds something; and not even that if every array counts as true.

* `Session.Alike` — two sessions that agree on this much; their arrays may hold what they like, and
  be shared and nested in whatever way;
* `Value.Like` — values of two sessions that no comparison tells apart;
* `Session.Parallel` — one result in two sessions, which are alike afterwards and have their arrays
  as before.

**`parallel_of_alike`** says that evaluating in sessions that are alike goes in parallel.  The two
runs need to be compared only for what they answer (`comparison_of_alike`): how each of them changes
its session is a matter of that session alone, and leaves it alike to what it was
(`GrowsTo.alike`).
-/

namespace LooseEquality

/-- Values that are the same for every comparison, each with the heap of its own session.  Arrays
are if they count as true alike. -/
inductive Value.Like (truthiness : Truthiness) (h k : Heap) : Value → Value → Prop
  | same {v : Value} (hv : v.kind ≠ .array) : Like truthiness h k v v
  | array {a b : ArrayRef} {xs ys : Array Value} (ha : h.items? a = some xs)
      (hb : k.items? b = some ys)
      (hcounts : truthiness.ofLength xs.size = truthiness.ofLength ys.size) :
      Like truthiness h k (.array a) (.array b)

/-! ## Values in comparisons -/

section Like

variable {truthiness : Truthiness} {h h' k k' : Heap} {v v' w w' : Value}

lemma Value.Like.kind_eq (hv : v.Like truthiness h k w) : v.kind = w.kind := by
  cases hv <;> rfl

lemma Value.Like.mono (hv : v.Like truthiness h k w) (hh : h.KeptIn h') (hk : k.KeptIn k') :
    v.Like truthiness h' k' w := by
  cases hv with
  | same hv => exact .same hv
  | array ha hb hcounts => exact .array (hh _ _ ha) (hk _ _ hb) hcounts

/-- Whether two arrays count as true alike is a question of whether they are empty, and none at all
if every array does. -/
lemma ofLength_eq_of_iff {m n : Nat} (hmn : truthiness = .nonEmpty → (m = 0 ↔ n = 0)) :
    truthiness.ofLength m = truthiness.ofLength n := by
  cases truthiness with
  | always => rfl
  | nonEmpty =>
    have := hmn rfl
    rw [Truthiness.ofLength, Truthiness.ofLength, Bool.eq_iff_iff]
    simp [this]

lemma length_of_items? {a : ArrayRef} {xs : Array Value} (ha : h.items? a = some xs) :
    h.length a = xs.size := by
  simp [Heap.length, ha]

/-- Rules ask nothing of a heap but whether an array counts as true. -/
lemma holds?_of_like (r : Rule) (hv : v.Like truthiness h k v') (hw : w.Like truthiness h k w') :
    r.holds? truthiness h v w = r.holds? truthiness k v' w' := by
  cases r with
  | booleanArray =>
    cases hv with
    | array ha hb hcounts => rfl
    | same hv =>
      cases hw with
      | array ha hb hcounts =>
        cases v with
        | boolean x => simp only [Rule.holds?, length_of_items? ha, length_of_items? hb, hcounts]
        | _ => rfl
      | same hw =>
        cases w with
        | array a => exact absurd rfl hw
        | _ => cases v <;> rfl
  | _ =>
    -- the heap is of no concern to these, nor is an array, except that it is not null
    cases hv with
    | array ha hb hcounts => rfl
    | same hv =>
      cases hw with
      | array hc hd hcounts => cases v <;> rfl
      | same hw => cases v <;> cases w <;> rfl

lemma equal?_of_like (hv : v.Like truthiness h k v') (hw : w.Like truthiness h k w') :
    Equality.equal? truthiness h v w = Equality.equal? truthiness k v' w' := by
  simp only [Equality.equal?, hv.kind_eq, hw.kind_eq, holds?_of_like _ hv hw,
    holds?_of_like _ hw hv]

/-- **Values that are alike compare alike.** -/
theorem evaluate_of_like (op : Operator) (hv : v.Like truthiness h k v')
    (hw : w.Like truthiness h k w') :
    Equality.evaluate truthiness h op v w = Equality.evaluate truthiness k op v' w' := by
  simp only [Equality.evaluate, equal?_of_like hv hw, hv.kind_eq, hw.kind_eq]

end Like

namespace Session

/-- Two well-formed sessions are alike if the same names are vacant in both.  Where every array
counts as true, not even that is asked. -/
structure Alike (s t : Session) : Prop where
  wellFormed_left : s.WellFormed
  wellFormed_right : t.WellFormed
  truthiness_eq : s.truthiness = t.truthiness
  vacant_iff : s.truthiness = .nonEmpty → ∀ name, s.Vacant name ↔ t.Vacant name

/-- What evaluating in two sessions comes to if neither shows in which it was: one result for both,
sessions that are alike afterwards, and in each of them every array as it was before. -/
structure Parallel {α : Type} (s t : Session) (x y : α × Session) : Prop where
  result_eq : x.1 = y.1
  alike : Alike x.2 y.2
  kept_left : s.heap.KeptIn x.2.heap
  kept_right : t.heap.KeptIn y.2.heap

variable {s s' t t' : Session}

lemma Alike.symm (h : Alike s t) : Alike t s where
  wellFormed_left := h.wellFormed_right
  wellFormed_right := h.wellFormed_left
  truthiness_eq := h.truthiness_eq.symm
  vacant_iff htruth name := (h.vacant_iff (h.truthiness_eq.trans htruth) name).symm

lemma Alike.trans {u : Session} (h : Alike s t) (h' : Alike t u) : Alike s u where
  wellFormed_left := h.wellFormed_left
  wellFormed_right := h'.wellFormed_right
  truthiness_eq := h.truthiness_eq.trans h'.truthiness_eq
  vacant_iff htruth name :=
    (h.vacant_iff htruth name).trans (h'.vacant_iff (h.truthiness_eq ▸ htruth) name)

/-- **Evaluating leaves a session alike to what it was.** -/
theorem GrowsTo.alike (h : s.GrowsTo s') (hs : s.WellFormed) : Alike s s' where
  wellFormed_left := hs
  wellFormed_right := h.wellFormed hs
  truthiness_eq := h.truthiness_eq.symm
  vacant_iff _ name := (h.vacant_iff hs name).symm

/-- So two sessions that are alike stay so, whatever is evaluated in either. -/
lemma Alike.grow (h : Alike s t) (hs : s.GrowsTo s') (ht : t.GrowsTo t') : Alike s' t' :=
  ((hs.alike h.wellFormed_left).symm.trans h).trans (ht.alike h.wellFormed_right)

/-! ## Operands -/

/-- A named array is empty if the name was vacant, and only then. -/
lemma items?_named (hs : s.WellFormed) (name : String) :
    ∃ xs, (s.named name).2.heap.items? (s.named name).1 = some xs ∧
      (xs.size = 0 ↔ s.Vacant name) := by
  cases hname : s.names.lookup name with
  | none =>
    refine ⟨#[], ?_, by simp [Vacant, hname]⟩
    simp only [named, hname]
    exact items?_fresh s
  | some a =>
    obtain ⟨xs, hxs⟩ := hs.names name a hname
    refine ⟨xs, by simp only [named, hname, hxs], ?_⟩
    simp [Vacant, hname, hxs]

/-- What a literal denotes in two sessions: values that are alike, or the same fault. -/
inductive LikeResults (truthiness : Truthiness) :
    Except Fault (Value × Session) → Except Fault (Value × Session) → Prop
  | ok {v w : Value} {s' t' : Session} (hv : v.Like truthiness s'.heap t'.heap w) :
      LikeResults truthiness (.ok (v, s')) (.ok (w, t'))
  | error (fault : Fault) : LikeResults truthiness (.error fault) (.error fault)

lemma likeResults_pure (x : Except Fault Value) (hx : ∀ v, x = .ok v → v.kind ≠ .array) :
    LikeResults s.truthiness (x.map (·, s)) (x.map (·, t)) := by
  cases x with
  | error fault => exact .error fault
  | ok v => exact .ok (.same (hx v rfl))

lemma likeResults_array (h : Alike s t) (text : String) :
    LikeResults s.truthiness (s.literal .array text) (t.literal .array text) := by
  simp only [literal, array]
  split
  · exact .ok (.array (items?_fresh s) (items?_fresh t) rfl)
  · split
    · obtain ⟨xs, hxs, hempty⟩ := items?_named h.wellFormed_left text
      obtain ⟨ys, hys, hempty'⟩ := items?_named h.wellFormed_right text
      refine .ok (.array hxs hys (ofLength_eq_of_iff fun htruth => ?_))
      rw [hempty, hempty']
      exact h.vacant_iff htruth text
    · exact .error _

lemma likeResults_literal (h : Alike s t) (kind : Kind) (text : String) :
    LikeResults s.truthiness (s.literal kind text) (t.literal kind text) := by
  cases kind with
  | null => exact .ok (.same (by simp [Value.kind]))
  | string => exact .ok (.same (by simp [Value.kind]))
  | array => exact likeResults_array h text
  | boolean =>
    exact likeResults_pure _ fun v => kind_of_map_orInvalid fun b => by simp [Value.kind]
  | integer =>
    exact likeResults_pure _ fun v => kind_of_map_orInvalid fun i => by simp [Value.kind]
  | real =>
    exact likeResults_pure _ fun v => kind_of_map_orInvalid fun r => by simp [Value.kind]

lemma likeResults_operand (h : Alike s t) (o : Spanned Operand) :
    LikeResults s.truthiness (s.operand o) (t.operand o) := by
  have hlit := likeResults_literal h o.val.kind o.val.literalText
  simp only [operand]
  generalize s.literal o.val.kind o.val.literalText = x at hlit ⊢
  generalize t.literal o.val.kind o.val.literalText = y at hlit ⊢
  cases hlit with
  | ok hv => exact .ok hv
  | error fault => exact .error _

/-! ## Comparisons and scripts -/

/-- **One comparison** has one answer in sessions that are alike. -/
theorem comparison_of_alike (h : Alike s t) (c : Spanned Comparison) :
    (s.comparison c).1 = (t.comparison c).1 := by
  have hlhs := likeResults_operand h c.val.lhs
  simp only [comparison]
  generalize hs₁ : s.operand c.val.lhs = x at hlhs ⊢
  generalize ht₁ : t.operand c.val.lhs = y at hlhs ⊢
  cases hlhs with
  | error fault => rfl
  | @ok v w s₁ t₁ hv =>
    have hgrow₁ := growsTo_operand hs₁
    have h₁ := h.grow hgrow₁ (growsTo_operand ht₁)
    have hrhs := likeResults_operand h₁ c.val.rhs
    simp only
    generalize hs₂ : s₁.operand c.val.rhs = x' at hrhs ⊢
    generalize ht₂ : t₁.operand c.val.rhs = y' at hrhs ⊢
    cases hrhs with
    | error fault => rfl
    | @ok v' w' s₂ t₂ hv' =>
      have hgrow₂ := growsTo_operand hs₂
      have hgrow₂' := growsTo_operand ht₂
      have h₂ := h₁.grow hgrow₂ hgrow₂'
      have htruth : s₂.truthiness = s.truthiness :=
        hgrow₂.truthiness_eq.trans hgrow₁.truthiness_eq
      rw [hgrow₁.truthiness_eq] at hv'
      have heval := evaluate_of_like c.val.op.val (hv.mono hgrow₂.kept hgrow₂'.kept) hv'
      simp only [← h₂.truthiness_eq, htruth, heval, hv.kind_eq, hv'.kind_eq]
      cases Equality.evaluate s.truthiness t₂.heap c.val.op.val w w' <;> rfl

lemma transcript_of_alike (h : Alike s t) (script : Script) :
    (s.transcript script).1 = (t.transcript script).1 := by
  induction script generalizing s t with
  | nil => rfl
  | cons c cs ih =>
    have hanswer := comparison_of_alike h c
    have hnext := h.grow (growsTo_comparison s c) (growsTo_comparison t c)
    simp only [transcript]
    generalize s.comparison c = x at hanswer hnext ⊢
    generalize t.comparison c = y at hanswer hnext ⊢
    obtain ⟨answer, s₁⟩ := x
    obtain ⟨answer', t₁⟩ := y
    obtain rfl : answer = answer' := hanswer
    cases answer with
    | error fault => rfl
    | ok outcome => simp only [ih hnext]

lemma run_of_alike (h : Alike s t) (text : String) : (s.run text).1 = (t.run text).1 := by
  simp only [run]
  split
  · rfl
  · exact transcript_of_alike h _

lemma parallel_of_growsTo {α : Type} {x y : α × Session} (h : Alike s t) (hxy : x.1 = y.1)
    (hs : s.GrowsTo x.2) (ht : t.GrowsTo y.2) : Parallel s t x y :=
  ⟨hxy, h.grow hs ht, hs.kept, ht.kept⟩

/-- **Sessions that are alike cannot be told apart.**  A comparison, a script evaluated in either
way, and a text that is run have one result in both, faults included.  The sessions they lead to are
alike again, and all arrays there were hold what they held, also if a fault was met midway. -/
theorem parallel_of_alike (h : Alike s t) :
    (∀ c, Parallel s t (s.comparison c) (t.comparison c)) ∧
    (∀ script, Parallel s t (s.outcomes script) (t.outcomes script)) ∧
    (∀ script, Parallel s t (s.transcript script) (t.transcript script)) ∧
    (∀ text, Parallel s t (s.run text) (t.run text)) := by
  refine ⟨fun c => ?_, fun script => ?_, fun script => ?_, fun text => ?_⟩
  · exact parallel_of_growsTo h (comparison_of_alike h c) (growsTo_comparison s c)
      (growsTo_comparison t c)
  · refine parallel_of_growsTo h ?_ (growsTo_outcomes s script) (growsTo_outcomes t script)
    rw [outcomes_eq, outcomes_eq, transcript_of_alike h script]
  · exact parallel_of_growsTo h (transcript_of_alike h script) (growsTo_transcript s script)
      (growsTo_transcript t script)
  · exact parallel_of_growsTo h (run_of_alike h text) (growsTo_run s text) (growsTo_run t text)

/-! Two sessions with little in common: in one the only array contains itself, in the other there is
an empty array with a name of its own. -/

def tangled : Session := ⟨.nonEmpty, ⟨#[#[.array ⟨0⟩, .integer 1]]⟩, [("a", ⟨0⟩)]⟩

def spread : Session := ⟨.nonEmpty, ⟨#[#[], #[.null]]⟩, [("b", ⟨0⟩), ("a", ⟨1⟩)]⟩

lemma wellFormed_tangled : tangled.WellFormed := by
  constructor
  · intro name a hname
    simp only [tangled, lookup_cons_eq_ite] at hname
    split at hname
    · cases hname
      exact ⟨_, rfl⟩
    · cases hname
  · intro a items hitems v hv b hb
    have hmem := Array.mem_of_getElem? hitems
    simp only [tangled, List.mem_toArray, List.mem_singleton] at hmem
    subst hmem
    simp [hb] at hv
    subst hv
    exact ⟨_, rfl⟩

lemma wellFormed_spread : spread.WellFormed := by
  constructor
  · intro name a hname
    simp only [spread, lookup_cons_eq_ite] at hname
    split at hname
    · cases hname
      exact ⟨_, rfl⟩
    · split at hname
      · cases hname
        exact ⟨_, rfl⟩
      · cases hname
  · intro a items hitems v hv b hb
    have hmem := Array.mem_of_getElem? hitems
    simp only [spread, List.mem_toArray, List.mem_cons, List.not_mem_nil, or_false] at hmem
    rcases hmem with rfl | rfl <;> simp [hb] at hv

lemma alike_tangled_spread : Alike tangled spread := by
  refine ⟨wellFormed_tangled, wellFormed_spread, rfl, fun _ name => ?_⟩
  simp only [Vacant, tangled, spread, lookup_cons_eq_ite]
  by_cases ha : name = "a"
  · subst ha
    simp [Heap.items?]
  · by_cases hb : name = "b"
    · simp [hb, Heap.items?]
    · simp [ha, hb]

theorem parallel_tangled_spread :
    Alike tangled spread ∧
      Parallel tangled spread
        (tangled.run "array a == boolean true; array b != boolean no; integer x == array a")
        (spread.run "array a == boolean true; array b != boolean no; integer x == array a") :=
  ⟨alike_tangled_spread, (parallel_of_alike alike_tangled_spread).2.2.2 _⟩

end Session
end LooseEquality
