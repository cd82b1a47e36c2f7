import LooseEquality.Value

/-!
# Heaps

A heap records what each array holds.  Arrays are only ever added and only ever grow: `Heap.alloc`
makes a new one, `Heap.push` appends to one, and nothing is removed.

The view of a heap is `Heap.items?`, the elements of the array behind a reference.  Each operation
is described by what it does to that view: a new array is seen through the new reference only
(`items?_alloc_self`, `items?_alloc_of_lt`), and a push is seen through the reference that was
pushed to and through no other (`items?_push_self`, `items?_push_of_ne`).
-/

namespace LooseEquality

/-- The contents of all arrays, in the order in which they were made. -/
structure Heap where
  arrays : Array (Array Value)
  deriving DecidableEq

namespace Heap

/-- The heap without arrays. -/
def empty : Heap := ⟨#[]⟩

/-- The elements of an array, or nothing if the heap has no such array. -/
def items? (h : Heap) (a : ArrayRef) : Option (Array Value) := h.arrays[a.index]?

/-- The number of elements of an array; `0` if the heap has no such array. -/
def length (h : Heap) (a : ArrayRef) : Nat := ((h.items? a).map Array.size).getD 0

/-- Make a new array that holds the given values. -/
def alloc (h : Heap) (items : Array Value) : ArrayRef × Heap :=
  (⟨h.arrays.size⟩, ⟨h.arrays.push items⟩)

/-- Append a value to an array. -/
def push (h : Heap) (a : ArrayRef) (v : Value) : Heap :=
  ⟨h.arrays.modify a.index (·.push v)⟩

/-! ## What the operations do to the view -/

theorem items?_alloc_self (h : Heap) (items : Array Value) :
    (h.alloc items).2.items? (h.alloc items).1 = some items := by
  simp [alloc, items?]

/-- Making an array leaves the arrays that were there as they were. -/
theorem items?_alloc_of_lt (h : Heap) (items : Array Value) {a : ArrayRef}
    (ha : a.index < h.arrays.size) : (h.alloc items).2.items? a = h.items? a := by
  simp [alloc, items?, Array.getElem?_push, Nat.ne_of_lt ha]

theorem items?_push_self (h : Heap) (a : ArrayRef) (v : Value) :
    (h.push a v).items? a = (h.items? a).map (·.push v) := by
  simp [push, items?, Array.getElem?_modify]

/-- A push is not seen through any other array. -/
theorem items?_push_of_ne (h : Heap) {a b : ArrayRef} (v : Value) (hab : a ≠ b) :
    (h.push a v).items? b = h.items? b := by
  have : a.index ≠ b.index := fun e => hab (by cases a; cases b; simp_all)
  simp [push, items?, Array.getElem?_modify, this]

end Heap
end LooseEquality
