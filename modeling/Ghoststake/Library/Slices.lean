import Mathlib

/-!
# Slices that share arrays

A slice is the front of an array. Appending writes into the array where it has
room, whoever else holds a slice of it, and copies into a new one where it has
not. What an append leaves of the other slices is told by where it writes.
-/

set_option autoImplicit false

namespace Slices

/-- The first `length` cells of an array. -/
structure Slice where
  array : Nat
  length : Nat
  deriving DecidableEq

/-- Arrays by number, with all their cells, and the first number not in use. -/
structure Heap (α : Type) where
  arrays : Nat → List α
  next : Nat

variable {α : Type}

namespace Heap

def empty : Heap α := ⟨fun _ => [], 0⟩

def view (heap : Heap α) (s : Slice) : List α := (heap.arrays s.array).take s.length

def alloc (heap : Heap α) (cells : List α) : Heap α where
  arrays := Function.update heap.arrays heap.next cells
  next := heap.next + 1

def write (heap : Heap α) (n : Nat) (cells : List α) : Heap α :=
  { heap with arrays := Function.update heap.arrays n cells }

def Holds (heap : Heap α) (s : Slice) : Prop :=
  s.array < heap.next ∧ s.length ≤ (heap.arrays s.array).length

def room (heap : Heap α) (s : Slice) : Bool := s.length < (heap.arrays s.array).length

section Append

-- the value of a cell that was not written, and how much room a new array gets
variable [Inhabited α] (capacity : Nat → Nat)

/-- The heap after an append: a cell written in place, or a new array. -/
def append (heap : Heap α) (s : Slice) (a : α) : Heap α :=
  if heap.room s then heap.write s.array ((heap.arrays s.array).set s.length a)
  else
    let cells := heap.view s ++ [a]
    heap.alloc (cells ++ List.replicate (capacity s.length - cells.length) default)

def appended (heap : Heap α) (s : Slice) : Slice where
  array := if heap.room s then s.array else heap.next
  length := s.length + 1

end Append

end Heap

open Heap

section Lemmas

variable {heap : Heap α} {s t : Slice} {cells : List α}

@[simp]
theorem arrays_write_self (n : Nat) : (heap.write n cells).arrays n = cells := by
  simp [write]

theorem arrays_write_of_ne {n m : Nat} (apart : m ≠ n) :
    (heap.write n cells).arrays m = heap.arrays m := by
  simp [write, apart]

@[simp]
theorem arrays_alloc_self : (heap.alloc cells).arrays heap.next = cells := by
  simp [alloc]

theorem arrays_alloc_of_lt {m : Nat} (old : m < heap.next) :
    (heap.alloc cells).arrays m = heap.arrays m := by
  simp [alloc, Nat.ne_of_lt old]

theorem length_view (holds : heap.Holds s) : (heap.view s).length = s.length := by
  rw [view, List.length_take]
  exact Nat.min_eq_left holds.2

theorem view_alloc_of_lt (old : s.array < heap.next) (cells : List α) :
    (heap.alloc cells).view s = heap.view s := by
  rw [view, arrays_alloc_of_lt old]
  rfl

theorem holds_alloc (holds : heap.Holds s) (cells : List α) : (heap.alloc cells).Holds s := by
  refine ⟨holds.1.trans (Nat.lt_succ_self _), ?_⟩
  rw [arrays_alloc_of_lt holds.1]
  exact holds.2

theorem view_of_alloc (cells : List α) (length : Nat) :
    (heap.alloc cells).view ⟨heap.next, length⟩ = cells.take length := by
  show ((heap.alloc cells).arrays heap.next).take length = cells.take length
  rw [arrays_alloc_self]

theorem holds_of_alloc {length : Nat} (fits : length ≤ cells.length) :
    (heap.alloc cells).Holds ⟨heap.next, length⟩ := by
  refine ⟨Nat.lt_succ_self _, ?_⟩
  show length ≤ ((heap.alloc cells).arrays heap.next).length
  rw [arrays_alloc_self]
  exact fits

theorem take_set_of_le {n m : Nat} (beyond : n ≤ m) (cells : List α) (a : α) :
    (cells.set m a).take n = cells.take n := by
  apply List.ext_getElem?
  intro i
  rw [List.getElem?_take, List.getElem?_take]
  split_ifs with inside
  · exact List.getElem?_set_ne (by omega)
  · rfl

theorem set_of_getElem? {m : Nat} {a : α} (there : cells[m]? = some a) : cells.set m a = cells := by
  obtain ⟨inside, is⟩ := List.getElem?_eq_some_iff.1 there
  rw [← is]
  exact List.set_getElem_self inside

variable [Inhabited α] {capacity : Nat → Nat} {a : α}

theorem view_appended (holds : heap.Holds s) :
    (heap.append capacity s a).view (heap.appended s) = heap.view s ++ [a] := by
  unfold append appended
  split_ifs with room
  · have inside : s.length < (heap.arrays s.array).length := of_decide_eq_true room
    show ((heap.write s.array _).arrays s.array).take (s.length + 1) = heap.view s ++ [a]
    rw [view, arrays_write_self, List.take_add_one, take_set_of_le (Nat.le_refl _),
      List.getElem?_set_self inside]
    rfl
  · have whole : s.length + 1 = (heap.view s ++ [a]).length := by
      rw [List.length_append, length_view holds]
      rfl
    rw [view_of_alloc, whole, List.take_left]

theorem holds_appended (holds : heap.Holds s) :
    (heap.append capacity s a).Holds (heap.appended s) := by
  unfold append appended
  split_ifs with room
  · have inside : s.length < (heap.arrays s.array).length := of_decide_eq_true room
    refine ⟨holds.1, ?_⟩
    show s.length + 1 ≤ ((heap.write s.array _).arrays s.array).length
    rw [arrays_write_self, List.length_set]
    exact inside
  · apply holds_of_alloc
    rw [List.length_append, List.length_append, length_view holds]
    exact Nat.le_add_right _ _

theorem next_le_append : heap.next ≤ (heap.append capacity s a).next := by
  unfold append
  split_ifs
  · exact Nat.le_refl _
  · exact Nat.le_succ _

theorem holds_append (holds : heap.Holds t) : (heap.append capacity s a).Holds t := by
  unfold append
  split_ifs
  · refine ⟨holds.1, ?_⟩
    by_cases same : t.array = s.array
    · rw [same, arrays_write_self, List.length_set, ← same]
      exact holds.2
    · rw [arrays_write_of_ne same]
      exact holds.2
  · exact holds_alloc holds _

/-- What an append to `s` leaves of `t`: all of it, unless it writes another
value into one of its cells. -/
theorem view_append (holds : heap.Holds t)
    (spares : t.array = s.array → s.length < t.length → (heap.view t)[s.length]? = some a) :
    (heap.append capacity s a).view t = heap.view t := by
  unfold append
  split_ifs with room
  · rw [view, view]
    by_cases same : t.array = s.array
    · rw [same, arrays_write_self]
      rcases Nat.lt_or_ge s.length t.length with inside | beyond
      · have there := spares same inside
        rw [view, same, List.getElem?_take_of_lt inside] at there
        rw [set_of_getElem? there]
      · exact take_set_of_le beyond _ _
    · rw [arrays_write_of_ne same]
  · exact view_alloc_of_lt holds.1 _

end Lemmas

end Slices
