import Mathlib

/-!
# Sums over a finite map that changes at a point

A balance map is a function that is updated at one key at a time; these lemmas
say what an update does to the sum over all keys.
-/

namespace PointSums

set_option autoImplicit false

variable {Key : Type} [DecidableEq Key] [Fintype Key]

theorem sum_update_add (f : Key → Nat) (key : Key) (value : Nat) :
    ∑ k, Function.update f key value k + f key = ∑ k, f k + value := by
  rw [Finset.sum_update_of_mem (Finset.mem_univ key)]
  have split := Finset.add_sum_erase Finset.univ f (Finset.mem_univ key)
  rw [Finset.sdiff_singleton_eq_erase]
  omega

theorem sum_credit (f : Key → Nat) (key : Key) (amount : Nat) :
    ∑ k, Function.update f key (f key + amount) k = ∑ k, f k + amount := by
  have update := sum_update_add f key (f key + amount)
  omega

theorem sum_debit (f : Key → Nat) (key : Key) {amount : Nat} (le : amount ≤ f key) :
    ∑ k, Function.update f key (f key - amount) k + amount = ∑ k, f k := by
  have update := sum_update_add f key (f key - amount)
  omega

omit [DecidableEq Key] in
theorem le_sum (f : Key → Nat) (key : Key) : f key ≤ ∑ k, f k :=
  Finset.single_le_sum (fun _ _ => Nat.zero_le _) (Finset.mem_univ key)

omit [Fintype Key] in
/-- Two maps that differ at one key only have sums that differ by the change there. -/
theorem sum_add_of_eq_off_mem (keys : Finset Key) (f g : Key → Nat) {key : Key}
    (member : key ∈ keys) (same : ∀ k, k ≠ key → f k = g k) :
    ∑ k ∈ keys, f k + g key = ∑ k ∈ keys, g k + f key := by
  have left := Finset.add_sum_erase keys f member
  have right := Finset.add_sum_erase keys g member
  have rest : ∑ k ∈ keys.erase key, f k = ∑ k ∈ keys.erase key, g k :=
    Finset.sum_congr rfl fun k inside => same k (Finset.ne_of_mem_erase inside)
  omega

omit [DecidableEq Key] [Fintype Key] in
/-- The same along a list that has the key once. -/
theorem sum_map_add_of_eq_off {keys : List Key} (f g : Key → Nat) {key : Key}
    (once : keys.Nodup) (member : key ∈ keys) (same : ∀ k ∈ keys, k ≠ key → f k = g k) :
    (keys.map f).sum + g key = (keys.map g).sum + f key := by
  classical
  have left := List.sum_map_erase f member
  have right := List.sum_map_erase g member
  have rest : (keys.erase key).map f = (keys.erase key).map g := by
    apply List.map_congr_left
    intro k inside
    obtain ⟨apart, there⟩ := once.mem_erase_iff.mp inside
    exact same k there apart
  rw [rest] at left
  omega

theorem sum_add_of_eq_off (f g : Key → Nat) (key : Key)
    (same : ∀ k, k ≠ key → f k = g k) : ∑ k, f k + g key = ∑ k, g k + f key :=
  sum_add_of_eq_off_mem Finset.univ f g (Finset.mem_univ key) same

theorem sum_of_transfer {f g : Key → Nat} {source target : Key} {amount : Nat}
    (distinct : source ≠ target) (atSource : g source + amount = f source)
    (atTarget : g target = f target + amount)
    (elsewhere : ∀ k, k ≠ source → k ≠ target → g k = f k) : ∑ k, g k = ∑ k, f k := by
  have first := sum_update_add f source (g source)
  have second := sum_update_add (Function.update f source (g source)) target (g target)
  rw [Function.update_of_ne distinct.symm] at second
  have same : Function.update (Function.update f source (g source)) target (g target) = g := by
    funext k
    by_cases isTarget : k = target
    · rw [isTarget, Function.update_self]
    by_cases isSource : k = source
    · rw [Function.update_of_ne isTarget, isSource, Function.update_self]
    · rw [Function.update_of_ne isTarget, Function.update_of_ne isSource]
      exact (elsewhere k isSource isTarget).symm
  rw [same] at second
  omega

end PointSums
