import Mathlib

/-!
# Bisection by a predicate

Halving an interval on the answers to a question that may fail to be put. The
result is always a place where the answer changes; which of several it is
depends on the points the halving happens to ask about.
-/

namespace Bisection

set_option autoImplicit false

variable {Error : Type}

def middle (lo hi : Nat) : Nat := lo + (hi - lo) / 2

theorem lt_middle {lo hi : Nat} (wide : 1 < hi - lo) : lo < middle lo hi := by
  unfold middle
  omega

theorem middle_lt {lo hi : Nat} (wide : 1 < hi - lo) : middle lo hi < hi := by
  unfold middle
  omega

/-- Halve `(lo, hi)` down to one step, asking at every middle. -/
def search (ask : Nat → Except Error Bool) (lo hi : Nat) : Except Error Nat :=
  if _ : 1 < hi - lo then
    match ask (middle lo hi) with
    | .error error => .error error
    | .ok true => search ask (middle lo hi) hi
    | .ok false => search ask lo (middle lo hi)
  else .ok lo
termination_by hi - lo
decreasing_by
  · have higher := lt_middle ‹1 < hi - lo›
    omega
  · have lower := middle_lt ‹1 < hi - lo›
    omega

/-- The same over answers that are there. -/
def boundary (holds : Nat → Bool) (lo hi : Nat) : Nat :=
  if _ : 1 < hi - lo then
    if holds (middle lo hi) then boundary holds (middle lo hi) hi
    else boundary holds lo (middle lo hi)
  else lo
termination_by hi - lo
decreasing_by
  · have higher := lt_middle ‹1 < hi - lo›
    omega
  · have lower := middle_lt ‹1 < hi - lo›
    omega

/-- The middles asked about on the way to `target`. -/
def probes (target lo hi : Nat) : List Nat :=
  if _ : 1 < hi - lo then
    middle lo hi ::
      if middle lo hi ≤ target then probes target (middle lo hi) hi
      else probes target lo (middle lo hi)
  else []
termination_by hi - lo
decreasing_by
  · have higher := lt_middle ‹1 < hi - lo›
    omega
  · have lower := middle_lt ‹1 < hi - lo›
    omega

variable {holds : Nat → Bool} {lo hi : Nat}

theorem search_of_answers (holds : Nat → Bool) (lo hi : Nat) :
    search (fun id => (.ok (holds id) : Except Error Bool)) lo hi =
      .ok (boundary holds lo hi) := by
  induction lo, hi using boundary.induct holds with
  | case1 lo hi wide yes induction =>
      rw [search, dif_pos wide, boundary, dif_pos wide, if_pos yes, yes]
      exact induction
  | case2 lo hi wide no induction =>
      rw [Bool.not_eq_true] at no
      rw [search, dif_pos wide, boundary, dif_pos wide, no]
      exact induction
  | case3 lo hi narrow => rw [search, dif_neg narrow, boundary, dif_neg narrow]

/-- What a search returns rests on the answers it was given only. -/
theorem search_ok {ask : Nat → Except Error Bool} {found : Nat}
    (truthful : ∀ id answer, ask id = .ok answer → answer = holds id)
    (ran : search ask lo hi = .ok found) : found = boundary holds lo hi := by
  induction lo, hi using boundary.induct holds with
  | case1 lo hi wide yes induction =>
      rw [search, dif_pos wide] at ran
      rw [boundary, dif_pos wide, if_pos yes]
      cases asked : ask (middle lo hi) with
      | error error =>
          rw [asked] at ran
          cases ran
      | ok answer =>
          have told := truthful _ _ asked
          rw [asked, told, yes] at ran
          exact induction ran
  | case2 lo hi wide no induction =>
      rw [search, dif_pos wide] at ran
      rw [boundary, dif_pos wide, if_neg no]
      rw [Bool.not_eq_true] at no
      cases asked : ask (middle lo hi) with
      | error error =>
          rw [asked] at ran
          cases ran
      | ok answer =>
          have told := truthful _ _ asked
          rw [asked, told, no] at ran
          exact induction ran
  | case3 lo hi narrow =>
      rw [search, dif_neg narrow] at ran
      rw [boundary, dif_neg narrow]
      exact (Except.ok.inj ran).symm

theorem boundary_congr {holds' : Nat → Bool}
    (same : ∀ id, lo < id → id < hi → holds id = holds' id) :
    boundary holds lo hi = boundary holds' lo hi := by
  induction lo, hi using boundary.induct holds with
  | case1 lo hi wide yes induction =>
      have higher := lt_middle wide
      have yes' := (same _ higher (middle_lt wide)).symm.trans yes
      rw [boundary, dif_pos wide, if_pos yes]
      conv_rhs => rw [boundary, dif_pos wide, if_pos yes']
      apply induction
      intro id above below
      exact same id (by omega) below
  | case2 lo hi wide no induction =>
      have lower := middle_lt wide
      have no' : ¬holds' (middle lo hi) = true := by
        rw [← same _ (lt_middle wide) lower]
        exact no
      rw [boundary, dif_pos wide, if_neg no]
      conv_rhs => rw [boundary, dif_pos wide, if_neg no']
      apply induction
      intro id above below
      exact same id above (by omega)
  | case3 lo hi narrow =>
      rw [boundary, dif_neg narrow]
      conv_rhs => rw [boundary, dif_neg narrow]

theorem boundary_bounds (ordered : lo < hi) :
    lo ≤ boundary holds lo hi ∧ boundary holds lo hi < hi := by
  induction lo, hi using boundary.induct holds with
  | case1 lo hi wide mid induction =>
      have higher := lt_middle wide
      rw [boundary, dif_pos wide, if_pos mid]
      obtain ⟨above, below⟩ := induction (middle_lt wide)
      exact ⟨by omega, below⟩
  | case2 lo hi wide mid induction =>
      have lower := middle_lt wide
      rw [boundary, dif_pos wide, if_neg mid]
      obtain ⟨above, below⟩ := induction (lt_middle wide)
      exact ⟨above, by omega⟩
  | case3 lo hi narrow =>
      rw [boundary, dif_neg narrow]
      exact ⟨Nat.le_refl _, ordered⟩

/-- Below a no, the result is where it started or a yes, and right before a no. -/
theorem boundary_changes (ordered : lo < hi) (no : holds hi = false) :
    (boundary holds lo hi = lo ∨ holds (boundary holds lo hi) = true) ∧
      holds (boundary holds lo hi + 1) = false := by
  induction lo, hi using boundary.induct holds with
  | case1 lo hi wide mid induction =>
      rw [boundary, dif_pos wide, if_pos mid]
      obtain ⟨start, change⟩ := induction (middle_lt wide) no
      refine ⟨Or.inr ?_, change⟩
      cases start with
      | inl stayed =>
          rw [stayed]
          exact mid
      | inr yes => exact yes
  | case2 lo hi wide mid induction =>
      rw [boundary, dif_pos wide, if_neg mid]
      rw [Bool.not_eq_true] at mid
      exact induction (lt_middle wide) mid
  | case3 lo hi narrow =>
      have next : lo + 1 = hi := by omega
      rw [boundary, dif_neg narrow, next]
      exact ⟨Or.inl rfl, no⟩

/-- A place in the interval is the result exactly when every point asked about
on the way to it answers for its own side. -/
theorem boundary_eq_iff {target : Nat} (above : lo ≤ target) (below : target < hi) :
    boundary holds lo hi = target ↔
      ∀ probe ∈ probes target lo hi, (holds probe = true ↔ probe ≤ target) := by
  induction lo, hi using boundary.induct holds with
  | case1 lo hi wide mid induction =>
      rw [boundary, dif_pos wide, if_pos mid, probes, dif_pos wide]
      by_cases side : middle lo hi ≤ target
      · rw [if_pos side, List.forall_mem_cons, induction side below]
        simp [mid, side]
      · rw [if_neg side, List.forall_mem_cons]
        have missed := (@boundary_bounds holds _ _ (middle_lt wide)).1
        constructor
        · intro reached
          omega
        · intro answers
          exact absurd (answers.1.mp mid) side
  | case2 lo hi wide mid induction =>
      rw [boundary, dif_pos wide, if_neg mid, probes, dif_pos wide]
      by_cases side : middle lo hi ≤ target
      · rw [if_pos side, List.forall_mem_cons]
        have missed := (@boundary_bounds holds _ _ (lt_middle wide)).2
        constructor
        · intro reached
          omega
        · intro answers
          exact absurd (answers.1.mpr side) mid
      · rw [if_neg side, List.forall_mem_cons, induction above (by omega)]
        simp [mid, side]
  | case3 lo hi narrow =>
      rw [boundary, dif_neg narrow, probes, dif_neg narrow]
      simp
      omega

end Bisection
