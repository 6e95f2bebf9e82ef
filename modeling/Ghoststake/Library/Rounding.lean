import Mathlib

/-!
# Floor and ceiling division of products

The integer form of `x * y / denominator` that fixed-point programs use, with
one lemma for each side of the exact value, and what floors do when an amount
is split in proportion to weights or accrued in several pieces.
-/

namespace Rounding

set_option autoImplicit false

def mulDiv (x y denominator : Nat) : Nat := x * y / denominator

def mulDivUp (x y denominator : Nat) : Nat :=
  x * y / denominator + if x * y % denominator = 0 then 0 else 1

theorem mul_div_mul_le (x y denominator : Nat) :
    mulDiv x y denominator * denominator ≤ x * y :=
  Nat.div_mul_le_self _ _

theorem lt_mul_div_succ_mul (x y : Nat) {denominator : Nat} (positive : 0 < denominator) :
    x * y < (mulDiv x y denominator + 1) * denominator := by
  rw [Nat.mul_comm (mulDiv x y denominator + 1)]
  exact Nat.lt_mul_div_succ _ positive

theorem le_mul_div_iff {x y denominator k : Nat} (positive : 0 < denominator) :
    k ≤ mulDiv x y denominator ↔ k * denominator ≤ x * y :=
  Nat.le_div_iff_mul_le positive

theorem mul_div_le_of_le_mul {x y denominator k : Nat} (bound : x * y ≤ k * denominator) :
    mulDiv x y denominator ≤ k :=
  Nat.div_le_of_le_mul (by rwa [Nat.mul_comm denominator])

theorem mul_div_mono {x x' : Nat} (le : x ≤ x') (y denominator : Nat) :
    mulDiv x y denominator ≤ mulDiv x' y denominator :=
  Nat.div_le_div_right (Nat.mul_le_mul_right y le)

theorem mul_div_mono_right (x : Nat) {y y' : Nat} (le : y ≤ y') (denominator : Nat) :
    mulDiv x y denominator ≤ mulDiv x y' denominator :=
  Nat.div_le_div_right (Nat.mul_le_mul_left x le)

theorem mul_div_le_left (x : Nat) {y denominator : Nat} (le : y ≤ denominator) :
    mulDiv x y denominator ≤ x :=
  mul_div_le_of_le_mul (Nat.mul_le_mul_left x le)

/-- One unit more in is at most one unit more out. -/
theorem mul_div_succ_le (x : Nat) {y denominator : Nat} (le : y ≤ denominator)
    (positive : 0 < denominator) :
    mulDiv (x + 1) y denominator ≤ mulDiv x y denominator + 1 := by
  have floor := lt_mul_div_succ_mul x y positive
  have below : (x + 1) * y < (mulDiv x y denominator + 2) * denominator := by
    simp only [Nat.add_mul, Nat.one_mul] at floor ⊢
    omega
  exact Nat.le_of_lt_succ ((Nat.div_lt_iff_lt_mul positive).2 below)

@[simp] theorem mul_div_self (x : Nat) {denominator : Nat} (positive : 0 < denominator) :
    mulDiv x denominator denominator = x :=
  Nat.mul_div_cancel x positive

@[simp] theorem mul_div_zero_left (y denominator : Nat) : mulDiv 0 y denominator = 0 := by
  simp [mulDiv]

@[simp] theorem mul_div_zero_right (x denominator : Nat) : mulDiv x 0 denominator = 0 := by
  simp [mulDiv]

theorem le_mul_div_up_mul (x y : Nat) {denominator : Nat} (positive : 0 < denominator) :
    x * y ≤ mulDivUp x y denominator * denominator := by
  have split := Nat.div_add_mod (x * y) denominator
  have remainder := Nat.mod_lt (x * y) positive
  unfold mulDivUp
  split_ifs with exact_
  · rw [Nat.add_zero, Nat.mul_comm (x * y / denominator)]
    omega
  · rw [Nat.add_mul, Nat.one_mul, Nat.mul_comm (x * y / denominator)]
    omega

theorem mul_div_up_mul_lt (x y : Nat) {denominator : Nat} (positive : 0 < denominator) :
    mulDivUp x y denominator * denominator < x * y + denominator := by
  have split := Nat.div_add_mod (x * y) denominator
  unfold mulDivUp
  split_ifs with exact_
  · rw [Nat.add_zero, Nat.mul_comm (x * y / denominator)]
    omega
  · rw [Nat.add_mul, Nat.one_mul, Nat.mul_comm (x * y / denominator)]
    omega

theorem mul_div_up_le_iff {x y denominator k : Nat} (positive : 0 < denominator) :
    mulDivUp x y denominator ≤ k ↔ x * y ≤ k * denominator := by
  constructor
  · intro le
    exact (le_mul_div_up_mul x y positive).trans (Nat.mul_le_mul_right _ le)
  · intro le
    have upper := mul_div_up_mul_lt x y positive
    have below : mulDivUp x y denominator * denominator < (k + 1) * denominator := by
      rw [Nat.add_mul, Nat.one_mul]
      omega
    exact Nat.le_of_lt_succ (Nat.lt_of_mul_lt_mul_right below)

/-! ## The difference of two floors -/

/-- Taking `b` off a numerator lowers its floor by the floor of `b`, at least. -/
theorem div_sub_div_ge (a b : Nat) {denominator : Nat} (le : b ≤ a) (positive : 0 < denominator) :
    (a - b) / denominator + b / denominator ≤ a / denominator := by
  rw [Nat.le_div_iff_mul_le positive, Nat.add_mul]
  have left := Nat.div_mul_le_self (a - b) denominator
  have right := Nat.div_mul_le_self b denominator
  omega

/-- Taking at most `k` whole units off a numerator lowers its floor by at most `k`. -/
theorem div_sub_div_le (a : Nat) {b k denominator : Nat} (bound : b ≤ k * denominator)
    (positive : 0 < denominator) :
    a / denominator ≤ (a - b) / denominator + k := by
  have upper : a < ((a - b) / denominator + k + 1) * denominator := by
    have tail := Nat.lt_mul_div_succ (a - b) positive
    have expand : ((a - b) / denominator + k + 1) * denominator =
        denominator * ((a - b) / denominator + 1) + k * denominator := by ring
    omega
  exact Nat.le_of_lt_succ ((Nat.div_lt_iff_lt_mul positive).2 upper)

/-! ## Floors of the parts and of the whole -/

section Parts

variable {Holder : Type*}

theorem sum_div_le (holders : Finset Holder) (amount : Holder → Nat) (denominator : Nat) :
    ∑ holder ∈ holders, amount holder / denominator ≤
      (∑ holder ∈ holders, amount holder) / denominator := by
  rcases Nat.eq_zero_or_pos denominator with rfl | positive
  · simp
  rw [Nat.le_div_iff_mul_le positive, Finset.sum_mul]
  apply Finset.sum_le_sum
  intro holder _
  exact Nat.div_mul_le_self _ _

/-- The floors fall short by less than one unit for each part that is something. -/
theorem div_sum_le (holders : Finset Holder) (amount : Holder → Nat) {denominator : Nat}
    (positive : 0 < denominator) :
    (∑ holder ∈ holders, amount holder) / denominator ≤
      (∑ holder ∈ holders, amount holder / denominator) +
        ((holders.filter (amount · ≠ 0)).card - 1) := by
  have whole : ∑ holder ∈ holders, amount holder =
      ∑ holder ∈ holders.filter (amount · ≠ 0), amount holder :=
    (Finset.sum_filter_ne_zero holders).symm
  have floors : ∑ holder ∈ holders.filter (amount · ≠ 0), amount holder / denominator ≤
      ∑ holder ∈ holders, amount holder / denominator :=
    Finset.sum_le_sum_of_subset (Finset.filter_subset _ _)
  rw [whole]
  generalize holders.filter (amount · ≠ 0) = parts at floors ⊢
  rcases parts.eq_empty_or_nonempty with none | inhabited
  · simp [none]
  have below : ∑ holder ∈ parts, amount holder <
      ((∑ holder ∈ parts, amount holder / denominator) + parts.card) * denominator := by
    calc
      ∑ holder ∈ parts, amount holder <
          ∑ holder ∈ parts, (amount holder / denominator + 1) * denominator := by
        apply Finset.sum_lt_sum_of_nonempty inhabited
        intro holder _
        rw [Nat.mul_comm]
        exact Nat.lt_mul_div_succ _ positive
      _ = ((∑ holder ∈ parts, amount holder / denominator) + parts.card) * denominator := by
        rw [← Finset.sum_mul, Finset.sum_add_distrib, Finset.card_eq_sum_ones]
  have quotient := (Nat.div_lt_iff_lt_mul positive).2 below
  have some := inhabited.card_pos
  omega

/-- Splitting an amount in proportion to weights never pays out more than it. -/
theorem sum_mul_div_le (holders : Finset Holder) (amount total : Nat) (weight : Holder → Nat)
    (weights : ∑ holder ∈ holders, weight holder ≤ total) :
    ∑ holder ∈ holders, mulDiv amount (weight holder) total ≤ amount := by
  apply (sum_div_le holders (fun holder => amount * weight holder) total).trans
  rw [← Finset.mul_sum]
  exact mul_div_le_left amount weights

/-- A full split falls short by less than one unit for each holder. -/
theorem lt_sum_mul_div_add_card (holders : Finset Holder) (amount : Nat) {total : Nat}
    (weight : Holder → Nat) (weights : ∑ holder ∈ holders, weight holder = total)
    (positive : 0 < total) :
    amount < (∑ holder ∈ holders, mulDiv amount (weight holder) total) + holders.card := by
  have short := div_sum_le holders (fun holder => amount * weight holder) positive
  rw [← Finset.mul_sum, weights, Nat.mul_div_cancel amount positive] at short
  have few := Finset.card_filter_le holders (fun holder => amount * weight holder ≠ 0)
  have inhabited : holders.card ≠ 0 := by
    intro none
    rw [Finset.card_eq_zero] at none
    simp [none] at weights
    omega
  unfold mulDiv
  omega

end Parts

/-! ## Accruing in pieces -/

/-- Floors of the pieces and the remainders they drop make up the whole. -/
theorem sum_div_mul_add_sum_mod (pieces : List Nat) (denominator : Nat) :
    (pieces.map (· / denominator)).sum * denominator + (pieces.map (· % denominator)).sum =
      pieces.sum := by
  induction pieces with
  | nil => simp
  | cons head tail ih =>
      simp only [List.map_cons, List.sum_cons, Nat.add_mul]
      have split := Nat.div_add_mod head denominator
      rw [Nat.mul_comm] at split
      omega

/-- What accruing in pieces loses against accruing at once is the floor of the
dropped remainders. -/
theorem sum_div_eq (pieces : List Nat) {denominator : Nat} (positive : 0 < denominator) :
    pieces.sum / denominator =
      (pieces.map (· / denominator)).sum + (pieces.map (· % denominator)).sum / denominator := by
  rw [← sum_div_mul_add_sum_mod pieces denominator, Nat.add_comm,
    Nat.add_mul_div_right _ _ positive, Nat.add_comm]

end Rounding
