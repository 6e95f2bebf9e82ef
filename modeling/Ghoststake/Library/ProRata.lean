import Mathlib
import Ghoststake.Library.Rounding

/-!
# Giving an amount away in proportion to shares

A holder of `shares` gives some of them away at a time, and each time passes on
the proportional part of an amount, rounded down. What is kept is the exact
proportion plus a drift that the remainders of the divisions make up.
-/

namespace ProRata

set_option autoImplicit false

open Rounding

/-- What is kept of `amount` when `value` of `shares` are given away. -/
def kept (amount shares value : Nat) : Nat := amount - mulDiv amount value shares

def keptAfter : Nat → Nat → List Nat → Nat
  | amount, _, [] => amount
  | amount, shares, value :: rest => keptAfter (kept amount shares value) (shares - value) rest

/-- The remainders of the divisions, each carried forward in proportion to the
shares still held. -/
def drift : Nat → Nat → List Nat → ℚ
  | _, _, [] => 0
  | amount, shares, value :: rest =>
      ((amount * value % shares : Nat) : ℚ) / shares *
          ((shares - value - rest.sum : Nat) / (shares - value : Nat)) +
        drift (kept amount shares value) (shares - value) rest

section Kept

variable {amount shares value : Nat} {values : List Nat}

@[simp] theorem kept_none (amount shares : Nat) : kept amount shares 0 = amount := by
  simp [kept]

theorem kept_of_nothing (shares value : Nat) : kept 0 shares value = 0 := by
  simp [kept]

theorem kept_whole (amount : Nat) (positive : 0 < shares) : kept amount shares shares = 0 := by
  rw [kept, mul_div_self amount positive, Nat.sub_self]

theorem kept_add_given (amount : Nat) (fits : value ≤ shares) :
    kept amount shares value + mulDiv amount value shares = amount :=
  Nat.sub_add_cancel (mul_div_le_left amount fits)

theorem kept_mul (fits : value ≤ shares) :
    kept amount shares value * shares = amount * (shares - value) + amount * value % shares := by
  have split := Nat.div_add_mod (amount * value) shares
  rw [Nat.mul_comm] at split
  have whole : amount * (shares - value) + amount * value = amount * shares := by
    rw [← Nat.mul_add, Nat.sub_add_cancel fits]
  have given : mulDiv amount value shares * shares = amount * value / shares * shares := rfl
  rw [kept, Nat.sub_mul, given]
  omega

theorem kept_after_nothing (shares : Nat) (values : List Nat) : keptAfter 0 shares values = 0 := by
  induction values generalizing shares with
  | nil => rfl
  | cons value rest ih =>
      rw [keptAfter, kept_of_nothing]
      exact ih _

theorem drift_of_nothing (shares : Nat) (values : List Nat) : drift 0 shares values = 0 := by
  induction values generalizing shares with
  | nil => rfl
  | cons value rest ih =>
      rw [drift, kept_of_nothing, ih]
      simp

theorem drift_of_no_shares (amount : Nat) (values : List Nat) : drift amount 0 values = 0 := by
  induction values generalizing amount with
  | nil => rfl
  | cons value rest ih =>
      rw [drift, Nat.zero_sub, ih]
      simp

theorem drift_nonneg (amount shares : Nat) (values : List Nat) :
    0 ≤ drift amount shares values := by
  induction values generalizing amount shares with
  | nil => exact le_refl 0
  | cons value rest ih =>
      rw [drift]
      have tail := ih (kept amount shares value) (shares - value)
      positivity

theorem kept_after_eq (amount : Nat) (positive : 0 < shares) (fits : values.sum ≤ shares) :
    (keptAfter amount shares values : ℚ) =
      amount * (shares - values.sum : Nat) / shares + drift amount shares values := by
  induction values generalizing amount shares with
  | nil =>
      have nonzero : (shares : ℚ) ≠ 0 := by positivity
      simp [keptAfter, drift, nonzero]
  | cons value rest ih =>
      rw [List.sum_cons] at fits ⊢
      rw [keptAfter, drift, ← Nat.sub_sub]
      rcases Nat.eq_zero_or_pos (shares - value) with none | some
      · -- everything has been given away, and the last division was exact
        obtain rfl : value = shares := by omega
        rw [kept_whole amount positive, kept_after_nothing, drift_of_nothing, Nat.sub_self]
        simp
      · have tail := ih (kept amount shares value) some (by omega)
        have division : kept amount shares value * shares =
            amount * (shares - value) + amount * value % shares := kept_mul (by omega)
        have cast : (kept amount shares value : ℚ) * shares =
            amount * (shares - value : Nat) + (amount * value % shares : Nat) := by
          exact_mod_cast division
        have nonzero : (shares : ℚ) ≠ 0 := by positivity
        have left : ((shares - value : Nat) : ℚ) ≠ 0 := by positivity
        have first : (kept amount shares value : ℚ) =
            (amount * (shares - value : Nat) + (amount * value % shares : Nat)) / shares := by
          rw [← cast]
          field_simp
        rw [tail, first]
        field_simp
        ring

end Kept

end ProRata
