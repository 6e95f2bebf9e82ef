import Mathlib

/-!
# Rounding on a scale of steps

Rounding half up to a multiple of a step, and to a step that grows with the
magnitude of what is rounded: as long as the bounds between magnitudes are
multiples of the steps on either side of them, a number never crosses a bound
by being rounded, so the order of the numbers survives.
-/

namespace StepScale

set_option autoImplicit false

/-- The multiple of `step` nearest to `n`, the higher of two. -/
def roundTo (step n : Nat) : Nat :=
  (n + step / 2) / step * step

theorem dvd_round_to (step n : Nat) : step ∣ roundTo step n :=
  Nat.dvd_mul_left step _

theorem round_to_le (step n : Nat) : roundTo step n ≤ n + step / 2 :=
  Nat.div_mul_le_self _ _

theorem lt_round_to_add {step : Nat} (positive : 0 < step) (n : Nat) :
    n + step / 2 < roundTo step n + step := by
  have short := Nat.lt_div_mul_add positive (a := n + step / 2)
  exact short

theorem round_to_mono (step : Nat) {low high : Nat} (ordered : low ≤ high) :
    roundTo step low ≤ roundTo step high := by
  apply Nat.mul_le_mul_right
  apply Nat.div_le_div_right
  omega

theorem round_to_of_dvd {step n : Nat} (positive : 0 < step) (multiple : step ∣ n) :
    roundTo step n = n := by
  have whole := Nat.div_mul_cancel multiple
  have half : step / 2 / step = 0 := Nat.div_eq_of_lt (by omega)
  unfold roundTo
  rw [← whole, Nat.add_comm, Nat.add_mul_div_right _ _ positive, half, Nat.zero_add]

theorem round_to_le_of_dvd {step n bound : Nat} (positive : 0 < step) (multiple : step ∣ bound)
    (below : n ≤ bound) : roundTo step n ≤ bound := by
  calc roundTo step n ≤ roundTo step bound := round_to_mono step below
    _ = bound := round_to_of_dvd positive multiple

theorem le_round_to_of_dvd {step n bound : Nat} (positive : 0 < step) (multiple : step ∣ bound)
    (above : bound ≤ n) : bound ≤ roundTo step n := by
  calc bound = roundTo step bound := (round_to_of_dvd positive multiple).symm
    _ ≤ roundTo step n := round_to_mono step above

/-- A step for each magnitude; magnitude `k` is what lies from `bound k` up to
`bound (k + 1)`, both multiples of its step. -/
structure Scale where
  step : Nat → Nat
  bound : Nat → Nat
  magnitude : Nat → Nat
  step_pos : ∀ k, 0 < step k
  bound_mono : Monotone bound
  bound_le : ∀ n, bound (magnitude n) ≤ n
  lt_bound : ∀ n, n < bound (magnitude n + 1)
  step_dvd_bound : ∀ k, step k ∣ bound k
  step_dvd_next : ∀ k, step k ∣ bound (k + 1)

namespace Scale

variable (scale : Scale)

/-- Rounded to the step of its magnitude, and at least one such step. -/
def round (n : Nat) : Nat :=
  if roundTo (scale.step (scale.magnitude n)) n = 0 then scale.step (scale.magnitude n)
  else roundTo (scale.step (scale.magnitude n)) n

theorem round_eq_max (n : Nat) :
    scale.round n = max (scale.step (scale.magnitude n))
      (roundTo (scale.step (scale.magnitude n)) n) := by
  unfold round
  split
  · rename_i vanished
    rw [vanished]
    exact (Nat.max_eq_left (Nat.zero_le _)).symm
  · rename_i positive
    have multiple := dvd_round_to (scale.step (scale.magnitude n)) n
    exact (Nat.max_eq_right (Nat.le_of_dvd (Nat.pos_of_ne_zero positive) multiple)).symm

theorem round_pos (n : Nat) : 0 < scale.round n := by
  rw [round_eq_max]
  exact Nat.lt_of_lt_of_le (scale.step_pos _) (Nat.le_max_left _ _)

theorem step_dvd_round (n : Nat) : scale.step (scale.magnitude n) ∣ scale.round n := by
  unfold round
  split
  · exact Nat.dvd_refl _
  · exact dvd_round_to _ _

theorem bound_le_round (n : Nat) : scale.bound (scale.magnitude n) ≤ scale.round n := by
  rw [round_eq_max]
  apply Nat.le_trans _ (Nat.le_max_right _ _)
  exact le_round_to_of_dvd (scale.step_pos _) (scale.step_dvd_bound _) (scale.bound_le n)

theorem round_le_next (n : Nat) : scale.round n ≤ scale.bound (scale.magnitude n + 1) := by
  rw [round_eq_max]
  apply Nat.max_le.mpr
  have inside := scale.lt_bound n
  constructor
  · exact Nat.le_of_dvd (by omega) (scale.step_dvd_next _)
  · exact round_to_le_of_dvd (scale.step_pos _) (scale.step_dvd_next _) (by omega)

theorem magnitude_mono {low high : Nat} (ordered : low ≤ high) :
    scale.magnitude low ≤ scale.magnitude high := by
  apply Nat.not_lt.mp
  intro reversed
  have low_bound := scale.bound_le low
  have high_bound := scale.lt_bound high
  have climb := scale.bound_mono (Nat.succ_le_of_lt reversed)
  rw [Nat.succ_eq_add_one] at climb
  omega

/-- Rounding keeps the order, whatever bounds lie between the two. -/
theorem round_mono {low high : Nat} (ordered : low ≤ high) :
    scale.round low ≤ scale.round high := by
  have magnitudes := scale.magnitude_mono ordered
  cases Nat.lt_or_eq_of_le magnitudes with
  | inl climbs =>
      -- the bound between the magnitudes separates the two rounded values
      have separated : scale.bound (scale.magnitude low + 1) ≤ scale.bound (scale.magnitude high) :=
        scale.bound_mono climbs
      calc scale.round low ≤ scale.bound (scale.magnitude low + 1) := scale.round_le_next low
        _ ≤ scale.bound (scale.magnitude high) := separated
        _ ≤ scale.round high := scale.bound_le_round high
  | inr level =>
      rw [round_eq_max, round_eq_max, level]
      exact max_le_max_left _ (round_to_mono _ ordered)

theorem round_of_dvd {n : Nat} (positive : 0 < n)
    (multiple : scale.step (scale.magnitude n) ∣ n) : scale.round n = n := by
  rw [round_eq_max, round_to_of_dvd (scale.step_pos _) multiple]
  exact Nat.max_eq_right (Nat.le_of_dvd positive multiple)

/-- What has been rounded stays where it is, also where it was carried onto
the bound of the next magnitude. -/
theorem round_round (n : Nat) : scale.round (scale.round n) = scale.round n := by
  apply scale.round_of_dvd (scale.round_pos n)
  have not_below : scale.magnitude n ≤ scale.magnitude (scale.round n) := by
    apply Nat.not_lt.mp
    intro fell
    have climb := scale.bound_mono (Nat.succ_le_of_lt fell)
    have inside := scale.lt_bound (scale.round n)
    have floor := scale.bound_le_round n
    rw [Nat.succ_eq_add_one] at climb
    omega
  cases Nat.lt_or_eq_of_le not_below with
  | inl carried =>
      have climb : scale.bound (scale.magnitude n + 1) ≤
          scale.bound (scale.magnitude (scale.round n)) := scale.bound_mono carried
      have landed : scale.round n = scale.bound (scale.magnitude (scale.round n)) := by
        have below := scale.round_le_next n
        have above := scale.bound_le (scale.round n)
        omega
      have multiple := scale.step_dvd_bound (scale.magnitude (scale.round n))
      rwa [← landed] at multiple
  | inr level =>
      rw [← level]
      exact scale.step_dvd_round n

/-- Half a step is all that rounding moves a number which has that much. -/
theorem round_near {n : Nat} (enough : scale.step (scale.magnitude n) / 2 ≤ n)
    (even : 2 ∣ scale.step (scale.magnitude n)) :
    scale.round n ≤ n + scale.step (scale.magnitude n) / 2 ∧
      n ≤ scale.round n + scale.step (scale.magnitude n) / 2 := by
  have positive := scale.step_pos (scale.magnitude n)
  have upper := round_to_le (scale.step (scale.magnitude n)) n
  have lower := lt_round_to_add positive n
  rw [round_eq_max]
  omega

end Scale

end StepScale
