import Ghoststake.Library.StepScale

/-!
# The level a round asks about

How the keeper, and in its own words the operator console, turn a spot price
of 18 decimals into a strike someone would say out loud.
-/

set_option autoImplicit false

namespace Ghoststake

def decimalLength (whole : Int) : Nat := (Nat.toDigits 10 whole.toNat).length

namespace Keeper

def wad : Int := 10 ^ 18

def strikeStep (spot : Int) : Int :=
  let whole := spot / wad
  let digits := if whole = 0 then 0 else decimalLength whole
  let exponent := 18 + digits - 3
  10 ^ (if exponent < 16 then 16 else exponent)

/-- `StrikeFor`; a spot may be a nil pointer. -/
def strikeFor : Option Int → Option Int
  | none => none
  | some spot =>
      if spot ≤ 0 then none
      else
        let step := strikeStep spot
        let half := step / 2
        let strike := (spot + half) / step * step
        some (if strike = 0 then step else strike)

end Keeper

namespace Screen

def WAD : Int := 10 ^ 18

/-- `strikeStep` of the console; its division drops the fraction. -/
def strikeStep (spot : Int) : Int :=
  let whole := spot.tdiv WAD
  let digits := if whole = 0 then 0 else decimalLength whole
  let exponent := max 16 (18 + digits - 3)
  10 ^ exponent

/-- `strikeFor` of the console. -/
def strikeFor : Option Int → Option Int
  | none => none
  | some spot =>
      if spot ≤ 0 then none
      else
        let step := strikeStep spot
        let strike := (spot + step.tdiv 2).tdiv step * step
        some (if strike = 0 then step else strike)

end Screen

namespace Strike

open StepScale

/-- The digits of the whole units of a price, none of them below one unit. -/
def magnitude (spot : Nat) : Nat :=
  if spot / 10 ^ 18 = 0 then 0 else (Nat.toDigits 10 (spot / 10 ^ 18)).length

def step (digits : Nat) : Nat := 10 ^ max 16 (15 + digits)

def bound : Nat → Nat
  | 0 => 0
  | digits + 1 => 10 ^ (18 + digits)

theorem lt_bound (spot : Nat) : spot < bound (magnitude spot + 1) := by
  show spot < 10 ^ (18 + magnitude spot)
  have whole : spot / 10 ^ 18 < 10 ^ magnitude spot := by
    unfold magnitude
    split
    · rename_i small
      rw [small]
      exact Nat.one_pos
    · exact (Nat.length_toDigits_le_iff (by decide) Nat.length_toDigits_pos).mp (Nat.le_refl _)
  rw [Nat.add_comm, pow_add]
  exact (Nat.div_lt_iff_lt_mul (by positivity)).mp whole

theorem bound_le (spot : Nat) : bound (magnitude spot) ≤ spot := by
  unfold magnitude
  split
  · exact Nat.zero_le _
  · rename_i large
    have counted := Nat.length_toDigits_pos (b := 10) (n := spot / 10 ^ 18)
    obtain ⟨digits, length⟩ := Nat.exists_eq_succ_of_ne_zero (Nat.ne_of_gt counted)
    rw [length]
    show 10 ^ (18 + digits) ≤ spot
    have whole : 10 ^ digits ≤ spot / 10 ^ 18 := by
      cases digits with
      | zero => exact Nat.pos_of_ne_zero large
      | succ fewer =>
          apply Nat.not_lt.mp
          intro short
          have fits := (Nat.length_toDigits_le_iff (b := 10) (by decide) (Nat.succ_pos fewer)).mpr short
          omega
    rw [Nat.add_comm, pow_add]
    exact (Nat.le_div_iff_mul_le (by positivity)).mp whole

theorem bound_mono : Monotone bound := by
  apply monotone_nat_of_le_succ
  intro digits
  cases digits with
  | zero => exact Nat.zero_le _
  | succ digits => exact Nat.pow_le_pow_right (by decide) (by omega)

/-- The steps strikes are rounded to, a thousandth of the magnitude's size. -/
def scale : Scale where
  step := step
  bound := bound
  magnitude := magnitude
  step_pos digits := by
    unfold step
    positivity
  bound_mono := bound_mono
  bound_le := bound_le
  lt_bound := lt_bound
  step_dvd_bound digits := by
    cases digits with
    | zero => exact Nat.dvd_zero _
    | succ digits => exact Nat.pow_dvd_pow 10 (by omega)
  step_dvd_next digits := Nat.pow_dvd_pow 10 (by omega)

theorem two_dvd_step (digits : Nat) : 2 ∣ step digits :=
  Nat.dvd_trans (by decide : 2 ∣ 10) (dvd_pow_self 10 (by omega))

/-- From one unit up, a step is at most a hundredth of the price. -/
theorem hundred_steps_le {spot : Nat} (large : 10 ^ 18 ≤ spot) :
    100 * step (magnitude spot) ≤ spot := by
  have nonzero : magnitude spot ≠ 0 := by
    have whole : spot / 10 ^ 18 ≠ 0 := Nat.ne_of_gt (Nat.div_pos large (by positivity))
    unfold magnitude
    rw [if_neg whole]
    exact Nat.ne_of_gt Nat.length_toDigits_pos
  obtain ⟨digits, length⟩ := Nat.exists_eq_succ_of_ne_zero nonzero
  have floor := bound_le spot
  rw [length] at floor ⊢
  have split : bound (digits + 1) = 100 * step (digits + 1) := by
    show 10 ^ (18 + digits) = 10 ^ 2 * 10 ^ max 16 (15 + (digits + 1))
    rw [← pow_add]
    congr 1
    omega
  rw [← split]
  exact floor

theorem half_step_le {spot : Nat} (worth : 5 * 10 ^ 15 ≤ spot) :
    step (magnitude spot) / 2 ≤ spot := by
  by_cases large : 10 ^ 18 ≤ spot
  · have hundred := hundred_steps_le large
    omega
  · have small : spot / 10 ^ 18 = 0 := Nat.div_eq_of_lt (by omega)
    unfold magnitude
    rw [if_pos small]
    exact worth

theorem exponent_eq (digits : Nat) :
    (if 18 + digits - 3 < 16 then 16 else 18 + digits - 3) = max 16 (15 + digits) := by
  split
  · omega
  · omega

theorem keeper_step_eq (spot : Nat) :
    Keeper.strikeStep spot = (step (magnitude spot) : Int) := by
  have whole : (spot : Int) / Keeper.wad = ((spot / 10 ^ 18 : Nat) : Int) := by
    simp [Keeper.wad]
  unfold Keeper.strikeStep step magnitude decimalLength
  simp only [whole, Int.toNat_natCast, Int.natCast_eq_zero, exponent_eq]
  push_cast
  rfl

theorem screen_step_eq (spot : Nat) : Screen.strikeStep spot = Keeper.strikeStep spot := by
  have whole : (spot : Int).tdiv Screen.WAD = spot / Keeper.wad :=
    Int.tdiv_eq_ediv_of_nonneg (Int.natCast_nonneg spot)
  unfold Screen.strikeStep Keeper.strikeStep
  simp only [whole, exponent_eq]
  congr 1
  omega

theorem keeper_strike_eq {spot : Nat} (positive : 0 < spot) :
    Keeper.strikeFor (some spot) = some (scale.round spot : Int) := by
  have asked : ¬(spot : Int) ≤ 0 := by omega
  have rounded : ((spot : Int) + (step (magnitude spot) : Int) / 2) / (step (magnitude spot) : Int) *
      (step (magnitude spot) : Int) = (roundTo (step (magnitude spot)) spot : Int) := by
    unfold roundTo
    push_cast
    rfl
  simp only [Keeper.strikeFor, if_neg asked, keeper_step_eq, rounded, Int.natCast_eq_zero]
  unfold Scale.round
  simp only [Nat.cast_ite]
  rfl

theorem screen_strike_eq {spot : Nat} (positive : 0 < spot) :
    Screen.strikeFor (some spot) = Keeper.strikeFor (some spot) := by
  have asked : ¬(spot : Int) ≤ 0 := by omega
  have half : (step (magnitude spot) : Int).tdiv 2 = step (magnitude spot) / 2 :=
    Int.tdiv_eq_ediv_of_nonneg (Int.natCast_nonneg _)
  have quotient : ((spot : Int) + (step (magnitude spot) : Int) / 2).tdiv (step (magnitude spot)) =
      ((spot : Int) + (step (magnitude spot) : Int) / 2) / (step (magnitude spot)) := by
    apply Int.tdiv_eq_ediv_of_nonneg
    omega
  simp only [Screen.strikeFor, Keeper.strikeFor, if_neg asked, screen_step_eq, keeper_step_eq,
    half, quotient]

end Strike

/-- One rule in both copies: a positive level near the price, in the order of
the prices, and a level of its own. -/
theorem strike_is_a_level_near_spot {spot : Int} (positive : 0 < spot) :
    ∃ strike, Keeper.strikeFor (some spot) = some strike ∧
      Screen.strikeFor (some spot) = some strike ∧ 0 < strike ∧
      (5 * 10 ^ 15 ≤ spot → 2 * |strike - spot| ≤ Keeper.strikeStep spot) ∧
      (10 ^ 18 ≤ spot → 1000 * |strike - spot| ≤ 5 * spot) ∧
      (∀ higher above, spot ≤ higher → Keeper.strikeFor (some higher) = some above →
        strike ≤ above) ∧
      Keeper.strikeFor (some strike) = some strike := by
  obtain ⟨price, same⟩ := Int.eq_ofNat_of_zero_le (Int.le_of_lt positive)
  subst same
  have price_pos : 0 < price := by omega
  have keeper := Strike.keeper_strike_eq price_pos
  have level_pos := Strike.scale.round_pos price
  have near : 5 * 10 ^ 15 ≤ price →
      Strike.scale.round price ≤ price + Strike.step (Strike.magnitude price) / 2 ∧
        price ≤ Strike.scale.round price + Strike.step (Strike.magnitude price) / 2 := by
    intro worth
    exact Strike.scale.round_near (Strike.half_step_le worth) (Strike.two_dvd_step _)
  refine ⟨Strike.scale.round price, keeper, ?_, by omega, ?_, ?_, ?_, ?_⟩
  · rw [Strike.screen_strike_eq price_pos]
    exact keeper
  · intro worth
    have sides := near (by omega)
    have distance : |(Strike.scale.round price : Int) - price| ≤
        (Strike.step (Strike.magnitude price) / 2 : Nat) := abs_le.mpr (by omega)
    rw [Strike.keeper_step_eq]
    omega
  · intro large
    have sides := near (by omega)
    have hundred := Strike.hundred_steps_le (show 10 ^ 18 ≤ price by omega)
    have distance : |(Strike.scale.round price : Int) - price| ≤
        (Strike.step (Strike.magnitude price) / 2 : Nat) := abs_le.mpr (by omega)
    omega
  · intro higher above ordered chosen
    obtain ⟨later, same⟩ := Int.eq_ofNat_of_zero_le (show 0 ≤ higher by omega)
    subst same
    rw [Strike.keeper_strike_eq (by omega : 0 < later)] at chosen
    rw [← Option.some.inj chosen]
    have kept := Strike.scale.round_mono (show price ≤ later by omega)
    omega
  · rw [Strike.keeper_strike_eq level_pos, Strike.scale.round_round]

/-- 999.9 is carried into the next magnitude, and stays there. -/
theorem strike_is_a_level_near_spot_carried :
    Keeper.strikeFor (some (9999 * 10 ^ 17)) = some (10 ^ 21) ∧
      Keeper.strikeFor (some (10 ^ 21)) = some (10 ^ 21) := by
  obtain ⟨strike, keeper, _, _, _, _, _, fixed⟩ :=
    @strike_is_a_level_near_spot (9999 * 10 ^ 17) (by decide)
  have carried : Keeper.strikeFor (some (9999 * 10 ^ 17)) = some (10 ^ 21) := by decide
  have level : strike = 10 ^ 21 := Option.some.inj (keeper.symm.trans carried)
  exact ⟨carried, level ▸ fixed⟩

end Ghoststake
