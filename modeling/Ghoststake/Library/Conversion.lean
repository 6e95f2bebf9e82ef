import Ghoststake.Library.Rounding

/-!
# Converting at a price and back

Units become shares at a multiplier and shares become worth at a price, each
step rounded down, and back the same way. Neither direction gains, and units
bought for a sum take no more than that sum off a holding's worth. Rounding up
instead gives the fewest units a sum can be covered by. A holding valued by a
quote for some whole quantity is off by what the roundings of both leave over.
-/

set_option autoImplicit false

open Rounding

/-- `multiplier` shares for `one` units, `price` for `unit` shares. -/
structure Rate where
  multiplier : Nat
  one : Nat
  price : Nat
  unit : Nat

namespace Rate

variable {rate : Rate} {held sum taken : Nat}

def shares (rate : Rate) (units : Nat) : Nat := mulDiv units rate.multiplier rate.one

def worth (rate : Rate) (units : Nat) : Nat := mulDiv (rate.shares units) rate.price rate.unit

def unitsFor (rate : Rate) (sum : Nat) : Nat :=
  mulDiv (mulDiv sum rate.unit rate.price) rate.one rate.multiplier

/-- The fewest units that cover a sum. -/
def unitsToCover (rate : Rate) (sum : Nat) : Nat :=
  mulDivUp (mulDivUp sum rate.unit rate.price) rate.one rate.multiplier

theorem worth_zero (rate : Rate) : rate.worth 0 = 0 := by
  rw [worth, shares, mul_div_zero_left, mul_div_zero_left]

theorem live_of_worth {units : Nat} (some : rate.worth units ≠ 0) :
    0 < rate.price ∧ 0 < rate.multiplier := by
  constructor
  · apply Nat.pos_of_ne_zero
    intro none
    apply some
    rw [worth, none, mul_div_zero_right]
  · apply Nat.pos_of_ne_zero
    intro none
    apply some
    rw [worth, shares, none, mul_div_zero_right, mul_div_zero_left]

theorem worth_mono (rate : Rate) {more : Nat} (le : held ≤ more) :
    rate.worth held ≤ rate.worth more :=
  mul_div_mono (mul_div_mono le _ _) _ _

/-- There and back at the inverse ratio, rounding down both times. -/
theorem mul_div_mul_div_le (x a b : Nat) : mulDiv (mulDiv x a b) b a ≤ x :=
  mul_div_le_of_le_mul (mul_div_mul_le x a b)

/-- What was bought for a sum is worth no more than it. -/
theorem worth_units_for_le (rate : Rate) (sum : Nat) : rate.worth (rate.unitsFor sum) ≤ sum := by
  have bought : rate.shares (rate.unitsFor sum) ≤ mulDiv sum rate.unit rate.price :=
    mul_div_mul_div_le _ _ _
  exact (mul_div_mono bought _ _).trans (mul_div_mul_div_le _ _ _)

/-- And what something is worth buys no more than it. -/
theorem units_for_worth_le (rate : Rate) (units : Nat) :
    rate.unitsFor (rate.worth units) ≤ units := by
  have bought : mulDiv (rate.worth units) rate.unit rate.price ≤ rate.shares units :=
    mul_div_mul_div_le _ _ _
  exact (mul_div_mono bought _ _).trans (mul_div_mul_div_le _ _ _)

/-- The units a sum buys take at most the sum off what a holding is worth. -/
theorem worth_le_add (unitLive : 0 < rate.unit) (oneLive : 0 < rate.one)
    (bought : taken ≤ rate.unitsFor sum) :
    rate.worth held ≤ rate.worth (held - taken) + sum := by
  -- the shares taken are at most those the sum is worth, and these are a whole number
  have shareCost : taken * rate.multiplier ≤ mulDiv sum rate.unit rate.price * rate.one :=
    (Nat.mul_le_mul_right _ bought).trans (mul_div_mul_le _ _ _)
  have sharesLeft : rate.shares held ≤
      rate.shares (held - taken) + mulDiv sum rate.unit rate.price := by
    have step := div_sub_div_le (held * rate.multiplier) shareCost oneLive
    rwa [← Nat.sub_mul] at step
  have cost : mulDiv sum rate.unit rate.price * rate.price ≤ sum * rate.unit :=
    mul_div_mul_le _ _ _
  have step := div_sub_div_le
    ((rate.shares (held - taken) + mulDiv sum rate.unit rate.price) * rate.price) cost unitLive
  rw [← Nat.sub_mul, Nat.add_sub_cancel] at step
  exact (mul_div_mono sharesLeft _ _).trans step

theorem units_to_cover_le_iff {units : Nat} (unitLive : 0 < rate.unit) (oneLive : 0 < rate.one)
    (priceLive : 0 < rate.price) (multiplierLive : 0 < rate.multiplier) :
    rate.unitsToCover sum ≤ units ↔ sum ≤ rate.worth units := by
  rw [unitsToCover, mul_div_up_le_iff multiplierLive, worth, le_mul_div_iff unitLive,
    ← mul_div_up_le_iff priceLive, shares, le_mul_div_iff oneLive]

/-! ## Valuing by a quote -/

/-- What converting `units` to shares leaves over. -/
def shareRest (rate : Rate) (units : Nat) : Nat := units * rate.multiplier % rate.one

/-- What pricing them leaves over. -/
def priceRest (rate : Rate) (units : Nat) : Nat := rate.shares units * rate.price % rate.unit

/-- Both, in the one measure. -/
def rest (rate : Rate) (units : Nat) : Nat :=
  rate.price * rate.shareRest units + rate.one * rate.priceRest units

theorem worth_and_rest (rate : Rate) (units : Nat) :
    rate.unit * rate.one * rate.worth units + rate.rest units =
      units * rate.multiplier * rate.price := by
  have shared := Nat.div_add_mod (units * rate.multiplier) rate.one
  have priced := Nat.div_add_mod (rate.shares units * rate.price) rate.unit
  have split : rate.one * rate.shares units + rate.shareRest units = units * rate.multiplier :=
    shared
  have split' : rate.unit * rate.worth units + rate.priceRest units =
      rate.shares units * rate.price := priced
  rw [← split, rest]
  calc rate.unit * rate.one * rate.worth units +
        (rate.price * rate.shareRest units + rate.one * rate.priceRest units)
      = rate.one * (rate.unit * rate.worth units + rate.priceRest units) +
          rate.price * rate.shareRest units := by ring
    _ = (rate.one * rate.shares units + rate.shareRest units) * rate.price := by
        rw [split']
        ring

/-- How far a holding valued by the quote for `whole` units is above its worth. -/
def quoteGap (rate : Rate) (whole held : Nat) : Int :=
  ((whole * rate.rest held : Nat) - (held * rate.rest whole : Nat) : Int) /
    (whole * (rate.unit * rate.one) : Nat)

theorem quoted_worth (rate : Rate) (unitLive : 0 < rate.unit) (oneLive : 0 < rate.one) {whole : Nat}
    (wholeLive : 0 < whole) (held : Nat) :
    ((held * rate.worth whole / whole : Nat) : Int) =
      rate.worth held + rate.quoteGap whole held := by
  have scale : (0 : Int) < (rate.unit * rate.one : Nat) :=
    Int.natCast_pos.2 (Nat.mul_pos unitLive oneLive)
  have total : (0 : Int) < (whole * (rate.unit * rate.one) : Nat) :=
    Int.natCast_pos.2 (Nat.mul_pos wholeLive (Nat.mul_pos unitLive oneLive))
  have ofHeld := congrArg (Nat.cast : Nat → Int) (rate.worth_and_rest held)
  have ofWhole := congrArg (Nat.cast : Nat → Int) (rate.worth_and_rest whole)
  push_cast at ofHeld ofWhole
  have scaled : (held * rate.worth whole : Int) * (rate.unit * rate.one : Nat) =
      ((whole * rate.rest held : Nat) - (held * rate.rest whole : Nat) : Int) +
        rate.worth held * (whole * (rate.unit * rate.one) : Nat) := by
    push_cast
    linear_combination (held : Int) * ofWhole - (whole : Int) * ofHeld
  have widened : (held * rate.worth whole : Int) / whole =
      (held * rate.worth whole : Int) * (rate.unit * rate.one : Nat) /
        (whole * (rate.unit * rate.one) : Nat) := by
    rw [Nat.cast_mul whole, Int.mul_ediv_mul_of_pos_left _ _ scale]
  rw [Int.natCast_ediv, Nat.cast_mul, widened, scaled, Int.add_mul_ediv_right _ _ total.ne',
    quoteGap, Int.add_comm]

/-- Where the shares of a holding come out whole, the quote is on the safe side. -/
theorem quote_gap_nonpos (rate : Rate) (unitLive : 0 < rate.unit) (oneLive : 0 < rate.one)
    {whole held : Nat} (wholeLive : 0 < whole) (even : rate.one ∣ held * rate.multiplier) :
    rate.quoteGap whole held ≤ 0 := by
  have none : rate.shareRest held = 0 := Nat.mod_eq_zero_of_dvd even
  have priced : rate.priceRest held < rate.unit := Nat.mod_lt _ unitLive
  have small : rate.rest held < rate.unit * rate.one := by
    rw [rest, none, Nat.mul_zero, Nat.zero_add, Nat.mul_comm]
    exact Nat.mul_lt_mul_of_pos_right priced oneLive
  have total : (0 : Int) < (whole * (rate.unit * rate.one) : Nat) :=
    Int.natCast_pos.2 (Nat.mul_pos wholeLive (Nat.mul_pos unitLive oneLive))
  have below : ((whole * rate.rest held : Nat) : Int) < (whole * (rate.unit * rate.one) : Nat) :=
    Int.ofNat_lt.2 (Nat.mul_lt_mul_of_pos_left small wholeLive)
  have fewer : (0 : Int) ≤ (held * rate.rest whole : Nat) := Int.natCast_nonneg _
  apply Int.le_of_lt_add_one
  apply Int.ediv_lt_of_lt_mul total
  omega

end Rate
