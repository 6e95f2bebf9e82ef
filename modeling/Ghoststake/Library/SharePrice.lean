import Ghoststake.Library.Rounding

/-!
# Shares of a pot, at a price with a virtual offset

A pot holds `assets` against `shares`, priced as if `offset` more shares and
one more unit were in it. Rounding a deposit's shares down and a withdrawal's
shares up never lowers the price, and the floors of every holder's worth fit
in the pot.
-/

namespace SharePrice

set_option autoImplicit false

open Rounding

structure Pot where
  assets : Nat
  shares : Nat

def Pot.worth (offset : Nat) (pot : Pot) (amount : Nat) : Nat :=
  mulDiv amount (pot.assets + 1) (pot.shares + offset)

/-- The price of the first pot is at most that of the second. -/
def PriceLe (offset : Nat) (pot next : Pot) : Prop :=
  (pot.assets + 1) * (next.shares + offset) ≤ (next.assets + 1) * (pot.shares + offset)

section Price

variable {offset : Nat} {pot next final : Pot} {assets shares : Nat}

theorem PriceLe.of_assets_le (supply : next.shares = pot.shares)
    (paid : pot.assets ≤ next.assets) : PriceLe offset pot next := by
  unfold PriceLe
  rw [supply]
  exact Nat.mul_le_mul_right _ (Nat.add_le_add_right paid 1)

theorem PriceLe.trans (left : PriceLe offset pot next) (right : PriceLe offset next final)
    (positive : 0 < offset) : PriceLe offset pot final := by
  unfold PriceLe at left right ⊢
  apply Nat.le_of_mul_le_mul_right (c := next.shares + offset) _ (by omega)
  calc
    (pot.assets + 1) * (final.shares + offset) * (next.shares + offset) =
        (pot.assets + 1) * (next.shares + offset) * (final.shares + offset) := by ring
    _ ≤ (next.assets + 1) * (pot.shares + offset) * (final.shares + offset) :=
      Nat.mul_le_mul_right _ left
    _ = (next.assets + 1) * (final.shares + offset) * (pot.shares + offset) := by ring
    _ ≤ (final.assets + 1) * (next.shares + offset) * (pot.shares + offset) :=
      Nat.mul_le_mul_right _ right
    _ = (final.assets + 1) * (pot.shares + offset) * (next.shares + offset) := by ring

theorem PriceLe.of_enter (fair : shares * (pot.assets + 1) ≤ assets * (pot.shares + offset))
    (supply : next.shares = pot.shares + shares) (paid : next.assets = pot.assets + assets) :
    PriceLe offset pot next := by
  unfold PriceLe
  rw [supply, paid]
  calc
    (pot.assets + 1) * (pot.shares + shares + offset) =
        (pot.assets + 1) * (pot.shares + offset) + shares * (pot.assets + 1) := by ring
    _ ≤ (pot.assets + 1) * (pot.shares + offset) + assets * (pot.shares + offset) :=
      Nat.add_le_add_left fair _
    _ = (pot.assets + assets + 1) * (pot.shares + offset) := by ring

theorem PriceLe.of_leave (fair : assets * (pot.shares + offset) ≤ shares * (pot.assets + 1))
    (held : shares ≤ pot.shares) (supply : next.shares = pot.shares - shares)
    (paid : pot.assets ≤ next.assets + assets) : PriceLe offset pot next := by
  have kept : pot.shares + offset = next.shares + offset + shares := by omega
  have outgoing := Nat.mul_le_mul_right (pot.shares + offset) (Nat.add_le_add_right paid 1)
  have expand : (next.assets + assets + 1) * (pot.shares + offset) =
      (next.assets + 1) * (pot.shares + offset) + assets * (pot.shares + offset) := by ring
  have whole : (pot.assets + 1) * (pot.shares + offset) =
      (pot.assets + 1) * (next.shares + offset) + shares * (pot.assets + 1) := by
    rw [kept]
    ring
  unfold PriceLe
  omega

theorem worth_le_worth (positive : 0 < offset) (price : PriceLe offset pot next)
    {before after : Nat} (held : before ≤ after) :
    pot.worth offset before ≤ next.worth offset after := by
  unfold Pot.worth
  rw [le_mul_div_iff (by omega)]
  have floor := mul_div_mul_le before (pot.assets + 1) (pot.shares + offset)
  generalize mulDiv before (pot.assets + 1) (pot.shares + offset) = worth at floor ⊢
  apply Nat.le_of_mul_le_mul_right (c := pot.shares + offset) _ (by omega)
  unfold PriceLe at price
  calc
    worth * (next.shares + offset) * (pot.shares + offset) =
        worth * (pot.shares + offset) * (next.shares + offset) := by ring
    _ ≤ before * (pot.assets + 1) * (next.shares + offset) := Nat.mul_le_mul_right _ floor
    _ = before * ((pot.assets + 1) * (next.shares + offset)) := by ring
    _ ≤ before * ((next.assets + 1) * (pot.shares + offset)) := Nat.mul_le_mul_left _ price
    _ ≤ after * ((next.assets + 1) * (pot.shares + offset)) := Nat.mul_le_mul_right _ held
    _ = after * (next.assets + 1) * (pot.shares + offset) := by ring

theorem sum_worth_le (pot : Pot) {Holder : Type} (holders : Finset Holder) (balance : Holder → Nat)
    (positive : 0 < offset) (total : ∑ holder ∈ holders, balance holder ≤ pot.shares) :
    ∑ holder ∈ holders, pot.worth offset (balance holder) ≤ pot.assets := by
  have scaled : (∑ holder ∈ holders, pot.worth offset (balance holder)) *
      (pot.shares + offset) < (pot.assets + 1) * (pot.shares + offset) := by
    rw [Finset.sum_mul]
    calc
      ∑ holder ∈ holders, pot.worth offset (balance holder) * (pot.shares + offset) ≤
          ∑ holder ∈ holders, balance holder * (pot.assets + 1) :=
        Finset.sum_le_sum fun holder _ => mul_div_mul_le _ _ _
      _ = (∑ holder ∈ holders, balance holder) * (pot.assets + 1) :=
        (Finset.sum_mul _ _ _).symm
      _ ≤ pot.shares * (pot.assets + 1) := Nat.mul_le_mul_right _ total
      _ < (pot.shares + offset) * (pot.assets + 1) :=
        Nat.mul_lt_mul_of_pos_right (by omega) (Nat.succ_pos _)
      _ = (pot.assets + 1) * (pot.shares + offset) := Nat.mul_comm _ _
  exact Nat.le_of_lt_succ (Nat.lt_of_mul_lt_mul_right scaled)

end Price

/-! ## Taking shares for a given worth

Shares burnt for `taken` are rounded up, so what is left falls short of the
difference by less than one share. -/

section Taking

variable {offset : Nat} {pot next : Pot} {held burnt taken : Nat}

/-- The burnt shares are worth what was taken and less than one share more. -/
theorem burnt_worth_le (positive : 0 < offset)
    (rounded : burnt = mulDivUp taken (pot.shares + offset) (pot.assets + 1)) :
    burnt * (pot.assets + 1) ≤
      (taken + mulDivUp 1 (pot.assets + 1) (pot.shares + offset)) * (pot.shares + offset) := by
  have someAssets : 0 < pot.assets + 1 := Nat.succ_pos _
  have above := mul_div_up_mul_lt taken (pot.shares + offset) someAssets
  have one := le_mul_div_up_mul 1 (pot.assets + 1) (show 0 < pot.shares + offset by omega)
  rw [rounded, Nat.add_mul]
  omega

/-- In the worth of the shares. -/
theorem worth_le_taken (positive : 0 < offset)
    (rounded : burnt = mulDivUp taken (pot.shares + offset) (pot.assets + 1))
    (price : PriceLe offset pot next) :
    pot.worth offset held ≤ next.worth offset (held - burnt) + taken +
      mulDivUp 1 (pot.assets + 1) (pot.shares + offset) := by
  have bound := burnt_worth_le positive rounded
  have step := div_sub_div_le (held * (pot.assets + 1)) bound (show 0 < pot.shares + offset by omega)
  rw [← Nat.sub_mul] at step
  have kept := worth_le_worth positive price (Nat.le_refl (held - burnt))
  unfold Pot.worth at kept ⊢
  unfold mulDiv at kept ⊢
  omega

/-- In a book value reduced in proportion to the shares, when the value does not
exceed what the shares were worth. -/
theorem value_le_taken {value first second : Nat} (positive : 0 < offset)
    (rounded : burnt = mulDivUp taken (pot.shares + offset) (pot.assets + 1))
    (holds : 0 < held) (within : burnt ≤ held) (worth : value ≤ pot.worth offset held)
    (booked : value ≤ first + second) :
    value ≤ first - mulDiv first burnt held + (second - mulDiv second burnt held) + taken +
      mulDivUp 1 (pot.assets + 1) (pot.shares + offset) := by
  have bound := burnt_worth_le positive rounded
  rw [Pot.worth, le_mul_div_iff (by omega)] at worth
  rw [Nat.add_assoc]
  generalize taken + mulDivUp 1 (pot.assets + 1) (pot.shares + offset) = fall at bound ⊢
  have share : value * burnt ≤ fall * held := by
    apply Nat.le_of_mul_le_mul_right (c := (pot.shares + offset) * (pot.assets + 1)) _
      (Nat.mul_pos (by omega) (Nat.succ_pos _))
    calc
      value * burnt * ((pot.shares + offset) * (pot.assets + 1)) =
          value * (pot.shares + offset) * (burnt * (pot.assets + 1)) := by ring
      _ ≤ held * (pot.assets + 1) * (fall * (pot.shares + offset)) := Nat.mul_le_mul worth bound
      _ = fall * held * ((pot.shares + offset) * (pot.assets + 1)) := by ring
  have left := mul_div_mul_le first burnt held
  have right := mul_div_mul_le second burnt held
  have whole : burnt + (held - burnt) = held := by omega
  apply Nat.le_of_mul_le_mul_right (c := held) _ holds
  calc
    value * held = value * burnt + value * (held - burnt) := by rw [← Nat.mul_add, whole]
    _ ≤ fall * held + (first + second) * (held - burnt) :=
      Nat.add_le_add share (Nat.mul_le_mul_right _ booked)
    _ = (first * held - first * burnt) + (second * held - second * burnt) + fall * held := by
      rw [Nat.add_mul, Nat.mul_sub, Nat.mul_sub]
      omega
    _ ≤ (first - mulDiv first burnt held) * held + (second - mulDiv second burnt held) * held +
        fall * held := by
      rw [Nat.sub_mul, Nat.sub_mul]
      omega
    _ = (first - mulDiv first burnt held + (second - mulDiv second burnt held) + fall) * held := by
      ring

end Taking

/-- A debt paid off at a premium that the value covers leaves the ratio of
value to debt where it was, up to the units that rounding dropped. -/
theorem ratio_kept {value left debt owed paid taken unit dust bonus one : Nat}
    (fell : value ≤ left + taken + unit) (cleared : owed + paid ≤ debt + dust)
    (premium : taken * one ≤ paid * (one + bonus)) (positive : 0 < one)
    (covered : debt * (one + bonus) ≤ value * one) :
    (value : Int) * (owed - 1 - dust) ≤ (left + unit + 2) * debt := by
  have spent : taken * debt ≤ paid * value := by
    apply Nat.le_of_mul_le_mul_right (c := one) _ positive
    calc
      taken * debt * one = taken * one * debt := by ring
      _ ≤ paid * (one + bonus) * debt := Nat.mul_le_mul_right _ premium
      _ = paid * (debt * (one + bonus)) := by ring
      _ ≤ paid * (value * one) := Nat.mul_le_mul_left _ covered
      _ = paid * value * one := by ring
  have falls := Nat.mul_le_mul_right debt fell
  have clears := Nat.mul_le_mul_left value cleared
  zify at spent falls clears
  nlinarith only [spent, falls, clears]

end SharePrice
