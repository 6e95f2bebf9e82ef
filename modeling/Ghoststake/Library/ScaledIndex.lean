import Ghoststake.Library.Rounding

/-!
# Balances kept as a scaled amount times an index

A pot of `scaled * index / one` units is charged by lowering its index. The
lemmas bound the charge the holders actually bear against the charge intended.
-/

namespace ScaledIndex

set_option autoImplicit false

open Rounding

/-- The index that leaves `whole - charge` of every `whole`, rounded down. -/
def lowered (index whole charge : Nat) : Nat := mulDiv index (whole - charge) whole

variable {scaled index one charge : Nat}

/-- Lowering the index takes at least the charge, before any rounding of balances. -/
theorem charge_le (enough : charge ≤ mulDiv scaled index one)
    (someone : 0 < mulDiv scaled index one) :
    scaled * lowered index (mulDiv scaled index one) charge + charge * one ≤
      scaled * index := by
  have balance := mul_div_mul_le scaled index one
  generalize mulDiv scaled index one = whole at enough someone balance
  have ratio : lowered index whole charge * whole ≤ index * (whole - charge) :=
    mul_div_mul_le _ _ _
  apply Nat.le_of_mul_le_mul_right (c := whole) _ someone
  calc
    (scaled * lowered index whole charge + charge * one) * whole =
        scaled * (lowered index whole charge * whole) + charge * (whole * one) := by ring
    _ ≤ scaled * (index * (whole - charge)) + charge * (scaled * index) :=
      Nat.add_le_add (Nat.mul_le_mul_left _ ratio) (Nat.mul_le_mul_left _ balance)
    _ = scaled * index * (whole - charge + charge) := by ring
    _ = scaled * index * whole := by rw [Nat.sub_add_cancel enough]

/-- In whole units: the holders' balance falls by the charge at least. -/
theorem balance_add_charge_le (positive : 0 < one) (enough : charge ≤ mulDiv scaled index one)
    (someone : 0 < mulDiv scaled index one) :
    mulDiv scaled (lowered index (mulDiv scaled index one) charge) one + charge ≤
      mulDiv scaled index one := by
  have taken := charge_le enough someone
  generalize lowered index (mulDiv scaled index one) charge = next at taken ⊢
  rw [le_mul_div_iff positive, Nat.add_mul]
  have floor := mul_div_mul_le scaled next one
  omega

/-- An index above the exactly lowered one by less than one takes at most one
scaled unit from each holder beyond the charge. -/
theorem balance_le_of_lt (positive : 0 < one) {next : Nat}
    (above : index * (mulDiv scaled index one - charge) <
      (next + 1) * mulDiv scaled index one)
    (someone : 0 < mulDiv scaled index one) :
    mulDiv scaled index one ≤ mulDiv scaled next one + charge + mulDivUp scaled 1 one := by
  have balance := mul_div_mul_le scaled index one
  generalize mulDiv scaled index one = whole at above someone balance ⊢
  have left : (whole - charge) * one ≤ scaled * (next + 1) := by
    apply Nat.le_of_mul_le_mul_right (c := whole) _ someone
    calc
      (whole - charge) * one * whole = whole * one * (whole - charge) := by ring
      _ ≤ scaled * index * (whole - charge) := Nat.mul_le_mul_right _ balance
      _ = scaled * (index * (whole - charge)) := by ring
      _ ≤ scaled * ((next + 1) * whole) := Nat.mul_le_mul_left _ above.le
      _ = scaled * (next + 1) * whole := by ring
  have floor := lt_mul_div_succ_mul scaled next positive
  have dust := le_mul_div_up_mul scaled 1 positive
  have total : (whole - charge) * one <
      (mulDiv scaled next one + 1 + mulDivUp scaled 1 one) * one := by
    calc
      (whole - charge) * one ≤ scaled * next + scaled * 1 := by rw [← Nat.mul_add]; exact left
      _ < (mulDiv scaled next one + 1) * one + mulDivUp scaled 1 one * one :=
        Nat.add_lt_add_of_lt_of_le floor dust
      _ = _ := by ring
  have units := Nat.lt_of_mul_lt_mul_right total
  omega

/-! ## Paying in and drawing -/

/-- A credit rounded down adds no more than was paid for it. -/
theorem balance_of_credit_le (paid : Nat) (positive : 0 < one) :
    mulDiv (scaled + mulDiv paid one index) index one ≤ mulDiv scaled index one + paid := by
  have bound : mulDiv paid one index * index ≤ paid * one := mul_div_mul_le paid one index
  have step := div_sub_div_le ((scaled + mulDiv paid one index) * index) bound positive
  rwa [← Nat.sub_mul, Nat.add_sub_cancel] at step

/-- Units worth at least the draw lower the balance by at least the draw. -/
theorem balance_of_debit_add_le {drawn units : Nat} (worth : drawn * one ≤ units * index)
    (within : units ≤ scaled) (positive : 0 < one) :
    mulDiv (scaled - units) index one + drawn ≤ mulDiv scaled index one := by
  rw [le_mul_div_iff positive, Nat.add_mul]
  have floor := mul_div_mul_le (scaled - units) index one
  have apart : (scaled - units) * index + units * index = scaled * index := by
    rw [← Nat.add_mul, Nat.sub_add_cancel within]
  omega

/-- And they raise it by at least as much when they are added. -/
theorem balance_add_le_of_credit {drawn units : Nat} (worth : drawn * one ≤ units * index)
    (positive : 0 < one) :
    mulDiv scaled index one + drawn ≤ mulDiv (scaled + units) index one := by
  have step := balance_of_debit_add_le worth (Nat.le_add_left units scaled) positive
  rwa [Nat.add_sub_cancel] at step

/-- A debit rounded up adds less than one scaled unit beyond the draw. -/
theorem balance_of_credit_up_le (drawn : Nat) (positive : 0 < one) (indexLive : 0 < index) :
    mulDiv (scaled + mulDivUp drawn one index) index one ≤
      mulDiv scaled index one + drawn + mulDivUp index 1 one := by
  have dust := le_mul_div_up_mul index 1 positive
  have above := mul_div_up_mul_lt drawn one indexLive
  have bound : mulDivUp drawn one index * index ≤ (drawn + mulDivUp index 1 one) * one := by
    rw [Nat.add_mul]
    omega
  have step := div_sub_div_le ((scaled + mulDivUp drawn one index) * index) bound positive
  rw [← Nat.sub_mul, Nat.add_sub_cancel, ← Nat.add_assoc] at step
  exact step

/-! ## Paying off part of a balance -/

variable {paid : Nat}

/-- Clearing the floor of what a payment is worth never takes more than the payment. -/
theorem balance_le_add_paid (positive : 0 < one) :
    mulDiv scaled index one ≤
      mulDiv (scaled - mulDiv paid one index) index one + paid := by
  have bound : mulDiv paid one index * index ≤ paid * one := mul_div_mul_le paid one index
  have step := div_sub_div_le (scaled * index) bound positive
  rwa [← Nat.sub_mul] at step

/-- And it falls short of the payment by less than one scaled unit, rounded up. -/
theorem balance_add_paid_le (positive : 0 < one) (indexLive : 0 < index)
    (within : mulDiv paid one index ≤ scaled) :
    mulDiv (scaled - mulDiv paid one index) index one + paid ≤
      mulDiv scaled index one + mulDivUp index 1 one := by
  have apart : mulDiv (scaled - mulDiv paid one index) index one +
      mulDiv (mulDiv paid one index) index one ≤ mulDiv scaled index one := by
    have split := div_sub_div_ge (scaled * index) (mulDiv paid one index * index)
      (Nat.mul_le_mul_right index within) positive
    rwa [← Nat.sub_mul] at split
  have above := lt_mul_div_succ_mul paid one indexLive
  generalize mulDiv paid one index = cleared at apart above ⊢
  have floor := lt_mul_div_succ_mul cleared index positive
  have dust := le_mul_div_up_mul index 1 positive
  have total : paid * one < (mulDiv cleared index one + 1 + mulDivUp index 1 one) * one := by
    calc
      paid * one < cleared * index + index * 1 := by
        rw [Nat.mul_one, ← Nat.succ_mul]
        exact above
      _ ≤ (mulDiv cleared index one + 1) * one + mulDivUp index 1 one * one :=
        Nat.add_le_add floor.le dust
      _ = _ := by ring
  have units := Nat.lt_of_mul_lt_mul_right total
  omega

/-! ## Taking a whole balance out -/

/-- A payment rounded up takes every scaled unit exactly when one unit fewer
would be worth less than the payment. -/
theorem scaled_le_up_iff (indexLive : 0 < index) :
    scaled ≤ mulDivUp paid one index ↔ scaled * index < paid * one + index := by
  cases scaled with
  | zero => simp [indexLive]
  | succ fewer =>
      have short := mul_div_up_le_iff (x := paid) (y := one) (k := fewer) indexLive
      rw [Nat.succ_mul, Nat.add_lt_add_iff_right, Nat.succ_le_iff, ← not_le, short, not_le]

/-- For the floored balance itself: exactly when what the floor dropped is
worth less than one scaled unit. -/
theorem scaled_le_up_balance_iff (indexLive : 0 < index) :
    scaled ≤ mulDivUp (mulDiv scaled index one) one index ↔
      scaled * index % one < index := by
  rw [scaled_le_up_iff indexLive]
  have split := Nat.div_add_mod' (scaled * index) one
  unfold mulDiv
  omega

end ScaledIndex
