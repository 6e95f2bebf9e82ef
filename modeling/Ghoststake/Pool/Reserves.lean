import Ghoststake.Pool.Totals

/-!
# Reserves against supplier claims

A withdrawal of reserves is held to the claims at the stored indices. It is
the one entry point that moves money without accruing first.
-/

namespace Ghoststake

set_option autoImplicit false

open Checked Rounding

namespace Pool

variable {Address : Type}

/-- The interest suppliers have earned since the last accrual and the books do
not show, were the pool to hold `cash` now. -/
def unaccrued (cfg : Config Address) (l : Lending Address) (cash : Nat) : Nat :=
  let borrowed := totalBorrowed l.pool
  let u := if borrowed = 0 then 0 else mulDiv borrowed WAD (cash + borrowed)
  mulDiv l.pool.totalSupplyScaled (l.pool.supplyIndex +
    mulDiv l.pool.supplyIndex (supplyRateAt cfg u * elapsed l) WAD) RAY - totalSupplied l.pool

def cashLeft [DecidableEq Address] (cfg : Config Address) (l : Lending Address) (amount : Nat) :
    Nat :=
  (l.token.moved cfg.address l.pool.treasury amount).balanceOf cfg.address

theorem total_supplied_le_accrue (cfg : Config Address) (l : Lending Address) :
    totalSupplied l.pool ≤ totalSupplied (accrue cfg l).pool := by
  unfold totalSupplied
  rw [accrue_total_supply_scaled]
  exact mul_div_mono_right _ (supply_index_le_accrue cfg l) _

theorem total_supplied_accrue (cfg : Config Address) (l : Lending Address) :
    totalSupplied (accrue cfg l).pool =
      totalSupplied l.pool + unaccrued cfg l (availableLiquidity cfg l) := by
  have grows := total_supplied_le_accrue cfg l
  have accrued : totalSupplied (accrue cfg l).pool = mulDiv l.pool.totalSupplyScaled
      (l.pool.supplyIndex + mulDiv l.pool.supplyIndex (supplyGrowth cfg l) WAD) RAY := by
    rw [totalSupplied, accrue_total_supply_scaled, accrue_supply_index]
  have pending : unaccrued cfg l (availableLiquidity cfg l) =
      totalSupplied (accrue cfg l).pool - totalSupplied l.pool := by
    rw [accrued]
    rfl
  omega

section Withdrawal

variable [DecidableEq Address] [Zero Address] {cfg : Config Address}
  {l after : Lending Address} {sender : Address} {amount : Nat}

omit [DecidableEq Address] [Zero Address] in
theorem unaccrued_debit_reserves (token : Erc20 Address) (event : Event Address) (cash : Nat) :
    unaccrued cfg (l.put token (State.emit (l.pool.debitReserves amount) event)) cash =
      unaccrued cfg l cash := rfl

omit [DecidableEq Address] [Zero Address] in
theorem total_supplied_debit_reserves (event : Event Address) :
    totalSupplied (State.emit (l.pool.debitReserves amount) event) = totalSupplied l.pool := rfl

omit [Zero Address] in
theorem total_supplied_le_cash_left (enough : amount ≤ l.token.balanceOf cfg.address -
    totalSupplied l.pool) (something : amount ≠ 0) :
    totalSupplied l.pool ≤ cashLeft cfg l amount := by
  have held : amount ≤ l.token.balanceOf cfg.address := by omega
  unfold cashLeft
  by_cases own : cfg.address = l.pool.treasury
  · rw [← own, Erc20.moved_balance_same _ held]
    omega
  · rw [Erc20.moved_balance_source _ _ own]
    omega

/-- After a withdrawal of reserves the cash covers every supplier claim accrued
to that instant exactly when the interest the books do not show yet fits in the
surplus over the stored claims. -/
theorem reserves_subordinate_iff (cfg : Config Address) (l : Lending Address)
    (sender : Address) (amount : Nat) (after : Lending Address)
    (ran : withdrawReserves cfg sender amount l = .ok after) :
    totalSupplied (accrue cfg after).pool ≤ after.token.balanceOf cfg.address ↔
      unaccrued cfg l (cashLeft cfg l amount) ≤
        cashLeft cfg l amount - totalSupplied l.pool := by
  obtain ⟨_, something, _, enough, token, paid, rfl⟩ := withdraw_reserves_ok_iff.1 ran
  obtain ⟨_, _, _, rfl⟩ := (Erc20.move_ok_iff _ _ _ _ _).1 paid
  have covered : totalSupplied l.pool ≤ cashLeft cfg l amount :=
    total_supplied_le_cash_left enough something
  have cash : ∀ event, availableLiquidity cfg (l.put
      (l.token.moved cfg.address l.pool.treasury amount)
      (State.emit (l.pool.debitReserves amount) event)) = cashLeft cfg l amount := fun _ => rfl
  rw [total_supplied_accrue, unaccrued_debit_reserves, cash, Lending.put_pool,
    total_supplied_debit_reserves, Lending.put_token]
  change _ ≤ cashLeft cfg l amount ↔ _
  omega

end Withdrawal

/-! ## A stale index -/

section Sample

/-- The small pool, with most of the interest going to reserves. -/
def taxedCurve (rate : Nat) : Config (Fin 8) :=
  { flatCurve rate with
    reserveFactor := 9 * 10 ^ 17
    reserve_factor_lt_wad := by
      unfold WAD
      decide }

def relentRun : List (Action (Fin 8)) :=
  [.call 6 (.setBorrowModule 5), .call 1 (.supply 10000), .call 5 (.borrow 5000 2),
    .wait (2 * 10 ^ 9), .call 2 (.repay 15000 2), .call 5 (.borrow 4000 3)]

/-- A withdrawal that leaves room for the interest of the last stretch, and so the
cash for every claim. -/
theorem reserves_subordinate_of_modest_draw :
    ∃ l after, (machine (taxedCurve (10 ^ 9))).Reachable l ∧
      withdrawReserves (taxedCurve (10 ^ 9)) 6 4000 l = .ok after ∧
      totalSupplied (accrue (taxedCurve (10 ^ 9)) after).pool ≤
        after.token.balanceOf (taxedCurve (10 ^ 9)).address := by
  obtain ⟨l, reached, checked⟩ := reachable_of_run (taxedCurve (10 ^ 9)) rfl
    (relentRun ++ [.wait (10 ^ 8)])
    (fun l => decide (unaccrued (taxedCurve (10 ^ 9)) l (cashLeft (taxedCurve (10 ^ 9)) l 4000) ≤
        cashLeft (taxedCurve (10 ^ 9)) l 4000 - totalSupplied l.pool) &&
      passes (withdrawReserves (taxedCurve (10 ^ 9)) 6 4000 l) fun _ => true)
    (by decide) (by decide +kernel)
  obtain ⟨room, ran⟩ := Bool.and_eq_true_iff.mp checked
  obtain ⟨after, ran, _⟩ := exists_of_passes _ ran
  exact ⟨l, after, reached, ran,
    (reserves_subordinate_iff _ l 6 4000 after ran).mpr (of_decide_eq_true room)⟩

/-- Three years of unrecorded interest: the owner draws everything above the
stored claims, and the claims then read 29 units more than the cash. -/
theorem reserves_drawn_ahead_of_suppliers :
    ∃ l after, (machine (taxedCurve (10 ^ 9))).Reachable l ∧
      withdrawReserves (taxedCurve (10 ^ 9)) 6 5000 l = .ok after ∧
      after.token.balanceOf 7 = 11000 ∧
      totalSupplied (accrue (taxedCurve (10 ^ 9)) after).pool = 11029 := by
  obtain ⟨l, reached, checked⟩ := reachable_of_run (taxedCurve (10 ^ 9)) rfl
    (relentRun ++ [.wait (10 ^ 8)])
    (fun l => passes (withdrawReserves (taxedCurve (10 ^ 9)) 6 5000 l) fun after =>
      after.token.balanceOf 7 = 11000 ∧
        totalSupplied (accrue (taxedCurve (10 ^ 9)) after).pool = 11029)
    (by decide) (by decide +kernel)
  obtain ⟨after, ran, checked⟩ := exists_of_passes _ checked
  exact ⟨l, after, reached, ran, of_decide_eq_true checked⟩

end Sample

end Pool

end Ghoststake
