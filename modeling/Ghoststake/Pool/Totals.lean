import Ghoststake.Library.PointSums
import Ghoststake.Pool.WriteDown

/-!
# The scaled totals

What storage keeps over every run: each total is the sum of its accounts, the
borrow index never falls below where it started and the supply index is never
zero.
-/

namespace Ghoststake

set_option autoImplicit false

open Checked Rounding PointSums

namespace Pool

variable {Address : Type} [Fintype Address]

structure State.Sound (pool : State Address) : Prop where
  supply_total : ∑ user, pool.scaledSupply user = pool.totalSupplyScaled
  debt_total : ∑ user, pool.scaledDebt user = pool.totalBorrowScaled
  ray_le_borrow_index : RAY ≤ pool.borrowIndex
  supply_index_pos : 0 < pool.supplyIndex

section Sound

variable {pool : State Address}

theorem State.Sound.debt_le_total (sound : pool.Sound) (user : Address) :
    pool.scaledDebt user ≤ pool.totalBorrowScaled := by
  rw [← sound.debt_total]
  exact le_sum _ _

theorem State.Sound.supply_le_total (sound : pool.Sound) (user : Address) :
    pool.scaledSupply user ≤ pool.totalSupplyScaled := by
  rw [← sound.supply_total]
  exact le_sum _ _

theorem State.Sound.borrow_index_pos (sound : pool.Sound) : 0 < pool.borrowIndex :=
  ray_pos.trans_le sound.ray_le_borrow_index

/-- The index starts at one, so a scaled unit is never worth nothing. -/
theorem State.Sound.scaled_le_debt (sound : pool.Sound) (user : Address) :
    pool.scaledDebt user ≤ balanceOfDebt pool user :=
  (le_mul_div_iff ray_pos).2 (Nat.mul_le_mul_left _ sound.ray_le_borrow_index)

theorem State.Sound.debt_eq_zero_iff (sound : pool.Sound) (user : Address) :
    balanceOfDebt pool user = 0 ↔ pool.scaledDebt user = 0 := by
  constructor
  · intro none
    have le := sound.scaled_le_debt user
    omega
  · intro none
    rw [balanceOfDebt, none, mul_div_zero_left]

theorem State.Sound.emit (sound : pool.Sound) (event : Event Address) :
    (pool.emit event).Sound := ⟨sound.1, sound.2, sound.3, sound.4⟩

variable [DecidableEq Address]

theorem State.Sound.credit_supply (sound : pool.Sound) (user : Address) (scaled : Nat) :
    (pool.creditSupply user scaled).Sound where
  supply_total := (sum_credit pool.scaledSupply user scaled).trans
    (congrArg (· + scaled) sound.supply_total)
  debt_total := sound.debt_total
  ray_le_borrow_index := sound.ray_le_borrow_index
  supply_index_pos := sound.supply_index_pos

theorem State.Sound.debit_supply (sound : pool.Sound) {user : Address} {scaled : Nat}
    (held : scaled ≤ pool.scaledSupply user) : (pool.debitSupply user scaled).Sound where
  supply_total := by
    have debit := sum_debit pool.scaledSupply user held
    rw [sound.supply_total] at debit
    exact Nat.eq_sub_of_add_eq debit
  debt_total := sound.debt_total
  ray_le_borrow_index := sound.ray_le_borrow_index
  supply_index_pos := sound.supply_index_pos

theorem State.Sound.credit_debt (sound : pool.Sound) (user : Address) (scaled : Nat) :
    (pool.creditDebt user scaled).Sound where
  supply_total := sound.supply_total
  debt_total := (sum_credit pool.scaledDebt user scaled).trans
    (congrArg (· + scaled) sound.debt_total)
  ray_le_borrow_index := sound.ray_le_borrow_index
  supply_index_pos := sound.supply_index_pos

theorem State.Sound.debit_debt (sound : pool.Sound) {user : Address} {scaled : Nat}
    (owed : scaled ≤ pool.scaledDebt user) : (pool.debitDebt user scaled).Sound where
  supply_total := sound.supply_total
  debt_total := by
    have debit := sum_debit pool.scaledDebt user owed
    rw [sound.debt_total] at debit
    exact Nat.eq_sub_of_add_eq debit
  ray_le_borrow_index := sound.ray_le_borrow_index
  supply_index_pos := sound.supply_index_pos

end Sound

theorem State.Sound.accrue {cfg : Config Address} {l : Lending Address}
    (sound : l.pool.Sound) : (accrue cfg l).pool.Sound where
  supply_total := by
    rw [accrue_scaled_supply, accrue_total_supply_scaled]
    exact sound.supply_total
  debt_total := by
    rw [accrue_scaled_debt, accrue_total_borrow_scaled]
    exact sound.debt_total
  ray_le_borrow_index := sound.ray_le_borrow_index.trans (borrow_index_le_accrue cfg l)
  supply_index_pos := sound.supply_index_pos.trans_le (supply_index_le_accrue cfg l)

/-- Charging a loss moves the supply index, and leaves it alive. -/
theorem State.Sound.absorbed [DecidableEq Address] {pool : State Address}
    (sound : pool.Sound) (user : Address) : (pool.absorbed user).Sound :=
  let cleared := sound.debit_debt (Nat.le_refl (pool.scaledDebt user))
  { supply_total := cleared.supply_total
    debt_total := cleared.debt_total
    ray_le_borrow_index := cleared.ray_le_borrow_index
    supply_index_pos := write_down_index_pos (balanceOfDebt pool user) sound.supply_index_pos }

theorem State.Sound.of_same_books {l after : Lending Address} (sound : l.pool.Sound)
    (same : SameBooks l after) : after.pool.Sound where
  supply_total := by
    rw [same.scaledSupply, same.totalSupplyScaled]
    exact sound.supply_total
  debt_total := by
    rw [same.scaledDebt, same.totalBorrowScaled]
    exact sound.debt_total
  ray_le_borrow_index := by
    rw [same.borrowIndex]
    exact sound.ray_le_borrow_index
  supply_index_pos := by
    rw [same.supplyIndex]
    exact sound.supply_index_pos

theorem sound_of_deployed [Zero Address] (access : Treasured Address) (guardian : Address)
    (timestamp : Nat) : (deployed access guardian timestamp).Sound where
  supply_total := Finset.sum_const_zero
  debt_total := Finset.sum_const_zero
  ray_le_borrow_index := Nat.le_refl _
  supply_index_pos := ray_pos

section Runs

variable [DecidableEq Address] [Zero Address] {cfg : Config Address}
  {l after : Lending Address}

theorem sound_exec {sender : Address} {call : Call Address} (sound : l.pool.Sound)
    (ran : exec cfg sender l call = .ok after) : after.pool.Sound := by
  cases call with
  | accrue =>
      cases ran
      exact sound.accrue
  | supply amount =>
      obtain ⟨_, _, _, _, _, rfl⟩ := supply_ok_iff.1 ran
      exact (sound.accrue.credit_supply _ _).emit _
  | withdraw amount =>
      obtain ⟨_, _, _, _, _, _, _, rfl⟩ := withdraw_ok_iff.1 ran
      refine (sound.accrue.debit_supply ?_).emit _
      rw [accrue_scaled_supply]
      exact min_le_right _ _
  | borrow amount onBehalfOf =>
      obtain ⟨_, _, _, _, _, _, _, rfl⟩ := borrow_ok_iff.1 ran
      exact (sound.accrue.credit_debt _ _).emit _
  | repay amount onBehalfOf =>
      obtain ⟨_, _, _, _, _, _, rfl⟩ := repay_ok_iff.1 ran
      exact (sound.accrue.debit_debt (repaid_scaled_le_owed _ _ _)).emit _
  | absorbBadDebt user =>
      obtain ⟨_, _, _, rfl⟩ := exec_absorb_ok_iff.1 ran
      exact sound.accrue.absorbed user
  | withdrawReserves amount =>
      obtain ⟨_, _, _, _, _, _, rfl⟩ := withdraw_reserves_ok_iff.1 ran
      exact ⟨sound.1, sound.2, sound.3, sound.4⟩
  | setBorrowModule target => exact sound.of_same_books (set_borrow_module_ok ran).1
  | administer call => exact sound.of_same_books (administer_ok ran).1
  | guard call => exact sound.of_same_books (guard_ok ran).1

theorem sound_of_reachable (reached : (machine cfg).Reachable l) : l.pool.Sound := by
  refine reached.invariant (fun l => l.pool.Sound) ?_ ?_
  · rintro state ⟨⟨owner, access, guardian, _, fresh⟩, _⟩
    rw [fresh]
    exact sound_of_deployed access guardian state.timestamp
  · rintro state action next _ sound ⟨_, ran⟩
    cases action with
    | call sender call => exact sound_exec sound ran
    | asset sender call =>
        simp only [act, bind_ok_iff, Except.ok.injEq] at ran
        obtain ⟨_, _, rfl⟩ := ran
        exact sound
    | wait seconds =>
        cases ran
        exact sound

end Runs

/-! ## Individual balances against the totals -/

def holders (scaled : Address → Nat) : Finset Address :=
  Finset.univ.filter (scaled · ≠ 0)

/-- A total read through its index is at least the sum of the balances read
through it, and above it by fewer units than there are holders. -/
theorem total_balance_bounds {scaled : Address → Nat} {total : Nat} (index : Nat)
    (adds : ∑ user, scaled user = total) :
    ∑ user, mulDiv (scaled user) index RAY ≤ mulDiv total index RAY ∧
      mulDiv total index RAY ≤
        ∑ user, mulDiv (scaled user) index RAY + ((holders scaled).card - 1) := by
  have whole : ∑ user, scaled user * index = total * index := by
    rw [← Finset.sum_mul, adds]
  have below := sum_div_le Finset.univ (fun user => scaled user * index) RAY
  have above := div_sum_le Finset.univ (fun user => scaled user * index) ray_pos
  rw [whole] at below above
  refine ⟨below, above.trans (Nat.add_le_add_left ?_ _)⟩
  apply Nat.sub_le_sub_right
  apply Finset.card_le_card
  intro user member
  simp only [holders, Finset.mem_filter, Finset.mem_univ, true_and] at member ⊢
  intro none
  exact member (by rw [none, Nat.zero_mul])

section Subtractions

variable [DecidableEq Address] [Zero Address] {l : Lending Address}

/-- Each subtraction from a total is of no more than one account's part of it. -/
theorem withdraw_avoids_arithmetic (cfg : Config Address) (sound : l.pool.Sound)
    (sender : Address) (amount : Nat) : withdraw cfg sender amount l ≠ .error .arithmetic := by
  have fits := (sound.accrue : (accrue cfg l).pool.Sound).supply_le_total sender
  refine guard_avoids (by simp) fun _ => guard_avoids (by simp) fun _ => ?_
  refine guard_avoids (by simp) fun _ => guard_avoids (by simp) fun _ => ?_
  refine met_guard_avoids ((min_le_right _ _).trans fits) ?_
  exact bind_avoids (Erc20.move_avoids_arithmetic _ _ _ _) fun _ _ => nofun

theorem repay_avoids_arithmetic (cfg : Config Address) (sound : l.pool.Sound)
    (sender user : Address) (amount : Nat) :
    repay cfg sender amount user l ≠ .error .arithmetic := by
  have fits := (sound.accrue : (accrue cfg l).pool.Sound).debt_le_total user
  refine guard_avoids (by simp) fun _ => guard_avoids (by simp) fun _ => ?_
  refine guard_avoids (by simp) fun _ => ?_
  refine met_guard_avoids ((repaid_scaled_le_owed _ _ _).trans fits) ?_
  exact bind_avoids (Erc20.transfer_from_avoids_arithmetic _ _ _ _ _) fun _ _ => nofun

omit [Zero Address] in
theorem absorb_avoids_arithmetic (cfg : Config Address) (sound : l.pool.Sound)
    (sender user : Address) : absorbBadDebt cfg sender user l ≠ .error .arithmetic := by
  refine guard_avoids (by simp) fun _ => guard_avoids (by simp) fun _ => ?_
  refine met_guard_avoids (sound.accrue.debt_le_total user) ?_
  nofun

/-! ## What a repayment leaves -/

/-- A repayment of the whole debt clears it, and one of less leaves some. -/
theorem debt_after_repay {cfg : Config Address} (sound : l.pool.Sound) {sender user : Address}
    {amount : Nat} {after : Lending Address}
    (ran : repay cfg sender amount user l = .ok after) :
    balanceOfDebt after.pool user = 0 ↔
      amount = balanceOfDebt (accrue cfg l).pool user := by
  have called : exec cfg sender l (.repay amount user) = .ok after := ran
  have later : after.pool.Sound := sound_exec sound called
  obtain ⟨_, owed, indexLive, _, _, _, rfl⟩ := repay_ok_iff.1 ran
  have left : ((accrue cfg l).pool.debitDebt user
      (repaidScaled (accrue cfg l).pool amount user)).scaledDebt user =
        (accrue cfg l).pool.scaledDebt user - repaidScaled (accrue cfg l).pool amount user :=
    Function.update_self ..
  rw [later.debt_eq_zero_iff]
  change ((accrue cfg l).pool.debitDebt user
    (repaidScaled (accrue cfg l).pool amount user)).scaledDebt user = 0 ↔ _
  rw [left]
  constructor
  · intro cleared
    by_contra less
    obtain ⟨floor, below⟩ := repaid_scaled_below indexLive (lt_of_le_of_ne owed less)
    omega
  · intro whole
    rw [whole, repaid_scaled_full, Nat.sub_self]

/-- Every total is the sum of its accounts, so no subtraction from one can
underflow; each total reads as the sum of the balances to within one unit for
each holder after the first; and a debt is gone exactly when its scaled units
are, which a repayment of the whole balance and nothing less brings about. -/
theorem scaled_totals_are_sums (cfg : Config Address) (l : Lending Address)
    (reached : (machine cfg).Reachable l) :
    (∑ user, l.pool.scaledSupply user = l.pool.totalSupplyScaled ∧
      ∑ user, l.pool.scaledDebt user = l.pool.totalBorrowScaled) ∧
    (∀ sender amount, withdraw cfg sender amount l ≠ .error .arithmetic) ∧
    (∀ sender user amount, repay cfg sender amount user l ≠ .error .arithmetic) ∧
    (∀ sender user, absorbBadDebt cfg sender user l ≠ .error .arithmetic) ∧
    (∑ user, balanceOfSupply l.pool user ≤ totalSupplied l.pool ∧
      totalSupplied l.pool ≤
        ∑ user, balanceOfSupply l.pool user + ((holders l.pool.scaledSupply).card - 1)) ∧
    (∑ user, balanceOfDebt l.pool user ≤ totalBorrowed l.pool ∧
      totalBorrowed l.pool ≤
        ∑ user, balanceOfDebt l.pool user + ((holders l.pool.scaledDebt).card - 1)) ∧
    RAY ≤ l.pool.borrowIndex ∧
    (∀ user, balanceOfDebt l.pool user = 0 ↔ l.pool.scaledDebt user = 0) ∧
    (∀ sender user amount after, repay cfg sender amount user l = .ok after →
      (balanceOfDebt after.pool user = 0 ↔
        amount = balanceOfDebt (accrue cfg l).pool user)) := by
  have sound := sound_of_reachable reached
  refine ⟨⟨sound.supply_total, sound.debt_total⟩, ?_, ?_, ?_,
    total_balance_bounds _ sound.supply_total, total_balance_bounds _ sound.debt_total,
    sound.ray_le_borrow_index, sound.debt_eq_zero_iff, ?_⟩
  · intro sender amount
    exact withdraw_avoids_arithmetic cfg sound sender amount
  · intro sender user amount
    exact repay_avoids_arithmetic cfg sound sender user amount
  · intro sender user
    exact absorb_avoids_arithmetic cfg sound sender user
  · intro sender user amount after ran
    exact debt_after_repay sound ran

/-- With two suppliers, two debts and interest on them. -/
theorem scaled_totals_of_loans :
    ∃ l : Lending (Fin 8), 0 < l.pool.totalBorrowScaled ∧
      ∑ user, l.pool.scaledDebt user = l.pool.totalBorrowScaled ∧
      totalBorrowed l.pool ≤
        ∑ user, balanceOfDebt l.pool user + ((holders l.pool.scaledDebt).card - 1) ∧
      repay (flatCurve (10 ^ 9)) 2 300 2 l ≠ .error .arithmetic := by
  obtain ⟨l, reached, checked⟩ := reachable_of_run (flatCurve (10 ^ 9)) rfl
    [.call 6 (.setBorrowModule 5), .call 1 (.supply 1000), .call 4 (.supply 500),
      .call 5 (.borrow 300 2), .call 5 (.borrow 200 3), .wait 1000000, .call 1 .accrue]
    (fun l => 0 < l.pool.totalBorrowScaled) (by decide) (by decide +kernel)
  obtain ⟨⟨_, debts⟩, _, repays, _, _, ⟨_, few⟩, _⟩ :=
    scaled_totals_are_sums (flatCurve (10 ^ 9)) l reached
  exact ⟨l, of_decide_eq_true checked, debts, few, repays 2 2 300⟩

end Subtractions

end Pool

end Ghoststake
