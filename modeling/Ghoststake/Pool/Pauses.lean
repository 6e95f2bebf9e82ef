import Ghoststake.Library.Indifference
import Ghoststake.Pool.Words

/-!
# What a pause leaves alone in the pool

Withdrawing, repaying, accruing, absorbing and drawing reserves never read
the pause.
-/

set_option autoImplicit false

open Checked Indifference

namespace Ghoststake

variable {Address : Type}

def Pool.State.paused (entries : EntryPausable Address) (pool : Pool.State Address) :
    Pool.State Address :=
  { pool with toEntryPausable := entries }

def Lending.paused (entries : EntryPausable Address) (l : Lending Address) : Lending Address :=
  l.put l.token (l.pool.paused entries)

namespace Pool

/-! ## Reads -/

section Reads

variable (entries : EntryPausable Address) (pool : State Address) (user : Address)

@[simp] theorem supply_index_paused : (pool.paused entries).supplyIndex = pool.supplyIndex := rfl

@[simp] theorem borrow_index_paused : (pool.paused entries).borrowIndex = pool.borrowIndex := rfl

@[simp] theorem total_supply_scaled_paused :
    (pool.paused entries).totalSupplyScaled = pool.totalSupplyScaled := rfl

@[simp] theorem total_borrow_scaled_paused :
    (pool.paused entries).totalBorrowScaled = pool.totalBorrowScaled := rfl

@[simp] theorem total_reserves_paused :
    (pool.paused entries).totalReserves = pool.totalReserves := rfl

@[simp] theorem scaled_supply_paused :
    (pool.paused entries).scaledSupply = pool.scaledSupply := rfl

@[simp] theorem scaled_debt_paused : (pool.paused entries).scaledDebt = pool.scaledDebt := rfl

@[simp] theorem borrow_module_paused :
    (pool.paused entries).borrowModule = pool.borrowModule := rfl

@[simp] theorem treasured_paused : (pool.paused entries).toTreasured = pool.toTreasured := rfl

@[simp] theorem total_supplied_paused :
    totalSupplied (pool.paused entries) = totalSupplied pool := by
  unfold totalSupplied
  rfl

@[simp] theorem total_borrowed_paused :
    totalBorrowed (pool.paused entries) = totalBorrowed pool := by
  unfold totalBorrowed
  rfl

@[simp] theorem balance_of_supply_paused :
    balanceOfSupply (pool.paused entries) user = balanceOfSupply pool user := by
  unfold balanceOfSupply
  rfl

@[simp] theorem balance_of_debt_paused :
    balanceOfDebt (pool.paused entries) user = balanceOfDebt pool user := by
  unfold balanceOfDebt
  rfl

end Reads

/-! ## Writes -/

section Writes

variable (entries : EntryPausable Address) (pool : State Address)

@[simp] theorem paused_of_emit (event : Event Address) :
    (pool.paused entries).emit event = (pool.emit event).paused entries := rfl

@[simp] theorem paused_of_debit_reserves (amount : Nat) :
    (pool.paused entries).debitReserves amount = (pool.debitReserves amount).paused entries := rfl

@[simp] theorem paused_of_charge (loss : Nat) (fall : WriteDown) :
    (pool.paused entries).charge loss fall = (pool.charge loss fall).paused entries := rfl

variable [DecidableEq Address] (user : Address) (scaled : Nat)

@[simp] theorem paused_of_debit_supply :
    (pool.paused entries).debitSupply user scaled =
      (pool.debitSupply user scaled).paused entries := rfl

@[simp] theorem paused_of_debit_debt :
    (pool.paused entries).debitDebt user scaled =
      (pool.debitDebt user scaled).paused entries := rfl

end Writes

section Blocks

variable (cfg : Config Address) (entries : EntryPausable Address) (l : Lending Address)

@[simp] theorem token_paused : (l.paused entries).token = l.token := rfl

@[simp] theorem pool_paused : (l.paused entries).pool = l.pool.paused entries := rfl

@[simp] theorem put_of_paused (token : Erc20 Address) (pool : State Address) :
    (l.paused entries).put token pool = l.put token pool := rfl

@[simp] theorem paused_of_put (token : Erc20 Address) (pool : State Address) :
    (l.put token pool).paused entries = l.put token (pool.paused entries) := rfl

@[simp] theorem available_liquidity_paused :
    availableLiquidity cfg (l.paused entries) = availableLiquidity cfg l := rfl

@[simp] theorem elapsed_paused : elapsed (l.paused entries) = elapsed l := rfl

theorem utilization_paused : utilization cfg (l.paused entries) = utilization cfg l := by
  unfold utilization
  simp only [available_liquidity_paused, pool_paused, total_borrowed_paused]

theorem borrow_growth_paused : borrowGrowth cfg (l.paused entries) = borrowGrowth cfg l := by
  unfold borrowGrowth
  rw [utilization_paused, elapsed_paused]

theorem supply_growth_paused : supplyGrowth cfg (l.paused entries) = supplyGrowth cfg l := by
  unfold supplyGrowth
  rw [utilization_paused, elapsed_paused]

theorem reserves_added_paused : reservesAdded cfg (l.paused entries) = reservesAdded cfg l := by
  unfold reservesAdded
  rw [borrow_growth_paused, pool_paused, total_borrowed_paused]

theorem next_borrow_index_paused :
    nextBorrowIndex cfg (l.paused entries) = nextBorrowIndex cfg l := by
  unfold nextBorrowIndex
  rw [borrow_growth_paused, pool_paused, borrow_index_paused]

theorem next_supply_index_paused :
    nextSupplyIndex cfg (l.paused entries) = nextSupplyIndex cfg l := by
  unfold nextSupplyIndex
  rw [supply_growth_paused, pool_paused, supply_index_paused]

theorem accrue_paused : accrue cfg (l.paused entries) = (accrue cfg l).paused entries := by
  unfold accrue
  rw [elapsed_paused, reserves_added_paused, next_borrow_index_paused, next_supply_index_paused]
  by_cases still : elapsed l = 0
  · rw [if_pos still, if_pos still]
  · rw [if_neg still, if_neg still]
    generalize reservesAdded cfg l = added
    generalize nextBorrowIndex cfg l = borrowed
    generalize nextSupplyIndex cfg l = supplied
    rfl

theorem words_utilization_paused :
    Words.utilization cfg (l.paused entries) = Words.utilization cfg l := by
  unfold Words.utilization
  rw [available_liquidity_paused, pool_paused]
  rfl

theorem words_accrue_paused :
    Words.accrue cfg (l.paused entries) = (Words.accrue cfg l).map (Lending.paused entries) := by
  unfold Words.accrue
  rw [elapsed_paused, words_utilization_paused]
  split_ifs
  · rfl
  · simp only [map_bind]
    rfl

end Blocks

/-! ## Exits -/

section Exits

variable [DecidableEq Address] [Zero Address] (cfg : Config Address)
  (entries : EntryPausable Address) (sender : Address) (amount : Nat) (user : Address)

theorem withdraw_ignores :
    Ignores (Lending.paused entries) (withdraw cfg sender amount) := by
  intro l
  unfold withdraw
  simp only [map_bind, map_ok]
  rw [accrue_paused]
  generalize accrue cfg l = accrued
  rw [pool_paused, token_paused, balance_of_supply_paused, available_liquidity_paused,
    supply_index_paused, scaled_supply_paused, total_supply_scaled_paused]
  simp only [put_of_paused, paused_of_put, paused_of_debit_supply, paused_of_emit]

omit [DecidableEq Address] [Zero Address] in
theorem repaid_scaled_paused (pool : State Address) :
    repaidScaled (pool.paused entries) amount user = repaidScaled pool amount user := by
  unfold repaidScaled
  rw [borrow_index_paused, scaled_debt_paused, balance_of_debt_paused]

theorem repay_ignores :
    Ignores (Lending.paused entries) (repay cfg sender amount user) := by
  intro l
  unfold repay
  simp only [map_bind, map_ok]
  rw [accrue_paused]
  generalize accrue cfg l = accrued
  rw [pool_paused, token_paused, balance_of_debt_paused, borrow_index_paused,
    total_borrow_scaled_paused, repaid_scaled_paused]
  simp only [put_of_paused, paused_of_put, paused_of_debit_debt, paused_of_emit]

omit [DecidableEq Address] [Zero Address] in
theorem write_down_paused (pool : State Address) (loss : Nat) :
    writeDown (pool.paused entries) loss = writeDown pool loss := by
  unfold writeDown
  rw [total_reserves_paused, total_supplied_paused, supply_index_paused]

omit [Zero Address] in
theorem absorb_bad_debt_paused (l : Lending Address) :
    absorbBadDebt cfg sender user (l.paused entries) =
      (absorbBadDebt cfg sender user l).map fun absorbed =>
        (absorbed.1, absorbed.2.paused entries) := by
  unfold absorbBadDebt onlyBorrowModule
  simp only [map_bind, map_ok]
  rw [accrue_paused, pool_paused, borrow_module_paused]
  generalize accrue cfg l = accrued
  rw [pool_paused, token_paused, balance_of_debt_paused, scaled_debt_paused,
    total_borrow_scaled_paused, supply_index_paused, write_down_paused]
  simp only [put_of_paused, paused_of_put, paused_of_debit_debt, paused_of_charge, paused_of_emit]

theorem withdraw_reserves_ignores :
    Ignores (Lending.paused entries) (withdrawReserves cfg sender amount) := by
  intro l
  unfold withdrawReserves
  simp only [map_bind, map_ok]
  rw [pool_paused, token_paused, treasured_paused, total_reserves_paused, total_supplied_paused]
  simp only [put_of_paused, paused_of_put, paused_of_debit_reserves, paused_of_emit]

end Exits

/-- Calls that let nothing in: claims and debts leave or shrink. -/
def Call.Leaves : Call Address → Prop
  | .accrue | .withdraw _ | .repay _ _ | .absorbBadDebt _ | .withdrawReserves _ => True
  | .supply _ | .borrow _ _ | .setBorrowModule _ | .administer _ | .guard _ => False

theorem exec_ignores [DecidableEq Address] [Zero Address] (cfg : Config Address)
    (entries : EntryPausable Address) (sender : Address) {call : Call Address}
    (leaves : call.Leaves) :
    Ignores (Lending.paused entries) fun l => exec cfg sender l call := by
  cases call with
  | accrue => exact ignores_pure fun l => accrue_paused cfg entries l
  | withdraw amount => exact withdraw_ignores cfg entries sender amount
  | repay amount user => exact repay_ignores cfg entries sender amount user
  | absorbBadDebt user =>
      intro l
      dsimp only [exec]
      rw [absorb_bad_debt_paused]
      cases absorbBadDebt cfg sender user l with
      | error error => rfl
      | ok absorbed => rfl
  | withdrawReserves amount => exact withdraw_reserves_ignores cfg entries sender amount
  | supply _ => exact leaves.elim
  | borrow _ _ => exact leaves.elim
  | setBorrowModule _ => exact leaves.elim
  | administer _ => exact leaves.elim
  | guard _ => exact leaves.elim

/-! ## Entering -/

theorem open_of_passed {access : EntryPausable Address} {done : Unit}
    (passed : access.whenEntriesOpen = .ok done) : access.entriesPaused = false :=
  (require_ok_iff _ _ _).1 passed

variable [DecidableEq Address] [Zero Address] {cfg : Config Address} {l after : Lending Address}
  {sender user : Address} {amount : Nat}

theorem open_of_supply (ran : supply cfg sender amount l = .ok after) :
    l.pool.entriesPaused = false := by
  unfold supply at ran
  obtain ⟨_, passed, _⟩ := (bind_ok_iff _ _ _).1 ran
  exact open_of_passed passed

theorem open_of_borrow (ran : borrow cfg sender amount user l = .ok after) :
    l.pool.entriesPaused = false := by
  unfold borrow at ran
  obtain ⟨_, _, ran⟩ := (bind_ok_iff _ _ _).1 ran
  obtain ⟨_, passed, _⟩ := (bind_ok_iff _ _ _).1 ran
  exact open_of_passed passed

omit [DecidableEq Address] [Zero Address] in
theorem entries_of_accrue (cfg : Config Address) (l : Lending Address) :
    (accrue cfg l).pool.entriesPaused = l.pool.entriesPaused := by
  unfold accrue
  by_cases still : elapsed l = 0
  · rw [if_pos still]
  · rw [if_neg still]
    rfl

end Pool

end Ghoststake
