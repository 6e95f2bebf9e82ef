import Ghoststake.Chain.Uint
import Ghoststake.Pool.Model
import Ghoststake.Library.Machine

/-!
# What one pool call can do

One equation for each field `accrue` moves, one inversion for each entry
point, and the machine whose runs are the pool's histories.
-/

namespace Ghoststake

set_option autoImplicit false

open Checked Rounding

namespace Pool

variable {Address : Type}

/-! ## Accrual, field by field -/

section Accrue

variable (cfg : Config Address) (l : Lending Address)

theorem growth_of_no_time (still : elapsed l = 0) :
    borrowGrowth cfg l = 0 ∧ supplyGrowth cfg l = 0 := by
  simp [borrowGrowth, supplyGrowth, still]

@[simp] theorem accrue_token : (accrue cfg l).token = l.token := by
  unfold accrue
  split_ifs <;> rfl

@[simp] theorem accrue_timestamp : (accrue cfg l).timestamp = l.timestamp := by
  unfold accrue
  split_ifs <;> rfl

@[simp] theorem accrue_total_supply_scaled :
    (accrue cfg l).pool.totalSupplyScaled = l.pool.totalSupplyScaled := by
  unfold accrue
  split_ifs <;> rfl

@[simp] theorem accrue_total_borrow_scaled :
    (accrue cfg l).pool.totalBorrowScaled = l.pool.totalBorrowScaled := by
  unfold accrue
  split_ifs <;> rfl

@[simp] theorem accrue_scaled_supply :
    (accrue cfg l).pool.scaledSupply = l.pool.scaledSupply := by
  unfold accrue
  split_ifs <;> rfl

@[simp] theorem accrue_scaled_debt : (accrue cfg l).pool.scaledDebt = l.pool.scaledDebt := by
  unfold accrue
  split_ifs <;> rfl

@[simp] theorem accrue_unsocialised_bad_debt :
    (accrue cfg l).pool.unsocialisedBadDebt = l.pool.unsocialisedBadDebt := by
  unfold accrue
  split_ifs <;> rfl

@[simp] theorem accrue_borrow_module :
    (accrue cfg l).pool.borrowModule = l.pool.borrowModule := by
  unfold accrue
  split_ifs <;> rfl

@[simp] theorem accrue_treasured : (accrue cfg l).pool.toTreasured = l.pool.toTreasured := by
  unfold accrue
  split_ifs <;> rfl

@[simp] theorem accrue_pausable :
    (accrue cfg l).pool.toEntryPausable = l.pool.toEntryPausable := by
  unfold accrue
  split_ifs <;> rfl

theorem accrue_borrow_index :
    (accrue cfg l).pool.borrowIndex =
      l.pool.borrowIndex + mulDiv l.pool.borrowIndex (borrowGrowth cfg l) WAD := by
  unfold accrue
  split_ifs with still
  · rw [(growth_of_no_time cfg l still).1]
    simp
  · change nextBorrowIndex cfg l = _
    unfold nextBorrowIndex
    split_ifs with grows
    · rfl
    · simp [not_not.1 grows]

theorem accrue_supply_index :
    (accrue cfg l).pool.supplyIndex =
      l.pool.supplyIndex + mulDiv l.pool.supplyIndex (supplyGrowth cfg l) WAD := by
  unfold accrue
  split_ifs with still
  · rw [(growth_of_no_time cfg l still).2]
    simp
  · change nextSupplyIndex cfg l = _
    unfold nextSupplyIndex
    split_ifs with grows
    · rfl
    · simp [not_not.1 grows]

theorem accrue_total_reserves :
    (accrue cfg l).pool.totalReserves = l.pool.totalReserves +
      mulDiv (mulDiv (totalBorrowed l.pool) (borrowGrowth cfg l) WAD) cfg.reserveFactor WAD := by
  unfold accrue
  split_ifs with still
  · rw [(growth_of_no_time cfg l still).1]
    simp
  · change l.pool.totalReserves + reservesAdded cfg l = _
    unfold reservesAdded
    split_ifs with grows
    · rfl
    · simp [not_not.1 grows]

theorem accrue_of_no_time (still : elapsed l = 0) : accrue cfg l = l := if_pos still

@[simp] theorem elapsed_accrue : elapsed (accrue cfg l) = 0 := by
  by_cases still : elapsed l = 0
  · rw [accrue_of_no_time cfg l still]
    exact still
  · unfold elapsed accrue
    rw [if_neg still]
    exact Nat.sub_self _

/-- A write that leaves the stamp of the last accrual alone. -/
theorem elapsed_put (token : Erc20 Address) (pool : State Address)
    (same : pool.lastAccrualTime = l.pool.lastAccrualTime) :
    elapsed (l.put token pool) = elapsed l := by
  unfold elapsed
  rw [Lending.put_timestamp, Lending.put_pool, same]

theorem accrue_accrue : accrue cfg (accrue cfg l) = accrue cfg l :=
  accrue_of_no_time cfg _ (elapsed_accrue cfg l)

theorem borrow_index_le_accrue : l.pool.borrowIndex ≤ (accrue cfg l).pool.borrowIndex := by
  rw [accrue_borrow_index]
  omega

theorem supply_index_le_accrue : l.pool.supplyIndex ≤ (accrue cfg l).pool.supplyIndex := by
  rw [accrue_supply_index]
  omega

theorem balance_of_debt_le_accrue (user : Address) :
    balanceOfDebt l.pool user ≤ balanceOfDebt (accrue cfg l).pool user := by
  unfold balanceOfDebt
  rw [accrue_scaled_debt]
  exact mul_div_mono_right _ (borrow_index_le_accrue cfg l) _

end Accrue

/-! ## Accrual reads the clock, the pool's cash and its storage -/

section Congr

variable {cfg : Config Address} {l other : Lending Address}

theorem elapsed_congr (pool : other.pool = l.pool) (timestamp : other.timestamp = l.timestamp) :
    elapsed other = elapsed l := by
  simp only [elapsed, pool, timestamp]

theorem growth_congr (cash : other.token.balanceOf cfg.address = l.token.balanceOf cfg.address)
    (pool : other.pool = l.pool) (timestamp : other.timestamp = l.timestamp) :
    borrowGrowth cfg other = borrowGrowth cfg l ∧ supplyGrowth cfg other = supplyGrowth cfg l := by
  have sameUse : utilization cfg other = utilization cfg l := by
    simp only [utilization, availableLiquidity, cash, pool]
  have sameTime := elapsed_congr pool timestamp
  constructor
  · rw [borrowGrowth, sameUse, sameTime, borrowGrowth]
  · rw [supplyGrowth, sameUse, sameTime, supplyGrowth]

theorem figures_congr (cash : other.token.balanceOf cfg.address = l.token.balanceOf cfg.address)
    (pool : other.pool = l.pool) (timestamp : other.timestamp = l.timestamp) :
    reservesAdded cfg other = reservesAdded cfg l ∧
      nextBorrowIndex cfg other = nextBorrowIndex cfg l ∧
      nextSupplyIndex cfg other = nextSupplyIndex cfg l := by
  obtain ⟨borrowing, supplying⟩ := growth_congr cash pool timestamp
  refine ⟨?_, ?_, ?_⟩
  · simp only [reservesAdded, borrowing, pool]
  · simp only [nextBorrowIndex, borrowing, pool]
  · simp only [nextSupplyIndex, supplying, pool]

theorem accrue_pool_congr
    (cash : other.token.balanceOf cfg.address = l.token.balanceOf cfg.address)
    (pool : other.pool = l.pool) (timestamp : other.timestamp = l.timestamp) :
    (accrue cfg other).pool = (accrue cfg l).pool := by
  obtain ⟨reserves, nextBorrow, nextSupply⟩ := figures_congr cash pool timestamp
  unfold accrue
  rw [elapsed_congr pool timestamp, reserves, nextBorrow, nextSupply, pool, timestamp]
  split_ifs
  · exact pool
  · rfl

end Congr

/-! ## How much a repayment clears -/

section Repayment

variable {pool : State Address} {onBehalfOf : Address} {amount : Nat}

/-- A partial repayment clears the floor of what it pays for. -/
theorem repaid_scaled_below (indexLive : pool.borrowIndex ≠ 0)
    (less : amount < balanceOfDebt pool onBehalfOf) :
    repaidScaled pool amount onBehalfOf = mulDiv amount RAY pool.borrowIndex ∧
      mulDiv amount RAY pool.borrowIndex < pool.scaledDebt onBehalfOf := by
  have notAll : mulDiv amount RAY pool.borrowIndex < pool.scaledDebt onBehalfOf := by
    by_contra covers
    rw [not_lt, le_mul_div_iff (Nat.pos_of_ne_zero indexLive)] at covers
    have small : balanceOfDebt pool onBehalfOf ≤ amount := mul_div_le_of_le_mul covers
    omega
  refine ⟨?_, notAll⟩
  simp only [repaidScaled]
  rw [if_neg]
  omega

theorem repaid_scaled_full (pool : State Address) (onBehalfOf : Address) :
    repaidScaled pool (balanceOfDebt pool onBehalfOf) onBehalfOf =
      pool.scaledDebt onBehalfOf := by
  simp [repaidScaled]

theorem repaid_scaled_le_owed (pool : State Address) (amount : Nat) (onBehalfOf : Address) :
    repaidScaled pool amount onBehalfOf ≤ pool.scaledDebt onBehalfOf := by
  simp only [repaidScaled]
  split_ifs with whole
  · exact Nat.le_refl _
  · omega

end Repayment

/-! ## Each entry point, inverted -/

section Inversion

variable [DecidableEq Address] [Zero Address] {cfg : Config Address}
  {l after : Lending Address} {sender : Address} {amount : Nat}

theorem supply_ok_iff :
    supply cfg sender amount l = .ok after ↔
      l.pool.entriesPaused = false ∧ amount ≠ 0 ∧ (accrue cfg l).pool.supplyIndex ≠ 0 ∧
      ∃ token, l.token.transferFrom cfg.address sender cfg.address amount = .ok token ∧
        after = (accrue cfg l).put token (State.emit ((accrue cfg l).pool.creditSupply sender
              (mulDiv amount RAY (accrue cfg l).pool.supplyIndex))
            (.supplied sender amount (mulDiv amount RAY (accrue cfg l).pool.supplyIndex))) := by
  simp only [supply, EntryPausable.whenEntriesOpen, bind_ok_iff, require_ok_iff, exists_const,
    accrue_token, Except.ok.injEq, eq_comm (b := after)]

theorem withdraw_ok_iff :
    withdraw cfg sender amount l = .ok after ↔
      amount ≠ 0 ∧ amount ≤ balanceOfSupply (accrue cfg l).pool sender ∧
      amount ≤ l.token.balanceOf cfg.address ∧ (accrue cfg l).pool.supplyIndex ≠ 0 ∧
      min (mulDivUp amount RAY (accrue cfg l).pool.supplyIndex) (l.pool.scaledSupply sender) ≤
        l.pool.totalSupplyScaled ∧
      ∃ token, l.token.move cfg.address sender amount = .ok token ∧
        after = (accrue cfg l).put token (State.emit ((accrue cfg l).pool.debitSupply sender
              (min (mulDivUp amount RAY (accrue cfg l).pool.supplyIndex)
                (l.pool.scaledSupply sender)))
            (.withdrawn sender amount
              (min (mulDivUp amount RAY (accrue cfg l).pool.supplyIndex)
                (l.pool.scaledSupply sender)))) := by
  simp only [withdraw, availableLiquidity, bind_ok_iff, require_ok_iff, exists_const,
    accrue_token, accrue_scaled_supply, accrue_total_supply_scaled, Except.ok.injEq,
    eq_comm (b := after)]

theorem borrow_ok_iff {onBehalfOf : Address} :
    borrow cfg sender amount onBehalfOf l = .ok after ↔
      sender = l.pool.borrowModule ∧ l.pool.entriesPaused = false ∧ amount ≠ 0 ∧
      amount ≤ l.token.balanceOf cfg.address ∧ (accrue cfg l).pool.borrowIndex ≠ 0 ∧
      ∃ token, l.token.move cfg.address sender amount = .ok token ∧
        after = (accrue cfg l).put token (State.emit ((accrue cfg l).pool.creditDebt onBehalfOf
              (mulDivUp amount RAY (accrue cfg l).pool.borrowIndex))
            (.borrowed onBehalfOf amount
              (mulDivUp amount RAY (accrue cfg l).pool.borrowIndex))) := by
  simp only [borrow, onlyBorrowModule, EntryPausable.whenEntriesOpen, availableLiquidity,
    bind_ok_iff, require_ok_iff, exists_const, accrue_token, Except.ok.injEq,
    eq_comm (b := after)]

theorem repay_ok_iff {onBehalfOf : Address} :
    repay cfg sender amount onBehalfOf l = .ok after ↔
      amount ≠ 0 ∧ amount ≤ balanceOfDebt (accrue cfg l).pool onBehalfOf ∧
      (accrue cfg l).pool.borrowIndex ≠ 0 ∧
      repaidScaled (accrue cfg l).pool amount onBehalfOf ≤ l.pool.totalBorrowScaled ∧
      ∃ token, l.token.transferFrom cfg.address sender cfg.address amount = .ok token ∧
        after = (accrue cfg l).put token (State.emit ((accrue cfg l).pool.debitDebt onBehalfOf
              (repaidScaled (accrue cfg l).pool amount onBehalfOf))
            (.repaid sender onBehalfOf amount
              (repaidScaled (accrue cfg l).pool amount onBehalfOf))) := by
  simp only [repay, bind_ok_iff, require_ok_iff, exists_const, accrue_token,
    accrue_total_borrow_scaled, Except.ok.injEq, eq_comm (b := after)]

def State.absorbed (pool : State Address) (user : Address) : State Address :=
  let loss := balanceOfDebt pool user
  let fall := writeDown pool loss
  State.emit ((pool.debitDebt user (pool.scaledDebt user)).charge loss fall)
    (.badDebtAbsorbed user loss fall.fromReserves fall.socialised pool.supplyIndex
      fall.supplyIndex)

omit [Zero Address] in
theorem absorb_bad_debt_ok_iff {user : Address} {loss : Nat} :
    absorbBadDebt cfg sender user l = .ok (loss, after) ↔
      sender = l.pool.borrowModule ∧ balanceOfDebt (accrue cfg l).pool user ≠ 0 ∧
      l.pool.scaledDebt user ≤ l.pool.totalBorrowScaled ∧
      loss = balanceOfDebt (accrue cfg l).pool user ∧
      after = (accrue cfg l).put l.token ((accrue cfg l).pool.absorbed user) := by
  simp only [absorbBadDebt, State.absorbed, onlyBorrowModule, bind_ok_iff, require_ok_iff,
    exists_const, accrue_token, accrue_scaled_debt, accrue_total_borrow_scaled,
    Except.ok.injEq, Prod.mk.injEq, eq_comm (b := after), eq_comm (b := loss)]

theorem exec_absorb_ok_iff {user : Address} :
    exec cfg sender l (.absorbBadDebt user) = .ok after ↔
      sender = l.pool.borrowModule ∧ balanceOfDebt (accrue cfg l).pool user ≠ 0 ∧
      l.pool.scaledDebt user ≤ l.pool.totalBorrowScaled ∧
      after = (accrue cfg l).put l.token ((accrue cfg l).pool.absorbed user) := by
  simp only [exec, map_ok_iff, Prod.exists, absorb_bad_debt_ok_iff]
  constructor
  · rintro ⟨_, _, ⟨wired, owing, fits, _, rfl⟩, rfl⟩
    exact ⟨wired, owing, fits, rfl⟩
  · rintro ⟨wired, owing, fits, rfl⟩
    exact ⟨_, _, ⟨wired, owing, fits, rfl, rfl⟩, rfl⟩

theorem withdraw_reserves_ok_iff :
    withdrawReserves cfg sender amount l = .ok after ↔
      sender = l.pool.owner ∧ amount ≠ 0 ∧ amount ≤ l.pool.totalReserves ∧
      amount ≤ l.token.balanceOf cfg.address - totalSupplied l.pool ∧
      ∃ token, l.token.move cfg.address l.pool.treasury amount = .ok token ∧
        after = l.put token (State.emit (l.pool.debitReserves amount)
          (.reservesWithdrawn l.pool.treasury amount)) := by
  simp only [withdrawReserves, Treasured.onlyOwner, bind_ok_iff, require_ok_iff,
    exists_const, Except.ok.injEq, eq_comm (b := after)]

structure SameBooks (l after : Lending Address) : Prop where
  timestamp : after.timestamp = l.timestamp
  token : after.token = l.token
  supplyIndex : after.pool.supplyIndex = l.pool.supplyIndex
  borrowIndex : after.pool.borrowIndex = l.pool.borrowIndex
  lastAccrualTime : after.pool.lastAccrualTime = l.pool.lastAccrualTime
  totalSupplyScaled : after.pool.totalSupplyScaled = l.pool.totalSupplyScaled
  totalBorrowScaled : after.pool.totalBorrowScaled = l.pool.totalBorrowScaled
  totalReserves : after.pool.totalReserves = l.pool.totalReserves
  unsocialisedBadDebt : after.pool.unsocialisedBadDebt = l.pool.unsocialisedBadDebt
  scaledSupply : after.pool.scaledSupply = l.pool.scaledSupply
  scaledDebt : after.pool.scaledDebt = l.pool.scaledDebt

theorem set_borrow_module_ok {target : Address}
    (ran : setBorrowModule sender target l = .ok after) :
    SameBooks l after ∧ l.pool.borrowModule = 0 ∧ after.pool.borrowModule ≠ 0 := by
  simp only [setBorrowModule, Treasured.onlyOwner, bind_ok_iff, require_ok_iff, exists_const,
    Except.ok.injEq] at ran
  obtain ⟨_, live, unset, rfl⟩ := ran
  exact ⟨⟨rfl, rfl, rfl, rfl, rfl, rfl, rfl, rfl, rfl, rfl, rfl⟩, unset, live⟩

theorem administer_ok {call : Treasured.Call Address}
    (ran : administer sender call l = .ok after) :
    SameBooks l after ∧ after.pool.borrowModule = l.pool.borrowModule ∧
      (l.pool.treasury ≠ 0 → after.pool.treasury ≠ 0) := by
  simp only [administer, bind_ok_iff, Except.ok.injEq] at ran
  obtain ⟨access, accessed, rfl⟩ := ran
  exact ⟨⟨rfl, rfl, rfl, rfl, rfl, rfl, rfl, rfl, rfl, rfl, rfl⟩, rfl,
    fun live => Treasured.exec_keeps_treasury_live live accessed⟩

theorem guard_ok {call : EntryPausable.Call Address}
    (ran : guard sender call l = .ok after) :
    SameBooks l after ∧ after.pool.borrowModule = l.pool.borrowModule ∧
      after.pool.treasury = l.pool.treasury := by
  simp only [guard, bind_ok_iff, Except.ok.injEq] at ran
  obtain ⟨access, _, rfl⟩ := ran
  exact ⟨⟨rfl, rfl, rfl, rfl, rfl, rfl, rfl, rfl, rfl, rfl, rfl⟩, rfl, rfl⟩

end Inversion

/-! ## Cash in and out -/

section Cash

variable [DecidableEq Address] [Zero Address] {token after : Erc20 Address}
  {self other : Address} {amount : Nat}

theorem pulled_cash (outsider : other ≠ self)
    (pulled : token.transferFrom self other self amount = .ok after) :
    after.balanceOf self = token.balanceOf self + amount := by
  obtain ⟨_, _, _, _, rfl⟩ := (Erc20.transfer_from_ok_iff _ _ _ _ _ _).1 pulled
  exact Erc20.moved_balance_target token amount outsider

theorem borrowed_cash {cfg : Config Address} {l after : Lending Address}
    {sender onBehalfOf : Address} (external : sender ≠ cfg.address)
    (ran : borrow cfg sender amount onBehalfOf l = .ok after) :
    after.token.balanceOf sender = l.token.balanceOf sender + amount := by
  obtain ⟨_, _, _, _, _, drawn, draws, rfl⟩ := borrow_ok_iff.1 ran
  obtain ⟨_, _, _, rfl⟩ := (Erc20.move_ok_iff _ _ _ _ _).1 draws
  rw [Lending.put_token]
  exact Erc20.moved_balance_target l.token amount external.symm

theorem pushed_cash (pushed : token.move self other amount = .ok after) :
    token.balanceOf self ≤ after.balanceOf self + amount := by
  obtain ⟨_, _, funded, rfl⟩ := (Erc20.move_ok_iff _ _ _ _ _).1 pushed
  by_cases same : self = other
  · subst same
    rw [Erc20.moved_balance_same token funded]
    omega
  · rw [Erc20.moved_balance_source token amount same]
    omega

end Cash

/-! ## Accounts that are not the caller -/

section Bystander

variable [DecidableEq Address] [Zero Address] {cfg : Config Address}
  {l after : Lending Address} {sender account : Address}

/-- A pull by the pool spends the caller's allowance and takes from the caller. -/
theorem pulled_bystander {token pulled : Erc20 Address} {amount : Nat}
    (other : account ≠ sender)
    (ran : token.transferFrom cfg.address sender cfg.address amount = .ok pulled) :
    token.balanceOf account ≤ pulled.balanceOf account ∧
      pulled.allowance account = token.allowance account := by
  obtain ⟨_, _, _, _, rfl⟩ := (Erc20.transfer_from_ok_iff _ _ _ _ _ _).1 ran
  exact ⟨Erc20.moved_balance_ge token amount other, Erc20.allowance_after_other _ _ other⟩

/-- A payment by the pool touches no allowance and takes from the pool only. -/
theorem pushed_bystander {token pushed : Erc20 Address} {target : Address} {amount : Nat}
    (ran : token.move cfg.address target amount = .ok pushed) :
    (account ≠ cfg.address → token.balanceOf account ≤ pushed.balanceOf account) ∧
      pushed.allowance account = token.allowance account := by
  obtain ⟨_, _, _, rfl⟩ := (Erc20.move_ok_iff _ _ _ _ _).1 ran
  exact ⟨fun other => Erc20.moved_balance_ge token amount other, rfl⟩

/-- A call on the pool takes nothing from an account that neither made it nor
is the pool, and changes the allowances of its caller only. -/
theorem exec_keeps_bystander {call : Call Address} (other : account ≠ sender)
    (ran : exec cfg sender l call = .ok after) :
    (account ≠ cfg.address → l.token.balanceOf account ≤ after.token.balanceOf account) ∧
      after.token.allowance account = l.token.allowance account := by
  cases call with
  | accrue =>
      cases ran
      simp
  | supply amount =>
      obtain ⟨_, _, _, token, pulled, rfl⟩ := supply_ok_iff.1 ran
      exact ⟨fun _ => (pulled_bystander other pulled).1, (pulled_bystander other pulled).2⟩
  | withdraw amount =>
      obtain ⟨_, _, _, _, _, token, pushed, rfl⟩ := withdraw_ok_iff.1 ran
      exact pushed_bystander pushed
  | borrow amount onBehalfOf =>
      obtain ⟨_, _, _, _, _, token, pushed, rfl⟩ := borrow_ok_iff.1 ran
      exact pushed_bystander pushed
  | repay amount onBehalfOf =>
      obtain ⟨_, _, _, _, token, pulled, rfl⟩ := repay_ok_iff.1 ran
      exact ⟨fun _ => (pulled_bystander other pulled).1, (pulled_bystander other pulled).2⟩
  | absorbBadDebt user =>
      obtain ⟨_, _, _, rfl⟩ := exec_absorb_ok_iff.1 ran
      exact ⟨fun _ => Nat.le_refl _, rfl⟩
  | withdrawReserves amount =>
      obtain ⟨_, _, _, _, token, pushed, rfl⟩ := withdraw_reserves_ok_iff.1 ran
      exact pushed_bystander pushed
  | setBorrowModule target =>
      have same := (set_borrow_module_ok ran).1.token
      exact ⟨fun _ => by rw [same], by rw [same]⟩
  | administer call =>
      have same := (administer_ok ran).1.token
      exact ⟨fun _ => by rw [same], by rw [same]⟩
  | guard call =>
      have same := (guard_ok ran).1.token
      exact ⟨fun _ => by rw [same], by rw [same]⟩

/-- What a call on the pool does to the asset, the pool does. -/
theorem exec_driven {call : Call Address} (ran : exec cfg sender l call = .ok after) :
    Erc20.Driven (· = cfg.address) l.token after.token := by
  cases call with
  | accrue =>
      cases ran
      rw [accrue_token]
      exact .refl _ _
  | supply amount =>
      obtain ⟨_, _, _, token, pulled, rfl⟩ := supply_ok_iff.1 ran
      exact .transfer_from rfl pulled
  | withdraw amount =>
      obtain ⟨_, _, _, _, _, token, pushed, rfl⟩ := withdraw_ok_iff.1 ran
      exact .move rfl pushed
  | borrow amount onBehalfOf =>
      obtain ⟨_, _, _, _, _, token, pushed, rfl⟩ := borrow_ok_iff.1 ran
      exact .move rfl pushed
  | repay amount onBehalfOf =>
      obtain ⟨_, _, _, _, token, pulled, rfl⟩ := repay_ok_iff.1 ran
      exact .transfer_from rfl pulled
  | absorbBadDebt user =>
      obtain ⟨_, _, _, rfl⟩ := exec_absorb_ok_iff.1 ran
      exact .refl _ _
  | withdrawReserves amount =>
      obtain ⟨_, _, _, _, token, pushed, rfl⟩ := withdraw_reserves_ok_iff.1 ran
      exact .move rfl pushed
  | setBorrowModule target =>
      rw [(set_borrow_module_ok ran).1.token]
      exact .refl _ _
  | administer call =>
      rw [(administer_ok ran).1.token]
      exact .refl _ _
  | guard call =>
      rw [(guard_ok ran).1.token]
      exact .refl _ _

theorem exec_timestamp {call : Call Address} (ran : exec cfg sender l call = .ok after) :
    after.timestamp = l.timestamp := by
  cases call with
  | accrue =>
      cases ran
      exact accrue_timestamp cfg l
  | supply amount =>
      obtain ⟨_, _, _, _, _, rfl⟩ := supply_ok_iff.1 ran
      exact accrue_timestamp cfg l
  | withdraw amount =>
      obtain ⟨_, _, _, _, _, _, _, rfl⟩ := withdraw_ok_iff.1 ran
      exact accrue_timestamp cfg l
  | borrow amount onBehalfOf =>
      obtain ⟨_, _, _, _, _, _, _, rfl⟩ := borrow_ok_iff.1 ran
      exact accrue_timestamp cfg l
  | repay amount onBehalfOf =>
      obtain ⟨_, _, _, _, _, _, rfl⟩ := repay_ok_iff.1 ran
      exact accrue_timestamp cfg l
  | absorbBadDebt user =>
      obtain ⟨_, _, _, rfl⟩ := exec_absorb_ok_iff.1 ran
      exact accrue_timestamp cfg l
  | withdrawReserves amount =>
      obtain ⟨_, _, _, _, _, _, rfl⟩ := withdraw_reserves_ok_iff.1 ran
      rfl
  | setBorrowModule target => exact (set_borrow_module_ok ran).1.timestamp
  | administer call => exact (administer_ok ran).1.timestamp
  | guard call => exact (guard_ok ran).1.timestamp

omit [Zero Address] in
theorem debit_debt_le (pool : State Address) (target user : Address) (scaled : Nat) :
    (pool.debitDebt target scaled).scaledDebt user ≤ pool.scaledDebt user := by
  rw [debit_debt_scaled_debt]
  by_cases same : user = target
  · rw [same, Function.update_self]
    exact Nat.sub_le _ _
  · rw [Function.update_of_ne same]

omit [Zero Address] in
theorem absorbed_scaled_debt (pool : State Address) (user : Address) :
    (pool.absorbed user).scaledDebt =
      (pool.debitDebt user (pool.scaledDebt user)).scaledDebt := rfl

omit [Zero Address] in
theorem absorbed_borrow_module (pool : State Address) (user : Address) :
    (pool.absorbed user).borrowModule = pool.borrowModule := rfl

omit [Zero Address] in
theorem absorbed_treasury (pool : State Address) (user : Address) :
    (pool.absorbed user).treasury = pool.treasury := rfl

/-- Only a borrow for an account adds to its debt. -/
theorem exec_debt_le {call : Call Address} {user : Address}
    (quiet : ∀ amount, call ≠ .borrow amount user)
    (ran : exec cfg sender l call = .ok after) :
    after.pool.scaledDebt user ≤ l.pool.scaledDebt user := by
  rw [← accrue_scaled_debt cfg l]
  cases call with
  | accrue =>
      cases ran
      exact Nat.le_refl _
  | supply amount =>
      obtain ⟨_, _, _, _, _, rfl⟩ := supply_ok_iff.1 ran
      simp
  | withdraw amount =>
      obtain ⟨_, _, _, _, _, _, _, rfl⟩ := withdraw_ok_iff.1 ran
      simp
  | borrow amount onBehalfOf =>
      obtain ⟨_, _, _, _, _, _, _, rfl⟩ := borrow_ok_iff.1 ran
      have other : user ≠ onBehalfOf := fun same => quiet amount (by rw [same])
      simp [other]
  | repay amount onBehalfOf =>
      obtain ⟨_, _, _, _, _, _, rfl⟩ := repay_ok_iff.1 ran
      rw [Lending.put_pool, emit_scaled_debt]
      exact debit_debt_le _ _ _ _
  | absorbBadDebt other =>
      obtain ⟨_, _, _, rfl⟩ := exec_absorb_ok_iff.1 ran
      rw [Lending.put_pool, absorbed_scaled_debt]
      exact debit_debt_le _ _ _ _
  | withdrawReserves amount =>
      obtain ⟨_, _, _, _, _, _, rfl⟩ := withdraw_reserves_ok_iff.1 ran
      simp
  | setBorrowModule target => rw [(set_borrow_module_ok ran).1.scaledDebt, accrue_scaled_debt]
  | administer call => rw [(administer_ok ran).1.scaledDebt, accrue_scaled_debt]
  | guard call => rw [(guard_ok ran).1.scaledDebt, accrue_scaled_debt]

theorem exec_borrow_module {call : Call Address} (unset : ∀ target, call ≠ .setBorrowModule target)
    (ran : exec cfg sender l call = .ok after) :
    after.pool.borrowModule = l.pool.borrowModule := by
  cases call with
  | accrue =>
      cases ran
      exact accrue_borrow_module cfg l
  | supply amount =>
      obtain ⟨_, _, _, _, _, rfl⟩ := supply_ok_iff.1 ran
      rw [Lending.put_pool, emit_borrow_module, credit_supply_borrow_module, accrue_borrow_module]
  | withdraw amount =>
      obtain ⟨_, _, _, _, _, _, _, rfl⟩ := withdraw_ok_iff.1 ran
      rw [Lending.put_pool, emit_borrow_module, debit_supply_borrow_module, accrue_borrow_module]
  | borrow amount onBehalfOf =>
      obtain ⟨_, _, _, _, _, _, _, rfl⟩ := borrow_ok_iff.1 ran
      rw [Lending.put_pool, emit_borrow_module, credit_debt_borrow_module, accrue_borrow_module]
  | repay amount onBehalfOf =>
      obtain ⟨_, _, _, _, _, _, rfl⟩ := repay_ok_iff.1 ran
      rw [Lending.put_pool, emit_borrow_module, debit_debt_borrow_module, accrue_borrow_module]
  | absorbBadDebt other =>
      obtain ⟨_, _, _, rfl⟩ := exec_absorb_ok_iff.1 ran
      rw [Lending.put_pool, absorbed_borrow_module, accrue_borrow_module]
  | withdrawReserves amount =>
      obtain ⟨_, _, _, _, _, _, rfl⟩ := withdraw_reserves_ok_iff.1 ran
      rw [Lending.put_pool, emit_borrow_module, debit_reserves_borrow_module]
  | setBorrowModule target => exact absurd rfl (unset target)
  | administer call => exact (administer_ok ran).2.1
  | guard call => exact (guard_ok ran).2.1

theorem exec_treasury_live {call : Call Address} (live : l.pool.treasury ≠ 0)
    (ran : exec cfg sender l call = .ok after) : after.pool.treasury ≠ 0 := by
  have accrued : (accrue cfg l).pool.treasury = l.pool.treasury :=
    congrArg Treasured.treasury (accrue_treasured cfg l)
  cases call with
  | accrue =>
      cases ran
      rw [accrued]
      exact live
  | supply amount =>
      obtain ⟨_, _, _, _, _, rfl⟩ := supply_ok_iff.1 ran
      rw [Lending.put_pool, emit_treasury, credit_supply_treasury, accrued]
      exact live
  | withdraw amount =>
      obtain ⟨_, _, _, _, _, _, _, rfl⟩ := withdraw_ok_iff.1 ran
      rw [Lending.put_pool, emit_treasury, debit_supply_treasury, accrued]
      exact live
  | borrow amount onBehalfOf =>
      obtain ⟨_, _, _, _, _, _, _, rfl⟩ := borrow_ok_iff.1 ran
      rw [Lending.put_pool, emit_treasury, credit_debt_treasury, accrued]
      exact live
  | repay amount onBehalfOf =>
      obtain ⟨_, _, _, _, _, _, rfl⟩ := repay_ok_iff.1 ran
      rw [Lending.put_pool, emit_treasury, debit_debt_treasury, accrued]
      exact live
  | absorbBadDebt other =>
      obtain ⟨_, _, _, rfl⟩ := exec_absorb_ok_iff.1 ran
      rw [Lending.put_pool, absorbed_treasury, accrued]
      exact live
  | withdrawReserves amount =>
      obtain ⟨_, _, _, _, _, _, rfl⟩ := withdraw_reserves_ok_iff.1 ran
      rw [Lending.put_pool, emit_treasury, debit_reserves_treasury]
      exact live
  | setBorrowModule target =>
      simp only [exec, setBorrowModule, Treasured.onlyOwner, bind_ok_iff, require_ok_iff,
        exists_const, Except.ok.injEq] at ran
      obtain ⟨_, _, _, rfl⟩ := ran
      exact live
  | administer call => exact (administer_ok ran).2.2 live
  | guard call =>
      rw [(guard_ok ran).2.2]
      exact live

/-- Nobody borrows before the module is set, the zero address being nobody. -/
theorem borrower_live {amount : Nat} {onBehalfOf : Address}
    (ran : borrow cfg sender amount onBehalfOf l = .ok after) :
    sender = l.pool.borrowModule ∧ sender ≠ 0 := by
  obtain ⟨wired, _, _, _, _, _, drawn, _⟩ := borrow_ok_iff.1 ran
  exact ⟨wired, ((Erc20.move_ok_iff _ _ _ _ _).1 drawn).2.1⟩

/-- A call adds to no debt, or is a borrow by a live module, or sets the module. -/
theorem exec_wiring {call : Call Address} (ran : exec cfg sender l call = .ok after) :
    (after.pool.borrowModule = l.pool.borrowModule ∧
      ((∀ user, after.pool.scaledDebt user ≤ l.pool.scaledDebt user) ∨
        sender = l.pool.borrowModule ∧ sender ≠ 0)) ∨
    l.pool.borrowModule = 0 ∧ after.pool.borrowModule ≠ 0 ∧
      ∀ user, after.pool.scaledDebt user ≤ l.pool.scaledDebt user := by
  by_cases borrows : ∃ amount user, call = .borrow amount user
  · obtain ⟨amount, user, rfl⟩ := borrows
    refine .inl ⟨exec_borrow_module ?_ ran, .inr (borrower_live ran)⟩
    intro target same
    cases same
  · have debts : ∀ user, after.pool.scaledDebt user ≤ l.pool.scaledDebt user := by
      intro user
      apply exec_debt_le _ ran
      intro amount same
      exact borrows ⟨amount, user, same⟩
    by_cases sets : ∃ target, call = .setBorrowModule target
    · obtain ⟨target, rfl⟩ := sets
      obtain ⟨_, unset, live⟩ := set_borrow_module_ok ran
      exact .inr ⟨unset, live, debts⟩
    · refine .inl ⟨exec_borrow_module ?_ ran, .inl debts⟩
      intro target same
      exact sets ⟨target, same⟩

end Bystander

/-! ## Histories -/

section Histories

variable [DecidableEq Address] [Zero Address]

/-- One thing that happens to a deployed pool: a call on it, a call on the
asset, or the passage of time. -/
inductive Action (Address : Type) where
  | call (sender : Address) (call : Call Address)
  | asset (sender : Address) (call : Erc20.Call Address)
  | wait (seconds : Nat)

def act (cfg : Config Address) (l : Lending Address) :
    Action Address → Outcome Address (Lending Address)
  | .call sender call => exec cfg sender l call
  | .asset sender call => do
      let token ← l.token.exec sender call
      .ok { l with token := token }
  | .wait seconds => .ok { l with timestamp := l.timestamp + seconds }

/-- The pool never calls itself or the asset's approval functions. -/
def Action.External (cfg : Config Address) : Action Address → Prop
  | .call sender _ => sender ≠ cfg.address
  | .asset sender _ => sender ≠ cfg.address
  | .wait _ => True

/-- A pool fresh from its constructor, on any asset it has approved nobody for. -/
def Deployed (cfg : Config Address) (l : Lending Address) : Prop :=
  (∃ owner access guardian, Treasured.deploy owner = .ok access ∧
    l.pool = deployed access guardian l.timestamp) ∧
  l.token.allowance cfg.address = fun _ => 0

def machine (cfg : Config Address) : Machine (Lending Address) (Action Address) where
  initial := Deployed cfg
  step l action after := action.External cfg ∧ act cfg l action = .ok after

/-- Nobody owes before the module is set. -/
theorem no_debt_of_unset {cfg : Config Address} {l : Lending Address}
    (reached : (machine cfg).Reachable l) (unset : l.pool.borrowModule = 0) (user : Address) :
    l.pool.scaledDebt user = 0 := by
  revert unset
  apply reached.invariant fun l => l.pool.borrowModule = 0 → l.pool.scaledDebt user = 0
  · intro state start _
    obtain ⟨⟨_, access, guardian, _, fresh⟩, _⟩ := start
    rw [fresh]
    rfl
  · intro state action next _ before taken unset
    obtain ⟨_, ran⟩ := taken
    cases action with
    | call sender call =>
        rcases exec_wiring ran with ⟨same, less | borrowed⟩ | ⟨_, live, _⟩
        · have le := less user
          rw [before (same.symm.trans unset)] at le
          exact Nat.le_zero.1 le
        · obtain ⟨wired, live⟩ := borrowed
          exact absurd (wired.trans (same.symm.trans unset)) live
        · exact absurd unset live
    | asset sender call =>
        simp only [act, bind_ok_iff, Except.ok.injEq] at ran
        obtain ⟨_, _, rfl⟩ := ran
        exact before unset
    | wait seconds =>
        cases ran
        exact before unset

instance (cfg : Config Address) (action : Action Address) : Decidable (action.External cfg) :=
  match action with
  | .call sender _ => inferInstanceAs (Decidable (sender ≠ cfg.address))
  | .asset sender _ => inferInstanceAs (Decidable (sender ≠ cfg.address))
  | .wait _ => isTrue trivial

end Histories

/-! ## A small pool

Seven is the pool, six its owner and guardian, five its borrow module, and one
to four are users who have approved the contracts for everything they hold. -/

section Sample

def flatCurve (rate : Nat) : Config (Fin 8) where
  address := 7
  baseRatePerSecond := rate
  slope1PerSecond := 0
  slope2PerSecond := 0
  kink := 5 * 10 ^ 17
  reserveFactor := 0
  kink_ne_zero := Figures.half_ne_zero
  kink_lt_wad := Figures.half_lt_wad
  reserve_factor_lt_wad := wad_pos

def fresh : Lending (Fin 8) where
  timestamp := 0
  token :=
    { balanceOf := fun user => if 1 ≤ user ∧ user ≤ 4 then 10 ^ 40 else 0
      allowance := fun owner spender =>
        if 1 ≤ owner ∧ owner ≤ 4 ∧ (spender = 5 ∨ spender = 7) then uint256Max else 0
      totalSupply := 4 * 10 ^ 40 }
  pool := deployed { owner := 6, treasury := 6 } 6 0

/-- A pool with a supplier, a borrower and a few reserves, a hundred seconds
after its last accrual. -/
def lent : Lending (Fin 8) :=
  { fresh with
    timestamp := 100
    token := fresh.token.credited 7 1700
    pool :=
      { fresh.pool with
        borrowModule := 5
        totalSupplyScaled := 1000
        scaledSupply := Function.update (fun _ => 0) 1 1000
        totalBorrowScaled := 400
        scaledDebt := Function.update (fun _ => 0) 2 400
        totalReserves := 10 } }

theorem fresh_deployed {cfg : Config (Fin 8)} (self : cfg.address = 7) : Deployed cfg fresh := by
  refine ⟨⟨6, { owner := 6, treasury := 6 }, 6, rfl, rfl⟩, ?_⟩
  funext spender
  rw [self]
  have contract : ¬(1 ≤ (7 : Fin 8) ∧ (7 : Fin 8) ≤ 4 ∧ (spender = 5 ∨ spender = 7)) := by
    simp
  exact if_neg (c := _) (t := uint256Max) contract

theorem reachable_of_run (cfg : Config (Fin 8)) (self : cfg.address = 7)
    (run : List (Action (Fin 8))) (check : Lending (Fin 8) → Bool)
    (outside : ∀ action ∈ run, action.External cfg)
    (ran : passes (Machine.replay (act cfg) fresh run) check = true) :
    ∃ l, (machine cfg).Reachable l ∧ check l = true := by
  obtain ⟨l, replayed, checked⟩ := exists_of_passes _ ran
  have start : (machine cfg).Reachable fresh := .initial (fresh_deployed self)
  refine ⟨l, start.replay ?_ replayed, checked⟩
  intro action member before after taken
  exact ⟨outside action member, taken⟩

/-- A replay from `fresh` beside a tally, through steps that a guard admits. -/
theorem reachable_of_replay {Tally : Type} (cfg : Config (Fin 8)) (self : cfg.address = 7)
    (zero : Tally)
    (charge : Tally → Lending (Fin 8) → Action (Fin 8) → Tally)
    (admits : Lending (Fin 8) → Action (Fin 8) → Prop) [∀ l action, Decidable (admits l action)]
    (run : List (Action (Fin 8))) (check : Tally × Lending (Fin 8) → Bool)
    (outside : ∀ action ∈ run, action.External cfg)
    (ran : passes (Machine.replay (Machine.beside charge
      (Machine.guarded admits .external (act cfg))) (zero, fresh) run) check = true) :
    ∃ pair, (((machine cfg).restrict admits).tallied zero charge).Reachable pair ∧
      check pair = true := by
  obtain ⟨pair, replayed, checked⟩ := exists_of_passes _ ran
  have start : (((machine cfg).restrict admits).tallied zero charge).Reachable (zero, fresh) :=
    .initial ⟨rfl, fresh_deployed self⟩
  refine ⟨pair, start.replay ?_ replayed, checked⟩
  intro action member before after taken
  obtain ⟨charged, acted⟩ := Machine.beside_ok taken
  obtain ⟨acted, admitted⟩ := Machine.guarded_ok acted
  exact ⟨charged, ⟨outside action member, acted⟩, admitted⟩

end Sample

end Pool

end Ghoststake
