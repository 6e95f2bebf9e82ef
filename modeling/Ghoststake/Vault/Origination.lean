import Ghoststake.Pool.Instant
import Ghoststake.Vault.Closable

/-!
# What a loan adds to a lien, and a repayment takes off

The limit is checked on the amount asked for, and the pool records it rounded
up to a scaled unit. How far the two can differ, in both directions.
-/

namespace Ghoststake

set_option autoImplicit false

open Checked Rounding

namespace Vault

variable {Address : Type} [DecidableEq Address] [Zero Address] {cfg : Config Address}
  {c after : Chain Address} {sender user recipient : Address} {amount : Nat}

def debtUnit (c : Chain Address) : Nat := mulDivUp c.pool.borrowIndex 1 RAY

structure Originated (cfg : Config Address) (user recipient : Address) (amount : Nat)
    (c after : Chain Address) : Prop where
  rises : lienOf cfg (accrueLien cfg c) user + amount ≤ lienOf cfg after user
  rises_by : lienOf cfg after user ≤ lienOf cfg (accrueLien cfg c) user + amount + debtUnit after
  limited : lienOf cfg after user ≤
    mulDiv (collateralValue cfg after user) cfg.maxLTV WAD + debtUnit after
  received : after.token.balanceOf recipient = c.token.balanceOf recipient + amount
  healthy : debtUnit after <
      mulDiv (collateralValue cfg after user) (cfg.liquidationThreshold - cfg.maxLTV) WAD →
    WAD ≤ healthFactor cfg after user

structure PaidOff (cfg : Config Address) (user : Address) (paid : Nat) (c after : Chain Address) :
    Prop where
  falls_by : lienOf cfg (accrueLien cfg c) user ≤ lienOf cfg after user + paid
  falls : lienOf cfg after user + paid ≤ lienOf cfg (accrueLien cfg c) user + debtUnit after
  others : ∀ other, other ≠ user → lienOf cfg after other = lienOf cfg (accrueLien cfg c) other

/-! ## Loans -/

omit [DecidableEq Address] in
theorem lien_of_pool {pool : Pool.Config Address} {state : Pool.State Address}
    (source : cfg.lienSource = some pool) (same : c.pool = state) (user : Address) :
    lienOf cfg c user = Pool.balanceOfDebt state user := by
  rw [lien_of_eq source, same]

omit [DecidableEq Address] in
/-- A collateral value reads the assets, the shares, the ledger and the clock. -/
theorem collateral_value_congr {a b : Chain Address} (user : Address)
    (assets : totalAssets cfg a = totalAssets cfg b)
    (shares : a.vault.shares = b.vault.shares) (positions : a.vault.positions = b.vault.positions)
    (timestamp : a.timestamp = b.timestamp) :
    collateralValue cfg a user = collateralValue cfg b user := by
  have worth := convert_to_assets_congr assets (total_supply_shares shares) (balanceOf b user)
  simp only [collateralValue, totalLedgerValue, accruedYield, positions, timestamp,
    balance_of_shares shares, worth]

omit [DecidableEq Address] in
/-- A lien within the limit and a unit is backed, when the gap between the two
thresholds is worth the unit. -/
theorem healthy_of_limited {lien value unit : Nat} (cfg : Config Address)
    (limited : lien ≤ mulDiv value cfg.maxLTV WAD + unit)
    (buffered : unit ≤ mulDiv value (cfg.liquidationThreshold - cfg.maxLTV) WAD) :
    lien * WAD ≤ value * cfg.liquidationThreshold := by
  have limit := mul_div_mul_le value cfg.maxLTV WAD
  have buffer := mul_div_mul_le value (cfg.liquidationThreshold - cfg.maxLTV) WAD
  calc
    lien * WAD ≤ (mulDiv value cfg.maxLTV WAD +
        mulDiv value (cfg.liquidationThreshold - cfg.maxLTV) WAD) * WAD :=
      Nat.mul_le_mul_right _ (limited.trans (Nat.add_le_add_left buffered _))
    _ ≤ value * cfg.maxLTV + value * (cfg.liquidationThreshold - cfg.maxLTV) := by
      rw [Nat.add_mul]
      exact Nat.add_le_add limit buffer
    _ = value * cfg.liquidationThreshold := by
      rw [← Nat.mul_add, Nat.add_sub_cancel' cfg.max_ltv_lt_threshold.le]

/-- What a loan leaves: the pool's figures, the collateral as it was, and the
proceeds with the recipient. -/
theorem borrow_internal_ok (outsider : Outsider cfg recipient)
    (ran : borrowInternal cfg user amount recipient c = .ok after) :
    (lienOf cfg (accrueLien cfg c) user + amount ≤ mulDiv (collateralValue cfg after user)
        cfg.maxLTV WAD ∧
      lienOf cfg (accrueLien cfg c) user + amount ≤ lienOf cfg after user ∧
      lienOf cfg after user ≤ lienOf cfg (accrueLien cfg c) user + amount + debtUnit after) ∧
    after.token.balanceOf recipient = c.token.balanceOf recipient + amount := by
  simp only [borrowInternal, bind_ok_iff, require_ok_iff, exists_const, Chain.pay_ok_iff,
    Chain.lend_ok_iff, creditor_ok_iff, Except.ok.injEq] at ran
  obtain ⟨pool, source, _, within, _, ⟨lending, borrowed, rfl⟩, _, ⟨token, pushed, rfl⟩, rfl⟩ := ran
  have apart := (cfg.pool_live pool source).2
  have current : Pool.accrue pool (accrueLien cfg (settleInternal cfg user c)).toLending =
      (accrueLien cfg (settleInternal cfg user c)).toLending := by
    rw [accrue_lien_lending source]
    exact Pool.accrue_accrue pool _
  obtain ⟨_, _, rises, _⟩ := Pool.borrow_figures user apart.symm borrowed
  have bounded := Pool.borrow_debt_le borrowed
  obtain ⟨lent, clock, index⟩ := Pool.borrow_leaves borrowed
  obtain ⟨_, _, _, rfl⟩ := (Erc20.move_ok_iff _ _ _ _ _).1 pushed
  rw [current] at rises bounded index
  rw [if_pos rfl] at rises
  rw [← index] at bounded
  have before : Pool.balanceOfDebt (accrueLien cfg (settleInternal cfg user c)).pool user =
      lienOf cfg (accrueLien cfg c) user := by
    rw [← lien_of_eq source, lien_of_accrue_settle]
  rw [before] at rises bounded
  have still : (accrueLien cfg (settleInternal cfg user c)).token = c.token := by
    rw [accrue_lien_token, settle_lending]
  rw [still] at lent
  refine ⟨⟨?_, ?_, ?_⟩, ?_⟩
  · rw [lien_of_accrue_settle] at within
    apply within.trans
    apply le_of_eq
    congr 1
    apply collateral_value_congr
    · simp only [totalAssets, Chain.emit_lending, lent, still]
      rw [Erc20.moved_balance_source _ _ outsider.1.symm,
        Erc20.moved_balance_target _ _ apart, Nat.add_sub_cancel]
    · simp
    · simp
    · simp [clock]
  · rw [lien_of_emit]
    apply rises.trans_eq
    symm
    apply lien_of_pool source
    rfl
  · rw [lien_of_emit]
    refine Eq.trans_le ?_ bounded
    apply lien_of_pool source
    rfl
  · simp only [Chain.emit_lending, lent]
    rw [Erc20.moved_balance_target _ _ outsider.1.symm,
      Erc20.moved_balance_other _ _ (outsider.2 pool source) outsider.1]

theorem originated_of_borrow_internal (outsider : Outsider cfg recipient)
    (ran : borrowInternal cfg user amount recipient c = .ok after) :
    Originated cfg user recipient amount c after := by
  obtain ⟨⟨within, rises, bounded⟩, received⟩ := borrow_internal_ok outsider ran
  have limited : lienOf cfg after user ≤
      mulDiv (collateralValue cfg after user) cfg.maxLTV WAD + debtUnit after :=
    bounded.trans (Nat.add_le_add_right within _)
  refine ⟨rises, bounded, limited, received, ?_⟩
  intro buffered
  unfold healthFactor
  split_ifs with none
  · unfold WAD uint256Max
    decide
  · rw [le_mul_div_iff (Nat.pos_of_ne_zero none), Nat.mul_comm]
    exact healthy_of_limited cfg limited buffered.le

/-- A delegated loan spends an allowance first, which nothing here reads. -/
theorem originated_of_borrow_for {delegate : Address} (outsider : Outsider cfg recipient)
    (ran : borrowInternal cfg user amount recipient
      (spendBorrowAllowance user delegate amount c) = .ok after) :
    Originated cfg user recipient amount c after := by
  have lending : (spendBorrowAllowance user delegate amount c).toLending = c.toLending :=
    spend_borrow_allowance_lending delegate
  have accrued : lienOf cfg (accrueLien cfg (spendBorrowAllowance user delegate amount c)) user =
      lienOf cfg (accrueLien cfg c) user := by
    apply lien_of_lending
    unfold accrueLien
    split
    · exact lending
    · rw [lending]
  obtain ⟨rises, bounded, limited, received, healthy⟩ := originated_of_borrow_internal outsider ran
  rw [accrued] at rises bounded
  rw [lending] at received
  exact ⟨rises, bounded, limited, received, healthy⟩

/-! ## Repayments -/

/-- A payment straight to the pool, once it is up to date. -/
theorem paid_off_of_pool_repay {pool : Pool.Config Address} {lending repaid : Lending Address}
    (source : cfg.lienSource = some pool)
    (accrued : (Pool.accrue pool lending).pool = (accrueLien cfg c).pool)
    (ran : Pool.repay pool sender amount user lending = .ok repaid)
    (lent : after.pool = repaid.pool) :
    PaidOff cfg user amount c after ∧
      (lienOf cfg (accrueLien cfg c) user ≤ amount → lienOf cfg after user = 0) := by
  obtain ⟨falls, clears⟩ := Pool.repay_debt_le ran
  have index := Pool.repay_leaves ran
  have falls_by := Pool.repay_debt_ge user ran
  rw [if_pos rfl, accrued] at falls_by
  rw [← index, accrued] at falls
  rw [accrued] at clears
  rw [← lent] at falls_by falls clears
  refine ⟨⟨?_, ?_, ?_⟩, ?_⟩
  · rw [lien_of_eq source, lien_of_eq source]
    exact falls_by
  · rw [lien_of_eq source, lien_of_eq source]
    exact falls
  · intro other distinct
    have same := Pool.repay_debt_other distinct ran
    rw [accrued, ← lent] at same
    rw [lien_of_eq source, lien_of_eq source]
    exact same
  · rw [lien_of_eq source, lien_of_eq source]
    exact clears

/-- A payment the vault makes, once the pool is up to date. -/
theorem paid_off_of_repay_lien {pool : Pool.Config Address} {ready : Chain Address}
    (source : cfg.lienSource = some pool) (current : Pool.elapsed ready.toLending = 0)
    (accrued : ready.pool = (accrueLien cfg c).pool)
    (ran : repayLien cfg pool amount user ready = .ok after) :
    PaidOff cfg user amount c after ∧
      (lienOf cfg (accrueLien cfg c) user ≤ amount → lienOf cfg after user = 0) := by
  simp only [repayLien, bind_ok_iff, Chain.pay_ok_iff, Chain.lend_ok_iff] at ran
  obtain ⟨_, ⟨approved, _, rfl⟩, lending, repaid, rfl⟩ := ran
  have still : Pool.elapsed { ready.toLending with token := approved } = 0 := current
  have same := congrArg Lending.pool (Pool.accrue_of_no_time pool _ still)
  exact paid_off_of_pool_repay source (same.trans accrued) repaid rfl

theorem paid_off_of_pull_and_repay {pool : Pool.Config Address}
    (source : cfg.lienSource = some pool)
    (ran : pullAndRepay cfg pool sender user amount (accrueLien cfg c) = .ok after) :
    PaidOff cfg user amount c after ∧
      (lienOf cfg (accrueLien cfg c) user ≤ amount → lienOf cfg after user = 0) := by
  simp only [pullAndRepay, bind_ok_iff, Chain.pay_ok_iff] at ran
  obtain ⟨_, ⟨pulled, _, rfl⟩, repays⟩ := ran
  apply paid_off_of_repay_lien source _ _ repays
  · exact current_accrue_lien source
  · rfl

omit [DecidableEq Address] in
theorem PaidOff.emit {paid : Nat} (paidOff : PaidOff cfg user paid c after)
    (event : Event Address) : PaidOff cfg user paid c (after.emit event) :=
  ⟨paidOff.falls_by, paidOff.falls, paidOff.others⟩

/-- A payment through the vault is capped at what is owed. -/
theorem paid_off_of_repay (ran : repay cfg sender amount user c = .ok after) :
    PaidOff cfg user (min amount (lienOf cfg (accrueLien cfg c) user)) c after ∧
      (lienOf cfg (accrueLien cfg c) user ≤ amount → lienOf cfg after user = 0) := by
  simp only [repay, bind_ok_iff, require_ok_iff, exists_const, creditor_ok_iff,
    Except.ok.injEq] at ran
  obtain ⟨pool, source, _, _, repaid, repays, rfl⟩ := ran
  obtain ⟨paid, clears⟩ := paid_off_of_pull_and_repay source repays
  refine ⟨paid.emit _, ?_⟩
  intro covers
  apply clears
  rw [Nat.min_eq_right covers]

/-- In every state: a loan raises the lien by what was drawn and less
than one scaled unit more, keeps it within the limit and such a unit, reaches
the recipient in full, and opens healthy when the gap between the two thresholds
is worth more than the unit; and a repayment, through the vault or straight to
the pool, lowers the lien by what was paid and less than one scaled unit less,
and closes it when it covers it. -/
theorem origination_bounds (cfg : Config Address) (c : Chain Address) :
    (∀ sender amount after, Outsider cfg sender → borrow cfg sender amount c = .ok after →
      Originated cfg sender sender amount c after) ∧
    (∀ sender user amount after, Outsider cfg sender →
      borrowFor cfg sender user amount c = .ok after →
      Originated cfg user sender amount c after) ∧
    (∀ sender user amount after, repay cfg sender amount user c = .ok after →
      PaidOff cfg user (min amount (lienOf cfg (accrueLien cfg c) user)) c after ∧
        (lienOf cfg (accrueLien cfg c) user ≤ amount → lienOf cfg after user = 0)) ∧
    (∀ sender user amount after, execPool cfg sender (.repay amount user) c = .ok after →
      PaidOff cfg user amount c after ∧
        (lienOf cfg (accrueLien cfg c) user ≤ amount → lienOf cfg after user = 0)) := by
  refine ⟨?_, ?_, ?_, ?_⟩
  · intro sender amount after outsider ran
    simp only [borrow, bind_ok_iff] at ran
    obtain ⟨_, _, ran⟩ := ran
    exact originated_of_borrow_internal outsider ran
  · intro sender user amount after outsider ran
    simp only [borrowFor, bind_ok_iff] at ran
    obtain ⟨_, _, _, _, ran⟩ := ran
    exact originated_of_borrow_for outsider ran
  · intro sender user amount after ran
    exact paid_off_of_repay ran
  · intro sender user amount after ran
    simp only [execPool, bind_ok_iff, creditor_ok_iff, Chain.lend_ok_iff] at ran
    obtain ⟨pool, source, lending, repaid, rfl⟩ := ran
    exact paid_off_of_pool_repay source (by rw [accrue_lien_lending source]) repaid rfl

/-- A loan at an index above one, with room between the two thresholds. -/
theorem origination_of_loans :
    ∃ c after, (machine (smallVault (10 ^ 9))).Reachable c ∧
      borrow (smallVault (10 ^ 9)) 2 (10 ^ 8) c = .ok after ∧
      Originated (smallVault (10 ^ 9)) 2 2 (10 ^ 8) c after ∧
      debtUnit after = 2 ∧
      debtUnit after < mulDiv (collateralValue (smallVault (10 ^ 9)) after 2)
        (8 * 10 ^ 17 - 5 * 10 ^ 17) WAD := by
  obtain ⟨c, reached, checked⟩ := reachable_of_replay (10 ^ 9) (fun _ _ => True) borrowingRun
    (fun c => passes (borrow (smallVault (10 ^ 9)) 2 (10 ^ 8) c) fun after =>
      debtUnit after = 2 ∧ debtUnit after < mulDiv (collateralValue (smallVault (10 ^ 9)) after 2)
        (8 * 10 ^ 17 - 5 * 10 ^ 17) WAD)
    (by decide) (by decide +kernel)
  obtain ⟨after, ran, checked⟩ := exists_of_passes _ checked
  obtain ⟨unit, buffered⟩ := of_decide_eq_true checked
  obtain ⟨loans, _⟩ := origination_bounds _ c
  exact ⟨c, after, reached.of_restrict, ran, loans 2 (10 ^ 8) after (by decide) ran, unit,
    buffered⟩

end Vault

end Ghoststake
