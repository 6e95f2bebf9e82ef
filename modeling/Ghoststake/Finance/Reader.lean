import Ghoststake.Finance.Lending

/-!
# Reading positions off a block

The calls behind a description, all of one block, and that what they describe
is what the contract would find in a transaction of that block.
-/

namespace Ghoststake

set_option autoImplicit false

open Rounding

namespace Finance

variable {Address : Type} [Zero Address]

def vaultParams (cfg : Vault.Config Address) : VaultParams where
  maxLTV := cfg.maxLTV
  liquidationThreshold := cfg.liquidationThreshold
  liquidationBonus := some cfg.liquidationBonus
  closeFactor := some cfg.closeFactor

/-- The reads of one account, `convertToAssets(balanceOf(account))` among them. -/
def readState (cfg : Vault.Config Address) (pool : Pool.Config Address) (c : Chain Address)
    (account : Address) : VaultState where
  principal := (c.vault.positions account).principal
  settledYield := (c.vault.positions account).settledYield
  ratePerSecond := (c.vault.positions account).rate
  startTime := (c.vault.positions account).startTime
  sharesValue := Vault.convertToAssets cfg c (Vault.balanceOf c account)
  scaledDebt := c.pool.scaledDebt account
  borrowIndex := c.pool.borrowIndex
  borrowRatePerSecond := Pool.borrowRateAt pool (Pool.utilization pool c.toLending)
  lastAccrualTime := c.pool.lastAccrualTime

/-- One entry of `Reader.HealthBatch`. -/
def health (cfg : Vault.Config Address) (pool : Pool.Config Address) (c : Chain Address)
    (account : Address) : Health :=
  describe (readState cfg pool c account) (vaultParams cfg) c.timestamp

def healthBatch (cfg : Vault.Config Address) (pool : Pool.Config Address) (c : Chain Address)
    (accounts : List Address) : List Health :=
  accounts.map (health cfg pool c)

section Mirror

variable [DecidableEq Address] {cfg : Vault.Config Address} {pool : Pool.Config Address}
  {c : Chain Address} {account : Address}

omit [DecidableEq Address] in
theorem accrued_borrow_index_read (cfg : Vault.Config Address) (pool : Pool.Config Address)
    (c : Chain Address) (account : Address) :
    accruedBorrowIndex (readState cfg pool c account) c.timestamp =
      (Pool.accrue pool c.toLending).pool.borrowIndex := by
  rw [Pool.accrue_borrow_index]
  have growth : Pool.borrowGrowth pool c.toLending =
      Pool.borrowRateAt pool (Pool.utilization pool c.toLending) *
        (c.timestamp - c.pool.lastAccrualTime) := rfl
  unfold accruedBorrowIndex readState
  dsimp only
  rw [growth]
  split_ifs with still none
  · rcases still with early | empty
    · rw [Nat.sub_eq_zero_of_le early, Nat.mul_zero, mul_div_zero_right, Nat.add_zero]
    · rw [empty, mul_div_zero_left]
  · rw [none, mul_div_zero_right, Nat.add_zero]
  · rfl

/-- The debt is the lien a transaction would find, since it accrues first. -/
theorem debt_read (source : cfg.lienSource = some pool) :
    debt (readState cfg pool c account) c.timestamp =
      Vault.lienOf cfg (Vault.upToDate cfg account c) account := by
  rw [debt, accrued_borrow_index_read, Vault.upToDate, Vault.lien_of_accrue_settle,
    Vault.lien_of_eq source, Vault.accrue_lien_lending source, Pool.balanceOfDebt,
    Pool.accrue_scaled_debt]
  rfl

omit [DecidableEq Address] in
theorem accrued_yield_read (cfg : Vault.Config Address) (pool : Pool.Config Address)
    (c : Chain Address) (account : Address) :
    accruedYield (readState cfg pool c account) c.timestamp = Vault.accruedYield c account := by
  have started : c.timestamp ≤ (c.vault.positions account).startTime ↔
      c.timestamp - (c.vault.positions account).startTime = 0 := Nat.sub_eq_zero_iff_le.symm
  unfold accruedYield Vault.accruedYield Vault.Position.accruedYield readState
  simp only [started]

/-- So is the collateral, which settling does not change. -/
theorem collateral_value_read (cfg : Vault.Config Address) (pool : Pool.Config Address)
    (c : Chain Address) (account : Address) :
    collateralValue (readState cfg pool c account) c.timestamp =
      Vault.collateralValue cfg (Vault.upToDate cfg account c) account := by
  have worth := Vault.convert_up_to_date cfg account c
  have ledger := Vault.ledger_up_to_date cfg account c
  rw [collateralValue, Vault.collateralValue, ledger, worth, totalLedgerValue, accrued_yield_read,
    Nat.add_assoc]
  rfl

/-- What the vault makes of the account in a transaction of the block. -/
structure Reads (cfg : Vault.Config Address) (c : Chain Address) (account : Address)
    (h : Health) : Prop where
  debt : h.debt = Vault.lienOf cfg (Vault.upToDate cfg account c) account
  collateral : h.collateral = Vault.collateralValue cfg (Vault.upToDate cfg account c) account
  shares : h.sharesValue = Vault.convertToAssets cfg (Vault.upToDate cfg account c)
    (Vault.balanceOf (Vault.upToDate cfg account c) account)
  has_debt : h.hasDebt = true ↔ h.debt ≠ 0
  health_factor : h.debt ≠ 0 →
    h.healthFactor = some (Vault.healthFactor cfg (Vault.upToDate cfg account c) account)
  ltv : h.ltv = none ↔ h.collateral = 0
  liquidatable : h.liquidatable = true ↔ h.debt ≠ 0 ∧
    Vault.healthFactor cfg (Vault.upToDate cfg account c) account < WAD

theorem reads_health (source : cfg.lienSource = some pool) (account : Address) :
    Reads cfg c account (health cfg pool c account) := by
  have owed : (health cfg pool c account).debt =
      Vault.lienOf cfg (Vault.upToDate cfg account c) account := debt_read source
  have collateral : (health cfg pool c account).collateral =
      Vault.collateralValue cfg (Vault.upToDate cfg account c) account :=
    collateral_value_read cfg pool c account
  have ratio : ((health cfg pool c account).healthFactor, (health cfg pool c account).hasDebt) =
      healthFactor (health cfg pool c account).collateral cfg.liquidationThreshold
        (health cfg pool c account).debt := rfl
  have has_debt : (health cfg pool c account).hasDebt = true ↔
      (health cfg pool c account).debt ≠ 0 := by
    unfold healthFactor at ratio
    split_ifs at ratio with none
    · rw [(Prod.mk.inj ratio).2]
      simp [none]
    · rw [(Prod.mk.inj ratio).2]
      simp [none]
  have health_factor : (health cfg pool c account).debt ≠ 0 →
      (health cfg pool c account).healthFactor =
        some (Vault.healthFactor cfg (Vault.upToDate cfg account c) account) := by
    intro some
    rw [healthFactor, if_neg some] at ratio
    rw [(Prod.mk.inj ratio).1, Vault.healthFactor, ← owed, if_neg some, collateral]
  constructor
  · exact owed
  · exact collateral
  · exact (Vault.convert_up_to_date cfg account c).symm
  · exact has_debt
  · exact health_factor
  · have quotient : (health cfg pool c account).ltv =
        (ltv (health cfg pool c account).debt (health cfg pool c account).collateral).1 := rfl
    rw [quotient, ltv]
    split_ifs with none
    · simp [none]
    · simp [none]
  · have line : (health cfg pool c account).liquidatable =
        ((health cfg pool c account).hasDebt &&
          (health cfg pool c account).healthFactor.any (· < WAD)) := rfl
    rw [line, Bool.and_eq_true, has_debt]
    apply and_congr_right
    intro some
    rw [health_factor some, Option.any_some, decide_eq_true_iff]

/-- The quote of a position that can be liquidated is of the most a call may repay. -/
theorem quote_read {h : Health} (reads : Reads cfg c account h) (line : h.liquidatable = true) :
    ∃ full, quoteFor h (vaultParams cfg) =
      .repaying (Vault.maxLiquidatableDebt cfg (Vault.upToDate cfg account c) account)
        cfg.liquidationBonus
        (Vault.convertToAssets cfg (Vault.upToDate cfg account c)
          (Vault.balanceOf (Vault.upToDate cfg account c) account)) full := by
  obtain ⟨some, underwater⟩ := reads.liquidatable.1 line
  refine ⟨decide (Vault.healthFactor cfg (Vault.upToDate cfg account c) account <
    cfg.fullLiquidationThreshold), ?_⟩
  unfold quoteFor liquidationQuote vaultParams
  rw [reads.health_factor some, ← reads.shares]
  dsimp only
  rw [if_neg (not_le.2 underwater), Vault.maxLiquidatableDebt, if_neg (not_le.2 underwater),
    Vault.effectiveCloseFactor, ← reads.debt]
  by_cases deep : Vault.healthFactor cfg (Vault.upToDate cfg account c) account <
    cfg.fullLiquidationThreshold
  · have same : Vault.healthFactor cfg (Vault.upToDate cfg account c) account <
        mulDiv cfg.liquidationThreshold (WAD + cfg.liquidationBonus) WAD := deep
    simp only [deep, same, decide_true, if_true]
  · have same : ¬Vault.healthFactor cfg (Vault.upToDate cfg account c) account <
        mulDiv cfg.liquidationThreshold (WAD + cfg.liquidationBonus) WAD := deep
    simp only [deep, same, decide_false, if_false, Bool.false_eq_true]

end Mirror

end Finance

end Ghoststake
