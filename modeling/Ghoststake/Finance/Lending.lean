import Ghoststake.Vault.Liquidation

/-!
# A lending position, described from one block

What the backend derives from a position's raw state: the collateral, the debt
with the interest still to be accrued, the health of it, and what a liquidation
would pay. Each figure is the contract's, read off at the block's own time.
-/

namespace Ghoststake

set_option autoImplicit false

open Rounding

namespace Finance

/-- The vault's immutables. The last two are nil where nothing is to be quoted. -/
structure VaultParams where
  maxLTV : Nat
  liquidationThreshold : Nat
  liquidationBonus : Option Nat
  closeFactor : Option Nat

structure VaultState where
  principal : Nat
  settledYield : Nat
  ratePerSecond : Nat
  startTime : Nat
  sharesValue : Nat
  scaledDebt : Nat
  borrowIndex : Nat
  borrowRatePerSecond : Nat
  lastAccrualTime : Nat

def accruedYield (s : VaultState) (nowUnix : Nat) : Nat :=
  if nowUnix ≤ s.startTime ∨ s.principal = 0 then 0
  else mulDiv s.principal (s.ratePerSecond * (nowUnix - s.startTime)) WAD

def totalLedgerValue (s : VaultState) (nowUnix : Nat) : Nat :=
  s.principal + s.settledYield + accruedYield s nowUnix

def collateralValue (s : VaultState) (nowUnix : Nat) : Nat :=
  min (totalLedgerValue s nowUnix) s.sharesValue

def storedDebt (s : VaultState) : Nat := mulDiv s.scaledDebt s.borrowIndex RAY

def accruedBorrowIndex (s : VaultState) (nowUnix : Nat) : Nat :=
  if nowUnix ≤ s.lastAccrualTime ∨ s.borrowIndex = 0 then s.borrowIndex
  else if s.borrowRatePerSecond * (nowUnix - s.lastAccrualTime) = 0 then s.borrowIndex
  else s.borrowIndex +
    mulDiv s.borrowIndex (s.borrowRatePerSecond * (nowUnix - s.lastAccrualTime)) WAD

def debt (s : VaultState) (nowUnix : Nat) : Nat :=
  mulDiv s.scaledDebt (accruedBorrowIndex s nowUnix) RAY

/-- Nil, and not ok, without a debt. -/
def healthFactor (collateralValue liquidationThreshold debt : Nat) : Option Nat × Bool :=
  if debt = 0 then (none, false)
  else (some (mulDiv collateralValue liquidationThreshold debt), true)

def liquidatable (healthFactor : Option Nat) (hasDebt : Bool) : Bool :=
  hasDebt && healthFactor.any (· < WAD)

def maxBorrowable (collateralValue maxLTV debt : Nat) : Nat :=
  if mulDiv collateralValue maxLTV WAD ≤ debt then 0
  else mulDiv collateralValue maxLTV WAD - debt

/-- Nil without collateral, which is ok only without a debt. -/
def ltv (debt collateralValue : Nat) : Option Nat × Bool :=
  if collateralValue = 0 then (none, debt = 0)
  else (some (mulDiv debt WAD collateralValue), true)

inductive Band where
  | none | safe | caution | danger
  deriving DecidableEq, Repr

def bandCautionAt : Nat := mulDiv WAD 15 10

def bandDangerAt : Nat := mulDiv WAD 12 10

def bandOf (healthFactor : Option Nat) (hasDebt : Bool) : Band :=
  match hasDebt, healthFactor with
  | false, _ | true, Option.none => .none
  | true, some health =>
      if health < bandDangerAt then .danger
      else if health < bandCautionAt then .caution
      else .safe

structure Health where
  principal : Nat
  settledYield : Nat
  accruedYield : Nat
  ledgerValue : Nat
  sharesValue : Nat
  collateral : Nat
  debt : Nat
  debtAtStoredIndex : Nat
  pendingInterest : Int
  scaledDebt : Nat
  borrowIndex : Nat
  accruedBorrowIndex : Nat
  maxBorrowable : Nat
  healthFactor : Option Nat
  ltv : Option Nat
  hasDebt : Bool
  liquidatable : Bool
  band : Band

def describe (s : VaultState) (p : VaultParams) (nowUnix : Nat) : Health :=
  let collateral := collateralValue s nowUnix
  let owed := debt s nowUnix
  let stored := storedDebt s
  let (health, hasDebt) := healthFactor collateral p.liquidationThreshold owed
  { principal := s.principal
    settledYield := s.settledYield
    accruedYield := accruedYield s nowUnix
    ledgerValue := totalLedgerValue s nowUnix
    sharesValue := s.sharesValue
    collateral := collateral
    debt := owed
    debtAtStoredIndex := stored
    pendingInterest := owed - stored
    scaledDebt := s.scaledDebt
    borrowIndex := s.borrowIndex
    accruedBorrowIndex := accruedBorrowIndex s nowUnix
    maxBorrowable := maxBorrowable collateral p.maxLTV owed
    healthFactor := health
    ltv := (ltv owed collateral).1
    hasDebt := hasDebt
    liquidatable := liquidatable health hasDebt
    band := bandOf health hasDebt }

/-! ## What a liquidation would pay -/

structure Quote where
  maxRepay : Nat
  seized : Nat
  bonus : Nat
  profitable : Bool
  fullLiquidation : Bool
  deriving DecidableEq

def Quote.empty : Quote := ⟨0, 0, 0, false, false⟩

def Quote.repaying (repay liquidationBonus seizable : Nat) (fullLiquidation : Bool) : Quote :=
  let wanted := repay + mulDiv repay liquidationBonus WAD
  let seized := if seizable < wanted then seizable else wanted
  { maxRepay := repay
    seized := seized
    bonus := if repay < seized then seized - repay else 0
    profitable := repay < seized
    fullLiquidation := fullLiquidation }

def liquidationQuote (seizable debt : Nat) (healthFactor : Option Nat) (p : VaultParams) : Quote :=
  match healthFactor, p.closeFactor, p.liquidationBonus with
  | some health, some closeFactor, some bonus =>
      if WAD ≤ health then .empty
      else
        let full := mulDiv p.liquidationThreshold (WAD + bonus) WAD
        let fullLiquidation := decide (health < full)
        let factor := if fullLiquidation then WAD else closeFactor
        .repaying (mulDiv debt factor WAD) bonus seizable fullLiquidation
  | _, _, _ => .empty

def quoteFor (h : Health) (p : VaultParams) : Quote :=
  liquidationQuote h.sharesValue h.debt h.healthFactor p

end Finance

end Ghoststake
