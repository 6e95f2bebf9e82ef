import Mathlib

/-!
# Reverts

Every way a modelled call can fail, with the arguments the contracts attach.
One type serves all contracts: on chain an error is its four-byte selector, so
`ZeroAmount()` of the vault and of the pool are the same error.
-/

namespace Ghoststake

set_option autoImplicit false

/-- What a round looks like from outside; two of the phases are functions of
the clock rather than of storage. -/
inductive Phase where
  | none | «open» | cutoff | observation | resolved | void
  deriving DecidableEq, Repr

inductive EventState where
  | «open» | proposed | challenged | final | abandoned
  deriving DecidableEq, Repr

inductive Revert (Address : Type) where
  -- Solidity panics
  | arithmetic
  | divisionByZero
  -- OpenZeppelin
  | erc20InsufficientBalance (sender : Address) (balance needed : Nat)
  | erc20InvalidSender (sender : Address)
  | erc20InvalidReceiver (receiver : Address)
  | erc20InsufficientAllowance (spender : Address) (allowance needed : Nat)
  | erc20InvalidApprover (approver : Address)
  | erc20InvalidSpender (spender : Address)
  | erc4626ExceededMaxWithdraw (owner : Address) (assets max : Nat)
  | erc4626ExceededMaxRedeem (owner : Address) (shares max : Nat)
  | ownableUnauthorizedAccount (account : Address)
  | ownableInvalidOwner (owner : Address)
  -- EntryPausable and Treasured
  | entriesArePaused
  | notPauseGuardian (caller : Address)
  | cannotRenounceWhilePaused
  | zeroTreasury
  -- shared by several contracts
  | zeroAmount
  | zeroAddress
  -- BorrowLiquidityPool
  | notBorrowModule (caller : Address)
  | insufficientLiquidity (requested available : Nat)
  | insufficientSupplyBalance (requested balance : Nat)
  | repayExceedsDebt (requested debt : Nat)
  | invalidCurve
  | borrowModuleAlreadySet (current : Address)
  | reservesSeniorToSuppliers (requested withdrawable : Nat)
  | noDebtToAbsorb (user : Address)
  -- CollateralVault
  | lienOutstanding (user : Address) (lien : Nat)
  | partialExitWithLienOpen (sharesRequested sharesHeld : Nat)
  | collateralBelowLien (user : Address) (collateral lien : Nat)
  | noLienSource
  | exceedsMaxLTV (user : Address) (requestedDebt maxDebt : Nat)
  | insufficientBorrowAllowance (user delegate : Address) (allowed requested : Nat)
  | nothingToRepay (user : Address)
  | positionNotLiquidatable (user : Address) (healthFactor : Nat)
  | positionIsRecoverable (user : Address) (debt collateral : Nat)
  | exceedsCloseFactor (requested maxRepayable : Nat)
  | invalidRiskParameters
  -- ParimutuelRound
  | invalidSchedule
  | invalidParameters
  | unknownRound (roundId : Nat)
  | wrongPhase (roundId : Nat) (actual : Phase)
  | entryClosed (roundId cutoffAt : Nat)
  | invalidStrike
  | tooEarly (roundId notBefore : Nat)
  | oracleUnavailable (roundId : Nat)
  | notRouter (caller : Address)
  | mixedFunding (roundId : Nat) (user : Address)
  | alreadyClaimed (roundId : Nat) (user : Address)
  | nothingToClaim (roundId : Nat) (user : Address)
  | insufficientFees (requested available : Nat)
  -- EventRoundOracle
  | wrongState (state : EventState)
  | tooEarlyUntil (time : Nat)
  | notYet (time : Nat)
  | notArbiter (caller : Address)
  | notAnOutcome
  -- DemoPriceFeed
  | nonPositiveAnswer (answer : Int)
  | timestampNotAdvanced (last pushed : Nat)
  | noData
  -- BorrowToPositionRouter
  | nothingToStake
  | onlyMarket (caller : Address)
  -- StockLoanVault
  | unknownCollateral (token : Address)
  | insufficientCollateral (requested available : Nat)
  | exceedsBorrowLimit (debtAfter limit : Nat)
  | stalePrice (token : Address) (age maxAge : Nat)
  | invalidPrice (token : Address)
  | withdrawWouldExceedLimit (debt limitAfter : Nat)
  | notWritableOff (user : Address)
  | nothingToSeize (user token : Address)
  | unexpectedTransferAmount (expected received : Nat)
  | invalidConfig
  -- a call to an address without code
  | noCode
  -- a call into code outside the repository that reverted
  | external
  deriving DecidableEq, Repr

abbrev Outcome (Address Result : Type) := Except (Revert Address) Result

def uint256Max : Nat := 2 ^ 256 - 1

/-- 1e18: rates and ratios. -/
@[irreducible] def WAD : Nat := 10 ^ 18

/-- 1e27: indices. -/
@[irreducible] def RAY : Nat := 10 ^ 27

theorem wad_pos : 0 < WAD := by
  unfold WAD
  decide

theorem ray_pos : 0 < RAY := by
  unfold RAY
  decide

end Ghoststake
