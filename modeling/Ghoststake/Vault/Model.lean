import Ghoststake.Pool.Model

/-!
# CollateralVault

Staked collateral, the shares issued against it, and the ledger of principal
and yield that travels with the shares. The vault is an OpenZeppelin ERC4626
with six decimals of virtual shares; `deposit`, `mint`, `withdraw` and `redeem`
are that contract's, over the hooks this one overrides.
-/

namespace Ghoststake

set_option autoImplicit false

open Checked Rounding

namespace Vault

/-- 100% a year. -/
def maxYieldRatePerSecond : Nat := WAD / 31536000

structure Config (Address : Type) [Zero Address] where
  /-- `address(this)`. -/
  address : Address
  /-- The creditor; `none` is the zero address. -/
  lienSource : Option (Pool.Config Address)
  yieldRatePerSecond : Nat
  maxLTV : Nat
  liquidationThreshold : Nat
  liquidationBonus : Nat
  closeFactor : Nat
  max_ltv_lt_threshold : maxLTV < liquidationThreshold
  threshold_lt_wad : liquidationThreshold < WAD
  close_factor_ne_zero : closeFactor ≠ 0
  close_factor_le_wad : closeFactor ≤ WAD
  bonus_lt_wad : liquidationBonus < WAD
  yield_rate_le : yieldRatePerSecond ≤ maxYieldRatePerSecond
  address_ne_zero : address ≠ 0
  pool_live : ∀ pool ∈ lienSource, pool.address ≠ 0 ∧ pool.address ≠ address

def Config.fullLiquidationThreshold {Address : Type} [Zero Address]
    (cfg : Config Address) : Nat :=
  mulDiv cfg.liquidationThreshold (WAD + cfg.liquidationBonus) WAD

structure Position where
  /-- The deposit basis; never absorbs yield. -/
  principal : Nat
  startTime : Nat
  rate : Nat
  settledYield : Nat

def Position.empty : Position where
  principal := 0
  startTime := 0
  rate := 0
  settledYield := 0

inductive Event (Address : Type) where
  | transfer (source target : Address) (value : Nat)
  | deposit (sender owner : Address) (assets shares : Nat)
  | withdraw (sender receiver owner : Address) (assets shares : Nat)
  | deposited (user : Address) (assets shares : Nat)
  | withdrawn (user : Address) (assets shares : Nat)
  | yieldSettled (user : Address) (yieldAccrued totalSettledYield : Nat)
  | positionTransferred (source target : Address) (principal settledYield : Nat)
  | lienSettledAtExit (user : Address) (lienAmount collateralReturned : Nat)
  | borrowed (user : Address) (amount lienAfter : Nat)
  | borrowDelegationApproved (user delegate : Address) (amount : Nat)
  | repaid (payer user : Address) (amount lienAfter : Nat)
  | badDebtWrittenOff (caller user : Address) (recovered writtenOff : Nat)
  | liquidated (liquidator user : Address)
      (debtRepaid collateralSeized bonusPaid lienAfter healthFactorAfter : Nat)
  | access (event : AccessEvent Address)

structure State (Address : Type) extends EntryPausable Address where
  shares : Erc20 Address
  positions : Address → Position
  borrowAllowance : Address → Address → Nat
  logs : List (Event Address)

end Vault

structure Chain (Address : Type) extends Lending Address where
  vault : Vault.State Address

namespace Chain

variable {Address : Type}

def emit (c : Chain Address) (event : Vault.Event Address) : Chain Address :=
  { c with vault := { c.vault with logs := c.vault.logs ++ [event] } }

def pay (c : Chain Address) (call : Erc20 Address → Outcome Address (Erc20 Address)) :
    Outcome Address (Chain Address) := do
  let token ← call c.token
  .ok { c with token := token }

def lend (c : Chain Address) (call : Lending Address → Outcome Address (Lending Address)) :
    Outcome Address (Chain Address) := do
  let lending ← call c.toLending
  .ok { c with toLending := lending }

def setShares (c : Chain Address) (shares : Erc20 Address) : Chain Address :=
  { c with vault := { c.vault with shares := shares } }

def setPosition [DecidableEq Address] (c : Chain Address) (user : Address)
    (position : Vault.Position) : Chain Address :=
  { c with vault := { c.vault with
      positions := Function.update c.vault.positions user position } }

end Chain

namespace Vault

variable {Address : Type} [DecidableEq Address] [Zero Address]

/-! ## Views -/

/-- `10 ** _decimalsOffset()`. -/
@[irreducible] def virtualShares : Nat := 10 ^ 6

def lienOf (cfg : Config Address) (c : Chain Address) (user : Address) : Nat :=
  match cfg.lienSource with
  | none => 0
  | some _ => Pool.balanceOfDebt c.pool user

def balanceOf (c : Chain Address) (user : Address) : Nat := c.vault.shares.balanceOf user

def totalSupply (c : Chain Address) : Nat := c.vault.shares.totalSupply

def totalAssets (cfg : Config Address) (c : Chain Address) : Nat :=
  c.token.balanceOf cfg.address

def convertToAssets (cfg : Config Address) (c : Chain Address) (shares : Nat) : Nat :=
  mulDiv shares (totalAssets cfg c + 1) (totalSupply c + virtualShares)

def previewDeposit (cfg : Config Address) (c : Chain Address) (assets : Nat) : Nat :=
  mulDiv assets (totalSupply c + virtualShares) (totalAssets cfg c + 1)

def previewMint (cfg : Config Address) (c : Chain Address) (shares : Nat) : Nat :=
  mulDivUp shares (totalAssets cfg c + 1) (totalSupply c + virtualShares)

def previewWithdraw (cfg : Config Address) (c : Chain Address) (assets : Nat) : Nat :=
  mulDivUp assets (totalSupply c + virtualShares) (totalAssets cfg c + 1)

def previewRedeem (cfg : Config Address) (c : Chain Address) (shares : Nat) : Nat :=
  convertToAssets cfg c shares

def maxWithdraw (cfg : Config Address) (c : Chain Address) (owner : Address) : Nat :=
  convertToAssets cfg c (balanceOf c owner)

def maxRedeem (c : Chain Address) (owner : Address) : Nat := balanceOf c owner

/-- Yield earned since the checkpoint; the division stays last. -/
def Position.accruedYield (position : Position) (timestamp : Nat) : Nat :=
  if timestamp - position.startTime = 0 ∨ position.principal = 0 then 0
  else mulDiv position.principal (position.rate * (timestamp - position.startTime)) WAD

def accruedYield (c : Chain Address) (user : Address) : Nat :=
  (c.vault.positions user).accruedYield c.timestamp

def totalLedgerValue (c : Chain Address) (user : Address) : Nat :=
  (c.vault.positions user).principal + (c.vault.positions user).settledYield +
    accruedYield c user

def collateralValue (cfg : Config Address) (c : Chain Address) (user : Address) : Nat :=
  min (totalLedgerValue c user) (convertToAssets cfg c (balanceOf c user))

def healthFactor (cfg : Config Address) (c : Chain Address) (user : Address) : Nat :=
  if lienOf cfg c user = 0 then uint256Max
  else mulDiv (collateralValue cfg c user) cfg.liquidationThreshold (lienOf cfg c user)

def maxBorrowable (cfg : Config Address) (c : Chain Address) (user : Address) : Nat :=
  let ceiling := mulDiv (collateralValue cfg c user) cfg.maxLTV WAD
  if lienOf cfg c user < ceiling then ceiling - lienOf cfg c user else 0

/-- `_effectiveCloseFactor`: lifted to the whole lien once a position is deep underwater. -/
def effectiveCloseFactor (cfg : Config Address) (healthFactor : Nat) : Nat :=
  if healthFactor < cfg.fullLiquidationThreshold then WAD else cfg.closeFactor

def isLiquidatable (cfg : Config Address) (c : Chain Address) (user : Address) : Bool :=
  healthFactor cfg c user < WAD

def maxLiquidatableDebt (cfg : Config Address) (c : Chain Address) (user : Address) : Nat :=
  if WAD ≤ healthFactor cfg c user then 0
  else mulDiv (lienOf cfg c user) (effectiveCloseFactor cfg (healthFactor cfg c user)) WAD

/-! ## The ledger -/

def Position.settled (cfg : Config Address) (position : Position) (timestamp : Nat) :
    Position where
  principal := position.principal
  startTime := timestamp
  rate := cfg.yieldRatePerSecond
  settledYield := position.settledYield + position.accruedYield timestamp

def settleInternal (cfg : Config Address) (user : Address) (c : Chain Address) :
    Chain Address :=
  let position := (c.vault.positions user).settled cfg c.timestamp
  if accruedYield c user ≠ 0 then
    (c.setPosition user position).emit
      (.yieldSettled user (accruedYield c user) position.settledYield)
  else c.setPosition user position

/-- `_reducePositionProRata` on one position: a full exit leaves nothing. -/
def Position.reduced (position : Position) (shares totalShares : Nat) : Position :=
  if totalShares ≤ shares then Position.empty
  else
    { position with
      principal := position.principal - mulDiv position.principal shares totalShares
      settledYield := position.settledYield - mulDiv position.settledYield shares totalShares }

def reducePositionProRata (user : Address) (shares totalShares : Nat) (c : Chain Address) :
    Chain Address :=
  c.setPosition user ((c.vault.positions user).reduced shares totalShares)

/-- What a transfer of `value` of `fromShares` adds to the receiving position. -/
def Position.joined (destination source : Position) (value fromShares : Nat) : Position :=
  { destination with
    principal := destination.principal + mulDiv source.principal value fromShares
    settledYield := destination.settledYield + mulDiv source.settledYield value fromShares }

/-- The guarded half of `_update`: the position moves in proportion to the shares. -/
def moveLedger (cfg : Config Address) (source target : Address) (value : Nat)
    (c : Chain Address) : Outcome Address (Chain Address) := do
  require (lienOf cfg c source = 0) (.lienOutstanding source (lienOf cfg c source))
  let c := settleInternal cfg target (settleInternal cfg source c)
  let fromShares := balanceOf c source
  -- the share move itself raises the error when there is nothing to send
  if fromShares = 0 then .ok c
  else
    let leaving := c.vault.positions source
    let arriving := c.vault.positions target
    .ok (((c.setPosition source (leaving.reduced value fromShares)).setPosition target
      (arriving.joined leaving value fromShares)).emit
        (.positionTransferred source target (mulDiv leaving.principal value fromShares)
          (mulDiv leaving.settledYield value fromShares)))

/-- Mint and burn legs leave the ledger to the hooks around them, and a
transfer to oneself or of nothing leaves it alone. -/
def carryLedger (cfg : Config Address) (source target : Address) (value : Nat)
    (c : Chain Address) : Outcome Address (Chain Address) :=
  if source ≠ 0 ∧ target ≠ 0 ∧ source ≠ target ∧ value ≠ 0 then
    moveLedger cfg source target value c
  else .ok c

/-- `_update`: a transfer between two accounts carries the ledger along. -/
def updateInternal (cfg : Config Address) (source target : Address) (value : Nat)
    (c : Chain Address) : Outcome Address (Chain Address) := do
  let c ← carryLedger cfg source target value c
  let shares ← c.vault.shares.update source target value
  .ok ((c.setShares shares).emit (.transfer source target value))

/-- OpenZeppelin's `_mint`. -/
def mintShares (cfg : Config Address) (target : Address) (value : Nat) (c : Chain Address) :
    Outcome Address (Chain Address) := do
  require (target ≠ 0) (.erc20InvalidReceiver target)
  updateInternal cfg 0 target value c

/-- OpenZeppelin's `_burn`. -/
def burnShares (cfg : Config Address) (source : Address) (value : Nat) (c : Chain Address) :
    Outcome Address (Chain Address) := do
  require (source ≠ 0) (.erc20InvalidSender source)
  updateInternal cfg source 0 value c

def transferInternal (cfg : Config Address) (source target : Address) (value : Nat)
    (c : Chain Address) : Outcome Address (Chain Address) := do
  require (source ≠ 0) (.erc20InvalidSender source)
  require (target ≠ 0) (.erc20InvalidReceiver target)
  updateInternal cfg source target value c

def spendShareAllowance (owner spender : Address) (value : Nat) (c : Chain Address) :
    Outcome Address (Chain Address) := do
  let shares ← c.vault.shares.spendAllowance owner spender value
  .ok (c.setShares shares)

/-! ## Deposits -/

/-- `_deposit`, over OpenZeppelin's. -/
def depositInternal (cfg : Config Address) (caller receiver : Address) (assets shares : Nat)
    (c : Chain Address) : Outcome Address (Chain Address) := do
  c.vault.whenEntriesOpen
  let c := settleInternal cfg receiver c
  let c ← c.pay fun token => token.transferFrom cfg.address caller cfg.address assets
  let c ← mintShares cfg receiver shares c
  let c := c.emit (.deposit caller receiver assets shares)
  let position := c.vault.positions receiver
  let c := c.setPosition receiver { position with principal := position.principal + assets }
  .ok (c.emit (.deposited receiver assets shares))

def deposit (cfg : Config Address) (sender : Address) (assets : Nat) (receiver : Address)
    (c : Chain Address) : Outcome Address (Chain Address) :=
  depositInternal cfg sender receiver assets (previewDeposit cfg c assets) c

def mint (cfg : Config Address) (sender : Address) (shares : Nat) (receiver : Address)
    (c : Chain Address) : Outcome Address (Chain Address) :=
  depositInternal cfg sender receiver (previewMint cfg c shares) shares c

/-! ## Exits -/

def accrueLien (cfg : Config Address) (c : Chain Address) : Chain Address :=
  match cfg.lienSource with
  | none => c
  | some pool => { c with toLending := Pool.accrue pool c.toLending }

/-- `if (caller != owner) _spendAllowance(owner, caller, shares)`. -/
def authorize (caller owner : Address) (shares : Nat) (c : Chain Address) :
    Outcome Address (Chain Address) :=
  if caller ≠ owner then spendShareAllowance owner caller shares c else .ok c

/-- The branch of `_withdraw` with no lien, over OpenZeppelin's. -/
def withdrawFree (cfg : Config Address) (caller receiver owner : Address)
    (assets shares sharesBefore : Nat) (c : Chain Address) :
    Outcome Address (Chain Address) := do
  let c ← authorize caller owner shares c
  let c ← burnShares cfg owner shares c
  let c ← c.pay fun token => token.move cfg.address receiver assets
  let c := c.emit (.withdraw caller receiver owner assets shares)
  let c := reducePositionProRata owner shares sharesBefore c
  .ok (c.emit (.withdrawn owner assets shares))

/-- `forceApprove` and `lienSource.repay`. -/
def repayLien (cfg : Config Address) (pool : Pool.Config Address) (amount : Nat)
    (user : Address) (c : Chain Address) : Outcome Address (Chain Address) := do
  let c ← c.pay fun token => token.approve cfg.address pool.address amount
  c.lend (Pool.repay pool cfg.address amount user)

/-- `if (returned != 0) SafeERC20.safeTransfer(collateral, receiver, returned)`. -/
def payReturned (cfg : Config Address) (receiver : Address) (returned : Nat)
    (c : Chain Address) : Outcome Address (Chain Address) :=
  if returned ≠ 0 then c.pay fun token => token.move cfg.address receiver returned else .ok c

/-- The branch of `_withdraw` that settles a lien: the creditor is paid out of
the collateral and the owner keeps the rest. -/
def exitWithLien (cfg : Config Address) (pool : Pool.Config Address)
    (caller receiver owner : Address) (assets shares sharesBefore lien : Nat)
    (c : Chain Address) : Outcome Address (Chain Address) := do
  require (shares = sharesBefore) (.partialExitWithLienOpen shares sharesBefore)
  require (lien ≤ assets) (.collateralBelowLien owner assets lien)
  let c ← authorize caller owner shares c
  let c ← burnShares cfg owner shares c
  let c := reducePositionProRata owner shares sharesBefore c
  let c ← repayLien cfg pool lien owner c
  let c ← payReturned cfg receiver (assets - lien) c
  let c := c.emit (.withdraw caller receiver owner assets shares)
  let c := c.emit (.lienSettledAtExit owner lien (assets - lien))
  .ok (c.emit (.withdrawn owner assets shares))

/-- `_withdraw`. The creditor is brought up to date before the lien is fixed. -/
def withdrawInternal (cfg : Config Address) (caller receiver owner : Address)
    (assets shares : Nat) (c : Chain Address) : Outcome Address (Chain Address) :=
  let c := settleInternal cfg owner c
  let sharesBefore := balanceOf c owner
  let c := if lienOf cfg c owner ≠ 0 then accrueLien cfg c else c
  match cfg.lienSource with
  | none => withdrawFree cfg caller receiver owner assets shares sharesBefore c
  | some pool =>
      if lienOf cfg c owner = 0 then
        withdrawFree cfg caller receiver owner assets shares sharesBefore c
      else
        exitWithLien cfg pool caller receiver owner assets shares sharesBefore
          (lienOf cfg c owner) c

def withdraw (cfg : Config Address) (sender : Address) (assets : Nat)
    (receiver owner : Address) (c : Chain Address) : Outcome Address (Chain Address) := do
  require (assets ≤ maxWithdraw cfg c owner)
    (.erc4626ExceededMaxWithdraw owner assets (maxWithdraw cfg c owner))
  withdrawInternal cfg sender receiver owner assets (previewWithdraw cfg c assets) c

def redeem (cfg : Config Address) (sender : Address) (shares : Nat)
    (receiver owner : Address) (c : Chain Address) : Outcome Address (Chain Address) := do
  require (shares ≤ maxRedeem c owner)
    (.erc4626ExceededMaxRedeem owner shares (maxRedeem c owner))
  withdrawInternal cfg sender receiver owner (previewRedeem cfg c shares) shares c

/-! ## Borrowing -/

/-- `if (address(lienSource) == address(0)) revert NoLienSource()`. -/
def creditor (cfg : Config Address) : Outcome Address (Pool.Config Address) :=
  match cfg.lienSource with
  | none => .error .noLienSource
  | some pool => .ok pool

/-- `_borrow`: the pool pays this contract, which forwards it. -/
def borrowInternal (cfg : Config Address) (user : Address) (amount : Nat)
    (recipient : Address) (c : Chain Address) : Outcome Address (Chain Address) := do
  let pool ← creditor cfg
  require (amount ≠ 0) .zeroAmount
  let c := accrueLien cfg (settleInternal cfg user c)
  let newDebt := lienOf cfg c user + amount
  let maxDebt := mulDiv (collateralValue cfg c user) cfg.maxLTV WAD
  require (newDebt ≤ maxDebt) (.exceedsMaxLTV user newDebt maxDebt)
  let c ← c.lend (Pool.borrow pool cfg.address amount user)
  let c ← c.pay fun token => token.move cfg.address recipient amount
  .ok (c.emit (.borrowed user amount newDebt))

def borrow (cfg : Config Address) (sender : Address) (amount : Nat) (c : Chain Address) :
    Outcome Address (Chain Address) := do
  c.vault.whenEntriesOpen
  borrowInternal cfg sender amount sender c

/-- The largest allowance is standing and never decremented. -/
def spendBorrowAllowance (user delegate : Address) (amount : Nat) (c : Chain Address) :
    Chain Address :=
  let allowed := c.vault.borrowAllowance user delegate
  if allowed ≠ uint256Max then
    { c with vault := { c.vault with
        borrowAllowance := Function.update c.vault.borrowAllowance user
          (Function.update (c.vault.borrowAllowance user) delegate (allowed - amount)) } }
  else c

def borrowFor (cfg : Config Address) (sender onBehalfOf : Address) (amount : Nat)
    (c : Chain Address) : Outcome Address (Chain Address) := do
  c.vault.whenEntriesOpen
  let allowed := c.vault.borrowAllowance onBehalfOf sender
  require (amount ≤ allowed) (.insufficientBorrowAllowance onBehalfOf sender allowed amount)
  borrowInternal cfg onBehalfOf amount sender (spendBorrowAllowance onBehalfOf sender amount c)

def approveBorrowDelegate (sender delegate : Address) (amount : Nat) (c : Chain Address) :
    Outcome Address (Chain Address) := do
  require (delegate ≠ 0) .zeroAddress
  let c := { c with vault := { c.vault with
    borrowAllowance := Function.update c.vault.borrowAllowance sender
      (Function.update (c.vault.borrowAllowance sender) delegate amount) } }
  .ok (c.emit (.borrowDelegationApproved sender delegate amount))

def pullAndRepay (cfg : Config Address) (pool : Pool.Config Address) (payer user : Address)
    (amount : Nat) (c : Chain Address) : Outcome Address (Chain Address) := do
  let c ← c.pay fun token => token.transferFrom cfg.address payer cfg.address amount
  repayLien cfg pool amount user c

/-- Overpaying is capped at what is owed. -/
def repay (cfg : Config Address) (sender : Address) (amount : Nat) (onBehalfOf : Address)
    (c : Chain Address) : Outcome Address (Chain Address) := do
  let pool ← creditor cfg
  require (amount ≠ 0) .zeroAmount
  let c := accrueLien cfg c
  let lien := lienOf cfg c onBehalfOf
  require (lien ≠ 0) (.nothingToRepay onBehalfOf)
  let amount := min amount lien
  let c ← pullAndRepay cfg pool sender onBehalfOf amount c
  .ok (c.emit (.repaid sender onBehalfOf amount (lien - amount)))

/-! ## Liquidation -/

/-- `_burnCollateral`: the shares behind `amount`, capped at what is held. -/
def burnCollateral (cfg : Config Address) (user : Address) (amount : Nat)
    (c : Chain Address) : Outcome Address (Chain Address) := do
  let sharesBefore := balanceOf c user
  let sharesToBurn := min (previewWithdraw cfg c amount) sharesBefore
  let c ← burnShares cfg user sharesToBurn c
  .ok (reducePositionProRata user sharesToBurn sharesBefore c)

def seizeCollateral (cfg : Config Address) (user recipient : Address) (amount : Nat)
    (c : Chain Address) : Outcome Address (Chain Address) := do
  let c ← burnCollateral cfg user amount c
  c.pay fun token => token.move cfg.address recipient amount

/-- What a liquidation that repays `repayAmount` takes: the bonus on top, or
whatever is left. -/
def seizure (cfg : Config Address) (c : Chain Address) (user : Address)
    (repayAmount : Nat) : Nat :=
  min (repayAmount + mulDiv repayAmount cfg.liquidationBonus WAD)
    (convertToAssets cfg c (balanceOf c user))

def liquidate (cfg : Config Address) (sender user : Address) (repayAmount : Nat)
    (c : Chain Address) : Outcome Address (Chain Address) := do
  let pool ← creditor cfg
  let c := accrueLien cfg (settleInternal cfg user c)
  let hf := healthFactor cfg c user
  require (hf < WAD) (.positionNotLiquidatable user hf)
  let maxRepay := mulDiv (lienOf cfg c user) (effectiveCloseFactor cfg hf) WAD
  let repayAmount := if repayAmount = uint256Max then maxRepay else repayAmount
  require (repayAmount ≠ 0) .zeroAmount
  require (repayAmount ≤ maxRepay) (.exceedsCloseFactor repayAmount maxRepay)
  let seized := seizure cfg c user repayAmount
  let c ← pullAndRepay cfg pool sender user repayAmount c
  let c ← seizeCollateral cfg user sender seized c
  .ok (c.emit (.liquidated sender user repayAmount seized (seized - repayAmount)
    (lienOf cfg c user) (healthFactor cfg c user)))

/-- The seizure of a write-off: everything, at no bonus, straight to the pool. -/
def recover (cfg : Config Address) (pool : Pool.Config Address) (user : Address)
    (collateral : Nat) (c : Chain Address) : Outcome Address (Chain Address) :=
  if collateral ≠ 0 then do
    let c ← burnCollateral cfg user collateral c
    repayLien cfg pool collateral user c
  else .ok c

def writeOffBadDebt (cfg : Config Address) (sender user : Address) (c : Chain Address) :
    Outcome Address (Chain Address) := do
  let pool ← creditor cfg
  let c := accrueLien cfg (settleInternal cfg user c)
  let debt := lienOf cfg c user
  let collateral := convertToAssets cfg c (balanceOf c user)
  require (collateral < debt) (.positionIsRecoverable user debt collateral)
  let c ← recover cfg pool user collateral c
  let (writtenOff, lending) ← Pool.absorbBadDebt pool cfg.address user c.toLending
  .ok ({ c with toLending := lending }.emit
    (.badDebtWrittenOff sender user collateral writtenOff))

/-! ## The remaining entry points, and dispatch -/

def settle (cfg : Config Address) (user : Address) (c : Chain Address) :
    Outcome Address (Chain Address) :=
  .ok (settleInternal cfg user c)

def transferFrom (cfg : Config Address) (sender source target : Address) (value : Nat)
    (c : Chain Address) : Outcome Address (Chain Address) := do
  let c ← spendShareAllowance source sender value c
  transferInternal cfg source target value c

def approve (sender spender : Address) (value : Nat) (c : Chain Address) :
    Outcome Address (Chain Address) := do
  let shares ← c.vault.shares.approve sender spender value
  .ok (c.setShares shares)

def guard (sender : Address) (call : EntryPausable.Call Address) (c : Chain Address) :
    Outcome Address (Chain Address) := do
  let (access, event) ← c.vault.toEntryPausable.exec sender call
  .ok ({ c with vault := { c.vault with toEntryPausable := access } }.emit (.access event))

inductive Call (Address : Type) where
  | deposit (assets : Nat) (receiver : Address)
  | mint (shares : Nat) (receiver : Address)
  | withdraw (assets : Nat) (receiver owner : Address)
  | redeem (shares : Nat) (receiver owner : Address)
  | borrow (amount : Nat)
  | borrowFor (onBehalfOf : Address) (amount : Nat)
  | approveBorrowDelegate (delegate : Address) (amount : Nat)
  | repay (amount : Nat) (onBehalfOf : Address)
  | liquidate (user : Address) (repayAmount : Nat)
  | writeOffBadDebt (user : Address)
  | settle (user : Address)
  | transfer (target : Address) (value : Nat)
  | transferFrom (source target : Address) (value : Nat)
  | approve (spender : Address) (value : Nat)
  | guard (call : EntryPausable.Call Address)

def exec (cfg : Config Address) (sender : Address) (c : Chain Address) :
    Call Address → Outcome Address (Chain Address)
  | .deposit assets receiver => deposit cfg sender assets receiver c
  | .mint shares receiver => mint cfg sender shares receiver c
  | .withdraw assets receiver owner => withdraw cfg sender assets receiver owner c
  | .redeem shares receiver owner => redeem cfg sender shares receiver owner c
  | .borrow amount => borrow cfg sender amount c
  | .borrowFor onBehalfOf amount => borrowFor cfg sender onBehalfOf amount c
  | .approveBorrowDelegate delegate amount => approveBorrowDelegate sender delegate amount c
  | .repay amount onBehalfOf => repay cfg sender amount onBehalfOf c
  | .liquidate user repayAmount => liquidate cfg sender user repayAmount c
  | .writeOffBadDebt user => writeOffBadDebt cfg sender user c
  | .settle user => settle cfg user c
  | .transfer target value => transferInternal cfg sender target value c
  | .transferFrom source target value => transferFrom cfg sender source target value c
  | .approve spender value => approve sender spender value c
  | .guard call => guard sender call c

def deployed (pauseGuardian : Address) : State Address where
  entriesPaused := false
  pauseGuardian := pauseGuardian
  shares := Erc20.empty
  positions _ := Position.empty
  borrowAllowance _ _ := 0
  logs := []

end Vault

end Ghoststake
