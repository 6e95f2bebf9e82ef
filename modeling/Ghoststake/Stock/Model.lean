import Ghoststake.Pool.Steps

/-!
# StockLoanVault

Loans of a stablecoin against listed tokens, each priced by a feed of its own
and drawn from a pool of their own. A feed and a token's multiplier answer
whatever they answer, or revert; a listed token may be the stablecoin itself.
-/

namespace Ghoststake

set_option autoImplicit false

open Checked Rounding

namespace Stock

def maxCollaterals : Nat := 8

/-- Ceilings, so a fat-fingered deploy cannot make the fee a confiscation. -/
def maxOriginationFee : Nat := 2 * 10 ^ 16

/-- A listing, with the checks the constructor makes on it. -/
structure Collateral (Address : Type) [Zero Address] where
  token : Address
  feed : Address
  maxLTV : Nat
  liquidationThreshold : Nat
  liquidationBonus : Nat
  /-- Oldest price that may back new risk, in seconds. -/
  maxAge : Nat
  /-- Oldest price that may back a liquidation, in seconds. -/
  liquidationMaxAge : Nat
  scaledUI : Bool
  tokenDecimals : Nat
  feedDecimals : Nat
  token_ne_zero : token ≠ 0
  feed_ne_zero : feed ≠ 0
  max_ltv_ne_zero : maxLTV ≠ 0
  max_ltv_lt_threshold : maxLTV < liquidationThreshold
  bonus_lt_wad : liquidationBonus < WAD
  threshold_leaves_room : liquidationThreshold * (WAD + liquidationBonus) < WAD * WAD
  max_age_ne_zero : maxAge ≠ 0
  max_age_le : maxAge ≤ liquidationMaxAge

/-- `threshold x (1 + bonus)`: below it one liquidation may clear the whole loan. -/
def Collateral.fullLiquidationThreshold {Address : Type} [Zero Address]
    (c : Collateral Address) : Nat :=
  mulDiv c.liquidationThreshold (WAD + c.liquidationBonus) WAD

structure Config (Address : Type) [Zero Address] where
  /-- `address(this)`. -/
  address : Address
  pool : Pool.Config Address
  stable : Address
  stableDecimals : Nat
  originationFee : Nat
  liquidationProtocolShare : Nat
  closeFactor : Nat
  collaterals : List (Collateral Address)
  collaterals_ne_nil : collaterals ≠ []
  collaterals_few : collaterals.length ≤ maxCollaterals
  origination_fee_le : originationFee ≤ maxOriginationFee
  protocol_share_le_wad : liquidationProtocolShare ≤ WAD
  close_factor_ne_zero : closeFactor ≠ 0
  close_factor_le_wad : closeFactor ≤ WAD
  listed_once : (collaterals.map (·.token)).Nodup
  address_ne_zero : address ≠ 0
  pool_live : pool.address ≠ 0 ∧ pool.address ≠ address

inductive Event (Address : Type) where
  | collateralDeposited (user token : Address) (amount : Nat)
  | collateralWithdrawn (user token : Address) (amount : Nat)
  | borrowed (user : Address) (received fee debtAfter : Nat)
  | repaid (payer user : Address) (amount debtAfter : Nat)
  | liquidated (liquidator user token : Address) (repaid seized protocolFee debtAfter : Nat)
  | badDebtWrittenOff (user buyer : Address) (paid loss collateralsSold : Nat)
  | access (event : AccessEvent Address)

structure State (Address : Type) extends EntryPausable Address where
  collateralOf : Address → Address → Nat
  logs : List (Event Address)

end Stock

/-- The tokens, the feeds, the pool and the vault at one block. -/
structure Brokerage (Address : Type) where
  /-- `block.timestamp`. -/
  timestamp : Nat
  tokens : Address → Erc20 Address
  /-- `answer` and `updatedAt` of each feed, unless the call reverts. -/
  latestRoundData : Address → Option (Int × Nat)
  uiMultiplier : Address → Option Nat
  pool : Pool.State Address
  stock : Stock.State Address

namespace Brokerage

variable {Address : Type}

/-- The pool's part of the block, the stablecoin being its asset. -/
def lending (b : Brokerage Address) (stable : Address) : Lending Address where
  timestamp := b.timestamp
  token := b.tokens stable
  pool := b.pool

def emit (b : Brokerage Address) (event : Stock.Event Address) : Brokerage Address :=
  { b with stock := { b.stock with logs := b.stock.logs ++ [event] } }

variable [DecidableEq Address]

def setToken (b : Brokerage Address) (token : Address) (state : Erc20 Address) :
    Brokerage Address :=
  { b with tokens := Function.update b.tokens token state }

def setLending (b : Brokerage Address) (stable : Address) (l : Lending Address) :
    Brokerage Address :=
  { b.setToken stable l.token with timestamp := l.timestamp, pool := l.pool }

def pay (b : Brokerage Address) (token : Address)
    (call : Erc20 Address → Outcome Address (Erc20 Address)) :
    Outcome Address (Brokerage Address) := do
  let state ← call (b.tokens token)
  .ok (b.setToken token state)

def lend (b : Brokerage Address) (stable : Address)
    (call : Lending Address → Outcome Address (Lending Address)) :
    Outcome Address (Brokerage Address) := do
  let l ← call (b.lending stable)
  .ok (b.setLending stable l)

def setCollateral (b : Brokerage Address) (user token : Address) (amount : Nat) :
    Brokerage Address :=
  { b with stock := { b.stock with
      collateralOf := Function.update b.stock.collateralOf user
        (Function.update (b.stock.collateralOf user) token amount) } }

end Brokerage

namespace Stock

variable {Address : Type} [DecidableEq Address] [Zero Address]

/-! ## Prices -/

def get (cfg : Config Address) (token : Address) : Outcome Address (Collateral Address) :=
  match cfg.collaterals.find? (fun c => c.token = token) with
  | none => .error (.unknownCollateral token)
  | some c => .ok c

def answered {Result : Type} (answer : Option Result) : Outcome Address Result :=
  match answer with
  | none => .error .external
  | some result => .ok result

def multiplier (c : Collateral Address) (b : Brokerage Address) : Outcome Address Nat :=
  if c.scaledUI then answered (b.uiMultiplier c.token) else .ok WAD

/-- `_price`, with the staleness and sanity checks. -/
def price (c : Collateral Address) (maxAge : Nat) (b : Brokerage Address) :
    Outcome Address Nat := do
  let (answer, updatedAt) ← answered (b.latestRoundData c.feed)
  -- a timestamp in the future is a broken feed, not a fresh one
  require (¬(answer ≤ 0 ∨ updatedAt = 0 ∨ b.timestamp < updatedAt)) (.invalidPrice c.token)
  let age := b.timestamp - updatedAt
  require (age ≤ maxAge) (.stalePrice c.token age maxAge)
  .ok answer.toNat

/-- `10 ** (tokenDecimals + feedDecimals)`. -/
def Collateral.unit (c : Collateral Address) : Nat := 10 ^ (c.tokenDecimals + c.feedDecimals)

def value (cfg : Config Address) (c : Collateral Address) (amount maxAge : Nat)
    (b : Brokerage Address) : Outcome Address Nat :=
  if amount = 0 then .ok 0
  else do
    let price ← price c maxAge b
    let multiplier ← multiplier c b
    let shares := mulDiv amount multiplier WAD
    .ok (mulDiv shares (price * 10 ^ cfg.stableDecimals) c.unit)

/-- `_tokensFor`: stablecoin value to token units, the inverse of `_value`. -/
def tokensFor (cfg : Config Address) (c : Collateral Address) (stableAmount : Nat)
    (b : Brokerage Address) : Outcome Address Nat := do
  let price ← price c c.liquidationMaxAge b
  let shares := mulDiv stableAmount c.unit (price * 10 ^ cfg.stableDecimals)
  let multiplier ← multiplier c b
  require (multiplier ≠ 0) .divisionByZero
  .ok (mulDiv shares WAD multiplier)

structure Totals where
  value : Nat
  borrowLimit : Nat
  liquidationLine : Nat
  deriving DecidableEq

def Collateral.ageFor (c : Collateral Address) (forLiquidation : Bool) : Nat :=
  if forLiquidation then c.liquidationMaxAge else c.maxAge

def addCollateral (cfg : Config Address) (user : Address) (forLiquidation : Bool)
    (b : Brokerage Address) (sums : Totals) (c : Collateral Address) : Outcome Address Totals :=
  if b.stock.collateralOf user c.token = 0 then .ok sums
  else do
    let v ← value cfg c (b.stock.collateralOf user c.token) (c.ageFor forLiquidation) b
    .ok { value := sums.value + v
          borrowLimit := sums.borrowLimit + mulDiv v c.maxLTV WAD
          liquidationLine := sums.liquidationLine + mulDiv v c.liquidationThreshold WAD }

/-- `_totals`: a token the user does not hold is not priced. -/
def totals (cfg : Config Address) (user : Address) (forLiquidation : Bool)
    (b : Brokerage Address) : Outcome Address Totals :=
  cfg.collaterals.foldlM (addCollateral cfg user forLiquidation b) ⟨0, 0, 0⟩

/-! ## Views -/

def debtOf (b : Brokerage Address) (user : Address) : Nat := Pool.balanceOfDebt b.pool user

def valueOf (cfg : Config Address) (token : Address) (amount maxAge : Nat)
    (b : Brokerage Address) : Outcome Address Nat := do
  let c ← get cfg token
  value cfg c amount maxAge b

def positionOf (cfg : Config Address) (user : Address) (b : Brokerage Address) :
    Outcome Address (Nat × Totals) := do
  let sums ← totals cfg user true b
  .ok (debtOf b user, sums)

/-- Health of a debt against a liquidation line; nothing owed is perfect health. -/
def health (debt line : Nat) : Nat := if debt = 0 then uint256Max else mulDiv line WAD debt

def healthFactor (cfg : Config Address) (user : Address) (b : Brokerage Address) :
    Outcome Address Nat :=
  if debtOf b user = 0 then .ok uint256Max
  else do
    let sums ← totals cfg user true b
    .ok (mulDiv sums.liquidationLine WAD (debtOf b user))

def isLiquidatable (cfg : Config Address) (user : Address) (b : Brokerage Address) :
    Outcome Address Bool := do
  let hf ← healthFactor cfg user b
  .ok (hf < WAD)

/-! ## Collateral in and out -/

def accruePool (cfg : Config Address) (b : Brokerage Address) : Brokerage Address :=
  b.setLending cfg.stable (Pool.accrue cfg.pool (b.lending cfg.stable))

def deposit (cfg : Config Address) (sender token : Address) (amount : Nat)
    (b : Brokerage Address) : Outcome Address (Brokerage Address) := do
  b.stock.whenEntriesOpen
  require (amount ≠ 0) .zeroAmount
  let _ ← get cfg token
  let b := b.setCollateral sender token (b.stock.collateralOf sender token + amount)
  -- measured, not trusted
  let before := (b.tokens token).balanceOf cfg.address
  let b ← b.pay token fun state => state.transferFrom cfg.address sender cfg.address amount
  require (before ≤ (b.tokens token).balanceOf cfg.address) .arithmetic
  let received := (b.tokens token).balanceOf cfg.address - before
  require (received = amount) (.unexpectedTransferAmount amount received)
  .ok (b.emit (.collateralDeposited sender token amount))

/-- `if (debt != 0)` the position must stay within its borrow limit. -/
def withinLimit (cfg : Config Address) (user : Address) (b : Brokerage Address) :
    Outcome Address Unit :=
  if debtOf b user ≠ 0 then do
    let sums ← totals cfg user false b
    require (debtOf b user ≤ sums.borrowLimit)
      (.withdrawWouldExceedLimit (debtOf b user) sums.borrowLimit)
  else .ok ()

def withdraw (cfg : Config Address) (sender token : Address) (amount : Nat)
    (b : Brokerage Address) : Outcome Address (Brokerage Address) := do
  require (amount ≠ 0) .zeroAmount
  let _ ← get cfg token
  let held := b.stock.collateralOf sender token
  require (amount ≤ held) (.insufficientCollateral amount held)
  let b := accruePool cfg (b.setCollateral sender token (held - amount))
  withinLimit cfg sender b
  let b ← b.pay token fun state => state.move cfg.address sender amount
  .ok (b.emit (.collateralWithdrawn sender token amount))

/-! ## Borrow and repay -/

/-- `if (fee != 0) stable.safeTransfer(pool.treasury(), fee)`. -/
def payTreasury (cfg : Config Address) (fee : Nat) (b : Brokerage Address) :
    Outcome Address (Brokerage Address) :=
  if fee ≠ 0 then b.pay cfg.stable fun state => state.move cfg.address b.pool.treasury fee
  else .ok b

/-- The fee is added to the debt, not deducted from what the borrower receives. -/
def borrow (cfg : Config Address) (sender : Address) (amount : Nat) (b : Brokerage Address) :
    Outcome Address (Brokerage Address) := do
  b.stock.whenEntriesOpen
  require (amount ≠ 0) .zeroAmount
  let b := accruePool cfg b
  let fee := mulDivUp amount cfg.originationFee WAD
  let debtAfter := debtOf b sender + amount + fee
  let sums ← totals cfg sender false b
  require (debtAfter ≤ sums.borrowLimit) (.exceedsBorrowLimit debtAfter sums.borrowLimit)
  let b ← b.lend cfg.stable (Pool.borrow cfg.pool cfg.address (amount + fee) sender)
  let b ← b.pay cfg.stable fun state => state.move cfg.address sender amount
  let b ← payTreasury cfg fee b
  .ok (b.emit (.borrowed sender amount fee debtAfter))

/-- `forceApprove` and `pool.repay`. -/
def repayPool (cfg : Config Address) (amount : Nat) (user : Address) (b : Brokerage Address) :
    Outcome Address (Brokerage Address) := do
  let b ← b.pay cfg.stable fun state => state.approve cfg.address cfg.pool.address amount
  b.lend cfg.stable (Pool.repay cfg.pool cfg.address amount user)

def repay (cfg : Config Address) (sender : Address) (amount : Nat) (onBehalfOf : Address)
    (b : Brokerage Address) : Outcome Address (Brokerage Address) := do
  let b := accruePool cfg b
  let debt := debtOf b onBehalfOf
  require (debt ≠ 0) (.nothingToRepay onBehalfOf)
  let amount := min amount debt
  require (amount ≠ 0) .zeroAmount
  let b ← b.pay cfg.stable fun state => state.transferFrom cfg.address sender cfg.address amount
  let b ← repayPool cfg amount onBehalfOf b
  .ok (b.emit (.repaid sender onBehalfOf amount (debt - amount)))

/-! ## Liquidation -/

/-- The part of a loan one liquidation may clear, lifted to all of it deep underwater. -/
def closeFactorAt (cfg : Config Address) (c : Collateral Address) (hf : Nat) : Nat :=
  if hf < c.fullLiquidationThreshold then WAD else cfg.closeFactor

/-- `_maxRepay`: reverts when healthy. -/
def maxRepay (cfg : Config Address) (c : Collateral Address) (user : Address)
    (b : Brokerage Address) : Outcome Address Nat := do
  let debt := debtOf b user
  let sums ← totals cfg user true b
  let hf := health debt sums.liquidationLine
  require (hf < WAD) (.positionNotLiquidatable user hf)
  .ok (mulDiv debt (closeFactorAt cfg c hf) WAD)

def protocolFeeOn (cfg : Config Address) (c : Collateral Address) (repayAmount : Nat) : Nat :=
  mulDiv repayAmount (c.liquidationBonus * cfg.liquidationProtocolShare) (WAD * WAD)

def liquidate (cfg : Config Address) (sender user token : Address) (repayAmount : Nat)
    (b : Brokerage Address) : Outcome Address (Brokerage Address) := do
  let c ← get cfg token
  let b := accruePool cfg b
  let limit ← maxRepay cfg c user b
  let repayAmount := if repayAmount = uint256Max then limit else repayAmount
  require (repayAmount ≠ 0) .zeroAmount
  require (repayAmount ≤ limit) (.exceedsCloseFactor repayAmount limit)
  let held := b.stock.collateralOf user token
  require (held ≠ 0) (.nothingToSeize user token)
  let wanted ← tokensFor cfg c (repayAmount + mulDiv repayAmount c.liquidationBonus WAD) b
  let seized := min wanted held
  let protocolFee := protocolFeeOn cfg c repayAmount
  let b := b.setCollateral user token (held - seized)
  -- the liquidator pays first, then is paid
  let b ← b.pay cfg.stable fun state =>
    state.transferFrom cfg.address sender cfg.address (repayAmount + protocolFee)
  let b ← repayPool cfg repayAmount user b
  let b ← payTreasury cfg protocolFee b
  let b ← b.pay token fun state => state.move cfg.address sender seized
  .ok (b.emit (.liquidated sender user token repayAmount seized protocolFee (debtOf b user)))

def largestBonus (cfg : Config Address) (user : Address) (b : Brokerage Address) : Nat :=
  cfg.collaterals.foldl (fun bonus c =>
    if b.stock.collateralOf user c.token ≠ 0 then max bonus c.liquidationBonus else bonus) 0

def priceOfEverything (cfg : Config Address) (user : Address) (value : Nat)
    (b : Brokerage Address) : Nat :=
  mulDiv value WAD (WAD + largestBonus cfg user b)

def handOver (cfg : Config Address) (sender user : Address) (turn : Nat × Brokerage Address)
    (c : Collateral Address) : Outcome Address (Nat × Brokerage Address) :=
  let held := turn.2.stock.collateralOf user c.token
  if held = 0 then .ok turn
  else do
    let b ← (turn.2.setCollateral user c.token 0).pay c.token fun state =>
      state.move cfg.address sender held
    .ok (turn.1 + 1, b)

def handOverCollateral (cfg : Config Address) (sender user : Address) (b : Brokerage Address) :
    Outcome Address (Nat × Brokerage Address) :=
  cfg.collaterals.foldlM (handOver cfg sender user) (0, b)

def buyOut (cfg : Config Address) (sender user : Address) (payment : Nat)
    (b : Brokerage Address) : Outcome Address (Brokerage Address) :=
  if payment ≠ 0 then do
    let b ← b.pay cfg.stable fun state =>
      state.transferFrom cfg.address sender cfg.address payment
    repayPool cfg payment user b
  else .ok b

def writeOffBadDebt (cfg : Config Address) (sender user : Address) (b : Brokerage Address) :
    Outcome Address (Brokerage Address) := do
  let b := accruePool cfg b
  let debt := debtOf b user
  let sums ← totals cfg user true b
  require (¬(debt = 0 ∨ debt ≤ sums.value)) (.notWritableOff user)
  let payment := priceOfEverything cfg user sums.value b
  let (seizedCount, b) ← handOverCollateral cfg sender user b
  let b ← buyOut cfg sender user payment b
  let (loss, l) ← Pool.absorbBadDebt cfg.pool cfg.address user (b.lending cfg.stable)
  .ok ((b.setLending cfg.stable l).emit
    (.badDebtWrittenOff user sender payment loss seizedCount))

/-! ## Dispatch and deployment -/

def guard (sender : Address) (call : EntryPausable.Call Address) (b : Brokerage Address) :
    Outcome Address (Brokerage Address) := do
  let (access, event) ← b.stock.toEntryPausable.exec sender call
  .ok ({ b with stock := { b.stock with toEntryPausable := access } }.emit (.access event))

inductive Call (Address : Type) where
  | deposit (token : Address) (amount : Nat)
  | withdraw (token : Address) (amount : Nat)
  | borrow (amount : Nat)
  | repay (amount : Nat) (onBehalfOf : Address)
  | liquidate (user token : Address) (repayAmount : Nat)
  | writeOffBadDebt (user : Address)
  | guard (call : EntryPausable.Call Address)

def exec (cfg : Config Address) (sender : Address) (b : Brokerage Address) :
    Call Address → Outcome Address (Brokerage Address)
  | .deposit token amount => deposit cfg sender token amount b
  | .withdraw token amount => withdraw cfg sender token amount b
  | .borrow amount => borrow cfg sender amount b
  | .repay amount onBehalfOf => repay cfg sender amount onBehalfOf b
  | .liquidate user token repayAmount => liquidate cfg sender user token repayAmount b
  | .writeOffBadDebt user => writeOffBadDebt cfg sender user b
  | .guard call => guard sender call b

def deployed (pauseGuardian : Address) : State Address where
  entriesPaused := false
  pauseGuardian := pauseGuardian
  collateralOf _ _ := 0
  logs := []

/-! ## Histories -/

def Outsider (cfg : Config Address) (sender : Address) : Prop :=
  sender ≠ cfg.address ∧ sender ≠ cfg.pool.address

/-- One thing that happens to the vault and to what it relies on. -/
inductive Action (Address : Type) where
  | stock (sender : Address) (call : Call Address)
  | pool (sender : Address) (call : Pool.Call Address)
  | asset (token sender : Address) (call : Erc20.Call Address)
  | feeds (latestRoundData : Address → Option (Int × Nat))
  | multipliers (uiMultiplier : Address → Option Nat)
  | wait (seconds : Nat)

def act (cfg : Config Address) (b : Brokerage Address) :
    Action Address → Outcome Address (Brokerage Address)
  | .stock sender call => exec cfg sender b call
  | .pool sender call => b.lend cfg.stable fun l => Pool.exec cfg.pool sender l call
  | .asset token sender call => b.pay token fun state => state.exec sender call
  | .feeds latestRoundData => .ok { b with latestRoundData := latestRoundData }
  | .multipliers uiMultiplier => .ok { b with uiMultiplier := uiMultiplier }
  | .wait seconds => .ok { b with timestamp := b.timestamp + seconds }

def Action.External (cfg : Config Address) : Action Address → Prop
  | .stock sender _ | .pool sender _ | .asset _ sender _ => Outsider cfg sender
  | .feeds _ | .multipliers _ | .wait _ => True

/-- A vault fresh from its constructor, over a pool with any history, which has
approved nobody. -/
structure Deployed (cfg : Config Address) (b : Brokerage Address) : Prop where
  pool_history : (Pool.machine cfg.pool).Reachable (b.lending cfg.stable)
  fresh : ∃ guardian, b.stock = deployed guardian
  unapproved : ∀ token spender, (b.tokens token).allowance cfg.address spender = 0

def machine (cfg : Config Address) : Machine (Brokerage Address) (Action Address) where
  initial := Deployed cfg
  step b action after := action.External cfg ∧ act cfg b action = .ok after

end Stock

end Ghoststake
