import Ghoststake.Chain.Access
import Ghoststake.Chain.Erc20
import Ghoststake.Library.Rounding

/-!
# BorrowLiquidityPool

The shared lending pool, function by function. Balances are stored scaled:
what is in storage is the balance divided by the index at the time it was
written. `Lending` is the pool together with the asset it holds and the block
time; the reentrancy guard has nothing to do on a plain ERC-20 and is left out.
-/

namespace Ghoststake

set_option autoImplicit false

open Checked Rounding

namespace Pool

structure Config (Address : Type) where
  /-- `address(this)`. -/
  address : Address
  baseRatePerSecond : Nat
  slope1PerSecond : Nat
  slope2PerSecond : Nat
  kink : Nat
  reserveFactor : Nat
  kink_ne_zero : kink ≠ 0
  kink_lt_wad : kink < WAD
  reserve_factor_lt_wad : reserveFactor < WAD

inductive Event (Address : Type) where
  | supplied (user : Address) (amount scaledAmount : Nat)
  | withdrawn (user : Address) (amount scaledAmount : Nat)
  | borrowed (user : Address) (amount scaledAmount : Nat)
  | repaid (payer user : Address) (amount scaledAmount : Nat)
  | accrued (supplyIndex borrowIndex reservesAdded : Nat)
  | borrowModuleSet (target : Address)
  | reservesWithdrawn (target : Address) (amount : Nat)
  | badDebtAbsorbed (user : Address)
      (loss fromReserves socialised supplyIndexBefore supplyIndexAfter : Nat)
  | access (event : AccessEvent Address)

structure State (Address : Type) extends Treasured Address, EntryPausable Address where
  supplyIndex : Nat
  borrowIndex : Nat
  lastAccrualTime : Nat
  totalSupplyScaled : Nat
  totalBorrowScaled : Nat
  totalReserves : Nat
  totalBadDebt : Nat
  unsocialisedBadDebt : Nat
  scaledSupply : Address → Nat
  scaledDebt : Address → Nat
  borrowModule : Address
  logs : List (Event Address)

end Pool

structure Lending (Address : Type) where
  /-- `block.timestamp`. -/
  timestamp : Nat
  token : Erc20 Address
  pool : Pool.State Address

/-- The same block with the asset and the pool's storage replaced. -/
def Lending.put {Address : Type} (l : Lending Address) (token : Erc20 Address)
    (pool : Pool.State Address) : Lending Address :=
  { l with token := token, pool := pool }

section Put

variable {Address : Type} (l : Lending Address) (token : Erc20 Address)
  (pool : Pool.State Address)

@[simp] theorem Lending.put_timestamp : (l.put token pool).timestamp = l.timestamp := rfl

@[simp] theorem Lending.put_token : (l.put token pool).token = token := rfl

@[simp] theorem Lending.put_pool : (l.put token pool).pool = pool := rfl

end Put

namespace Pool

variable {Address : Type}

def State.emit (pool : State Address) (event : Event Address) : State Address :=
  { pool with logs := pool.logs ++ [event] }

/-! ## Storage writes -/

section Writes

variable [DecidableEq Address]

def State.creditSupply (pool : State Address) (user : Address) (scaled : Nat) :
    State Address :=
  { pool with
    scaledSupply := Function.update pool.scaledSupply user (pool.scaledSupply user + scaled)
    totalSupplyScaled := pool.totalSupplyScaled + scaled }

def State.debitSupply (pool : State Address) (user : Address) (scaled : Nat) :
    State Address :=
  { pool with
    scaledSupply := Function.update pool.scaledSupply user (pool.scaledSupply user - scaled)
    totalSupplyScaled := pool.totalSupplyScaled - scaled }

def State.creditDebt (pool : State Address) (user : Address) (scaled : Nat) :
    State Address :=
  { pool with
    scaledDebt := Function.update pool.scaledDebt user (pool.scaledDebt user + scaled)
    totalBorrowScaled := pool.totalBorrowScaled + scaled }

def State.debitDebt (pool : State Address) (user : Address) (scaled : Nat) :
    State Address :=
  { pool with
    scaledDebt := Function.update pool.scaledDebt user (pool.scaledDebt user - scaled)
    totalBorrowScaled := pool.totalBorrowScaled - scaled }

end Writes

def State.debitReserves (pool : State Address) (amount : Nat) : State Address :=
  { pool with totalReserves := pool.totalReserves - amount }

section WriteLemmas

variable [DecidableEq Address] (pool : State Address) (event : Event Address)
  (user : Address) (scaled amount : Nat)

omit [DecidableEq Address] in
@[simp] theorem emit_borrow_module : (pool.emit event).borrowModule = pool.borrowModule := rfl

@[simp] theorem credit_supply_borrow_module :
    (pool.creditSupply user scaled).borrowModule = pool.borrowModule := rfl

@[simp] theorem debit_supply_borrow_module :
    (pool.debitSupply user scaled).borrowModule = pool.borrowModule := rfl

@[simp] theorem credit_debt_borrow_module :
    (pool.creditDebt user scaled).borrowModule = pool.borrowModule := rfl

@[simp] theorem debit_debt_borrow_module :
    (pool.debitDebt user scaled).borrowModule = pool.borrowModule := rfl

omit [DecidableEq Address] in
@[simp] theorem debit_reserves_borrow_module :
    (pool.debitReserves amount).borrowModule = pool.borrowModule := rfl

omit [DecidableEq Address] in
@[simp] theorem emit_treasury : (pool.emit event).treasury = pool.treasury := rfl

@[simp] theorem credit_supply_treasury :
    (pool.creditSupply user scaled).treasury = pool.treasury := rfl

@[simp] theorem debit_supply_treasury :
    (pool.debitSupply user scaled).treasury = pool.treasury := rfl

@[simp] theorem credit_debt_treasury :
    (pool.creditDebt user scaled).treasury = pool.treasury := rfl

@[simp] theorem debit_debt_treasury :
    (pool.debitDebt user scaled).treasury = pool.treasury := rfl

omit [DecidableEq Address] in
@[simp] theorem debit_reserves_treasury :
    (pool.debitReserves amount).treasury = pool.treasury := rfl

omit [DecidableEq Address] in
@[simp] theorem emit_scaled_debt : (pool.emit event).scaledDebt = pool.scaledDebt := rfl

@[simp] theorem credit_supply_scaled_debt :
    (pool.creditSupply user scaled).scaledDebt = pool.scaledDebt := rfl

@[simp] theorem debit_supply_scaled_debt :
    (pool.debitSupply user scaled).scaledDebt = pool.scaledDebt := rfl

@[simp] theorem credit_debt_scaled_debt :
    (pool.creditDebt user scaled).scaledDebt =
      Function.update pool.scaledDebt user (pool.scaledDebt user + scaled) := rfl

@[simp] theorem debit_debt_scaled_debt :
    (pool.debitDebt user scaled).scaledDebt =
      Function.update pool.scaledDebt user (pool.scaledDebt user - scaled) := rfl

omit [DecidableEq Address] in
@[simp] theorem debit_reserves_scaled_debt :
    (pool.debitReserves amount).scaledDebt = pool.scaledDebt := rfl

end WriteLemmas

/-! ## Views -/

def availableLiquidity (cfg : Config Address) (l : Lending Address) : Nat :=
  l.token.balanceOf cfg.address

def totalSupplied (pool : State Address) : Nat :=
  mulDiv pool.totalSupplyScaled pool.supplyIndex RAY

def totalBorrowed (pool : State Address) : Nat :=
  mulDiv pool.totalBorrowScaled pool.borrowIndex RAY

def balanceOfSupply (pool : State Address) (user : Address) : Nat :=
  mulDiv (pool.scaledSupply user) pool.supplyIndex RAY

def balanceOfDebt (pool : State Address) (user : Address) : Nat :=
  mulDiv (pool.scaledDebt user) pool.borrowIndex RAY

def utilization (cfg : Config Address) (l : Lending Address) : Nat :=
  let borrowed := totalBorrowed l.pool
  if borrowed = 0 then 0
  else mulDiv borrowed WAD (availableLiquidity cfg l + borrowed)

/-- The kinked curve, `_borrowRateAt`. -/
def borrowRateAt (cfg : Config Address) (u : Nat) : Nat :=
  if u ≤ cfg.kink then
    cfg.baseRatePerSecond + mulDiv cfg.slope1PerSecond u cfg.kink
  else
    cfg.baseRatePerSecond + cfg.slope1PerSecond +
      mulDiv cfg.slope2PerSecond (u - cfg.kink) (WAD - cfg.kink)

def supplyRateAt (cfg : Config Address) (u : Nat) : Nat :=
  mulDiv (mulDiv (borrowRateAt cfg u) u WAD) (WAD - cfg.reserveFactor) WAD

/-! ## Accrual -/

def elapsed (l : Lending Address) : Nat := l.timestamp - l.pool.lastAccrualTime

def borrowGrowth (cfg : Config Address) (l : Lending Address) : Nat :=
  borrowRateAt cfg (utilization cfg l) * elapsed l

def supplyGrowth (cfg : Config Address) (l : Lending Address) : Nat :=
  supplyRateAt cfg (utilization cfg l) * elapsed l

/-- The reserve cut, taken from the interest borrowers owe for this period. -/
def reservesAdded (cfg : Config Address) (l : Lending Address) : Nat :=
  if borrowGrowth cfg l ≠ 0 then
    mulDiv (mulDiv (totalBorrowed l.pool) (borrowGrowth cfg l) WAD) cfg.reserveFactor WAD
  else 0

def nextBorrowIndex (cfg : Config Address) (l : Lending Address) : Nat :=
  if borrowGrowth cfg l ≠ 0 then
    l.pool.borrowIndex + mulDiv l.pool.borrowIndex (borrowGrowth cfg l) WAD
  else l.pool.borrowIndex

def nextSupplyIndex (cfg : Config Address) (l : Lending Address) : Nat :=
  if supplyGrowth cfg l ≠ 0 then
    l.pool.supplyIndex + mulDiv l.pool.supplyIndex (supplyGrowth cfg l) WAD
  else l.pool.supplyIndex

def accrue (cfg : Config Address) (l : Lending Address) : Lending Address :=
  if elapsed l = 0 then l
  else
    l.put l.token (State.emit
      { l.pool with
        totalReserves := l.pool.totalReserves + reservesAdded cfg l
        borrowIndex := nextBorrowIndex cfg l
        supplyIndex := nextSupplyIndex cfg l
        lastAccrualTime := l.timestamp }
      (.accrued (nextSupplyIndex cfg l) (nextBorrowIndex cfg l) (reservesAdded cfg l)))

/-! ## Supply side -/

variable [DecidableEq Address] [Zero Address]

def supply (cfg : Config Address) (sender : Address) (amount : Nat) (l : Lending Address) :
    Outcome Address (Lending Address) := do
  l.pool.whenEntriesOpen
  require (amount ≠ 0) .zeroAmount
  let l := accrue cfg l
  require (l.pool.supplyIndex ≠ 0) .divisionByZero
  -- rounded down, so a supplier can never scale up into more than they paid for
  let scaled := mulDiv amount RAY l.pool.supplyIndex
  let token ← l.token.transferFrom cfg.address sender cfg.address amount
  .ok (l.put token (State.emit (l.pool.creditSupply sender scaled) (.supplied sender amount scaled)))

def withdraw (cfg : Config Address) (sender : Address) (amount : Nat) (l : Lending Address) :
    Outcome Address (Lending Address) := do
  require (amount ≠ 0) .zeroAmount
  let l := accrue cfg l
  let balance := balanceOfSupply l.pool sender
  require (amount ≤ balance) (.insufficientSupplyBalance amount balance)
  let available := availableLiquidity cfg l
  require (amount ≤ available) (.insufficientLiquidity amount available)
  require (l.pool.supplyIndex ≠ 0) .divisionByZero
  -- rounded up and capped at what is held: a full exit clears the position outright
  let scaled := min (mulDivUp amount RAY l.pool.supplyIndex) (l.pool.scaledSupply sender)
  require (scaled ≤ l.pool.totalSupplyScaled) .arithmetic
  let token ← l.token.move cfg.address sender amount
  .ok (l.put token (State.emit (l.pool.debitSupply sender scaled) (.withdrawn sender amount scaled)))

/-! ## Borrow side -/

def onlyBorrowModule (pool : State Address) (sender : Address) : Outcome Address Unit :=
  require (sender = pool.borrowModule) (.notBorrowModule sender)

def borrow (cfg : Config Address) (sender : Address) (amount : Nat) (onBehalfOf : Address)
    (l : Lending Address) : Outcome Address (Lending Address) := do
  onlyBorrowModule l.pool sender
  l.pool.whenEntriesOpen
  require (amount ≠ 0) .zeroAmount
  let l := accrue cfg l
  let available := availableLiquidity cfg l
  require (amount ≤ available) (.insufficientLiquidity amount available)
  require (l.pool.borrowIndex ≠ 0) .divisionByZero
  -- rounded up, so a borrower can never round their obligation down
  let scaled := mulDivUp amount RAY l.pool.borrowIndex
  let token ← l.token.move cfg.address sender amount
  .ok (l.put token (State.emit (l.pool.creditDebt onBehalfOf scaled) (.borrowed onBehalfOf amount scaled)))

/-- The scaled units a repayment of `amount` clears: all of them when it pays
the debt in full, otherwise the floor. -/
def repaidScaled (pool : State Address) (amount : Nat) (onBehalfOf : Address) : Nat :=
  let scaled := mulDiv amount RAY pool.borrowIndex
  let owed := pool.scaledDebt onBehalfOf
  if amount = balanceOfDebt pool onBehalfOf ∨ owed ≤ scaled then owed else scaled

def repay (cfg : Config Address) (sender : Address) (amount : Nat) (onBehalfOf : Address)
    (l : Lending Address) : Outcome Address (Lending Address) := do
  require (amount ≠ 0) .zeroAmount
  let l := accrue cfg l
  let debt := balanceOfDebt l.pool onBehalfOf
  require (amount ≤ debt) (.repayExceedsDebt amount debt)
  require (l.pool.borrowIndex ≠ 0) .divisionByZero
  let scaled := repaidScaled l.pool amount onBehalfOf
  require (scaled ≤ l.pool.totalBorrowScaled) .arithmetic
  let token ← l.token.transferFrom cfg.address sender cfg.address amount
  .ok (l.put token (State.emit (l.pool.debitDebt onBehalfOf scaled) (.repaid sender onBehalfOf amount scaled)))

/-! ## Bad debt -/

/-- How a loss falls: what reserves pay, what suppliers pay through the index,
what nobody is left to pay, and the index after. -/
structure WriteDown where
  fromReserves : Nat
  socialised : Nat
  unsocialised : Nat
  supplyIndex : Nat

/-- The reserve-then-supplier waterfall of `absorbBadDebt`. -/
def writeDown (pool : State Address) (loss : Nat) : WriteDown :=
  let fromReserves := min loss pool.totalReserves
  let remainder := loss - fromReserves
  let supplied := totalSupplied pool
  if remainder = 0 then
    { fromReserves, socialised := 0, unsocialised := 0, supplyIndex := pool.supplyIndex }
  else if supplied = 0 then
    -- nobody to charge
    { fromReserves, socialised := 0, unsocialised := remainder
      supplyIndex := pool.supplyIndex }
  else
    let socialised := min remainder supplied
    let next := mulDiv pool.supplyIndex (supplied - socialised) supplied
    { fromReserves, socialised, unsocialised := remainder - socialised
      -- the index may never reach zero: `supply` divides by it
      supplyIndex := if next = 0 then 1 else next }

def State.charge (pool : State Address) (loss : Nat) (fall : WriteDown) : State Address :=
  { pool with
    totalReserves := pool.totalReserves - fall.fromReserves
    supplyIndex := fall.supplyIndex
    unsocialisedBadDebt := pool.unsocialisedBadDebt + fall.unsocialised
    totalBadDebt := pool.totalBadDebt + loss }

def absorbBadDebt (cfg : Config Address) (sender user : Address) (l : Lending Address) :
    Outcome Address (Nat × Lending Address) := do
  onlyBorrowModule l.pool sender
  let l := accrue cfg l
  let loss := balanceOfDebt l.pool user
  require (loss ≠ 0) (.noDebtToAbsorb user)
  require (l.pool.scaledDebt user ≤ l.pool.totalBorrowScaled) .arithmetic
  let fall := writeDown l.pool loss
  .ok (loss, l.put l.token (State.emit
    ((l.pool.debitDebt user (l.pool.scaledDebt user)).charge loss fall)
    (.badDebtAbsorbed user loss fall.fromReserves fall.socialised l.pool.supplyIndex
      fall.supplyIndex)))

/-! ## Reserves and administration -/

/-- Reserves are only drawn from cash in excess of every supplier claim. This
entry point reads the stored indices: it does not accrue. -/
def withdrawReserves (cfg : Config Address) (sender : Address) (amount : Nat)
    (l : Lending Address) : Outcome Address (Lending Address) := do
  l.pool.onlyOwner sender
  require (amount ≠ 0) .zeroAmount
  require (amount ≤ l.pool.totalReserves)
    (.insufficientSupplyBalance amount l.pool.totalReserves)
  let withdrawable := l.token.balanceOf cfg.address - totalSupplied l.pool
  require (amount ≤ withdrawable) (.reservesSeniorToSuppliers amount withdrawable)
  let token ← l.token.move cfg.address l.pool.treasury amount
  .ok (l.put token (State.emit (l.pool.debitReserves amount)
    (.reservesWithdrawn l.pool.treasury amount)))

def setBorrowModule (sender target : Address) (l : Lending Address) :
    Outcome Address (Lending Address) := do
  l.pool.onlyOwner sender
  require (target ≠ 0) .zeroAddress
  require (l.pool.borrowModule = 0) (.borrowModuleAlreadySet l.pool.borrowModule)
  .ok (l.put l.token
    (State.emit { l.pool with borrowModule := target } (.borrowModuleSet target)))

def administer (sender : Address) (call : Treasured.Call Address) (l : Lending Address) :
    Outcome Address (Lending Address) := do
  let (access, event) ← l.pool.toTreasured.exec sender call
  .ok (l.put l.token (State.emit { l.pool with toTreasured := access } (.access event)))

def guard (sender : Address) (call : EntryPausable.Call Address) (l : Lending Address) :
    Outcome Address (Lending Address) := do
  let (access, event) ← l.pool.toEntryPausable.exec sender call
  .ok (l.put l.token (State.emit { l.pool with toEntryPausable := access } (.access event)))

/-! ## Deployment and dispatch -/

def construct (address : Address)
    (baseRatePerSecond slope1PerSecond slope2PerSecond kink reserveFactor : Nat) :
    Outcome Address (Config Address) :=
  if accepted : kink ≠ 0 ∧ kink < WAD ∧ reserveFactor < WAD then
    .ok { address, baseRatePerSecond, slope1PerSecond, slope2PerSecond, kink, reserveFactor
          kink_ne_zero := accepted.1
          kink_lt_wad := accepted.2.1
          reserve_factor_lt_wad := accepted.2.2 }
  else .error .invalidCurve

def deployed (access : Treasured Address) (pauseGuardian : Address) (timestamp : Nat) :
    State Address where
  toTreasured := access
  entriesPaused := false
  pauseGuardian := pauseGuardian
  supplyIndex := RAY
  borrowIndex := RAY
  lastAccrualTime := timestamp
  totalSupplyScaled := 0
  totalBorrowScaled := 0
  totalReserves := 0
  totalBadDebt := 0
  unsocialisedBadDebt := 0
  scaledSupply _ := 0
  scaledDebt _ := 0
  borrowModule := 0
  logs := []

inductive Call (Address : Type) where
  | accrue
  | supply (amount : Nat)
  | withdraw (amount : Nat)
  | borrow (amount : Nat) (onBehalfOf : Address)
  | repay (amount : Nat) (onBehalfOf : Address)
  | absorbBadDebt (user : Address)
  | withdrawReserves (amount : Nat)
  | setBorrowModule (target : Address)
  | administer (call : Treasured.Call Address)
  | guard (call : EntryPausable.Call Address)

def exec (cfg : Config Address) (sender : Address) (l : Lending Address) :
    Call Address → Outcome Address (Lending Address)
  | .accrue => .ok (accrue cfg l)
  | .supply amount => supply cfg sender amount l
  | .withdraw amount => withdraw cfg sender amount l
  | .borrow amount onBehalfOf => borrow cfg sender amount onBehalfOf l
  | .repay amount onBehalfOf => repay cfg sender amount onBehalfOf l
  | .absorbBadDebt user => (absorbBadDebt cfg sender user l).map Prod.snd
  | .withdrawReserves amount => withdrawReserves cfg sender amount l
  | .setBorrowModule target => setBorrowModule sender target l
  | .administer call => administer sender call l
  | .guard call => guard sender call l

end Pool

end Ghoststake
