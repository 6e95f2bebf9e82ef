import Ghoststake.Market.Steps
import Ghoststake.Pool.Words
import Ghoststake.Vault.Projection

/-!
# BorrowToPositionRouter

Borrows against a user's collateral and stakes the proceeds in one call, and
pays the debt down with the payout when the round settles. It keeps no account
of its own. The vault, its creditor and the market move the one asset of the
exchange, which is what the constructor checks.
-/

namespace Ghoststake

set_option autoImplicit false

open Checked

namespace Router

inductive Event (Address : Type) where
  | positionOpened (roundId : Nat) (user : Address) (side : Market.Side) (borrowed own : Nat)
  | positionSettled (user : Address) (received repaid returned : Nat)

end Router

/-- What stands beside the market: the vault, its creditor, and what the
router has announced. -/
structure Backing (Address : Type) where
  pool : Pool.State Address
  vault : Vault.State Address
  logs : List (Router.Event Address)

namespace Exchange

variable {Address : Type}

def chain (x : Exchange Address (Backing Address)) : Chain Address where
  timestamp := x.timestamp
  token := x.token
  pool := x.rest.pool
  vault := x.rest.vault

def setChain (x : Exchange Address (Backing Address)) (c : Chain Address) :
    Exchange Address (Backing Address) :=
  { x with
    timestamp := c.timestamp
    token := c.token
    rest := { x.rest with pool := c.pool, vault := c.vault } }

def onChain (x : Exchange Address (Backing Address))
    (call : Chain Address → Outcome Address (Chain Address)) :
    Outcome Address (Exchange Address (Backing Address)) := do
  let c ← call x.chain
  .ok (x.setChain c)

def announce (x : Exchange Address (Backing Address)) (event : Router.Event Address) :
    Exchange Address (Backing Address) :=
  { x with rest := { x.rest with logs := x.rest.logs ++ [event] } }

end Exchange

namespace Router

/-- The constructor's immutables. Four contracts have four addresses. -/
structure Config (Address : Type) [Zero Address] where
  /-- `address(this)`. -/
  address : Address
  vault : Vault.Config Address
  market : Market.Config Address (Backing Address)
  address_ne_zero : address ≠ 0
  not_market : address ≠ market.address
  not_vault : Vault.Outsider vault address
  market_not_vault : Vault.Outsider vault market.address

variable {Address : Type} [DecidableEq Address] [Zero Address]

/-! ## Opening -/

/-- `if (ownAmount != 0) asset.safeTransferFrom(msg.sender, address(this), ownAmount)`. -/
def pullOwn (cfg : Config Address) (sender : Address) (ownAmount : Nat)
    (x : Exchange Address (Backing Address)) :
    Outcome Address (Exchange Address (Backing Address)) :=
  if ownAmount ≠ 0 then
    x.pay fun token => token.transferFrom cfg.address sender cfg.address ownAmount
  else .ok x

/-- `if (borrowAmount != 0) vault.borrowFor(msg.sender, borrowAmount)`. -/
def drawFor (cfg : Config Address) (sender : Address) (borrowAmount : Nat)
    (x : Exchange Address (Backing Address)) :
    Outcome Address (Exchange Address (Backing Address)) :=
  if borrowAmount ≠ 0 then
    x.onChain (Vault.borrowFor cfg.vault cfg.address sender borrowAmount)
  else .ok x

def openPosition (cfg : Config Address) (sender : Address) (roundId : Nat) (side : Market.Side)
    (borrowAmount ownAmount : Nat) (x : Exchange Address (Backing Address)) :
    Outcome Address (Exchange Address (Backing Address)) := do
  let staked := borrowAmount + ownAmount
  require (staked ≠ 0) .nothingToStake
  let x ← pullOwn cfg sender ownAmount x
  let x ← drawFor cfg sender borrowAmount x
  let x ← x.pay fun token => token.approve cfg.address cfg.market.address staked
  let x ← Market.takePositionFor cfg.market cfg.address roundId sender side staked x
  .ok (x.announce (.positionOpened roundId sender side borrowAmount ownAmount))

/-! ## Settlement -/

/-- `ILienSource(address(vault.lienSource())).accrue()`: a call, whoever is there. -/
def accrueLienSource (cfg : Config Address) (x : Exchange Address (Backing Address)) :
    Outcome Address (Exchange Address (Backing Address)) :=
  match cfg.vault.lienSource with
  | none => .error .noCode
  | some pool => do
      let lending ← Pool.Words.accrue pool x.chain.toLending
      .ok (x.setChain { x.chain with toLending := lending })

/-- `vault.lienOf(user)`, whose `mulDiv` reverts past a word. -/
def lienWord (cfg : Config Address) (user : Address) (x : Exchange Address (Backing Address)) :
    Outcome Address Nat := do
  let owed := Vault.lienOf cfg.vault x.chain user
  require (owed ≤ uint256Max) .arithmetic
  .ok owed

def repayOwed (cfg : Config Address) (user : Address) (toRepay : Nat)
    (x : Exchange Address (Backing Address)) :
    Outcome Address (Exchange Address (Backing Address)) :=
  if toRepay ≠ 0 then do
    let x ← x.pay fun token => token.approve cfg.address cfg.vault.address toRepay
    x.onChain (Vault.repay cfg.vault cfg.address toRepay user)
  else .ok x

/-- `if (surplus != 0) asset.safeTransfer(user, surplus)`. -/
def forwardSurplus (cfg : Config Address) (user : Address) (surplus : Nat)
    (x : Exchange Address (Backing Address)) :
    Outcome Address (Exchange Address (Backing Address)) :=
  if surplus ≠ 0 then x.pay fun token => token.move cfg.address user surplus else .ok x

def onPositionSettled (cfg : Config Address) (sender user : Address) (amount : Nat)
    (x : Exchange Address (Backing Address)) :
    Outcome Address (Exchange Address (Backing Address)) := do
  require (sender = cfg.market.address) (.onlyMarket sender)
  -- accrued before the lien is read, or the repayment would leave dust behind
  let x ← accrueLienSource cfg x
  let owed ← lienWord cfg user x
  let toRepay := if amount < owed then amount else owed
  let x ← repayOwed cfg user toRepay x
  let surplus := amount - toRepay
  let x ← forwardSurplus cfg user surplus x
  .ok (x.announce (.positionSettled user amount toRepay surplus))

inductive Call (Address : Type) where
  | openPosition (roundId : Nat) (side : Market.Side) (borrowAmount ownAmount : Nat)
  | onPositionSettled (user : Address) (amount : Nat)

def exec (cfg : Config Address) (sender : Address) (x : Exchange Address (Backing Address)) :
    Call Address → Outcome Address (Exchange Address (Backing Address))
  | .openPosition roundId side borrowAmount ownAmount =>
      openPosition cfg sender roundId side borrowAmount ownAmount x
  | .onPositionSettled user amount => onPositionSettled cfg sender user amount x

/-! ## Histories -/

/-- The router's code behind its own address, and other code behind the others. -/
def sinks (cfg : Config Address) (others : Market.Sinks Address (Backing Address)) :
    Market.Sinks Address (Backing Address) := fun sink user amount x =>
  if sink = cfg.address then onPositionSettled cfg cfg.market.address user amount x
  else others sink user amount x

def Outsider (cfg : Config Address) (sender : Address) : Prop :=
  sender ≠ cfg.address ∧ sender ≠ cfg.market.address ∧ Vault.Outsider cfg.vault sender

/-- What a sink other than the router can do while the market is in `claim`.
`openPosition` is not among it: the market refuses a stake until `claim` is over. -/
inductive Aside (cfg : Config Address) (x : Exchange Address (Backing Address)) :
    Exchange Address (Backing Address) → Prop
  | market {sender : Address} {call : Market.Call Address}
      {after : Exchange Address (Backing Address)} (outsider : Outsider cfg sender)
      (unlocked : call.Unlocked)
      (ran : Market.exec cfg.market Market.noSinks sender x call = .ok after) : Aside cfg x after
  | vault {sender : Address} {call : Vault.Call Address}
      {after : Exchange Address (Backing Address)} (outsider : Outsider cfg sender)
      (ran : x.onChain (fun c => Vault.exec cfg.vault sender c call) = .ok after) :
      Aside cfg x after
  | pool {sender : Address} {call : Pool.Call Address}
      {after : Exchange Address (Backing Address)} (outsider : Outsider cfg sender)
      (ran : x.onChain (Vault.execPool cfg.vault sender call) = .ok after) : Aside cfg x after
  | asset {sender : Address} {call : Erc20.Call Address} {token : Erc20 Address}
      (outsider : Outsider cfg sender) (ran : x.token.exec sender call = .ok token) :
      Aside cfg x { x with token := token }

/-- Sinks that are none of the contracts and act through calls. -/
def Outside (cfg : Config Address) (others : Market.Sinks Address (Backing Address)) : Prop :=
  ∀ sink user amount x after, others sink user amount x = .ok after →
    Relation.ReflTransGen (Aside cfg) x after

inductive Action (Address : Type) where
  | market (others : Market.Sinks Address (Backing Address)) (sender : Address)
      (call : Market.Call Address)
  | router (sender : Address) (call : Call Address)
  | vault (sender : Address) (call : Vault.Call Address)
  | pool (sender : Address) (call : Pool.Call Address)
  | asset (sender : Address) (call : Erc20.Call Address)
  | wait (seconds : Nat)

def act (cfg : Config Address) (x : Exchange Address (Backing Address)) :
    Action Address → Outcome Address (Exchange Address (Backing Address))
  | .market others sender call => Market.exec cfg.market (sinks cfg others) sender x call
  | .router sender call => exec cfg sender x call
  | .vault sender call => x.onChain fun c => Vault.exec cfg.vault sender c call
  | .pool sender call => x.onChain (Vault.execPool cfg.vault sender call)
  | .asset sender call => x.pay fun token => token.exec sender call
  | .wait seconds => .ok { x with timestamp := x.timestamp + seconds }

def Action.External (cfg : Config Address) : Action Address → Prop
  | .market others sender _ => Outsider cfg sender ∧ Outside cfg others
  | .router sender _ | .vault sender _ | .pool sender _ | .asset sender _ => Outsider cfg sender
  | .wait _ => True

/-- A router fresh from its constructor, over a vault and a market with any
history in which nobody has called from the router's address. -/
structure Deployed (cfg : Config Address) (x : Exchange Address (Backing Address)) : Prop where
  market_history : (Market.machine cfg.market).Reachable x
  vault_history : (Vault.machine cfg.vault).Reachable x.chain
  unused : ∀ roundId user, x.market.settlementSinkOf roundId user ≠ cfg.address
  silent : x.rest.logs = []

def machine (cfg : Config Address) :
    Machine (Exchange Address (Backing Address)) (Action Address) where
  initial := Deployed cfg
  step x action after := action.External cfg ∧ act cfg x action = .ok after

end Router

end Ghoststake
