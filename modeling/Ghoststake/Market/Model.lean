import Ghoststake.Chain.Access
import Ghoststake.Chain.Erc20
import Ghoststake.Chain.Uint
import Ghoststake.Library.Rounding

/-!
# ParimutuelRound

Stakes go into one pool per side of a round, the protocol takes a rake off the
top, and the winning side splits the rest. The oracle is whatever the market
was deployed over, and a settlement sink is whatever code a router has.
-/

namespace Ghoststake

set_option autoImplicit false

open Checked Rounding

namespace Market

inductive Side where
  | up | down
  deriving DecidableEq, Repr

/-- Storage state; the cutoff is a function of the clock. -/
inductive Status where
  | none | «open» | locked | resolved | void
  deriving DecidableEq, Repr

structure Round where
  openTime : Uint64
  lockTime : Uint64
  closeTime : Uint64
  status : Status
  /-- Meaningful only once resolved. -/
  winner : Side
  /-- The strike, set when the round is opened. -/
  lockPrice : Nat
  closePrice : Nat
  upPool : Nat
  downPool : Nat
  rakeTaken : Nat

def Round.unset : Round where
  openTime := Uint64.zero
  lockTime := Uint64.zero
  closeTime := Uint64.zero
  status := .none
  winner := .up
  lockPrice := 0
  closePrice := 0
  upPool := 0
  downPool := 0
  rakeTaken := 0

inductive Event (Address : Type) where
  | roundOpened (roundId : Nat) (openTime lockTime closeTime : Uint64)
  | roundStrikeSet (roundId strikePrice : Nat)
  | positionTaken (roundId : Nat) (user : Address) (side : Side) (amount : Nat)
      (funder : Address)
  | roundLocked (roundId lockPrice : Nat) (oracleRoundId : Uint80)
  | roundResolved (roundId closePrice : Nat) (winner : Side) (rakeTaken : Nat)
  | roundVoided (roundId : Nat) (reason : String)
  | claimed (roundId : Nat) (user : Address) (amount : Nat) (recipient : Address)
  | routerSet (router : Address) (allowed : Bool)
  | feesWithdrawn (target : Address) (amount : Nat)
  | access (event : AccessEvent Address)

/-- The part of storage that says who has what in which round. -/
structure Ledger (Address : Type) where
  roundCount : Nat
  rounds : Nat → Round
  stakeOf : Nat → Address → Side → Nat
  claimed : Nat → Address → Bool
  /-- Where the proceeds of a position go; zero for a user's own. -/
  settlementSinkOf : Nat → Address → Address
  protocolFees : Nat

structure State (Address : Type) extends
    Treasured Address, EntryPausable Address, Ledger Address where
  isRouter : Address → Bool
  logs : List (Event Address)

end Market

/-- The stake asset, the market and everything else there is at one block. -/
structure Exchange (Address Rest : Type) where
  timestamp : Nat
  token : Erc20 Address
  market : Market.State Address
  rest : Rest

namespace Exchange

variable {Address Rest : Type}

def emit (x : Exchange Address Rest) (event : Market.Event Address) : Exchange Address Rest :=
  { x with market := { x.market with logs := x.market.logs ++ [event] } }

def pay (x : Exchange Address Rest) (call : Erc20 Address → Outcome Address (Erc20 Address)) :
    Outcome Address (Exchange Address Rest) := do
  let token ← call x.token
  .ok { x with token := token }

def setMarket (x : Exchange Address Rest) (market : Market.State Address) :
    Exchange Address Rest := { x with market := market }

def setLedger (x : Exchange Address Rest) (ledger : Market.Ledger Address) :
    Exchange Address Rest := { x with market := { x.market with toLedger := ledger } }

end Exchange

namespace Market

variable {Address Rest : Type}

/-- 10%. -/
def maxRake : Nat := WAD / 10

structure Config (Address Rest : Type) [Zero Address] where
  /-- `address(this)`. -/
  address : Address
  /-- `oracle.readAt`, a view of the chain. -/
  readAt : Exchange Address Rest → Uint80 → Nat → Outcome Address (Bool × Nat)
  rake : Nat
  entryCutoff : Uint64
  lockWindow : Uint64
  resolveDeadline : Uint64
  minSidePool : Nat
  rake_le : rake ≤ maxRake
  min_side_pool_ne_zero : minSidePool ≠ 0
  entry_cutoff_ne_zero : entryCutoff.val ≠ 0
  lock_window_ne_zero : lockWindow.val ≠ 0
  resolve_deadline_ne_zero : resolveDeadline.val ≠ 0
  address_ne_zero : address ≠ 0

/-! ## Storage -/

section Storage

variable (ledger : Ledger Address) (roundId : Nat)

def Ledger.setRound (round : Round) : Ledger Address :=
  { ledger with rounds := Function.update ledger.rounds roundId round }

def Round.poolOf (round : Round) : Side → Nat
  | .up => round.upPool
  | .down => round.downPool

/-- `round.upPool += amount` or `round.downPool += amount`. -/
def Round.joined (round : Round) (side : Side) (amount : Nat) : Round :=
  match side with
  | .up => { round with upPool := round.upPool + amount }
  | .down => { round with downPool := round.downPool + amount }

def Ledger.opened (openTime lockTime closeTime : Uint64) (strikePrice : Nat) :
    Ledger Address :=
  let roundId := ledger.roundCount + 1
  let round : Round :=
    { ledger.rounds roundId with
      openTime := openTime
      lockTime := lockTime
      closeTime := closeTime
      status := .open
      lockPrice := strikePrice }
  { ledger.setRound roundId round with roundCount := roundId }

def Ledger.debitFees (amount : Nat) : Ledger Address :=
  { ledger with protocolFees := ledger.protocolFees - amount }

variable [DecidableEq Address]

def Ledger.addStake (user : Address) (side : Side) (amount : Nat) : Ledger Address :=
  { ledger with
    stakeOf := Function.update ledger.stakeOf roundId
      (Function.update (ledger.stakeOf roundId) user
        (Function.update (ledger.stakeOf roundId user) side
          (ledger.stakeOf roundId user side + amount))) }

def Ledger.setSink (user sink : Address) : Ledger Address :=
  { ledger with
    settlementSinkOf := Function.update ledger.settlementSinkOf roundId
      (Function.update (ledger.settlementSinkOf roundId) user sink) }

def Ledger.markClaimed (user : Address) : Ledger Address :=
  { ledger with
    claimed := Function.update ledger.claimed roundId
      (Function.update (ledger.claimed roundId) user true) }

end Storage

variable [Zero Address]

/-! ## Views -/

/-- `_cutoffAt`. Every open round is locked later than its cutoff. -/
def cutoffAt (cfg : Config Address Rest) (round : Round) : Nat :=
  round.lockTime.val - cfg.entryCutoff.val

def entryIsOpen (cfg : Config Address Rest) (x : Exchange Address Rest) (roundId : Nat) : Bool :=
  let round := x.market.rounds roundId
  round.status = .open ∧ round.openTime.val ≤ x.timestamp ∧ x.timestamp < cutoffAt cfg round

def phaseOf (cfg : Config Address Rest) (x : Exchange Address Rest) (roundId : Nat) : Phase :=
  match (x.market.rounds roundId).status with
  | .none => .none
  | .resolved => .resolved
  | .void => .void
  | .locked => .observation
  | .open => if entryIsOpen cfg x roundId then .open else .cutoff

def totalPool (ledger : Ledger Address) (roundId : Nat) : Nat :=
  (ledger.rounds roundId).upPool + (ledger.rounds roundId).downPool

def poolOf (ledger : Ledger Address) (roundId : Nat) (side : Side) : Nat :=
  (ledger.rounds roundId).poolOf side

/-- What a unit staked on the side would return if it won now; zero for an empty side. -/
def oddsOf (cfg : Config Address Rest) (ledger : Ledger Address) (roundId : Nat)
    (side : Side) : Nat :=
  let sidePool := poolOf ledger roundId side
  if sidePool = 0 then 0
  else
    let pool := totalPool ledger roundId
    mulDiv (pool - mulDiv pool cfg.rake WAD) WAD sidePool

/-- Both sides of a position. -/
def stakesOf (ledger : Ledger Address) (roundId : Nat) (user : Address) : Nat :=
  ledger.stakeOf roundId user .up + ledger.stakeOf roundId user .down

def shareOf (ledger : Ledger Address) (roundId : Nat) (user : Address) : Nat :=
  let round := ledger.rounds roundId
  if ledger.stakeOf roundId user round.winner = 0 then 0
  else mulDiv (totalPool ledger roundId - round.rakeTaken)
    (ledger.stakeOf roundId user round.winner) (round.poolOf round.winner)

/-- `claimableOf` past its first line, which is the flag. -/
def entitlementOf (ledger : Ledger Address) (roundId : Nat) (user : Address) : Nat :=
  match (ledger.rounds roundId).status with
  | .void => stakesOf ledger roundId user
  | .resolved => shareOf ledger roundId user
  | .none | .open | .locked => 0

def claimableOf (ledger : Ledger Address) (roundId : Nat) (user : Address) : Nat :=
  if ledger.claimed roundId user then 0 else entitlementOf ledger roundId user

variable [DecidableEq Address]

def recipientOf (ledger : Ledger Address) (roundId : Nat) (user : Address) : Address :=
  if ledger.settlementSinkOf roundId user = 0 then user
  else ledger.settlementSinkOf roundId user

/-! ## Lifecycle -/

/-- The two guards every transition of an existing round begins with. -/
def requireStatus (cfg : Config Address Rest) (x : Exchange Address Rest) (roundId : Nat)
    (status : Status) : Outcome Address Unit := do
  require ((x.market.rounds roundId).status ≠ .none) (.unknownRound roundId)
  require ((x.market.rounds roundId).status = status) (.wrongPhase roundId (phaseOf cfg x roundId))

/-- `revert TooEarly(roundId, deadline + 1)`, whose sum is checked. -/
def tooEarlyAfter (roundId : Nat) (deadline : Uint64) : Revert Address :=
  if deadline.val + 1 < 2 ^ 64 then .tooEarly roundId (deadline.val + 1) else .arithmetic

def openRound (cfg : Config Address Rest) (sender : Address)
    (openTime lockTime closeTime : Uint64) (strikePrice : Nat) (x : Exchange Address Rest) :
    Outcome Address (Exchange Address Rest) := do
  x.market.onlyOwner sender
  x.market.whenEntriesOpen
  require (x.timestamp ≤ openTime.val) .invalidSchedule
  let entryCloses ← Uint64.plus openTime cfg.entryCutoff
  require (entryCloses.val < lockTime.val) .invalidSchedule
  require (lockTime.val < closeTime.val) .invalidSchedule
  require (strikePrice ≠ 0) .invalidStrike
  let roundId := x.market.roundCount + 1
  let opened := x.market.toLedger.opened openTime lockTime closeTime strikePrice
  .ok (((x.setLedger opened).emit (.roundOpened roundId openTime lockTime closeTime)).emit
    (.roundStrikeSet roundId strikePrice))

/-- The sink is recorded with the first stake of a router. -/
def Ledger.recordSink (ledger : Ledger Address) (roundId : Nat) (user sink : Address) :
    Ledger Address :=
  if sink ≠ 0 ∧ stakesOf ledger roundId user = 0 then ledger.setSink roundId user sink
  else ledger

def Ledger.entered (ledger : Ledger Address) (roundId : Nat) (user : Address) (side : Side)
    (amount : Nat) (sink : Address) : Ledger Address :=
  ((ledger.recordSink roundId user sink).addStake roundId user side amount).setRound roundId
    ((ledger.rounds roundId).joined side amount)

def takePositionInternal (cfg : Config Address Rest) (roundId : Nat) (user : Address)
    (side : Side) (amount : Nat) (payer sink : Address) (x : Exchange Address Rest) :
    Outcome Address (Exchange Address Rest) := do
  x.market.whenEntriesOpen
  require (amount ≠ 0) .zeroAmount
  requireStatus cfg x roundId .open
  let round := x.market.rounds roundId
  require (round.openTime.val ≤ x.timestamp) (.tooEarly roundId round.openTime.val)
  require (x.timestamp < cutoffAt cfg round) (.entryClosed roundId (cutoffAt cfg round))
  -- one funding source per user per round
  require (¬(stakesOf x.market.toLedger roundId user ≠ 0 ∧
    x.market.settlementSinkOf roundId user ≠ sink)) (.mixedFunding roundId user)
  let entered := x.market.toLedger.entered roundId user side amount sink
  let x ← (x.setLedger entered).pay fun token =>
    token.transferFrom cfg.address payer cfg.address amount
  .ok (x.emit (.positionTaken roundId user side amount payer))

def takePosition (cfg : Config Address Rest) (sender : Address) (roundId : Nat) (side : Side)
    (amount : Nat) (x : Exchange Address Rest) : Outcome Address (Exchange Address Rest) :=
  takePositionInternal cfg roundId sender side amount sender 0 x

def takePositionFor (cfg : Config Address Rest) (sender : Address) (roundId : Nat)
    (user : Address) (side : Side) (amount : Nat) (x : Exchange Address Rest) :
    Outcome Address (Exchange Address Rest) := do
  require (x.market.isRouter sender = true) (.notRouter sender)
  require (user ≠ 0) .zeroAddress
  takePositionInternal cfg roundId user side amount sender sender x

def voidInternal (roundId : Nat) (round : Round) (reason : String)
    (x : Exchange Address Rest) : Exchange Address Rest :=
  (x.setLedger (x.market.toLedger.setRound roundId { round with status := .void })).emit
    (.roundVoided roundId reason)

/-- The end of `lockRound`, past the floor on the sides. -/
def lockInWindow (cfg : Config Address Rest) (roundId : Nat) (x : Exchange Address Rest) :
    Outcome Address (Exchange Address Rest) := do
  let round := x.market.rounds roundId
  let deadline ← Uint64.plus round.lockTime cfg.lockWindow
  .ok (if deadline.val < x.timestamp then voidInternal roundId round "lock window missed" x
    else
      (x.setLedger (x.market.toLedger.setRound roundId { round with status := .locked })).emit
        (.roundLocked roundId round.lockPrice Uint80.zero))

def lockRound (cfg : Config Address Rest) (roundId : Nat) (x : Exchange Address Rest) :
    Outcome Address (Exchange Address Rest) := do
  requireStatus cfg x roundId .open
  let round := x.market.rounds roundId
  require (round.lockTime.val ≤ x.timestamp) (.tooEarly roundId round.lockTime.val)
  -- a side that never filled voids for that reason, whatever the hour
  if round.upPool < cfg.minSidePool ∨ round.downPool < cfg.minSidePool then
    .ok (voidInternal roundId round "side below floor" x)
  else lockInWindow cfg roundId x

def Round.settled (round : Round) (price rakeTaken : Nat) : Round :=
  { round with
    status := .resolved
    closePrice := price
    winner := if round.lockPrice < price then .up else .down
    rakeTaken := rakeTaken }

def Ledger.settled (ledger : Ledger Address) (roundId price rakeTaken : Nat) : Ledger Address :=
  { ledger.setRound roundId ((ledger.rounds roundId).settled price rakeTaken) with
    protocolFees := ledger.protocolFees + rakeTaken }

/-- The end of `resolveRound`, once the price is known. -/
def settleAt (cfg : Config Address Rest) (roundId price : Nat) (x : Exchange Address Rest) :
    Exchange Address Rest :=
  let round := x.market.rounds roundId
  if price = round.lockPrice then
    -- an exact tie is nobody's win
    voidInternal roundId { round with closePrice := price } "tie" x
  else
    let rakeTaken := mulDiv (round.upPool + round.downPool) cfg.rake WAD
    (x.setLedger (x.market.toLedger.settled roundId price rakeTaken)).emit
      (.roundResolved roundId price (round.settled price rakeTaken).winner rakeTaken)

def resolveRound (cfg : Config Address Rest) (roundId : Nat) (closeOracleRoundId : Uint80)
    (x : Exchange Address Rest) : Outcome Address (Exchange Address Rest) := do
  requireStatus cfg x roundId .locked
  let round := x.market.rounds roundId
  require (round.closeTime.val ≤ x.timestamp) (.tooEarly roundId round.closeTime.val)
  let (answered, price) ← cfg.readAt x closeOracleRoundId round.closeTime.val
  -- always a revert, never a void: a wrong id must not buy a refund
  require (answered = true) (.oracleUnavailable roundId)
  .ok (settleAt cfg roundId price x)

def voidUnsettledRound (cfg : Config Address Rest) (sender : Address) (roundId : Nat)
    (x : Exchange Address Rest) : Outcome Address (Exchange Address Rest) := do
  x.market.onlyOwner sender
  requireStatus cfg x roundId .locked
  let round := x.market.rounds roundId
  let deadline ← Uint64.plus round.closeTime cfg.resolveDeadline
  require (deadline.val < x.timestamp) (tooEarlyAfter roundId deadline)
  .ok (voidInternal roundId round "unsettled past deadline" x)

def voidUnlockedRound (cfg : Config Address Rest) (roundId : Nat)
    (x : Exchange Address Rest) : Outcome Address (Exchange Address Rest) := do
  requireStatus cfg x roundId .open
  let round := x.market.rounds roundId
  let deadline ← Uint64.plus round.lockTime cfg.lockWindow
  require (deadline.val < x.timestamp) (tooEarlyAfter roundId deadline)
  .ok (voidInternal roundId round "never locked" x)

/-! ## Claims -/

/-- The code behind settlement sinks: what `onPositionSettled(user, amount)` on
an address does. -/
abbrev Sinks (Address Rest : Type) :=
  Address → Address → Nat → Exchange Address Rest → Outcome Address (Exchange Address Rest)

/-- `claim` as far as the transfer of the payout. -/
def payClaim (cfg : Config Address Rest) (roundId : Nat) (user : Address)
    (x : Exchange Address Rest) : Outcome Address (Exchange Address Rest) := do
  require ((x.market.rounds roundId).status ≠ .none) (.unknownRound roundId)
  require (x.market.claimed roundId user = false) (.alreadyClaimed roundId user)
  let amount := claimableOf x.market.toLedger roundId user
  require (amount ≠ 0) (.nothingToClaim roundId user)
  (x.setLedger (x.market.toLedger.markClaimed roundId user)).pay fun token =>
    token.move cfg.address (recipientOf x.market.toLedger roundId user) amount

/-- `if (address(sink) != address(0)) sink.onPositionSettled(user, amount)`. -/
def notifySink (sinks : Sinks Address Rest) (sink user : Address) (amount : Nat)
    (x : Exchange Address Rest) : Outcome Address (Exchange Address Rest) :=
  if sink ≠ 0 then sinks sink user amount x else .ok x

def claim (cfg : Config Address Rest) (sinks : Sinks Address Rest) (roundId : Nat)
    (user : Address) (x : Exchange Address Rest) : Outcome Address (Exchange Address Rest) := do
  let amount := claimableOf x.market.toLedger roundId user
  let paid ← payClaim cfg roundId user x
  let settled ← notifySink sinks (x.market.settlementSinkOf roundId user) user amount paid
  .ok (settled.emit (.claimed roundId user amount
    (recipientOf x.market.toLedger roundId user)))

/-! ## Administration -/

def setRouter (sender router : Address) (allowed : Bool)
    (x : Exchange Address Rest) : Outcome Address (Exchange Address Rest) := do
  x.market.onlyOwner sender
  require (router ≠ 0) .zeroAddress
  let market : State Address :=
    { x.market with isRouter := Function.update x.market.isRouter router allowed }
  .ok ((x.setMarket market).emit (.routerSet router allowed))

def withdrawFees (cfg : Config Address Rest) (sender : Address) (amount : Nat)
    (x : Exchange Address Rest) : Outcome Address (Exchange Address Rest) := do
  x.market.onlyOwner sender
  require (amount ≠ 0) .zeroAmount
  require (amount ≤ x.market.protocolFees) (.insufficientFees amount x.market.protocolFees)
  let target := x.market.treasury
  let x ← (x.setLedger (x.market.toLedger.debitFees amount)).pay fun token => token.move cfg.address target amount
  .ok (x.emit (.feesWithdrawn target amount))

def administer (sender : Address) (call : Treasured.Call Address)
    (x : Exchange Address Rest) : Outcome Address (Exchange Address Rest) := do
  let (access, event) ← x.market.toTreasured.exec sender call
  .ok ((x.setMarket { x.market with toTreasured := access }).emit (.access event))

def guard (sender : Address) (call : EntryPausable.Call Address)
    (x : Exchange Address Rest) : Outcome Address (Exchange Address Rest) := do
  let (access, event) ← x.market.toEntryPausable.exec sender call
  .ok ((x.setMarket { x.market with toEntryPausable := access }).emit (.access event))

/-! ## Dispatch -/

inductive Call (Address : Type) where
  | openRound (openTime lockTime closeTime : Uint64) (strikePrice : Nat)
  | takePosition (roundId : Nat) (side : Side) (amount : Nat)
  | takePositionFor (roundId : Nat) (user : Address) (side : Side) (amount : Nat)
  | lockRound (roundId : Nat)
  | resolveRound (roundId : Nat) (closeOracleRoundId : Uint80)
  | voidUnsettledRound (roundId : Nat)
  | voidUnlockedRound (roundId : Nat)
  | claim (roundId : Nat) (user : Address)
  | setRouter (router : Address) (allowed : Bool)
  | withdrawFees (amount : Nat)
  | administer (call : Treasured.Call Address)
  | guard (call : EntryPausable.Call Address)

def exec (cfg : Config Address Rest) (sinks : Sinks Address Rest) (sender : Address)
    (x : Exchange Address Rest) : Call Address → Outcome Address (Exchange Address Rest)
  | .openRound openTime lockTime closeTime strikePrice =>
      openRound cfg sender openTime lockTime closeTime strikePrice x
  | .takePosition roundId side amount => takePosition cfg sender roundId side amount x
  | .takePositionFor roundId user side amount =>
      takePositionFor cfg sender roundId user side amount x
  | .lockRound roundId => lockRound cfg roundId x
  | .resolveRound roundId closeOracleRoundId => resolveRound cfg roundId closeOracleRoundId x
  | .voidUnsettledRound roundId => voidUnsettledRound cfg sender roundId x
  | .voidUnlockedRound roundId => voidUnlockedRound cfg roundId x
  | .claim roundId user => claim cfg sinks roundId user x
  | .setRouter router allowed => setRouter sender router allowed x
  | .withdrawFees amount => withdrawFees cfg sender amount x
  | .administer call => administer sender call x
  | .guard call => guard sender call x

def deployed (access : Treasured Address) (pauseGuardian : Address) :
    State Address where
  toTreasured := access
  entriesPaused := false
  pauseGuardian := pauseGuardian
  roundCount := 0
  rounds _ := Round.unset
  stakeOf _ _ _ := 0
  claimed _ _ := false
  settlementSinkOf _ _ := 0
  isRouter _ := false
  protocolFees := 0
  logs := []

end Market

end Ghoststake
