import Ghoststake.Chain.Access
import Ghoststake.Chain.Erc20
import Ghoststake.Chain.Uint
import Ghoststake.Library.BondedClaim

/-!
# EventRoundOracle

The answer to a question no feed can answer: a bonded claim that becomes final
unless somebody matches the bond in time, and is then ruled on, or abandoned
when nobody rules.
-/

namespace Ghoststake

set_option autoImplicit false

open Checked

namespace EventOracle

/-- What a round on a question is opened with, and the two answers. -/
def STRIKE : Nat := 10 ^ 18

def YES : Nat := 2 * 10 ^ 18

def NO : Nat := 0

inductive EventOutcome where
  | none | yes | no
  deriving DecidableEq, Repr

inductive Event (Address : Type) where
  | proposed (proposer : Address) (outcome : EventOutcome) (evidenceURI : String)
      (evidenceDigest proposerStake : Nat) (challengeClosesAt : Uint64)
  | challenged (challenger : Address) (rulingDueAt : Uint64)
  | ruled (arbiter : Address) (outcome : EventOutcome) (paid : Address) (reasonURI : String)
  | finalised (outcome : EventOutcome)
  | abandoned (time : Uint64)
  | arbiterSet (previous next : Address)
  | marketSet (market : Address) (roundId : Nat)
  | access (event : AccessEvent Address)

structure State (Address : Type) extends Ownable Address where
  arbiter : Address
  state : EventState
  outcome : EventOutcome
  proposer : Address
  challenger : Address
  proposedAt : Uint64
  challengedAt : Uint64
  proposedOutcome : EventOutcome
  evidenceURI : String
  evidenceDigest : Nat
  proposerStake : Nat
  market : Address
  marketRoundId : Nat
  logs : List (Event Address)

structure Config (Address : Type) [Zero Address] where
  /-- `address(this)`. -/
  address : Address
  bond : Nat
  eventTime : Uint64
  challengeWindow : Uint64
  rulingDeadline : Uint64
  question : String
  criteriaDigest : Nat
  bond_ne_zero : bond ≠ 0
  challenge_window_ne_zero : challengeWindow.val ≠ 0
  ruling_deadline_ne_zero : rulingDeadline.val ≠ 0
  question_ne_empty : question ≠ ""
  criteria_digest_ne_zero : criteriaDigest ≠ 0
  address_ne_zero : address ≠ 0

end EventOracle

/-- A question and the asset of its bonds at one block, with what the contract
has moved of it so far. -/
structure Hearing (Address : Type) where
  timestamp : Nat
  bondAsset : Erc20 Address
  oracle : EventOracle.State Address
  moves : List (Movement Address)

namespace EventOracle

variable {Address : Type} [Zero Address]

def deployed (owner arbiter : Address) : State Address where
  owner := owner
  arbiter := arbiter
  state := .open
  outcome := .none
  proposer := 0
  challenger := 0
  proposedAt := Uint64.zero
  challengedAt := Uint64.zero
  proposedOutcome := .none
  evidenceURI := ""
  evidenceDigest := 0
  proposerStake := 0
  market := 0
  marketRoundId := 0
  logs := [.arbiterSet 0 arbiter]

/-! ## Views -/

def readLatest : Bool × Nat × Uint80 := (true, STRIKE, Uint80.zero)

/-- `readAt`, whose arguments are ignored. -/
def readAt (oracle : State Address) (_oracleRoundId : Uint80) (_at : Nat) : Bool × Nat :=
  if oracle.state ≠ .final then (false, 0)
  else (true, if oracle.outcome = .yes then YES else NO)

/-- What the named market says an account has on one side; nothing when the
call fails or answers with anything but a word. -/
abbrev Reply := Option Nat

def stakeOfSide (reply : Reply) : Nat := reply.getD 0

variable [DecidableEq Address]

/-- `_stakeOf`, whose sum is checked. -/
def stakeOf (oracle : State Address) (up down : Reply) : Outcome Address Nat :=
  if oracle.market = 0 then .ok 0
  else do
    require (stakeOfSide up + stakeOfSide down ≤ uint256Max) .arithmetic
    .ok (stakeOfSide up + stakeOfSide down)

/-! ## The claim -/

/-- `bondAsset.safeTransferFrom(msg.sender, address(this), bond)`. -/
def pullBond (cfg : Config Address) (sender : Address) (h : Hearing Address) :
    Outcome Address (Hearing Address) := do
  let token ← h.bondAsset.transferFrom cfg.address sender cfg.address cfg.bond
  .ok { h with bondAsset := token, moves := h.moves ++ [.posted sender cfg.bond] }

/-- `bondAsset.safeTransfer(target, amount)`. -/
def pushBond (cfg : Config Address) (target : Address) (amount : Nat) (h : Hearing Address) :
    Outcome Address (Hearing Address) := do
  let token ← h.bondAsset.move cfg.address target amount
  .ok { h with bondAsset := token, moves := h.moves ++ [.released target amount] }

def setOracle (h : Hearing Address) (oracle : State Address) : Hearing Address :=
  { h with oracle := oracle }

def emit (h : Hearing Address) (event : Event Address) : Hearing Address :=
  { h with oracle := { h.oracle with logs := h.oracle.logs ++ [event] } }

def requireState (h : Hearing Address) (state : EventState) : Outcome Address Unit :=
  require (h.oracle.state = state) (.wrongState h.oracle.state)

def State.claimed (oracle : State Address) (timestamp : Nat) (sender : Address)
    (outcome : EventOutcome) (evidenceURI : String) (evidenceDigest stake : Nat) :
    State Address :=
  { oracle with
    proposer := sender
    proposedOutcome := outcome
    evidenceURI := evidenceURI
    evidenceDigest := evidenceDigest
    proposedAt := Uint64.truncate timestamp
    proposerStake := stake
    state := .proposed }

def propose (cfg : Config Address) (sender : Address) (outcome : EventOutcome)
    (evidenceURI : String) (evidenceDigest : Nat) (up down : Reply) (h : Hearing Address) :
    Outcome Address (Hearing Address) := do
  requireState h .open
  require (outcome ≠ .none) .notAnOutcome
  require (cfg.eventTime.val ≤ h.timestamp) (.tooEarlyUntil cfg.eventTime.val)
  require (evidenceDigest ≠ 0) .invalidParameters
  let stake ← stakeOf h.oracle up down
  let h ← pullBond cfg sender
    (setOracle h (h.oracle.claimed h.timestamp sender outcome evidenceURI evidenceDigest stake))
  -- the sum in the event is checked too
  let closesAt ← Uint64.plus (Uint64.truncate h.timestamp) cfg.challengeWindow
  .ok (emit h (.proposed sender outcome evidenceURI evidenceDigest stake closesAt))

def State.contested (oracle : State Address) (timestamp : Nat) (sender : Address) :
    State Address :=
  { oracle with
    challenger := sender
    challengedAt := Uint64.truncate timestamp
    state := .challenged }

def challenge (cfg : Config Address) (sender : Address) (h : Hearing Address) :
    Outcome Address (Hearing Address) := do
  requireState h .proposed
  let closesAt ← Uint64.plus h.oracle.proposedAt cfg.challengeWindow
  require (h.timestamp < closesAt.val) (.notYet closesAt.val)
  let h ← pullBond cfg sender (setOracle h (h.oracle.contested h.timestamp sender))
  let dueAt ← Uint64.plus (Uint64.truncate h.timestamp) cfg.rulingDeadline
  .ok (emit h (.challenged sender dueAt))

def State.settled (oracle : State Address) (outcome : EventOutcome) : State Address :=
  { oracle with outcome := outcome, state := .final }

def finalise (cfg : Config Address) (h : Hearing Address) : Outcome Address (Hearing Address) := do
  requireState h .proposed
  let closesAt ← Uint64.plus h.oracle.proposedAt cfg.challengeWindow
  require (closesAt.val ≤ h.timestamp) (.notYet closesAt.val)
  let outcome := h.oracle.proposedOutcome
  let h ← pushBond cfg h.oracle.proposer cfg.bond (setOracle h (h.oracle.settled outcome))
  .ok (emit h (.finalised outcome))

def paidBy (oracle : State Address) (outcome : EventOutcome) : Address :=
  if outcome = oracle.proposedOutcome then oracle.proposer else oracle.challenger

def rule (cfg : Config Address) (sender : Address) (outcome : EventOutcome)
    (reasonURI : String) (h : Hearing Address) : Outcome Address (Hearing Address) := do
  require (sender = h.oracle.arbiter) (.notArbiter sender)
  requireState h .challenged
  require (outcome ≠ .none) .notAnOutcome
  let paid := paidBy h.oracle outcome
  let h ← pushBond cfg paid (cfg.bond * 2) (setOracle h (h.oracle.settled outcome))
  .ok (emit (emit h (.ruled sender outcome paid reasonURI)) (.finalised outcome))

def abandon (cfg : Config Address) (h : Hearing Address) : Outcome Address (Hearing Address) := do
  requireState h .challenged
  let dueAt ← Uint64.plus h.oracle.challengedAt cfg.rulingDeadline
  require (dueAt.val ≤ h.timestamp) (.notYet dueAt.val)
  let h := setOracle h { h.oracle with state := .abandoned }
  let h ← pushBond cfg h.oracle.proposer cfg.bond h
  let h ← pushBond cfg h.oracle.challenger cfg.bond h
  .ok (emit h (.abandoned (Uint64.truncate h.timestamp)))

/-! ## Owner -/

def setArbiter (sender next : Address) (h : Hearing Address) :
    Outcome Address (Hearing Address) := do
  h.oracle.onlyOwner sender
  require (next ≠ 0) .zeroAddress
  require (¬(h.oracle.state = .final ∨ h.oracle.state = .abandoned))
    (.wrongState h.oracle.state)
  let told := emit h (.arbiterSet h.oracle.arbiter next)
  .ok (setOracle told { told.oracle with arbiter := next })

def setMarket (sender market : Address) (roundId : Nat) (h : Hearing Address) :
    Outcome Address (Hearing Address) := do
  h.oracle.onlyOwner sender
  require (market ≠ 0) .zeroAddress
  require (roundId ≠ 0) .invalidParameters
  require (¬(h.oracle.state ≠ .open ∨ h.oracle.market ≠ 0)) (.wrongState h.oracle.state)
  .ok (emit (setOracle h { h.oracle with market := market, marketRoundId := roundId })
    (.marketSet market roundId))

def administer (sender : Address) (call : Ownable.Call Address) (h : Hearing Address) :
    Outcome Address (Hearing Address) := do
  let (access, event) ← h.oracle.toOwnable.exec sender call
  .ok (emit (setOracle h { h.oracle with toOwnable := access }) (.access event))

/-- The entry points. A proposal comes with what the named market answers. -/
inductive Call (Address : Type) where
  | propose (outcome : EventOutcome) (evidenceURI : String) (evidenceDigest : Nat)
      (up down : Reply)
  | challenge
  | finalise
  | rule (outcome : EventOutcome) (reasonURI : String)
  | abandon
  | setArbiter (next : Address)
  | setMarket (market : Address) (roundId : Nat)
  | administer (call : Ownable.Call Address)

def exec (cfg : Config Address) (sender : Address) (h : Hearing Address) :
    Call Address → Outcome Address (Hearing Address)
  | .propose outcome evidenceURI evidenceDigest up down =>
      propose cfg sender outcome evidenceURI evidenceDigest up down h
  | .challenge => challenge cfg sender h
  | .finalise => finalise cfg h
  | .rule outcome reasonURI => rule cfg sender outcome reasonURI h
  | .abandon => abandon cfg h
  | .setArbiter next => setArbiter sender next h
  | .setMarket market roundId => setMarket sender market roundId h
  | .administer call => administer sender call h

end EventOracle

end Ghoststake
