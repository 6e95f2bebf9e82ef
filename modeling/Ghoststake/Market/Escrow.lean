import Ghoststake.Market.Model
import Ghoststake.Library.Machine

/-!
# The market as an escrow

What the market is for, without callers, allowances or calls: rounds that take
stakes, close, and pay out of the cash that came in. A transition of the escrow
is a `Turn`.
-/

namespace Ghoststake

set_option autoImplicit false

open Rounding

namespace Market

structure Terms where
  entryCutoff : Nat
  minSidePool : Nat
  rake : Nat
  min_side_pool_pos : 0 < minSidePool
  rake_le_wad : rake ≤ WAD

structure Position (Address : Type) where
  roundId : Nat
  user : Address
  side : Side
  amount : Nat
  funder : Address

structure Payout (Address : Type) where
  roundId : Nat
  user : Address
  amount : Nat
  recipient : Address

structure Escrow (Address : Type) where
  timestamp : Nat
  cash : Nat
  ledger : Ledger Address
  positions : List (Position Address)
  payouts : List (Payout Address)

variable {Address : Type} {terms : Terms} {answers : Nat → Nat → Prop}

def Ledger.setStatus (ledger : Ledger Address) (roundId : Nat) (status : Status) :
    Ledger Address :=
  ledger.setRound roundId { ledger.rounds roundId with status := status }

/-- A round void by a tie keeps the price it closed at. -/
def Ledger.tied (ledger : Ledger Address) (roundId : Nat) : Ledger Address :=
  ledger.setRound roundId
    { ledger.rounds roundId with
      closePrice := (ledger.rounds roundId).lockPrice
      status := .void }

/-- What can happen while a sink has control: nothing to a round there is. -/
inductive Quiet (terms : Terms) (e : Escrow Address) : Escrow Address → Prop
  | gains (cash : Nat) (more : e.cash ≤ cash) : Quiet terms e { e with cash := cash }
  | opens (openTime lockTime closeTime : Uint64) (strikePrice : Nat)
      (early : e.timestamp ≤ openTime.val)
      (window : openTime.val + terms.entryCutoff < lockTime.val)
      (span : lockTime.val < closeTime.val) (strike : strikePrice ≠ 0) :
      Quiet terms e
        { e with ledger := e.ledger.opened openTime lockTime closeTime strikePrice }

section Turns

variable [DecidableEq Address] [Zero Address]

/-- One transition, `answers at price` being what the oracle would say now. -/
inductive Turn (terms : Terms) (answers : Nat → Nat → Prop) (e : Escrow Address) :
    Escrow Address → Prop
  | quiet {next : Escrow Address} (turn : Quiet terms e next) : Turn terms answers e next
  | waits (seconds : Nat) :
      Turn terms answers e { e with timestamp := e.timestamp + seconds }
  | enters (roundId : Nat) (user : Address) (side : Side) (amount : Nat) (sink : Address)
      (cash : Nat) (status : (e.ledger.rounds roundId).status = .open)
      (inTime : e.timestamp < (e.ledger.rounds roundId).lockTime.val - terms.entryCutoff)
      (something : amount ≠ 0) (live : user ≠ 0)
      (single : stakesOf e.ledger roundId user = 0 ∨
        e.ledger.settlementSinkOf roundId user = sink)
      (received : e.cash + amount ≤ cash) :
      Turn terms answers e
        { e with
          cash := cash
          ledger := e.ledger.entered roundId user side amount sink
          positions := e.positions ++
            [⟨roundId, user, side, amount, if sink = 0 then user else sink⟩] }
  | locks (roundId : Nat) (status : (e.ledger.rounds roundId).status = .open)
      (late : (e.ledger.rounds roundId).lockTime.val ≤ e.timestamp)
      (floors : ∀ side, terms.minSidePool ≤ (e.ledger.rounds roundId).poolOf side) :
      Turn terms answers e
        { e with ledger := e.ledger.setStatus roundId .locked }
  | resolves (roundId price : Nat) (status : (e.ledger.rounds roundId).status = .locked)
      (late : (e.ledger.rounds roundId).closeTime.val ≤ e.timestamp)
      (answered : answers (e.ledger.rounds roundId).closeTime.val price)
      (decided : price ≠ (e.ledger.rounds roundId).lockPrice) :
      Turn terms answers e
        { e with
          ledger := e.ledger.settled roundId price
            (mulDiv (totalPool e.ledger roundId) terms.rake WAD) }
  | ties (roundId : Nat) (status : (e.ledger.rounds roundId).status = .locked)
      (late : (e.ledger.rounds roundId).closeTime.val ≤ e.timestamp)
      (answered : answers (e.ledger.rounds roundId).closeTime.val
        (e.ledger.rounds roundId).lockPrice) :
      Turn terms answers e
        { e with ledger := e.ledger.tied roundId }
  | voids (roundId : Nat)
      (status : (e.ledger.rounds roundId).status = .open ∨
        (e.ledger.rounds roundId).status = .locked)
      (late : (e.ledger.rounds roundId).status = .open →
        (e.ledger.rounds roundId).lockTime.val ≤ e.timestamp) :
      Turn terms answers e
        { e with ledger := e.ledger.setStatus roundId .void }
  | pays (roundId : Nat) (user : Address) (cash : Nat)
      (owed : claimableOf e.ledger roundId user ≠ 0)
      (paid : e.cash ≤ cash + claimableOf e.ledger roundId user) :
      Turn terms answers e
        { e with
          cash := cash
          ledger := e.ledger.markClaimed roundId user
          payouts := e.payouts ++
            [⟨roundId, user, claimableOf e.ledger roundId user,
              recipientOf e.ledger roundId user⟩] }
  | withdraws (amount cash : Nat) (within : amount ≤ e.ledger.protocolFees)
      (paid : e.cash ≤ cash + amount) :
      Turn terms answers e
        { e with
          cash := cash
          ledger := e.ledger.debitFees amount }

/-- What one transaction can do: a turn, or a payment and what its recipient
does with the control it is handed. -/
inductive Advance (terms : Terms) (answers : Nat → Nat → Prop) (e next : Escrow Address) : Prop
  | turn (turn : Turn terms answers e next)
  | claim {mid : Escrow Address} (turn : Turn terms answers e mid)
      (rounds : mid.ledger.rounds = e.ledger.rounds)
      (aside : Relation.ReflTransGen (Quiet terms) mid next)

end Turns

/-! ## One round of the ledger -/

section Slots

variable {before after : Ledger Address} {roundId : Nat}

structure SameSlot (before after : Ledger Address) (roundId : Nat) : Prop where
  rounds : after.rounds roundId = before.rounds roundId
  stakes : after.stakeOf roundId = before.stakeOf roundId
  claims : after.claimed roundId = before.claimed roundId
  sinks : after.settlementSinkOf roundId = before.settlementSinkOf roundId

theorem SameSlot.stakesOf_eq (same : SameSlot before after roundId) (user : Address) :
    stakesOf after roundId user = stakesOf before roundId user := by
  simp only [stakesOf, same.stakes]

theorem SameSlot.entitlement_eq (same : SameSlot before after roundId) (user : Address) :
    entitlementOf after roundId user = entitlementOf before roundId user := by
  simp only [entitlementOf, shareOf, totalPool, stakesOf, same.stakes, same.rounds]

theorem SameSlot.claimable_eq (same : SameSlot before after roundId) (user : Address) :
    claimableOf after roundId user = claimableOf before roundId user := by
  simp only [claimableOf, same.claims, same.entitlement_eq]

theorem SameSlot.recipient_eq [Zero Address] [DecidableEq Address]
    (same : SameSlot before after roundId) (user : Address) :
    recipientOf after roundId user = recipientOf before roundId user := by
  simp only [recipientOf, same.sinks]

end Slots

/-! ## What each write leaves -/

section Writes

variable (ledger : Ledger Address) (roundId : Nat)

theorem Round.joined_pool (round : Round) (side other : Side) (amount : Nat) :
    (round.joined side amount).poolOf other =
      round.poolOf other + if other = side then amount else 0 := by
  cases side <;> cases other <;> rfl

@[simp] theorem Round.joined_status (round : Round) (side : Side) (amount : Nat) :
    (round.joined side amount).status = round.status := by
  cases side <;> rfl

theorem Round.joined_schedule (round : Round) (side : Side) (amount : Nat) :
    (round.joined side amount).openTime = round.openTime ∧
      (round.joined side amount).lockTime = round.lockTime ∧
      (round.joined side amount).closeTime = round.closeTime ∧
      (round.joined side amount).lockPrice = round.lockPrice ∧
      (round.joined side amount).rakeTaken = round.rakeTaken := by
  cases side <;> exact ⟨rfl, rfl, rfl, rfl, rfl⟩

theorem Ledger.set_round_same (round : Round) :
    (ledger.setRound roundId round).rounds roundId = round := Function.update_self ..

theorem Ledger.set_round_other (round : Round) {other : Nat} (distinct : other ≠ roundId) :
    SameSlot ledger (ledger.setRound roundId round) other where
  rounds := Function.update_of_ne distinct ..
  stakes := rfl
  claims := rfl
  sinks := rfl

theorem Ledger.settled_other (price rakeTaken : Nat) {other : Nat} (distinct : other ≠ roundId) :
    SameSlot ledger (ledger.settled roundId price rakeTaken) other where
  rounds := Function.update_of_ne distinct ..
  stakes := rfl
  claims := rfl
  sinks := rfl

theorem Ledger.opened_other (openTime lockTime closeTime : Uint64) (strikePrice : Nat)
    {other : Nat} (distinct : other ≠ ledger.roundCount + 1) :
    SameSlot ledger (ledger.opened openTime lockTime closeTime strikePrice) other where
  rounds := Function.update_of_ne distinct ..
  stakes := rfl
  claims := rfl
  sinks := rfl

variable [DecidableEq Address]

theorem Ledger.mark_claimed_other (user : Address) {other : Nat} (distinct : other ≠ roundId) :
    SameSlot ledger (ledger.markClaimed roundId user) other where
  rounds := rfl
  stakes := rfl
  claims := Function.update_of_ne distinct ..
  sinks := rfl

theorem Ledger.mark_claimed_same (user : Address) :
    (ledger.markClaimed roundId user).claimed roundId =
      Function.update (ledger.claimed roundId) user true := Function.update_self ..

variable [Zero Address]

theorem Ledger.record_sink_fields (user sink : Address) :
    (ledger.recordSink roundId user sink).stakeOf = ledger.stakeOf ∧
      (ledger.recordSink roundId user sink).rounds = ledger.rounds ∧
      (ledger.recordSink roundId user sink).claimed = ledger.claimed ∧
      (ledger.recordSink roundId user sink).roundCount = ledger.roundCount ∧
      (ledger.recordSink roundId user sink).protocolFees = ledger.protocolFees := by
  unfold Ledger.recordSink
  split_ifs
  · exact ⟨rfl, rfl, rfl, rfl, rfl⟩
  · exact ⟨rfl, rfl, rfl, rfl, rfl⟩

variable (user : Address) (side : Side) (amount : Nat) (sink : Address)

theorem Ledger.entered_rounds :
    (ledger.entered roundId user side amount sink).rounds =
      Function.update ledger.rounds roundId ((ledger.rounds roundId).joined side amount) := by
  have fields := ledger.record_sink_fields roundId user sink
  simp only [Ledger.entered, Ledger.setRound, Ledger.addStake, fields.2.1]

theorem Ledger.entered_stakes :
    (ledger.entered roundId user side amount sink).stakeOf =
      Function.update ledger.stakeOf roundId
        (Function.update (ledger.stakeOf roundId) user
          (Function.update (ledger.stakeOf roundId user) side
            (ledger.stakeOf roundId user side + amount))) := by
  have fields := ledger.record_sink_fields roundId user sink
  simp only [Ledger.entered, Ledger.setRound, Ledger.addStake, fields.1]

theorem Ledger.entered_claimed :
    (ledger.entered roundId user side amount sink).claimed = ledger.claimed := by
  have fields := ledger.record_sink_fields roundId user sink
  exact fields.2.2.1

theorem Ledger.entered_count :
    (ledger.entered roundId user side amount sink).roundCount = ledger.roundCount :=
  (ledger.record_sink_fields roundId user sink).2.2.2.1

theorem Ledger.entered_fees :
    (ledger.entered roundId user side amount sink).protocolFees = ledger.protocolFees :=
  (ledger.record_sink_fields roundId user sink).2.2.2.2

/-- The sink is written with a first stake only, and then to the caller's. -/
theorem Ledger.entered_sinks :
    (ledger.entered roundId user side amount sink).settlementSinkOf =
      if sink ≠ 0 ∧ stakesOf ledger roundId user = 0 then
        (ledger.setSink roundId user sink).settlementSinkOf
      else ledger.settlementSinkOf := by
  simp only [Ledger.entered, Ledger.setRound, Ledger.addStake, Ledger.recordSink]
  split_ifs
  · rfl
  · rfl

theorem Ledger.entered_other {other : Nat} (distinct : other ≠ roundId) :
    SameSlot ledger (ledger.entered roundId user side amount sink) other where
  rounds := by rw [Ledger.entered_rounds, Function.update_of_ne distinct]
  stakes := by rw [Ledger.entered_stakes, Function.update_of_ne distinct]
  claims := by rw [Ledger.entered_claimed]
  sinks := by
    rw [Ledger.entered_sinks]
    split_ifs
    · exact Function.update_of_ne distinct ..
    · rfl

theorem Ledger.entered_stake (other : Address) (which : Side) :
    (ledger.entered roundId user side amount sink).stakeOf roundId other which =
      ledger.stakeOf roundId other which +
        if other = user ∧ which = side then amount else 0 := by
  rw [Ledger.entered_stakes, Function.update_self]
  by_cases sameUser : other = user
  · subst sameUser
    rw [Function.update_self]
    by_cases sameSide : which = side
    · subst sameSide
      simp
    · simp [sameSide]
  · simp [sameUser]

theorem Ledger.entered_stakesOf (other : Address) :
    stakesOf (ledger.entered roundId user side amount sink) roundId other =
      stakesOf ledger roundId other + if other = user then amount else 0 := by
  simp only [stakesOf, Ledger.entered_stake]
  cases side <;> by_cases same : other = user <;> simp [same] <;> omega

end Writes

end Market

end Ghoststake
