import Ghoststake.Market.Escrow
import Mathlib

/-!
# What every round satisfies

`Ledger.RoundSound` holds of the empty round and survives every turn, of
whichever round the turn is.
-/

namespace Ghoststake

set_option autoImplicit false

open Rounding

namespace Market

variable {Address : Type} {terms : Terms} {answers : Nat → Nat → Prop}

section Soundness

variable [Fintype Address] [Zero Address]

structure Ledger.RoundSound (terms : Terms) (ledger : Ledger Address) (roundId : Nat) :
    Prop where
  pools : ∀ side, (ledger.rounds roundId).poolOf side =
    ∑ user, ledger.stakeOf roundId user side
  blank : (ledger.rounds roundId).status = .none → ∀ user, stakesOf ledger roundId user = 0
  unclaimed : (ledger.rounds roundId).status ≠ .void →
    (ledger.rounds roundId).status ≠ .resolved →
    ∀ user, ledger.claimed roundId user = false
  floors : (ledger.rounds roundId).status = .locked ∨
      (ledger.rounds roundId).status = .resolved →
    ∀ side, terms.minSidePool ≤ (ledger.rounds roundId).poolOf side
  raked : (ledger.rounds roundId).rakeTaken =
    if (ledger.rounds roundId).status = .resolved then
      mulDiv (totalPool ledger roundId) terms.rake WAD
    else 0
  schedule : (ledger.rounds roundId).status ≠ .none →
    (ledger.rounds roundId).openTime.val + terms.entryCutoff <
        (ledger.rounds roundId).lockTime.val ∧
      (ledger.rounds roundId).lockTime.val < (ledger.rounds roundId).closeTime.val
  sourced : ∀ user, ledger.settlementSinkOf roundId user ≠ 0 →
    stakesOf ledger roundId user ≠ 0
  nobody : stakesOf ledger roundId 0 = 0

structure Ledger.Sound (terms : Terms) (ledger : Ledger Address) : Prop where
  rounds : ∀ roundId, ledger.RoundSound terms roundId
  counted : ∀ roundId, (ledger.rounds roundId).status = .none ↔
    roundId = 0 ∨ ledger.roundCount < roundId

variable {ledger after : Ledger Address} {roundId : Nat}

omit [Fintype Address] [Zero Address] in
theorem total_pool_eq (ledger : Ledger Address) (roundId : Nat) :
    totalPool ledger roundId =
      (ledger.rounds roundId).poolOf .up + (ledger.rounds roundId).poolOf .down := rfl

theorem Ledger.RoundSound.of_same_slot (sound : ledger.RoundSound terms roundId)
    (same : SameSlot ledger after roundId) : after.RoundSound terms roundId := by
  have stakes := same.stakesOf_eq
  constructor
  · intro side
    rw [same.rounds, same.stakes]
    exact sound.pools side
  · intro none user
    rw [same.rounds] at none
    rw [stakes]
    exact sound.blank none user
  · intro notVoid notResolved user
    rw [same.rounds] at notVoid notResolved
    rw [same.claims]
    exact sound.unclaimed notVoid notResolved user
  · intro closed side
    rw [same.rounds] at closed ⊢
    exact sound.floors closed side
  · rw [totalPool, same.rounds]
    exact sound.raked
  · intro live
    rw [same.rounds] at live ⊢
    exact sound.schedule live
  · intro user routed
    rw [same.sinks] at routed
    rw [stakes]
    exact sound.sourced user routed
  · rw [stakes]
    exact sound.nobody

/-- Both sides of every position are in the pools. -/
theorem Ledger.RoundSound.total (sound : ledger.RoundSound terms roundId) :
    totalPool ledger roundId = ∑ user, stakesOf ledger roundId user := by
  rw [total_pool_eq, sound.pools, sound.pools, ← Finset.sum_add_distrib]
  rfl

theorem Ledger.RoundSound.unraked (sound : ledger.RoundSound terms roundId)
    (running : (ledger.rounds roundId).status = .open ∨ (ledger.rounds roundId).status = .locked) :
    (ledger.rounds roundId).rakeTaken = 0 := by
  have raked := sound.raked
  rw [if_neg] at raked
  · exact raked
  · rcases running with running | running <;> rw [running] <;> decide

/-- A round that moves on in place: pools and schedule stay. -/
theorem Ledger.RoundSound.moves_on (sound : ledger.RoundSound terms roundId)
    (running : (ledger.rounds roundId).status = .open ∨ (ledger.rounds roundId).status = .locked)
    {round : Round} (pools : ∀ side, round.poolOf side = (ledger.rounds roundId).poolOf side)
    (openTime : round.openTime = (ledger.rounds roundId).openTime)
    (lockTime : round.lockTime = (ledger.rounds roundId).lockTime)
    (closeTime : round.closeTime = (ledger.rounds roundId).closeTime)
    (status : round.status ≠ .none)
    (floors : round.status = .locked ∨ round.status = .resolved →
      ∀ side, terms.minSidePool ≤ (ledger.rounds roundId).poolOf side)
    (raked : round.rakeTaken =
      if round.status = .resolved then mulDiv (totalPool ledger roundId) terms.rake WAD else 0)
    (written : after.rounds roundId = round) (stakes : after.stakeOf = ledger.stakeOf)
    (claims : after.claimed = ledger.claimed)
    (sinks : after.settlementSinkOf = ledger.settlementSinkOf) :
    after.RoundSound terms roundId := by
  have bothStakes : ∀ user, stakesOf after roundId user = stakesOf ledger roundId user := by
    intro user
    simp only [stakesOf, stakes]
  have live : (ledger.rounds roundId).status ≠ .none := by
    rcases running with running | running <;> rw [running] <;> decide
  have total : totalPool after roundId = totalPool ledger roundId := by
    rw [total_pool_eq, total_pool_eq, written, pools, pools]
  constructor
  · intro side
    rw [written, pools, stakes]
    exact sound.pools side
  · intro none
    rw [written] at none
    exact absurd none status
  · intro _ _ user
    rw [claims]
    apply sound.unclaimed
    · rcases running with running | running <;> rw [running] <;> decide
    · rcases running with running | running <;> rw [running] <;> decide
  · intro closed side
    rw [written] at closed ⊢
    rw [pools]
    exact floors closed side
  · rw [total, written]
    exact raked
  · intro _
    rw [written, openTime, lockTime, closeTime]
    exact sound.schedule live
  · intro user routed
    rw [sinks] at routed
    rw [bothStakes]
    exact sound.sourced user routed
  · rw [bothStakes]
    exact sound.nobody

/-! ## Every turn keeps it -/

theorem Ledger.RoundSound.opened (sound : ledger.RoundSound terms roundId)
    (next : roundId = ledger.roundCount + 1) (unused : (ledger.rounds roundId).status = .none)
    {openTime lockTime closeTime : Uint64} (strikePrice : Nat)
    (window : openTime.val + terms.entryCutoff < lockTime.val)
    (span : lockTime.val < closeTime.val) :
    (ledger.opened openTime lockTime closeTime strikePrice).RoundSound terms roundId := by
  subst next
  have written : (ledger.opened openTime lockTime closeTime strikePrice).rounds
      (ledger.roundCount + 1) =
        { ledger.rounds (ledger.roundCount + 1) with
          openTime := openTime
          lockTime := lockTime
          closeTime := closeTime
          status := .open
          lockPrice := strikePrice } := Function.update_self ..
  have raked := sound.raked
  rw [if_neg (by rw [unused]; decide)] at raked
  constructor
  · intro side
    rw [written]
    exact sound.pools side
  · intro none
    rw [written] at none
    cases none
  · intro _ _ user
    exact sound.unclaimed (by rw [unused]; decide) (by rw [unused]; decide) user
  · intro closed
    rw [written] at closed
    rcases closed with closed | closed <;> cases closed
  · rw [written, if_neg]
    · exact raked
    · nofun
  · intro _
    rw [written]
    exact ⟨window, span⟩
  · exact sound.sourced
  · exact sound.nobody

omit [Zero Address] [Fintype Address] in
theorem counted_of_update (counted : ∀ id, (ledger.rounds id).status = .none ↔
      id = 0 ∨ ledger.roundCount < id)
    (count : after.roundCount = ledger.roundCount)
    (elsewhere : ∀ id, id ≠ roundId → after.rounds id = ledger.rounds id)
    (live : (ledger.rounds roundId).status ≠ .none)
    (stillLive : (after.rounds roundId).status ≠ .none) (id : Nat) :
    (after.rounds id).status = .none ↔ id = 0 ∨ after.roundCount < id := by
  rw [count]
  by_cases same : id = roundId
  · subst same
    constructor
    · intro none
      exact absurd none stillLive
    · intro outside
      exact absurd ((counted id).2 outside) live
  · rw [elsewhere id same]
    exact counted id

theorem Ledger.Sound.opened (sound : ledger.Sound terms)
    {openTime lockTime closeTime : Uint64} (strikePrice : Nat)
    (window : openTime.val + terms.entryCutoff < lockTime.val)
    (span : lockTime.val < closeTime.val) :
    (ledger.opened openTime lockTime closeTime strikePrice).Sound terms := by
  have elsewhere (id : Nat) (distinct : id ≠ ledger.roundCount + 1) :=
    ledger.opened_other openTime lockTime closeTime strikePrice distinct
  have unused : (ledger.rounds (ledger.roundCount + 1)).status = .none :=
    (sound.counted _).2 (.inr (Nat.lt_succ_self _))
  have count : (ledger.opened openTime lockTime closeTime strikePrice).roundCount =
      ledger.roundCount + 1 := rfl
  constructor
  · intro id
    by_cases same : id = ledger.roundCount + 1
    · subst same
      exact (sound.rounds _).opened rfl unused strikePrice window span
    · exact (sound.rounds id).of_same_slot (elsewhere id same)
  · intro id
    rw [count]
    by_cases same : id = ledger.roundCount + 1
    · subst same
      have isOpen : ((ledger.opened openTime lockTime closeTime strikePrice).rounds
          (ledger.roundCount + 1)).status = .open := by
        simp [Ledger.opened, Ledger.setRound]
      rw [isOpen]
      simp
    · rw [(elsewhere id same).rounds, sound.counted id]
      omega

theorem Ledger.Sound.of_slot (sound : ledger.Sound terms)
    (round : after.RoundSound terms roundId)
    (elsewhere : ∀ id, id ≠ roundId → SameSlot ledger after id)
    (count : after.roundCount = ledger.roundCount)
    (live : (ledger.rounds roundId).status ≠ .none)
    (stillLive : (after.rounds roundId).status ≠ .none) : after.Sound terms where
  rounds id := by
    by_cases same : id = roundId
    · subst same
      exact round
    · exact (sound.rounds id).of_same_slot (elsewhere id same)
  counted := counted_of_update sound.counted count
    (fun id distinct => (elsewhere id distinct).rounds) live stillLive

/-- A running round moves on, and nothing else changes but the fees. -/
theorem Ledger.Sound.moved_on (sound : ledger.Sound terms) (next : Ledger Address)
    (round : Round)
    (running : (ledger.rounds roundId).status = .open ∨ (ledger.rounds roundId).status = .locked)
    (pools : ∀ side, round.poolOf side = (ledger.rounds roundId).poolOf side)
    (openTime : round.openTime = (ledger.rounds roundId).openTime)
    (lockTime : round.lockTime = (ledger.rounds roundId).lockTime)
    (closeTime : round.closeTime = (ledger.rounds roundId).closeTime)
    (status : round.status ≠ .none)
    (floors : round.status = .locked ∨ round.status = .resolved →
      ∀ side, terms.minSidePool ≤ (ledger.rounds roundId).poolOf side)
    (raked : round.rakeTaken =
      if round.status = .resolved then mulDiv (totalPool ledger roundId) terms.rake WAD else 0)
    (written : next.rounds = Function.update ledger.rounds roundId round)
    (stakes : next.stakeOf = ledger.stakeOf) (claims : next.claimed = ledger.claimed)
    (sinks : next.settlementSinkOf = ledger.settlementSinkOf)
    (count : next.roundCount = ledger.roundCount) : next.Sound terms := by
  have here : next.rounds roundId = round := by
    rw [written, Function.update_self]
  apply sound.of_slot ((sound.rounds roundId).moves_on running pools openTime lockTime closeTime
    status floors raked here stakes claims sinks) _ count
  · rcases running with running | running <;> rw [running] <;> decide
  · rw [here]
    exact status
  · intro id distinct
    constructor
    · rw [written, Function.update_of_ne distinct]
    · rw [stakes]
    · rw [claims]
    · rw [sinks]

omit [Fintype Address] [Zero Address] in
/-- Something is claimable from settled rounds only. -/
theorem settled_of_claimable {user : Address} (owed : claimableOf ledger roundId user ≠ 0) :
    (ledger.rounds roundId).status = .void ∨ (ledger.rounds roundId).status = .resolved := by
  unfold claimableOf entitlementOf at owed
  cases status : (ledger.rounds roundId).status with
  | void => exact .inl rfl
  | resolved => exact .inr rfl
  | _ => simp [status] at owed

theorem Ledger.Sound.quiet {e next : Escrow Address} (sound : e.ledger.Sound terms)
    (turn : Quiet terms e next) : next.ledger.Sound terms := by
  cases turn with
  | gains cash more => exact sound
  | opens openTime lockTime closeTime strikePrice early window span strike =>
      exact sound.opened strikePrice window span

variable [DecidableEq Address]

theorem Ledger.RoundSound.entered (sound : ledger.RoundSound terms roundId)
    (status : (ledger.rounds roundId).status = .open) {user sink : Address} (side : Side)
    {amount : Nat} (something : amount ≠ 0) (live : user ≠ 0) :
    (ledger.entered roundId user side amount sink).RoundSound terms roundId := by
  have written : (ledger.entered roundId user side amount sink).rounds roundId =
      (ledger.rounds roundId).joined side amount := by
    rw [Ledger.entered_rounds, Function.update_self]
  obtain ⟨opens, locks, closes, _, rakes⟩ :=
    (ledger.rounds roundId).joined_schedule side amount
  have raked := sound.raked
  rw [if_neg (by rw [status]; decide)] at raked
  constructor
  · intro other
    rw [written, Round.joined_pool, sound.pools]
    simp only [Ledger.entered_stake, Finset.sum_add_distrib]
    by_cases same : other = side
    · simp [same]
    · simp [same]
  · intro none
    rw [written, Round.joined_status, status] at none
    cases none
  · intro _ _ other
    rw [Ledger.entered_claimed]
    exact sound.unclaimed (by rw [status]; decide) (by rw [status]; decide) other
  · intro closed
    rw [written, Round.joined_status, status] at closed
    rcases closed with closed | closed <;> cases closed
  · rw [written, Round.joined_status, rakes, if_neg (by rw [status]; decide)]
    exact raked
  · intro _
    rw [written, opens, locks, closes]
    exact sound.schedule (by rw [status]; decide)
  · intro other routed
    rw [Ledger.entered_stakesOf]
    by_cases same : other = user
    · rw [if_pos same]
      omega
    · rw [if_neg same, Nat.add_zero]
      apply sound.sourced
      rw [Ledger.entered_sinks] at routed
      split_ifs at routed
      · simpa [Ledger.setSink, same] using routed
      · exact routed
  · rw [Ledger.entered_stakesOf, if_neg live.symm, Nat.add_zero]
    exact sound.nobody

theorem Ledger.RoundSound.mark_claimed (sound : ledger.RoundSound terms roundId)
    {user : Address} (settled : (ledger.rounds roundId).status = .void ∨
      (ledger.rounds roundId).status = .resolved) :
    (ledger.markClaimed roundId user).RoundSound terms roundId where
  pools := sound.pools
  blank := sound.blank
  unclaimed := by
    intro notVoid notResolved
    rcases settled with settled | settled
    · exact absurd settled notVoid
    · exact absurd settled notResolved
  floors := sound.floors
  raked := sound.raked
  schedule := sound.schedule
  sourced := sound.sourced
  nobody := sound.nobody

theorem Ledger.Sound.turn {e next : Escrow Address} (sound : e.ledger.Sound terms)
    (turn : Turn terms answers e next) : next.ledger.Sound terms := by
  cases turn with
  | quiet turn => exact sound.quiet turn
  | waits seconds => exact sound
  | enters roundId user side amount sink cash status inTime something live single received =>
      apply sound.of_slot ((sound.rounds roundId).entered status side something live)
      · intro id distinct
        exact Ledger.entered_other _ _ _ _ _ _ distinct
      · exact Ledger.entered_count ..
      · rw [status]
        decide
      · rw [Ledger.entered_rounds, Function.update_self, Round.joined_status, status]
        decide
  | locks roundId status late floors =>
      apply sound.moved_on (e.ledger.setStatus roundId .locked)
        { e.ledger.rounds roundId with status := .locked } (.inl status) (fun _ => rfl) rfl rfl
        rfl _ (fun _ => floors) _ rfl rfl rfl rfl rfl
      · nofun
      · rw [if_neg]
        · exact (sound.rounds roundId).unraked (.inl status)
        · nofun
  | resolves roundId price status late answered decided =>
      apply sound.moved_on (e.ledger.settled roundId price
          (mulDiv (totalPool e.ledger roundId) terms.rake WAD))
        ((e.ledger.rounds roundId).settled price
          (mulDiv (totalPool e.ledger roundId) terms.rake WAD))
        (.inr status) _ rfl rfl rfl _ _ rfl rfl rfl rfl rfl rfl
      · intro side
        cases side <;> rfl
      · nofun
      · exact fun _ => (sound.rounds roundId).floors (.inl status)
  | ties roundId status late answered =>
      apply sound.moved_on (e.ledger.tied roundId)
        { e.ledger.rounds roundId with
          closePrice := (e.ledger.rounds roundId).lockPrice
          status := .void }
        (.inr status) _ rfl rfl rfl _ _ _ rfl rfl rfl rfl rfl
      · intro side
        cases side <;> rfl
      · nofun
      · nofun
      · rw [if_neg]
        · exact (sound.rounds roundId).unraked (.inr status)
        · nofun
  | voids roundId status late =>
      apply sound.moved_on (e.ledger.setStatus roundId .void)
        { e.ledger.rounds roundId with status := .void } status (fun _ => rfl) rfl rfl rfl _ _ _
        rfl rfl rfl rfl rfl
      · nofun
      · nofun
      · rw [if_neg]
        · exact (sound.rounds roundId).unraked status
        · nofun
  | pays roundId user cash owed paid =>
      have settled := settled_of_claimable owed
      have live : (e.ledger.rounds roundId).status ≠ .none := by
        rcases settled with settled | settled <;> rw [settled] <;> decide
      apply sound.of_slot ((sound.rounds roundId).mark_claimed settled) _ rfl live live
      intro id distinct
      exact Ledger.mark_claimed_other _ _ _ distinct
  | withdraws amount cash within paid =>
      constructor
      · intro id
        exact (sound.rounds id).of_same_slot ⟨rfl, rfl, rfl, rfl⟩
      · exact sound.counted

end Soundness

end Market

end Ghoststake
