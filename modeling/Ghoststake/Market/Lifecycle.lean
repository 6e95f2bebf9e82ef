import Ghoststake.Market.Covered
import Ghoststake.Market.Traces

/-!
# What is frozen in a round, and when

The ways a turn can write a round, and from them: the order of the statuses,
the schedule and strike that never change, and the pools and stakes that do
not change from the cutoff on.
-/

namespace Ghoststake

set_option autoImplicit false

open Checked Rounding

namespace Market

variable {Address Rest : Type} [DecidableEq Address] [Zero Address]
  {terms : Terms} {answers : Nat → Nat → Prop} {e next : Escrow Address}

/-! ## The ways to write a round -/

def Status.Follows (before : Status) : Status → Prop
  | .none => before = .none
  | .open => before = .none ∨ before = .open
  | .locked => before = .open ∨ before = .locked
  | .resolved => before = .locked ∨ before = .resolved
  | .void => before = .open ∨ before = .locked ∨ before = .void

theorem Status.Follows.refl (status : Status) : status.Follows status := by
  cases status <;> simp [Status.Follows]

structure Round.SameQuestion (before after : Round) : Prop where
  openTime : after.openTime = before.openTime
  lockTime : after.lockTime = before.lockTime
  closeTime : after.closeTime = before.closeTime
  lockPrice : after.lockPrice = before.lockPrice

theorem Round.SameQuestion.refl (round : Round) : round.SameQuestion round :=
  ⟨rfl, rfl, rfl, rfl⟩

theorem Round.SameQuestion.trans {a b c : Round} (left : a.SameQuestion b)
    (right : b.SameQuestion c) : a.SameQuestion c where
  openTime := right.openTime.trans left.openTime
  lockTime := right.lockTime.trans left.lockTime
  closeTime := right.closeTime.trans left.closeTime
  lockPrice := right.lockPrice.trans left.lockPrice

/-- What stays of a round there is: the question, and from the cutoff on the
pools and the stakes. -/
structure Round.Holds (terms : Terms) (e next : Escrow Address) (roundId : Nat) : Prop where
  live : (e.ledger.rounds roundId).status ≠ .none →
    (next.ledger.rounds roundId).status ≠ .none
  question : (e.ledger.rounds roundId).status ≠ .none →
    (e.ledger.rounds roundId).SameQuestion (next.ledger.rounds roundId)
  pools : (e.ledger.rounds roundId).status ≠ .none →
    (e.ledger.rounds roundId).lockTime.val - terms.entryCutoff ≤ e.timestamp →
    (∀ side, (next.ledger.rounds roundId).poolOf side = (e.ledger.rounds roundId).poolOf side) ∧
      next.ledger.stakeOf roundId = e.ledger.stakeOf roundId
  time : e.timestamp ≤ next.timestamp

section Slots

omit [DecidableEq Address] [Zero Address]

variable {roundId : Nat}

theorem Round.Holds.refl (e : Escrow Address) : Round.Holds terms e e roundId where
  live := id
  question _ := .refl _
  pools _ _ := ⟨fun _ => rfl, rfl⟩
  time := Nat.le_refl _

theorem Round.Holds.trans {mid : Escrow Address} (left : Round.Holds terms e mid roundId)
    (right : Round.Holds terms mid next roundId) : Round.Holds terms e next roundId where
  live := right.live ∘ left.live
  question live := (left.question live).trans (right.question (left.live live))
  pools := by
    intro live closed
    obtain ⟨pools, stakes⟩ := left.pools live closed
    have stillClosed : (mid.ledger.rounds roundId).lockTime.val - terms.entryCutoff ≤
        mid.timestamp := by
      rw [(left.question live).lockTime]
      exact closed.trans left.time
    obtain ⟨laterPools, laterStakes⟩ := right.pools (left.live live) stillClosed
    exact ⟨fun side => (laterPools side).trans (pools side), laterStakes.trans stakes⟩
  time := left.time.trans right.time

/-- What a turn can do to one round and its stakes. -/
structure Round.Written (terms : Terms) (e next : Escrow Address) (roundId : Nat) : Prop where
  follows : (e.ledger.rounds roundId).status.Follows (next.ledger.rounds roundId).status
  holds : Round.Holds terms e next roundId

theorem Round.Written.of_same_slot (same : SameSlot e.ledger next.ledger roundId)
    (time : e.timestamp ≤ next.timestamp) : Round.Written terms e next roundId := by
  have status := congrArg Round.status same.rounds
  constructor
  · rw [status]
    exact .refl _
  · constructor
    · rw [status]
      exact id
    · intro _
      rw [same.rounds]
      exact .refl _
    · intro _ _
      rw [same.rounds]
      exact ⟨fun _ => rfl, same.stakes⟩
    · exact time

theorem Round.Written.of_round {round : Round}
    (written : next.ledger.rounds roundId = round) (live : round.status ≠ .none)
    (follows : (e.ledger.rounds roundId).status.Follows round.status)
    (question : (e.ledger.rounds roundId).SameQuestion round)
    (pools : ∀ side, round.poolOf side = (e.ledger.rounds roundId).poolOf side)
    (stakes : next.ledger.stakeOf = e.ledger.stakeOf) (time : next.timestamp = e.timestamp) :
    Round.Written terms e next roundId := by
  constructor
  · rw [written]
    exact follows
  · constructor
    · intro _
      rw [written]
      exact live
    · intro _
      rw [written]
      exact question
    · intro _ _
      rw [written, stakes]
      exact ⟨pools, rfl⟩
    · exact time.ge

end Slots

section Turns

variable [Fintype Address]

omit [DecidableEq Address] in
theorem written_of_quiet (sound : e.ledger.Sound terms) (turn : Quiet terms e next)
    (roundId : Nat) : Round.Written terms e next roundId := by
  cases turn with
  | gains cash more => exact .of_same_slot ⟨rfl, rfl, rfl, rfl⟩ (Nat.le_refl _)
  | opens openTime lockTime closeTime strikePrice early window span strike =>
      by_cases same : roundId = e.ledger.roundCount + 1
      · subst same
        have unused : (e.ledger.rounds (e.ledger.roundCount + 1)).status = .none :=
          (sound.counted _).2 (.inr (Nat.lt_succ_self _))
        constructor
        · rw [unused]
          simp [Ledger.opened, Ledger.setRound, Status.Follows]
        · constructor
          · intro live
            exact absurd unused live
          · intro live
            exact absurd unused live
          · intro live
            exact absurd unused live
          · exact Nat.le_refl _
      · exact .of_same_slot (e.ledger.opened_other openTime lockTime closeTime strikePrice same)
          (Nat.le_refl _)

theorem written_of_turn (sound : e.ledger.Sound terms) (turn : Turn terms answers e next)
    (roundId : Nat) : Round.Written terms e next roundId := by
  cases turn with
  | quiet turn => exact written_of_quiet sound turn roundId
  | waits seconds => exact .of_same_slot ⟨rfl, rfl, rfl, rfl⟩ (Nat.le_add_right _ _)
  | enters id user side amount sink cash status inTime something live single received =>
      by_cases same : roundId = id
      · subst same
        obtain ⟨opens, locks, closes, strikes, _⟩ :=
          (e.ledger.rounds roundId).joined_schedule side amount
        have written : (e.ledger.entered roundId user side amount sink).rounds roundId =
            (e.ledger.rounds roundId).joined side amount := by
          rw [Ledger.entered_rounds, Function.update_self]
        constructor
        · rw [written, Round.joined_status]
          exact .refl _
        · constructor
          · intro live
            rw [written, Round.joined_status]
            exact live
          · intro _
            rw [written]
            exact ⟨opens, locks, closes, strikes⟩
          · intro _ closed
            exact absurd inTime (not_lt.2 closed)
          · exact Nat.le_refl _
      · exact .of_same_slot (e.ledger.entered_other id user side amount sink same) (Nat.le_refl _)
  | locks id status late floors =>
      by_cases same : roundId = id
      · subst same
        refine .of_round (Ledger.set_round_same ..) (by nofun) ?_ ⟨rfl, rfl, rfl, rfl⟩ (fun _ => rfl) rfl rfl
        rw [status]
        exact .inl rfl
      · exact .of_same_slot (e.ledger.set_round_other id _ same) (Nat.le_refl _)
  | resolves id price status late answered decided =>
      by_cases same : roundId = id
      · subst same
        refine .of_round (Function.update_self ..) (by nofun) ?_ ⟨rfl, rfl, rfl, rfl⟩ ?_ rfl rfl
        · rw [status]
          exact .inl rfl
        · intro side
          cases side <;> rfl
      · exact .of_same_slot (e.ledger.settled_other id price _ same) (Nat.le_refl _)
  | ties id status late answered =>
      by_cases same : roundId = id
      · subst same
        refine .of_round (Ledger.set_round_same ..) (by nofun) ?_ ⟨rfl, rfl, rfl, rfl⟩ ?_ rfl rfl
        · rw [status]
          exact .inr (.inl rfl)
        · intro side
          cases side <;> rfl
      · exact .of_same_slot (e.ledger.set_round_other id _ same) (Nat.le_refl _)
  | voids id status late =>
      by_cases same : roundId = id
      · subst same
        refine .of_round (Ledger.set_round_same ..) (by nofun) ?_ ⟨rfl, rfl, rfl, rfl⟩ (fun _ => rfl) rfl rfl
        rcases status with status | status
        · rw [status]
          exact .inl rfl
        · rw [status]
          exact .inr (.inl rfl)
      · exact .of_same_slot (e.ledger.set_round_other id _ same) (Nat.le_refl _)
  | pays id user cash owed paid =>
      exact ⟨.refl _, fun live => live, fun _ => .refl _, fun _ _ => ⟨fun _ => rfl, rfl⟩, Nat.le_refl _⟩
  | withdraws amount cash within paid =>
      exact .of_same_slot ⟨rfl, rfl, rfl, rfl⟩ (Nat.le_refl _)

theorem written_of_asides (kept : e.Kept terms)
    (asides : Relation.ReflTransGen (Quiet terms) e next) (roundId : Nat) :
    Round.Holds terms e next roundId ∧
      ((next.ledger.rounds roundId).status = (e.ledger.rounds roundId).status ∨
        (e.ledger.rounds roundId).status = .none ∧
          (next.ledger.rounds roundId).status = .open) := by
  induction asides with
  | refl => exact ⟨.refl e, .inl rfl⟩
  | @tail mid final before quiet ih =>
      obtain ⟨holds, statuses⟩ := ih
      have written := written_of_quiet (kept.asides before).sound quiet roundId
      refine ⟨holds.trans written.holds, ?_⟩
      cases quiet with
      | gains cash more => exact statuses
      | opens openTime lockTime closeTime strikePrice early window span strike =>
          by_cases same : roundId = mid.ledger.roundCount + 1
          · subst same
            have unused : (mid.ledger.rounds (mid.ledger.roundCount + 1)).status = .none :=
              ((kept.asides before).sound.counted _).2 (.inr (Nat.lt_succ_self _))
            have isOpen : ((mid.ledger.opened openTime lockTime closeTime strikePrice).rounds
                (mid.ledger.roundCount + 1)).status = .open := by
              simp [Ledger.opened, Ledger.setRound]
            refine .inr ⟨?_, isOpen⟩
            rcases statuses with same | ⟨none, _⟩
            · exact same.symm.trans unused
            · exact none
          · rw [(mid.ledger.opened_other openTime lockTime closeTime strikePrice same).rounds]
            exact statuses

theorem written_of_advance (kept : e.Kept terms) (advance : Advance terms answers e next)
    (roundId : Nat) : Round.Written terms e next roundId := by
  cases advance with
  | turn turn => exact written_of_turn kept.sound turn roundId
  | @claim mid turn rounds asides =>
      have first := written_of_turn kept.sound turn roundId
      obtain ⟨holds, statuses⟩ := written_of_asides (kept.turn turn) asides roundId
      refine ⟨?_, first.holds.trans holds⟩
      rw [rounds] at statuses
      rcases statuses with same | ⟨none, isOpen⟩
      · rw [same]
        exact .refl _
      · rw [isOpen]
        exact .inl none

omit [Fintype Address] in
/-- A funding source outlives any number of turns. -/
theorem recipient_of_advance {roundId : Nat} {user : Address}
    (advance : Advance terms answers e next)
    (staked : stakesOf e.ledger roundId user ≠ 0) :
    stakesOf next.ledger roundId user ≠ 0 ∧
      recipientOf next.ledger roundId user = recipientOf e.ledger roundId user := by
  cases advance with
  | turn turn => exact recipient_of_turn turn staked
  | @claim mid turn _ asides =>
      obtain ⟨midStaked, midSame⟩ := recipient_of_turn turn staked
      rw [← midSame]
      clear turn midSame staked
      induction asides with
      | refl => exact ⟨midStaked, rfl⟩
      | @tail last final before quiet ih =>
          obtain ⟨lastStaked, lastSame⟩ := ih
          have turn : Turn terms answers last final := .quiet quiet
          obtain ⟨finalStaked, finalSame⟩ := recipient_of_turn turn lastStaked
          exact ⟨finalStaked, finalSame.trans lastSame⟩

end Turns

/-! ## Along a run -/

section Runs

variable [Fintype Address] {cfg : Config Address Rest} {x later : Exchange Address Rest}

def positionsOf (x : Exchange Address Rest) : List (Position Address) :=
  x.market.logs.filterMap Event.position

theorem holds_of_path (reached : (machine cfg).Reachable x) (path : (machine cfg).Path x later)
    (roundId : Nat) :
    Round.Holds cfg.terms (escrowOf cfg x) (escrowOf cfg later) roundId ∧
      ∀ user, stakesOf x.market.toLedger roundId user ≠ 0 →
        stakesOf later.market.toLedger roundId user ≠ 0 ∧
          recipientOf later.market.toLedger roundId user =
            recipientOf x.market.toLedger roundId user := by
  induction path with
  | refl =>
      refine ⟨.refl _, ?_⟩
      intro user staked
      exact ⟨staked, rfl⟩
  | tail before taken ih =>
      obtain ⟨action, taken⟩ := taken
      obtain ⟨holds, sources⟩ := ih
      obtain ⟨kept, housed⟩ := kept_of_reachable (reached.path before)
      obtain ⟨advance, _⟩ := advance_of_step housed taken
      refine ⟨holds.trans (written_of_advance kept advance roundId).holds, ?_⟩
      intro user staked
      obtain ⟨midStaked, midSame⟩ := sources user staked
      obtain ⟨laterStaked, laterSame⟩ := recipient_of_advance advance midStaked
      exact ⟨laterStaked, laterSame.trans midSame⟩

omit [Fintype Address] in
theorem locked_of_advance {roundId : Nat} (advance : Advance terms answers e next)
    (locked : (next.ledger.rounds roundId).status = .locked)
    (before : (e.ledger.rounds roundId).status = .locked) :
    next.ledger.rounds roundId = e.ledger.rounds roundId := by
  cases advance with
  | turn turn => exact locked_of_turn turn locked before
  | @claim mid turn rounds asides =>
      rw [← rounds] at before ⊢
      clear turn rounds
      induction asides with
      | refl => rfl
      | @tail last final _ quiet ih =>
          have turn : Turn terms answers last final := .quiet quiet
          have waiting : (last.ledger.rounds roundId).status = .locked := by
            cases quiet with
            | gains cash more => exact locked
            | opens openTime lockTime closeTime strikePrice =>
                by_cases same : roundId = last.ledger.roundCount + 1
                · subst same
                  simp [Ledger.opened, Ledger.setRound] at locked
                · rwa [(last.ledger.opened_other openTime lockTime closeTime strikePrice
                    same).rounds] at locked
          exact (locked_of_turn turn locked waiting).trans (ih waiting)

/-- A round locked at both ends of a run is the same at both. -/
theorem locked_of_path (reached : (machine cfg).Reachable x) (path : (machine cfg).Path x later)
    {roundId : Nat} (before : (x.market.rounds roundId).status = .locked) :
    later.market.rounds roundId = x.market.rounds roundId ∨
      (later.market.rounds roundId).status = .resolved ∨
      (later.market.rounds roundId).status = .void := by
  induction path with
  | refl => exact .inl rfl
  | @tail mid final run taken ih =>
      obtain ⟨action, taken⟩ := taken
      obtain ⟨kept, housed⟩ := kept_of_reachable (reached.path run)
      obtain ⟨advance, _⟩ := advance_of_step housed taken
      have follows : (mid.market.rounds roundId).status.Follows
          (final.market.rounds roundId).status := (written_of_advance kept advance roundId).follows
      rcases ih with same | ended
      · have midLocked : (mid.market.rounds roundId).status = .locked := by
          rw [same]
          exact before
        rw [midLocked] at follows
        cases status : (final.market.rounds roundId).status with
        | locked => exact .inl ((locked_of_advance advance status midLocked).trans same)
        | resolved => exact .inr (.inl rfl)
        | void => exact .inr (.inr rfl)
        | none =>
            rw [status] at follows
            cases follows
        | «open» =>
            rw [status] at follows
            rcases follows with impossible | impossible <;> cases impossible
      · right
        cases status : (final.market.rounds roundId).status with
        | resolved => exact .inl rfl
        | void => exact .inr rfl
        | none =>
            rw [status] at follows
            rcases ended with ended | ended <;> cases ended.symm.trans follows
        | «open» =>
            rw [status] at follows
            rcases ended with ended | ended <;> rcases follows with follows | follows <;>
              cases ended.symm.trans follows
        | locked =>
            rw [status] at follows
            rcases ended with ended | ended <;> rcases follows with follows | follows <;>
              cases ended.symm.trans follows

/-- A round moves forward only; its schedule and strike are fixed when it is
opened and its pools and stakes from the cutoff on; it resolves only over two
pools at the floor; and every stake of a user in it came from one account,
which is the only one its payouts go to. -/
theorem round_lifecycle_freeze (cfg : Config Address Rest) (x : Exchange Address Rest)
    (reached : (machine cfg).Reachable x) :
    (∀ action after, (machine cfg).step x action after → ∀ roundId,
      (x.market.rounds roundId).status.Follows (after.market.rounds roundId).status) ∧
    (∀ later, (machine cfg).Path x later → ∀ roundId,
      (x.market.rounds roundId).status ≠ .none →
      (x.market.rounds roundId).SameQuestion (later.market.rounds roundId) ∧
      (cutoffAt cfg (x.market.rounds roundId) ≤ x.timestamp →
        (later.market.rounds roundId).upPool = (x.market.rounds roundId).upPool ∧
        (later.market.rounds roundId).downPool = (x.market.rounds roundId).downPool ∧
        later.market.stakeOf roundId = x.market.stakeOf roundId) ∧
      ∀ user, stakesOf x.market.toLedger roundId user ≠ 0 →
        recipientOf later.market.toLedger roundId user =
          recipientOf x.market.toLedger roundId user) ∧
    (∀ roundId,
      (x.market.rounds roundId).upPool = ∑ user, x.market.stakeOf roundId user .up ∧
      (x.market.rounds roundId).downPool = ∑ user, x.market.stakeOf roundId user .down ∧
      ((x.market.rounds roundId).status = .resolved → 0 < cfg.minSidePool ∧
        cfg.minSidePool ≤ (x.market.rounds roundId).upPool ∧
        cfg.minSidePool ≤ (x.market.rounds roundId).downPool) ∧
      ((x.market.rounds roundId).status ≠ .resolved →
        (x.market.rounds roundId).rakeTaken = 0)) ∧
    (∀ roundId user side,
      x.market.stakeOf roundId user side = stakedIn (positionsOf x) roundId user side) ∧
    (∀ position ∈ positionsOf x, position.funder =
      recipientOf x.market.toLedger position.roundId position.user) ∧
    (∀ payout ∈ payoutsOf x, payout.recipient =
      recipientOf x.market.toLedger payout.roundId payout.user) ∧
    ∀ sinks roundId user after, claim cfg sinks roundId user x = .ok after →
      ∃ paid, payClaim cfg roundId user x = .ok paid ∧
        x.token.move cfg.address (recipientOf x.market.toLedger roundId user)
          (claimableOf x.market.toLedger roundId user) = .ok paid.token := by
  obtain ⟨kept, housed⟩ := kept_of_reachable reached
  refine ⟨?_, ?_, ?_, kept.announced, fun position member => (kept.sourced.1 position member).2,
    fun payout member => (kept.sourced.2 payout member).2, ?_⟩
  · intro action after taken roundId
    obtain ⟨advance, _⟩ := advance_of_step housed taken
    exact (written_of_advance kept advance roundId).follows
  · intro later path roundId live
    obtain ⟨holds, sources⟩ := holds_of_path reached path roundId
    refine ⟨holds.question live, ?_, fun user staked => (sources user staked).2⟩
    intro closed
    obtain ⟨pools, stakes⟩ := holds.pools live closed
    exact ⟨pools .up, pools .down, stakes⟩
  · intro roundId
    have sound := kept.sound.rounds roundId
    refine ⟨sound.pools .up, sound.pools .down, ?_, ?_⟩
    · intro resolved
      exact ⟨cfg.terms.min_side_pool_pos, sound.floors (.inr resolved) .up,
        sound.floors (.inr resolved) .down⟩
    · intro unresolved
      exact sound.raked.trans (if_neg unresolved)
  · intro sinks roundId user after ran
    obtain ⟨paid, settled, pays, _, _⟩ := claim_ok ran
    exact ⟨paid, pays, (pay_claim_ok pays).moved⟩

end Runs

/-- Nothing that comes after the cutoff of a round moves its pools. -/
theorem settled_round_stays_put :
    ∃ x : Exchange (Fin 8) Unit,
      (∀ later, (machine smallMarket).Path x later →
        (later.market.rounds 1).lockPrice = 100 ∧
        (later.market.rounds 1).upPool = 150 ∧ (later.market.rounds 1).downPool = 60 ∧
        recipientOf later.market.toLedger 1 3 = 3) ∧
      (x.market.rounds 1).upPool = ∑ user, x.market.stakeOf 1 user .up ∧
      5 ≤ (x.market.rounds 1).upPool ∧ 0 < (x.market.rounds 1).rakeTaken := by
  obtain ⟨x, reached, checked⟩ := reachable_of_visits settledRun
    (fun x => (x.market.rounds 1).status = .resolved ∧ (x.market.rounds 1).lockPrice = 100 ∧
      (x.market.rounds 1).upPool = 150 ∧ (x.market.rounds 1).downPool = 60 ∧
      cutoffAt smallMarket (x.market.rounds 1) ≤ x.timestamp ∧
      stakesOf x.market.toLedger 1 3 ≠ 0 ∧ recipientOf x.market.toLedger 1 3 = 3 ∧
      0 < (x.market.rounds 1).rakeTaken)
    (by decide) (by decide +kernel)
  obtain ⟨resolved, strike, upPool, downPool, closed, staked, recipient, raked⟩ :=
    of_decide_eq_true checked
  obtain ⟨_, frozen, pools, _⟩ := round_lifecycle_freeze smallMarket x reached
  obtain ⟨upSum, _, floors, _⟩ := pools 1
  refine ⟨x, ?_, upSum, (floors resolved).2.1, raked⟩
  intro later path
  have live : (x.market.rounds 1).status ≠ .none := by
    rw [resolved]
    nofun
  obtain ⟨question, pools, sources⟩ := frozen later path 1 live
  obtain ⟨up, down, _⟩ := pools closed
  exact ⟨question.lockPrice.trans strike, up.trans upPool, down.trans downPool,
    (sources 3 staked).trans recipient⟩

end Market

end Ghoststake
