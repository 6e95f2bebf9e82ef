import Ghoststake.Market.Lifecycle

/-!
# Voids and refunds

The two ways to unwind a round that nobody could lock or settle, when exactly
they are open and to whom, and what becomes of the stakes in it: from then on
every staker who paid for himself is paid back what he staked, whatever else
goes on in between.
-/

namespace Ghoststake

set_option autoImplicit false

open Checked Rounding

namespace Market

variable {Address Rest : Type} [DecidableEq Address] [Zero Address]
  {terms : Terms} {answers : Nat → Nat → Prop} {e next : Escrow Address}
  {cfg : Config Address Rest} {x after : Exchange Address Rest} {roundId : Nat} {user : Address}
  {amount : Nat}

/-! ## When a round can be voided -/

omit [DecidableEq Address] in
theorem require_status_of {status : Status} (live : status ≠ .none)
    (same : (x.market.rounds roundId).status = status) :
    requireStatus cfg x roundId status = .ok () := by
  apply require_status_ok_iff.2
  constructor
  · rw [same]
    exact live
  · exact same

variable (Address) in
omit [Zero Address] [DecidableEq Address] in
theorem plus_of_fits {a b : Uint64} (fits : a.val + b.val < 2 ^ 64) :
    ∃ sum : Uint64, (Uint64.plus a b : Outcome Address Uint64) = .ok sum ∧
      sum.val = a.val + b.val := by
  refine ⟨⟨a.val + b.val, fits⟩, ?_, rfl⟩
  exact Uint64.plus_ok_iff.2 rfl

omit [DecidableEq Address] in
theorem void_unlocked_succeeds_iff
    (fits : (x.market.rounds roundId).lockTime.val + cfg.lockWindow.val < 2 ^ 64) :
    (∃ after, voidUnlockedRound cfg roundId x = .ok after) ↔
      (x.market.rounds roundId).status = .open ∧
        (x.market.rounds roundId).lockTime.val + cfg.lockWindow.val < x.timestamp := by
  constructor
  · intro ⟨after, ran⟩
    simp only [voidUnlockedRound, bind_ok_iff, require_ok_iff, exists_const,
      require_status_ok_iff, Uint64.plus_ok_iff] at ran
    obtain ⟨⟨_, status⟩, deadline, summed, past, _⟩ := ran
    exact ⟨status, summed ▸ past⟩
  · intro ⟨status, past⟩
    obtain ⟨deadline, summed, total⟩ := plus_of_fits Address fits
    apply bind_succeeds (require_status_of (by nofun) status)
    apply bind_succeeds summed
    apply bind_succeeds (require_of _ (total.trans_lt past))
    exact ⟨_, rfl⟩

theorem void_unsettled_succeeds_iff {sender : Address}
    (fits : (x.market.rounds roundId).closeTime.val + cfg.resolveDeadline.val < 2 ^ 64) :
    (∃ after, voidUnsettledRound cfg sender roundId x = .ok after) ↔
      sender = x.market.owner ∧ (x.market.rounds roundId).status = .locked ∧
        (x.market.rounds roundId).closeTime.val + cfg.resolveDeadline.val < x.timestamp := by
  constructor
  · intro ⟨after, ran⟩
    simp only [voidUnsettledRound, bind_ok_iff, require_ok_iff, exists_const,
      require_status_ok_iff, Uint64.plus_ok_iff, Treasured.onlyOwner] at ran
    obtain ⟨owned, ⟨_, status⟩, deadline, summed, past, _⟩ := ran
    exact ⟨owned, status, summed ▸ past⟩
  · intro ⟨owned, status, past⟩
    obtain ⟨deadline, summed, total⟩ := plus_of_fits Address fits
    apply bind_succeeds (require_of _ owned)
    apply bind_succeeds (require_status_of (by nofun) status)
    apply bind_succeeds summed
    apply bind_succeeds (require_of _ (total.trans_lt past))
    exact ⟨_, rfl⟩

/-! ## A stake in a void round -/

/-- What somebody who paid for himself has in a round that is void. -/
structure Refundable (ledger : Ledger Address) (roundId : Nat) (user : Address) (amount : Nat) :
    Prop where
  void : (ledger.rounds roundId).status = .void
  own : ledger.settlementSinkOf roundId user = 0
  staked : stakesOf ledger roundId user = amount

omit [DecidableEq Address] in
theorem Refundable.of_same_slot {ledger later : Ledger Address}
    (refund : Refundable ledger roundId user amount) (same : SameSlot ledger later roundId) :
    Refundable later roundId user amount where
  void := by
    rw [same.rounds]
    exact refund.void
  own := by
    rw [same.sinks]
    exact refund.own
  staked := (same.stakesOf_eq user).trans refund.staked

variable [Fintype Address]

theorem Refundable.turn (refund : Refundable e.ledger roundId user amount)
    (sound : e.ledger.Sound terms) (turn : Turn terms answers e next) :
    Refundable next.ledger roundId user amount := by
  have other {id : Nat} (running : (e.ledger.rounds id).status ≠ .void) : roundId ≠ id := by
    intro same
    exact running (same ▸ refund.void)
  cases turn with
  | quiet turn =>
      cases turn with
      | gains cash more => exact refund
      | opens openTime lockTime closeTime strikePrice =>
          have unused : (e.ledger.rounds (e.ledger.roundCount + 1)).status = .none :=
            (sound.counted _).2 (.inr (Nat.lt_succ_self _))
          apply refund.of_same_slot
          apply e.ledger.opened_other openTime lockTime closeTime strikePrice
          apply other
          rw [unused]
          nofun
  | waits seconds => exact refund
  | enters id entrant side staked sink cash status =>
      apply refund.of_same_slot
      apply e.ledger.entered_other
      apply other
      rw [status]
      nofun
  | locks id status =>
      apply refund.of_same_slot
      apply e.ledger.set_round_other
      apply other
      rw [status]
      nofun
  | resolves id price status =>
      apply refund.of_same_slot
      apply e.ledger.settled_other
      apply other
      rw [status]
      nofun
  | ties id status =>
      apply refund.of_same_slot
      apply e.ledger.set_round_other
      apply other
      rw [status]
      nofun
  | voids id status =>
      apply refund.of_same_slot
      apply e.ledger.set_round_other
      apply other
      rcases status with status | status <;> rw [status] <;> nofun
  | pays id holder => exact ⟨refund.void, refund.own, refund.staked⟩
  | withdraws => exact ⟨refund.void, refund.own, refund.staked⟩

theorem Refundable.advance (refund : Refundable e.ledger roundId user amount)
    (kept : e.Kept terms) (advance : Advance terms answers e next) :
    Refundable next.ledger roundId user amount := by
  cases advance with
  | turn turn => exact refund.turn kept.sound turn
  | @claim mid turn _ asides =>
      have midKept := kept.turn turn
      have midRefund := refund.turn kept.sound turn
      clear refund turn
      induction asides with
      | refl => exact midRefund
      | tail before quiet ih =>
          have turn : Turn terms answers _ _ := .quiet quiet
          exact ih.turn (midKept.asides before).sound turn

/-- A refund stays due, as it was, whatever happens next. -/
theorem Refundable.path {later : Exchange Address Rest} (kept : (escrowOf cfg x).Kept cfg.terms)
    (housed : Housed cfg x) (refund : Refundable x.market.toLedger roundId user amount)
    (path : (machine cfg).Path x later) :
    (escrowOf cfg later).Kept cfg.terms ∧ Housed cfg later ∧
      Refundable later.market.toLedger roundId user amount := by
  induction path with
  | refl => exact ⟨kept, housed, refund⟩
  | tail _ taken ih =>
      obtain ⟨action, taken⟩ := taken
      obtain ⟨kept, housed, refund⟩ := ih
      obtain ⟨advance, stillHoused⟩ := advance_of_step housed taken
      have still : Refundable (escrowOf cfg _).ledger roundId user amount :=
        refund.advance kept advance
      exact ⟨kept.advance advance, stillHoused, still⟩

omit [Fintype Address] [DecidableEq Address] in
theorem Refundable.claimable (refund : Refundable x.market.toLedger roundId user amount)
    (unclaimed : x.market.claimed roundId user = false) :
    claimableOf x.market.toLedger roundId user = amount := by
  rw [claimable_of_unclaimed unclaimed, entitlement_of_void refund.void]
  exact refund.staked

/-- Nobody is told of a refund to its own staker, so nobody can stop it. -/
theorem Refundable.claims (kept : (escrowOf cfg x).Kept cfg.terms)
    (refund : Refundable x.market.toLedger roundId user amount) (something : amount ≠ 0)
    (unclaimed : x.market.claimed roundId user = false) (sinks : Sinks Address Rest) :
    ∃ after, claim cfg sinks roundId user x = .ok after ∧
      x.token.move cfg.address user amount = .ok after.token ∧
      payoutsOf after = payoutsOf x ++ [⟨roundId, user, amount, user⟩] := by
  have owed := refund.claimable unclaimed
  have recipient : recipientOf x.market.toLedger roundId user = user := if_pos refund.own
  obtain ⟨paid, pays⟩ := pays_claim kept (owed.symm ▸ something)
  have payment := pay_claim_ok pays
  have silent : notifySink sinks (x.market.settlementSinkOf roundId user) user amount paid =
      .ok paid := by
    unfold notifySink
    rw [if_neg (not_not.2 refund.own)]
  refine ⟨paid.emit (.claimed roundId user amount user), ?_, ?_, ?_⟩
  · unfold claim
    rw [pays, ok_bind, owed, silent, ok_bind, recipient]
  · have moved := payment.moved
    rw [owed, recipient] at moved
    exact moved
  · unfold payoutsOf Exchange.emit
    rw [payment.market, List.filterMap_append]
    rfl

/-- What a refund comes to: paid already, or paid when next asked for. -/
structure Refunded (cfg : Config Address Rest) (later : Exchange Address Rest) (roundId : Nat)
    (user : Address) (amount : Nat) : Prop where
  paid : later.market.claimed roundId user = true →
    paidTo (payoutsOf later) roundId user = [amount]
  pays : later.market.claimed roundId user = false → ∀ sinks sender, ∃ after,
    exec cfg sinks sender later (.claim roundId user) = .ok after ∧
      later.token.move cfg.address user amount = .ok after.token ∧
      paidTo (payoutsOf after) roundId user = [amount]

theorem Refundable.refunded (kept : (escrowOf cfg x).Kept cfg.terms)
    (refund : Refundable x.market.toLedger roundId user amount) (something : amount ≠ 0) :
    Refunded cfg x roundId user amount := by
  have settled : paidTo (payoutsOf x) roundId user =
      if x.market.claimed roundId user then [entitlementOf x.market.toLedger roundId user]
      else [] := kept.settled roundId user
  constructor
  · intro claimed
    rw [settled, if_pos claimed, entitlement_of_void refund.void, refund.staked]
  · intro unclaimed sinks sender
    obtain ⟨after, ran, moved, payouts⟩ := refund.claims kept something unclaimed sinks
    refine ⟨after, ran, moved, ?_⟩
    rw [payouts, paid_to_append, settled, unclaimed]
    simp

/-! ## No oracle traps a stake -/

/-- What the market announced `user` to have put into a round, on both sides. -/
def depositsOf (x : Exchange Address Rest) (roundId : Nat) (user : Address) : Nat :=
  stakedIn (positionsOf x) roundId user .up + stakedIn (positionsOf x) roundId user .down

theorem stakes_eq_deposits (kept : (escrowOf cfg x).Kept cfg.terms) :
    stakesOf x.market.toLedger roundId user = depositsOf x roundId user := by
  have up : x.market.stakeOf roundId user .up = stakedIn (positionsOf x) roundId user .up :=
    kept.announced roundId user .up
  have down : x.market.stakeOf roundId user .down = stakedIn (positionsOf x) roundId user .down :=
    kept.announced roundId user .down
  unfold stakesOf depositsOf
  rw [up, down]

omit [Fintype Address] [DecidableEq Address] in
theorem void_of_unlocked (ran : voidUnlockedRound cfg roundId x = .ok after) :
    ∃ reason, after = voidInternal roundId (x.market.rounds roundId) reason x := by
  simp only [voidUnlockedRound, bind_ok_iff, require_ok_iff, exists_const,
    require_status_ok_iff, Except.ok.injEq] at ran
  obtain ⟨_, deadline, _, _, same⟩ := ran
  exact ⟨_, same.symm⟩

omit [Fintype Address] in
theorem void_of_unsettled {sender : Address}
    (ran : voidUnsettledRound cfg sender roundId x = .ok after) :
    ∃ reason, after = voidInternal roundId (x.market.rounds roundId) reason x := by
  simp only [voidUnsettledRound, bind_ok_iff, require_ok_iff, exists_const,
    require_status_ok_iff, Except.ok.injEq] at ran
  obtain ⟨_, _, _, deadline, _, _, same⟩ := ran
  exact ⟨_, same.symm⟩

omit [Fintype Address] [DecidableEq Address] in
theorem Refundable.of_void (reason : String) (own : x.market.settlementSinkOf roundId user = 0) :
    Refundable (voidInternal roundId (x.market.rounds roundId) reason x).market.toLedger
      roundId user (stakesOf x.market.toLedger roundId user) where
  void := congrArg Round.status (Ledger.set_round_same ..)
  own := own
  staked := rfl

/-- The two ways out of a round depend on the clock, the status and, for a
locked round, the owner, and never on the oracle; and once either is taken
every staker who paid for himself gets back what he put in, whatever is done
with the market before and after. -/
theorem voids_release_the_stakes (cfg : Config Address Rest) (x : Exchange Address Rest)
    (reached : (machine cfg).Reachable x) (roundId : Nat) :
    ((x.market.rounds roundId).lockTime.val + cfg.lockWindow.val < 2 ^ 64 →
      ∀ sinks sender, (∃ after, exec cfg sinks sender x (.voidUnlockedRound roundId) = .ok after) ↔
        (x.market.rounds roundId).status = .open ∧
          (x.market.rounds roundId).lockTime.val + cfg.lockWindow.val < x.timestamp) ∧
    ((x.market.rounds roundId).closeTime.val + cfg.resolveDeadline.val < 2 ^ 64 →
      ∀ sinks sender,
        (∃ after, exec cfg sinks sender x (.voidUnsettledRound roundId) = .ok after) ↔
          sender = x.market.owner ∧ (x.market.rounds roundId).status = .locked ∧
            (x.market.rounds roundId).closeTime.val + cfg.resolveDeadline.val < x.timestamp) ∧
    (∀ readAt sinks sender,
      exec { cfg with readAt := readAt } sinks sender x (.voidUnlockedRound roundId) =
          exec cfg sinks sender x (.voidUnlockedRound roundId) ∧
        exec { cfg with readAt := readAt } sinks sender x (.voidUnsettledRound roundId) =
          exec cfg sinks sender x (.voidUnsettledRound roundId)) ∧
    ∀ sinks sender voided,
      exec cfg sinks sender x (.voidUnlockedRound roundId) = .ok voided ∨
        exec cfg sinks sender x (.voidUnsettledRound roundId) = .ok voided →
      ∀ user, x.market.settlementSinkOf roundId user = 0 → depositsOf x roundId user ≠ 0 →
        ∀ later, (machine cfg).Path voided later →
          Refunded cfg later roundId user (depositsOf x roundId user) := by
  obtain ⟨kept, housed⟩ := kept_of_reachable reached
  refine ⟨?_, ?_, ?_, ?_⟩
  · intro fits sinks sender
    exact void_unlocked_succeeds_iff fits
  · intro fits sinks sender
    exact void_unsettled_succeeds_iff fits
  · intro readAt sinks sender
    exact ⟨rfl, rfl⟩
  · intro sinks sender voided ran user own something later path
    have unwound : ((escrowOf cfg voided).Kept cfg.terms ∧ Housed cfg voided) ∧
        ∃ reason, voided = voidInternal roundId (x.market.rounds roundId) reason x := by
      rcases ran with ran | ran
      · obtain ⟨turn, still⟩ := turn_of_void_unlocked_round ran
        exact ⟨⟨kept.turn turn, housed.still still⟩, void_of_unlocked ran⟩
      · obtain ⟨turn, still⟩ := turn_of_void_unsettled_round ran
        exact ⟨⟨kept.turn turn, housed.still still⟩, void_of_unsettled ran⟩
    obtain ⟨⟨voidedKept, voidedHoused⟩, reason, same⟩ := unwound
    have refund : Refundable voided.market.toLedger roundId user (depositsOf x roundId user) := by
      rw [← stakes_eq_deposits kept, same]
      exact .of_void reason own
    obtain ⟨laterKept, _, due⟩ := refund.path voidedKept voidedHoused path
    exact due.refunded laterKept something

/-! ## An oracle that answers nobody -/

section Blind

def blindMarket : Config (Fin 8) Unit :=
  { smallMarket with readAt := fun _ _ _ => .error .external }

theorem blind_market_deployed : Deployed blindMarket freshMarket :=
  ⟨fresh_market_deployed.fresh, fresh_market_deployed.unapproved⟩

/-- Two stakes in a round that is locked and can no longer be settled. -/
def stuckRun : List (Visit (Fin 8)) :=
  [.market 6 (.openRound ⟨0, Figures.zero_fits⟩ ⟨100, Figures.hundred_fits⟩ ⟨200, Figures.two_hundred_fits⟩ 100),
    .market 1 (.takePosition 1 .up 100), .market 2 (.takePosition 1 .down 60), .wait 100,
    .market 4 (.lockRound 1), .wait 201]

/-- Its owner voids it, and both stakers are paid back. -/
theorem blind_round_is_refunded :
    ∃ x voided : Exchange (Fin 8) Unit,
      (∀ closeOracleRoundId after, resolveRound blindMarket 1 closeOracleRoundId x ≠ .ok after) ∧
      exec blindMarket noSinks 6 x (.voidUnsettledRound 1) = .ok voided ∧
      ∀ later, (machine blindMarket).Path voided later →
        Refunded blindMarket later 1 1 100 ∧ Refunded blindMarket later 1 2 60 := by
  obtain ⟨x, reached, checked⟩ := reachable_of_replay blindMarket blind_market_deployed stuckRun
    (fun x => x.market.owner = 6 ∧ (x.market.rounds 1).status = .locked ∧
      (x.market.rounds 1).closeTime.val + blindMarket.resolveDeadline.val < x.timestamp ∧
      (x.market.rounds 1).closeTime.val = 200 ∧ x.market.settlementSinkOf 1 1 = 0 ∧
      x.market.settlementSinkOf 1 2 = 0 ∧ depositsOf x 1 1 = 100 ∧ depositsOf x 1 2 = 60)
    (by decide) (by decide +kernel)
  obtain ⟨owner, locked, past, closes, ownOne, ownTwo, first, second⟩ := of_decide_eq_true checked
  obtain ⟨_, unsettled, _, released⟩ := voids_release_the_stakes blindMarket x reached 1
  have fits : (x.market.rounds 1).closeTime.val + blindMarket.resolveDeadline.val < 2 ^ 64 := by
    rw [closes]
    decide
  obtain ⟨voided, ran⟩ := (unsettled fits noSinks 6).2 ⟨owner.symm, locked, past⟩
  have back := released noSinks 6 voided (.inr ran)
  refine ⟨x, voided, ?_, ran, ?_⟩
  · intro closeOracleRoundId after resolved
    obtain ⟨_, price, read, _⟩ := resolve_round_ok resolved
    cases read
  · intro later path
    have one := back 1 ownOne (by rw [first]; decide) later path
    have two := back 2 ownTwo (by rw [second]; decide) later path
    rw [first] at one
    rw [second] at two
    exact ⟨one, two⟩

/-- Without an owner nobody is left to void it. -/
theorem blind_round_without_owner :
    ∃ x : Exchange (Fin 8) Unit, (machine blindMarket).Reachable x ∧
      (x.market.rounds 1).status = .locked ∧
      (x.market.rounds 1).closeTime.val + blindMarket.resolveDeadline.val < x.timestamp ∧
      (x.market.rounds 1).closeTime.val + blindMarket.resolveDeadline.val < 2 ^ 64 ∧
      depositsOf x 1 1 = 100 ∧
      (∀ closeOracleRoundId after, resolveRound blindMarket 1 closeOracleRoundId x ≠ .ok after) ∧
      ∀ sinks sender after, sender ≠ 0 →
        exec blindMarket sinks sender x (.voidUnsettledRound 1) ≠ .ok after := by
  obtain ⟨x, reached, checked⟩ := reachable_of_replay blindMarket blind_market_deployed
    (stuckRun ++ [.market 6 (.administer .renounceOwnership)])
    (fun x => x.market.owner = 0 ∧ (x.market.rounds 1).status = .locked ∧
      (x.market.rounds 1).closeTime.val + blindMarket.resolveDeadline.val < x.timestamp ∧
      (x.market.rounds 1).closeTime.val = 200 ∧ depositsOf x 1 1 = 100)
    (by decide) (by decide +kernel)
  obtain ⟨nobody, locked, past, closes, staked⟩ := of_decide_eq_true checked
  have fits : (x.market.rounds 1).closeTime.val + blindMarket.resolveDeadline.val < 2 ^ 64 := by
    rw [closes]
    decide
  refine ⟨x, reached, locked, past, fits, staked, ?_, ?_⟩
  · intro closeOracleRoundId after resolved
    obtain ⟨_, price, read, _⟩ := resolve_round_ok resolved
    cases read
  · intro sinks sender after live ran
    obtain ⟨owned, _⟩ := (void_unsettled_succeeds_iff fits).1 ⟨after, ran⟩
    exact live (owned.trans nobody)

end Blind

end Market

end Ghoststake
