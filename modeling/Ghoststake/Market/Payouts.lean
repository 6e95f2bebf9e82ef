import Ghoststake.Market.Solvency

/-!
# Who was paid, and from where

The list of payouts against the flags: a user is in it for a round exactly
when the flag is set, once, with what was owed. And the list of stakes against
the sinks: all stakes of a user in a round came from one account, and what the
round pays for them goes back there.
-/

namespace Ghoststake

set_option autoImplicit false

open Rounding

namespace Market

variable {Address : Type} [DecidableEq Address] {terms : Terms} {answers : Nat → Nat → Prop}
  {ledger after : Ledger Address} {roundId : Nat} {user : Address}

/-! ## The list of payouts -/

def paidTo (payouts : List (Payout Address)) (roundId : Nat) (user : Address) : List Nat :=
  (payouts.filter fun payout => payout.roundId = roundId ∧ payout.user = user).map (·.amount)

def totalPaid (payouts : List (Payout Address)) (roundId : Nat) : Nat :=
  ((payouts.filter fun payout => payout.roundId = roundId).map (·.amount)).sum

theorem paid_to_append (payouts : List (Payout Address)) (payout : Payout Address)
    (roundId : Nat) (user : Address) :
    paidTo (payouts ++ [payout]) roundId user = paidTo payouts roundId user ++
      if payout.roundId = roundId ∧ payout.user = user then [payout.amount] else [] := by
  unfold paidTo
  rw [List.filter_append, List.map_append]
  congr 1
  by_cases theirs : payout.roundId = roundId ∧ payout.user = user
  · rw [if_pos theirs]
    simp [theirs]
  · rw [if_neg theirs]
    simp [theirs]

theorem total_paid_eq [Fintype Address] (payouts : List (Payout Address)) (roundId : Nat) :
    totalPaid payouts roundId = ∑ user, (paidTo payouts roundId user).sum := by
  induction payouts with
  | nil => simp [totalPaid, paidTo]
  | cons payout rest ih =>
      unfold totalPaid paidTo at ih ⊢
      by_cases here : payout.roundId = roundId
      · have split : ∀ user, (List.map (·.amount) (List.filter
            (fun payout => payout.roundId = roundId ∧ payout.user = user)
            (payout :: rest))).sum =
              (if payout.user = user then payout.amount else 0) +
                (List.map (·.amount) (List.filter
                  (fun payout => payout.roundId = roundId ∧ payout.user = user) rest)).sum := by
          intro user
          by_cases theirs : payout.user = user
          · simp [here, theirs]
          · simp [theirs]
        simp only [split, Finset.sum_add_distrib, ← ih]
        simp [here]
      · simpa [here] using ih

def Escrow.Settled (e : Escrow Address) : Prop :=
  ∀ roundId user, paidTo e.payouts roundId user =
    if e.ledger.claimed roundId user then [entitlementOf e.ledger roundId user] else []

/-- A turn of a round nobody has claimed from. -/
theorem Escrow.Settled.of_slot {e next : Escrow Address} (settled : e.Settled) (roundId : Nat)
    (payouts : next.payouts = e.payouts)
    (elsewhere : ∀ id, id ≠ roundId → SameSlot e.ledger next.ledger id)
    (claims : next.ledger.claimed roundId = e.ledger.claimed roundId)
    (unclaimed : ∀ user, e.ledger.claimed roundId user = false) : next.Settled := by
  intro id user
  rw [payouts, settled id user]
  by_cases same : id = roundId
  · subst same
    rw [claims, unclaimed user]
    rfl
  · have slot := elsewhere id same
    rw [slot.claims, slot.entitlement_eq]

section Settlement

variable [Fintype Address] [Zero Address] {e next : Escrow Address}

theorem Escrow.Settled.quiet (settled : e.Settled) (sound : e.ledger.Sound terms)
    (turn : Quiet terms e next) : next.Settled := by
  cases turn with
  | gains cash more => exact settled
  | opens openTime lockTime closeTime strikePrice early window span strike =>
      have unused : (e.ledger.rounds (e.ledger.roundCount + 1)).status = .none :=
        (sound.counted _).2 (.inr (Nat.lt_succ_self _))
      refine settled.of_slot (e.ledger.roundCount + 1) rfl ?_ ?_ ?_
      · intro id distinct
        exact e.ledger.opened_other openTime lockTime closeTime strikePrice distinct
      · rfl
      · apply (sound.rounds _).unclaimed
        · rw [unused]
          decide
        · rw [unused]
          decide

omit [DecidableEq Address] in
theorem Ledger.RoundSound.unclaimed_running (sound : ledger.RoundSound terms roundId)
    (running : (ledger.rounds roundId).status = .open ∨ (ledger.rounds roundId).status = .locked)
    (user : Address) : ledger.claimed roundId user = false := by
  apply sound.unclaimed
  · rcases running with running | running <;> rw [running] <;> decide
  · rcases running with running | running <;> rw [running] <;> decide

theorem Escrow.Settled.turn (settled : e.Settled) (sound : e.ledger.Sound terms)
    (turn : Turn terms answers e next) : next.Settled := by
  cases turn with
  | quiet turn => exact settled.quiet sound turn
  | waits seconds => exact settled
  | enters roundId user side amount sink cash status inTime something live single received =>
      refine settled.of_slot roundId rfl ?_ ?_ ?_
      · intro id distinct
        exact Ledger.entered_other _ _ _ _ _ _ distinct
      · rw [Ledger.entered_claimed]
      · exact (sound.rounds roundId).unclaimed_running (.inl status)
  | locks roundId status late floors =>
      refine settled.of_slot roundId rfl ?_ ?_ ?_
      · intro id distinct
        exact Ledger.set_round_other _ _ _ distinct
      · rfl
      · exact (sound.rounds roundId).unclaimed_running (.inl status)
  | resolves roundId price status late answered decided =>
      refine settled.of_slot roundId rfl ?_ ?_ ?_
      · intro id distinct
        exact Ledger.settled_other _ _ _ _ distinct
      · rfl
      · exact (sound.rounds roundId).unclaimed_running (.inr status)
  | ties roundId status late answered =>
      refine settled.of_slot roundId rfl ?_ ?_ ?_
      · intro id distinct
        exact Ledger.set_round_other _ _ _ distinct
      · rfl
      · exact (sound.rounds roundId).unclaimed_running (.inr status)
  | voids roundId status late =>
      refine settled.of_slot roundId rfl ?_ ?_ ?_
      · intro id distinct
        exact Ledger.set_round_other _ _ _ distinct
      · rfl
      · exact (sound.rounds roundId).unclaimed_running status
  | pays roundId user cash owed paid =>
      have unclaimed : e.ledger.claimed roundId user = false := by
        by_contra already
        rw [Bool.not_eq_false] at already
        apply owed
        rw [claimableOf, if_pos already]
      intro id other
      rw [paid_to_append, settled id other]
      simp only
      by_cases theirs : roundId = id ∧ user = other
      · obtain ⟨rfl, rfl⟩ := theirs
        have entitled : entitlementOf (e.ledger.markClaimed roundId user) roundId user =
            claimableOf e.ledger roundId user := (claimable_of_unclaimed unclaimed).symm
        rw [unclaimed, Ledger.mark_claimed_same, Function.update_self, entitled]
        simp
      · rw [if_neg theirs, List.append_nil]
        have same : (e.ledger.markClaimed roundId user).claimed id other =
            e.ledger.claimed id other := by
          by_cases sameRound : id = roundId
          · subst sameRound
            rw [Ledger.mark_claimed_same, Function.update_of_ne]
            intro sameUser
            exact theirs ⟨rfl, sameUser.symm⟩
          · rw [(e.ledger.mark_claimed_other roundId user sameRound).claims]
        rw [same]
        rfl
  | withdraws amount cash within paid => exact settled

omit [Fintype Address] [Zero Address] in
/-- Nobody is paid twice for a round. -/
theorem Escrow.Settled.once (settled : e.Settled) (roundId : Nat) (user : Address) :
    (paidTo e.payouts roundId user).length ≤ 1 := by
  rw [settled roundId user]
  split_ifs
  · exact Nat.le_refl 1
  · exact Nat.zero_le 1

omit [Zero Address] in
theorem Escrow.Settled.total_paid (settled : e.Settled) (roundId : Nat) :
    totalPaid e.payouts roundId =
      ∑ user, if e.ledger.claimed roundId user then entitlementOf e.ledger roundId user else 0 := by
  rw [total_paid_eq]
  apply Finset.sum_congr rfl
  intro user _
  rw [settled roundId user]
  split_ifs
  · simp
  · rfl

/-- A resolved round never pays more than the rake left of its pool. -/
theorem Escrow.Settled.total_paid_le (settled : e.Settled) (sound : e.ledger.Sound terms)
    (status : (e.ledger.rounds roundId).status = .resolved) :
    totalPaid e.payouts roundId ≤
      totalPool e.ledger roundId - (e.ledger.rounds roundId).rakeTaken := by
  rw [settled.total_paid]
  apply le_trans _ (sum_share_le (sound.rounds roundId))
  apply Finset.sum_le_sum
  intro user _
  split_ifs
  · rw [entitlement_of_resolved status]
  · exact Nat.zero_le _

/-- Once nothing is left to claim, what a resolved round kept is less than a
unit for each winner. -/
theorem Escrow.Settled.lt_total_paid (settled : e.Settled) (sound : e.ledger.Sound terms)
    (status : (e.ledger.rounds roundId).status = .resolved)
    (done : ∀ user, claimableOf e.ledger roundId user = 0) :
    totalPool e.ledger roundId - (e.ledger.rounds roundId).rakeTaken <
      totalPaid e.payouts roundId + (Finset.univ.filter fun user =>
        e.ledger.stakeOf roundId user (e.ledger.rounds roundId).winner ≠ 0).card := by
  have whole : totalPaid e.payouts roundId = ∑ user, shareOf e.ledger roundId user := by
    rw [settled.total_paid]
    apply Finset.sum_congr rfl
    intro user _
    rw [← entitlement_of_resolved status]
    split_ifs with claimed
    · rfl
    · rw [Bool.not_eq_true] at claimed
      rw [← claimable_of_unclaimed claimed]
      exact (done user).symm
  rw [whole]
  exact lt_sum_share_add_card (sound.rounds roundId) status

end Settlement

/-! ## One source for each position -/

/-- Whoever funded a user's stakes in a round is who the round pays for them. -/
structure Escrow.Sourced (e : Escrow Address) [Zero Address] : Prop where
  positions : ∀ position ∈ e.positions,
    stakesOf e.ledger position.roundId position.user ≠ 0 ∧
      position.funder = recipientOf e.ledger position.roundId position.user
  payouts : ∀ payout ∈ e.payouts,
    stakesOf e.ledger payout.roundId payout.user ≠ 0 ∧
      payout.recipient = recipientOf e.ledger payout.roundId payout.user

omit [DecidableEq Address] in
theorem stakes_of_claimable (owed : claimableOf ledger roundId user ≠ 0) :
    stakesOf ledger roundId user ≠ 0 := by
  intro none
  apply owed
  have bySide : ∀ side, ledger.stakeOf roundId user side = 0 := by
    unfold stakesOf at none
    intro side
    cases side
    · omega
    · omega
  apply Nat.eq_zero_of_le_zero
  apply (claimable_le ledger roundId user).trans
  unfold entitlementOf
  cases (ledger.rounds roundId).status with
  | void => exact none.le
  | resolved =>
      simp only [shareOf, bySide, if_true]
      exact Nat.le_refl 0
  | _ => exact Nat.le_refl 0

section Sources

variable [Fintype Address] [Zero Address] {e next : Escrow Address}

omit [Fintype Address] in
theorem recipient_after_entry (ledger : Ledger Address) (roundId : Nat) (user other : Address)
    (side : Side) (amount : Nat) (sink : Address)
    (staked : stakesOf ledger roundId other ≠ 0) :
    recipientOf (ledger.entered roundId user side amount sink) roundId other =
      recipientOf ledger roundId other := by
  have same : (ledger.entered roundId user side amount sink).settlementSinkOf roundId other =
      ledger.settlementSinkOf roundId other := by
    rw [Ledger.entered_sinks]
    split_ifs with first
    · have distinct : other ≠ user := by
        intro same
        exact staked (same ▸ first.2)
      simp [Ledger.setSink, distinct]
    · rfl
  simp only [recipientOf, same]

theorem recipient_of_entrant (sound : ledger.RoundSound terms roundId) (user : Address)
    (side : Side) (amount : Nat) (sink : Address)
    (single : stakesOf ledger roundId user = 0 ∨ ledger.settlementSinkOf roundId user = sink) :
    recipientOf (ledger.entered roundId user side amount sink) roundId user =
      if sink = 0 then user else sink := by
  have recorded : (ledger.entered roundId user side amount sink).settlementSinkOf roundId user =
      sink := by
    rw [Ledger.entered_sinks]
    split_ifs with first
    · simp [Ledger.setSink]
    · rcases single with none | same
      · have own : sink = 0 := by
          by_contra routed
          exact first ⟨routed, none⟩
        rw [own]
        by_contra routed
        exact sound.sourced user routed none
      · exact same
  simp only [recipientOf, recorded]

omit [Fintype Address] in
/-- A stake stays, and so does where its proceeds go. -/
theorem recipient_of_turn (turn : Turn terms answers e next)
    (staked : stakesOf e.ledger roundId user ≠ 0) :
    stakesOf next.ledger roundId user ≠ 0 ∧
      recipientOf next.ledger roundId user = recipientOf e.ledger roundId user := by
  cases turn with
  | quiet turn =>
      cases turn with
      | gains cash more => exact ⟨staked, rfl⟩
      | opens openTime lockTime closeTime strikePrice early window span strike =>
          exact ⟨staked, rfl⟩
  | enters id entrant side amount sink cash status inTime something live single received =>
      by_cases same : roundId = id
      · subst same
        refine ⟨?_, recipient_after_entry _ _ _ _ _ _ _ staked⟩
        rw [Ledger.entered_stakesOf]
        omega
      · have slot := e.ledger.entered_other id entrant side amount sink same
        exact ⟨(slot.stakesOf_eq user).symm ▸ staked, slot.recipient_eq user⟩
  | _ => exact ⟨staked, rfl⟩

theorem Escrow.Sourced.turn (sourced : e.Sourced) (sound : e.ledger.Sound terms)
    (turn : Turn terms answers e next) : next.Sourced := by
  have keeps {id : Nat} {holder : Address} (staked : stakesOf e.ledger id holder ≠ 0) :=
    recipient_of_turn turn staked
  have oldPositions : ∀ position ∈ e.positions,
      stakesOf next.ledger position.roundId position.user ≠ 0 ∧
        position.funder = recipientOf next.ledger position.roundId position.user := by
    intro position member
    obtain ⟨staked, source⟩ := sourced.positions position member
    exact ⟨(keeps staked).1, source.trans (keeps staked).2.symm⟩
  have oldPayouts : ∀ payout ∈ e.payouts,
      stakesOf next.ledger payout.roundId payout.user ≠ 0 ∧
        payout.recipient = recipientOf next.ledger payout.roundId payout.user := by
    intro payout member
    obtain ⟨staked, source⟩ := sourced.payouts payout member
    exact ⟨(keeps staked).1, source.trans (keeps staked).2.symm⟩
  cases turn with
  | quiet turn =>
      cases turn with
      | gains cash more => exact ⟨oldPositions, oldPayouts⟩
      | opens openTime lockTime closeTime strikePrice early window span strike =>
          exact ⟨oldPositions, oldPayouts⟩
  | enters id entrant side amount sink cash status inTime something live single received =>
      refine ⟨?_, oldPayouts⟩
      intro position member
      rcases List.mem_append.1 member with old | new
      · exact oldPositions position old
      · rw [List.mem_singleton.1 new]
        constructor
        · simp only [Ledger.entered_stakesOf, if_true]
          omega
        · exact (recipient_of_entrant (sound.rounds id) entrant side amount sink single).symm
  | pays id holder cash owed paid =>
      refine ⟨oldPositions, ?_⟩
      intro payout member
      rcases List.mem_append.1 member with old | new
      · exact oldPayouts payout old
      · rw [List.mem_singleton.1 new]
        have staked := stakes_of_claimable owed
        exact ⟨staked, rfl⟩
  | _ => exact ⟨oldPositions, oldPayouts⟩

/-- What `user` was announced to have put on a side of a round. -/
def stakedIn (positions : List (Position Address)) (roundId : Nat) (user : Address)
    (side : Side) : Nat :=
  ((positions.filter fun position =>
    position.roundId = roundId ∧ position.user = user ∧ position.side = side).map
      (·.amount)).sum

def Escrow.Announced (e : Escrow Address) : Prop :=
  ∀ roundId user side, e.ledger.stakeOf roundId user side = stakedIn e.positions roundId user side

omit [Fintype Address] in
theorem Escrow.Announced.turn (announced : e.Announced) (turn : Turn terms answers e next) :
    next.Announced := by
  cases turn with
  | quiet turn =>
      cases turn with
      | gains cash more => exact announced
      | opens openTime lockTime closeTime strikePrice early window span strike => exact announced
  | enters id entrant side amount sink cash status inTime something live single received =>
      intro roundId user which
      have one : stakedIn (e.positions ++
          [⟨id, entrant, side, amount, if sink = 0 then entrant else sink⟩]) roundId user which =
            stakedIn e.positions roundId user which +
              if id = roundId ∧ entrant = user ∧ side = which then amount else 0 := by
        unfold stakedIn
        rw [List.filter_append, List.map_append, List.sum_append]
        by_cases theirs : id = roundId ∧ entrant = user ∧ side = which
        · rw [if_pos theirs]
          simp [theirs]
        · rw [if_neg theirs]
          simp [theirs]
      rw [one, ← announced roundId user which]
      by_cases same : roundId = id
      · subst same
        rw [Ledger.entered_stake]
        simp only [true_and, eq_comm]
      · have other : ¬(id = roundId ∧ entrant = user ∧ side = which) := by
          intro theirs
          exact same theirs.1.symm
        rw [if_neg other, (e.ledger.entered_other id entrant side amount sink same).stakes,
          Nat.add_zero]
  | _ => exact announced

end Sources

end Market

end Ghoststake
