import Ghoststake.Market.Rounds
import Ghoststake.Library.PointSums

/-!
# The escrow covers what it owes

What a round owes depends on its status; the cash covers the fees and what all
rounds owe, and every turn keeps it so. The list of payouts says the same from
the other end: nobody is in it twice for a round, and what a resolved round
has paid stays below its pool less the rake.
-/

namespace Ghoststake

set_option autoImplicit false

open Rounding PointSums

namespace Market

variable {Address : Type} [Fintype Address] {terms : Terms} {answers : Nat → Nat → Prop}

/-! ## What a round owes -/

def Ledger.owed (ledger : Ledger Address) (roundId : Nat) : Nat :=
  match (ledger.rounds roundId).status with
  | .none => 0
  | .open | .locked => ∑ user, stakesOf ledger roundId user
  | .void => ∑ user, if ledger.claimed roundId user then 0 else stakesOf ledger roundId user
  | .resolved => ∑ user, claimableOf ledger roundId user

def Ledger.obligations (ledger : Ledger Address) : Nat :=
  ledger.protocolFees + ∑ roundId ∈ Finset.range (ledger.roundCount + 1), ledger.owed roundId

def Escrow.Solvent (e : Escrow Address) : Prop := e.ledger.obligations ≤ e.cash

section Owed

variable {ledger after : Ledger Address} {roundId : Nat}

theorem SameSlot.owed_eq (same : SameSlot ledger after roundId) :
    after.owed roundId = ledger.owed roundId := by
  simp only [Ledger.owed, same.rounds, same.claims, same.stakesOf_eq, same.claimable_eq]

theorem owed_of_running
    (running : (ledger.rounds roundId).status = .open ∨ (ledger.rounds roundId).status = .locked) :
    ledger.owed roundId = ∑ user, stakesOf ledger roundId user := by
  unfold Ledger.owed
  rcases running with running | running
  · rw [running]
  · rw [running]

/-- Once settled, a round owes what can be claimed from it. -/
theorem owed_of_settled
    (settled : (ledger.rounds roundId).status = .void ∨
      (ledger.rounds roundId).status = .resolved) :
    ledger.owed roundId = ∑ user, claimableOf ledger roundId user := by
  unfold Ledger.owed claimableOf entitlementOf
  rcases settled with settled | settled
  · rw [settled]
  · rw [settled]

/-- Writing one round moves the obligations by the change in what it owes. -/
theorem obligations_of_slot (next : Ledger Address) (present : roundId ≤ ledger.roundCount)
    (elsewhere : ∀ id, id ≠ roundId → SameSlot ledger next id)
    (count : next.roundCount = ledger.roundCount) :
    next.obligations + ledger.protocolFees + ledger.owed roundId =
      ledger.obligations + next.protocolFees + next.owed roundId := by
  have sums := sum_add_of_eq_off_mem (Finset.range (ledger.roundCount + 1)) next.owed
    ledger.owed (Finset.mem_range.2 (Nat.lt_succ_of_le present))
    (fun id distinct => (elsewhere id distinct).owed_eq)
  unfold Ledger.obligations
  rw [count]
  omega

variable [Zero Address]

theorem Ledger.Sound.present (sound : ledger.Sound terms)
    (live : (ledger.rounds roundId).status ≠ .none) : roundId ≤ ledger.roundCount := by
  by_contra outside
  exact live ((sound.counted roundId).2 (.inr (by omega)))

theorem obligations_opened (sound : ledger.Sound terms) (openTime lockTime closeTime : Uint64)
    (strikePrice : Nat) :
    (ledger.opened openTime lockTime closeTime strikePrice).obligations =
      ledger.obligations := by
  have count : (ledger.opened openTime lockTime closeTime strikePrice).roundCount =
      ledger.roundCount + 1 := rfl
  have fees : (ledger.opened openTime lockTime closeTime strikePrice).protocolFees =
      ledger.protocolFees := rfl
  have isOpen : ((ledger.opened openTime lockTime closeTime strikePrice).rounds
      (ledger.roundCount + 1)).status = .open := by
    simp [Ledger.opened, Ledger.setRound]
  have fresh : (ledger.opened openTime lockTime closeTime strikePrice).owed
      (ledger.roundCount + 1) = 0 := by
    rw [owed_of_running (.inl isOpen)]
    apply Finset.sum_eq_zero
    intro user _
    exact (sound.rounds _).blank ((sound.counted _).2 (.inr (Nat.lt_succ_self _))) user
  have others : ∑ id ∈ Finset.range (ledger.roundCount + 1),
      (ledger.opened openTime lockTime closeTime strikePrice).owed id =
        ∑ id ∈ Finset.range (ledger.roundCount + 1), ledger.owed id := by
    apply Finset.sum_congr rfl
    intro id member
    apply SameSlot.owed_eq
    apply Ledger.opened_other
    have inside := Finset.mem_range.1 member
    omega
  unfold Ledger.obligations
  rw [count, fees, Finset.sum_range_succ, fresh, others, Nat.add_zero]

end Owed

/-! ## Shares of a resolved round -/

section Shares

variable {ledger after : Ledger Address} {roundId : Nat}

omit [Fintype Address] in
theorem share_eq (ledger : Ledger Address) (roundId : Nat) (user : Address) :
    shareOf ledger roundId user =
      mulDiv (totalPool ledger roundId - (ledger.rounds roundId).rakeTaken)
        (ledger.stakeOf roundId user (ledger.rounds roundId).winner)
        ((ledger.rounds roundId).poolOf (ledger.rounds roundId).winner) := by
  simp only [shareOf]
  split_ifs with none
  · rw [none, mul_div_zero_right]
  · rfl

omit [Fintype Address] in
theorem claimable_le (ledger : Ledger Address) (roundId : Nat) (user : Address) :
    claimableOf ledger roundId user ≤ entitlementOf ledger roundId user := by
  unfold claimableOf
  split_ifs
  · exact Nat.zero_le _
  · exact Nat.le_refl _

omit [Fintype Address] in
theorem claimable_of_unclaimed {user : Address} (unclaimed : ledger.claimed roundId user = false) :
    claimableOf ledger roundId user = entitlementOf ledger roundId user := by
  unfold claimableOf
  rw [unclaimed]
  rfl

omit [Fintype Address] in
theorem entitlement_of_resolved (status : (ledger.rounds roundId).status = .resolved)
    (user : Address) : entitlementOf ledger roundId user = shareOf ledger roundId user := by
  unfold entitlementOf
  rw [status]

omit [Fintype Address] in
theorem entitlement_of_void (status : (ledger.rounds roundId).status = .void) (user : Address) :
    entitlementOf ledger roundId user = stakesOf ledger roundId user := by
  unfold entitlementOf
  rw [status]

variable [Zero Address]

/-- The shares never add up to more than the rake left. -/
theorem sum_share_le (sound : ledger.RoundSound terms roundId) :
    ∑ user, shareOf ledger roundId user ≤
      totalPool ledger roundId - (ledger.rounds roundId).rakeTaken := by
  simp only [share_eq]
  exact sum_mul_div_le _ _ _ _ (sound.pools _).ge

/-- And they fall short of it by less than a unit for each winner. -/
theorem lt_sum_share_add_card [DecidableEq Address] (sound : ledger.RoundSound terms roundId)
    (status : (ledger.rounds roundId).status = .resolved) :
    totalPool ledger roundId - (ledger.rounds roundId).rakeTaken <
      ∑ user, shareOf ledger roundId user +
        (Finset.univ.filter fun user =>
          ledger.stakeOf roundId user (ledger.rounds roundId).winner ≠ 0).card := by
  have positive : 0 < (ledger.rounds roundId).poolOf (ledger.rounds roundId).winner :=
    terms.min_side_pool_pos.trans_le (sound.floors (.inr status) _)
  have weights : ∑ user ∈ Finset.univ.filter (fun user =>
      ledger.stakeOf roundId user (ledger.rounds roundId).winner ≠ 0),
        ledger.stakeOf roundId user (ledger.rounds roundId).winner =
          (ledger.rounds roundId).poolOf (ledger.rounds roundId).winner := by
    rw [sound.pools, Finset.sum_filter_ne_zero]
  have bound := lt_sum_mul_div_add_card _
    (totalPool ledger roundId - (ledger.rounds roundId).rakeTaken)
    (fun user => ledger.stakeOf roundId user (ledger.rounds roundId).winner) weights positive
  have winners : ∑ user ∈ Finset.univ.filter (fun user =>
      ledger.stakeOf roundId user (ledger.rounds roundId).winner ≠ 0),
        shareOf ledger roundId user = ∑ user, shareOf ledger roundId user := by
    apply Finset.sum_subset (Finset.subset_univ _)
    intro user _ loser
    rw [Finset.mem_filter, not_and, not_not] at loser
    simp only [shareOf, loser (Finset.mem_univ user), if_true]
  rw [← winners]
  simp only [share_eq]
  exact bound

theorem rake_le_total (sound : ledger.RoundSound terms roundId) :
    (ledger.rounds roundId).rakeTaken ≤ totalPool ledger roundId := by
  rw [sound.raked]
  split_ifs
  · exact mul_div_le_left _ terms.rake_le_wad
  · exact Nat.zero_le _

end Shares

/-! ## Every turn keeps it covered -/

section Turns

variable [Zero Address] {e next : Escrow Address}

theorem Escrow.Solvent.quiet (solvent : e.Solvent) (sound : e.ledger.Sound terms)
    (turn : Quiet terms e next) : next.Solvent := by
  cases turn with
  | gains cash more => exact solvent.trans more
  | opens openTime lockTime closeTime strikePrice early window span strike =>
      exact (obligations_opened sound openTime lockTime closeTime strikePrice).trans_le solvent

variable [DecidableEq Address]

omit [Fintype Address] [Zero Address] in
theorem claimable_after_same (ledger : Ledger Address) (roundId : Nat) (user : Address) :
    claimableOf (ledger.markClaimed roundId user) roundId user = 0 := by
  rw [claimableOf, Ledger.mark_claimed_same, Function.update_self, if_pos rfl]

omit [Fintype Address] [Zero Address] in
theorem claimable_after_other (ledger : Ledger Address) (roundId : Nat) {user other : Address}
    (distinct : other ≠ user) :
    claimableOf (ledger.markClaimed roundId user) roundId other =
      claimableOf ledger roundId other := by
  rw [claimableOf, Ledger.mark_claimed_same, Function.update_of_ne distinct]
  rfl

omit [DecidableEq Address] in
/-- A running round that is voided owes every stake. -/
theorem owed_of_voided {ledger after : Ledger Address} {roundId : Nat}
    (sound : ledger.RoundSound terms roundId)
    (running : (ledger.rounds roundId).status = .open ∨ (ledger.rounds roundId).status = .locked)
    (status : (after.rounds roundId).status = .void) (stakes : after.stakeOf = ledger.stakeOf)
    (claims : after.claimed = ledger.claimed) : after.owed roundId = ledger.owed roundId := by
  rw [owed_of_settled (.inl status), owed_of_running running]
  apply Finset.sum_congr rfl
  intro user _
  have unclaimed : after.claimed roundId user = false := by
    rw [claims]
    apply sound.unclaimed
    · rcases running with running | running <;> rw [running] <;> decide
    · rcases running with running | running <;> rw [running] <;> decide
  rw [claimable_of_unclaimed unclaimed, entitlement_of_void status]
  simp only [stakesOf, stakes]

theorem Escrow.Solvent.turn (solvent : e.Solvent) (sound : e.ledger.Sound terms)
    (turn : Turn terms answers e next) : next.Solvent := by
  have later := sound.turn turn
  unfold Escrow.Solvent at solvent ⊢
  cases turn with
  | quiet turn => exact Escrow.Solvent.quiet solvent sound turn
  | waits seconds => exact solvent
  | enters roundId user side amount sink cash status inTime something live single received =>
      have moved := obligations_of_slot (e.ledger.entered roundId user side amount sink)
        (sound.present (by rw [status]; decide))
        (fun id distinct => e.ledger.entered_other roundId user side amount sink distinct)
        (e.ledger.entered_count roundId user side amount sink)
      have stillOpen : ((e.ledger.entered roundId user side amount sink).rounds roundId).status =
          .open := by
        rw [Ledger.entered_rounds, Function.update_self, Round.joined_status, status]
      have grown : (e.ledger.entered roundId user side amount sink).owed roundId =
          e.ledger.owed roundId + amount := by
        rw [owed_of_running (.inl stillOpen), owed_of_running (.inl status)]
        simp only [Ledger.entered_stakesOf, Finset.sum_add_distrib]
        simp
      rw [Ledger.entered_fees] at moved
      simp only
      omega
  | locks roundId status late floors =>
      have moved := obligations_of_slot (e.ledger.setStatus roundId .locked)
        (sound.present (by rw [status]; decide))
        (fun id distinct => e.ledger.set_round_other roundId _ distinct) rfl
      have isLocked : ((e.ledger.setStatus roundId .locked).rounds roundId).status = .locked := by
        rw [Ledger.setStatus, Ledger.set_round_same]
      have same : (e.ledger.setStatus roundId .locked).owed roundId = e.ledger.owed roundId := by
        rw [owed_of_running (.inr isLocked), owed_of_running (.inl status)]
        rfl
      have fees : (e.ledger.setStatus roundId .locked).protocolFees = e.ledger.protocolFees := rfl
      simp only
      omega
  | resolves roundId price status late answered decided =>
      have moved := obligations_of_slot _ (sound.present (by rw [status]; decide))
        (fun id distinct => e.ledger.settled_other roundId price
          (mulDiv (totalPool e.ledger roundId) terms.rake WAD) distinct) rfl
      have round : (e.ledger.settled roundId price
          (mulDiv (totalPool e.ledger roundId) terms.rake WAD)).rounds roundId =
            (e.ledger.rounds roundId).settled price
              (mulDiv (totalPool e.ledger roundId) terms.rake WAD) := Function.update_self ..
      have fees : (e.ledger.settled roundId price
          (mulDiv (totalPool e.ledger roundId) terms.rake WAD)).protocolFees =
            e.ledger.protocolFees + mulDiv (totalPool e.ledger roundId) terms.rake WAD := rfl
      simp only at later ⊢
      generalize e.ledger.settled roundId price
        (mulDiv (totalPool e.ledger roundId) terms.rake WAD) = settled at moved round fees later ⊢
      have isResolved : (settled.rounds roundId).status = .resolved := by
        rw [round]
        rfl
      have shared : settled.owed roundId ≤
          totalPool settled roundId - (settled.rounds roundId).rakeTaken := by
        rw [owed_of_settled (.inr isResolved)]
        refine (Finset.sum_le_sum fun user _ => claimable_le _ _ _).trans ?_
        simp only [entitlement_of_resolved isResolved]
        exact sum_share_le (later.rounds roundId)
      have raked := rake_le_total (later.rounds roundId)
      have total : totalPool settled roundId = totalPool e.ledger roundId := by
        rw [totalPool, round]
        rfl
      have taken : (settled.rounds roundId).rakeTaken =
          mulDiv (totalPool e.ledger roundId) terms.rake WAD := by
        rw [round]
        rfl
      have held : e.ledger.owed roundId = totalPool e.ledger roundId := by
        rw [owed_of_running (.inr status), (sound.rounds roundId).total]
      rw [total, taken] at shared raked
      omega
  | ties roundId status late answered =>
      have moved := obligations_of_slot (e.ledger.tied roundId)
        (sound.present (by rw [status]; decide))
        (fun id distinct => e.ledger.set_round_other roundId _ distinct) rfl
      have isVoid : ((e.ledger.tied roundId).rounds roundId).status = .void := by
        rw [Ledger.tied, Ledger.set_round_same]
      have same := owed_of_voided (sound.rounds roundId) (.inr status) isVoid rfl rfl
      have fees : (e.ledger.tied roundId).protocolFees = e.ledger.protocolFees := rfl
      simp only
      omega
  | voids roundId status late =>
      have live : (e.ledger.rounds roundId).status ≠ .none := by
        rcases status with status | status <;> rw [status] <;> decide
      have moved := obligations_of_slot (e.ledger.setStatus roundId .void) (sound.present live)
        (fun id distinct => e.ledger.set_round_other roundId _ distinct) rfl
      have isVoid : ((e.ledger.setStatus roundId .void).rounds roundId).status = .void := by
        rw [Ledger.setStatus, Ledger.set_round_same]
      have same := owed_of_voided (sound.rounds roundId) status isVoid rfl rfl
      have fees : (e.ledger.setStatus roundId .void).protocolFees = e.ledger.protocolFees := rfl
      simp only
      omega
  | pays roundId user cash owed paid =>
      have settled := settled_of_claimable owed
      have live : (e.ledger.rounds roundId).status ≠ .none := by
        rcases settled with settled | settled <;> rw [settled] <;> decide
      have moved := obligations_of_slot (e.ledger.markClaimed roundId user) (sound.present live)
        (fun id distinct => e.ledger.mark_claimed_other roundId user distinct) rfl
      have fees : (e.ledger.markClaimed roundId user).protocolFees = e.ledger.protocolFees := rfl
      have paidOut : (e.ledger.markClaimed roundId user).owed roundId +
          claimableOf e.ledger roundId user = e.ledger.owed roundId := by
        have after : (e.ledger.markClaimed roundId user).owed roundId =
            ∑ other, claimableOf (e.ledger.markClaimed roundId user) roundId other :=
          owed_of_settled settled
        rw [after, owed_of_settled settled]
        have sums := sum_add_of_eq_off (claimableOf (e.ledger.markClaimed roundId user) roundId)
          (claimableOf e.ledger roundId) user
          (fun other distinct => claimable_after_other e.ledger roundId distinct)
        rw [claimable_after_same] at sums
        exact sums
      simp only
      omega
  | withdraws amount cash within paid =>
      have owed : ∀ id, (e.ledger.debitFees amount).owed id = e.ledger.owed id := by
        intro id
        exact SameSlot.owed_eq ⟨rfl, rfl, rfl, rfl⟩
      have fees : (e.ledger.debitFees amount).protocolFees = e.ledger.protocolFees - amount := rfl
      have count : (e.ledger.debitFees amount).roundCount = e.ledger.roundCount := rfl
      unfold Ledger.obligations at solvent ⊢
      simp only [owed, fees, count]
      omega

end Turns

end Market

end Ghoststake
