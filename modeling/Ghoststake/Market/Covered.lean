import Ghoststake.Market.Payouts
import Ghoststake.Market.Steps

/-!
# The market covers its rounds in every run

The invariants of the escrow along the histories of the market, and what they
say of a claim and of a withdrawal of fees: neither fails for want of cash.
-/

namespace Ghoststake

set_option autoImplicit false

open Checked Rounding

namespace Market

variable {Address Rest : Type} [DecidableEq Address] [Zero Address] [Fintype Address]
  {terms : Terms} {answers : Nat → Nat → Prop} {e next : Escrow Address}

/-! ## The invariants together -/

structure Escrow.Kept (terms : Terms) (e : Escrow Address) : Prop where
  sound : e.ledger.Sound terms
  solvent : e.Solvent
  settled : e.Settled
  sourced : e.Sourced
  announced : e.Announced

theorem Escrow.Kept.turn (kept : e.Kept terms) (turn : Turn terms answers e next) :
    next.Kept terms where
  sound := kept.sound.turn turn
  solvent := kept.solvent.turn kept.sound turn
  settled := kept.settled.turn kept.sound turn
  sourced := kept.sourced.turn kept.sound turn
  announced := kept.announced.turn turn

theorem Escrow.Kept.asides (kept : e.Kept terms)
    (asides : Relation.ReflTransGen (Quiet terms) e next) : next.Kept terms := by
  induction asides with
  | refl => exact kept
  | @tail mid final _ quiet ih =>
      have turn : Turn terms (fun _ _ => False) mid final := .quiet quiet
      exact ih.turn turn

theorem Escrow.Kept.advance (kept : e.Kept terms) (advance : Advance terms answers e next) :
    next.Kept terms := by
  cases advance with
  | turn turn => exact kept.turn turn
  | claim turn _ asides => exact (kept.turn turn).asides asides

section Runs

variable {cfg : Config Address Rest} {x : Exchange Address Rest}

theorem kept_of_deployed (start : Deployed cfg x) : (escrowOf cfg x).Kept cfg.terms := by
  obtain ⟨owner, access, guardian, _, fresh⟩ := start.fresh
  have ledger : (escrowOf cfg x).ledger = (deployed access guardian).toLedger := by
    rw [← fresh]
    rfl
  have positions : (escrowOf cfg x).positions = [] := by
    simp [escrowOf, fresh, deployed]
  have payouts : (escrowOf cfg x).payouts = [] := by
    simp [escrowOf, fresh, deployed]
  refine ⟨?_, ?_, ?_, ?_, ?_⟩
  · rw [ledger]
    constructor
    · intro roundId
      constructor
      · intro side
        cases side <;> simp [deployed, Round.unset, Round.poolOf]
      · intro _ user
        rfl
      · intro _ _ user
        rfl
      · intro closed
        rcases closed with closed | closed <;> cases closed
      · rfl
      · intro live
        exact absurd rfl live
      · intro user routed
        exact absurd rfl routed
      · rfl
    · intro roundId
      simp only [deployed, Round.unset, true_iff]
      omega
  · unfold Escrow.Solvent Ledger.obligations
    rw [ledger]
    simp [deployed, Ledger.owed, Round.unset]
  · intro roundId user
    rw [payouts, ledger]
    rfl
  · constructor
    · intro position entered
      rw [positions] at entered
      cases entered
    · intro payout paid
      rw [payouts] at paid
      cases paid
  · intro roundId user side
    rw [positions, ledger]
    rfl

omit [Fintype Address] in
theorem housed_of_deployed (start : Deployed cfg x) : Housed cfg x := by
  obtain ⟨owner, access, guardian, granted, fresh⟩ := start.fresh
  refine ⟨start.unapproved, ?_⟩
  rw [fresh]
  simp only [Treasured.deploy, bind_ok_iff, require_ok_iff, exists_const,
    Except.ok.injEq] at granted
  obtain ⟨live, rfl⟩ := granted
  exact live

theorem kept_of_reachable (reached : (machine cfg).Reachable x) :
    (escrowOf cfg x).Kept cfg.terms ∧ Housed cfg x := by
  apply reached.invariant fun x => (escrowOf cfg x).Kept cfg.terms ∧ Housed cfg x
  · intro state start
    exact ⟨kept_of_deployed start, housed_of_deployed start⟩
  · intro state action after _ before taken
    obtain ⟨advance, housed⟩ := advance_of_step before.2 taken
    exact ⟨before.1.advance advance, housed⟩

/-! ## No claim and no withdrawal fails for want of cash -/

theorem owed_le_cash (kept : (escrowOf cfg x).Kept cfg.terms) {roundId : Nat} {user : Address}
    (owed : claimableOf x.market.toLedger roundId user ≠ 0) :
    claimableOf x.market.toLedger roundId user ≤ x.token.balanceOf cfg.address := by
  have settled := settled_of_claimable owed
  have live : (x.market.rounds roundId).status ≠ .none := by
    rcases settled with settled | settled <;> rw [settled] <;> decide
  have present : roundId ∈ Finset.range (x.market.roundCount + 1) :=
    Finset.mem_range.2 (Nat.lt_succ_of_le (kept.sound.present live))
  calc
    claimableOf x.market.toLedger roundId user ≤
        ∑ other, claimableOf x.market.toLedger roundId other := PointSums.le_sum _ user
    _ = x.market.toLedger.owed roundId := (owed_of_settled settled).symm
    _ ≤ ∑ id ∈ Finset.range (x.market.roundCount + 1), x.market.toLedger.owed id :=
      Finset.single_le_sum (fun _ _ => Nat.zero_le _) present
    _ ≤ x.market.toLedger.obligations := Nat.le_add_left _ _
    _ ≤ x.token.balanceOf cfg.address := kept.solvent

theorem recipient_live (kept : (escrowOf cfg x).Kept cfg.terms) {roundId : Nat} {user : Address}
    (owed : claimableOf x.market.toLedger roundId user ≠ 0) :
    recipientOf x.market.toLedger roundId user ≠ 0 := by
  unfold recipientOf
  split_ifs with own
  · intro nobody
    apply stakes_of_claimable owed
    rw [nobody]
    exact (kept.sound.rounds roundId).nobody
  · exact own

theorem pays_claim (kept : (escrowOf cfg x).Kept cfg.terms) {roundId : Nat} {user : Address}
    (owed : claimableOf x.market.toLedger roundId user ≠ 0) :
    ∃ paid, payClaim cfg roundId user x = .ok paid := by
  apply pay_claim_of_funded _ owed (recipient_live kept owed) (owed_le_cash kept owed)
  rcases settled_of_claimable owed with settled | settled <;> rw [settled] <;> decide

omit [Fintype Address] in
/-- A claim can be stopped by its sink only. -/
theorem claim_stopped_by_sink {roundId : Nat} {user : Address} {paid : Exchange Address Rest}
    (pays : payClaim cfg roundId user x = .ok paid) {sinks : Sinks Address Rest}
    {error : Revert Address} (failed : claim cfg sinks roundId user x = .error error) :
    x.market.settlementSinkOf roundId user ≠ 0 ∧
      sinks (x.market.settlementSinkOf roundId user) user
        (claimableOf x.market.toLedger roundId user) paid = .error error := by
  simp only [claim, pays, ok_bind, notifySink] at failed
  split_ifs at failed with routed
  · refine ⟨routed, ?_⟩
    cases told : sinks (x.market.settlementSinkOf roundId user) user
        (claimableOf x.market.toLedger roundId user) paid with
    | error other =>
        rw [told] at failed
        exact failed
    | ok settled =>
        rw [told] at failed
        cases failed
  · cases failed

theorem withdraws_fees (kept : (escrowOf cfg x).Kept cfg.terms) (housed : Housed cfg x)
    {amount : Nat} (something : amount ≠ 0) (within : amount ≤ x.market.protocolFees) :
    ∃ after, withdrawFees cfg x.market.owner amount x = .ok after := by
  have funded : amount ≤ x.token.balanceOf cfg.address := by
    have fees : x.market.protocolFees ≤ x.market.toLedger.obligations := Nat.le_add_right _ _
    exact (within.trans fees).trans kept.solvent
  have moves := (Erc20.move_ok_iff x.token _ cfg.address x.market.treasury amount).2
    ⟨cfg.address_ne_zero, housed.treasury_live, funded, rfl⟩
  apply bind_succeeds (require_of _ rfl)
  apply bind_succeeds (require_of _ something)
  apply bind_succeeds (require_of _ within)
  apply bind_succeeds (pay_ok_iff.2 ⟨_, moves, rfl⟩)
  exact ⟨_, rfl⟩

def payoutsOf (x : Exchange Address Rest) : List (Payout Address) :=
  x.market.logs.filterMap Event.payout

/-- In every run the market's balance covers the fees and what every round
owes, so no claim and no withdrawal of fees fails for want of cash; nobody is
paid twice for a round; and a resolved round pays out the pool less the rake,
to within a unit for each winner. -/
theorem market_covers_its_rounds (cfg : Config Address Rest) (x : Exchange Address Rest)
    (reached : (machine cfg).Reachable x) :
    x.market.protocolFees + ∑ roundId ∈ Finset.range (x.market.roundCount + 1),
        x.market.toLedger.owed roundId ≤ x.token.balanceOf cfg.address ∧
    (∀ roundId user, claimableOf x.market.toLedger roundId user ≠ 0 →
      ∃ paid, payClaim cfg roundId user x = .ok paid ∧
        ∀ sinks error, claim cfg sinks roundId user x = .error error →
          x.market.settlementSinkOf roundId user ≠ 0 ∧
            sinks (x.market.settlementSinkOf roundId user) user
              (claimableOf x.market.toLedger roundId user) paid = .error error) ∧
    (∀ amount, amount ≠ 0 → amount ≤ x.market.protocolFees →
      ∃ after, withdrawFees cfg x.market.owner amount x = .ok after) ∧
    (∀ roundId user, (paidTo (payoutsOf x) roundId user).length ≤ 1) ∧
    ∀ roundId, (x.market.rounds roundId).status = .resolved →
      totalPaid (payoutsOf x) roundId ≤
          totalPool x.market.toLedger roundId - (x.market.rounds roundId).rakeTaken ∧
        ((∀ user, claimableOf x.market.toLedger roundId user = 0) →
          totalPool x.market.toLedger roundId - (x.market.rounds roundId).rakeTaken <
            totalPaid (payoutsOf x) roundId + (Finset.univ.filter fun user =>
              x.market.stakeOf roundId user (x.market.rounds roundId).winner ≠ 0).card) := by
  obtain ⟨kept, housed⟩ := kept_of_reachable reached
  refine ⟨kept.solvent, ?_, ?_, kept.settled.once, ?_⟩
  · intro roundId user owed
    obtain ⟨paid, pays⟩ := pays_claim kept owed
    refine ⟨paid, pays, ?_⟩
    intro sinks error failed
    exact claim_stopped_by_sink pays failed
  · intro amount something within
    exact withdraws_fees kept housed something within
  · intro roundId status
    constructor
    · exact kept.settled.total_paid_le kept.sound status
    · exact kept.settled.lt_total_paid kept.sound status

end Runs

/-- With one winner still to claim. -/
theorem market_covers_a_settled_round :
    ∃ x : Exchange (Fin 8) Unit,
      x.market.protocolFees + ∑ roundId ∈ Finset.range (x.market.roundCount + 1),
          x.market.toLedger.owed roundId ≤ x.token.balanceOf 7 ∧
      (∃ paid, payClaim smallMarket 1 3 x = .ok paid) ∧
      (∃ after, withdrawFees smallMarket x.market.owner 3 x = .ok after) ∧
      0 < totalPaid (payoutsOf x) 1 ∧
      totalPaid (payoutsOf x) 1 ≤
        totalPool x.market.toLedger 1 - (x.market.rounds 1).rakeTaken := by
  obtain ⟨x, reached, checked⟩ := reachable_of_visits
    (settledRun ++ [.market 1 (.claim 1 1)])
    (fun x => claimableOf x.market.toLedger 1 3 ≠ 0 ∧ 3 ≤ x.market.protocolFees ∧
      (x.market.rounds 1).status = .resolved ∧ 0 < totalPaid (payoutsOf x) 1)
    (by decide) (by decide +kernel)
  obtain ⟨owed, within, resolved, some⟩ := of_decide_eq_true checked
  obtain ⟨covered, claims, withdraws, _, bounded⟩ := market_covers_its_rounds smallMarket x reached
  obtain ⟨paid, pays, _⟩ := claims 1 3 owed
  exact ⟨x, covered, ⟨paid, pays⟩, withdraws 3 (by decide) within, some,
    (bounded 1 resolved).1⟩

end Market

end Ghoststake
