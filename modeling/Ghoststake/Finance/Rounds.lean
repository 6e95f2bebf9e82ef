import Ghoststake.Ledger.Rounds
import Ghoststake.Market.Solvency

/-!
# Rounds, as the backend computes them

The phase of a round, the odds of its sides and what a position can collect,
from the figures of a projection, and that over the contract's own figures they
are what the contract answers.
-/

namespace Ghoststake

set_option autoImplicit false

open Rounding

namespace Finance

inductive Phase where
  | «open» | cutoff | observation | resolved | void
  deriving DecidableEq, Repr

/-- A phase of the contract's; a round it does not know has none here. -/
def Phase.shown : Ghoststake.Phase → Option Phase
  | .none => none
  | .open => some .open
  | .cutoff => some .cutoff
  | .observation => some .observation
  | .resolved => some .resolved
  | .void => some .void

def entryIsOpen (status : Ledger.RoundStatus) (openTime lockTime entryCutoff nowUnix : Int) :
    Bool :=
  if status ≠ .open then false
  else openTime ≤ nowUnix && nowUnix < lockTime - entryCutoff

def phaseOf (status : Ledger.RoundStatus) (openTime lockTime entryCutoff nowUnix : Int) : Phase :=
  match status with
  | .resolved => .resolved
  | .void => .void
  | .locked => .observation
  | .open | .unset =>
      if entryIsOpen status openTime lockTime entryCutoff nowUnix then .open else .cutoff

def bigMulDiv (a b denominator : Int) : Int :=
  if denominator = 0 then 0 else a * b / denominator

/-- Zero for an empty side. -/
def odds (sidePool upPool downPool rake : Int) : Int :=
  if sidePool = 0 then 0
  else
    let pool := upPool + downPool
    let net := pool - bigMulDiv pool rake WAD
    bigMulDiv net WAD sidePool

structure Position where
  upStake : Int
  downStake : Int
  claimed : Bool

def claimable (pos : Position) (status : Ledger.RoundStatus) (winner : Index.Text)
    (upPool downPool : Int) (rakeTaken : Option Int) : Int :=
  if pos.claimed then 0
  else
    match status with
    | .void => pos.upStake + pos.downStake
    | .unset | .open | .locked => 0
    | .resolved =>
        let (stake, winningPool) :=
          if winner = Ledger.sideUp then (pos.upStake, upPool) else (pos.downStake, downPool)
        if stake = 0 ∨ winningPool = 0 then 0
        else bigMulDiv (upPool + downPool - rakeTaken.getD 0) stake winningPool

/-! ## Over the contract's figures -/

theorem big_mul_div_cast (a b denominator : Nat) :
    bigMulDiv a b denominator = (mulDiv a b denominator : Nat) := by
  unfold bigMulDiv
  split_ifs with none
  · rw [Int.natCast_eq_zero] at none
    rw [none, mulDiv, Nat.div_zero]
    rfl
  · rw [mulDiv, Int.natCast_div, Nat.cast_mul]

variable {Address Rest : Type} [Zero Address] {cfg : Market.Config Address Rest}

/-- The contract's status, in the words of the projection. -/
def statusOf : Market.Status → Ledger.RoundStatus
  | .none => .unset
  | .open => .open
  | .locked => .locked
  | .resolved => .resolved
  | .void => .void

def sideText : Market.Side → Index.Text
  | .up => Ledger.sideUp
  | .down => Ledger.sideDown

section Rounds

variable {x : Exchange Address Rest} {roundId : Nat}

theorem entry_is_open_eq
    (schedule : (x.market.rounds roundId).status ≠ .none →
      cfg.entryCutoff.val ≤ (x.market.rounds roundId).lockTime.val) :
    entryIsOpen (statusOf (x.market.rounds roundId).status)
        (x.market.rounds roundId).openTime.val (x.market.rounds roundId).lockTime.val
        cfg.entryCutoff.val x.timestamp = Market.entryIsOpen cfg x roundId := by
  unfold entryIsOpen Market.entryIsOpen Market.cutoffAt
  cases status : (x.market.rounds roundId).status with
  | «open» =>
      have cutoff := schedule (by rw [status]; decide)
      have sameCutoff : (x.timestamp : Int) <
          ((x.market.rounds roundId).lockTime.val : Int) - cfg.entryCutoff.val ↔
            x.timestamp < (x.market.rounds roundId).lockTime.val - cfg.entryCutoff.val := by
        omega
      simp only [statusOf, sameCutoff, Nat.cast_le]
      simp [status]
  | none => simp [statusOf, status]
  | locked => simp [statusOf, status]
  | resolved => simp [statusOf, status]
  | void => simp [statusOf, status]

theorem phase_of_eq
    (schedule : (x.market.rounds roundId).status ≠ .none →
      cfg.entryCutoff.val ≤ (x.market.rounds roundId).lockTime.val)
    (known : (x.market.rounds roundId).status ≠ .none) :
    some (phaseOf (statusOf (x.market.rounds roundId).status)
        (x.market.rounds roundId).openTime.val (x.market.rounds roundId).lockTime.val
        cfg.entryCutoff.val x.timestamp) = Phase.shown (Market.phaseOf cfg x roundId) := by
  have entry := entry_is_open_eq schedule
  unfold phaseOf Market.phaseOf
  cases status : (x.market.rounds roundId).status with
  | none => exact absurd status known
  | «open» =>
      rw [status] at entry
      simp only [statusOf] at entry ⊢
      cases opened : Market.entryIsOpen cfg x roundId with
      | false => simp [entry.trans opened, Phase.shown]
      | true => simp [entry.trans opened, Phase.shown]
  | locked => rfl
  | resolved => rfl
  | void => rfl

theorem odds_eq (ledger : Market.Ledger Address) (side : Market.Side) :
    odds ((ledger.rounds roundId).poolOf side : Nat) (ledger.rounds roundId).upPool
        (ledger.rounds roundId).downPool cfg.rake = Market.oddsOf cfg ledger roundId side := by
  have rakeLe : cfg.rake ≤ WAD := cfg.rake_le.trans (Nat.div_le_self _ _)
  unfold odds Market.oddsOf
  have zero : (((ledger.rounds roundId).poolOf side : Nat) : Int) = 0 ↔
      Market.poolOf ledger roundId side = 0 := Int.natCast_eq_zero
  simp only [zero]
  split_ifs with empty
  · rfl
  · have pool : ((ledger.rounds roundId).upPool : Int) + (ledger.rounds roundId).downPool =
        (Market.totalPool ledger roundId : Nat) := (Nat.cast_add _ _).symm
    have kept : mulDiv (Market.totalPool ledger roundId) cfg.rake WAD ≤
        Market.totalPool ledger roundId := mul_div_le_left _ rakeLe
    rw [pool, big_mul_div_cast, ← Nat.cast_sub kept, big_mul_div_cast]
    rfl

variable [Fintype Address] {terms : Market.Terms}

theorem claimable_eq (ledger : Market.Ledger Address) (user : Address)
    (sound : ledger.RoundSound terms roundId) :
    claimable ⟨ledger.stakeOf roundId user .up, ledger.stakeOf roundId user .down,
          ledger.claimed roundId user⟩
        (statusOf (ledger.rounds roundId).status) (sideText (ledger.rounds roundId).winner)
        (ledger.rounds roundId).upPool (ledger.rounds roundId).downPool
        (some ((ledger.rounds roundId).rakeTaken : Int)) =
      Market.claimableOf ledger roundId user := by
  have raked := Market.rake_le_total sound
  unfold claimable Market.claimableOf Market.entitlementOf
  cases ledger.claimed roundId user with
  | true => rfl
  | false =>
      simp only [Bool.false_eq_true, if_false]
      cases status : (ledger.rounds roundId).status with
      | none => rfl
      | «open» => rfl
      | locked => rfl
      | void =>
          simp only [statusOf, Market.stakesOf]
          exact (Nat.cast_add _ _).symm
      | resolved =>
          have pool : ((ledger.rounds roundId).upPool : Int) + (ledger.rounds roundId).downPool -
              (ledger.rounds roundId).rakeTaken =
                (Market.totalPool ledger roundId - (ledger.rounds roundId).rakeTaken : Nat) := by
            rw [Nat.cast_sub raked, Market.totalPool, Nat.cast_add]
          have share (stake winningPool : Nat) :
              (if (stake : Int) = 0 ∨ (winningPool : Int) = 0 then (0 : Int)
                else bigMulDiv ((ledger.rounds roundId).upPool +
                  (ledger.rounds roundId).downPool - (ledger.rounds roundId).rakeTaken)
                    stake winningPool) =
                ((if stake = 0 then 0 else
                  mulDiv (Market.totalPool ledger roundId - (ledger.rounds roundId).rakeTaken)
                    stake winningPool : Nat) : Int) := by
            rw [pool, big_mul_div_cast]
            by_cases staked : stake = 0
            · simp [staked]
            · by_cases empty : winningPool = 0
              · simp [empty, mulDiv]
              · simp [staked, empty]
          simp only [statusOf, Market.shareOf, Option.getD_some]
          cases winner : (ledger.rounds roundId).winner with
          | up =>
              have same : sideText .up = Ledger.sideUp := rfl
              rw [if_pos same]
              exact share _ _
          | down =>
              have other : sideText .down ≠ Ledger.sideUp := by decide
              rw [if_neg other]
              exact share _ _

end Rounds

end Finance

end Ghoststake
