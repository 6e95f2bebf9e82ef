import Ghoststake.Library.Indifference
import Ghoststake.Market.Model

/-!
# What a pause leaves alone in the market

A round that has opened is locked, settled, voided and paid the same whatever
is paused, in the market or in what stands beside it.
-/

set_option autoImplicit false

open Checked Indifference

namespace Ghoststake

variable {Address Rest : Type}

/-- The same exchange with the market's pause replaced, and the rest of it changed. -/
def Exchange.paused (entries : EntryPausable Address) (others : Rest → Rest)
    (x : Exchange Address Rest) : Exchange Address Rest :=
  { x with
    market := { x.market with toEntryPausable := entries }
    rest := others x.rest }

namespace Market

variable [Zero Address] (cfg : Config Address Rest) (entries : EntryPausable Address)
  (others : Rest → Rest) (x : Exchange Address Rest) (roundId : Nat)

section Writes

omit [Zero Address]

theorem market_emit_of_paused (event : Event Address) :
    (x.paused entries others).emit event = (x.emit event).paused entries others := rfl

theorem set_ledger_of_paused (ledger : Ledger Address) :
    (x.paused entries others).setLedger ledger = (x.setLedger ledger).paused entries others := rfl

theorem market_pay_paused (call : Erc20 Address → Outcome Address (Erc20 Address)) :
    (x.paused entries others).pay call = (x.pay call).map (Exchange.paused entries others) := by
  unfold Exchange.pay
  rw [map_bind]
  rfl

theorem ledger_paused : (x.paused entries others).market.toLedger = x.market.toLedger := rfl

theorem market_timestamp_paused : (x.paused entries others).timestamp = x.timestamp := rfl

end Writes

theorem require_status_paused (status : Status) :
    requireStatus cfg (x.paused entries others) roundId status =
      requireStatus cfg x roundId status := rfl

theorem lock_in_window_paused :
    lockInWindow cfg roundId (x.paused entries others) =
      (lockInWindow cfg roundId x).map (Exchange.paused entries others) := by
  unfold lockInWindow
  rw [ledger_paused, market_timestamp_paused, map_bind]
  refine bind_congr fun deadline => ?_
  split_ifs
  · rfl
  · rfl

theorem lock_round_ignores :
    Ignores (Exchange.paused entries others) (lockRound cfg roundId) := by
  intro x
  unfold lockRound
  rw [require_status_paused, lock_in_window_paused]
  simp only [map_bind]
  refine bind_congr fun _ => bind_congr fun _ => ?_
  rw [ledger_paused]
  split_ifs
  · rfl
  · rfl

theorem settle_at_paused (price : Nat) :
    settleAt cfg roundId price (x.paused entries others) =
      (settleAt cfg roundId price x).paused entries others := by
  unfold settleAt
  dsimp only
  rw [ledger_paused]
  split_ifs
  · rfl
  · rfl

/-- The oracle, too, reads the same whatever is paused. -/
def Unswayed (cfg : Config Address Rest) (entries : EntryPausable Address)
    (others : Rest → Rest) : Prop :=
  ∀ x oracleRoundId target,
    cfg.readAt (x.paused entries others) oracleRoundId target = cfg.readAt x oracleRoundId target

theorem resolve_round_ignores (unswayed : Unswayed cfg entries others)
    (closeOracleRoundId : Uint80) :
    Ignores (Exchange.paused entries others) (resolveRound cfg roundId closeOracleRoundId) := by
  intro x
  unfold resolveRound
  rw [require_status_paused]
  simp only [map_bind, map_ok]
  rw [ledger_paused, market_timestamp_paused, unswayed]
  simp only [settle_at_paused]

variable [DecidableEq Address]

theorem void_unsettled_round_ignores (sender : Address) :
    Ignores (Exchange.paused entries others) (voidUnsettledRound cfg sender roundId) := by
  intro x
  unfold voidUnsettledRound
  rw [require_status_paused]
  simp only [map_bind, map_ok]
  rfl

omit [DecidableEq Address] in
theorem void_unlocked_round_ignores :
    Ignores (Exchange.paused entries others) (voidUnlockedRound cfg roundId) := by
  intro x
  unfold voidUnlockedRound
  rw [require_status_paused]
  simp only [map_bind, map_ok]
  rfl

theorem pay_claim_paused (user : Address) :
    payClaim cfg roundId user (x.paused entries others) =
      (payClaim cfg roundId user x).map (Exchange.paused entries others) := by
  unfold payClaim
  dsimp only
  rw [ledger_paused, set_ledger_of_paused, market_pay_paused]
  simp only [map_bind]

theorem claim_ignores {sinks : Sinks Address Rest}
    (settles : ∀ sink user amount,
      Ignores (Exchange.paused entries others) (sinks sink user amount)) (user : Address) :
    Ignores (Exchange.paused entries others) (claim cfg sinks roundId user) := by
  have notified : ∀ sink user amount (paid : Exchange Address Rest),
      notifySink sinks sink user amount (paid.paused entries others) =
        (notifySink sinks sink user amount paid).map (Exchange.paused entries others) := by
    intro sink user amount paid
    unfold notifySink
    split_ifs
    · exact settles sink user amount paid
    · rfl
  intro x
  unfold claim
  dsimp only
  rw [ledger_paused, pay_claim_paused]
  simp only [notified, market_emit_of_paused, bind_of_map, map_bind, map_ok]

theorem withdraw_fees_ignores (sender : Address) (amount : Nat) :
    Ignores (Exchange.paused entries others) (withdrawFees cfg sender amount) := by
  intro x
  unfold withdrawFees
  dsimp only
  rw [ledger_paused, set_ledger_of_paused, market_pay_paused]
  simp only [market_emit_of_paused, bind_of_map, map_bind, map_ok]
  rfl

end Market

end Ghoststake
