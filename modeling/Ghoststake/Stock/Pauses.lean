import Ghoststake.Pool.Pauses
import Ghoststake.Stock.Liquidation

/-!
# Pausing traps no loan

Collateral is withdrawn, and a loan repaid, liquidated or written off, the same
whatever is paused in the vault or in its pool; and neither takes anything in
while it is closed.
-/

set_option autoImplicit false

open Checked Indifference

namespace Ghoststake

variable {Address : Type}

/-- The same block with the pauses of the vault and of the pool replaced. -/
def Brokerage.paused (entries lending : EntryPausable Address) (b : Brokerage Address) :
    Brokerage Address :=
  { b with
    pool := b.pool.paused lending
    stock := { b.stock with toEntryPausable := entries } }

namespace Stock

section Reads

variable [Zero Address] (cfg : Config Address) (entries lending : EntryPausable Address)
  (b : Brokerage Address) (c : Collateral Address) (user : Address)

omit [Zero Address] in
theorem collateral_of_paused :
    (b.paused entries lending).stock.collateralOf = b.stock.collateralOf := rfl

omit [Zero Address] in
theorem debt_of_paused : debtOf (b.paused entries lending) user = debtOf b user := by
  unfold debtOf
  exact Pool.balance_of_debt_paused lending b.pool user

theorem price_paused (maxAge : Nat) :
    price c maxAge (b.paused entries lending) = price c maxAge b := rfl

theorem multiplier_paused : multiplier c (b.paused entries lending) = multiplier c b := rfl

theorem value_paused (amount maxAge : Nat) :
    value cfg c amount maxAge (b.paused entries lending) = value cfg c amount maxAge b := by
  unfold value
  rw [price_paused, multiplier_paused]

theorem tokens_for_paused (stableAmount : Nat) :
    tokensFor cfg c stableAmount (b.paused entries lending) = tokensFor cfg c stableAmount b := by
  unfold tokensFor
  rw [price_paused, multiplier_paused]

theorem totals_paused (forLiquidation : Bool) :
    totals cfg user forLiquidation (b.paused entries lending) =
      totals cfg user forLiquidation b := by
  have turn : addCollateral cfg user forLiquidation (b.paused entries lending) =
      addCollateral cfg user forLiquidation b := by
    funext sums c
    unfold addCollateral
    rw [collateral_of_paused, value_paused]
  unfold totals
  rw [turn]

theorem max_repay_paused :
    maxRepay cfg c user (b.paused entries lending) = maxRepay cfg c user b := by
  unfold maxRepay
  rw [debt_of_paused, totals_paused]

theorem price_of_everything_paused (value : Nat) :
    priceOfEverything cfg user value (b.paused entries lending) =
      priceOfEverything cfg user value b := by
  unfold priceOfEverything largestBonus
  rw [collateral_of_paused]

theorem within_limit_paused :
    withinLimit cfg user (b.paused entries lending) = withinLimit cfg user b := by
  unfold withinLimit
  rw [debt_of_paused, totals_paused]

end Reads

section Writes

variable [DecidableEq Address] (entries lending : EntryPausable Address) (b : Brokerage Address)
  (user token : Address) (amount : Nat)

omit [DecidableEq Address] in
theorem emit_of_paused (event : Event Address) :
    (b.paused entries lending).emit event = (b.emit event).paused entries lending := rfl

theorem set_collateral_of_paused :
    (b.paused entries lending).setCollateral user token amount =
      (b.setCollateral user token amount).paused entries lending := rfl

theorem pay_paused (call : Erc20 Address → Outcome Address (Erc20 Address)) :
    (b.paused entries lending).pay token call =
      (b.pay token call).map (Brokerage.paused entries lending) := by
  unfold Brokerage.pay
  rw [map_bind]
  rfl

theorem lend_paused {call : Lending Address → Outcome Address (Lending Address)}
    (ignores : Ignores (Lending.paused lending) call) :
    (b.paused entries lending).lend token call =
      (b.lend token call).map (Brokerage.paused entries lending) := by
  have same : call ((b.paused entries lending).lending token) =
      (call (b.lending token)).map (Lending.paused lending) := ignores (b.lending token)
  unfold Brokerage.lend
  rw [same, bind_of_map, map_bind]
  rfl

variable [Zero Address] (cfg : Config Address)

theorem accrue_pool_paused :
    accruePool cfg (b.paused entries lending) =
      (accruePool cfg b).paused entries lending := by
  have accrued : Pool.accrue cfg.pool ((b.paused entries lending).lending cfg.stable) =
      (Pool.accrue cfg.pool (b.lending cfg.stable)).paused lending :=
    Pool.accrue_paused cfg.pool lending (b.lending cfg.stable)
  unfold accruePool
  rw [accrued]
  rfl

theorem pay_treasury_paused :
    payTreasury cfg amount (b.paused entries lending) =
      (payTreasury cfg amount b).map (Brokerage.paused entries lending) := by
  unfold payTreasury
  split_ifs
  · exact pay_paused entries lending b cfg.stable _
  · rfl

theorem repay_pool_paused :
    repayPool cfg amount user (b.paused entries lending) =
      (repayPool cfg amount user b).map (Brokerage.paused entries lending) := by
  unfold repayPool
  rw [pay_paused, bind_of_map, map_bind]
  refine bind_congr fun approved => ?_
  exact lend_paused entries lending approved cfg.stable
    (Pool.repay_ignores cfg.pool lending cfg.address amount user)

theorem buy_out_paused (sender : Address) :
    buyOut cfg sender user amount (b.paused entries lending) =
      (buyOut cfg sender user amount b).map (Brokerage.paused entries lending) := by
  unfold buyOut
  split_ifs
  · simp only [pay_paused, repay_pool_paused, bind_of_map, map_bind]
  · rfl

theorem hand_over_ignores (sender : Address) (c : Collateral Address) :
    Ignores (Prod.map id (Brokerage.paused entries lending))
      fun turn => handOver cfg sender user turn c := by
  intro turn
  unfold handOver
  dsimp only [Prod.map, id]
  rw [collateral_of_paused]
  by_cases none : turn.2.stock.collateralOf user c.token = 0
  · rw [if_pos none, if_pos none]
    rfl
  · rw [if_neg none, if_neg none, set_collateral_of_paused, pay_paused, bind_of_map, map_bind]
    rfl

theorem hand_over_collateral_paused (sender : Address) :
    handOverCollateral cfg sender user (b.paused entries lending) =
      (handOverCollateral cfg sender user b).map
        (Prod.map id (Brokerage.paused entries lending)) := by
  have loop : Ignores (Prod.map id (Brokerage.paused entries lending)) fun turn =>
      cfg.collaterals.foldlM (handOver cfg sender user) turn :=
    fold_ignores fun c => hand_over_ignores entries lending user cfg sender c
  exact loop (0, b)

end Writes

/-! ## Leaving -/

section Leaving

variable [DecidableEq Address] [Zero Address] (cfg : Config Address)
  (entries lending : EntryPausable Address) (sender user token : Address) (amount : Nat)

theorem withdraw_ignores :
    Ignores (Brokerage.paused entries lending) (withdraw cfg sender token amount) := by
  intro b
  unfold withdraw
  simp only [map_bind]
  rw [collateral_of_paused, set_collateral_of_paused, accrue_pool_paused, within_limit_paused]
  simp only [pay_paused, emit_of_paused, bind_of_map, map_ok]

theorem repay_ignores :
    Ignores (Brokerage.paused entries lending) (repay cfg sender amount user) := by
  intro b
  unfold repay
  simp only [map_bind]
  rw [accrue_pool_paused]
  generalize accruePool cfg b = accrued
  rw [debt_of_paused]
  simp only [pay_paused, repay_pool_paused, emit_of_paused, bind_of_map, map_ok]

theorem liquidate_ignores :
    Ignores (Brokerage.paused entries lending) (liquidate cfg sender user token amount) := by
  intro b
  unfold liquidate
  simp only [map_bind]
  rw [accrue_pool_paused]
  generalize accruePool cfg b = accrued
  rw [collateral_of_paused]
  refine bind_congr fun c => ?_
  rw [max_repay_paused]
  refine bind_congr fun limit => bind_congr fun _ => bind_congr fun _ => bind_congr fun _ => ?_
  rw [tokens_for_paused]
  refine bind_congr fun wanted => ?_
  rw [set_collateral_of_paused]
  simp only [pay_paused, repay_pool_paused, pay_treasury_paused, debt_of_paused, emit_of_paused,
    bind_of_map, map_ok]

theorem write_off_bad_debt_ignores :
    Ignores (Brokerage.paused entries lending) (writeOffBadDebt cfg sender user) := by
  intro b
  unfold writeOffBadDebt
  simp only [map_bind]
  rw [accrue_pool_paused]
  generalize accruePool cfg b = accrued
  rw [debt_of_paused, totals_paused, hand_over_collateral_paused]
  refine bind_congr fun sums => bind_congr fun _ => ?_
  rw [price_of_everything_paused, bind_of_map]
  refine bind_congr fun handed => ?_
  dsimp only [Prod.map, id]
  rw [buy_out_paused, bind_of_map]
  refine bind_congr fun bought => ?_
  have absorbed : Pool.absorbBadDebt cfg.pool cfg.address user
      ((bought.paused entries lending).lending cfg.stable) =
        (Pool.absorbBadDebt cfg.pool cfg.address user (bought.lending cfg.stable)).map
          fun absorbed => (absorbed.1, absorbed.2.paused lending) :=
    Pool.absorb_bad_debt_paused cfg.pool lending cfg.address user (bought.lending cfg.stable)
  rw [absorbed, bind_of_map]
  rfl

end Leaving

/-- What only leaves the vault or its pool; the feeds and the tokens do as they like. -/
def Action.Leaves : Action Address → Prop
  | .stock _ (.withdraw _ _) | .stock _ (.repay _ _) | .stock _ (.liquidate _ _ _)
  | .stock _ (.writeOffBadDebt _) => True
  | .stock _ (.deposit _ _) | .stock _ (.borrow _) | .stock _ (.guard _) => False
  | .pool _ call => call.Leaves
  | .asset _ _ _ | .feeds _ | .multipliers _ | .wait _ => True

section Runs

variable [DecidableEq Address] [Zero Address] (cfg : Config Address)
  (entries lending : EntryPausable Address)

theorem act_ignores {action : Action Address} (leaves : action.Leaves) :
    Ignores (Brokerage.paused entries lending) fun b => act cfg b action := by
  cases action with
  | stock sender call =>
      cases call with
      | withdraw token amount =>
          exact withdraw_ignores cfg entries lending sender token amount
      | repay amount user => exact repay_ignores cfg entries lending sender user amount
      | liquidate user token amount =>
          exact liquidate_ignores cfg entries lending sender user token amount
      | writeOffBadDebt user =>
          exact write_off_bad_debt_ignores cfg entries lending sender user
      | deposit _ _ => exact leaves.elim
      | borrow _ => exact leaves.elim
      | guard _ => exact leaves.elim
  | pool sender call =>
      exact fun b => lend_paused entries lending b cfg.stable
        (Pool.exec_ignores cfg.pool lending sender leaves)
  | asset token sender call =>
      exact fun b => pay_paused entries lending b token fun state => state.exec sender call
  | feeds latestRoundData => exact fun b => rfl
  | multipliers uiMultiplier => exact fun b => rfl
  | wait seconds => exact fun b => rfl

/-! ## Entering -/

/-- A call that would let something into a contract that is closed. -/
def Action.Barred (b : Brokerage Address) : Action Address → Prop
  | .stock _ (.deposit _ _) => b.stock.entriesPaused = true
  | .stock _ (.borrow _) => b.stock.entriesPaused = true ∨ b.pool.entriesPaused = true
  | .pool _ (.supply _) | .pool _ (.borrow _ _) => b.pool.entriesPaused = true
  | _ => False

variable {b after : Brokerage Address}

theorem open_of_borrow {sender : Address} {amount : Nat}
    (ran : borrow cfg sender amount b = .ok after) :
    b.stock.entriesPaused = false ∧ b.pool.entriesPaused = false := by
  unfold borrow at ran
  obtain ⟨_, passed, ran⟩ := (bind_ok_iff _ _ _).1 ran
  obtain ⟨_, _, ran⟩ := (bind_ok_iff _ _ _).1 ran
  obtain ⟨_, _, ran⟩ := (bind_ok_iff _ _ _).1 ran
  obtain ⟨_, _, ran⟩ := (bind_ok_iff _ _ _).1 ran
  obtain ⟨_, lent, _⟩ := (bind_ok_iff _ _ _).1 ran
  obtain ⟨l, borrowed, _⟩ := Brokerage.lend_ok_iff.1 lent
  have isOpen := Pool.open_of_borrow borrowed
  have same : ((accruePool cfg b).lending cfg.stable).pool.entriesPaused =
      b.pool.entriesPaused := Pool.entries_of_accrue cfg.pool (b.lending cfg.stable)
  exact ⟨Pool.open_of_passed passed, same.symm.trans isOpen⟩

theorem barred_reverts {action : Action Address} (barred : action.Barred b) :
    act cfg b action ≠ .ok after := by
  intro ran
  cases action with
  | stock sender call =>
      cases call with
      | deposit token amount =>
          have deposited : deposit cfg sender token amount b = .ok after := ran
          unfold deposit at deposited
          obtain ⟨_, passed, _⟩ := (bind_ok_iff _ _ _).1 deposited
          exact Bool.false_ne_true ((Pool.open_of_passed passed).symm.trans barred)
      | borrow amount =>
          obtain ⟨entering, lending⟩ := open_of_borrow cfg ran
          obtain closed | closed := barred
          · exact Bool.false_ne_true (entering.symm.trans closed)
          · exact Bool.false_ne_true (lending.symm.trans closed)
      | _ => exact barred.elim
  | pool sender call =>
      have called : b.lend cfg.stable (fun l => Pool.exec cfg.pool sender l call) = .ok after :=
        ran
      obtain ⟨l, done, _⟩ := Brokerage.lend_ok_iff.1 called
      cases call with
      | supply amount =>
          have isOpen := Pool.open_of_supply done
          exact Bool.false_ne_true (isOpen.symm.trans barred)
      | borrow amount user =>
          have isOpen := Pool.open_of_borrow done
          exact Bool.false_ne_true (isOpen.symm.trans barred)
      | _ => exact barred.elim
  | asset _ _ _ => exact barred.elim
  | feeds _ => exact barred.elim
  | multipliers _ => exact barred.elim
  | wait _ => exact barred.elim

/-! ## Both at once -/

/-- Whatever is closed, exits run as if nothing were; and what is closed takes nothing in. -/
theorem pausing_traps_no_loan (b : Brokerage Address) (actions : List (Action Address)) :
    ((∀ action ∈ actions, action.Leaves) →
      Machine.replay (act cfg) (b.paused entries lending) actions =
        (Machine.replay (act cfg) b actions).map (Brokerage.paused entries lending)) ∧
    ∀ action : Action Address, action.Barred b → ∀ after, act cfg b action ≠ .ok after := by
  constructor
  · intro leaving
    have run : Ignores (Brokerage.paused entries lending)
        fun b => Machine.replay (act cfg) b actions :=
      replay_ignores fun action member => act_ignores cfg entries lending (leaving action member)
    exact run b
  · intro action barred after
    exact barred_reverts cfg barred

end Runs

/-- A liquidation with the vault and the pool closed, under nobody. -/
theorem liquidation_while_closed :
    ∃ b after, (machine loans).Reachable b ∧
      Machine.replay (act loans) (b.paused ⟨true, 0⟩ ⟨true, 0⟩)
        [.wait 5, .stock 3 (.liquidate 2 8 uint256Max)] =
          .ok (Brokerage.paused ⟨true, 0⟩ ⟨true, 0⟩ after) := by
  obtain ⟨b, reached, checked⟩ := reachable_of_run fallenRun
    (fun b => passes (Machine.replay (act loans) b
      [.wait 5, .stock 3 (.liquidate 2 8 uint256Max)]) fun _ => true)
    (by decide) (by decide +kernel)
  obtain ⟨after, liquidated, _⟩ := exists_of_passes _ checked
  refine ⟨b, after, reached, ?_⟩
  have same := (pausing_traps_no_loan loans ⟨true, 0⟩ ⟨true, 0⟩ b
    [.wait 5, .stock 3 (.liquidate 2 8 uint256Max)]).1 (by
      intro action member
      simp only [List.mem_cons, List.not_mem_nil, or_false] at member
      obtain rfl | rfl := member
      · exact trivial
      · exact trivial)
  rw [same, liquidated]
  rfl

end Stock

end Ghoststake
