import Ghoststake.Stock.Steps

/-!
# Custody of the collateral

What every history of the stock vault keeps: the collateral on record is all
there, so nothing the vault pays out finds it short, and nothing but a fee it
pays to itself stays behind.
-/

namespace Ghoststake

set_option autoImplicit false

open Checked Rounding

namespace Stock

variable {Address : Type} [DecidableEq Address] [Zero Address] [Fintype Address]
  {cfg : Config Address} {b after : Brokerage Address} {sender user token : Address}
  {amount fee : Nat}

structure Custody (cfg : Config Address) (b : Brokerage Address) : Prop where
  covered : ∀ token,
    ∑ user, b.stock.collateralOf user token ≤ (b.tokens token).balanceOf cfg.address
  unapproved : ∀ token spender, spender ≠ cfg.pool.address →
    (b.tokens token).allowance cfg.address spender = 0
  sound : b.pool.Sound

omit [DecidableEq Address] in
theorem spare_nonneg_iff :
    0 ≤ spare cfg b token ↔
      ∑ user, b.stock.collateralOf user token ≤ (b.tokens token).balanceOf cfg.address := by
  unfold spare
  omega

omit [DecidableEq Address] in
theorem Custody.of_effect {flow : Address → Int} (custody : Custody cfg b)
    (effect : Effect cfg user flow b after) (gains : ∀ token, 0 ≤ flow token) :
    Custody cfg after where
  covered token := by
    have before := spare_nonneg_iff.2 (custody.covered token)
    have gain := gains token
    rw [← spare_nonneg_iff, effect.spare]
    omega
  unapproved token spender distinct :=
    (effect.allowance token spender distinct).trans (custody.unapproved token spender distinct)
  sound := effect.sound custody.sound

omit [Fintype Address] [DecidableEq Address] in
theorem kept_nonneg [DecidableEq Address] (cfg : Config Address) (b : Brokerage Address)
    (fee : Nat) : 0 ≤ kept cfg b fee := by
  unfold kept
  split_ifs <;> omega

theorem custody_of_exec {call : Call Address} (custody : Custody cfg b)
    (outsider : Outsider cfg sender) (ran : exec cfg sender b call = .ok after) :
    Custody cfg after := by
  obtain ⟨fee, _, effect⟩ := effect_of_exec outsider.1 ran
  apply custody.of_effect effect
  intro token
  rw [Pi.single_apply]
  split_ifs
  · exact kept_nonneg cfg b fee
  · exact Int.le_refl 0

/-- A token that loses nothing of the vault's and gives nobody an allowance. -/
theorem custody_of_set_token {state : Erc20 Address} (custody : Custody cfg b)
    (cash : (b.tokens token).balanceOf cfg.address ≤ state.balanceOf cfg.address)
    (allowance : state.allowance cfg.address = (b.tokens token).allowance cfg.address) :
    Custody cfg (b.setToken token state) where
  covered other := by
    rw [Brokerage.set_token_stock]
    by_cases same : other = token
    · subst same
      rw [Brokerage.set_token_self]
      exact (custody.covered other).trans cash
    · rw [Brokerage.set_token_other b state same]
      exact custody.covered other
  unapproved other spender distinct := by
    by_cases same : other = token
    · subst same
      rw [Brokerage.set_token_self, allowance]
      exact custody.unapproved other spender distinct
    · rw [Brokerage.set_token_other b state same]
      exact custody.unapproved other spender distinct
  sound := custody.sound

theorem custody_of_step {action : Action Address} (custody : Custody cfg b)
    (taken : (machine cfg).step b action after) : Custody cfg after := by
  obtain ⟨external, ran⟩ := taken
  cases action with
  | stock sender call => exact custody_of_exec custody external ran
  | pool sender call =>
      simp only [act, Brokerage.lend_ok_iff] at ran
      obtain ⟨l, called, rfl⟩ := ran
      obtain ⟨cash, allowance⟩ := Pool.exec_keeps_bystander external.1.symm called
      have token : Custody cfg (b.setToken cfg.stable l.token) :=
        custody_of_set_token custody (cash cfg.pool_live.2.symm) allowance
      exact ⟨token.covered, token.unapproved, Pool.sound_exec custody.sound called⟩
  | asset token sender call =>
      simp only [act, Brokerage.pay_ok_iff] at ran
      obtain ⟨state, called, rfl⟩ := ran
      have unapproved : ∀ spender, spender = sender →
          (b.tokens token).allowance cfg.address spender = 0 := by
        rintro spender rfl
        exact custody.unapproved token spender external.2
      obtain ⟨cash, allowance⟩ := Erc20.exec_keeps_unapproved external.1 unapproved called
      exact custody_of_set_token custody cash allowance
  | feeds latestRoundData =>
      cases ran
      exact ⟨custody.covered, custody.unapproved, custody.sound⟩
  | multipliers uiMultiplier =>
      cases ran
      exact ⟨custody.covered, custody.unapproved, custody.sound⟩
  | wait seconds =>
      cases ran
      exact ⟨custody.covered, custody.unapproved, custody.sound⟩

theorem custody_of_reachable (reached : (machine cfg).Reachable b) : Custody cfg b := by
  apply reached.invariant (Custody cfg)
  · intro state start
    obtain ⟨guardian, fresh⟩ := start.fresh
    have sound := Pool.sound_of_reachable start.pool_history
    refine ⟨?_, fun token spender _ => start.unapproved token spender, sound⟩
    intro token
    rw [fresh]
    simp [deployed]
  · intro state action next _ custody taken
    exact custody_of_step custody taken

/-! ## Nothing finds the vault short -/

/-- A program that no lack of funds of the vault's stops. -/
def Afforded {Result : Type} (cfg : Config Address)
    (program : Outcome Address Result) : Prop :=
  ∀ balance needed, program ≠ .error (.erc20InsufficientBalance cfg.address balance needed)

section Afforded

variable {First Result : Type} {program : Outcome Address First}
  {next : First → Outcome Address Result}

omit [DecidableEq Address] [Fintype Address] in
theorem Afforded.bind (first : Afforded cfg program)
    (rest : ∀ value, program = .ok value → Afforded cfg (next value)) :
    Afforded cfg (program >>= next) := by
  intro balance needed
  exact bind_avoids (first balance needed) fun value ran => rest value ran balance needed

omit [DecidableEq Address] [Fintype Address] in
theorem Afforded.ok (result : Result) : Afforded cfg (.ok result) := by
  intro balance needed
  nofun

omit [DecidableEq Address] [Fintype Address] in
theorem Afforded.guard {condition : Prop} [Decidable condition] {error : Revert Address}
    {rest : Unit → Outcome Address Result}
    (other : ∀ balance needed, error ≠ .erc20InsufficientBalance cfg.address balance needed)
    (passes : condition → Afforded cfg (rest ())) :
    Afforded cfg (require condition error >>= rest) := by
  intro balance needed
  exact guard_avoids (other balance needed) fun holds => passes holds balance needed

end Afforded

/-! ### Statement by statement -/

section Statements

omit [Fintype Address] in
/-- A move complains of the account it moves from, and only when that is short. -/
theorem afforded_move (state : Erc20 Address) {source target : Address}
    (fine : source = cfg.address → amount ≤ state.balanceOf source) :
    Afforded cfg (state.move source target amount) := by
  apply Afforded.guard (by nofun)
  intro live
  apply Afforded.guard (by nofun)
  intro _
  apply Afforded.bind _ fun _ _ => .ok _
  unfold Erc20.take
  rw [if_neg live]
  by_cases own : source = cfg.address
  · rw [require_of _ (fine own), ok_bind]
    exact .ok _
  · intro balance needed
    apply guard_avoids
    · intro same
      cases same
      exact own rfl
    · nofun

omit [Fintype Address] in
theorem afforded_transfer_from (state : Erc20 Address) {spender source target : Address}
    (fine : source = cfg.address → amount ≤ state.balanceOf source) :
    Afforded cfg (state.transferFrom spender source target amount) := by
  apply Afforded.bind
  · unfold Erc20.spendAllowance
    split_ifs
    · apply Afforded.guard (by simp)
      intro _
      apply Afforded.guard (by simp)
      intro _
      apply Afforded.guard (by simp)
      intro _
      exact .ok _
    · exact .ok _
  · intro spent spends
    obtain ⟨_, rfl⟩ := (Erc20.spend_allowance_ok_iff _ _ _ _ _).1 spends
    exact afforded_move _ fine

omit [Fintype Address] in
theorem afforded_pay {call : Erc20 Address → Outcome Address (Erc20 Address)}
    (called : Afforded cfg (call (b.tokens token))) : Afforded cfg (b.pay token call) :=
  called.bind fun _ _ => .ok _

omit [Fintype Address] in
theorem afforded_pull (outsider : sender ≠ cfg.address) :
    Afforded cfg (b.pay token fun state =>
      state.transferFrom cfg.address sender cfg.address amount) :=
  afforded_pay (afforded_transfer_from _ fun own => absurd own outsider)

omit [DecidableEq Address] in
theorem held_of_spare (room : (amount : Int) ≤ spare cfg b token) :
    amount ≤ (b.tokens token).balanceOf cfg.address := by
  unfold spare at room
  omega

theorem afforded_push {target : Address} (room : (amount : Int) ≤ spare cfg b token) :
    Afforded cfg (b.pay token fun state => state.move cfg.address target amount) :=
  afforded_pay (afforded_move _ fun _ => held_of_spare room)

theorem afforded_pay_treasury (room : (fee : Int) ≤ spare cfg b cfg.stable) :
    Afforded cfg (payTreasury cfg fee b) := by
  unfold payTreasury
  split_ifs
  · exact afforded_push room
  · exact .ok _

omit [Fintype Address] in
theorem afforded_lend {call : Lending Address → Outcome Address (Lending Address)}
    (called : Afforded cfg (call (b.lending cfg.stable))) : Afforded cfg (b.lend cfg.stable call) :=
  called.bind fun _ _ => .ok _

omit [Fintype Address] in
theorem afforded_draw :
    Afforded cfg (b.lend cfg.stable (Pool.borrow cfg.pool cfg.address amount user)) := by
  apply afforded_lend
  apply Afforded.guard (by nofun)
  intro _
  apply Afforded.guard (by nofun)
  intro _
  apply Afforded.guard (by nofun)
  intro _
  apply Afforded.guard (by nofun)
  intro _
  apply Afforded.guard (by nofun)
  intro _
  apply Afforded.bind _ fun _ _ => .ok _
  exact afforded_move _ fun own => absurd own cfg.pool_live.2

theorem afforded_repay_pool (room : (amount : Int) ≤ spare cfg b cfg.stable) :
    Afforded cfg (repayPool cfg amount user b) := by
  apply Afforded.bind
  · apply afforded_pay
    apply Afforded.guard (by nofun)
    intro _
    apply Afforded.guard (by nofun)
    intro _
    exact .ok _
  · intro approved approves
    have effect : Effect cfg user 0 b approved := effect_of_approve approves
    have held : amount ≤ (approved.tokens cfg.stable).balanceOf cfg.address := by
      apply held_of_spare
      rw [effect.spare, Pi.zero_apply, add_zero]
      exact room
    apply afforded_lend
    apply Afforded.guard (by nofun)
    intro _
    apply Afforded.guard (by nofun)
    intro _
    apply Afforded.guard (by nofun)
    intro _
    apply Afforded.guard (by nofun)
    intro _
    apply Afforded.bind _ fun _ _ => .ok _
    apply afforded_transfer_from
    intro _
    rw [Pool.accrue_token]
    exact held

omit [Fintype Address] in
theorem afforded_absorb {l : Lending Address} :
    Afforded cfg (Pool.absorbBadDebt cfg.pool cfg.address user l) := by
  apply Afforded.guard (by nofun)
  intro _
  apply Afforded.guard (by nofun)
  intro _
  apply Afforded.guard (by nofun)
  intro _
  exact .ok _

end Statements

/-! ### Reading prices moves nothing -/

section Prices

omit [Fintype Address]

theorem afforded_get : Afforded cfg (get cfg token) := by
  intro balance needed
  unfold get
  split <;> nofun

omit [DecidableEq Address] in
theorem afforded_answered {Result : Type} (answer : Option Result) :
    Afforded cfg (answered answer) := by
  intro balance needed
  unfold answered
  split <;> nofun

omit [DecidableEq Address] in
theorem afforded_price (c : Collateral Address) (maxAge : Nat) : Afforded cfg (price c maxAge b) := by
  apply (afforded_answered _).bind
  intro round _
  apply Afforded.guard (by nofun)
  intro _
  apply Afforded.guard (by nofun)
  intro _
  exact .ok _

omit [DecidableEq Address] in
theorem afforded_multiplier (c : Collateral Address) : Afforded cfg (multiplier c b) := by
  unfold multiplier
  split_ifs
  · exact afforded_answered _
  · exact .ok _

omit [DecidableEq Address] in
theorem afforded_value (c : Collateral Address) (maxAge : Nat) :
    Afforded cfg (value cfg c amount maxAge b) := by
  unfold value
  split_ifs
  · exact .ok _
  · apply (afforded_price c maxAge).bind
    intro _ _
    apply (afforded_multiplier c).bind
    intro _ _
    exact .ok _

omit [DecidableEq Address] in
theorem afforded_tokens_for (c : Collateral Address) : Afforded cfg (tokensFor cfg c amount b) := by
  apply (afforded_price c _).bind
  intro _ _
  apply (afforded_multiplier c).bind
  intro _ _
  apply Afforded.guard (by nofun)
  intro _
  exact .ok _

omit [DecidableEq Address] in
theorem afforded_totals (forLiquidation : Bool) :
    Afforded cfg (totals cfg user forLiquidation b) := by
  intro balance needed
  apply loop_avoids fun _ => True
  · intro _ _ _ _ _ _
    trivial
  · intro sums c _ _
    unfold addCollateral
    split_ifs
    · nofun
    · exact (afforded_value c _).bind (fun _ _ => .ok _) balance needed
  · trivial

omit [DecidableEq Address] in
theorem afforded_max_repay (c : Collateral Address) : Afforded cfg (maxRepay cfg c user b) := by
  apply (afforded_totals true).bind
  intro _ _
  apply Afforded.guard (by nofun)
  intro _
  exact .ok _

omit [DecidableEq Address] in
theorem afforded_within_limit : Afforded cfg (withinLimit cfg user b) := by
  unfold withinLimit
  split_ifs
  · apply (afforded_totals false).bind
    intro sums _ balance needed
    unfold require
    split_ifs <;> (intro same; cases same)
  · exact .ok _

omit [DecidableEq Address] in
theorem afforded_entries_open : Afforded cfg b.stock.whenEntriesOpen := by
  intro balance needed
  unfold EntryPausable.whenEntriesOpen require
  split_ifs <;> nofun

end Prices

/-! ### Call by call -/

section Calls

omit [Fintype Address] in
theorem afforded_deposit (outsider : sender ≠ cfg.address) :
    Afforded cfg (deposit cfg sender token amount b) := by
  apply afforded_entries_open.bind
  intro _ _
  apply Afforded.guard (by nofun)
  intro _
  apply afforded_get.bind
  intro _ _
  apply (afforded_pull outsider).bind
  intro _ _
  apply Afforded.guard (by nofun)
  intro _
  apply Afforded.guard (by nofun)
  intro _
  exact .ok _

theorem afforded_withdraw (custody : Custody cfg b) :
    Afforded cfg (withdraw cfg sender token amount b) := by
  apply Afforded.guard (by nofun)
  intro _
  apply afforded_get.bind
  intro _ _
  apply Afforded.guard (by nofun)
  intro enough
  apply afforded_within_limit.bind
  intro _ _
  apply Afforded.bind _ fun _ _ => .ok _
  apply afforded_push
  have recorded := effect_of_record cfg sender token
    (b.stock.collateralOf sender token - amount) b
  have accrued := recorded.trans (effect_of_accrue cfg sender _)
  have before := spare_nonneg_iff.2 (custody.covered token)
  rw [accrued.spare]
  simp only [Pi.add_apply, Pi.zero_apply, Pi.single_eq_same]
  omega

theorem afforded_borrow (custody : Custody cfg b) (outsider : sender ≠ cfg.address) :
    Afforded cfg (borrow cfg sender amount b) := by
  apply afforded_entries_open.bind
  intro _ _
  apply Afforded.guard (by nofun)
  intro _
  apply (afforded_totals false).bind
  intro _ _
  apply Afforded.guard (by nofun)
  intro _
  have before := spare_nonneg_iff.2 (custody.covered cfg.stable)
  apply afforded_draw.bind
  intro drawn draws
  have lent := (effect_of_accrue cfg sender b).trans (effect_of_draw draws)
  have room := lent.spare cfg.stable
  simp only [Pi.add_apply, Pi.zero_apply, Pi.single_eq_same] at room
  apply Afforded.bind
  · apply afforded_push
    omega
  · intro pushed pushes
    have sent : Effect cfg sender _ drawn pushed := effect_of_push pushes
    have left := sent.spare cfg.stable
    rw [if_neg outsider, Pi.single_eq_same] at left
    apply Afforded.bind _ fun _ _ => .ok _
    apply afforded_pay_treasury
    omega

theorem afforded_repay (custody : Custody cfg b) (outsider : sender ≠ cfg.address) :
    Afforded cfg (repay cfg sender amount user b) := by
  apply Afforded.guard (by nofun)
  intro _
  apply Afforded.guard (by nofun)
  intro _
  have before := spare_nonneg_iff.2 (custody.covered cfg.stable)
  apply (afforded_pull outsider).bind
  intro pulled pulls
  have received := (effect_of_accrue cfg user b).trans (effect_of_pull outsider pulls)
  have room := received.spare cfg.stable
  simp only [Pi.add_apply, Pi.zero_apply, Pi.single_eq_same] at room
  apply Afforded.bind _ fun _ _ => .ok _
  apply afforded_repay_pool
  omega

theorem afforded_liquidate (custody : Custody cfg b) (outsider : sender ≠ cfg.address) :
    Afforded cfg (liquidate cfg sender user token amount b) := by
  apply afforded_get.bind
  intro c _
  apply (afforded_max_repay c).bind
  intro limit _
  generalize (if amount = uint256Max then limit else amount) = repaid
  apply Afforded.guard (by nofun)
  intro _
  apply Afforded.guard (by nofun)
  intro _
  apply Afforded.guard (by nofun)
  intro _
  apply (afforded_tokens_for c).bind
  intro wanted _
  have atStable := spare_nonneg_iff.2 (custody.covered cfg.stable)
  have atToken := spare_nonneg_iff.2 (custody.covered token)
  have recorded := (effect_of_accrue cfg user b).trans (effect_of_record cfg user token
    (b.stock.collateralOf user token - min wanted (b.stock.collateralOf user token))
    (accruePool cfg b))
  apply (afforded_pull outsider).bind
  intro pulled pulls
  have received := recorded.trans (effect_of_pull outsider pulls : Effect cfg user _ _ _)
  apply Afforded.bind
  · apply afforded_repay_pool
    rw [received.spare]
    simp only [Pi.add_apply, Pi.zero_apply, Pi.single_apply, accrue_pool_stock]
    split_ifs <;> omega
  intro cleared clears
  have repaidPool := received.trans (effect_of_repay_pool clears)
  apply Afforded.bind
  · apply afforded_pay_treasury
    rw [repaidPool.spare]
    simp only [Pi.add_apply, Pi.zero_apply, Pi.single_apply, accrue_pool_stock]
    split_ifs <;> omega
  intro paid pays
  have charged := repaidPool.trans (effect_of_pay_treasury pays : Effect cfg user _ _ _)
  have nothing := kept_nonneg cfg cleared (protocolFeeOn cfg c repaid)
  apply Afforded.bind _ fun _ _ => .ok _
  apply afforded_push
  rw [charged.spare]
  simp only [Pi.add_apply, Pi.zero_apply, Pi.single_apply, accrue_pool_stock]
  split_ifs <;> omega

theorem afforded_hand_over (covered : ∀ token, 0 ≤ spare cfg b token)
    (c : Collateral Address) (count : Nat) :
    Afforded cfg (handOver cfg sender user (count, b) c) := by
  simp only [handOver]
  split_ifs
  · exact .ok _
  · apply Afforded.bind _ fun _ _ => .ok _
    apply afforded_push
    have before := covered c.token
    rw [(effect_of_record cfg user c.token 0 b).spare, Pi.single_eq_same]
    omega

theorem afforded_hand_over_collateral (covered : ∀ token, 0 ≤ spare cfg b token)
    (outsider : sender ≠ cfg.address) : Afforded cfg (handOverCollateral cfg sender user b) := by
  intro balance needed
  apply loop_avoids fun turn : Nat × Brokerage Address => ∀ token, 0 ≤ spare cfg turn.2 token
  · intro turn c next _ before turned token
    rw [(effect_of_hand_over outsider turned).spare, Pi.zero_apply, add_zero]
    exact before token
  · intro turn c _ before
    exact afforded_hand_over before c turn.1 balance needed
  · exact covered

theorem afforded_buy_out (covered : 0 ≤ spare cfg b cfg.stable)
    (outsider : sender ≠ cfg.address) : Afforded cfg (buyOut cfg sender user amount b) := by
  unfold buyOut
  split_ifs
  · apply (afforded_pull outsider).bind
    intro pulled pulls
    have received : Effect cfg user _ b pulled := effect_of_pull outsider pulls
    apply afforded_repay_pool
    rw [received.spare, Pi.single_eq_same]
    omega
  · exact .ok _

theorem afforded_write_off (custody : Custody cfg b) (outsider : sender ≠ cfg.address) :
    Afforded cfg (writeOffBadDebt cfg sender user b) := by
  have covered : ∀ token, 0 ≤ spare cfg (accruePool cfg b) token := by
    intro token
    rw [(effect_of_accrue cfg user b).spare, Pi.zero_apply, add_zero]
    exact spare_nonneg_iff.2 (custody.covered token)
  apply (afforded_totals true).bind
  intro sums _
  apply Afforded.guard (by nofun)
  intro _
  apply (afforded_hand_over_collateral covered outsider).bind
  intro handed hands
  have gone := effect_of_hand_over_collateral outsider hands
  apply Afforded.bind
  · apply afforded_buy_out _ outsider
    rw [gone.spare, Pi.zero_apply, add_zero]
    exact covered cfg.stable
  · intro bought _
    apply afforded_absorb.bind
    intro _ _
    exact .ok _

theorem afforded_exec (custody : Custody cfg b) (outsider : sender ≠ cfg.address)
    (call : Call Address) : Afforded cfg (exec cfg sender b call) := by
  cases call with
  | deposit token amount => exact afforded_deposit outsider
  | withdraw token amount => exact afforded_withdraw custody
  | borrow amount => exact afforded_borrow custody outsider
  | repay amount onBehalfOf => exact afforded_repay custody outsider
  | liquidate user token amount => exact afforded_liquidate custody outsider
  | writeOffBadDebt user => exact afforded_write_off custody outsider
  | guard call =>
      apply Afforded.bind _ fun _ _ => .ok _
      intro balance needed
      cases call with
      | pauseEntries | unpauseEntries =>
          apply bind_avoids _ fun _ _ => by nofun
          unfold EntryPausable.onlyPauseGuardian require
          split_ifs <;> nofun
      | transferPauseGuardian target =>
          apply bind_avoids
          · unfold EntryPausable.onlyPauseGuardian require
            split_ifs <;> nofun
          · intro _ _
            exact guard_avoids (by nofun) fun _ => by nofun

end Calls

/-! ## What the others owe -/

section Others

omit [Fintype Address]

/-- A debt at this block depends on the pool, its cash and the clock. -/
theorem owed_congr (cash : (after.tokens cfg.stable).balanceOf cfg.pool.address =
      (b.tokens cfg.stable).balanceOf cfg.pool.address)
    (pool : after.pool = b.pool) (timestamp : after.timestamp = b.timestamp) (other : Address) :
    owed cfg after other = owed cfg b other := by
  have same : (Pool.accrue cfg.pool (after.lending cfg.stable)).pool =
      (Pool.accrue cfg.pool (b.lending cfg.stable)).pool :=
    Pool.accrue_pool_congr cash pool timestamp
  unfold owed debtOf accruePool
  rw [Brokerage.set_lending_pool, Brokerage.set_lending_pool, same]

/-- The calls that bring the pool up to date before they do anything else. -/
def Call.Accrues : Call Address → Prop
  | .withdraw _ _ | .borrow _ | .repay _ _ | .liquidate _ _ _ | .writeOffBadDebt _ => True
  | .deposit _ _ | .guard _ => False

theorem accrue_pool_accrue_pool (cfg : Config Address) (b : Brokerage Address) :
    accruePool cfg (accruePool cfg b) = accruePool cfg b :=
  accrue_pool_of_current (current_accrue_pool cfg b)

theorem accrue_pool_set_collateral (cfg : Config Address) (b : Brokerage Address)
    (user token : Address) (amount : Nat) :
    accruePool cfg (b.setCollateral user token amount) =
      (accruePool cfg b).setCollateral user token amount := rfl

/-- To such a call it makes no difference whether the pool was up to date. -/
theorem exec_accrue_pool {call : Call Address} (accrues : call.Accrues) :
    exec cfg sender (accruePool cfg b) call = exec cfg sender b call := by
  cases call with
  | withdraw token amount =>
      simp only [exec, withdraw, accrue_pool_set_collateral, accrue_pool_accrue_pool,
        accrue_pool_stock]
      rfl
  | borrow amount => simp only [exec, borrow, accrue_pool_accrue_pool, accrue_pool_stock]
  | repay amount onBehalfOf => simp only [exec, repay, accrue_pool_accrue_pool]
  | liquidate user token amount => simp only [exec, liquidate, accrue_pool_accrue_pool]
  | writeOffBadDebt user => simp only [exec, writeOffBadDebt, accrue_pool_accrue_pool]
  | deposit token amount => exact accrues.elim
  | guard call => exact accrues.elim

theorem owed_after_deposit (outsider : Outsider cfg sender)
    (ran : deposit cfg sender token amount b = .ok after) (other : Address) :
    owed cfg after other = owed cfg b other := by
  obtain ⟨_, state, _, _, pulled, rfl⟩ := deposit_ok ran
  obtain ⟨_, _, _, _, moved⟩ := (Erc20.transfer_from_ok_iff _ _ _ _ _ _).1 pulled
  have untouched : state.balanceOf cfg.pool.address =
      (b.tokens token).balanceOf cfg.pool.address := by
    rw [moved]
    exact Erc20.moved_balance_other _ amount outsider.2.symm cfg.pool_live.2
  have cash : ((b.deposited sender token amount state).tokens cfg.stable).balanceOf
      cfg.pool.address = (b.tokens cfg.stable).balanceOf cfg.pool.address := by
    by_cases same : cfg.stable = token
    · rw [same]
      simpa [Brokerage.deposited, Brokerage.emit] using untouched
    · simp [Brokerage.deposited, Brokerage.emit, same]
  exact owed_congr cash rfl rfl other

end Others

theorem owed_after_exec {call : Call Address} (outsider : Outsider cfg sender)
    (ran : exec cfg sender b call = .ok after) {other : Address}
    (apart : other ≠ call.subject sender) : owed cfg after other = owed cfg b other := by
  by_cases accrues : call.Accrues
  · rw [← exec_accrue_pool accrues] at ran
    obtain ⟨fee, _, effect⟩ := effect_of_exec outsider.1 ran
    obtain ⟨current, index⟩ := effect.current (current_accrue_pool cfg b)
    have debt := (effect.others other apart).2
    unfold owed
    rw [accrue_pool_of_current current]
    unfold debtOf Pool.balanceOfDebt
    rw [debt, index]
  · cases call with
    | deposit token amount => exact owed_after_deposit outsider ran other
    | guard call =>
        simp only [exec, guard, bind_ok_iff, Except.ok.injEq] at ran
        obtain ⟨_, _, rfl⟩ := ran
        exact owed_congr rfl rfl rfl other
    | withdraw | borrow | repay | liquidate | writeOffBadDebt => exact absurd trivial accrues

/-! ## The claim of every history -/

def Call.deposited : Call Address → Address → Nat
  | .deposit token amount, other => if other = token then amount else 0
  | .withdraw _ _, _ | .borrow _, _ | .repay _ _, _ | .liquidate _ _ _, _
  | .writeOffBadDebt _, _ | .guard _, _ => 0

omit [Zero Address] [Fintype Address] in
theorem set_collateral_le {value : Nat} (less : value ≤ b.stock.collateralOf user token)
    (account other : Address) :
    (b.setCollateral user token value).stock.collateralOf account other ≤
      b.stock.collateralOf account other := by
  by_cases same : account = user
  · subst same
    by_cases here : other = token
    · subst here
      simpa [Brokerage.setCollateral] using less
    · simp [Brokerage.setCollateral, here]
  · rw [Brokerage.set_collateral_other b token value same]

omit [Fintype Address] [Zero Address] in
theorem stock_of_pay {call : Erc20 Address → Outcome Address (Erc20 Address)}
    (ran : b.pay token call = .ok after) : after.stock = b.stock := by
  obtain ⟨_, _, rfl⟩ := Brokerage.pay_ok_iff.1 ran
  rfl

omit [Fintype Address] in
theorem stock_of_repay_pool (ran : repayPool cfg amount user b = .ok after) :
    after.stock = b.stock := by
  simp only [repayPool, bind_ok_iff, Brokerage.lend_ok_iff] at ran
  obtain ⟨approved, approves, _, _, rfl⟩ := ran
  exact (Brokerage.set_lending_stock _ _ _).trans (stock_of_pay approves)

omit [Fintype Address] in
theorem stock_of_pay_treasury (ran : payTreasury cfg fee b = .ok after) :
    after.stock = b.stock := by
  unfold payTreasury at ran
  split_ifs at ran
  · exact stock_of_pay ran
  · cases ran
    rfl

omit [Fintype Address] in
theorem collateral_of_hand_over {final : Nat × Brokerage Address}
    (ran : handOverCollateral cfg sender user b = .ok final) (account other : Address) :
    final.2.stock.collateralOf account other ≤ b.stock.collateralOf account other := by
  apply loop_invariant (fun turn : Nat × Brokerage Address =>
    turn.2.stock.collateralOf account other ≤ b.stock.collateralOf account other) _
    (Nat.le_refl _) ran
  intro turn c next _ sofar turned
  simp only [handOver] at turned
  split_ifs at turned
  · cases turned
    exact sofar
  · simp only [bind_ok_iff, Except.ok.injEq] at turned
    obtain ⟨pushed, pushes, rfl⟩ := turned
    rw [stock_of_pay pushes]
    exact (set_collateral_le (Nat.zero_le _) account other).trans sofar

omit [Fintype Address] in
theorem stock_of_buy_out (ran : buyOut cfg sender user amount b = .ok after) :
    after.stock = b.stock := by
  unfold buyOut at ran
  split_ifs at ran
  · simp only [bind_ok_iff] at ran
    obtain ⟨pulled, pulls, repays⟩ := ran
    exact (stock_of_repay_pool repays).trans (stock_of_pay pulls)
  · cases ran
    rfl

omit [Fintype Address] in
/-- Only a deposit adds to anybody's collateral. -/
theorem collateral_of_exec {call : Call Address} (quiet : ∀ token amount, call ≠ .deposit token amount)
    (ran : exec cfg sender b call = .ok after) (account other : Address) :
    after.stock.collateralOf account other ≤ b.stock.collateralOf account other := by
  cases call with
  | deposit token amount => exact absurd rfl (quiet token amount)
  | withdraw token amount =>
      simp only [exec, withdraw, bind_ok_iff, require_ok_iff, exists_const,
        Except.ok.injEq] at ran
      obtain ⟨_, _, _, _, _, _, pushed, pushes, rfl⟩ := ran
      have same := stock_of_pay pushes
      apply (congrArg (fun stock => stock.collateralOf account other) same).le.trans
      exact set_collateral_le (Nat.sub_le _ _) account other
  | borrow amount =>
      simp only [exec, borrow, bind_ok_iff, require_ok_iff, exists_const, Except.ok.injEq,
        Brokerage.lend_ok_iff] at ran
      obtain ⟨_, _, _, _, _, _, _, ⟨_, _, rfl⟩, pushed, pushes, paid, pays, rfl⟩ := ran
      have sent := stock_of_pay pushes
      have same : paid.stock = b.stock := (stock_of_pay_treasury pays).trans sent
      exact (congrArg (fun stock => stock.collateralOf account other) same).le
  | repay amount onBehalfOf =>
      simp only [exec, repay, bind_ok_iff, require_ok_iff, exists_const, Except.ok.injEq] at ran
      obtain ⟨_, _, pulled, pulls, repaid, repays, rfl⟩ := ran
      have received := stock_of_pay pulls
      have same : repaid.stock = b.stock := (stock_of_repay_pool repays).trans received
      exact (congrArg (fun stock => stock.collateralOf account other) same).le
  | liquidate user token repayAmount =>
      simp only [exec, liquidate, bind_ok_iff, require_ok_iff, exists_const,
        Except.ok.injEq] at ran
      obtain ⟨c, _, limit, _, _, _, _, wanted, _, pulled, pulls, cleared, clears, paid, pays,
        seized, seizes, rfl⟩ := ran
      have same : seized.stock = ((accruePool cfg b).setCollateral user token
          (b.stock.collateralOf user token -
            min wanted (b.stock.collateralOf user token))).stock :=
        (stock_of_pay seizes).trans ((stock_of_pay_treasury pays).trans
          ((stock_of_repay_pool clears).trans (stock_of_pay pulls)))
      apply (congrArg (fun stock => stock.collateralOf account other) same).le.trans
      exact set_collateral_le (b := accruePool cfg b) (Nat.sub_le _ _) account other
  | writeOffBadDebt user =>
      simp only [exec, writeOffBadDebt, bind_ok_iff, require_ok_iff, exists_const,
        Except.ok.injEq, Prod.exists] at ran
      obtain ⟨_, _, _, count, handed, hands, bought, buys, _, _, _, rfl⟩ := ran
      have same : bought.stock = handed.stock := stock_of_buy_out buys
      apply (congrArg (fun stock => stock.collateralOf account other) same).le.trans
      exact collateral_of_hand_over hands account other
  | guard call =>
      simp only [exec, guard, bind_ok_iff, Except.ok.injEq] at ran
      obtain ⟨_, _, rfl⟩ := ran
      exact Nat.le_refl _

omit [Zero Address] in
theorem sum_of_deposited (b : Brokerage Address) (user token : Address) (amount : Nat)
    (state : Erc20 Address) (other : Address) :
    ∑ account, (b.deposited user token amount state).stock.collateralOf account other =
      ∑ account, b.stock.collateralOf account other + if other = token then amount else 0 := by
  have sums := PointSums.sum_add_of_eq_off
    (fun account => (b.deposited user token amount state).stock.collateralOf account other)
    (fun account => b.stock.collateralOf account other) user
    (fun account distinct => congrFun (Brokerage.set_collateral_other b token _ distinct) other)
  by_cases same : other = token
  · subst same
    have row : (b.deposited user other amount state).stock.collateralOf user other =
        b.stock.collateralOf user other + amount := by
      simp [Brokerage.deposited, Brokerage.emit, Brokerage.setToken, Brokerage.setCollateral]
    simp only [row] at sums
    rw [if_pos rfl]
    omega
  · have row : (b.deposited user token amount state).stock.collateralOf user other =
        b.stock.collateralOf user other := by
      simp [Brokerage.deposited, Brokerage.emit, Brokerage.setToken, Brokerage.setCollateral,
        same]
    simp only [row] at sums
    rw [if_neg same]
    omega

theorem sum_of_exec {call : Call Address} (ran : exec cfg sender b call = .ok after)
    (other : Address) :
    ∑ account, after.stock.collateralOf account other ≤
      ∑ account, b.stock.collateralOf account other + call.deposited other := by
  by_cases quiet : ∀ token amount, call ≠ .deposit token amount
  · have less : ∑ account, after.stock.collateralOf account other ≤
        ∑ account, b.stock.collateralOf account other :=
      Finset.sum_le_sum fun account _ => collateral_of_exec quiet ran account other
    omega
  · simp only [not_forall, not_not] at quiet
    obtain ⟨token, amount, rfl⟩ := quiet
    obtain ⟨_, state, _, _, _, rfl⟩ := deposit_ok ran
    exact (sum_of_deposited b sender token amount state other).le

/-- What the vault holds of the stablecoin grows by deposits of it, and by a fee
it pays itself as the pool's treasury. -/
theorem stablecoin_of_exec {call : Call Address} (outsider : sender ≠ cfg.address)
    (ran : exec cfg sender b call = .ok after) :
    ∃ fee, call.Charges cfg b fee ∧
      (after.tokens cfg.stable).balanceOf cfg.address ≤
        (b.tokens cfg.stable).balanceOf cfg.address + call.deposited cfg.stable +
          if b.pool.treasury = cfg.address then fee else 0 := by
  obtain ⟨fee, charges, effect⟩ := effect_of_exec outsider ran
  refine ⟨fee, charges, ?_⟩
  have sums := sum_of_exec ran cfg.stable
  have room := effect.spare cfg.stable
  rw [Pi.single_eq_same] at room
  unfold spare kept at room
  split_ifs at room ⊢ <;> omega

/-- In every state the collateral on record is in the vault; no call finds the
vault short of what it pays out, leaves it more of the stablecoin than a deposit
of it or a fee of its own, or touches the collateral or the debt of anyone the
call is not about. -/
theorem collateral_in_custody (cfg : Config Address) (b : Brokerage Address)
    (reached : (machine cfg).Reachable b) :
    (∀ token,
      ∑ user, b.stock.collateralOf user token ≤ (b.tokens token).balanceOf cfg.address) ∧
    ∀ sender call, Outsider cfg sender →
      (∀ balance needed, exec cfg sender b call ≠
        .error (.erc20InsufficientBalance cfg.address balance needed)) ∧
      ∀ after, exec cfg sender b call = .ok after →
        (∃ fee, call.Charges cfg b fee ∧
          (after.tokens cfg.stable).balanceOf cfg.address ≤
            (b.tokens cfg.stable).balanceOf cfg.address + call.deposited cfg.stable +
              if b.pool.treasury = cfg.address then fee else 0) ∧
        ∀ other, other ≠ call.subject sender →
          after.stock.collateralOf other = b.stock.collateralOf other ∧
          after.pool.scaledDebt other = b.pool.scaledDebt other ∧
          owed cfg after other = owed cfg b other := by
  have custody := custody_of_reachable reached
  refine ⟨custody.covered, ?_⟩
  intro sender call outsider
  refine ⟨afforded_exec custody outsider.1 call, ?_⟩
  intro after ran
  refine ⟨stablecoin_of_exec outsider.1 ran, ?_⟩
  intro other apart
  obtain ⟨fee, _, effect⟩ := effect_of_exec outsider.1 ran
  obtain ⟨collateral, debt⟩ := effect.others other apart
  exact ⟨collateral, debt, owed_after_exec outsider ran apart⟩

/-! ## A small vault

Four deploys a pool at six and the vault at five over it, one lends, two
borrows and three liquidates; seven is the stablecoin, eight and ten are stock
tokens, nine and eleven their feeds. -/

section Sample

def listing (token feed : Fin 12) (tokenLive : token ≠ 0) (feedLive : feed ≠ 0) :
    Collateral (Fin 12) where
  token := token
  feed := feed
  maxLTV := 4 * 10 ^ 17
  liquidationThreshold := 6 * 10 ^ 17
  liquidationBonus := 5 * 10 ^ 16
  maxAge := 86400
  liquidationMaxAge := 432000
  scaledUI := false
  tokenDecimals := 18
  feedDecimals := 8
  token_ne_zero := tokenLive
  feed_ne_zero := feedLive
  max_ltv_ne_zero := by decide
  max_ltv_lt_threshold := by decide
  bonus_lt_wad := Figures.bonus_lt_wad
  threshold_leaves_room := by
    unfold WAD
    decide
  max_age_ne_zero := by decide
  max_age_le := by decide

def loanPool : Pool.Config (Fin 12) where
  address := 6
  baseRatePerSecond := 0
  slope1PerSecond := 0
  slope2PerSecond := 0
  kink := 5 * 10 ^ 17
  reserveFactor := 0
  kink_ne_zero := Figures.half_ne_zero
  kink_lt_wad := Figures.half_lt_wad
  reserve_factor_lt_wad := wad_pos

def loans : Config (Fin 12) where
  address := 5
  pool := loanPool
  stable := 7
  stableDecimals := 6
  originationFee := 5 * 10 ^ 15
  liquidationProtocolShare := 10 ^ 17
  closeFactor := 4 * 10 ^ 17
  collaterals := [listing 8 9 Figures.eight_ne_zero Figures.nine_ne_zero,
    listing 10 11 (by decide) (by decide)]
  collaterals_ne_nil := by simp
  collaterals_few := by decide
  origination_fee_le := by decide
  protocol_share_le_wad := by
    unfold WAD
    decide
  close_factor_ne_zero := by decide
  close_factor_le_wad := by
    unfold WAD
    decide
  listed_once := by
    simp only [listing, List.map_cons, List.map_nil]
    decide
  address_ne_zero := by decide
  pool_live := by decide

/-- Vault and pool as deployed, at a price of two hundred and fifty. -/
def freshLoans : Brokerage (Fin 12) where
  timestamp := 1000
  tokens _ :=
    { balanceOf := fun user => if 1 ≤ user ∧ user ≤ 3 then 10 ^ 40 else 0
      allowance := fun owner spender =>
        if 1 ≤ owner ∧ owner ≤ 3 ∧ (spender = 5 ∨ spender = 6) then uint256Max else 0
      totalSupply := 3 * 10 ^ 40 }
  latestRoundData feed := if feed = 9 then some (250 * 10 ^ 8, 1000) else none
  uiMultiplier _ := none
  pool := Pool.deployed { owner := 4, treasury := 4 } 4 1000
  stock := deployed 4

theorem fresh_loans_deployed {cfg : Config (Fin 12)} (self : cfg.address = 5)
    (pool : cfg.pool.address = 6) : Deployed cfg freshLoans where
  pool_history := by
    apply Machine.Reachable.initial
    refine ⟨⟨4, { owner := 4, treasury := 4 }, 4, rfl, rfl⟩, ?_⟩
    rw [pool]
    funext spender
    have contract : ¬(1 ≤ (6 : Fin 12) ∧ (6 : Fin 12) ≤ 3 ∧ (spender = 5 ∨ spender = 6)) := by
      simp
    exact if_neg (t := uint256Max) contract
  fresh := ⟨4, rfl⟩
  unapproved token spender := by
    have contract : ¬(1 ≤ (5 : Fin 12) ∧ (5 : Fin 12) ≤ 3 ∧ (spender = 5 ∨ spender = 6)) := by
      simp
    rw [self]
    exact if_neg (t := uint256Max) contract

instance (cfg : Config (Fin 12)) (sender : Fin 12) : Decidable (Outsider cfg sender) :=
  inferInstanceAs (Decidable (sender ≠ cfg.address ∧ sender ≠ cfg.pool.address))

instance (cfg : Config (Fin 12)) (action : Action (Fin 12)) : Decidable (action.External cfg) :=
  match action with
  | .stock sender _ | .pool sender _ | .asset _ sender _ =>
      inferInstanceAs (Decidable (Outsider cfg sender))
  | .feeds _ | .multipliers _ | .wait _ => isTrue trivial

theorem reachable_of_replay (cfg : Config (Fin 12)) (self : cfg.address = 5)
    (pool : cfg.pool.address = 6) (run : List (Action (Fin 12)))
    (check : Brokerage (Fin 12) → Bool) (outside : ∀ action ∈ run, action.External cfg)
    (ran : passes (Machine.replay (act cfg) freshLoans run) check = true) :
    ∃ b, (machine cfg).Reachable b ∧ check b = true := by
  obtain ⟨b, replayed, checked⟩ := exists_of_passes _ ran
  have start : (machine cfg).Reachable freshLoans := .initial (fresh_loans_deployed self pool)
  refine ⟨b, start.replay ?_ replayed, checked⟩
  intro action member before after taken
  exact ⟨outside action member, taken⟩

theorem reachable_of_run (run : List (Action (Fin 12))) (check : Brokerage (Fin 12) → Bool)
    (outside : ∀ action ∈ run, action.External loans)
    (ran : passes (Machine.replay (act loans) freshLoans run) check = true) :
    ∃ b, (machine loans).Reachable b ∧ check b = true :=
  reachable_of_replay loans rfl rfl run check outside ran

/-- A pool with money in it, and a borrower with collateral worth twenty-five
thousand. -/
def fundedRun (treasury : Fin 12) : List (Action (Fin 12)) :=
  [.pool 4 (.setBorrowModule 5), .pool 4 (.administer (.setTreasury treasury)),
    .pool 1 (.supply (10 ^ 12)), .stock 2 (.deposit 8 (100 * 10 ^ 18))]

/-- A borrower takes a loan, and the fee goes to the treasury. -/
theorem collateral_in_custody_borrowing :
    ∃ b after, (machine loans).Reachable b ∧
      exec loans 2 b (.borrow (10 ^ 9)) = .ok after ∧
      (∀ token, ∑ user, b.stock.collateralOf user token ≤ (b.tokens token).balanceOf 5) ∧
      owed loans after 3 = owed loans b 3 := by
  obtain ⟨b, reached, checked⟩ := reachable_of_run (fundedRun 4)
    (fun b => passes (exec loans 2 b (.borrow (10 ^ 9))) fun _ => true)
    (by decide) (by decide +kernel)
  obtain ⟨after, ran, _⟩ := exists_of_passes _ checked
  obtain ⟨covered, calls⟩ := collateral_in_custody loans b reached
  obtain ⟨_, succeeded⟩ := calls 2 (.borrow (10 ^ 9)) (by decide)
  obtain ⟨_, others⟩ := succeeded after ran
  exact ⟨b, after, reached, ran, covered, (others 3 (by decide)).2.2⟩

/-- With the vault as the pool's treasury, a loan leaves its fee behind. -/
theorem fee_stays_in_vault :
    ∃ b after, (machine loans).Reachable b ∧ Outsider loans 2 ∧
      exec loans 2 b (.borrow (10 ^ 9)) = .ok after ∧
      (Call.borrow (10 ^ 9)).deposited loans.stable = 0 ∧
      (b.tokens loans.stable).balanceOf loans.address <
        (after.tokens loans.stable).balanceOf loans.address := by
  obtain ⟨b, reached, checked⟩ := reachable_of_run (fundedRun 5)
    (fun b => passes (exec loans 2 b (.borrow (10 ^ 9))) fun after =>
      decide ((b.tokens 7).balanceOf 5 < (after.tokens 7).balanceOf 5))
    (by decide) (by decide +kernel)
  obtain ⟨after, ran, more⟩ := exists_of_passes _ checked
  exact ⟨b, after, reached, by decide, ran, rfl, of_decide_eq_true more⟩

end Sample

end Stock

end Ghoststake
