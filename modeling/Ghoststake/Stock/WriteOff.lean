import Ghoststake.Pool.LossAllocation
import Ghoststake.Stock.Liquidation

/-!
# What a write-off does

The collateral is priced, handed over token by token and paid for, and what the
payment leaves of the loan is charged to the pool. The payment is less than the
loan, so there is something to absorb; and what is on record is there, so no
token is short.
-/

namespace Ghoststake

set_option autoImplicit false

open Checked Rounding

namespace Stock

variable {Address : Type} [DecidableEq Address] [Zero Address] {cfg : Config Address}
  {b after : Brokerage Address} {sender user token : Address} {amount : Nat}
  {c : Collateral Address}

/-! ## The price -/

/-- The largest bonus among the tokens a user holds, and none without any. -/
structure LargestBonus (cfg : Config Address) (user : Address) (b : Brokerage Address)
    (bonus : Nat) : Prop where
  bounds : ∀ c ∈ cfg.collaterals, b.stock.collateralOf user c.token ≠ 0 →
    c.liquidationBonus ≤ bonus
  attained : bonus ≠ 0 → ∃ c ∈ cfg.collaterals, b.stock.collateralOf user c.token ≠ 0 ∧
    bonus = c.liquidationBonus

def widen (user : Address) (b : Brokerage Address) (bonus : Nat) (c : Collateral Address) : Nat :=
  if b.stock.collateralOf user c.token ≠ 0 then max bonus c.liquidationBonus else bonus

omit [DecidableEq Address] in
theorem le_widen (b : Brokerage Address) (bonus : Nat) (c : Collateral Address) :
    bonus ≤ widen user b bonus c := by
  unfold widen
  split_ifs
  · exact le_max_left _ _
  · exact Nat.le_refl _

omit [DecidableEq Address] in
theorem bonus_le_widen {bonus : Nat} (held : b.stock.collateralOf user c.token ≠ 0) :
    c.liquidationBonus ≤ widen user b bonus c := by
  rw [widen, if_pos held]
  exact le_max_right _ _

omit [DecidableEq Address] in
theorem widen_cases (b : Brokerage Address) (bonus : Nat) (c : Collateral Address) :
    widen user b bonus c = bonus ∨
      b.stock.collateralOf user c.token ≠ 0 ∧ widen user b bonus c = c.liquidationBonus := by
  unfold widen
  split_ifs with held
  · rcases Nat.le_total bonus c.liquidationBonus with less | more
    · exact .inr ⟨held, max_eq_right less⟩
    · exact .inl (max_eq_left more)
  · exact .inl rfl

omit [DecidableEq Address] in
theorem largest_of_loop (b : Brokerage Address) (listings : List (Collateral Address))
    (bonus : Nat) :
    bonus ≤ listings.foldl (widen user b) bonus ∧
      (∀ c ∈ listings, b.stock.collateralOf user c.token ≠ 0 →
        c.liquidationBonus ≤ listings.foldl (widen user b) bonus) ∧
      (listings.foldl (widen user b) bonus = bonus ∨
        ∃ c ∈ listings, b.stock.collateralOf user c.token ≠ 0 ∧
          listings.foldl (widen user b) bonus = c.liquidationBonus) := by
  induction listings generalizing bonus with
  | nil =>
      refine ⟨Nat.le_refl _, ?_, .inl rfl⟩
      intro c member
      cases member
  | cons first rest ih =>
      obtain ⟨grows, bounds, attained⟩ := ih (widen user b bonus first)
      rw [List.foldl_cons]
      refine ⟨(le_widen b bonus first).trans grows, ?_, ?_⟩
      · intro c member held
        rcases List.mem_cons.mp member with rfl | later
        · exact (bonus_le_widen held).trans grows
        · exact bounds c later held
      · rcases attained with same | ⟨c, member, held, same⟩
        · rw [same]
          rcases widen_cases b bonus first with kept | ⟨held, raised⟩
          · exact .inl kept
          · exact .inr ⟨first, List.mem_cons_self, held, raised⟩
        · exact .inr ⟨c, List.mem_cons_of_mem _ member, held, same⟩

omit [DecidableEq Address] in
theorem largest_bonus (cfg : Config Address) (user : Address) (b : Brokerage Address) :
    LargestBonus cfg user b (largestBonus cfg user b) := by
  obtain ⟨_, bounds, attained⟩ := @largest_of_loop _ _ user b cfg.collaterals 0
  refine ⟨bounds, ?_⟩
  intro some
  rcases attained with none | found
  · exact absurd none some
  · exact found

omit [DecidableEq Address] in
theorem price_le_value (cfg : Config Address) (user : Address) (value : Nat)
    (b : Brokerage Address) : priceOfEverything cfg user value b ≤ value :=
  mul_div_le_left _ (Nat.le_add_right _ _)

/-! ## Handing the collateral over -/

structure HandsOver (sender user : Address) (b after : Brokerage Address) : Prop where
  received : ∀ token,
    (after.tokens token).balanceOf sender + after.stock.collateralOf user token =
      (b.tokens token).balanceOf sender + b.stock.collateralOf user token
  allowance : ∀ token, (after.tokens token).allowance = (b.tokens token).allowance
  timestamp : after.timestamp = b.timestamp
  pool : after.pool = b.pool

omit [DecidableEq Address] [Zero Address] in
theorem HandsOver.refl (sender user : Address) (b : Brokerage Address) :
    HandsOver sender user b b := ⟨fun _ => rfl, fun _ => rfl, rfl, rfl⟩

omit [DecidableEq Address] [Zero Address] in
theorem HandsOver.trans {mid : Brokerage Address} (first : HandsOver sender user b mid)
    (second : HandsOver sender user mid after) : HandsOver sender user b after where
  received token := (second.received token).trans (first.received token)
  allowance token := (second.allowance token).trans (first.allowance token)
  timestamp := second.timestamp.trans first.timestamp
  pool := second.pool.trans first.pool

theorem hands_over_of_turn (outsider : sender ≠ cfg.address) {turn next : Nat × Brokerage Address}
    (ran : handOver cfg sender user turn c = .ok next) : HandsOver sender user turn.2 next.2 := by
  simp only [handOver] at ran
  split_ifs at ran with none
  · cases ran
    exact .refl sender user _
  · simp only [bind_ok_iff, Except.ok.injEq, Brokerage.pay_ok_iff] at ran
    obtain ⟨_, ⟨state, pushed, rfl⟩, rfl⟩ := ran
    obtain ⟨_, _, funded, rfl⟩ := (Erc20.move_ok_iff _ _ _ _ _).1 pushed
    refine ⟨?_, ?_, rfl, rfl⟩
    · intro token
      by_cases here : token = c.token
      · subst here
        rw [Brokerage.set_token_self, Erc20.moved_balance_target _ _ outsider.symm]
        simp [Brokerage.setCollateral]
      · rw [Brokerage.set_token_other _ _ here]
        simp [Brokerage.setCollateral, here]
    · intro token
      by_cases here : token = c.token
      · subst here
        rw [Brokerage.set_token_self]
        rfl
      · rw [Brokerage.set_token_other _ _ here]
        rfl

theorem hands_over_of_loop (outsider : sender ≠ cfg.address) {final : Nat × Brokerage Address}
    (ran : handOverCollateral cfg sender user b = .ok final) :
    HandsOver sender user b final.2 := by
  apply loop_invariant (fun turn => HandsOver sender user b turn.2) _ (.refl sender user b) ran
  intro turn c next _ sofar turned
  exact sofar.trans (hands_over_of_turn outsider turned)

/-- A turn clears the record of its own token, and none puts anything back. -/
theorem nothing_left_listed {final : Nat × Brokerage Address}
    (ran : handOverCollateral cfg sender user b = .ok final) :
    ∀ c ∈ cfg.collaterals, final.2.stock.collateralOf user c.token = 0 := by
  apply loop_reaches (fun c turn => turn.2.stock.collateralOf user c.token = 0) _ _ ran
  · intro turn c next turned
    simp only [handOver] at turned
    split_ifs at turned with none
    · cases turned
      exact none
    · simp only [bind_ok_iff, Except.ok.injEq] at turned
      obtain ⟨pushed, pushes, rfl⟩ := turned
      rw [stock_of_pay pushes]
      simp [Brokerage.setCollateral]
  · intro turn c next other turned none
    simp only [handOver] at turned
    split_ifs at turned
    · cases turned
      exact none
    · simp only [bind_ok_iff, Except.ok.injEq] at turned
      obtain ⟨pushed, pushes, rfl⟩ := turned
      rw [stock_of_pay pushes]
      have less : (turn.2.setCollateral user c.token 0).stock.collateralOf user other.token ≤
          turn.2.stock.collateralOf user other.token :=
        set_collateral_le (Nat.zero_le _) user other.token
      rw [none] at less
      exact Nat.le_zero.mp less

theorem nothing_left (recorded : Recorded cfg b) {final : Nat × Brokerage Address}
    (ran : handOverCollateral cfg sender user b = .ok final) (token : Address) :
    final.2.stock.collateralOf user token = 0 := by
  by_contra held
  have less := collateral_of_hand_over ran user token
  have before : b.stock.collateralOf user token ≠ 0 := by omega
  obtain ⟨_, c, listed⟩ := recorded user token before
  obtain ⟨member, own⟩ := get_ok_iff.mp listed
  apply held
  rw [← own]
  exact nothing_left_listed ran c member

theorem hands_over [Fintype Address] (covered : ∀ token, 0 ≤ spare cfg b token)
    (outsider : sender ≠ cfg.address) (live : sender ≠ 0) (user : Address) :
    ∃ final, handOverCollateral cfg sender user b = .ok final := by
  apply loop_succeeds (fun turn : Nat × Brokerage Address => ∀ token, 0 ≤ spare cfg turn.2 token)
  · intro turn c _ covered
    have turned : ∃ next, handOver cfg sender user turn c = .ok next := by
      simp only [handOver]
      split_ifs
      · exact ⟨_, rfl⟩
      · have room := covered c.token
        have recorded := effect_of_record cfg user c.token 0 turn.2
        have funded : turn.2.stock.collateralOf user c.token ≤
            ((turn.2.setCollateral user c.token 0).tokens c.token).balanceOf cfg.address := by
          apply held_of_spare
          rw [recorded.spare, Pi.single_eq_same]
          omega
        have moves := (Erc20.move_ok_iff _ _ cfg.address sender _).2
          ⟨cfg.address_ne_zero, live, funded, rfl⟩
        exact bind_succeeds (Brokerage.pay_ok_iff.2 ⟨_, moves, rfl⟩) ⟨_, rfl⟩
    obtain ⟨next, turned⟩ := turned
    refine ⟨next, turned, ?_⟩
    intro token
    rw [(effect_of_hand_over outsider turned).spare, Pi.zero_apply, add_zero]
    exact covered token
  · exact covered

/-! ## Buying the position out -/

section Payment

variable [Fintype Address]

structure Recovers (cfg : Config Address) (user : Address) (amount : Nat)
    (b after : Brokerage Address) : Prop where
  least : debtOf b user ≤ debtOf after user + amount
  most : debtOf after user + amount ≤ debtOf b user + debtUnit b
  owing : debtOf after user ≠ 0
  claims : Pool.SameClaims b.pool after.pool
  outside : ∀ account, Outsider cfg account → ∀ token,
    (after.tokens token).balanceOf account = (b.tokens token).balanceOf account

theorem recovers_of_repay_pool (current : Current cfg b) (sound : b.pool.Sound)
    (part : amount < debtOf b user) (ran : repayPool cfg amount user b = .ok after) :
    Recovers cfg user amount b after := by
  simp only [repayPool, bind_ok_iff, Brokerage.pay_ok_iff, Brokerage.lend_ok_iff] at ran
  obtain ⟨_, ⟨state, approved, rfl⟩, l, repaid, rfl⟩ := ran
  have still : Pool.accrue cfg.pool ((b.setToken cfg.stable state).lending cfg.stable) =
      (b.setToken cfg.stable state).lending cfg.stable := Pool.accrue_of_no_time _ _ current
  have least := Pool.debt_le_repaid repaid
  have most := (Pool.repay_debt_le repaid).1
  have cleared := Pool.debt_after_repay (l := (b.setToken cfg.stable state).lending cfg.stable)
    sound repaid
  rw [still] at least most cleared
  have owing : debtOf (b.setToken cfg.stable state) user = debtOf b user := rfl
  have claims : Pool.SameClaims b.pool l.pool := by
    obtain ⟨_, _, _, _, _, _, rfl⟩ := Pool.repay_ok_iff.1 repaid
    rw [Lending.put_pool, still]
    exact .debit_debt b.pool user _ _
  refine ⟨least, most, ?_, claims, ?_⟩
  · intro none
    have whole : amount = debtOf b user := cleared.mp none
    omega
  · intro account outsider token
    simp only [Erc20.approve, bind_ok_iff, require_ok_iff, exists_const, Except.ok.injEq] at approved
    obtain ⟨_, _, rfl⟩ := approved
    obtain ⟨_, _, _, _, pulled, pulls, rfl⟩ := Pool.repay_ok_iff.1 repaid
    obtain ⟨_, _, _, _, rfl⟩ := (Erc20.transfer_from_ok_iff _ _ _ _ _ _).1 pulls
    by_cases here : token = cfg.stable
    · subst here
      rw [Brokerage.set_lending_tokens, Function.update_self, Lending.put_token]
      apply (Erc20.moved_balance_other _ amount outsider.1 outsider.2).trans
      simp [Brokerage.lending]
    · rw [Brokerage.set_lending_tokens, Function.update_of_ne here,
        Brokerage.set_token_other _ _ here]

theorem repays_pool (current : Current cfg b) (sound : b.pool.Sound) (some : amount ≠ 0)
    (owed : amount ≤ debtOf b user)
    (funded : amount ≤ (b.tokens cfg.stable).balanceOf cfg.address) :
    ∃ after, repayPool cfg amount user b = .ok after := by
  obtain ⟨state, approves, balances, allowance⟩ :=
    Erc20.approves (b.tokens cfg.stable) cfg.address_ne_zero cfg.pool_live.1 amount
  have still : Pool.accrue cfg.pool ((b.setToken cfg.stable state).lending cfg.stable) =
      (b.setToken cfg.stable state).lending cfg.stable := Pool.accrue_of_no_time _ _ current
  have token : ((b.setToken cfg.stable state).lending cfg.stable).token = state :=
    Brokerage.set_token_self b cfg.stable state
  obtain ⟨pulled, pulls⟩ : ∃ pulled, state.transferFrom cfg.pool.address cfg.address
      cfg.pool.address amount = .ok pulled :=
    ⟨_, (Erc20.transfer_from_ok_iff _ _ _ _ _ _).2
      ⟨.inr ⟨allowance.ge, cfg.address_ne_zero, cfg.pool_live.1⟩, cfg.address_ne_zero,
        cfg.pool_live.1, funded.trans (congrFun balances cfg.address).ge, rfl⟩⟩
  have units : Pool.repaidScaled b.pool amount user ≤ b.pool.totalBorrowScaled :=
    (Pool.repaid_scaled_le_owed b.pool amount user).trans (sound.debt_le_total user)
  obtain ⟨l, repaid⟩ : ∃ l, Pool.repay cfg.pool cfg.address amount user
      ((b.setToken cfg.stable state).lending cfg.stable) = .ok l := by
    refine ⟨_, Pool.repay_ok_iff.2 ⟨some, ?_, ?_, ?_, pulled, ?_, rfl⟩⟩
    · rw [still]
      exact owed
    · rw [still]
      exact sound.borrow_index_pos.ne'
    · rw [still]
      exact units
    · rw [token]
      exact pulls
  apply bind_succeeds (Brokerage.pay_ok_iff.2 ⟨state, approves, rfl⟩)
  exact ⟨_, Brokerage.lend_ok_iff.2 ⟨l, repaid, rfl⟩⟩

structure BuysOut (cfg : Config Address) (sender user : Address) (payment : Nat)
    (b after : Brokerage Address) : Prop where
  paid : ∀ token, (after.tokens token).balanceOf sender +
    (if token = cfg.stable then payment else 0) = (b.tokens token).balanceOf sender
  least : debtOf b user ≤ debtOf after user + payment
  most : debtOf after user + payment ≤ debtOf b user + debtUnit b
  owing : debtOf after user ≠ 0
  claims : Pool.SameClaims b.pool after.pool

/-- Whoever can pay less than the loan buys the position out. -/
theorem buys_out (current : Current cfg b) (sound : b.pool.Sound) (outsider : Outsider cfg sender)
    (live : sender ≠ 0) (part : amount < debtOf b user)
    (funded : amount ≤ (b.tokens cfg.stable).balanceOf sender)
    (allowed : amount ≤ (b.tokens cfg.stable).allowance sender cfg.address) :
    ∃ after, buyOut cfg sender user amount b = .ok after ∧
      BuysOut cfg sender user amount b after := by
  unfold buyOut
  split_ifs with some
  · have pulls := (Erc20.transfer_from_ok_iff (b.tokens cfg.stable) _ cfg.address sender
      cfg.address amount).2 ⟨.inr ⟨allowed, live, cfg.address_ne_zero⟩, live, cfg.address_ne_zero,
        funded, rfl⟩
    have received := Pool.pulled_cash outsider.1 pulls
    generalize moved : ({ (b.tokens cfg.stable).moved sender cfg.address amount with
      allowance := (b.tokens cfg.stable).allowanceAfter sender cfg.address amount } :
        Erc20 Address) = state at pulls received
    have still : Current cfg (b.setToken cfg.stable state) := current
    have owed : amount < debtOf (b.setToken cfg.stable state) user := part
    have enough : amount ≤ ((b.setToken cfg.stable state).tokens cfg.stable).balanceOf
        cfg.address := by
      rw [Brokerage.set_token_self, received]
      exact Nat.le_add_left _ _
    obtain ⟨after, repays⟩ := repays_pool still sound some owed.le enough
    have recovers := recovers_of_repay_pool still sound owed repays
    refine ⟨after, (bind_ok_iff _ _ _).2 ⟨_, Brokerage.pay_ok_iff.2 ⟨state, pulls, rfl⟩, repays⟩,
      ?_, recovers.least, recovers.most, recovers.owing, recovers.claims⟩
    intro token
    rw [recovers.outside sender outsider]
    by_cases here : token = cfg.stable
    · subst here
      have debit := Erc20.moved_balances (b.tokens cfg.stable) sender cfg.address funded sender
      rw [if_pos rfl, if_neg outsider.1, add_zero] at debit
      rw [if_pos rfl, Brokerage.set_token_self, ← moved]
      exact debit
    · rw [if_neg here, add_zero, Brokerage.set_token_other _ _ here]
  · have none : amount = 0 := not_not.mp some
    subst none
    exact ⟨b, rfl, fun token => by simp, Nat.le_refl _, Nat.le_add_right _ _,
      Nat.pos_iff_ne_zero.mp part, .refl b.pool⟩

end Payment

/-! ## The whole call -/

section WriteOff

variable [Fintype Address] {payment : Nat}

/-- A position bought out of a block that was up to date, at `payment`. -/
structure WrittenOff (cfg : Config Address) (sender user : Address) (payment : Nat)
    (b after : Brokerage Address) : Prop where
  debt : debtOf after user = 0
  collateral : ∀ token, after.stock.collateralOf user token = 0
  bought : ∀ token, (after.tokens token).balanceOf sender +
      (if token = cfg.stable then payment else 0) =
    (b.tokens token).balanceOf sender + b.stock.collateralOf user token
  charged : ∃ loss, debtOf b user ≤ loss + payment ∧ loss + payment ≤ debtOf b user + debtUnit b ∧
    Pool.Charged b.pool after.pool loss

theorem absorbs (current : Current cfg b) (sound : b.pool.Sound)
    (wired : b.pool.borrowModule = cfg.address) (owing : debtOf b user ≠ 0) :
    ∃ l, Pool.absorbBadDebt cfg.pool cfg.address user (b.lending cfg.stable) =
        .ok (debtOf b user, l) ∧
      l.token = b.tokens cfg.stable ∧ l.pool = b.pool.absorbed user := by
  have still : Pool.accrue cfg.pool (b.lending cfg.stable) = b.lending cfg.stable :=
    Pool.accrue_of_no_time _ _ current
  refine ⟨_, Pool.absorb_bad_debt_ok_iff.2 ⟨wired.symm, ?_, sound.debt_le_total user, ?_, rfl⟩,
    rfl, ?_⟩
  · rw [still]
    exact owing
  · rw [still]
    rfl
  · rw [Lending.put_pool, still]
    rfl

/-- The payment is less than the loan, so neither the repayment nor the
absorption has anything to complain of. -/
theorem writes_off (current : Current cfg b) (custody : Custody cfg b) (recorded : Recorded cfg b)
    (wired : b.pool.borrowModule = cfg.address) (priced : Priced cfg user true b)
    (insolvent : (portfolio cfg user b).value < debtOf b user) (outsider : Outsider cfg sender)
    (live : sender ≠ 0) (price : payment = priceOfEverything cfg user (portfolio cfg user b).value b)
    (funded : payment ≤ (b.tokens cfg.stable).balanceOf sender)
    (allowed : payment ≤ (b.tokens cfg.stable).allowance sender cfg.address) :
    ∃ after, writeOffBadDebt cfg sender user b = .ok after ∧
      WrittenOff cfg sender user payment b after := by
  have covered : ∀ token, 0 ≤ spare cfg b token := fun token =>
    spare_nonneg_iff.2 (custody.covered token)
  obtain ⟨⟨count, handed⟩, hands⟩ := hands_over covered outsider.1 live user
  have whole : HandsOver sender user b handed := hands_over_of_loop outsider.1 hands
  have gone : Effect cfg user 0 b handed := effect_of_hand_over_collateral outsider.1 hands
  have clear := nothing_left recorded hands
  have owes : debtOf handed user = debtOf b user := by
    rw [debtOf, whole.pool, debtOf]
  have unit : debtUnit handed = debtUnit b := by
    rw [debtUnit, whole.pool, debtUnit]
  have part : payment < debtOf handed user := by
    rw [owes, price]
    exact (price_le_value cfg user _ b).trans_lt insolvent
  have richer : payment ≤ (handed.tokens cfg.stable).balanceOf sender := by
    have received := whole.received cfg.stable
    have none : handed.stock.collateralOf user cfg.stable = 0 := clear cfg.stable
    omega
  have granted : payment ≤ (handed.tokens cfg.stable).allowance sender cfg.address := by
    rw [whole.allowance]
    exact allowed
  obtain ⟨bought, buys, out⟩ :=
    buys_out (gone.current current).1 (gone.sound custody.sound) outsider live part richer granted
  have paid : Effect cfg user 0 handed bought := effect_of_buy_out outsider.1 buys
  have module : bought.pool.borrowModule = cfg.address :=
    paid.borrowModule.trans (gone.borrowModule.trans wired)
  obtain ⟨l, absorbed, token, pool⟩ := absorbs (paid.current (gone.current current).1).1
    (paid.sound (gone.sound custody.sound)) module out.owing
  obtain ⟨event, ran⟩ : ∃ event,
      writeOffBadDebt cfg sender user b = .ok ((bought.setLending cfg.stable l).emit event) := by
    have underwater : ¬(debtOf b user = 0 ∨ debtOf b user ≤ (portfolio cfg user b).value) := by
      omega
    simp only [writeOffBadDebt, accrue_pool_of_current current, priced.totals, ok_bind]
    rw [require_of _ underwater, ok_bind, hands, ok_bind, ← price, buys, ok_bind, absorbed, ok_bind]
    exact ⟨_, rfl⟩
  refine ⟨_, ran, ?_, ?_, ?_, ?_⟩
  · change Pool.balanceOfDebt l.pool user = 0
    rw [pool, Pool.debt_absorbed, if_pos rfl]
  · intro token
    change bought.stock.collateralOf user token = 0
    rw [stock_of_buy_out buys]
    exact clear token
  · intro other
    have tokens : ((bought.setLending cfg.stable l).emit event).tokens = bought.tokens := by
      change Function.update bought.tokens cfg.stable l.token = _
      rw [token, Function.update_eq_self]
    have received := whole.received other
    have none : handed.stock.collateralOf user other = 0 := clear other
    rw [tokens, out.paid, ← received, none, add_zero]
  · have charged : Pool.Charged bought.pool l.pool (debtOf bought user) := by
      rw [pool]
      exact Pool.charged_of_absorbed bought.pool user
    have least := out.least
    have most := out.most
    have claims := out.claims
    rw [owes] at least most
    rw [unit] at most
    rw [whole.pool] at claims
    exact ⟨_, least, most, charged.of_same claims⟩

omit [Fintype Address] in
theorem write_off_refused (refused : ¬(Priced cfg user true b ∧
      (portfolio cfg user b).value < owed cfg b user)) (sender : Address) :
    ∃ error, writeOffBadDebt cfg sender user b = .error error := by
  cases ran : writeOffBadDebt cfg sender user b with
  | error error => exact ⟨error, rfl⟩
  | ok after =>
      simp only [writeOffBadDebt, bind_ok_iff, require_ok_iff, exists_const, totals_ok_iff] at ran
      obtain ⟨_, ⟨priced, rfl⟩, underwater, _⟩ := ran
      exfalso
      apply refused
      have same : SamePrices user b (accruePool cfg b) :=
        ⟨accrue_pool_timestamp cfg b, rfl, rfl, rfl⟩
      rw [same.portfolio] at underwater
      refine ⟨same.priced.mp priced, ?_⟩
      unfold owed
      omega

/-- A loan that everything held against it, priced for a liquidation, no longer
covers is closed by any buyer who can pay: the debt and the collateral are gone,
the buyer has paid the value less the largest bonus and has all of it, and the
rest of the debt is charged, up to a scaled unit and the dust of the supply
index. Any other write-off is refused. -/
theorem write_off_closes_the_loan (cfg : Config Address) (b : Brokerage Address)
    (reached : (machine cfg).Reachable b) (wired : b.pool.borrowModule = cfg.address)
    (user : Address) :
    (Priced cfg user true b → (portfolio cfg user b).value < owed cfg b user →
      ∃ bonus payment, LargestBonus cfg user b bonus ∧
        payment = mulDiv (portfolio cfg user b).value WAD (WAD + bonus) ∧
        ∀ sender, Outsider cfg sender → sender ≠ 0 →
          payment ≤ (b.tokens cfg.stable).balanceOf sender →
          payment ≤ (b.tokens cfg.stable).allowance sender cfg.address →
          ∃ after, writeOffBadDebt cfg sender user b = .ok after ∧
            WrittenOff cfg sender user payment (accruePool cfg b) after) ∧
    (¬(Priced cfg user true b ∧ (portfolio cfg user b).value < owed cfg b user) →
      ∀ sender, ∃ error, writeOffBadDebt cfg sender user b = .error error) := by
  constructor
  · intro priced insolvent
    refine ⟨largestBonus cfg user b, _, largest_bonus cfg user b, rfl, ?_⟩
    intro sender outsider live funded allowed
    have same : SamePrices user b (accruePool cfg b) :=
      ⟨accrue_pool_timestamp cfg b, rfl, rfl, rfl⟩
    have custody : Custody cfg (accruePool cfg b) :=
      (custody_of_reachable reached).of_effect (effect_of_accrue cfg user b) fun _ => Int.le_refl 0
    have recorded : Recorded cfg (accruePool cfg b) :=
      (recorded_of_reachable reached).of_le fun _ _ => Nat.le_refl _
    have module : (accruePool cfg b).pool.borrowModule = cfg.address :=
      (effect_of_accrue cfg user b).borrowModule.trans wired
    rw [← accrue_pool_tokens cfg b] at funded allowed
    have price : mulDiv (portfolio cfg user b).value WAD (WAD + largestBonus cfg user b) =
        priceOfEverything cfg user (portfolio cfg user (accruePool cfg b)).value
          (accruePool cfg b) := by
      rw [same.portfolio]
      rfl
    obtain ⟨after, ran, written⟩ := writes_off (current_accrue_pool cfg b) custody recorded module
      (same.priced.mpr priced) (same.portfolio ▸ insolvent) outsider live price funded allowed
    refine ⟨after, ?_, written⟩
    have accrued : exec cfg sender (accruePool cfg b) (.writeOffBadDebt user) =
        exec cfg sender b (.writeOffBadDebt user) := exec_accrue_pool trivial
    exact accrued.symm.trans ran
  · intro refused sender
    exact write_off_refused refused sender

/-! ## Loans that outgrow their collateral -/

/-- Two owes close to ten thousand when the price falls from two hundred and fifty
to fifty. -/
def collapsedRun : List (Action (Fin 12)) :=
  fundedRun 4 ++ [.stock 2 (.borrow (99 * 10 ^ 8)),
    .feeds fun feed => if feed = 9 then some (50 * 10 ^ 8, 1000) else none]

theorem collapsed_loan_is_closed :
    ∃ b after payment, (machine loans).Reachable b ∧
      writeOffBadDebt loans 3 2 b = .ok after ∧
      WrittenOff loans 3 2 payment (accruePool loans b) after := by
  obtain ⟨b, reached, checked⟩ := reachable_of_run collapsedRun
    (fun b => passes (totals loans 2 true b) fun sums =>
      b.pool.borrowModule = 5 ∧ sums.value < owed loans b 2 ∧
        sums.value ≤ (b.tokens 7).balanceOf 3 ∧ sums.value ≤ (b.tokens 7).allowance 3 5)
    (by decide) (by decide +kernel)
  obtain ⟨sums, summed, checked⟩ := exists_of_passes _ checked
  obtain ⟨wired, insolvent, funded, allowed⟩ := of_decide_eq_true checked
  obtain ⟨priced, rfl⟩ := totals_ok_iff.mp summed
  obtain ⟨bonus, payment, _, price, buys⟩ :=
    (write_off_closes_the_loan loans b reached wired 2).1 priced insolvent
  have less : payment ≤ (portfolio loans 2 b).value :=
    price ▸ mul_div_le_left _ (Nat.le_add_right _ _)
  obtain ⟨after, ran, written⟩ :=
    buys 3 (by decide) (by decide) (less.trans funded) (less.trans allowed)
  exact ⟨b, after, payment, reached, ran, written⟩

def growingLoans : Config (Fin 12) :=
  { loans with pool := { loanPool with baseRatePerSecond := 10 ^ 9 } }

/-- A loan that is within its collateral by the debt on record, and not by the
interest of the last million seconds. -/
def outgrownRun : List (Action (Fin 12)) :=
  fundedRun 4 ++ [.stock 2 (.borrow (99 * 10 ^ 8)), .wait (10 ^ 6),
    .feeds fun feed => if feed = 9 then some (995 * 10 ^ 7, 1000000) else none]

/-- The pool's debt is drawn by a module that is not the vault. -/
def unwiredRun : List (Action (Fin 12)) :=
  [.pool 4 (.setBorrowModule 3), .pool 1 (.supply (10 ^ 12)), .pool 3 (.borrow 100 2)]

/-- The loan collapses over a pool of more than a thousand scaled units to the
unit of its index. -/
def vastRun : List (Action (Fin 12)) :=
  fundedRun 4 ++ [.pool 1 (.supply (2 * 10 ^ 30)), .stock 2 (.borrow (99 * 10 ^ 8)),
    .feeds fun feed => if feed = 9 then some (50 * 10 ^ 8, 1000) else none]

/-- The debt the view shows is not the debt a write-off reads, a vault the pool
does not lend through can write nothing off, and the dust of the supply index
falls on suppliers. -/
theorem write_off_reads_the_accrued_loan :
    (∃ b sums after, (machine growingLoans).Reachable b ∧ b.pool.borrowModule = 5 ∧
      totals growingLoans 2 true b = .ok sums ∧ debtOf b 2 ≠ 0 ∧ debtOf b 2 ≤ sums.value ∧
      writeOffBadDebt growingLoans 3 2 b = .ok after) ∧
    (∃ b sums error, (machine loans).Reachable b ∧ totals loans 2 true b = .ok sums ∧
      sums.value < debtOf b 2 ∧ sums.value ≤ (b.tokens 7).balanceOf 3 ∧
      sums.value ≤ (b.tokens 7).allowance 3 5 ∧
      writeOffBadDebt loans 3 2 b = .error error) ∧
    ∃ b after, (machine loans).Reachable b ∧ b.pool.borrowModule = 5 ∧
      writeOffBadDebt loans 3 2 b = .ok after ∧ accruePool loans b = b ∧
      debtOf b 2 + debtUnit b < Pool.allocated b.pool after.pool +
        ((b.tokens 7).balanceOf 3 - (after.tokens 7).balanceOf 3 : Nat) := by
  refine ⟨?_, ?_, ?_⟩
  · obtain ⟨b, reached, checked⟩ := reachable_of_replay growingLoans rfl rfl outgrownRun
      (fun b => passes (totals growingLoans 2 true b) fun sums =>
        passes (writeOffBadDebt growingLoans 3 2 b) fun _ =>
          b.pool.borrowModule = 5 ∧ debtOf b 2 ≠ 0 ∧ debtOf b 2 ≤ sums.value)
      (by decide) (by decide +kernel)
    obtain ⟨sums, priced, checked⟩ := exists_of_passes _ checked
    obtain ⟨after, ran, checked⟩ := exists_of_passes _ checked
    obtain ⟨wired, owing, covered⟩ := of_decide_eq_true checked
    exact ⟨b, sums, after, reached, wired, priced, owing, covered, ran⟩
  · obtain ⟨b, reached, checked⟩ := reachable_of_run unwiredRun
      (fun b => passes (totals loans 2 true b) fun sums =>
        !passes (writeOffBadDebt loans 3 2 b) (fun _ => true) &&
          decide (sums.value < debtOf b 2 ∧ sums.value ≤ (b.tokens 7).balanceOf 3 ∧
            sums.value ≤ (b.tokens 7).allowance 3 5))
      (by decide) (by decide +kernel)
    obtain ⟨sums, priced, checked⟩ := exists_of_passes _ checked
    obtain ⟨refused, checked⟩ := Bool.and_eq_true_iff.mp checked
    obtain ⟨insolvent, funded, allowed⟩ := of_decide_eq_true checked
    obtain ⟨error, ran⟩ := exists_error_of_refused refused
    exact ⟨b, sums, error, reached, priced, insolvent, funded, allowed, ran⟩
  · obtain ⟨b, reached, checked⟩ := reachable_of_run vastRun
      (fun b => passes (writeOffBadDebt loans 3 2 b) fun after =>
        b.pool.borrowModule = 5 ∧ Pool.elapsed (b.lending 7) = 0 ∧
          debtOf b 2 + debtUnit b < Pool.allocated b.pool after.pool +
            ((b.tokens 7).balanceOf 3 - (after.tokens 7).balanceOf 3 : Nat))
      (by decide) (by decide +kernel)
    obtain ⟨after, ran, checked⟩ := exists_of_passes _ checked
    obtain ⟨wired, current, charged⟩ := of_decide_eq_true checked
    exact ⟨b, after, reached, wired, ran, accrue_pool_of_current current, charged⟩

end WriteOff

end Stock

end Ghoststake
