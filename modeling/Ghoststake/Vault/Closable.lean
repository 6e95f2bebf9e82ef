import Ghoststake.Vault.Lien

/-!
# Every underwater position can be closed

None of the reverts on the way through a liquidation or a write-off can be
reached when the vault is the pool's borrow module, and what each takes off
the lien.
-/

namespace Ghoststake

set_option autoImplicit false

open Checked Rounding

namespace Vault

variable {Address : Type} [DecidableEq Address] [Zero Address] {cfg : Config Address}
  {pool : Pool.Config Address} {c after : Chain Address} {sender user : Address}
  {amount : Nat}

/-! ## The zero address owes nothing -/

/-- Who can owe, as long as nobody but the vault is made the borrow module. -/
structure Accountable (cfg : Config Address) (c : Chain Address) : Prop where
  unset : c.pool.borrowModule = 0 → ∀ user, c.pool.scaledDebt user = 0
  wired : c.pool.borrowModule = cfg.address → c.pool.scaledDebt 0 = 0

/-- A borrower holds shares, which the zero address never does. -/
theorem borrower_live {recipient : Address} (custody : balanceOf c 0 = 0)
    (ran : borrowInternal cfg user amount recipient c = .ok after) :
    c.pool.borrowModule = cfg.address ∧ user ≠ 0 := by
  simp only [borrowInternal, bind_ok_iff, require_ok_iff, exists_const, Chain.lend_ok_iff,
    creditor_ok_iff] at ran
  obtain ⟨pool, source, something, covered, _, ⟨lending, borrowed, rfl⟩, _⟩ := ran
  have wired := (Pool.borrower_live borrowed).1
  rw [accrue_lien_lending source, settle_lending, Pool.accrue_borrow_module] at wired
  refine ⟨wired.symm, ?_⟩
  intro zero
  have worth : collateralValue cfg (accrueLien cfg (settleInternal cfg user c)) user = 0 := by
    rw [collateralValue, balance_of_accrue_lien, balance_of_settle, zero, custody,
      convertToAssets, mul_div_zero_left, Nat.min_zero]
  rw [worth, mul_div_zero_left] at covered
  omega

omit [DecidableEq Address] in
theorem Accountable.of_debts (before : Accountable cfg c)
    (wiring : after.pool.borrowModule = c.pool.borrowModule)
    (debts : ∀ user, after.pool.scaledDebt user ≤ c.pool.scaledDebt user) :
    Accountable cfg after where
  unset none user := by
    have le := debts user
    rw [before.unset (wiring.symm.trans none) user] at le
    exact Nat.le_zero.1 le
  wired set := by
    have le := debts 0
    rw [before.wired (wiring.symm.trans set)] at le
    exact Nat.le_zero.1 le

/-- A borrow through the vault adds to the debt of a live account. -/
theorem Accountable.of_borrow {recipient : Address} (before : Accountable cfg c)
    (custody : balanceOf c 0 = 0)
    (ran : borrowInternal cfg user amount recipient c = .ok after) : Accountable cfg after := by
  obtain ⟨wired, live⟩ := borrower_live custody ran
  have reaches := reaches_borrow_internal ran
  constructor
  · intro none
    exact absurd (wired.symm.trans (reaches.wiring.symm.trans none)) cfg.address_ne_zero
  · intro _
    have le := reaches.debts 0 live.symm
    rw [before.wired wired] at le
    exact Nat.le_zero.1 le

omit [Zero Address] in
theorem spend_borrow_allowance_lending (delegate : Address) :
    (spendBorrowAllowance user delegate amount c).toLending = c.toLending := by
  simp only [spendBorrowAllowance]
  split_ifs
  · rfl
  · rfl

omit [Zero Address] in
theorem spend_borrow_allowance_shares (delegate : Address) :
    (spendBorrowAllowance user delegate amount c).vault.shares = c.vault.shares := by
  simp only [spendBorrowAllowance]
  split_ifs
  · rfl
  · rfl

theorem Accountable.of_exec {call : Call Address} (outsider : sender ≠ cfg.address)
    (before : Accountable cfg c) (custody : balanceOf c 0 = 0)
    (ran : exec cfg sender c call = .ok after) : Accountable cfg after := by
  have reaches := exec_reaches outsider ran
  cases call with
  | borrow amount =>
      simp only [exec, borrow, bind_ok_iff] at ran
      obtain ⟨_, _, ran⟩ := ran
      exact before.of_borrow custody ran
  | borrowFor onBehalfOf amount =>
      simp only [exec, borrowFor, bind_ok_iff, require_ok_iff, exists_const] at ran
      obtain ⟨_, _, _, ran⟩ := ran
      apply Accountable.of_borrow _ _ ran
      · constructor
        · rw [spend_borrow_allowance_lending]
          exact before.unset
        · rw [spend_borrow_allowance_lending]
          exact before.wired
      · rw [balance_of_shares (spend_borrow_allowance_shares sender)]
        exact custody
  | _ =>
      apply before.of_debts reaches.wiring
      intro user
      exact reaches.debts user id

section Runs

variable [Fintype Address]

theorem accountable_of_reachable (reached : (machine cfg).Reachable c)
    (source : cfg.lienSource = some pool) : Accountable cfg c := by
  apply reached.invariant (Accountable cfg)
  · intro state start
    constructor
    · intro unset
      exact Pool.no_debt_of_unset (start.pool_history pool source) unset
    · intro wired
      exact absurd (wired.symm.trans start.unwired) cfg.address_ne_zero
  · intro state action next history before taken
    obtain ⟨external, ran⟩ := taken
    cases action with
    | vault sender call =>
        exact before.of_exec external.1 (custody_of_reachable history).zero_holds_none ran
    | pool sender call =>
        simp only [act, execPool, bind_ok_iff, creditor_ok_iff, Chain.lend_ok_iff] at ran
        obtain ⟨other, _, lending, called, rfl⟩ := ran
        rcases Pool.exec_wiring called with ⟨kept, quiet | borrows⟩ | ⟨unset, live, debts⟩
        · exact before.of_debts kept quiet
        · constructor
          · intro unset
            exact absurd (borrows.1.trans (kept.symm.trans unset)) borrows.2
          · intro wired
            exact absurd (borrows.1.trans (kept.symm.trans wired)) external.1
        · constructor
          · intro unset
            exact absurd unset live
          · intro _
            have none := debts 0
            rw [before.unset unset 0] at none
            exact Nat.le_zero.1 none
    | asset sender call =>
        simp only [act, Chain.pay_ok_iff] at ran
        obtain ⟨_, _, rfl⟩ := ran
        exact before.of_debts rfl fun _ => Nat.le_refl _
    | wait seconds =>
        cases ran
        exact before.of_debts rfl fun _ => Nat.le_refl _

end Runs

/-! ## Neither exit can be blocked -/

/-- Settled and accrued, as every exit begins. -/
def upToDate (cfg : Config Address) (user : Address) (c : Chain Address) : Chain Address :=
  accrueLien cfg (settleInternal cfg user c)

section Exits

variable [Fintype Address]

theorem pulls_and_repays (source : cfg.lienSource = some pool) (sound : c.pool.Sound)
    (current : Pool.elapsed c.toLending = 0) (outsider : sender ≠ cfg.address)
    (live : sender ≠ 0) (something : amount ≠ 0) (owed : amount ≤ lienOf cfg c user)
    (funded : amount ≤ c.token.balanceOf sender)
    (allowed : amount ≤ c.token.allowance sender cfg.address) :
    ∃ repaid, pullAndRepay cfg pool sender user amount c = .ok repaid := by
  obtain ⟨token, pulls⟩ : ∃ token,
      c.token.transferFrom cfg.address sender cfg.address amount = .ok token :=
    ⟨_, (Erc20.transfer_from_ok_iff _ _ _ _ _ _).2
      ⟨.inr ⟨allowed, live, cfg.address_ne_zero⟩, live, cfg.address_ne_zero, funded, rfl⟩⟩
  have received := Pool.pulled_cash outsider pulls
  apply bind_succeeds (Chain.pay_ok_iff.2 ⟨token, pulls, rfl⟩)
  have later : Pool.elapsed ({ c with token := token } : Chain Address).toLending = 0 := current
  have books : ({ c with token := token } : Chain Address).pool.Sound := sound
  apply repays_lien source books later something
  · rw [lien_of_eq source] at owed ⊢
    exact owed
  · exact (Nat.le_add_left _ _).trans received.ge

omit [Fintype Address] in
theorem burns_collateral (cfg : Config Address) (c : Chain Address) (live : user ≠ 0)
    (amount : Nat) : ∃ burnt, burnCollateral cfg user amount c = .ok burnt := by
  have burns : burnShares cfg user (min (previewWithdraw cfg c amount) (balanceOf c user)) c =
      .ok _ := burn_shares_ok_iff.2 ⟨live, min_le_right _ _, rfl⟩
  exact bind_succeeds burns ⟨_, rfl⟩

omit [Fintype Address] in
theorem seizes_collateral (userLive : user ≠ 0) (senderLive : sender ≠ 0)
    (funded : amount ≤ totalAssets cfg c) :
    ∃ seized, seizeCollateral cfg user sender amount c = .ok seized := by
  obtain ⟨burnt, burns⟩ := burns_collateral cfg c userLive amount
  apply bind_succeeds burns
  apply pays_move senderLive
  rw [total_assets_of_lending cfg (lending_of_burn_collateral burns)]
  exact funded

omit [Fintype Address] in
theorem seize_collateral_pool (ran : seizeCollateral cfg user sender amount c = .ok after) :
    after.pool = c.pool := by
  simp only [seizeCollateral, bind_ok_iff, Chain.pay_ok_iff] at ran
  obtain ⟨burnt, burns, _, _, rfl⟩ := ran
  have same : burnt.pool = c.pool := congrArg Lending.pool (lending_of_burn_collateral burns)
  exact same

omit [Fintype Address] in
theorem repaid_pool_module (state : Pool.State Address) :
    (repaidPool cfg user amount state).borrowModule = state.borrowModule := rfl

omit [Fintype Address] in
theorem repaid_pool_last_accrual (state : Pool.State Address) :
    (repaidPool cfg user amount state).lastAccrualTime = state.lastAccrualTime := rfl

omit [Fintype Address] in
theorem repaid_pool_debt (state : Pool.State Address) :
    (repaidPool cfg user amount state).scaledDebt user =
      state.scaledDebt user - Pool.repaidScaled state amount user := Function.update_self ..

theorem repaid_pool_sound {state : Pool.State Address} (sound : state.Sound) :
    (repaidPool cfg user amount state).Sound :=
  (sound.debit_debt (Pool.repaid_scaled_le_owed state amount user)).emit _

/-- A repayment takes off the lien what it pays, less at most one scaled unit. -/
theorem lien_after_repaid {state : Pool.State Address} (sound : state.Sound)
    (owed : amount ≤ Pool.balanceOfDebt state user) :
    Pool.balanceOfDebt state user ≤
        Pool.balanceOfDebt (repaidPool cfg user amount state) user + amount ∧
      Pool.balanceOfDebt (repaidPool cfg user amount state) user + amount ≤
        Pool.balanceOfDebt state user + mulDivUp state.borrowIndex 1 RAY := by
  rcases Nat.eq_or_lt_of_le owed with whole | less
  · rw [whole, debt_repaid_whole]
    omega
  · obtain ⟨floor, below⟩ := Pool.repaid_scaled_below sound.borrow_index_pos.ne' less
    have left : Pool.balanceOfDebt (repaidPool cfg user amount state) user =
        mulDiv (state.scaledDebt user - mulDiv amount RAY state.borrowIndex)
          state.borrowIndex RAY := by
      have scaled : (repaidPool cfg user amount state).scaledDebt user =
          state.scaledDebt user - Pool.repaidScaled state amount user := repaid_pool_debt state
      rw [← floor, ← scaled]
      rfl
    rw [left, Pool.balanceOfDebt]
    constructor
    · exact ScaledIndex.balance_le_add_paid ray_pos
    · exact ScaledIndex.balance_add_paid_le ray_pos sound.borrow_index_pos below.le

omit [Fintype Address] [DecidableEq Address] in
theorem max_liquidatable_le (cfg : Config Address) (c : Chain Address) (user : Address) :
    maxLiquidatableDebt cfg c user ≤ lienOf cfg c user := by
  unfold maxLiquidatableDebt effectiveCloseFactor
  split_ifs
  · exact Nat.zero_le _
  · exact mul_div_le_left _ (Nat.le_refl _)
  · exact mul_div_le_left _ cfg.close_factor_le_wad

/-- A caller who can pay repays the most there is to repay. -/
theorem liquidates {state : Chain Address} (source : cfg.lienSource = some pool)
    (ready : state = upToDate cfg user c) (sound : state.pool.Sound)
    (custody : Custody cfg c) (outsider : sender ≠ cfg.address) (senderLive : sender ≠ 0)
    (userLive : user ≠ 0) (something : maxLiquidatableDebt cfg state user ≠ 0)
    (funded : maxLiquidatableDebt cfg state user ≤ state.token.balanceOf sender)
    (allowed : maxLiquidatableDebt cfg state user ≤ state.token.allowance sender cfg.address) :
    ∃ after, liquidate cfg sender user uint256Max c = .ok after ∧
      after.pool = repaidPool cfg user (maxLiquidatableDebt cfg state user) state.pool := by
  have current : Pool.elapsed state.toLending = 0 := by
    rw [ready, upToDate]
    exact current_accrue_lien source
  have underwater : healthFactor cfg state user < WAD := by
    by_contra healthy
    exact something (if_pos (not_lt.1 healthy))
  have most : maxLiquidatableDebt cfg state user =
      mulDiv (lienOf cfg state user)
        (effectiveCloseFactor cfg (healthFactor cfg state user)) WAD := if_neg (not_le.2 underwater)
  have owed := max_liquidatable_le cfg state user
  obtain ⟨repaid, repays⟩ :=
    pulls_and_repays source sound current outsider senderLive something owed funded allowed
  obtain ⟨_, lent, held, _⟩ := pull_and_repay_ok source outsider current repays
  have enough : seizure cfg state user (maxLiquidatableDebt cfg state user) ≤
      totalAssets cfg repaid := by
    apply (min_le_right _ _).trans
    rw [held, ready, upToDate, balance_of_accrue_lien, balance_of_settle, total_assets_accrue_lien,
      total_assets_settle]
    exact (convert_to_assets_congr (by simp) (by simp) _).le.trans
      (preview_redeem_le custody user)
  obtain ⟨seized, seizes⟩ := seizes_collateral userLive senderLive enough
  have ran : ∃ event, liquidate cfg sender user uint256Max c = .ok (seized.emit event) := by
    have brought : accrueLien cfg (settleInternal cfg user c) = state := ready.symm
    unfold liquidate
    rw [creditor_ok_iff.2 source, ok_bind]
    simp only [brought, if_true, ← most]
    rw [require_of _ underwater, ok_bind, require_of _ something, ok_bind,
      require_of _ (Nat.le_refl _), ok_bind, repays, ok_bind, seizes, ok_bind]
    exact ⟨_, rfl⟩
  obtain ⟨event, ran⟩ := ran
  have seizedPool := seize_collateral_pool seizes
  exact ⟨_, ran, seizedPool.trans lent⟩

theorem recovers_part (source : cfg.lienSource = some pool) (sound : c.pool.Sound)
    (current : Pool.elapsed c.toLending = 0) (live : user ≠ 0)
    (less : amount < lienOf cfg c user) (funded : amount ≤ totalAssets cfg c) :
    ∃ recovered, recover cfg pool user amount c = .ok recovered ∧
      Pool.elapsed recovered.toLending = 0 ∧
      recovered.pool.borrowModule = c.pool.borrowModule ∧
      0 < recovered.pool.scaledDebt user ∧ recovered.pool.Sound := by
  rw [lien_of_eq source] at less
  unfold recover
  split_ifs with something
  · obtain ⟨burnt, burns⟩ := burns_collateral cfg c live amount
    have lending := lending_of_burn_collateral burns
    have burntPool : burnt.pool = c.pool := congrArg Lending.pool lending
    obtain ⟨recovered, repays⟩ : ∃ recovered, repayLien cfg pool amount user burnt =
        .ok recovered := by
      apply repays_lien source
      · rw [burntPool]
        exact sound
      · rw [lending]
        exact current
      · exact something
      · rw [lien_of_eq source, burntPool]
        exact less.le
      · rw [total_assets_of_lending cfg lending]
        exact funded
    have still : Pool.elapsed burnt.toLending = 0 := by
      rw [lending]
      exact current
    obtain ⟨_, lent, _, _⟩ := repay_lien_ok source still repays
    have reaches : Reaches cfg (fun _ => False) burnt recovered :=
      Reaches.repay_lien source repays
    obtain ⟨floor, below⟩ := Pool.repaid_scaled_below sound.borrow_index_pos.ne' less
    refine ⟨recovered, (bind_ok_iff _ _ _).2 ⟨burnt, burns, repays⟩, ?_, ?_, ?_, ?_⟩
    · rw [Pool.elapsed, reaches.time, lent, repaid_pool_last_accrual]
      exact still
    · rw [lent, repaid_pool_module, burntPool]
    · rw [lent, repaid_pool_debt, burntPool, floor]
      exact Nat.sub_pos_of_lt below
    · rw [lent, burntPool]
      exact repaid_pool_sound sound
  · refine ⟨c, rfl, current, rfl, ?_, sound⟩
    apply Nat.pos_of_ne_zero
    intro none
    rw [(sound.debt_eq_zero_iff user).2 none] at less
    exact absurd less (Nat.not_lt_zero _)

/-- A write-off takes what is there, and the pool absorbs what is left, which
is never nothing. -/
theorem writes_off {state : Chain Address} (source : cfg.lienSource = some pool)
    (ready : state = upToDate cfg user c) (sound : state.pool.Sound)
    (custody : Custody cfg c) (userLive : user ≠ 0)
    (wired : state.pool.borrowModule = cfg.address)
    (insolvent : convertToAssets cfg state (balanceOf state user) < lienOf cfg state user) :
    ∃ after, writeOffBadDebt cfg sender user c = .ok after ∧ lienOf cfg after user = 0 := by
  have current : Pool.elapsed state.toLending = 0 := by
    rw [ready, upToDate]
    exact current_accrue_lien source
  have funded : convertToAssets cfg state (balanceOf state user) ≤ totalAssets cfg state := by
    rw [ready, upToDate, balance_of_accrue_lien, balance_of_settle, total_assets_accrue_lien,
      total_assets_settle]
    exact (convert_to_assets_congr (by simp) (by simp) _).le.trans
      (preview_redeem_le custody user)
  obtain ⟨recovered, recovers, still, kept, left, books⟩ :=
    recovers_part source sound current userLive insolvent funded
  have owing : Pool.balanceOfDebt recovered.pool user ≠ 0 := by
    rw [Ne, books.debt_eq_zero_iff]
    exact left.ne'
  obtain ⟨lending, absorbs, cleared⟩ : ∃ lending,
      Pool.absorbBadDebt pool cfg.address user recovered.toLending =
        .ok (Pool.balanceOfDebt recovered.pool user, lending) ∧
      lending.pool.scaledDebt user = 0 := by
    refine ⟨_, Pool.absorb_bad_debt_ok_iff.2 ⟨?_, ?_, books.debt_le_total user, ?_, rfl⟩, ?_⟩
    · exact (kept.trans wired).symm
    · rw [Pool.accrue_of_no_time _ _ still]
      exact owing
    · rw [Pool.accrue_of_no_time _ _ still]
    · rw [Lending.put_pool, Pool.absorbed_scaled_debt, Pool.debit_debt_scaled_debt,
        Function.update_self, Nat.sub_self]
  have ran : ∃ event, writeOffBadDebt cfg sender user c =
      .ok ({ recovered with toLending := lending }.emit event) := by
    have brought : accrueLien cfg (settleInternal cfg user c) = state := ready.symm
    unfold writeOffBadDebt
    rw [creditor_ok_iff.2 source, ok_bind]
    simp only [brought]
    rw [require_of _ insolvent, ok_bind, recovers, ok_bind, absorbs, ok_bind]
    exact ⟨_, rfl⟩
  obtain ⟨event, ran⟩ := ran
  refine ⟨_, ran, ?_⟩
  rw [lien_of_eq source, Pool.balanceOfDebt]
  have none : ({ recovered with toLending := lending }.emit event : Chain Address).pool.scaledDebt
      user = 0 := cleared
  rw [none, mul_div_zero_left]

theorem lien_live (reached : (machine cfg).Reachable c)
    (wired : c.pool.borrowModule = cfg.address)
    (owing : lienOf cfg (upToDate cfg user c) user ≠ 0) : user ≠ 0 := by
  intro zero
  obtain ⟨pool, source⟩ := source_of_lien owing
  apply owing
  rw [lien_of_eq source, upToDate, accrue_lien_lending source, settle_lending,
    Pool.balanceOfDebt, Pool.accrue_scaled_debt, zero,
    (accountable_of_reachable reached source).wired wired, mul_div_zero_left]

theorem sound_up_to_date (source : cfg.lienSource = some pool)
    (reached : (machine cfg).Reachable c) (user : Address) :
    (upToDate cfg user c).pool.Sound := by
  rw [upToDate, accrue_lien_lending source, settle_lending]
  exact (Pool.sound_of_reachable (pool_reachable reached pool source)).accrue

omit [Fintype Address] in
theorem up_to_date_token (cfg : Config Address) (user : Address) (c : Chain Address) :
    (upToDate cfg user c).token = c.token := by
  unfold upToDate accrueLien
  split
  · rw [settle_lending]
  · rw [Pool.accrue_token, settle_lending]

/-- An underwater position of the vault the pool lends through can be
liquidated by anyone who can pay for it, and written off by anyone when its
collateral no longer covers its lien: no revert on either path is reachable. -/
theorem underwater_positions_close (cfg : Config Address) (c : Chain Address)
    (reached : (machine cfg).Reachable c) (wired : c.pool.borrowModule = cfg.address)
    (user : Address) (underwater : healthFactor cfg (upToDate cfg user c) user < WAD) :
    (∀ sender, sender ≠ cfg.address → sender ≠ 0 →
      0 < maxLiquidatableDebt cfg (upToDate cfg user c) user →
      maxLiquidatableDebt cfg (upToDate cfg user c) user ≤ c.token.balanceOf sender →
      maxLiquidatableDebt cfg (upToDate cfg user c) user ≤
        c.token.allowance sender cfg.address →
      ∃ after, liquidate cfg sender user uint256Max c = .ok after ∧
        lienOf cfg (upToDate cfg user c) user ≤
          lienOf cfg after user + maxLiquidatableDebt cfg (upToDate cfg user c) user ∧
        lienOf cfg after user + maxLiquidatableDebt cfg (upToDate cfg user c) user ≤
          lienOf cfg (upToDate cfg user c) user +
            mulDivUp (upToDate cfg user c).pool.borrowIndex 1 RAY ∧
        (healthFactor cfg (upToDate cfg user c) user < cfg.fullLiquidationThreshold →
          lienOf cfg after user = 0)) ∧
    ∀ sender,
      convertToAssets cfg (upToDate cfg user c) (balanceOf (upToDate cfg user c) user) <
        lienOf cfg (upToDate cfg user c) user →
      ∃ after, writeOffBadDebt cfg sender user c = .ok after ∧ lienOf cfg after user = 0 := by
  have owing : lienOf cfg (upToDate cfg user c) user ≠ 0 := by
    intro none
    rw [healthFactor, if_pos none] at underwater
    exact absurd underwater (by unfold WAD; decide)
  have userLive := lien_live reached wired owing
  obtain ⟨pool, source⟩ := source_of_lien owing
  have custody := custody_of_reachable reached
  have sound := sound_up_to_date source reached user
  constructor
  · intro sender outsider senderLive something funded allowed
    rw [← up_to_date_token cfg user c] at funded allowed
    obtain ⟨after, ran, repaid⟩ := liquidates source rfl sound custody outsider senderLive
      userLive something.ne' funded allowed
    refine ⟨after, ran, ?_⟩
    have owed := max_liquidatable_le cfg (upToDate cfg user c) user
    have whole : healthFactor cfg (upToDate cfg user c) user < cfg.fullLiquidationThreshold →
        maxLiquidatableDebt cfg (upToDate cfg user c) user =
          lienOf cfg (upToDate cfg user c) user := by
      intro deep
      rw [maxLiquidatableDebt, if_neg (not_le.2 underwater), effectiveCloseFactor, if_pos deep,
        mul_div_self _ wad_pos]
    have lien (state : Chain Address) := lien_of_eq source state user
    simp only [lien] at owed whole ⊢
    rw [repaid]
    obtain ⟨most, least⟩ := lien_after_repaid sound owed
    refine ⟨most, least, ?_⟩
    intro deep
    rw [whole deep]
    exact debt_repaid_whole cfg _ user
  · intro sender insolvent
    have module : (upToDate cfg user c).pool.borrowModule = cfg.address := by
      rw [upToDate, accrue_lien_lending source, settle_lending, Pool.accrue_borrow_module, wired]
    exact writes_off source rfl sound custody userLive module insolvent

/-- A borrower whose lien has grown past the collateral. -/
theorem insolvent_position_closes :
    ∃ c, (∃ after, liquidate (smallVault (10 ^ 9)) 3 2 uint256Max c = .ok after ∧
        lienOf (smallVault (10 ^ 9)) after 2 = 0) ∧
      ∃ after, writeOffBadDebt (smallVault (10 ^ 9)) 4 2 c = .ok after ∧
        lienOf (smallVault (10 ^ 9)) after 2 = 0 := by
  obtain ⟨c, reached, checked⟩ := reachable_of_replay (10 ^ 9) (fun _ _ => True)
    [.pool 6 (.setBorrowModule 5), .pool 1 (.supply (10 ^ 12)), .vault 2 (.deposit (10 ^ 9) 2),
      .vault 2 (.borrow (4 * 10 ^ 8)), .wait (2 * 10 ^ 9)]
    (fun c => c.pool.borrowModule = (smallVault (10 ^ 9)).address ∧
      healthFactor (smallVault (10 ^ 9)) (upToDate (smallVault (10 ^ 9)) 2 c) 2 <
        (smallVault (10 ^ 9)).fullLiquidationThreshold ∧
      healthFactor (smallVault (10 ^ 9)) (upToDate (smallVault (10 ^ 9)) 2 c) 2 < WAD ∧
      0 < maxLiquidatableDebt (smallVault (10 ^ 9)) (upToDate (smallVault (10 ^ 9)) 2 c) 2 ∧
      maxLiquidatableDebt (smallVault (10 ^ 9)) (upToDate (smallVault (10 ^ 9)) 2 c) 2 ≤
        c.token.balanceOf 3 ∧
      maxLiquidatableDebt (smallVault (10 ^ 9)) (upToDate (smallVault (10 ^ 9)) 2 c) 2 ≤
        c.token.allowance 3 5 ∧
      convertToAssets (smallVault (10 ^ 9)) (upToDate (smallVault (10 ^ 9)) 2 c)
          (balanceOf (upToDate (smallVault (10 ^ 9)) 2 c) 2) <
        lienOf (smallVault (10 ^ 9)) (upToDate (smallVault (10 ^ 9)) 2 c) 2)
    (by decide) (by decide +kernel)
  obtain ⟨wired, deep, underwater, something, funded, allowed, insolvent⟩ :=
    of_decide_eq_true checked
  obtain ⟨liquidated, written⟩ :=
    underwater_positions_close _ c reached.of_restrict wired 2 underwater
  obtain ⟨after, ran, _, _, closed⟩ :=
    liquidated 3 (by decide) (by decide) something funded allowed
  exact ⟨c, ⟨after, ran, closed deep⟩, written 4 insolvent⟩

end Exits

end Vault

end Ghoststake
