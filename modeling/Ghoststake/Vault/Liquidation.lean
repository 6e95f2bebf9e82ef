import Ghoststake.Vault.Origination
import Ghoststake.Vault.Shares

/-!
# What a liquidation does to the position

The collateral is the lower of two figures that a seizure reduces by different
rules, and the lien falls through a floor. Whichever figure is the lower one
before and after, a covered position is left no less healthy.
-/

namespace Ghoststake

set_option autoImplicit false

open Checked Rounding SharePrice

namespace Vault

variable {Address : Type} [DecidableEq Address] [Zero Address] {cfg : Config Address}
  {pool : Pool.Config Address} {c after : Chain Address} {sender user : Address} {amount : Nat}

def shareUnit (cfg : Config Address) (c : Chain Address) : Nat :=
  mulDivUp 1 (totalAssets cfg c + 1) (totalSupply c + virtualShares)

/-- What a liquidation repays: the largest amount stands for the most allowed. -/
def liquidated (cfg : Config Address) (c : Chain Address) (user : Address) (repayAmount : Nat) :
    Nat :=
  if repayAmount = uint256Max then maxLiquidatableDebt cfg c user else repayAmount

theorem pull_and_repay_payer (source : cfg.lienSource = some pool)
    (outsider : Outsider cfg sender) (current : Pool.elapsed c.toLending = 0)
    (ran : pullAndRepay cfg pool sender user amount c = .ok after) :
    after.token.balanceOf sender + amount = c.token.balanceOf sender := by
  simp only [pullAndRepay, bind_ok_iff, Chain.pay_ok_iff] at ran
  obtain ⟨_, ⟨token, pulled, rfl⟩, repays⟩ := ran
  have still : Pool.elapsed ({ c with token := token } : Chain Address).toLending = 0 := current
  obtain ⟨_, _, paid, _⟩ := repay_lien_ok source still repays
  obtain ⟨_, _, _, funded, rfl⟩ := (Erc20.transfer_from_ok_iff _ _ _ _ _ _).1 pulled
  rw [paid, Erc20.moved_balance_other _ _ outsider.1 (outsider.2 pool source)]
  have left := Erc20.moved_balance_source c.token amount outsider.1
  exact (congrArg (· + amount) left).trans (Nat.sub_add_cancel funded)

structure Liquidates (cfg : Config Address) (sender user : Address) (repaid seized : Nat)
    (c after : Chain Address) : Prop where
  lien : PaidOff cfg user repaid c after
  timestamp : after.timestamp = c.timestamp
  paid : after.token.balanceOf sender + repaid = c.token.balanceOf sender + seized
  leaves : Leaves cfg user seized (previewWithdraw cfg c seized) c after

omit [DecidableEq Address] in
theorem PaidOff.of_pool {paid : Nat} {mid : Chain Address} (paidOff : PaidOff cfg user paid c mid)
    (same : after.pool = mid.pool) : PaidOff cfg user paid c after := by
  have lien : lienOf cfg after = lienOf cfg mid := by
    funext other
    simp only [lienOf, same]
  have unit : debtUnit after = debtUnit mid := by
    simp only [debtUnit, same]
  constructor
  · rw [lien]
    exact paidOff.falls_by
  · rw [lien, unit]
    exact paidOff.falls
  · rw [lien]
    exact paidOff.others

theorem PaidOff.of_settled {paid : Nat}
    (paidOff : PaidOff cfg user paid (settleInternal cfg user c) after) :
    PaidOff cfg user paid c after := by
  obtain ⟨falls_by, falls, others⟩ := paidOff
  simp only [lien_of_accrue_settle] at falls_by falls others
  exact ⟨falls_by, falls, others⟩

theorem convert_up_to_date (cfg : Config Address) (user : Address) (c : Chain Address) :
    convertToAssets cfg (upToDate cfg user c) (balanceOf (upToDate cfg user c) user) =
      convertToAssets cfg c (balanceOf c user) := by
  rw [upToDate, balance_of_accrue_lien, balance_of_settle]
  exact convert_to_assets_congr (by simp) (by simp) _

/-- A position just settled has all its yield in the settled figure. -/
theorem ledger_up_to_date (cfg : Config Address) (user : Address) (c : Chain Address) :
    totalLedgerValue (upToDate cfg user c) user =
      (settledPosition cfg c user).principal + (settledPosition cfg c user).settledYield := by
  rw [totalLedgerValue, accruedYield, accrued_at_start]
  · rw [upToDate, ready_ledger, Function.update_self, Nat.add_zero]
  · rw [upToDate, ready_ledger, Function.update_self, accrue_lien_timestamp, settle_lending]
    exact Nat.sub_self c.timestamp

theorem liquidates_of_liquidate (outsider : Outsider cfg sender)
    (ran : liquidate cfg sender user amount c = .ok after) :
    Liquidates cfg sender user (liquidated cfg (upToDate cfg user c) user amount)
      (seizure cfg (upToDate cfg user c) user (liquidated cfg (upToDate cfg user c) user amount))
      c after := by
  simp only [liquidate, seizeCollateral, bind_ok_iff, require_ok_iff, exists_const,
    creditor_ok_iff, Chain.pay_ok_iff, Except.ok.injEq] at ran
  obtain ⟨pool, source, underwater, _, _, repaid, repays, _, ⟨burnt, burns, token, pushed, rfl⟩,
    done⟩ := ran
  have ready : accrueLien cfg (settleInternal cfg user c) = upToDate cfg user c := rfl
  have most : mulDiv (lienOf cfg (upToDate cfg user c) user)
      (effectiveCloseFactor cfg (healthFactor cfg (upToDate cfg user c) user)) WAD =
        maxLiquidatableDebt cfg (upToDate cfg user c) user := (if_neg (not_le.2 underwater)).symm
  have asked : (if amount = uint256Max then maxLiquidatableDebt cfg (upToDate cfg user c) user
      else amount) = liquidated cfg (upToDate cfg user c) user amount := rfl
  simp only [ready, most, asked] at repays burns pushed
  generalize liquidated cfg (upToDate cfg user c) user amount = paying at repays burns pushed ⊢
  have worth : seizure cfg (upToDate cfg user c) user paying ≤
      convertToAssets cfg c (balanceOf c user) :=
    (min_le_right _ _).trans (convert_up_to_date cfg user c).le
  generalize seizure cfg (upToDate cfg user c) user paying = seized at burns pushed worth ⊢
  have current : Pool.elapsed (upToDate cfg user c).toLending = 0 := current_accrue_lien source
  obtain ⟨repaidVault, _, repaidAssets, _⟩ := pull_and_repay_ok source outsider.1 current repays
  obtain ⟨_, _, _, _, lending⟩ := burn_collateral_ok burns
  have still : (upToDate cfg user c).token = c.token := up_to_date_token cfg user c
  have shares : repaid.vault.shares = c.vault.shares := by
    rw [repaidVault, upToDate, accrue_lien_vault, settle_shares]
  have held : totalAssets cfg repaid = totalAssets cfg c := by
    rw [repaidAssets, upToDate, total_assets_accrue_lien, total_assets_settle]
  have left := total_assets_pushed pushed
  rw [total_assets_of_lending cfg lending, held] at left
  have settledLedger : repaid.vault.positions = Function.update c.vault.positions user
      (settledPosition cfg c user) := by
    rw [repaidVault]
    exact ready_ledger cfg user c
  have time : repaid.timestamp = c.timestamp := by
    have reaches : Reaches cfg (fun _ => False) (upToDate cfg user c) repaid :=
      reaches_pull_and_repay source outsider.1 repays
    rw [reaches.time, upToDate, accrue_lien_timestamp, settle_lending]
  have payer := pull_and_repay_payer source outsider current repays
  rw [still] at payer
  have paidOff := (paid_off_of_pull_and_repay source repays).1.of_settled
  have taken : Leaves cfg user seized (min (previewWithdraw cfg c seized) (balanceOf c user))
      c after := by
    apply leaves_of_burn_collateral (balance_of_shares shares) (total_supply_shares shares) held
      settledLedger burns
    · rw [← done]
      rfl
    · rw [← done]
      rfl
    · rw [← done]
      exact left
  rw [min_eq_left (preview_withdraw_le worth)] at taken
  have samePool : burnt.pool = repaid.pool := congrArg Lending.pool lending
  have sameTime : burnt.timestamp = repaid.timestamp := congrArg Lending.timestamp lending
  refine ⟨?_, ?_, ?_, taken⟩
  · apply paidOff.of_pool
    rw [← done]
    exact samePool
  · rw [← done, ← time]
    exact sameTime
  · have token_eq : burnt.token = repaid.token := congrArg Lending.token lending
    obtain ⟨_, _, _, moved⟩ := (Erc20.move_ok_iff _ _ _ _ _).1 pushed
    have received : after.token.balanceOf sender = repaid.token.balanceOf sender + seized := by
      rw [← done]
      change token.balanceOf sender = _
      rw [moved, Erc20.moved_balance_target _ _ outsider.1.symm, token_eq]
    omega

/-! ## The two figures of the collateral -/

section Position

variable {repaid seized : Nat}

theorem ledger_of_leaves (move : Leaves cfg user seized amount c after)
    (time : after.timestamp = c.timestamp) (less : amount < balanceOf c user) :
    totalLedgerValue after user =
      (settledPosition cfg c user).principal -
          mulDiv (settledPosition cfg c user).principal amount (balanceOf c user) +
        ((settledPosition cfg c user).settledYield -
          mulDiv (settledPosition cfg c user).settledYield amount (balanceOf c user)) := by
  have position : after.vault.positions user =
      (settledPosition cfg c user).reduced amount (balanceOf c user) := by
    rw [move.ledger, Function.update_self]
  have start : after.timestamp - (after.vault.positions user).startTime = 0 := by
    rw [position, time, Position.reduced, if_neg (not_le.2 less)]
    exact Nat.sub_self c.timestamp
  rw [totalLedgerValue, accruedYield, accrued_at_start start, position, Position.reduced,
    if_neg (not_le.2 less)]
  rfl

omit [DecidableEq Address] in
theorem preview_withdraw_pot (cfg : Config Address) (c : Chain Address) (assets : Nat) :
    previewWithdraw cfg c assets =
      mulDivUp assets ((pot cfg c).shares + virtualShares) ((pot cfg c).assets + 1) := by
  unfold previewWithdraw pot
  rfl

omit [DecidableEq Address] in
theorem share_unit_pot (cfg : Config Address) (c : Chain Address) :
    mulDivUp 1 ((pot cfg c).assets + 1) ((pot cfg c).shares + virtualShares) =
      shareUnit cfg c := by
  unfold shareUnit pot
  rfl

/-- The collateral falls by what is seized and less than one share more. -/
theorem collateral_le_after [Fintype Address] (custody : Custody cfg c)
    (move : Leaves cfg user seized (previewWithdraw cfg c seized) c after)
    (time : after.timestamp = c.timestamp) :
    collateralValue cfg (upToDate cfg user c) user ≤
      collateralValue cfg after user + seized + shareUnit cfg c := by
  have worth : collateralValue cfg (upToDate cfg user c) user ≤
      (pot cfg c).worth virtualShares (balanceOf c user) :=
    (min_le_right _ _).trans (convert_up_to_date cfg user c).le
  have booked : collateralValue cfg (upToDate cfg user c) user ≤
      (settledPosition cfg c user).principal + (settledPosition cfg c user).settledYield :=
    (min_le_left _ _).trans (ledger_up_to_date cfg user c).le
  have price : PriceLe virtualShares (pot cfg c) (pot cfg after) :=
    .of_leave (preview_withdraw_fair cfg c seized)
      (move.held.trans (custody.balance_le user)) move.supply move.paid
  have left : convertToAssets cfg after (balanceOf after user) =
      (pot cfg after).worth virtualShares (balanceOf c user - previewWithdraw cfg c seized) := by
    rw [convert_to_assets_eq_worth, move.holders, Function.update_self]
  have shares : (pot cfg c).worth virtualShares (balanceOf c user) ≤
      (pot cfg after).worth virtualShares (balanceOf c user - previewWithdraw cfg c seized) +
        seized + shareUnit cfg c := by
    rw [← share_unit_pot]
    exact worth_le_taken virtual_shares_pos (preview_withdraw_pot cfg c seized) price
  rcases Nat.eq_or_lt_of_le move.held with all | part
  · have nothing : (pot cfg after).worth virtualShares 0 = 0 := mul_div_zero_left _ _
    rw [all, Nat.sub_self, nothing] at shares
    omega
  · have ledger := value_le_taken virtual_shares_pos (preview_withdraw_pot cfg c seized)
      (Nat.zero_lt_of_lt part) part.le worth booked
    rw [share_unit_pot] at ledger
    have lower : collateralValue cfg after user = min (totalLedgerValue after user)
        (convertToAssets cfg after (balanceOf after user)) := rfl
    rw [lower, ledger_of_leaves move time part, left]
    rw [← Nat.add_min_add_right, ← Nat.add_min_add_right]
    exact le_min ledger (worth.trans shares)

end Position

/-! ## One liquidation -/

section Liquidations

variable [Fintype Address]

structure LiquidatedSafely (cfg : Config Address) (sender user : Address) (repaid : Nat)
    (c after : Chain Address) : Prop where
  ratio : lienOf cfg (upToDate cfg user c) user * (WAD + cfg.liquidationBonus) ≤
      collateralValue cfg (upToDate cfg user c) user * WAD →
    (collateralValue cfg (upToDate cfg user c) user : Int) *
        ((lienOf cfg after user : Int) - 1 - debtUnit after) ≤
      ((collateralValue cfg after user : Int) + shareUnit cfg c + 2) *
        lienOf cfg (upToDate cfg user c) user
  received : after.token.balanceOf sender + repaid = c.token.balanceOf sender +
    min (repaid + mulDiv repaid cfg.liquidationBonus WAD)
      (convertToAssets cfg c (balanceOf c user))
  at_most : min (repaid + mulDiv repaid cfg.liquidationBonus WAD)
    (convertToAssets cfg c (balanceOf c user)) * WAD ≤ repaid * (WAD + cfg.liquidationBonus)
  positions : ∀ other, other ≠ user → after.vault.positions other = c.vault.positions other
  liens : ∀ other, other ≠ user → lienOf cfg after other = lienOf cfg (accrueLien cfg c) other
  shares : ∀ other, other ≠ user → convertToAssets cfg c (balanceOf c other) ≤
    convertToAssets cfg after (balanceOf after other)

omit [DecidableEq Address] [Fintype Address] in
theorem premium_le (cfg : Config Address) (repaid : Nat) :
    (repaid + mulDiv repaid cfg.liquidationBonus WAD) * WAD ≤
      repaid * (WAD + cfg.liquidationBonus) := by
  rw [Nat.add_mul, Nat.mul_add]
  exact Nat.add_le_add_left (mul_div_mul_le _ _ _) _

/-- However the collateral is counted and whatever the index and the share
price, a liquidation of a position that covers its lien with the bonus leaves
the ratio of the two where it was, up to one share and one scaled unit of debt;
the liquidator is paid the bonus on what it repaid, or all there is; and nobody
else's position, lien or shares lose anything. -/
theorem liquidation_is_safe (cfg : Config Address) (c after : Chain Address)
    (sender user : Address) (repayAmount : Nat) (reached : (machine cfg).Reachable c)
    (outsider : Outsider cfg sender)
    (ran : liquidate cfg sender user repayAmount c = .ok after) :
    LiquidatedSafely cfg sender user (liquidated cfg (upToDate cfg user c) user repayAmount)
      c after := by
  have custody := custody_of_reachable reached
  obtain ⟨paidOff, time, paid, move⟩ := liquidates_of_liquidate outsider ran
  generalize liquidated cfg (upToDate cfg user c) user repayAmount = repaid at paidOff paid move ⊢
  have seizes : seizure cfg (upToDate cfg user c) user repaid =
      min (repaid + mulDiv repaid cfg.liquidationBonus WAD)
        (convertToAssets cfg c (balanceOf c user)) := by
    rw [← convert_up_to_date cfg user c]
    rfl
  rw [seizes] at paid move
  have premium : min (repaid + mulDiv repaid cfg.liquidationBonus WAD)
      (convertToAssets cfg c (balanceOf c user)) * WAD ≤
        repaid * (WAD + cfg.liquidationBonus) :=
    (Nat.mul_le_mul_right _ (min_le_left _ _)).trans (premium_le cfg repaid)
  have price : PriceLe virtualShares (pot cfg c) (pot cfg after) :=
    .of_leave (preview_withdraw_fair cfg c _)
      (move.held.trans (custody.balance_le user)) move.supply move.paid
  have accrued : lienOf cfg (upToDate cfg user c) user = lienOf cfg (accrueLien cfg c) user :=
    lien_of_accrue_settle cfg user c user
  refine ⟨?_, paid, premium, ?_, paidOff.others, ?_⟩
  · intro covered
    have fell := collateral_le_after custody move time
    have cleared := paidOff.falls
    rw [← accrued] at cleared
    exact ratio_kept fell cleared premium wad_pos covered
  · intro other distinct
    rw [move.ledger, Function.update_of_ne distinct]
  · intro other distinct
    rw [move.holders, Function.update_of_ne distinct]
    exact worth_le_worth virtual_shares_pos price (Nat.le_refl _)

/-- A caller with the means to repay as much as one call may. -/
structure Able (cfg : Config Address) (c : Chain Address) (user sender : Address) : Prop where
  outsider : Outsider cfg sender
  live : sender ≠ 0
  funded : maxLiquidatableDebt cfg (upToDate cfg user c) user ≤ c.token.balanceOf sender
  allowed : maxLiquidatableDebt cfg (upToDate cfg user c) user ≤
    c.token.allowance sender cfg.address

/-- Repaying the most there is to repay pays the caller exactly when the
collateral it takes is worth more. -/
theorem liquidate_gains_iff (source : cfg.lienSource = some pool)
    (reached : (machine cfg).Reachable c) (able : Able cfg c user sender) :
    (∃ after, liquidate cfg sender user uint256Max c = .ok after ∧
      c.token.balanceOf sender < after.token.balanceOf sender) ↔
    maxLiquidatableDebt cfg (upToDate cfg user c) user <
      seizure cfg (upToDate cfg user c) user
        (maxLiquidatableDebt cfg (upToDate cfg user c) user) := by
  have most : liquidated cfg (upToDate cfg user c) user uint256Max =
      maxLiquidatableDebt cfg (upToDate cfg user c) user := if_pos rfl
  have pays {after : Chain Address}
      (ran : liquidate cfg sender user uint256Max c = .ok after) :
      after.token.balanceOf sender + maxLiquidatableDebt cfg (upToDate cfg user c) user =
        c.token.balanceOf sender + seizure cfg (upToDate cfg user c) user
          (maxLiquidatableDebt cfg (upToDate cfg user c) user) := by
    have paid := (liquidates_of_liquidate able.outsider ran).paid
    rwa [most] at paid
  constructor
  · rintro ⟨after, ran, gains⟩
    have paid := pays ran
    omega
  · intro worthwhile
    have custody := custody_of_reachable reached
    have worth : seizure cfg (upToDate cfg user c) user
        (maxLiquidatableDebt cfg (upToDate cfg user c) user) ≤
          convertToAssets cfg (upToDate cfg user c) (balanceOf (upToDate cfg user c) user) :=
      min_le_right _ _
    have userLive : user ≠ 0 := by
      intro zero
      rw [convert_up_to_date, zero, custody.zero_holds_none, convertToAssets,
        mul_div_zero_left] at worth
      rw [zero] at worthwhile
      omega
    have something : maxLiquidatableDebt cfg (upToDate cfg user c) user ≠ 0 := by
      intro none
      have nothing : seizure cfg (upToDate cfg user c) user 0 = 0 := by
        rw [seizure, mul_div_zero_left, Nat.add_zero, Nat.zero_min]
      rw [none, nothing] at worthwhile
      exact Nat.lt_irrefl 0 worthwhile
    have sound := sound_up_to_date source reached user
    have token := up_to_date_token cfg user c
    obtain ⟨after, ran, _⟩ := liquidates source rfl sound custody able.outsider.1 able.live
      userLive something (token ▸ able.funded) (token ▸ able.allowed)
    have paid := pays ran
    exact ⟨after, ran, by omega⟩

omit [DecidableEq Address] [Fintype Address] in
/-- A lien of more than the shares are worth can be repaid whole. -/
theorem deep_of_insolvent
    (insolvent : convertToAssets cfg c (balanceOf c user) < lienOf cfg c user) :
    healthFactor cfg c user < cfg.fullLiquidationThreshold := by
  have positive : 0 < cfg.liquidationThreshold := Nat.zero_lt_of_lt cfg.max_ltv_lt_threshold
  have owing : lienOf cfg c user ≠ 0 := by omega
  have ratio : healthFactor cfg c user < cfg.liquidationThreshold := by
    rw [healthFactor, if_neg owing, mulDiv, Nat.div_lt_iff_lt_mul (by omega), Nat.mul_comm]
    apply Nat.mul_lt_mul_of_pos_left _ positive
    exact Nat.lt_of_le_of_lt (min_le_right _ _) insolvent
  have bonus : cfg.liquidationThreshold ≤ cfg.fullLiquidationThreshold := by
    rw [Config.fullLiquidationThreshold, le_mul_div_iff wad_pos]
    exact Nat.mul_le_mul_left _ (Nat.le_add_right _ _)
  exact Nat.lt_of_lt_of_le ratio bonus

omit [DecidableEq Address] [Fintype Address] in
theorem underwater_of_gain
    (gains : maxLiquidatableDebt cfg c user < seizure cfg c user (maxLiquidatableDebt cfg c user)) :
    healthFactor cfg c user < WAD := by
  by_contra healthy
  have nothing : maxLiquidatableDebt cfg c user = 0 := if_pos (not_lt.1 healthy)
  rw [nothing, seizure, mul_div_zero_left, Nat.add_zero, Nat.zero_min] at gains
  exact Nat.lt_irrefl 0 gains

omit [DecidableEq Address] [Fintype Address] in
/-- Nor does repaying it whole take as much as it costs. -/
theorem no_gain_of_insolvent
    (insolvent : convertToAssets cfg c (balanceOf c user) < lienOf cfg c user) :
    ¬maxLiquidatableDebt cfg c user < seizure cfg c user (maxLiquidatableDebt cfg c user) := by
  intro gains
  have underwater := underwater_of_gain gains
  have whole : maxLiquidatableDebt cfg c user = lienOf cfg c user := by
    rw [maxLiquidatableDebt, if_neg (not_le.2 underwater), effectiveCloseFactor,
      if_pos (deep_of_insolvent insolvent), mul_div_self _ wad_pos]
  have capped : seizure cfg c user (maxLiquidatableDebt cfg c user) ≤
      convertToAssets cfg c (balanceOf c user) := min_le_right _ _
  omega

/-- A borrower whose lien has grown past the threshold, and a liquidator who
repays part of it. -/
theorem liquidation_of_covered_position :
    ∃ c after, (machine (smallVault (10 ^ 9))).Reachable c ∧
      liquidate (smallVault (10 ^ 9)) 3 2 1000 c = .ok after ∧
      lienOf (smallVault (10 ^ 9)) (upToDate (smallVault (10 ^ 9)) 2 c) 2 *
          (WAD + (smallVault (10 ^ 9)).liquidationBonus) ≤
        collateralValue (smallVault (10 ^ 9)) (upToDate (smallVault (10 ^ 9)) 2 c) 2 * WAD ∧
      LiquidatedSafely (smallVault (10 ^ 9)) 3 2 1000 c after := by
  obtain ⟨c, reached, checked⟩ := reachable_of_replay (10 ^ 9) (fun _ _ => True)
    [.pool 6 (.setBorrowModule 5), .pool 1 (.supply (10 ^ 12)), .vault 2 (.deposit (10 ^ 9) 2),
      .vault 2 (.borrow (5 * 10 ^ 8)), .wait (7 * 10 ^ 8)]
    (fun c => decide (lienOf (smallVault (10 ^ 9)) (upToDate (smallVault (10 ^ 9)) 2 c) 2 *
          (WAD + (smallVault (10 ^ 9)).liquidationBonus) ≤
        collateralValue (smallVault (10 ^ 9)) (upToDate (smallVault (10 ^ 9)) 2 c) 2 * WAD) &&
      passes (liquidate (smallVault (10 ^ 9)) 3 2 1000 c) fun _ => true)
    (by decide) (by decide +kernel)
  rw [Bool.and_eq_true] at checked
  obtain ⟨after, ran, _⟩ := exists_of_passes _ checked.2
  exact ⟨c, after, reached.of_restrict, ran, of_decide_eq_true checked.1,
    liquidation_is_safe _ c after 3 2 1000 reached.of_restrict (by decide) ran⟩

end Liquidations

end Vault

end Ghoststake
