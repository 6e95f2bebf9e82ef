import Ghoststake.Pool.Pauses
import Ghoststake.Vault.Projection

/-!
# What a pause leaves alone in the vault

Every way out of the vault, and every way to reduce a debt, runs the same
whatever is paused in the vault or in its creditor.
-/

set_option autoImplicit false

open Checked Indifference

namespace Ghoststake

variable {Address : Type}

def Vault.State.paused (entries : EntryPausable Address) (vault : Vault.State Address) :
    Vault.State Address :=
  { vault with toEntryPausable := entries }

/-- The same block with the pauses of the vault and of the pool replaced. -/
def Chain.paused (entries lending : EntryPausable Address) (c : Chain Address) : Chain Address where
  toLending := c.toLending.paused lending
  vault := c.vault.paused entries

namespace Vault

variable [DecidableEq Address] [Zero Address] (cfg : Config Address)
  (entries lending : EntryPausable Address)

/-! ## Reads -/

section Reads

variable (c : Chain Address) (user : Address) (amount : Nat)

omit [DecidableEq Address] in
theorem lien_of_paused : lienOf cfg (c.paused entries lending) user = lienOf cfg c user := by
  unfold lienOf
  cases cfg.lienSource with
  | none => rfl
  | some pool => exact Pool.balance_of_debt_paused lending c.pool user

omit [DecidableEq Address] [Zero Address] in
theorem balance_of_paused : balanceOf (c.paused entries lending) user = balanceOf c user := rfl

omit [DecidableEq Address] [Zero Address] in
theorem total_supply_paused : totalSupply (c.paused entries lending) = totalSupply c := rfl

omit [DecidableEq Address] in
theorem total_assets_paused : totalAssets cfg (c.paused entries lending) = totalAssets cfg c := rfl

omit [DecidableEq Address] in
theorem convert_to_assets_paused :
    convertToAssets cfg (c.paused entries lending) amount = convertToAssets cfg c amount := by
  unfold convertToAssets
  rw [total_assets_paused, total_supply_paused]

omit [DecidableEq Address] in
theorem preview_withdraw_paused :
    previewWithdraw cfg (c.paused entries lending) amount = previewWithdraw cfg c amount := by
  unfold previewWithdraw
  rw [total_assets_paused, total_supply_paused]

omit [DecidableEq Address] in
theorem preview_redeem_paused :
    previewRedeem cfg (c.paused entries lending) amount = previewRedeem cfg c amount := by
  unfold previewRedeem
  rw [convert_to_assets_paused]

omit [DecidableEq Address] in
theorem max_withdraw_paused :
    maxWithdraw cfg (c.paused entries lending) user = maxWithdraw cfg c user := by
  unfold maxWithdraw
  rw [convert_to_assets_paused, balance_of_paused]

omit [DecidableEq Address] [Zero Address] in
theorem accrued_yield_paused :
    accruedYield (c.paused entries lending) user = accruedYield c user := rfl

omit [DecidableEq Address] [Zero Address] in
theorem total_ledger_value_paused :
    totalLedgerValue (c.paused entries lending) user = totalLedgerValue c user := by
  unfold totalLedgerValue
  rw [accrued_yield_paused]
  rfl

omit [DecidableEq Address] in
theorem collateral_value_paused :
    collateralValue cfg (c.paused entries lending) user = collateralValue cfg c user := by
  unfold collateralValue
  rw [total_ledger_value_paused, balance_of_paused, convert_to_assets_paused]

omit [DecidableEq Address] in
theorem health_factor_paused :
    healthFactor cfg (c.paused entries lending) user = healthFactor cfg c user := by
  unfold healthFactor
  rw [lien_of_paused, collateral_value_paused]

omit [DecidableEq Address] in
theorem seizure_paused :
    seizure cfg (c.paused entries lending) user amount = seizure cfg c user amount := by
  unfold seizure
  rw [balance_of_paused, convert_to_assets_paused]

end Reads

/-! ## The ledger -/

section Ledger

variable (c : Chain Address) (user source target : Address) (value : Nat)

omit [DecidableEq Address] [Zero Address] in
theorem emit_of_paused (event : Event Address) :
    (c.paused entries lending).emit event = (c.emit event).paused entries lending := rfl

omit [DecidableEq Address] [Zero Address] in
theorem pay_paused (call : Erc20 Address → Outcome Address (Erc20 Address)) :
    (c.paused entries lending).pay call = (c.pay call).map (Chain.paused entries lending) := by
  unfold Chain.pay
  rw [map_bind]
  rfl

omit [DecidableEq Address] [Zero Address] in
theorem lend_paused {call : Lending Address → Outcome Address (Lending Address)}
    (ignores : Ignores (Lending.paused lending) call) :
    (c.paused entries lending).lend call = (c.lend call).map (Chain.paused entries lending) := by
  have same : call (c.paused entries lending).toLending =
      (call c.toLending).map (Lending.paused lending) := ignores c.toLending
  unfold Chain.lend
  rw [same, bind_of_map, map_bind]
  rfl

theorem settle_internal_paused :
    settleInternal cfg user (c.paused entries lending) =
      (settleInternal cfg user c).paused entries lending := by
  unfold settleInternal
  rw [accrued_yield_paused]
  by_cases earned : accruedYield c user ≠ 0
  · rw [if_pos earned, if_pos earned]
    rfl
  · rw [if_neg earned, if_neg earned]
    rfl

omit [Zero Address] in
theorem reduce_position_paused (shares totalShares : Nat) :
    reducePositionProRata user shares totalShares (c.paused entries lending) =
      (reducePositionProRata user shares totalShares c).paused entries lending := rfl

theorem move_ledger_paused :
    moveLedger cfg source target value (c.paused entries lending) =
      (moveLedger cfg source target value c).map (Chain.paused entries lending) := by
  unfold moveLedger
  simp only [map_bind]
  rw [lien_of_paused, settle_internal_paused, settle_internal_paused]
  generalize settleInternal cfg target (settleInternal cfg source c) = settled
  rw [balance_of_paused]
  congr 1
  funext done
  by_cases empty : balanceOf settled source = 0
  · rw [if_pos empty, if_pos empty]
    rfl
  · rw [if_neg empty, if_neg empty]
    rfl

theorem carry_ledger_paused :
    carryLedger cfg source target value (c.paused entries lending) =
      (carryLedger cfg source target value c).map (Chain.paused entries lending) := by
  unfold carryLedger
  split_ifs
  · exact move_ledger_paused cfg entries lending c source target value
  · rfl

theorem update_internal_paused :
    updateInternal cfg source target value (c.paused entries lending) =
      (updateInternal cfg source target value c).map (Chain.paused entries lending) := by
  unfold updateInternal
  rw [carry_ledger_paused, bind_of_map, map_bind]
  simp only [map_bind, map_ok]
  rfl

theorem burn_shares_paused :
    burnShares cfg source value (c.paused entries lending) =
      (burnShares cfg source value c).map (Chain.paused entries lending) := by
  unfold burnShares
  rw [update_internal_paused, map_bind]

theorem transfer_internal_ignores :
    Ignores (Chain.paused entries lending) (transferInternal cfg source target value) := by
  intro c
  unfold transferInternal
  rw [update_internal_paused]
  simp only [map_bind]

theorem spend_share_allowance_paused :
    spendShareAllowance source target value (c.paused entries lending) =
      (spendShareAllowance source target value c).map (Chain.paused entries lending) := by
  unfold spendShareAllowance
  rw [map_bind]
  rfl

theorem authorize_paused :
    authorize source target value (c.paused entries lending) =
      (authorize source target value c).map (Chain.paused entries lending) := by
  unfold authorize
  split_ifs
  · exact spend_share_allowance_paused entries lending c target source value
  · rfl

omit [DecidableEq Address] in
theorem accrue_lien_paused :
    accrueLien cfg (c.paused entries lending) =
      (accrueLien cfg c).paused entries lending := by
  unfold accrueLien
  cases cfg.lienSource with
  | none => rfl
  | some pool =>
      dsimp only
      have accrued : Pool.accrue pool (c.paused entries lending).toLending =
          (Pool.accrue pool c.toLending).paused lending :=
        Pool.accrue_paused pool lending c.toLending
      rw [accrued]
      rfl

end Ledger

/-! ## Leaving -/

section Leaving

variable (c : Chain Address) (caller receiver owner : Address) (assets shares sharesBefore : Nat)

theorem withdraw_free_paused :
    withdrawFree cfg caller receiver owner assets shares sharesBefore
        (c.paused entries lending) =
      (withdrawFree cfg caller receiver owner assets shares sharesBefore c).map
        (Chain.paused entries lending) := by
  unfold withdrawFree
  simp only [authorize_paused, burn_shares_paused, pay_paused, emit_of_paused,
    reduce_position_paused, bind_of_map, map_bind, map_ok]

theorem repay_lien_paused (pool : Pool.Config Address) (amount : Nat) (user : Address) :
    repayLien cfg pool amount user (c.paused entries lending) =
      (repayLien cfg pool amount user c).map (Chain.paused entries lending) := by
  unfold repayLien
  rw [pay_paused, bind_of_map, map_bind]
  congr 1
  funext approved
  exact lend_paused entries lending approved
    (Pool.repay_ignores pool lending cfg.address amount user)

theorem pay_returned_paused :
    payReturned cfg receiver assets (c.paused entries lending) =
      (payReturned cfg receiver assets c).map (Chain.paused entries lending) := by
  unfold payReturned
  split_ifs
  · exact pay_paused entries lending c _
  · rfl

theorem exit_with_lien_paused (pool : Pool.Config Address) (lien : Nat) :
    exitWithLien cfg pool caller receiver owner assets shares sharesBefore lien
        (c.paused entries lending) =
      (exitWithLien cfg pool caller receiver owner assets shares sharesBefore lien c).map
        (Chain.paused entries lending) := by
  unfold exitWithLien
  simp only [authorize_paused, burn_shares_paused, reduce_position_paused, repay_lien_paused,
    pay_returned_paused, emit_of_paused, bind_of_map, map_bind, map_ok]

theorem withdraw_internal_paused :
    withdrawInternal cfg caller receiver owner assets shares (c.paused entries lending) =
      (withdrawInternal cfg caller receiver owner assets shares c).map
        (Chain.paused entries lending) := by
  unfold withdrawInternal
  dsimp only
  rw [settle_internal_paused]
  generalize settleInternal cfg owner c = settled
  rw [lien_of_paused, balance_of_paused, accrue_lien_paused]
  have pushed : (if lienOf cfg settled owner ≠ 0 then
        (accrueLien cfg settled).paused entries lending else settled.paused entries lending) =
      (if lienOf cfg settled owner ≠ 0 then accrueLien cfg settled else settled).paused
        entries lending := by
    split_ifs
    · rfl
    · rfl
  rw [pushed]
  generalize (if lienOf cfg settled owner ≠ 0 then accrueLien cfg settled else settled) = current
  cases cfg.lienSource with
  | none => exact withdraw_free_paused cfg entries lending current ..
  | some pool =>
      dsimp only
      rw [lien_of_paused, withdraw_free_paused, exit_with_lien_paused]
      split_ifs
      · rfl
      · rfl

theorem withdraw_ignores :
    Ignores (Chain.paused entries lending) (withdraw cfg caller assets receiver owner) := by
  intro c
  unfold withdraw
  rw [max_withdraw_paused, preview_withdraw_paused, withdraw_internal_paused]
  simp only [map_bind]

theorem redeem_ignores :
    Ignores (Chain.paused entries lending) (redeem cfg caller shares receiver owner) := by
  intro c
  unfold redeem
  rw [preview_redeem_paused, withdraw_internal_paused]
  simp only [map_bind]
  rfl

end Leaving

/-! ## Debts -/

section Debts

variable (sender user : Address) (amount : Nat)

theorem pull_and_repay_paused (pool : Pool.Config Address) (c : Chain Address) :
    pullAndRepay cfg pool sender user amount (c.paused entries lending) =
      (pullAndRepay cfg pool sender user amount c).map (Chain.paused entries lending) := by
  unfold pullAndRepay
  simp only [pay_paused, repay_lien_paused, bind_of_map, map_bind]

theorem repay_ignores :
    Ignores (Chain.paused entries lending) (repay cfg sender amount user) := by
  intro c
  unfold repay
  simp only [map_bind]
  rw [accrue_lien_paused]
  generalize accrueLien cfg c = accrued
  rw [lien_of_paused]
  simp only [pull_and_repay_paused, emit_of_paused, bind_of_map, map_ok]

theorem burn_collateral_paused (c : Chain Address) :
    burnCollateral cfg user amount (c.paused entries lending) =
      (burnCollateral cfg user amount c).map (Chain.paused entries lending) := by
  unfold burnCollateral
  dsimp only
  rw [balance_of_paused, preview_withdraw_paused, burn_shares_paused, bind_of_map, map_bind]
  simp only [reduce_position_paused, map_ok]

theorem seize_collateral_paused (c : Chain Address) :
    seizeCollateral cfg user sender amount (c.paused entries lending) =
      (seizeCollateral cfg user sender amount c).map (Chain.paused entries lending) := by
  unfold seizeCollateral
  simp only [burn_collateral_paused, pay_paused, bind_of_map, map_bind]

theorem liquidate_ignores :
    Ignores (Chain.paused entries lending) (liquidate cfg sender user amount) := by
  intro c
  unfold liquidate
  simp only [map_bind]
  rw [settle_internal_paused, accrue_lien_paused]
  generalize accrueLien cfg (settleInternal cfg user c) = current
  rw [health_factor_paused, lien_of_paused]
  simp only [seizure_paused, pull_and_repay_paused, seize_collateral_paused, lien_of_paused,
    health_factor_paused, emit_of_paused, bind_of_map, map_ok]

theorem recover_paused (pool : Pool.Config Address) (c : Chain Address) :
    recover cfg pool user amount (c.paused entries lending) =
      (recover cfg pool user amount c).map (Chain.paused entries lending) := by
  unfold recover
  split_ifs
  · simp only [burn_collateral_paused, repay_lien_paused, bind_of_map, map_bind]
  · rfl

theorem write_off_bad_debt_ignores :
    Ignores (Chain.paused entries lending) (writeOffBadDebt cfg sender user) := by
  intro c
  unfold writeOffBadDebt
  simp only [map_bind]
  rw [settle_internal_paused, accrue_lien_paused]
  generalize accrueLien cfg (settleInternal cfg user c) = current
  rw [lien_of_paused, balance_of_paused, convert_to_assets_paused]
  refine bind_congr fun pool => bind_congr fun recoverable => ?_
  rw [recover_paused, bind_of_map]
  refine bind_congr fun recovered => ?_
  have absorbed : Pool.absorbBadDebt pool cfg.address user
      (recovered.paused entries lending).toLending =
        (Pool.absorbBadDebt pool cfg.address user recovered.toLending).map fun absorbed =>
          (absorbed.1, absorbed.2.paused lending) :=
    Pool.absorb_bad_debt_paused pool lending cfg.address user recovered.toLending
  rw [absorbed, bind_of_map]
  rfl

theorem approve_ignores :
    Ignores (Chain.paused entries lending) (approve sender user amount) := by
  intro c
  unfold approve
  rw [map_bind]
  rfl

theorem transfer_from_ignores (source : Address) :
    Ignores (Chain.paused entries lending) (transferFrom cfg sender source user amount) := by
  intro c
  have moves : ∀ spent : Chain Address,
      transferInternal cfg source user amount (spent.paused entries lending) =
        (transferInternal cfg source user amount spent).map (Chain.paused entries lending) :=
    transfer_internal_ignores cfg entries lending source user amount
  unfold transferFrom
  simp only [spend_share_allowance_paused, moves, bind_of_map, map_bind]

end Debts

/-- Calls that let nothing in: shares and liens leave, shrink or change hands. -/
def Call.Leaves : Call Address → Prop
  | .withdraw _ _ _ | .redeem _ _ _ | .repay _ _ | .liquidate _ _ | .writeOffBadDebt _
  | .settle _ | .transfer _ _ | .transferFrom _ _ _ | .approve _ _ => True
  | .deposit _ _ | .mint _ _ | .borrow _ | .borrowFor _ _ | .approveBorrowDelegate _ _
  | .guard _ => False

theorem exec_ignores (sender : Address) {call : Call Address} (leaves : call.Leaves) :
    Ignores (Chain.paused entries lending) fun c => exec cfg sender c call := by
  cases call with
  | withdraw assets receiver owner =>
      exact withdraw_ignores cfg entries lending sender receiver owner assets
  | redeem shares receiver owner =>
      exact redeem_ignores cfg entries lending sender receiver owner shares
  | repay amount user => exact repay_ignores cfg entries lending sender user amount
  | liquidate user amount => exact liquidate_ignores cfg entries lending sender user amount
  | writeOffBadDebt user => exact write_off_bad_debt_ignores cfg entries lending sender user
  | settle user => exact ignores_pure fun c => settle_internal_paused cfg entries lending c user
  | transfer target value =>
      exact transfer_internal_ignores cfg entries lending sender target value
  | transferFrom source target value =>
      exact transfer_from_ignores cfg entries lending sender target value source
  | approve spender value => exact approve_ignores entries lending sender spender value
  | deposit _ _ => exact leaves.elim
  | mint _ _ => exact leaves.elim
  | borrow _ => exact leaves.elim
  | borrowFor _ _ => exact leaves.elim
  | approveBorrowDelegate _ _ => exact leaves.elim
  | guard _ => exact leaves.elim

end Vault

end Ghoststake
