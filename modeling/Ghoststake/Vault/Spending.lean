import Ghoststake.Vault.Projection

/-!
# Whose hand moves the asset

Inside a call on the vault only the vault and its creditor call the asset. A
contract that shares the asset with them sees two more accounts use it.
-/

namespace Ghoststake

set_option autoImplicit false

open Checked

namespace Vault

variable {Address : Type} [DecidableEq Address] [Zero Address] {cfg : Config Address}
  {c mid after : Chain Address} {sender user : Address} {assets shares amount : Nat}

def Hands (cfg : Config Address) (actor : Address) : Prop :=
  actor = cfg.address ∨ ∃ pool ∈ cfg.lienSource, actor = pool.address

omit [DecidableEq Address] in
theorem Outsider.not_hands (outsider : Outsider cfg sender) {actor : Address}
    (hands : Hands cfg actor) : actor ≠ sender := by
  rintro rfl
  rcases hands with self | ⟨pool, source, creditor⟩
  · exact outsider.1 self
  · exact outsider.2 pool source creditor

/-- Everything the asset goes through, the vault and its creditor call for. -/
def Spends (cfg : Config Address) (c after : Chain Address) : Prop :=
  Erc20.Driven (Hands cfg) c.token after.token

theorem Spends.trans (left : Spends cfg c mid) (right : Spends cfg mid after) :
    Spends cfg c after := Erc20.Driven.trans left right

theorem Spends.of_lending (same : after.toLending = c.toLending) : Spends cfg c after := by
  have token : after.token = c.token := congrArg Lending.token same
  unfold Spends
  rw [token]
  exact .refl _ _

theorem Spends.lend {pool : Pool.Config Address} (source : cfg.lienSource = some pool)
    {call : Pool.Call Address} {lending : Lending Address}
    (called : Pool.exec pool sender c.toLending call = .ok lending) :
    Spends cfg c { c with toLending := lending } := by
  apply Erc20.Driven.mono _ (Pool.exec_driven called)
  rintro actor rfl
  exact .inr ⟨pool, source, rfl⟩

theorem Spends.accrue_lien : Spends cfg c (accrueLien cfg c) := by
  unfold Spends
  rw [accrue_lien_token]
  exact .refl _ _

theorem spends_settle : Spends cfg c (settleInternal cfg user c) :=
  .of_lending (settle_lending cfg user c)

theorem spends_repay_lien {pool : Pool.Config Address} (source : cfg.lienSource = some pool)
    (ran : repayLien cfg pool amount user c = .ok after) : Spends cfg c after := by
  simp only [repayLien, bind_ok_iff, Chain.pay_ok_iff, Chain.lend_ok_iff] at ran
  obtain ⟨_, ⟨token, approved, rfl⟩, lending, repaid, rfl⟩ := ran
  have approves : Spends cfg c { c with token := token } := Erc20.Driven.approve (.inl rfl) approved
  have called : Pool.exec pool cfg.address ({ c with token := token } : Chain Address).toLending
      (.repay amount user) = .ok lending := repaid
  exact approves.trans (Spends.lend source called)

theorem spends_deposit_internal {receiver : Address}
    (ran : depositInternal cfg sender receiver assets shares c = .ok after) :
    Spends cfg c after := by
  simp only [depositInternal, bind_ok_iff, Chain.pay_ok_iff, Except.ok.injEq] at ran
  obtain ⟨_, _, _, ⟨token, pulled, rfl⟩, minted, mints, rfl⟩ := ran
  rw [settle_lending] at pulled
  have pulls : Spends cfg c { c with token := token } := Erc20.Driven.transfer_from (.inl rfl) pulled
  apply pulls.trans
  apply Spends.of_lending
  simp [lending_of_mint mints]

theorem spends_withdraw_free {receiver owner : Address} {sharesBefore : Nat}
    (ran : withdrawFree cfg sender receiver owner assets shares sharesBefore c = .ok after) :
    Spends cfg c after := by
  simp only [withdrawFree, bind_ok_iff, Chain.pay_ok_iff, Except.ok.injEq] at ran
  obtain ⟨authorized, authorizes, burnt, burns, _, ⟨token, pushed, rfl⟩, rfl⟩ := ran
  have same : burnt.toLending = c.toLending :=
    (lending_of_burn burns).trans (lending_of_authorize authorizes)
  have pushes : Spends cfg burnt { burnt with token := token } := Erc20.Driven.move (.inl rfl) pushed
  exact (Spends.of_lending same).trans (pushes.trans (.of_lending rfl))

theorem spends_exit_with_lien {pool : Pool.Config Address} {receiver owner : Address}
    {sharesBefore lien : Nat} (source : cfg.lienSource = some pool)
    (ran : exitWithLien cfg pool sender receiver owner assets shares sharesBefore lien c =
      .ok after) : Spends cfg c after := by
  simp only [exitWithLien, bind_ok_iff, require_ok_iff, exists_const, Except.ok.injEq] at ran
  obtain ⟨_, _, authorized, authorizes, burnt, burns, repaid, repays, paid, pays, rfl⟩ := ran
  have same : (reducePositionProRata owner shares sharesBefore burnt).toLending =
      c.toLending := (lending_of_burn burns).trans (lending_of_authorize authorizes)
  have returns : Spends cfg repaid paid := by
    unfold payReturned at pays
    split_ifs at pays
    · obtain ⟨token, pushed, rfl⟩ := Chain.pay_ok_iff.1 pays
      exact Erc20.Driven.move (.inl rfl) pushed
    · cases pays
      exact .of_lending rfl
  exact (Spends.of_lending same).trans ((spends_repay_lien source repays).trans
    (returns.trans (.of_lending rfl)))

theorem spends_withdraw_internal {receiver owner : Address}
    (ran : withdrawInternal cfg sender receiver owner assets shares c = .ok after) :
    Spends cfg c after := by
  by_cases free : lienOf cfg c owner = 0
  · rw [withdraw_internal_of_free free] at ran
    exact spends_settle.trans (spends_withdraw_free ran)
  · obtain ⟨pool, source⟩ := source_of_lien free
    rw [withdraw_internal_of_lien source free] at ran
    exact spends_settle.trans (Spends.accrue_lien.trans (spends_exit_with_lien source ran))

theorem spends_borrow_internal {recipient : Address}
    (ran : borrowInternal cfg user amount recipient c = .ok after) : Spends cfg c after := by
  simp only [borrowInternal, bind_ok_iff, require_ok_iff, exists_const, Chain.pay_ok_iff,
    Chain.lend_ok_iff, creditor_ok_iff, Except.ok.injEq] at ran
  obtain ⟨pool, source, _, _, _, ⟨lending, borrowed, rfl⟩, _, ⟨token, pushed, rfl⟩, rfl⟩ := ran
  have called : Pool.exec pool cfg.address
      (accrueLien cfg (settleInternal cfg user c)).toLending (.borrow amount user) =
        .ok lending := borrowed
  have borrows := Spends.lend source called
  have pushes : Erc20.Driven (Hands cfg) lending.token token := .move (.inl rfl) pushed
  exact (spends_settle.trans (Spends.accrue_lien.trans borrows)).trans pushes

theorem spends_pull_and_repay {pool : Pool.Config Address} (source : cfg.lienSource = some pool)
    (ran : pullAndRepay cfg pool sender user amount c = .ok after) : Spends cfg c after := by
  simp only [pullAndRepay, bind_ok_iff, Chain.pay_ok_iff] at ran
  obtain ⟨_, ⟨token, pulled, rfl⟩, repays⟩ := ran
  have pulls : Spends cfg c { c with token := token } := Erc20.Driven.transfer_from (.inl rfl) pulled
  exact pulls.trans (spends_repay_lien source repays)

theorem spends_seize_collateral {recipient : Address}
    (ran : seizeCollateral cfg user recipient amount c = .ok after) : Spends cfg c after := by
  simp only [seizeCollateral, bind_ok_iff, Chain.pay_ok_iff] at ran
  obtain ⟨burnt, burns, token, pushed, rfl⟩ := ran
  have pushes : Spends cfg burnt { burnt with token := token } := Erc20.Driven.move (.inl rfl) pushed
  exact (Spends.of_lending (lending_of_burn_collateral burns)).trans pushes

theorem spends_recover {pool : Pool.Config Address} (source : cfg.lienSource = some pool)
    (ran : recover cfg pool user amount c = .ok after) : Spends cfg c after := by
  unfold recover at ran
  split_ifs at ran
  · obtain ⟨burnt, burns, repays⟩ := (bind_ok_iff _ _ _).1 ran
    exact (Spends.of_lending (lending_of_burn_collateral burns)).trans
      (spends_repay_lien source repays)
  · cases ran
    exact .of_lending rfl

theorem spends_of_exec {call : Call Address} (ran : exec cfg sender c call = .ok after) :
    Spends cfg c after := by
  cases call with
  | deposit assets receiver => exact spends_deposit_internal ran
  | mint shares receiver => exact spends_deposit_internal ran
  | withdraw assets receiver owner =>
      simp only [exec, withdraw, bind_ok_iff, require_ok_iff, exists_const] at ran
      exact spends_withdraw_internal ran.2
  | redeem shares receiver owner =>
      simp only [exec, redeem, bind_ok_iff, require_ok_iff, exists_const] at ran
      exact spends_withdraw_internal ran.2
  | borrow amount =>
      simp only [exec, borrow, bind_ok_iff] at ran
      obtain ⟨_, _, ran⟩ := ran
      exact spends_borrow_internal ran
  | borrowFor onBehalfOf amount =>
      simp only [exec, borrowFor, bind_ok_iff, require_ok_iff, exists_const] at ran
      obtain ⟨_, _, _, ran⟩ := ran
      apply Spends.trans _ (spends_borrow_internal ran)
      apply Spends.of_lending
      simp only [spendBorrowAllowance]
      split_ifs <;> rfl
  | approveBorrowDelegate delegate amount =>
      simp only [exec, approveBorrowDelegate, bind_ok_iff, require_ok_iff, exists_const,
        Except.ok.injEq] at ran
      obtain ⟨_, rfl⟩ := ran
      exact .of_lending rfl
  | repay amount onBehalfOf =>
      simp only [exec, repay, bind_ok_iff, require_ok_iff, exists_const, creditor_ok_iff,
        Except.ok.injEq] at ran
      obtain ⟨pool, source, _, _, repaid, repays, rfl⟩ := ran
      exact Spends.accrue_lien.trans ((spends_pull_and_repay source repays).trans
        (.of_lending rfl))
  | liquidate user repayAmount =>
      simp only [exec, liquidate, bind_ok_iff, require_ok_iff, exists_const, creditor_ok_iff,
        Except.ok.injEq] at ran
      obtain ⟨pool, source, _, _, _, repaid, repays, seized, seizes, rfl⟩ := ran
      exact spends_settle.trans (Spends.accrue_lien.trans
        ((spends_pull_and_repay source repays).trans
          ((spends_seize_collateral seizes).trans (.of_lending rfl))))
  | writeOffBadDebt user =>
      simp only [exec, writeOffBadDebt, bind_ok_iff, require_ok_iff, exists_const,
        creditor_ok_iff, Except.ok.injEq, Prod.exists] at ran
      obtain ⟨pool, source, _, recovered, recovers, loss, lending, absorbs, rfl⟩ := ran
      have absorbed : Pool.exec pool cfg.address recovered.toLending (.absorbBadDebt user) =
          .ok lending := (map_ok_iff _ _ _).2 ⟨_, absorbs, rfl⟩
      exact spends_settle.trans (Spends.accrue_lien.trans ((spends_recover source recovers).trans
        ((Spends.lend source absorbed).trans (.of_lending rfl))))
  | settle user =>
      cases ran
      exact spends_settle
  | transfer target value =>
      exact .of_lending (transfer_internal_ok ran).2.2.2.1
  | transferFrom source target value =>
      simp only [exec, transferFrom, bind_ok_iff, spend_share_allowance_ok_iff] at ran
      obtain ⟨_, ⟨_, rfl⟩, moved⟩ := ran
      exact .of_lending (transfer_internal_ok moved).2.2.2.1
  | approve spender value =>
      simp only [exec, approve, bind_ok_iff, Except.ok.injEq] at ran
      obtain ⟨_, _, rfl⟩ := ran
      exact .of_lending rfl
  | guard call =>
      simp only [exec, guard, bind_ok_iff, Except.ok.injEq] at ran
      obtain ⟨_, _, rfl⟩ := ran
      exact .of_lending rfl

theorem spends_of_exec_pool {call : Pool.Call Address}
    (ran : execPool cfg sender call c = .ok after) : Spends cfg c after := by
  simp only [execPool, bind_ok_iff, creditor_ok_iff, Chain.lend_ok_iff] at ran
  obtain ⟨pool, source, lending, called, rfl⟩ := ran
  exact Spends.lend source called

end Vault

end Ghoststake
