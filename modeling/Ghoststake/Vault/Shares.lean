import Ghoststake.Library.SharePrice
import Ghoststake.Vault.Effects

/-!
# The share price never falls

The vault as a pot of assets against shares, every action as a move of that
pot that does not lower its price, and what that promises to a holder.
-/

namespace Ghoststake

set_option autoImplicit false

open Checked Rounding SharePrice

namespace Vault

variable {Address : Type} [DecidableEq Address] [Zero Address]

/-- What the vault is for: a pot of the asset that its shares divide. -/
def pot (cfg : Config Address) (c : Chain Address) : Pot where
  assets := totalAssets cfg c
  shares := totalSupply c

omit [DecidableEq Address] in
theorem convert_to_assets_eq_worth (cfg : Config Address) (c : Chain Address) (shares : Nat) :
    convertToAssets cfg c shares = (pot cfg c).worth virtualShares shares := rfl

/-! ## Every call, at a fair price -/

inductive Issues (cfg : Config Address) (c : Chain Address) (receiver : Address) :
    Call Address → Nat → Nat → Prop
  | deposit (assets : Nat) :
      Issues cfg c receiver (.deposit assets receiver) assets (previewDeposit cfg c assets)
  | mint (shares : Nat) :
      Issues cfg c receiver (.mint shares receiver) (previewMint cfg c shares) shares

inductive ShareMove (cfg : Config Address) (c : Chain Address) (action : Action Address)
    (after : Chain Address) : Prop
  | enters {sender receiver : Address} {call : Call Address} {assets shares : Nat}
      (issuer : action = .vault sender call) (issues : Issues cfg c receiver call assets shares)
      (move : Enters cfg receiver assets shares c after)
  | leaves {owner : Address} {assets shares : Nat}
      (fair : assets * (totalSupply c + virtualShares) ≤ shares * (totalAssets cfg c + 1))
      (move : Leaves cfg owner assets shares c after)
  | keeps (move : Keeps cfg c after)
  | settles {user : Address} (move : Settles cfg user c after)
  | carries {source target : Address} {value : Nat}
      (move : Carries cfg source target value c after)

section Price

variable {cfg : Config Address} {c after : Chain Address} {sender user : Address}
  {assets shares : Nat}

omit [DecidableEq Address] in
theorem preview_deposit_fair (cfg : Config Address) (c : Chain Address) (assets : Nat) :
    previewDeposit cfg c assets * (totalAssets cfg c + 1) ≤
      assets * (totalSupply c + virtualShares) := mul_div_mul_le _ _ _

omit [DecidableEq Address] in
theorem preview_mint_fair (cfg : Config Address) (c : Chain Address) (shares : Nat) :
    shares * (totalAssets cfg c + 1) ≤
      previewMint cfg c shares * (totalSupply c + virtualShares) :=
  le_mul_div_up_mul _ _ (Nat.add_pos_right _ virtual_shares_pos)

omit [DecidableEq Address] in
theorem Issues.fair {receiver : Address} {call : Call Address}
    (issues : Issues cfg c receiver call assets shares) :
    shares * (totalAssets cfg c + 1) ≤ assets * (totalSupply c + virtualShares) := by
  cases issues with
  | deposit => exact preview_deposit_fair cfg c assets
  | mint => exact preview_mint_fair cfg c shares

omit [DecidableEq Address] in
theorem preview_withdraw_fair (cfg : Config Address) (c : Chain Address) (assets : Nat) :
    assets * (totalSupply c + virtualShares) ≤
      previewWithdraw cfg c assets * (totalAssets cfg c + 1) :=
  le_mul_div_up_mul _ _ (Nat.succ_pos _)

omit [DecidableEq Address] in
theorem preview_redeem_fair (cfg : Config Address) (c : Chain Address) (shares : Nat) :
    previewRedeem cfg c shares * (totalSupply c + virtualShares) ≤
      shares * (totalAssets cfg c + 1) := mul_div_mul_le _ _ _

omit [DecidableEq Address] in
/-- Shares enough to withdraw what `shares` are worth are no more than `shares`. -/
theorem preview_withdraw_le (worth : assets ≤ convertToAssets cfg c shares) :
    previewWithdraw cfg c assets ≤ shares :=
  (mul_div_up_le_iff (Nat.succ_pos _)).2
    ((le_mul_div_iff (Nat.add_pos_right _ virtual_shares_pos)).1 worth)

/-- So the cap on what a seizure burns never binds. -/
theorem seizure_fair {owner : Address} (action : Action Address)
    (worth : assets ≤ convertToAssets cfg c (balanceOf c owner))
    (move : Leaves cfg owner assets
      (min (previewWithdraw cfg c assets) (balanceOf c owner)) c after) :
    ShareMove cfg c action after := by
  rw [min_eq_left (preview_withdraw_le worth)] at move
  exact .leaves (preview_withdraw_fair cfg c assets) move

theorem leaves_of_withdraw_internal {receiver owner : Address}
    (ran : withdrawInternal cfg sender receiver owner assets shares c = .ok after) :
    Leaves cfg owner assets shares c after := by
  by_cases free : lienOf cfg c owner = 0
  · rw [withdraw_internal_of_free free] at ran
    exact (leaves_of_withdraw_free ran).1
  · obtain ⟨pool, source⟩ := source_of_lien free
    rw [withdraw_internal_of_lien source free] at ran
    exact (leaves_of_exit_with_lien source ran).1

theorem share_move_of_exec {call : Call Address} (outsider : sender ≠ cfg.address)
    (ran : exec cfg sender c call = .ok after) :
    ShareMove cfg c (.vault sender call) after := by
  cases call with
  | deposit assets receiver =>
      exact .enters rfl (.deposit assets) (enters_of_deposit_internal outsider ran).1
  | mint shares receiver =>
      exact .enters rfl (.mint shares) (enters_of_deposit_internal outsider ran).1
  | withdraw assets receiver owner =>
      simp only [exec, withdraw, bind_ok_iff, require_ok_iff, exists_const] at ran
      exact .leaves (preview_withdraw_fair cfg c assets) (leaves_of_withdraw_internal ran.2)
  | redeem shares receiver owner =>
      simp only [exec, redeem, bind_ok_iff, require_ok_iff, exists_const] at ran
      exact .leaves (preview_redeem_fair cfg c shares) (leaves_of_withdraw_internal ran.2)
  | borrow amount =>
      simp only [exec, borrow, bind_ok_iff] at ran
      obtain ⟨_, _, ran⟩ := ran
      exact .settles (settles_of_borrow_internal ran)
  | borrowFor onBehalfOf amount => exact .settles (settles_of_borrow_for ran)
  | approveBorrowDelegate delegate amount =>
      simp only [exec, approveBorrowDelegate, bind_ok_iff, require_ok_iff, exists_const,
        Except.ok.injEq] at ran
      obtain ⟨_, rfl⟩ := ran
      exact .keeps (.of_eq rfl rfl rfl)
  | repay amount onBehalfOf => exact .keeps (keeps_of_repay outsider ran)
  | liquidate user repayAmount =>
      obtain ⟨seized, worth, move⟩ := leaves_of_liquidate outsider ran
      exact seizure_fair _ worth move
  | writeOffBadDebt user =>
      rcases leaves_of_write_off ran with ⟨_, move⟩ | ⟨_, move⟩
      · exact seizure_fair _ (Nat.le_refl _) move
      · exact .settles move
  | settle user => exact .settles (settles_of_settle ran)
  | transfer target value => exact .carries (carries_of_transfer ran)
  | transferFrom source target value => exact .carries (carries_of_transfer_from ran)
  | approve spender value => exact .keeps (keeps_of_approve cfg ran)
  | guard call =>
      simp only [exec, guard, bind_ok_iff, Except.ok.injEq] at ran
      obtain ⟨_, _, rfl⟩ := ran
      exact .keeps (.of_eq rfl rfl rfl)

end Price

/-! ## Custody -/

section Custody

variable [Fintype Address] {cfg : Config Address} {c after : Chain Address}

/-- The shares add up, none of them is the zero address's, and nobody but the
pool may move the vault's assets. -/
structure Custody (cfg : Config Address) (c : Chain Address) : Prop where
  holders_total : ∑ user, balanceOf c user = totalSupply c
  zero_holds_none : balanceOf c 0 = 0
  unapproved : ∀ spender, (∀ pool ∈ cfg.lienSource, spender ≠ pool.address) →
    c.token.allowance cfg.address spender = 0

omit [DecidableEq Address] in
theorem Custody.balance_le (custody : Custody cfg c) (user : Address) :
    balanceOf c user ≤ totalSupply c := by
  rw [← custody.holders_total]
  exact PointSums.le_sum _ _

theorem custody_of_deployed (start : Deployed cfg c) : Custody cfg c := by
  obtain ⟨guardian, fresh⟩ := start.fresh
  have holders : balanceOf c = fun _ => 0 := by
    unfold balanceOf
    rw [fresh]
    rfl
  refine ⟨?_, ?_, fun spender _ => start.unapproved spender⟩
  · rw [holders, Finset.sum_const_zero, totalSupply, fresh]
    rfl
  · rw [holders]

omit [Fintype Address] in
theorem keeps_of_exec_pool {sender : Address} {call : Pool.Call Address}
    (outsider : Outsider cfg sender) (ran : execPool cfg sender call c = .ok after) :
    Keeps cfg c after ∧
      after.token.allowance cfg.address = c.token.allowance cfg.address := by
  simp only [execPool, bind_ok_iff, creditor_ok_iff, Chain.lend_ok_iff] at ran
  obtain ⟨pool, source, lending, called, rfl⟩ := ran
  obtain ⟨paid, row⟩ := Pool.exec_keeps_bystander outsider.1.symm called
  exact ⟨⟨rfl, rfl, paid (cfg.pool_live pool source).2.symm, rfl⟩, row⟩

/-- Every action moves shares at a fair price, if at all, and opens no
allowance on the vault's assets. -/
theorem share_move_of_step {action : Action Address} (custody : Custody cfg c)
    (taken : (machine cfg).step c action after) :
    ShareMove cfg c action after ∧ ∀ spender, (∀ pool ∈ cfg.lienSource, spender ≠ pool.address) →
      after.token.allowance cfg.address spender = c.token.allowance cfg.address spender := by
  obtain ⟨external, ran⟩ := taken
  cases action with
  | vault sender call =>
      exact ⟨share_move_of_exec external.1 ran, (exec_reaches external.1 ran).row⟩
  | pool sender call =>
      obtain ⟨move, row⟩ := keeps_of_exec_pool external ran
      exact ⟨.keeps move, fun spender _ => congrFun row spender⟩
  | asset sender call =>
      simp only [act, Chain.pay_ok_iff] at ran
      obtain ⟨token, called, rfl⟩ := ran
      obtain ⟨paid, row⟩ := Erc20.exec_keeps_unapproved external.1
        (fun spender same => custody.unapproved spender (same ▸ external.2)) called
      exact ⟨.keeps ⟨rfl, rfl, paid, rfl⟩, fun spender _ => congrFun row spender⟩
  | wait seconds =>
      cases ran
      exact ⟨.keeps ⟨rfl, rfl, Nat.le_refl _, rfl⟩, fun _ _ => rfl⟩

theorem custody_step {action : Action Address} (custody : Custody cfg c)
    (taken : (machine cfg).step c action after) : Custody cfg after := by
  obtain ⟨move, row⟩ := share_move_of_step custody taken
  have unapproved : ∀ spender, (∀ pool ∈ cfg.lienSource, spender ≠ pool.address) →
      after.token.allowance cfg.address spender = 0 := fun spender outside =>
    (row spender outside).trans (custody.unapproved spender outside)
  have total := custody.holders_total
  have held : balanceOf after = balanceOf c → totalSupply after = totalSupply c →
      Custody cfg after := by
    intro holders supply
    refine ⟨?_, ?_, unapproved⟩
    · rw [holders, supply]
      exact total
    · rw [holders]
      exact custody.zero_holds_none
  cases move with
  | enters _ _ move =>
      refine ⟨?_, ?_, unapproved⟩
      · rw [move.holders, PointSums.sum_credit, total, move.supply]
      · rw [move.holders, Function.update_of_ne move.live.symm]
        exact custody.zero_holds_none
  | leaves _ move =>
      refine ⟨?_, ?_, unapproved⟩
      · have debit := PointSums.sum_debit (balanceOf c) _ move.held
        rw [← move.holders, total] at debit
        rw [move.supply]
        omega
      · rw [move.holders, Function.update_of_ne move.live.symm]
        exact custody.zero_holds_none
  | keeps move => exact held move.holders move.supply
  | settles move => exact held move.holders move.supply
  | carries move =>
      refine ⟨?_, ?_, unapproved⟩
      · rw [move.holders, move.supply]
        exact (Erc20.moved_sum c.vault.shares move.held).trans total
      · rw [move.holders,
          Erc20.moved_balance_other _ _ move.source_live.symm move.target_live.symm]
        exact custody.zero_holds_none

theorem custody_of_reachable (reached : (machine cfg).Reachable c) : Custody cfg c :=
  reached.invariant (Custody cfg) (fun _ start => custody_of_deployed start)
    (fun _ _ _ _ before taken => custody_step before taken)

/-! ## The price -/

theorem price_le_of_share_move {action : Action Address} (custody : Custody cfg c)
    (move : ShareMove cfg c action after) :
    PriceLe virtualShares (pot cfg c) (pot cfg after) := by
  cases move with
  | enters _ issues move => exact .of_enter issues.fair move.supply move.paid
  | leaves fair move =>
      exact .of_leave fair (move.held.trans (custody.balance_le _)) move.supply move.paid
  | keeps move => exact .of_assets_le move.supply move.paid
  | settles move => exact .of_assets_le move.supply move.paid
  | carries move =>
      exact .of_assets_le move.supply (total_assets_of_lending cfg move.lending).ge

theorem price_le_of_path {later : Chain Address} (reached : (machine cfg).Reachable c)
    (path : (machine cfg).Path c later) :
    PriceLe virtualShares (pot cfg c) (pot cfg later) := by
  induction path with
  | refl => exact .of_assets_le rfl (Nat.le_refl _)
  | tail before taken ih =>
      obtain ⟨action, taken⟩ := taken
      have custody := custody_of_reachable (reached.path before)
      exact ih.trans (price_le_of_share_move custody (share_move_of_step custody taken).1)
        virtual_shares_pos

omit [DecidableEq Address] in
theorem sum_preview_redeem_le (custody : Custody cfg c) :
    ∑ holder, previewRedeem cfg c (balanceOf c holder) ≤ totalAssets cfg c :=
  sum_worth_le (pot cfg c) Finset.univ (balanceOf c) virtual_shares_pos
    custody.holders_total.le

omit [DecidableEq Address] in
/-- The vault holds what any one holder's shares are worth. -/
theorem preview_redeem_le (custody : Custody cfg c) (holder : Address) :
    previewRedeem cfg c (balanceOf c holder) ≤ totalAssets cfg c :=
  (PointSums.le_sum (fun holder => previewRedeem cfg c (balanceOf c holder)) holder).trans
    (sum_preview_redeem_le custody)

/-- In every reachable state no action lowers the share price, nor the worth
of a holder it does not debit, and the worth of all holders together is there
to be redeemed. -/
theorem share_price_never_falls (cfg : Config Address) (c : Chain Address)
    (reached : (machine cfg).Reachable c) :
    (∀ action after, (machine cfg).step c action after →
      (totalAssets cfg c + 1) * (totalSupply after + virtualShares) ≤
        (totalAssets cfg after + 1) * (totalSupply c + virtualShares) ∧
      ∀ other, balanceOf c other ≤ balanceOf after other →
        convertToAssets cfg c (balanceOf c other) ≤
          convertToAssets cfg after (balanceOf after other)) ∧
    ∑ holder, previewRedeem cfg c (balanceOf c holder) ≤ totalAssets cfg c := by
  have custody := custody_of_reachable reached
  constructor
  · intro action after taken
    have price := price_le_of_share_move custody (share_move_of_step custody taken).1
    exact ⟨price, fun other held => worth_le_worth virtual_shares_pos price held⟩
  · exact sum_preview_redeem_le custody

/-- With a loan outstanding, a gift to the vault, and a withdrawal. -/
theorem share_price_never_falls_borrowing :
    ∃ c after, balanceOf c 2 ≠ 0 ∧
      (machine (smallVault (10 ^ 9))).step c (.vault 3 (.withdraw 777 4 3)) after ∧
      (totalAssets (smallVault (10 ^ 9)) c + 1) * (totalSupply after + virtualShares) ≤
        (totalAssets (smallVault (10 ^ 9)) after + 1) * (totalSupply c + virtualShares) ∧
      convertToAssets (smallVault (10 ^ 9)) c (balanceOf c 2) ≤
        convertToAssets (smallVault (10 ^ 9)) after (balanceOf after 2) ∧
      ∑ holder, previewRedeem (smallVault (10 ^ 9)) c (balanceOf c holder) ≤
        totalAssets (smallVault (10 ^ 9)) c := by
  obtain ⟨c, reached, checked⟩ := reachable_of_replay (10 ^ 9) (fun _ _ => True)
    (borrowingRun ++ [.asset 4 (.transfer 5 12345)])
    (fun c => balanceOf c 2 ≠ 0 ∧
      passes (withdraw (smallVault (10 ^ 9)) 3 777 4 3 c)
        fun after => balanceOf c 2 ≤ balanceOf after 2)
    (by decide) (by decide +kernel)
  obtain ⟨held, withdrawn⟩ := of_decide_eq_true checked
  obtain ⟨after, ran, kept⟩ := exists_of_passes _ withdrawn
  obtain ⟨steps, redeemable⟩ := share_price_never_falls _ c reached.of_restrict
  have taken : (machine (smallVault (10 ^ 9))).step c (.vault 3 (.withdraw 777 4 3)) after :=
    ⟨by decide, ran⟩
  obtain ⟨price, worth⟩ := steps _ after taken
  exact ⟨c, after, held, taken, price, worth 2 (of_decide_eq_true kept), redeemable⟩

end Custody

end Vault

end Ghoststake
