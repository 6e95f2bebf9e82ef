import Ghoststake.Vault.Shares

/-!
# Collateral cannot leave an open lien

Which calls can lower the shares of an account that owes, and the exit that
always works: a full redemption worth at least the lien.
-/

namespace Ghoststake

set_option autoImplicit false

open Checked Rounding

namespace Vault

variable {Address : Type} [DecidableEq Address] [Zero Address] {cfg : Config Address}
  {c after : Chain Address} {sender user : Address} {assets shares : Nat}

/-! ## What a lien blocks -/

theorem Enters.not_lowered {receiver : Address} (move : Enters cfg receiver assets shares c after)
    (user : Address) : balanceOf c user ≤ balanceOf after user := by
  rw [move.holders]
  by_cases same : user = receiver
  · subst same
    simp
  · simp [same]

omit [DecidableEq Address] in
theorem Keeps.not_lowered (move : Keeps cfg c after) (user : Address) :
    balanceOf c user ≤ balanceOf after user := by
  rw [move.holders]

theorem Settles.not_lowered {other : Address}
    (move : Settles cfg other c after) (user : Address) :
    balanceOf c user ≤ balanceOf after user := by
  rw [move.holders]

theorem Leaves.lowered_only {owner : Address} (move : Leaves cfg owner assets shares c after)
    (lowered : balanceOf after user < balanceOf c user) : owner = user := by
  by_contra other
  rw [move.holders, Function.update_of_ne (Ne.symm other)] at lowered
  omega

/-- Nobody sends shares out of an account with a lien. -/
theorem Carries.not_lowered {source target : Address} {value : Nat}
    (move : Carries cfg source target value c after) (lien : lienOf cfg c user ≠ 0) :
    balanceOf c user ≤ balanceOf after user := by
  rw [move.holders]
  by_cases same : user = source
  · subst same
    rcases move.ledger with ⟨idle, _⟩ | ⟨_, carried⟩
    · rcases idle with rfl | rfl
      · rw [Erc20.moved_balance_same _ move.held]
        exact Nat.le_refl _
      · rw [Erc20.moved_zero]
        exact Nat.le_refl _
    · exact absurd carried.lien_free lien
  · exact Erc20.moved_balance_ge _ _ same

/-- With a lien open an exit is of the whole balance, and closes the lien. -/
theorem exit_closes_lien {receiver : Address} (lien : lienOf cfg c user ≠ 0)
    (ran : withdrawInternal cfg sender receiver user assets shares c = .ok after) :
    shares = balanceOf c user ∧ balanceOf after user = 0 ∧ lienOf cfg after user = 0 := by
  obtain ⟨pool, source⟩ := source_of_lien lien
  rw [withdraw_internal_of_lien source lien] at ran
  obtain ⟨move, whole, closed, _⟩ := leaves_of_exit_with_lien source ran
  refine ⟨whole, ?_, closed⟩
  rw [move.holders, Function.update_self, whole, Nat.sub_self]

/-- The calls that can lower the shares of `user`, an account with a lien. -/
def ClosesLien (cfg : Config Address) (c after : Chain Address) (user : Address)
    (call : Call Address) : Prop :=
  (∃ repayAmount, call = .liquidate user repayAmount) ∨ call = .writeOffBadDebt user ∨
  ((∃ assets receiver, call = .withdraw assets receiver user ∧
      previewWithdraw cfg c assets = balanceOf c user) ∨
    ∃ receiver, call = .redeem (balanceOf c user) receiver user) ∧
    balanceOf after user = 0 ∧ lienOf cfg after user = 0

theorem closes_lien_of_lowered {call : Call Address} (outsider : sender ≠ cfg.address)
    (lien : lienOf cfg c user ≠ 0) (lowered : balanceOf after user < balanceOf c user)
    (ran : exec cfg sender c call = .ok after) : ClosesLien cfg c after user call := by
  have kept : ¬balanceOf c user ≤ balanceOf after user := by omega
  cases call with
  | deposit assets receiver =>
      exact absurd ((enters_of_deposit_internal outsider ran).1.not_lowered user) kept
  | mint shares receiver =>
      exact absurd ((enters_of_deposit_internal outsider ran).1.not_lowered user) kept
  | withdraw assets receiver owner =>
      simp only [exec, withdraw, bind_ok_iff, require_ok_iff, exists_const] at ran
      obtain rfl := (leaves_of_withdraw_internal ran.2).lowered_only lowered
      obtain ⟨whole, emptied, closed⟩ := exit_closes_lien lien ran.2
      exact .inr (.inr ⟨.inl ⟨assets, receiver, rfl, whole⟩, emptied, closed⟩)
  | redeem shares receiver owner =>
      simp only [exec, redeem, bind_ok_iff, require_ok_iff, exists_const] at ran
      obtain rfl := (leaves_of_withdraw_internal ran.2).lowered_only lowered
      obtain ⟨rfl, emptied, closed⟩ := exit_closes_lien lien ran.2
      exact .inr (.inr ⟨.inr ⟨receiver, rfl⟩, emptied, closed⟩)
  | borrow amount =>
      simp only [exec, borrow, bind_ok_iff] at ran
      obtain ⟨_, _, ran⟩ := ran
      exact absurd ((settles_of_borrow_internal ran).not_lowered user) kept
  | borrowFor onBehalfOf amount =>
      exact absurd ((settles_of_borrow_for ran).not_lowered user) kept
  | approveBorrowDelegate delegate amount =>
      simp only [exec, approveBorrowDelegate, bind_ok_iff, require_ok_iff, exists_const,
        Except.ok.injEq] at ran
      obtain ⟨_, rfl⟩ := ran
      exact absurd (Nat.le_refl _) kept
  | repay amount onBehalfOf =>
      exact absurd ((keeps_of_repay outsider ran).not_lowered user) kept
  | liquidate other repayAmount =>
      obtain ⟨_, _, move⟩ := leaves_of_liquidate outsider ran
      obtain rfl := move.lowered_only lowered
      exact .inl ⟨repayAmount, rfl⟩
  | writeOffBadDebt other =>
      rcases leaves_of_write_off ran with ⟨_, move⟩ | ⟨_, move⟩
      · obtain rfl := move.lowered_only lowered
        exact .inr (.inl rfl)
      · exact absurd (move.not_lowered user) kept
  | settle other => exact absurd ((settles_of_settle ran).not_lowered user) kept
  | transfer target value =>
      exact absurd ((carries_of_transfer ran).not_lowered lien) kept
  | transferFrom source target value =>
      exact absurd ((carries_of_transfer_from ran).not_lowered lien) kept
  | approve spender value => exact absurd ((keeps_of_approve cfg ran).not_lowered user) kept
  | guard call =>
      simp only [exec, guard, bind_ok_iff, Except.ok.injEq] at ran
      obtain ⟨_, _, rfl⟩ := ran
      exact absurd (Nat.le_refl _) kept

/-! ## The exit that always works -/

section Redemption

variable [Fintype Address] {pool : Pool.Config Address} {receiver : Address}

omit [Fintype Address] in
theorem authorize_self (owner : Address) (shares : Nat) (c : Chain Address) :
    authorize owner owner shares c = .ok c := if_neg (not_not.2 rfl)

/-- The owner is out: no lien, no shares, no position, and the collateral split
between the creditor and the receiver. -/
structure Exited (cfg : Config Address) (pool : Pool.Config Address) (user receiver : Address)
    (worth lien : Nat) (c after : Chain Address) : Prop where
  lien_closed : lienOf cfg after user = 0
  no_shares : balanceOf after user = 0
  no_position : after.vault.positions user = Position.empty
  paid : after.token.balanceOf = ((c.token.moved cfg.address pool.address lien).moved
    cfg.address receiver (worth - lien)).balanceOf

omit [Fintype Address] in
theorem burns_all (cfg : Config Address) (c : Chain Address) (userLive : user ≠ 0) :
    ∃ burnt, burnShares cfg user (balanceOf c user) c = .ok burnt :=
  ⟨_, burn_shares_ok_iff.2 ⟨userLive, Nat.le_refl _, rfl⟩⟩

omit [Fintype Address] in
theorem Leaves.whole (move : Leaves cfg user assets (balanceOf c user) c after) :
    balanceOf after user = 0 ∧ after.vault.positions user = Position.empty := by
  constructor
  · rw [move.holders, Function.update_self, Nat.sub_self]
  · rw [move.ledger, Function.update_self, reduced_whole]

omit [Fintype Address] in
/-- The vault can pay what it holds to anyone but the zero address. -/
theorem pays_move (receiverLive : receiver ≠ 0) (funded : assets ≤ totalAssets cfg c) :
    ∃ paid, c.pay (fun token => token.move cfg.address receiver assets) = .ok paid :=
  ⟨_, Chain.pay_ok_iff.2 ⟨_, (Erc20.move_ok_iff _ _ _ _ _).2
    ⟨cfg.address_ne_zero, receiverLive, funded, rfl⟩, rfl⟩⟩

omit [Fintype Address] in
theorem pays_returned (receiverLive : receiver ≠ 0) (funded : assets ≤ totalAssets cfg c) :
    ∃ paid, payReturned cfg receiver assets c = .ok paid := by
  unfold payReturned
  split_ifs
  · exact pays_move receiverLive funded
  · exact ⟨c, rfl⟩

omit [Fintype Address] in
/-- An owner without a lien takes everything the shares are worth. -/
theorem exit_free (userLive : user ≠ 0) (receiverLive : receiver ≠ 0)
    (free : lienOf cfg c user = 0) (funded : assets ≤ totalAssets cfg c) :
    ∃ after, withdrawInternal cfg user receiver user assets (balanceOf c user) c = .ok after ∧
      Exited cfg pool user receiver assets 0 c after := by
  rw [withdraw_internal_of_free free]
  have succeeds : ∃ after, withdrawFree cfg user receiver user assets (balanceOf c user)
      (balanceOf c user) (settleInternal cfg user c) = .ok after := by
    obtain ⟨burnt, burns⟩ := burns_all cfg (settleInternal cfg user c) userLive
    rw [balance_of_settle] at burns
    obtain ⟨_, _, _, _, _, lending⟩ := burn_shares_ok burns
    have held : assets ≤ totalAssets cfg burnt := by
      rwa [total_assets_of_lending cfg lending, total_assets_settle]
    obtain ⟨paid, pays⟩ := pays_move receiverLive held
    exact bind_succeeds (authorize_self _ _ _) (bind_succeeds burns
      (bind_succeeds pays ⟨_, rfl⟩))
  obtain ⟨after, ran⟩ := succeeds
  obtain ⟨move, lent, token⟩ := leaves_of_withdraw_free ran
  obtain ⟨emptied, deleted⟩ := move.whole
  refine ⟨after, ran, ?_, emptied, deleted, ?_⟩
  · rw [← free]
    unfold lienOf
    rw [lent]
  · rw [token]
    exact Erc20.moved_balance_congr (Erc20.moved_zero ..).symm _ _ _

/-- The vault repays any part of a lien it holds the assets for. -/
theorem repays_lien (source : cfg.lienSource = some pool) (sound : c.pool.Sound)
    (current : Pool.elapsed c.toLending = 0) (something : shares ≠ 0)
    (owed : shares ≤ lienOf cfg c user) (funded : shares ≤ totalAssets cfg c) :
    ∃ repaid, repayLien cfg pool shares user c = .ok repaid := by
  rw [lien_of_eq source] at owed
  exact ⟨_, (repay_lien_ok_iff (cfg.pool_live pool source).1 current).2
    ⟨something, owed, sound.borrow_index_pos.ne',
      (Pool.repaid_scaled_le_owed _ _ _).trans (sound.debt_le_total user), funded, rfl⟩⟩

/-- An owner with a lien takes what is left after the creditor. -/
theorem exit_settling_lien (source : cfg.lienSource = some pool) (sound : c.pool.Sound)
    (userLive : user ≠ 0) (receiverLive : receiver ≠ 0) (lien : lienOf cfg c user ≠ 0)
    (covered : lienOf cfg (accrueLien cfg c) user ≤ assets)
    (funded : assets ≤ totalAssets cfg c) :
    ∃ after, withdrawInternal cfg user receiver user assets (balanceOf c user) c = .ok after ∧
      Exited cfg pool user receiver assets (lienOf cfg (accrueLien cfg c) user) c after := by
  rw [withdraw_internal_of_lien source lien]
  have succeeds : ∃ after, exitWithLien cfg pool user receiver user assets (balanceOf c user)
      (balanceOf c user) (lienOf cfg (accrueLien cfg (settleInternal cfg user c)) user)
      (accrueLien cfg (settleInternal cfg user c)) = .ok after := by
    have grows := lien_le_accrue_lien cfg user c
    rw [lien_of_accrue_settle]
    obtain ⟨burnt, burns⟩ := burns_all cfg (accrueLien cfg (settleInternal cfg user c)) userLive
    rw [balance_of_accrue_lien, balance_of_settle] at burns
    obtain ⟨_, _, _, _, _, lending⟩ := burn_shares_ok burns
    have owed : lienOf cfg burnt user = lienOf cfg (accrueLien cfg c) user :=
      (lien_of_lending cfg lending user).trans (lien_of_accrue_settle cfg user c user)
    have held : totalAssets cfg burnt = totalAssets cfg c := by
      rw [total_assets_of_lending cfg lending, total_assets_accrue_lien, total_assets_settle]
    have current : Pool.elapsed (reducePositionProRata user (balanceOf c user) (balanceOf c user)
        burnt).toLending = 0 := by
      rw [reduce_lending, lending]
      exact current_accrue_lien source
    have poolSound : burnt.pool.Sound := by
      rw [lending, accrue_lien_lending source, settle_lending]
      exact sound.accrue
    have indebted : lienOf cfg (accrueLien cfg c) user ≠ 0 := by omega
    obtain ⟨repaid, repays⟩ : ∃ repaid, repayLien cfg pool (lienOf cfg (accrueLien cfg c) user)
        user (reducePositionProRata user (balanceOf c user) (balanceOf c user) burnt) =
          .ok repaid :=
      repays_lien source poolSound current indebted owed.ge (covered.trans (held ▸ funded))
    obtain ⟨_, _, _, left, _⟩ := repay_lien_ok source current repays
    have enough : assets - lienOf cfg (accrueLien cfg c) user ≤ totalAssets cfg repaid := by
      rw [total_assets_of_lending cfg (reduce_lending user burnt _ _), held] at left
      omega
    obtain ⟨paid, pays⟩ := pays_returned receiverLive enough
    exact bind_succeeds (require_of _ rfl) (bind_succeeds (require_of _ covered)
      (bind_succeeds (authorize_self _ _ _) (bind_succeeds burns (bind_succeeds repays
        (bind_succeeds pays ⟨_, rfl⟩)))))
  obtain ⟨after, ran⟩ := succeeds
  obtain ⟨move, _, closed, token⟩ := leaves_of_exit_with_lien source ran
  obtain ⟨emptied, deleted⟩ := move.whole
  exact ⟨after, ran, closed, emptied, deleted, token⟩

/-- No collateral of an account with a lien goes anywhere but through a
liquidation, a write-off or an exit that closes the lien; and a redemption of
every share, when they are worth the lien, always succeeds and pays out
exactly the difference. -/
theorem collateral_cannot_leave_open_lien (cfg : Config Address)
    (pool : Pool.Config Address) (source : cfg.lienSource = some pool) (c : Chain Address)
    (reached : (machine cfg).Reachable c) :
    (∀ action after user, (machine cfg).step c action after → lienOf cfg c user ≠ 0 →
      balanceOf after user < balanceOf c user →
      ∃ sender call, action = .vault sender call ∧ ClosesLien cfg c after user call) ∧
    (∀ user receiver, user ≠ 0 → receiver ≠ 0 →
      lienOf cfg (accrueLien cfg c) user ≤ previewRedeem cfg c (balanceOf c user) →
      ∃ after, redeem cfg user (balanceOf c user) receiver user c = .ok after ∧
        Exited cfg pool user receiver (previewRedeem cfg c (balanceOf c user))
          (lienOf cfg (accrueLien cfg c) user) c after) := by
  have custody := custody_of_reachable reached
  have sound := Pool.sound_of_reachable (pool_reachable reached pool source)
  constructor
  · rintro action after user ⟨external, ran⟩ lien lowered
    have kept : ¬balanceOf c user ≤ balanceOf after user := by omega
    cases action with
    | vault sender call =>
        exact ⟨sender, call, rfl, closes_lien_of_lowered external.1 lien lowered ran⟩
    | pool sender call =>
        exact absurd ((keeps_of_exec_pool external ran).1.not_lowered user) kept
    | asset sender call =>
        simp only [act, Chain.pay_ok_iff] at ran
        obtain ⟨_, _, rfl⟩ := ran
        exact absurd (Nat.le_refl _) kept
    | wait seconds =>
        cases ran
        exact absurd (Nat.le_refl _) kept
  · intro user receiver userLive receiverLive covered
    have funded := preview_redeem_le custody user
    have held : balanceOf c user ≤ maxRedeem c user := Nat.le_refl _
    rw [redeem, require_of _ held, ok_bind]
    by_cases free : lienOf cfg c user = 0
    · have none : lienOf cfg (accrueLien cfg c) user = 0 := by
        rw [lien_of_eq source, sound.debt_eq_zero_iff] at free
        rw [lien_of_eq source, accrue_lien_lending source, sound.accrue.debt_eq_zero_iff,
          Pool.accrue_scaled_debt]
        exact free
      rw [none]
      exact exit_free userLive receiverLive free funded
    · exact exit_settling_lien source sound userLive receiverLive free covered funded

/-- A borrower redeems everything. -/
theorem collateral_leaves_borrowing :
    (∃ c after, ClosesLien (smallVault (10 ^ 9)) c after 2
        (.redeem (balanceOf c 2) 4 2)) ∧
    ∃ c after, redeem (smallVault (10 ^ 9)) 2 (balanceOf c 2) 4 2 c = .ok after ∧
      lienOf (smallVault (10 ^ 9)) c 2 ≠ 0 ∧
      Exited (smallVault (10 ^ 9)) (Pool.flatCurve (10 ^ 9)) 2 4
        (previewRedeem (smallVault (10 ^ 9)) c (balanceOf c 2))
        (lienOf (smallVault (10 ^ 9)) (accrueLien (smallVault (10 ^ 9)) c) 2) c after := by
  obtain ⟨c, reached, checked⟩ := reachable_of_replay (10 ^ 9) (fun _ _ => True) borrowingRun
    (fun c => lienOf (smallVault (10 ^ 9)) c 2 ≠ 0 ∧
      lienOf (smallVault (10 ^ 9)) (accrueLien (smallVault (10 ^ 9)) c) 2 ≤
        previewRedeem (smallVault (10 ^ 9)) c (balanceOf c 2) ∧ balanceOf c 2 ≠ 0)
    (by decide) (by decide +kernel)
  obtain ⟨lien, covered, held⟩ := of_decide_eq_true checked
  obtain ⟨blocked, exits⟩ := collateral_cannot_leave_open_lien _
    (Pool.flatCurve (10 ^ 9)) rfl c reached.of_restrict
  obtain ⟨after, ran, exited⟩ := exits 2 4 (by decide) (by decide) covered
  have outsider : Outsider (smallVault (10 ^ 9)) 2 := by decide
  have lowered : balanceOf after 2 < balanceOf c 2 := by
    rw [exited.no_shares]
    omega
  obtain ⟨sender, call, same, closes⟩ :=
    blocked (.vault 2 (.redeem (balanceOf c 2) 4 2)) after 2 ⟨outsider, ran⟩ lien lowered
  cases same
  exact ⟨⟨c, after, closes⟩, c, after, ran, lien, exited⟩

end Redemption

end Vault

end Ghoststake
