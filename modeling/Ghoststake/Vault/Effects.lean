import Ghoststake.Vault.Projection

/-!
# Effects of the entry points

Four things can happen to the vault's shares in one call: they enter against
assets, they leave against assets, they are carried from one account to
another, or they are kept, with or without a settlement. Each effect says what
becomes of the assets, the holders and the ledger, and each entry point has one.
-/

namespace Ghoststake

set_option autoImplicit false

open Checked Rounding

namespace Vault

variable {Address : Type} [DecidableEq Address] [Zero Address]

def settledPosition (cfg : Config Address) (c : Chain Address) (user : Address) : Position :=
  (c.vault.positions user).settled cfg c.timestamp

structure Enters (cfg : Config Address) (receiver : Address) (assets shares : Nat)
    (c after : Chain Address) : Prop where
  live : receiver ≠ 0
  holders : balanceOf after =
    Function.update (balanceOf c) receiver (balanceOf c receiver + shares)
  supply : totalSupply after = totalSupply c + shares
  paid : totalAssets cfg after = totalAssets cfg c + assets
  ledger : after.vault.positions = Function.update c.vault.positions receiver
    { settledPosition cfg c receiver with
      principal := (settledPosition cfg c receiver).principal + assets }

/-- Shares of `owner` are burnt and no more than `assets` goes out for them. -/
structure Leaves (cfg : Config Address) (owner : Address) (assets shares : Nat)
    (c after : Chain Address) : Prop where
  live : owner ≠ 0
  held : shares ≤ balanceOf c owner
  holders : balanceOf after = Function.update (balanceOf c) owner (balanceOf c owner - shares)
  supply : totalSupply after = totalSupply c - shares
  paid : totalAssets cfg c ≤ totalAssets cfg after + assets
  ledger : after.vault.positions = Function.update c.vault.positions owner
    ((settledPosition cfg c owner).reduced shares (balanceOf c owner))

/-- No share moves and no position changes. -/
structure Keeps (cfg : Config Address) (c after : Chain Address) : Prop where
  holders : balanceOf after = balanceOf c
  supply : totalSupply after = totalSupply c
  paid : totalAssets cfg c ≤ totalAssets cfg after
  ledger : after.vault.positions = c.vault.positions

structure Settles (cfg : Config Address) (user : Address) (c after : Chain Address) :
    Prop where
  holders : balanceOf after = balanceOf c
  supply : totalSupply after = totalSupply c
  paid : totalAssets cfg c ≤ totalAssets cfg after
  ledger : after.vault.positions =
    Function.update c.vault.positions user (settledPosition cfg c user)

structure Carries (cfg : Config Address) (source target : Address) (value : Nat)
    (c after : Chain Address) : Prop where
  source_live : source ≠ 0
  target_live : target ≠ 0
  held : value ≤ balanceOf c source
  lending : after.toLending = c.toLending
  holders : balanceOf after = (c.vault.shares.moved source target value).balanceOf
  supply : totalSupply after = totalSupply c
  ledger : Idle source target value ∧ after.vault.positions = c.vault.positions ∨
    ¬Idle source target value ∧ Carried cfg source target value c after

/-! ## Building blocks -/

section Blocks

variable {cfg : Config Address} {c after : Chain Address} {sender user : Address}
  {assets shares amount : Nat}

theorem total_assets_pushed {token : Erc20 Address} {receiver : Address}
    (pushed : c.token.move cfg.address receiver amount = .ok token) :
    totalAssets cfg c ≤ token.balanceOf cfg.address + amount :=
  Pool.pushed_cash pushed

theorem enters_of_deposit_internal {receiver : Address} (outsider : sender ≠ cfg.address)
    (ran : depositInternal cfg sender receiver assets shares c = .ok after) :
    Enters cfg receiver assets shares c after ∧ after.pool = c.pool ∧
      after.timestamp = c.timestamp ∧ c.vault.entriesPaused = false := by
  simp only [depositInternal, bind_ok_iff, Chain.pay_ok_iff, mint_shares_ok_iff,
    EntryPausable.whenEntriesOpen, require_ok_iff, exists_const, Except.ok.injEq] at ran
  obtain ⟨opened, _, ⟨token, pulled, rfl⟩, _, ⟨live, rfl⟩, rfl⟩ := ran
  rw [settle_lending] at pulled
  have paid := Pool.pulled_cash outsider pulled
  refine ⟨⟨live, ?_, ?_, paid, ?_⟩, ?_, ?_, opened⟩
  · simp only [settle_shares, balanceOf]
    rfl
  · simp only [totalSupply, Chain.emit_shares, Chain.set_position_shares,
      Chain.set_shares_shares, settle_shares]
  · simp [settledPosition]
  · simp
  · simp

theorem burn_shares_ok (burns : burnShares cfg user shares c = .ok after) :
    user ≠ 0 ∧ shares ≤ balanceOf c user ∧
      balanceOf after = Function.update (balanceOf c) user (balanceOf c user - shares) ∧
      totalSupply after = totalSupply c - shares ∧
      after.vault.positions = c.vault.positions ∧ after.toLending = c.toLending := by
  obtain ⟨live, held, rfl⟩ := burn_shares_ok_iff.1 burns
  exact ⟨live, held, rfl, rfl, rfl, rfl⟩

theorem burnt_of_authorized {owner : Address} {authorized burnt : Chain Address}
    (authorizes : authorize sender owner shares c = .ok authorized)
    (burns : burnShares cfg owner shares authorized = .ok burnt) :
    owner ≠ 0 ∧ shares ≤ balanceOf c owner ∧
      balanceOf burnt = Function.update (balanceOf c) owner (balanceOf c owner - shares) ∧
      totalSupply burnt = totalSupply c - shares ∧
      burnt.vault.positions = c.vault.positions ∧ burnt.toLending = c.toLending := by
  obtain ⟨allowance, rfl⟩ := authorize_ok authorizes
  obtain ⟨live, held, rfl⟩ := burn_shares_ok_iff.1 burns
  exact ⟨live, held, rfl, rfl, rfl, rfl⟩

theorem leaves_of_withdraw_free {receiver owner : Address}
    (ran : withdrawFree cfg sender receiver owner assets shares (balanceOf c owner)
      (settleInternal cfg owner c) = .ok after) :
    Leaves cfg owner assets shares c after ∧ after.pool = c.pool ∧
      after.token.balanceOf = (c.token.moved cfg.address receiver assets).balanceOf := by
  simp only [withdrawFree, bind_ok_iff, Chain.pay_ok_iff, Except.ok.injEq] at ran
  obtain ⟨authorized, authorizes, burnt, burns, _, ⟨token, pushed, rfl⟩, rfl⟩ := ran
  obtain ⟨live, held, holders, supply, ledger, lending⟩ := burnt_of_authorized authorizes burns
  have paid := total_assets_pushed pushed
  rw [total_assets_of_lending cfg (lending.trans (settle_lending cfg owner c))] at paid
  rw [balance_of_settle] at held holders
  rw [total_supply_settle] at supply
  refine ⟨⟨live, held, holders, supply, paid, ?_⟩, ?_, ?_⟩
  · simp [ledger, settledPosition]
  · simp [lending]
  · obtain ⟨_, _, _, rfl⟩ := (Erc20.move_ok_iff _ _ _ _ _).1 pushed
    simp [lending]

theorem pay_returned_ok {receiver : Address}
    (ran : payReturned cfg receiver amount c = .ok after) :
    after.vault = c.vault ∧ after.pool = c.pool ∧
      after.token.balanceOf = (c.token.moved cfg.address receiver amount).balanceOf ∧
      totalAssets cfg c ≤ totalAssets cfg after + amount := by
  unfold payReturned at ran
  split_ifs at ran with something
  · obtain ⟨token, pushed, rfl⟩ := Chain.pay_ok_iff.1 ran
    obtain ⟨_, _, _, moved⟩ := (Erc20.move_ok_iff _ _ _ _ _).1 pushed
    exact ⟨rfl, rfl, congrArg Erc20.balanceOf moved, total_assets_pushed pushed⟩
  · cases ran
    obtain rfl := not_not.1 something
    exact ⟨rfl, rfl, (Erc20.moved_zero ..).symm, Nat.le_add_right _ _⟩

variable {pool : Pool.Config Address}

theorem total_assets_repaid (source : cfg.lienSource = some pool) (token : Erc20 Address)
    (amount : Nat) : (repaidToken cfg pool amount token).balanceOf cfg.address =
      token.balanceOf cfg.address - amount :=
  Erc20.moved_balance_source _ amount (cfg.pool_live pool source).2.symm

theorem repay_lien_ok (source : cfg.lienSource = some pool)
    (current : Pool.elapsed c.toLending = 0)
    (ran : repayLien cfg pool amount user c = .ok after) :
    after.vault = c.vault ∧ after.pool = repaidPool cfg user amount c.pool ∧
      after.token.balanceOf = (c.token.moved cfg.address pool.address amount).balanceOf ∧
      totalAssets cfg after + amount = totalAssets cfg c ∧
      amount ≤ Pool.balanceOfDebt c.pool user := by
  obtain ⟨_, owed, _, _, funded, rfl⟩ :=
    (repay_lien_ok_iff (cfg.pool_live pool source).1 current).1 ran
  refine ⟨rfl, rfl, rfl, ?_, owed⟩
  simp only [totalAssets, total_assets_repaid source] at funded ⊢
  omega

omit [DecidableEq Address] in
theorem current_accrue_lien (source : cfg.lienSource = some pool) :
    Pool.elapsed (accrueLien cfg c).toLending = 0 := by
  rw [accrue_lien_lending source]
  exact Pool.elapsed_accrue pool c.toLending

theorem debt_repaid_whole (cfg : Config Address) (pool : Pool.State Address) (user : Address) :
    Pool.balanceOfDebt (repaidPool cfg user (Pool.balanceOfDebt pool user) pool) user = 0 := by
  have cleared : (repaidPool cfg user (Pool.balanceOfDebt pool user) pool).scaledDebt user =
      pool.scaledDebt user - Pool.repaidScaled pool (Pool.balanceOfDebt pool user) user :=
    Function.update_self ..
  rw [Pool.repaid_scaled_full, Nat.sub_self] at cleared
  rw [Pool.balanceOfDebt, cleared, mul_div_zero_left]

theorem leaves_of_exit_with_lien {receiver owner : Address}
    (source : cfg.lienSource = some pool)
    (ran : exitWithLien cfg pool sender receiver owner assets shares (balanceOf c owner)
      (lienOf cfg (accrueLien cfg (settleInternal cfg owner c)) owner)
      (accrueLien cfg (settleInternal cfg owner c)) = .ok after) :
    Leaves cfg owner assets shares c after ∧ shares = balanceOf c owner ∧
      lienOf cfg after owner = 0 ∧
      after.token.balanceOf = ((c.token.moved cfg.address pool.address
          (lienOf cfg (accrueLien cfg c) owner)).moved cfg.address receiver
        (assets - lienOf cfg (accrueLien cfg c) owner)).balanceOf := by
  simp only [exitWithLien, bind_ok_iff, require_ok_iff, exists_const, Except.ok.injEq] at ran
  obtain ⟨whole, covered, authorized, authorizes, burnt, burns, repaid, repays, paid, pays,
    rfl⟩ := ran
  obtain ⟨live, held, holders, supply, ledger, lending⟩ := burnt_of_authorized authorizes burns
  have current : Pool.elapsed (reducePositionProRata owner shares (balanceOf c owner)
      burnt).toLending = 0 := by
    rw [reduce_lending, lending]
    exact current_accrue_lien source
  obtain ⟨repaidVault, repaidPool, repaidToken, repaidAssets, _⟩ :=
    repay_lien_ok source current repays
  obtain ⟨paidVault, paidPool, paidToken, paidAssets⟩ := pay_returned_ok pays
  have before := total_assets_of_lending cfg lending
  simp only [balance_of_accrue_lien, balance_of_settle, total_supply_accrue_lien,
    total_supply_settle, total_assets_accrue_lien, total_assets_settle] at held holders supply before
  refine ⟨⟨live, held, ?_, ?_, ?_, ?_⟩, whole, ?_, ?_⟩
  · refine (balance_of_shares ?_).trans holders
    simp [paidVault, repaidVault]
  · refine (total_supply_shares ?_).trans supply
    simp [paidVault, repaidVault]
  · simp only [total_assets_emit]
    rw [total_assets_of_lending cfg (reduce_lending owner burnt _ _)] at repaidAssets
    omega
  · simp [paidVault, repaidVault, ledger, settledPosition]
  · rw [lien_of_eq source, reduce_lending, lending] at repaidPool
    rw [lien_of_emit, lien_of_emit, lien_of_emit, lien_of_eq source, paidPool, repaidPool]
    exact debt_repaid_whole _ _ _
  · have ready : lienOf cfg (accrueLien cfg (settleInternal cfg owner c)) owner =
        lienOf cfg (accrueLien cfg c) owner := lien_of_accrue_settle cfg owner c owner
    have token : burnt.token = c.token := by rw [lending]; simp
    rw [ready] at paidToken repaidToken
    simp only [Chain.emit_lending]
    rw [paidToken]
    refine Erc20.moved_balance_congr (repaidToken.trans ?_) _ _ _
    rw [reduce_lending, token]

theorem pull_and_repay_ok (source : cfg.lienSource = some pool)
    (outsider : sender ≠ cfg.address) (current : Pool.elapsed c.toLending = 0)
    (ran : pullAndRepay cfg pool sender user amount c = .ok after) :
    after.vault = c.vault ∧ after.pool = repaidPool cfg user amount c.pool ∧
      totalAssets cfg after = totalAssets cfg c ∧
      amount ≤ Pool.balanceOfDebt c.pool user := by
  simp only [pullAndRepay, bind_ok_iff, Chain.pay_ok_iff] at ran
  obtain ⟨_, ⟨token, pulled, rfl⟩, repays⟩ := ran
  have paid := Pool.pulled_cash outsider pulled
  have current : Pool.elapsed ({ c with token := token } : Chain Address).toLending = 0 := current
  obtain ⟨vault, lent, _, left, owed⟩ := repay_lien_ok source current repays
  refine ⟨vault, lent, ?_, owed⟩
  have held : totalAssets cfg { c with token := token } = totalAssets cfg c + amount := paid
  exact Nat.add_right_cancel (left.trans held)

theorem burn_collateral_ok (ran : burnCollateral cfg user amount c = .ok after) :
    user ≠ 0 ∧
      balanceOf after = Function.update (balanceOf c) user
        (balanceOf c user - min (previewWithdraw cfg c amount) (balanceOf c user)) ∧
      totalSupply after = totalSupply c - min (previewWithdraw cfg c amount) (balanceOf c user) ∧
      after.vault.positions = Function.update c.vault.positions user
        ((c.vault.positions user).reduced
          (min (previewWithdraw cfg c amount) (balanceOf c user)) (balanceOf c user)) ∧
      after.toLending = c.toLending := by
  simp only [burnCollateral, bind_ok_iff, Except.ok.injEq] at ran
  obtain ⟨burnt, burns, rfl⟩ := ran
  obtain ⟨live, _, holders, supply, ledger, lending⟩ := burn_shares_ok burns
  refine ⟨live, holders, supply, ?_, lending⟩
  rw [reduce_positions, ledger]

omit [DecidableEq Address] in
theorem preview_withdraw_congr {a b : Chain Address}
    (sameAssets : totalAssets cfg a = totalAssets cfg b)
    (sameSupply : totalSupply a = totalSupply b) (assets : Nat) :
    previewWithdraw cfg a assets = previewWithdraw cfg b assets := by
  simp only [previewWithdraw, sameAssets, sameSupply]

omit [DecidableEq Address] in
theorem convert_to_assets_congr {a b : Chain Address}
    (sameAssets : totalAssets cfg a = totalAssets cfg b)
    (sameSupply : totalSupply a = totalSupply b) (shares : Nat) :
    convertToAssets cfg a shares = convertToAssets cfg b shares := by
  simp only [convertToAssets, sameAssets, sameSupply]

end Blocks

/-! ## Entry points -/

section Entries

variable {cfg : Config Address} {c after : Chain Address} {sender user : Address}
  {assets shares amount : Nat}

omit [DecidableEq Address] in
theorem Keeps.of_eq (shares : after.vault.shares = c.vault.shares)
    (positions : after.vault.positions = c.vault.positions)
    (lending : after.toLending = c.toLending) : Keeps cfg c after where
  holders := balance_of_shares shares
  supply := total_supply_shares shares
  paid := (total_assets_of_lending cfg lending).ge
  ledger := positions

theorem settles_of_settle (ran : settle cfg user c = .ok after) : Settles cfg user c after := by
  cases ran
  exact ⟨balance_of_settle cfg user c, total_supply_settle cfg user c,
    (total_assets_settle cfg user c).ge, settle_positions cfg user c⟩

theorem settles_of_borrow_internal {recipient : Address}
    (ran : borrowInternal cfg user amount recipient c = .ok after) :
    Settles cfg user c after := by
  simp only [borrowInternal, bind_ok_iff, require_ok_iff, exists_const, Chain.pay_ok_iff,
    Chain.lend_ok_iff, creditor_ok_iff, Except.ok.injEq] at ran
  obtain ⟨pool, source, _, _, _, ⟨lending, borrowed, rfl⟩, _, ⟨token, pushed, rfl⟩, rfl⟩ := ran
  have received := Pool.borrowed_cash (cfg.pool_live pool source).2.symm borrowed
  have left : lending.token.balanceOf cfg.address ≤ token.balanceOf cfg.address + amount :=
    Pool.pushed_cash pushed
  have before : (accrueLien cfg (settleInternal cfg user c)).token.balanceOf cfg.address =
      totalAssets cfg c := by
    simp [totalAssets]
  rw [before] at received
  refine ⟨?_, ?_, ?_, ?_⟩
  · apply balance_of_shares
    simp
  · apply total_supply_shares
    simp
  · have after : totalAssets cfg c ≤ token.balanceOf cfg.address := by omega
    exact after
  · simp [settledPosition]

theorem settles_of_borrow_for {onBehalfOf : Address}
    (ran : borrowFor cfg sender onBehalfOf amount c = .ok after) :
    Settles cfg onBehalfOf c after := by
  simp only [borrowFor, bind_ok_iff, require_ok_iff, exists_const] at ran
  obtain ⟨_, _, _, ran⟩ := ran
  have same : (spendBorrowAllowance onBehalfOf sender amount c).toLending = c.toLending ∧
      (spendBorrowAllowance onBehalfOf sender amount c).vault.shares = c.vault.shares ∧
      (spendBorrowAllowance onBehalfOf sender amount c).vault.positions = c.vault.positions := by
    simp only [spendBorrowAllowance]
    split_ifs <;> exact ⟨rfl, rfl, rfl⟩
  obtain ⟨lending, shares, positions⟩ := same
  have move := settles_of_borrow_internal ran
  refine ⟨?_, ?_, ?_, ?_⟩
  · exact move.holders.trans (balance_of_shares shares)
  · exact move.supply.trans (total_supply_shares shares)
  · exact (total_assets_of_lending cfg lending).ge.trans move.paid
  · have ledger := move.ledger
    simpa only [settledPosition, positions, lending] using ledger

theorem keeps_of_approve (cfg : Config Address) {spender : Address}
    (ran : approve sender spender amount c = .ok after) : Keeps cfg c after := by
  simp only [approve, Erc20.approve, bind_ok_iff, require_ok_iff, exists_const,
    Except.ok.injEq] at ran
  obtain ⟨_, ⟨_, _, rfl⟩, rfl⟩ := ran
  exact ⟨rfl, rfl, Nat.le_refl _, rfl⟩

theorem keeps_of_repay {onBehalfOf : Address} (outsider : sender ≠ cfg.address)
    (ran : repay cfg sender amount onBehalfOf c = .ok after) : Keeps cfg c after := by
  simp only [repay, bind_ok_iff, require_ok_iff, exists_const, creditor_ok_iff,
    Except.ok.injEq] at ran
  obtain ⟨pool, source, _, _, repaid, repays, rfl⟩ := ran
  obtain ⟨vault, _, assets, _⟩ :=
    pull_and_repay_ok source outsider (current_accrue_lien source) repays
  rw [accrue_lien_vault] at vault
  rw [total_assets_accrue_lien] at assets
  refine ⟨balance_of_shares ?_, total_supply_shares ?_, assets.ge, ?_⟩
  · rw [Chain.emit_shares, vault]
  · rw [Chain.emit_shares, vault]
  · rw [Chain.emit_positions, vault]

/-- Burning the collateral behind `assets` and paying out no more than that. -/
theorem leaves_of_burn_collateral {ready burnt : Chain Address}
    (holders : balanceOf ready = balanceOf c) (supply : totalSupply ready = totalSupply c)
    (held : totalAssets cfg ready = totalAssets cfg c)
    (ledger : ready.vault.positions = Function.update c.vault.positions user
      (settledPosition cfg c user))
    (burns : burnCollateral cfg user assets ready = .ok burnt)
    (shares : after.vault.shares = burnt.vault.shares)
    (positions : after.vault.positions = burnt.vault.positions)
    (paid : totalAssets cfg c ≤ totalAssets cfg after + assets) :
    Leaves cfg user assets (min (previewWithdraw cfg c assets) (balanceOf c user)) c after := by
  obtain ⟨live, burntHolders, burntSupply, burntLedger, _⟩ := burn_collateral_ok burns
  rw [preview_withdraw_congr held supply, holders] at burntHolders burntSupply burntLedger
  rw [supply] at burntSupply
  refine ⟨live, min_le_right _ _, ?_, ?_, paid, ?_⟩
  · exact (balance_of_shares shares).trans burntHolders
  · exact (total_supply_shares shares).trans burntSupply
  · rw [positions, burntLedger, ledger, Function.update_self, Function.update_idem]

theorem ready_ledger (cfg : Config Address) (user : Address) (c : Chain Address) :
    (accrueLien cfg (settleInternal cfg user c)).vault.positions =
      Function.update c.vault.positions user (settledPosition cfg c user) := by
  rw [accrue_lien_vault, settle_positions]
  rfl

theorem leaves_of_liquidate (outsider : sender ≠ cfg.address)
    (ran : liquidate cfg sender user amount c = .ok after) :
    ∃ seized, seized ≤ convertToAssets cfg c (balanceOf c user) ∧
      Leaves cfg user seized (min (previewWithdraw cfg c seized) (balanceOf c user)) c after := by
  simp only [liquidate, seizeCollateral, bind_ok_iff, require_ok_iff, exists_const,
    creditor_ok_iff, Chain.pay_ok_iff, Except.ok.injEq] at ran
  obtain ⟨pool, source, _, _, _, repaid, repays, _, ⟨burnt, burns, token, pushed, rfl⟩,
    rfl⟩ := ran
  obtain ⟨repaidVault, _, repaidAssets, _⟩ :=
    pull_and_repay_ok source outsider (current_accrue_lien source) repays
  obtain ⟨_, _, _, _, lending⟩ := burn_collateral_ok burns
  rw [total_assets_accrue_lien, total_assets_settle] at repaidAssets
  have shares : repaid.vault.shares = c.vault.shares := by
    rw [repaidVault, accrue_lien_vault, settle_shares]
  have paid := total_assets_pushed pushed
  rw [total_assets_of_lending cfg lending, repaidAssets] at paid
  refine ⟨_, ?_, leaves_of_burn_collateral (balance_of_shares shares)
    (total_supply_shares shares) repaidAssets ?_ burns rfl rfl paid⟩
  · refine (min_le_right _ _).trans (le_of_eq ?_)
    rw [balance_of_accrue_lien, balance_of_settle]
    exact convert_to_assets_congr (by simp) (by simp) _
  · rw [repaidVault, ready_ledger]

/-- A write-off hands everything the shares are worth to the pool, or there is
nothing to hand over. -/
theorem leaves_of_write_off (ran : writeOffBadDebt cfg sender user c = .ok after) :
    convertToAssets cfg c (balanceOf c user) ≠ 0 ∧
        Leaves cfg user (convertToAssets cfg c (balanceOf c user))
          (min (previewWithdraw cfg c (convertToAssets cfg c (balanceOf c user)))
            (balanceOf c user)) c after ∨
      convertToAssets cfg c (balanceOf c user) = 0 ∧ Settles cfg user c after := by
  simp only [writeOffBadDebt, bind_ok_iff, require_ok_iff, exists_const, creditor_ok_iff,
    Except.ok.injEq, Prod.exists] at ran
  obtain ⟨pool, source, _, recovered, recovers, loss, lending, absorbs, rfl⟩ := ran
  obtain ⟨_, _, _, _, rfl⟩ := Pool.absorb_bad_debt_ok_iff.1 absorbs
  have collateral : convertToAssets cfg (accrueLien cfg (settleInternal cfg user c))
      (balanceOf (accrueLien cfg (settleInternal cfg user c)) user) =
        convertToAssets cfg c (balanceOf c user) := by
    rw [balance_of_accrue_lien, balance_of_settle]
    exact convert_to_assets_congr (by simp) (by simp) _
  have absorbed : totalAssets cfg ({ recovered with
      toLending := (Pool.accrue pool recovered.toLending).put recovered.token
        ((Pool.accrue pool recovered.toLending).pool.absorbed user) } : Chain Address) =
      totalAssets cfg recovered := rfl
  rw [collateral] at recovers ⊢
  generalize convertToAssets cfg c (balanceOf c user) = worth at recovers ⊢
  unfold recover at recovers
  split_ifs at recovers with something
  · left
    obtain ⟨burnt, burns, repays⟩ := (bind_ok_iff _ _ _).1 recovers
    obtain ⟨_, _, _, _, lent⟩ := burn_collateral_ok burns
    have current : Pool.elapsed burnt.toLending = 0 := by
      rw [lent]
      exact current_accrue_lien source
    obtain ⟨repaidVault, _, _, repaidAssets, _⟩ := repay_lien_ok source current repays
    rw [total_assets_of_lending cfg lent, total_assets_accrue_lien, total_assets_settle]
      at repaidAssets
    refine ⟨something, leaves_of_burn_collateral ?_ ?_ ?_ ?_ burns ?_ ?_ ?_⟩
    · rw [balance_of_accrue_lien, balance_of_settle]
    · rw [total_supply_accrue_lien, total_supply_settle]
    · rw [total_assets_accrue_lien, total_assets_settle]
    · exact ready_ledger cfg user c
    · rw [Chain.emit_shares, repaidVault]
    · rw [Chain.emit_positions, repaidVault]
    · rw [total_assets_emit, absorbed]
      exact repaidAssets.ge
  · right
    cases recovers
    refine ⟨not_not.1 something, ?_, ?_, ?_, ?_⟩
    · refine (balance_of_shares ?_).trans (balance_of_settle cfg user c)
      simp
    · refine (total_supply_shares ?_).trans (total_supply_settle cfg user c)
      simp
    · rw [total_assets_emit, absorbed, total_assets_accrue_lien, total_assets_settle]
    · exact ready_ledger cfg user c

theorem carries_of_transfer {source target : Address} {value : Nat}
    (ran : transferInternal cfg source target value c = .ok after) :
    Carries cfg source target value c after := by
  obtain ⟨sourceLive, targetLive, held, lending, shares, ledger⟩ := transfer_internal_ok ran
  exact ⟨sourceLive, targetLive, held, lending, by rw [← shares]; rfl,
    by unfold totalSupply; rw [shares]; rfl, ledger⟩

theorem carries_of_transfer_from {source target : Address} {value : Nat}
    (ran : transferFrom cfg sender source target value c = .ok after) :
    Carries cfg source target value c after := by
  simp only [transferFrom, bind_ok_iff, spend_share_allowance_ok_iff] at ran
  obtain ⟨_, ⟨_, rfl⟩, moves⟩ := ran
  have move := carries_of_transfer moves
  exact ⟨move.source_live, move.target_live, move.held, move.lending, move.holders, move.supply,
    move.ledger.imp id fun carried => ⟨carried.1, carried.2.1, carried.2.2, carried.2.3,
      carried.2.4⟩⟩

end Entries

end Vault

end Ghoststake
