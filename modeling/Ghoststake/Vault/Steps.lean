import Ghoststake.Pool.Totals
import Ghoststake.Vault.Model

/-!
# What one vault call can do

The effect of each building block, the machine of the vault beside its pool,
and the projection that makes every history of the pair a history of the pool.
-/

namespace Ghoststake

set_option autoImplicit false

open Checked Rounding

namespace Chain

variable {Address : Type} (c : Chain Address)

section Writes

variable (event : Vault.Event Address) (shares : Erc20 Address)

@[simp] theorem emit_lending : (c.emit event).toLending = c.toLending := rfl

@[simp] theorem emit_shares : (c.emit event).vault.shares = c.vault.shares := rfl

@[simp] theorem emit_positions : (c.emit event).vault.positions = c.vault.positions := rfl

@[simp] theorem emit_access :
    (c.emit event).vault.toEntryPausable = c.vault.toEntryPausable := rfl

@[simp] theorem set_shares_lending : (c.setShares shares).toLending = c.toLending := rfl

@[simp] theorem set_shares_shares : (c.setShares shares).vault.shares = shares := rfl

@[simp] theorem set_shares_positions :
    (c.setShares shares).vault.positions = c.vault.positions := rfl

variable [DecidableEq Address] (user : Address) (position : Vault.Position)

@[simp] theorem set_position_lending :
    (c.setPosition user position).toLending = c.toLending := rfl

@[simp] theorem set_position_shares :
    (c.setPosition user position).vault.shares = c.vault.shares := rfl

@[simp] theorem set_position_positions :
    (c.setPosition user position).vault.positions =
      Function.update c.vault.positions user position := rfl

end Writes

section Calls

variable {c} {after : Chain Address}

theorem pay_ok_iff {call : Erc20 Address → Outcome Address (Erc20 Address)} :
    c.pay call = .ok after ↔
      ∃ token, call c.token = .ok token ∧ after = { c with token := token } := by
  simp only [pay, bind_ok_iff, Except.ok.injEq, eq_comm (b := after)]

theorem lend_ok_iff {call : Lending Address → Outcome Address (Lending Address)} :
    c.lend call = .ok after ↔
      ∃ lending, call c.toLending = .ok lending ∧
        after = { c with toLending := lending } := by
  simp only [lend, bind_ok_iff, Except.ok.injEq, eq_comm (b := after)]

end Calls

end Chain

namespace Vault

variable {Address : Type} [Zero Address]

theorem virtual_shares_pos : 0 < virtualShares := by
  unfold virtualShares
  decide

theorem reduced_whole (position : Position) (shares : Nat) :
    position.reduced shares shares = Position.empty := if_pos (Nat.le_refl _)

theorem accrued_of_no_principal {position : Position} (none : position.principal = 0)
    (timestamp : Nat) : position.accruedYield timestamp = 0 := if_pos (.inr none)

theorem accrued_at_start {position : Position} {timestamp : Nat}
    (started : timestamp - position.startTime = 0) : position.accruedYield timestamp = 0 :=
  if_pos (.inl started)

theorem settled_of_empty (cfg : Config Address) {position : Position} (timestamp : Nat)
    (none : position.principal = 0 ∧ position.settledYield = 0) :
    (position.settled cfg timestamp).principal = 0 ∧
      (position.settled cfg timestamp).settledYield = 0 := by
  simp [Position.settled, accrued_of_no_principal none.1, none]

theorem settled_again (cfg : Config Address) {position : Position} {timestamp : Nat}
    (started : timestamp - position.startTime = 0) :
    (position.settled cfg timestamp).principal = position.principal ∧
      (position.settled cfg timestamp).settledYield = position.settledYield := by
  refine ⟨rfl, ?_⟩
  simp only [Position.settled, accrued_at_start started, Nat.add_zero]

/-! ## Settlement and accrual -/

section Settlement

variable [DecidableEq Address] (cfg : Config Address) (user : Address) (c : Chain Address)

@[simp] theorem settle_lending : (settleInternal cfg user c).toLending = c.toLending := by
  simp only [settleInternal]
  split_ifs <;> rfl

@[simp] theorem settle_shares :
    (settleInternal cfg user c).vault.shares = c.vault.shares := by
  simp only [settleInternal]
  split_ifs <;> rfl

@[simp] theorem settle_access :
    (settleInternal cfg user c).vault.toEntryPausable = c.vault.toEntryPausable := by
  simp only [settleInternal]
  split_ifs <;> rfl

@[simp] theorem settle_positions :
    (settleInternal cfg user c).vault.positions = Function.update c.vault.positions user
      ((c.vault.positions user).settled cfg c.timestamp) := by
  simp only [settleInternal]
  split_ifs <;> rfl

end Settlement

section Accrual

variable (cfg : Config Address) (user : Address) (c : Chain Address)

@[simp] theorem accrue_lien_vault : (accrueLien cfg c).vault = c.vault := by
  unfold accrueLien
  split <;> rfl

@[simp] theorem accrue_lien_token : (accrueLien cfg c).token = c.token := by
  unfold accrueLien
  split
  · rfl
  · exact Pool.accrue_token _ _

@[simp] theorem accrue_lien_timestamp : (accrueLien cfg c).timestamp = c.timestamp := by
  unfold accrueLien
  split
  · rfl
  · exact Pool.accrue_timestamp _ _

theorem accrue_lien_lending {cfg : Config Address} {pool : Pool.Config Address}
    (source : cfg.lienSource = some pool) (c : Chain Address) :
    (accrueLien cfg c).toLending = Pool.accrue pool c.toLending := by
  unfold accrueLien
  rw [source]

theorem lien_of_eq {cfg : Config Address} {pool : Pool.Config Address}
    (source : cfg.lienSource = some pool) (c : Chain Address) (user : Address) :
    lienOf cfg c user = Pool.balanceOfDebt c.pool user := by
  unfold lienOf
  rw [source]

theorem lien_le_accrue_lien :
    lienOf cfg c user ≤ lienOf cfg (accrueLien cfg c) user := by
  cases source : cfg.lienSource with
  | none => simp [lienOf, source]
  | some pool =>
      rw [lien_of_eq source, lien_of_eq source, accrue_lien_lending source]
      exact Pool.balance_of_debt_le_accrue pool c.toLending user

end Accrual

/-! ## Views through the writes that leave them alone -/

section Views

variable (cfg : Config Address) (user : Address) (c : Chain Address)

theorem total_assets_of_lending {a b : Chain Address} (same : a.toLending = b.toLending) :
    totalAssets cfg a = totalAssets cfg b := by
  unfold totalAssets
  rw [same]

theorem lien_of_lending {a b : Chain Address} (same : a.toLending = b.toLending)
    (user : Address) : lienOf cfg a user = lienOf cfg b user := by
  unfold lienOf
  rw [same]

omit [Zero Address] in
theorem balance_of_shares {a b : Chain Address} (same : a.vault.shares = b.vault.shares) :
    balanceOf a = balanceOf b := by
  unfold balanceOf
  rw [same]

omit [Zero Address] in
theorem total_supply_shares {a b : Chain Address} (same : a.vault.shares = b.vault.shares) :
    totalSupply a = totalSupply b := by
  unfold totalSupply
  rw [same]

@[simp] theorem total_assets_emit (event : Event Address) :
    totalAssets cfg (c.emit event) = totalAssets cfg c := rfl

@[simp] theorem lien_of_emit (event : Event Address) :
    lienOf cfg (c.emit event) user = lienOf cfg c user := rfl

@[simp] theorem balance_of_accrue_lien : balanceOf (accrueLien cfg c) = balanceOf c :=
  balance_of_shares (by rw [accrue_lien_vault])

@[simp] theorem total_supply_accrue_lien : totalSupply (accrueLien cfg c) = totalSupply c :=
  total_supply_shares (by rw [accrue_lien_vault])

@[simp] theorem total_assets_accrue_lien :
    totalAssets cfg (accrueLien cfg c) = totalAssets cfg c := by
  simp only [totalAssets, accrue_lien_token]

variable [DecidableEq Address]

@[simp] theorem balance_of_settle : balanceOf (settleInternal cfg user c) = balanceOf c :=
  balance_of_shares (settle_shares cfg user c)

@[simp] theorem total_supply_settle : totalSupply (settleInternal cfg user c) = totalSupply c :=
  total_supply_shares (settle_shares cfg user c)

@[simp] theorem total_assets_settle :
    totalAssets cfg (settleInternal cfg user c) = totalAssets cfg c :=
  total_assets_of_lending cfg (settle_lending cfg user c)

@[simp] theorem lien_of_settle (other : Address) :
    lienOf cfg (settleInternal cfg user c) other = lienOf cfg c other :=
  lien_of_lending cfg (settle_lending cfg user c) other

theorem accrue_lien_settle :
    (accrueLien cfg (settleInternal cfg user c)).toLending = (accrueLien cfg c).toLending := by
  unfold accrueLien
  split
  · exact settle_lending cfg user c
  · rw [settle_lending]

theorem lien_of_accrue_settle (other : Address) :
    lienOf cfg (accrueLien cfg (settleInternal cfg user c)) other =
      lienOf cfg (accrueLien cfg c) other :=
  lien_of_lending cfg (accrue_lien_settle cfg user c) other

variable (shares totalShares : Nat)

omit [Zero Address] in
@[simp] theorem reduce_lending :
    (reducePositionProRata user shares totalShares c).toLending = c.toLending := rfl

omit [Zero Address] in
@[simp] theorem reduce_shares :
    (reducePositionProRata user shares totalShares c).vault.shares = c.vault.shares := rfl

omit [Zero Address] in
@[simp] theorem reduce_positions :
    (reducePositionProRata user shares totalShares c).vault.positions =
      Function.update c.vault.positions user
        ((c.vault.positions user).reduced shares totalShares) := rfl

end Views

/-! ## Shares -/

section Shares

variable [DecidableEq Address] {cfg : Config Address} {c after : Chain Address}
  {source target : Address} {value : Nat}

theorem mint_shares_ok_iff :
    mintShares cfg target value c = .ok after ↔
      target ≠ 0 ∧ after = (c.setShares
          { c.vault.shares.credited target value with
            totalSupply := c.vault.shares.totalSupply + value }).emit
        (.transfer 0 target value) := by
  simp only [mintShares, updateInternal, carryLedger, ne_eq, not_true_eq_false, false_and, if_false, ok_bind,
    bind_ok_iff, require_ok_iff, exists_const, Except.ok.injEq]
  constructor
  · rintro ⟨live, shares, minted, rfl⟩
    rw [Erc20.mint_ok_iff _ _ live] at minted
    subst minted
    exact ⟨live, rfl⟩
  · rintro ⟨live, rfl⟩
    exact ⟨live, _, (Erc20.mint_ok_iff _ _ live _).2 rfl, rfl⟩

theorem burn_shares_ok_iff :
    burnShares cfg source value c = .ok after ↔
      source ≠ 0 ∧ value ≤ balanceOf c source ∧ after = (c.setShares
          { c.vault.shares.debited source value with
            totalSupply := c.vault.shares.totalSupply - value }).emit
        (.transfer source 0 value) := by
  simp only [burnShares, updateInternal, carryLedger, ne_eq, not_true_eq_false, false_and, and_false, if_false,
    ok_bind, bind_ok_iff, require_ok_iff, exists_const, Except.ok.injEq]
  constructor
  · rintro ⟨live, shares, burnt, rfl⟩
    obtain ⟨held, rfl⟩ := (Erc20.burn_ok_iff _ _ live _).1 burnt
    exact ⟨live, held, rfl⟩
  · rintro ⟨live, held, rfl⟩
    exact ⟨live, _, (Erc20.burn_ok_iff _ _ live _).2 ⟨held, rfl⟩, rfl⟩

theorem spend_share_allowance_ok_iff {owner spender : Address} :
    spendShareAllowance owner spender value c = .ok after ↔
      (uint256Max ≤ c.vault.shares.allowance owner spender ∨
        value ≤ c.vault.shares.allowance owner spender ∧ owner ≠ 0 ∧ spender ≠ 0) ∧
      after = c.setShares { c.vault.shares with
        allowance := c.vault.shares.allowanceAfter owner spender value } := by
  simp only [spendShareAllowance, bind_ok_iff, Erc20.spend_allowance_ok_iff, Except.ok.injEq]
  constructor
  · rintro ⟨shares, ⟨allowed, rfl⟩, rfl⟩
    exact ⟨allowed, rfl⟩
  · rintro ⟨allowed, rfl⟩
    exact ⟨_, ⟨allowed, rfl⟩, rfl⟩

theorem authorize_ok {caller owner : Address} (ran : authorize caller owner value c = .ok after) :
    ∃ allowance, after = c.setShares { c.vault.shares with allowance := allowance } := by
  unfold authorize at ran
  split_ifs at ran
  · obtain ⟨_, rfl⟩ := spend_share_allowance_ok_iff.1 ran
    exact ⟨_, rfl⟩
  · cases ran
    exact ⟨c.vault.shares.allowance, rfl⟩

/-- A transfer that moves something: the sender has no lien, and what it sends
takes its proportion of the settled ledger along. -/
structure Carried (cfg : Config Address) (source target : Address) (value : Nat)
    (c after : Chain Address) : Prop where
  lien_free : lienOf cfg c source = 0
  at_source : after.vault.positions source =
    ((c.vault.positions source).settled cfg c.timestamp).reduced value (balanceOf c source)
  at_target : after.vault.positions target =
    ((c.vault.positions target).settled cfg c.timestamp).joined
      ((c.vault.positions source).settled cfg c.timestamp) value (balanceOf c source)
  elsewhere : ∀ other, other ≠ source → other ≠ target →
    after.vault.positions other = c.vault.positions other

def Idle (source target : Address) (value : Nat) : Prop := source = target ∨ value = 0

theorem transfer_internal_ok (ran : transferInternal cfg source target value c = .ok after) :
    source ≠ 0 ∧ target ≠ 0 ∧ value ≤ balanceOf c source ∧
      after.toLending = c.toLending ∧
      after.vault.shares = c.vault.shares.moved source target value ∧
      (Idle source target value ∧ after.vault.positions = c.vault.positions ∨
        ¬Idle source target value ∧ Carried cfg source target value c after) := by
  simp only [transferInternal, bind_ok_iff, require_ok_iff, exists_const] at ran
  obtain ⟨sourceLive, targetLive, ran⟩ := ran
  have unguarded : ∀ mid shares, Erc20.update mid source target value = .ok shares →
      value ≤ mid.balanceOf source ∧ shares = mid.moved source target value := by
    intro mid shares updated
    have whole : mid.move source target value = .ok shares := by
      simp only [Erc20.move, bind_ok_iff, require_ok_iff, exists_const]
      exact ⟨sourceLive, targetLive, updated⟩
    obtain ⟨_, _, funded, moved⟩ := (Erc20.move_ok_iff _ _ _ _ _).1 whole
    exact ⟨funded, moved⟩
  simp only [updateInternal, carryLedger, bind_ok_iff, Except.ok.injEq] at ran
  obtain ⟨mid, carried, shares, updated, rfl⟩ := ran
  split_ifs at carried with moves
  · obtain ⟨_, _, apart, something⟩ := moves
    simp only [moveLedger, bind_ok_iff, require_ok_iff, exists_const] at carried
    obtain ⟨lienFree, carried⟩ := carried
    have busy : ¬Idle source target value := by
      rintro (same | none)
      · exact apart same
      · exact something none
    split_ifs at carried with broke
    · cases carried
      obtain ⟨funded, _⟩ := unguarded _ _ updated
      simp only [settle_shares, balanceOf] at funded broke
      omega
    · cases carried
      obtain ⟨funded, rfl⟩ := unguarded _ _ updated
      refine ⟨sourceLive, targetLive, ?_, ?_, ?_, .inr ⟨busy, lienFree, ?_, ?_, ?_⟩⟩
      · simpa [balanceOf] using funded
      · simp
      · simp
      · simp [balanceOf, apart, Ne.symm apart]
      · simp [balanceOf, apart, Ne.symm apart]
      · intro other notSource notTarget
        simp [notSource, notTarget]
  · cases carried
    obtain ⟨funded, rfl⟩ := unguarded _ _ updated
    have idle : Idle source target value := by
      by_contra busy
      exact moves ⟨sourceLive, targetLive, fun same => busy (.inl same),
        fun none => busy (.inr none)⟩
    exact ⟨sourceLive, targetLive, funded, rfl, rfl, .inl ⟨idle, rfl⟩⟩

end Shares

/-! ## Repayments -/

section Repayment

variable [DecidableEq Address] {cfg : Config Address} {pool : Pool.Config Address}
  {c after : Chain Address} {user : Address} {amount : Nat}

/-- The asset after the vault has approved the pool for `amount` and the pool
has pulled it. -/
def repaidToken (cfg : Config Address) (pool : Pool.Config Address) (amount : Nat)
    (token : Erc20 Address) : Erc20 Address :=
  let approved : Erc20 Address :=
    { token with
      allowance := Function.update token.allowance cfg.address
        (Function.update (token.allowance cfg.address) pool.address amount) }
  { approved.moved cfg.address pool.address amount with
    allowance := approved.allowanceAfter cfg.address pool.address amount }

/-- The pool after a repayment, once it is up to date. -/
def repaidPool (cfg : Config Address) (user : Address) (amount : Nat)
    (pool : Pool.State Address) : Pool.State Address :=
  (pool.debitDebt user (Pool.repaidScaled pool amount user)).emit
    (.repaid cfg.address user amount (Pool.repaidScaled pool amount user))

theorem repay_lien_ok_iff (live : pool.address ≠ 0) (current : Pool.elapsed c.toLending = 0) :
    repayLien cfg pool amount user c = .ok after ↔
      amount ≠ 0 ∧ amount ≤ Pool.balanceOfDebt c.pool user ∧ c.pool.borrowIndex ≠ 0 ∧
      Pool.repaidScaled c.pool amount user ≤ c.pool.totalBorrowScaled ∧
      amount ≤ totalAssets cfg c ∧
      after = { c with
        token := repaidToken cfg pool amount c.token
        pool := repaidPool cfg user amount c.pool } := by
  have vaultLive := cfg.address_ne_zero
  have stays : ∀ token, Pool.accrue pool { c.toLending with token := token } =
      { c.toLending with token := token } := fun token =>
    Pool.accrue_of_no_time pool _ current
  simp only [repayLien, bind_ok_iff, Chain.pay_ok_iff, Chain.lend_ok_iff, Erc20.approve,
    require_ok_iff, exists_const, Except.ok.injEq, Pool.repay_ok_iff,
    Erc20.transfer_from_ok_iff]
  constructor
  · rintro ⟨_, ⟨_, ⟨_, _, rfl⟩, rfl⟩, _, ⟨some, owed, indexLive, fits, _,
      ⟨_, _, _, funded, rfl⟩, rfl⟩, rfl⟩
    simp only [stays] at owed indexLive fits ⊢
    exact ⟨some, owed, indexLive, fits, funded, rfl⟩
  · rintro ⟨some, owed, indexLive, fits, funded, rfl⟩
    refine ⟨_, ⟨_, ⟨vaultLive, live, rfl⟩, rfl⟩, _, ⟨some, ?_, ?_, ?_, _,
      ⟨.inr ⟨?_, vaultLive, live⟩, vaultLive, live, funded, rfl⟩, rfl⟩, ?_⟩
    all_goals simp only [stays]
    · exact owed
    · exact indexLive
    · exact fits
    · simp
    · rfl

end Repayment

/-! ## The two exits -/

section Exit

variable [DecidableEq Address] {cfg : Config Address} {c : Chain Address}
  {caller receiver owner : Address} {assets shares : Nat}

theorem withdraw_internal_of_free (free : lienOf cfg c owner = 0) :
    withdrawInternal cfg caller receiver owner assets shares c =
      withdrawFree cfg caller receiver owner assets shares (balanceOf c owner)
        (settleInternal cfg owner c) := by
  simp only [withdrawInternal, lien_of_settle, free, balance_of_settle, ne_eq,
    not_true_eq_false, if_false, if_true]
  split <;> rfl

theorem withdraw_internal_of_lien {pool : Pool.Config Address}
    (source : cfg.lienSource = some pool) (lien : lienOf cfg c owner ≠ 0) :
    withdrawInternal cfg caller receiver owner assets shares c =
      exitWithLien cfg pool caller receiver owner assets shares (balanceOf c owner)
        (lienOf cfg (accrueLien cfg (settleInternal cfg owner c)) owner)
        (accrueLien cfg (settleInternal cfg owner c)) := by
  have accrued : lienOf cfg (accrueLien cfg (settleInternal cfg owner c)) owner ≠ 0 := by
    have grows := lien_le_accrue_lien cfg owner (settleInternal cfg owner c)
    rw [lien_of_settle] at grows
    omega
  simp only [withdrawInternal, source, lien_of_settle, if_pos lien, if_neg accrued,
    balance_of_settle]

omit [DecidableEq Address] in
/-- There is a creditor behind every lien. -/
theorem source_of_lien {user : Address} (lien : lienOf cfg c user ≠ 0) :
    ∃ pool, cfg.lienSource = some pool := by
  cases source : cfg.lienSource with
  | none => simp [lienOf, source] at lien
  | some pool => exact ⟨pool, rfl⟩

end Exit

end Vault

end Ghoststake
