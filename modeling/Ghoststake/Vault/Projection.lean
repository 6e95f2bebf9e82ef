import Ghoststake.Vault.Steps

/-!
# Histories of the vault and its pool

The machine of the two contracts beside each other, and its projection: seen
from the pool, every history of the pair is a history of the pool, the vault
being one more caller.
-/

namespace Ghoststake

set_option autoImplicit false

open Checked Rounding

namespace Vault

variable {Address : Type} [DecidableEq Address] [Zero Address]

/-- One thing that happens to a deployed vault: a call on it, a call on its
pool or on the asset, or the passage of time. -/
inductive Action (Address : Type) where
  | vault (sender : Address) (call : Call Address)
  | pool (sender : Address) (call : Pool.Call Address)
  | asset (sender : Address) (call : Erc20.Call Address)
  | wait (seconds : Nat)

def Action.duration : Action Address → Nat
  | .wait seconds => seconds
  | .vault _ _ | .pool _ _ | .asset _ _ => 0

/-- A call on the creditor from outside. -/
def execPool (cfg : Config Address) (sender : Address) (call : Pool.Call Address)
    (c : Chain Address) : Outcome Address (Chain Address) := do
  let pool ← creditor cfg
  c.lend fun lending => Pool.exec pool sender lending call

def act (cfg : Config Address) (c : Chain Address) :
    Action Address → Outcome Address (Chain Address)
  | .vault sender call => exec cfg sender c call
  | .pool sender call => execPool cfg sender call c
  | .asset sender call => c.pay fun token => token.exec sender call
  | .wait seconds => .ok { c with timestamp := c.timestamp + seconds }

def Outsider (cfg : Config Address) (sender : Address) : Prop :=
  sender ≠ cfg.address ∧ ∀ pool ∈ cfg.lienSource, sender ≠ pool.address

/-- The contracts call each other only from inside a call on the vault. -/
def Action.External (cfg : Config Address) : Action Address → Prop
  | .vault sender _ | .pool sender _ | .asset sender _ => Outsider cfg sender
  | .wait _ => True

/-- A vault fresh from its constructor, over a pool with any history that has
not wired a borrow module yet, on an asset the vault has approved nobody for. -/
structure Deployed (cfg : Config Address) (c : Chain Address) : Prop where
  pool_history : ∀ pool ∈ cfg.lienSource, (Pool.machine pool).Reachable c.toLending
  unwired : c.pool.borrowModule = 0
  unapproved : ∀ spender, c.token.allowance cfg.address spender = 0
  fresh : ∃ guardian, c.vault = deployed guardian

def machine (cfg : Config Address) : Machine (Chain Address) (Action Address) where
  initial := Deployed cfg
  step c action after := action.External cfg ∧ act cfg c action = .ok after

/-- Whose debt a call can add to. -/
def Call.debtor (sender : Address) : Call Address → Address → Prop
  | .borrow _ => (· = sender)
  | .borrowFor onBehalfOf _ => (· = onBehalfOf)
  | .deposit _ _ | .mint _ _ | .withdraw _ _ _ | .redeem _ _ _ | .approveBorrowDelegate _ _
  | .repay _ _ | .liquidate _ _ | .writeOffBadDebt _ | .settle _ | .transfer _ _
  | .transferFrom _ _ _ | .approve _ _ | .guard _ => fun _ => False

/-- What a call on the vault can do to the asset and the pool: nothing but
actions the vault could take as an ordinary caller of both, no allowance to
anyone but the pool, and no new debt but that of the call's `debtor`. -/
structure Reaches (cfg : Config Address) (debtor : Address → Prop) (c after : Chain Address) :
    Prop where
  path : ∀ pool ∈ cfg.lienSource, (Pool.machine pool).Path c.toLending after.toLending
  row : ∀ spender, (∀ pool ∈ cfg.lienSource, spender ≠ pool.address) →
    after.token.allowance cfg.address spender = c.token.allowance cfg.address spender
  time : after.timestamp = c.timestamp
  debts : ∀ user, ¬debtor user → after.pool.scaledDebt user ≤ c.pool.scaledDebt user
  wiring : after.pool.borrowModule = c.pool.borrowModule

section Reaches

variable {cfg : Config Address} {debtor : Address → Prop} {c mid after : Chain Address}

theorem Reaches.trans (left : Reaches cfg debtor c mid) (right : Reaches cfg debtor mid after) :
    Reaches cfg debtor c after where
  path pool source := (left.path pool source).trans (right.path pool source)
  row spender outside := (right.row spender outside).trans (left.row spender outside)
  time := right.time.trans left.time
  debts user spared := (right.debts user spared).trans (left.debts user spared)
  wiring := right.wiring.trans left.wiring

theorem Reaches.of_lending (same : after.toLending = c.toLending) :
    Reaches cfg debtor c after where
  path pool _ := by
    rw [same]
    exact Machine.Path.refl _
  row _ _ := by rw [same]
  time := by rw [same]
  debts _ _ := by rw [same]
  wiring := by rw [same]

theorem Reaches.asset (call : Erc20.Call Address) {token : Erc20 Address}
    (called : c.token.exec cfg.address call = .ok token)
    (row : ∀ spender, (∀ pool ∈ cfg.lienSource, spender ≠ pool.address) →
      token.allowance cfg.address spender = c.token.allowance cfg.address spender) :
    Reaches cfg debtor c { c with token := token } where
  path pool source := by
    refine Machine.Path.single (.asset cfg.address call)
      ⟨(cfg.pool_live pool source).2.symm, ?_⟩
    simp only [Pool.act, called, ok_bind]
  row := row
  time := rfl
  debts _ _ := Nat.le_refl _
  wiring := rfl

theorem Reaches.pool {pool : Pool.Config Address} (source : cfg.lienSource = some pool)
    (call : Pool.Call Address) {lending : Lending Address}
    (called : Pool.exec pool cfg.address c.toLending call = .ok lending)
    (row : ∀ spender, spender ≠ pool.address → lending.token.allowance cfg.address spender =
      c.token.allowance cfg.address spender)
    (unset : ∀ target, call ≠ .setBorrowModule target)
    (borrows : ∀ amount user, call = .borrow amount user → debtor user) :
    Reaches cfg debtor c { c with toLending := lending } where
  path other member := by
    obtain rfl : pool = other := Option.some.inj (source.symm.trans member)
    exact Machine.Path.single (.call cfg.address call)
      ⟨(cfg.pool_live pool source).2.symm, called⟩
  row spender outside := row spender (outside pool source)
  time := Pool.exec_timestamp called
  debts user spared := by
    apply Pool.exec_debt_le _ called
    intro amount borrowed
    exact spared (borrows amount user borrowed)
  wiring := Pool.exec_borrow_module unset called

theorem Reaches.move {receiver : Address} {amount : Nat} {token : Erc20 Address}
    (moved : c.token.move cfg.address receiver amount = .ok token) :
    Reaches cfg debtor c { c with token := token } := by
  refine .asset (.transfer receiver amount) moved fun spender _ => ?_
  obtain ⟨_, _, _, rfl⟩ := (Erc20.move_ok_iff _ _ _ _ _).1 moved
  rfl

theorem Reaches.transfer_from {payer receiver : Address} {amount : Nat}
    {token : Erc20 Address} (outsider : payer ≠ cfg.address)
    (moved : c.token.transferFrom cfg.address payer receiver amount = .ok token) :
    Reaches cfg debtor c { c with token := token } := by
  refine .asset (.transferFrom payer receiver amount) moved fun spender _ => ?_
  obtain ⟨_, _, _, _, rfl⟩ := (Erc20.transfer_from_ok_iff _ _ _ _ _ _).1 moved
  exact congrFun (Erc20.allowance_after_other _ _ outsider.symm) spender

theorem Reaches.accrue_lien : Reaches cfg debtor c (accrueLien cfg c) := by
  cases source : cfg.lienSource with
  | none =>
      refine .of_lending ?_
      simp [accrueLien, source]
  | some pool =>
      have called : Pool.exec pool cfg.address c.toLending .accrue =
          .ok (Pool.accrue pool c.toLending) := rfl
      rw [show accrueLien cfg c = { c with toLending := Pool.accrue pool c.toLending } by
        simp only [accrueLien, source]]
      apply Reaches.pool source .accrue called
      · intro spender _
        rw [Pool.accrue_token]
      · nofun
      · nofun

theorem Reaches.repay_lien {pool : Pool.Config Address} (source : cfg.lienSource = some pool)
    {user : Address} {amount : Nat} (ran : repayLien cfg pool amount user c = .ok after) :
    Reaches cfg debtor c after := by
  simp only [repayLien, bind_ok_iff, Chain.pay_ok_iff, Chain.lend_ok_iff] at ran
  obtain ⟨_, ⟨token, approved, rfl⟩, lending, repaid, rfl⟩ := ran
  have approves : Reaches cfg debtor c { c with token := token } := by
    apply Reaches.asset (.approve pool.address amount) approved
    intro spender outside
    simp only [Erc20.approve, bind_ok_iff, require_ok_iff, exists_const,
      Except.ok.injEq] at approved
    obtain ⟨_, _, rfl⟩ := approved
    simp [outside pool source]
  have repays : Reaches cfg debtor { c with token := token } { c with toLending := lending } := by
    apply Reaches.pool source (.repay amount user) repaid
    · intro spender notPool
      obtain ⟨_, _, _, _, _, pulled, rfl⟩ := Pool.repay_ok_iff.1 repaid
      obtain ⟨_, _, _, _, rfl⟩ := (Erc20.transfer_from_ok_iff _ _ _ _ _ _).1 pulled
      exact Erc20.allowance_after_other_spender _ _ _ _ notPool
    · intro target same
      cases same
    · intro amount user same
      cases same
  exact approves.trans repays

end Reaches

/-! ## Every entry point -/

section Calls

variable {cfg : Config Address} {debtor : Address → Prop} {c after : Chain Address}
  {sender user : Address} {assets shares amount : Nat}

theorem lending_of_mint {target : Address} (ran : mintShares cfg target shares c = .ok after) :
    after.toLending = c.toLending := by
  obtain ⟨_, rfl⟩ := mint_shares_ok_iff.1 ran
  rfl

theorem lending_of_burn (ran : burnShares cfg user shares c = .ok after) :
    after.toLending = c.toLending := by
  obtain ⟨_, _, rfl⟩ := burn_shares_ok_iff.1 ran
  rfl

theorem lending_of_authorize {owner : Address}
    (ran : authorize sender owner shares c = .ok after) : after.toLending = c.toLending := by
  obtain ⟨_, rfl⟩ := authorize_ok ran
  rfl

theorem lending_of_burn_collateral (ran : burnCollateral cfg user amount c = .ok after) :
    after.toLending = c.toLending := by
  simp only [burnCollateral, bind_ok_iff, Except.ok.injEq] at ran
  obtain ⟨mid, burnt, rfl⟩ := ran
  exact (lending_of_burn burnt : mid.toLending = c.toLending)

theorem reaches_deposit_internal {receiver : Address} (outsider : sender ≠ cfg.address)
    (ran : depositInternal cfg sender receiver assets shares c = .ok after) :
    Reaches cfg debtor c after := by
  simp only [depositInternal, bind_ok_iff, Chain.pay_ok_iff, Except.ok.injEq] at ran
  obtain ⟨_, _, _, ⟨token, pulled, rfl⟩, minted, mints, rfl⟩ := ran
  rw [settle_lending] at pulled
  exact (Reaches.transfer_from outsider pulled).trans (.of_lending (by
    simp [lending_of_mint mints]))

theorem reaches_withdraw_free {receiver owner : Address} {sharesBefore : Nat}
    (ran : withdrawFree cfg sender receiver owner assets shares sharesBefore c = .ok after) :
    Reaches cfg debtor c after := by
  simp only [withdrawFree, bind_ok_iff, Chain.pay_ok_iff, Except.ok.injEq] at ran
  obtain ⟨authorized, authorizes, burnt, burns, _, ⟨token, pushed, rfl⟩, rfl⟩ := ran
  have same : burnt.toLending = c.toLending :=
    (lending_of_burn burns).trans (lending_of_authorize authorizes)
  exact (Reaches.of_lending same).trans ((Reaches.move pushed).trans (.of_lending rfl))

theorem reaches_pay_returned {receiver : Address}
    (ran : payReturned cfg receiver amount c = .ok after) : Reaches cfg debtor c after := by
  unfold payReturned at ran
  split_ifs at ran
  · obtain ⟨token, pushed, rfl⟩ := Chain.pay_ok_iff.1 ran
    exact Reaches.move pushed
  · cases ran
    exact .of_lending rfl

theorem reaches_exit_with_lien {pool : Pool.Config Address} {receiver owner : Address}
    {sharesBefore lien : Nat} (source : cfg.lienSource = some pool)
    (ran : exitWithLien cfg pool sender receiver owner assets shares sharesBefore lien c =
      .ok after) : Reaches cfg debtor c after := by
  simp only [exitWithLien, bind_ok_iff, require_ok_iff, exists_const, Except.ok.injEq] at ran
  obtain ⟨_, _, authorized, authorizes, burnt, burns, repaid, repays, paid, pays, rfl⟩ := ran
  have same : (reducePositionProRata owner shares sharesBefore burnt).toLending =
      c.toLending := (lending_of_burn burns).trans (lending_of_authorize authorizes)
  exact (Reaches.of_lending same).trans ((Reaches.repay_lien source repays).trans
    ((reaches_pay_returned pays).trans (.of_lending rfl)))

theorem reaches_withdraw_internal {receiver owner : Address}
    (ran : withdrawInternal cfg sender receiver owner assets shares c = .ok after) :
    Reaches cfg debtor c after := by
  have settled : Reaches cfg debtor c (settleInternal cfg owner c) :=
    .of_lending (settle_lending cfg owner c)
  by_cases free : lienOf cfg c owner = 0
  · rw [withdraw_internal_of_free free] at ran
    exact settled.trans (reaches_withdraw_free ran)
  · obtain ⟨pool, source⟩ := source_of_lien free
    rw [withdraw_internal_of_lien source free] at ran
    exact settled.trans (Reaches.accrue_lien.trans (reaches_exit_with_lien source ran))

omit [DecidableEq Address] in
theorem creditor_ok_iff {pool : Pool.Config Address} :
    creditor cfg = .ok pool ↔ cfg.lienSource = some pool := by
  unfold creditor
  cases cfg.lienSource <;> simp

theorem reaches_borrow_internal {recipient : Address}
    (ran : borrowInternal cfg user amount recipient c = .ok after) :
    Reaches cfg (· = user) c after := by
  simp only [borrowInternal, bind_ok_iff, require_ok_iff, exists_const, Chain.pay_ok_iff,
    Chain.lend_ok_iff, creditor_ok_iff, Except.ok.injEq] at ran
  obtain ⟨pool, source, _, _, _, ⟨lending, borrowed, rfl⟩, _, ⟨token, pushed, rfl⟩, rfl⟩ := ran
  have settled : Reaches cfg (· = user) c (settleInternal cfg user c) :=
    .of_lending (settle_lending cfg user c)
  have borrows : Reaches cfg (· = user) (accrueLien cfg (settleInternal cfg user c))
      { accrueLien cfg (settleInternal cfg user c) with toLending := lending } := by
    apply Reaches.pool source (.borrow amount user) borrowed
    · intro spender _
      obtain ⟨_, _, _, _, _, _, drawn, rfl⟩ := Pool.borrow_ok_iff.1 borrowed
      obtain ⟨_, _, _, rfl⟩ := (Erc20.move_ok_iff _ _ _ _ _).1 drawn
      rfl
    · intro target same
      cases same
    · intro amount user same
      cases same
      rfl
  exact settled.trans (Reaches.accrue_lien.trans (borrows.trans ((Reaches.move pushed).trans
    (.of_lending rfl))))

theorem reaches_pull_and_repay {pool : Pool.Config Address}
    (source : cfg.lienSource = some pool) (outsider : sender ≠ cfg.address)
    (ran : pullAndRepay cfg pool sender user amount c = .ok after) : Reaches cfg debtor c after := by
  simp only [pullAndRepay, bind_ok_iff, Chain.pay_ok_iff] at ran
  obtain ⟨_, ⟨token, pulled, rfl⟩, repays⟩ := ran
  exact (Reaches.transfer_from outsider pulled).trans (Reaches.repay_lien source repays)

theorem reaches_seize_collateral {recipient : Address}
    (ran : seizeCollateral cfg user recipient amount c = .ok after) : Reaches cfg debtor c after := by
  simp only [seizeCollateral, bind_ok_iff, Chain.pay_ok_iff] at ran
  obtain ⟨burnt, burns, token, pushed, rfl⟩ := ran
  exact (Reaches.of_lending (lending_of_burn_collateral burns)).trans (Reaches.move pushed)

theorem reaches_recover {pool : Pool.Config Address} (source : cfg.lienSource = some pool)
    (ran : recover cfg pool user amount c = .ok after) : Reaches cfg debtor c after := by
  unfold recover at ran
  split_ifs at ran
  · obtain ⟨burnt, burns, repays⟩ := (bind_ok_iff _ _ _).1 ran
    exact (Reaches.of_lending (lending_of_burn_collateral burns)).trans
      (Reaches.repay_lien source repays)
  · cases ran
    exact .of_lending rfl

theorem exec_reaches {call : Call Address} (outsider : sender ≠ cfg.address)
    (ran : exec cfg sender c call = .ok after) :
    Reaches cfg (call.debtor sender) c after := by
  cases call with
  | deposit assets receiver => exact reaches_deposit_internal outsider ran
  | mint shares receiver => exact reaches_deposit_internal outsider ran
  | withdraw assets receiver owner =>
      simp only [exec, withdraw, bind_ok_iff, require_ok_iff, exists_const] at ran
      exact reaches_withdraw_internal ran.2
  | redeem shares receiver owner =>
      simp only [exec, redeem, bind_ok_iff, require_ok_iff, exists_const] at ran
      exact reaches_withdraw_internal ran.2
  | borrow amount =>
      simp only [exec, borrow, bind_ok_iff] at ran
      obtain ⟨_, _, ran⟩ := ran
      exact reaches_borrow_internal ran
  | borrowFor onBehalfOf amount =>
      simp only [exec, borrowFor, bind_ok_iff, require_ok_iff, exists_const] at ran
      obtain ⟨_, _, _, ran⟩ := ran
      exact (Reaches.of_lending (by
        simp only [spendBorrowAllowance]
        split_ifs <;> rfl)).trans (reaches_borrow_internal ran)
  | approveBorrowDelegate delegate amount =>
      simp only [exec, approveBorrowDelegate, bind_ok_iff, require_ok_iff, exists_const,
        Except.ok.injEq] at ran
      obtain ⟨_, rfl⟩ := ran
      exact .of_lending rfl
  | repay amount onBehalfOf =>
      simp only [exec, repay, bind_ok_iff, require_ok_iff, exists_const, creditor_ok_iff,
        Except.ok.injEq] at ran
      obtain ⟨pool, source, _, _, repaid, repays, rfl⟩ := ran
      exact Reaches.accrue_lien.trans ((reaches_pull_and_repay source outsider repays).trans
        (.of_lending rfl))
  | liquidate user repayAmount =>
      simp only [exec, liquidate, bind_ok_iff, require_ok_iff, exists_const, creditor_ok_iff,
        Except.ok.injEq] at ran
      obtain ⟨pool, source, _, _, _, repaid, repays, seized, seizes, rfl⟩ := ran
      have settled : Reaches cfg (fun _ => False) c (settleInternal cfg user c) :=
        .of_lending (settle_lending cfg user c)
      exact settled.trans (Reaches.accrue_lien.trans
        ((reaches_pull_and_repay source outsider repays).trans
          ((reaches_seize_collateral seizes).trans (.of_lending rfl))))
  | writeOffBadDebt user =>
      simp only [exec, writeOffBadDebt, bind_ok_iff, require_ok_iff, exists_const,
        creditor_ok_iff, Except.ok.injEq, Prod.exists] at ran
      obtain ⟨pool, source, _, recovered, recovers, loss, lending, absorbs, rfl⟩ := ran
      have settled : Reaches cfg (fun _ => False) c (settleInternal cfg user c) :=
        .of_lending (settle_lending cfg user c)
      have absorbed : Pool.exec pool cfg.address recovered.toLending (.absorbBadDebt user) =
          .ok lending := (map_ok_iff _ _ _).2 ⟨_, absorbs, rfl⟩
      have absorbs : Reaches cfg (fun _ => False) recovered
          { recovered with toLending := lending } := by
        apply Reaches.pool source (.absorbBadDebt user) absorbed
        · intro spender _
          obtain ⟨_, _, _, rfl⟩ := Pool.exec_absorb_ok_iff.1 absorbed
          rfl
        · intro target same
          cases same
        · intro amount user same
          cases same
      exact settled.trans (Reaches.accrue_lien.trans ((reaches_recover source recovers).trans
        (absorbs.trans (.of_lending rfl))))
  | settle user =>
      cases ran
      exact .of_lending (settle_lending cfg user c)
  | transfer target value =>
      exact .of_lending (transfer_internal_ok ran).2.2.2.1
  | transferFrom source target value =>
      simp only [exec, transferFrom, bind_ok_iff, spend_share_allowance_ok_iff] at ran
      obtain ⟨_, ⟨_, rfl⟩, moved⟩ := ran
      exact .of_lending (transfer_internal_ok moved).2.2.2.1
  | approve spender value =>
      simp only [exec, approve, bind_ok_iff, Except.ok.injEq] at ran
      obtain ⟨_, _, rfl⟩ := ran
      exact .of_lending rfl
  | guard call =>
      simp only [exec, guard, bind_ok_iff, Except.ok.injEq] at ran
      obtain ⟨_, _, rfl⟩ := ran
      exact .of_lending rfl

end Calls

/-! ## Runs -/

section Runs

variable {cfg : Config Address} {c : Chain Address}

theorem pool_reachable (reached : (machine cfg).Reachable c) :
    ∀ pool ∈ cfg.lienSource, (Pool.machine pool).Reachable c.toLending := by
  refine reached.invariant (fun c => ∀ pool ∈ cfg.lienSource,
    (Pool.machine pool).Reachable c.toLending) ?_ ?_
  · exact fun _ start => start.pool_history
  · rintro state action next _ before ⟨external, ran⟩ pool source
    cases action with
    | vault sender call =>
        exact (before pool source).path ((exec_reaches external.1 ran).path pool source)
    | pool sender call =>
        simp only [act, execPool, bind_ok_iff, creditor_ok_iff, Chain.lend_ok_iff] at ran
        obtain ⟨other, same, lending, called, rfl⟩ := ran
        obtain rfl : other = pool := Option.some.inj (same.symm.trans source)
        have taken : (Pool.machine other).step state.toLending (.call sender call) lending :=
          ⟨external.2 other source, called⟩
        exact .step (before other source) taken
    | asset sender call =>
        simp only [act, Chain.pay_ok_iff] at ran
        obtain ⟨token, called, rfl⟩ := ran
        have taken : (Pool.machine pool).step state.toLending (.asset sender call)
            { state.toLending with token := token } := by
          refine ⟨external.2 pool source, ?_⟩
          simp only [Pool.act, called, ok_bind]
        exact .step (before pool source) taken
    | wait seconds =>
        cases ran
        have taken : (Pool.machine pool).step state.toLending (.wait seconds)
            { state.toLending with timestamp := state.timestamp + seconds } := ⟨trivial, rfl⟩
        exact .step (before pool source) taken

theorem timestamp_of_step {action : Action Address} {after : Chain Address}
    (taken : (machine cfg).step c action after) :
    after.timestamp = c.timestamp + action.duration := by
  obtain ⟨external, ran⟩ := taken
  cases action with
  | vault sender call => exact (exec_reaches external.1 ran).time
  | pool sender call =>
      simp only [act, execPool, bind_ok_iff, Chain.lend_ok_iff] at ran
      obtain ⟨_, _, _, called, rfl⟩ := ran
      exact Pool.exec_timestamp called
  | asset sender call =>
      simp only [act, Chain.pay_ok_iff] at ran
      obtain ⟨_, _, rfl⟩ := ran
      rfl
  | wait seconds =>
      cases ran
      rfl

end Runs

instance (cfg : Config Address) (sender : Address) : Decidable (Outsider cfg sender) :=
  inferInstanceAs (Decidable (_ ∧ ∀ pool ∈ cfg.lienSource, _))

instance (cfg : Config Address) (action : Action Address) : Decidable (action.External cfg) :=
  match action with
  | .vault sender _ | .pool sender _ | .asset sender _ =>
      inferInstanceAs (Decidable (Outsider cfg sender))
  | .wait _ => isTrue trivial

/-! ## A small vault

The vault is five, over the small pool; it pays the highest yield there is. -/

section Sample

def smallVault (rate : Nat) : Config (Fin 8) where
  address := 5
  lienSource := some (Pool.flatCurve rate)
  yieldRatePerSecond := maxYieldRatePerSecond
  maxLTV := 5 * 10 ^ 17
  liquidationThreshold := 8 * 10 ^ 17
  liquidationBonus := 5 * 10 ^ 16
  closeFactor := 5 * 10 ^ 17
  max_ltv_lt_threshold := by decide
  threshold_lt_wad := by
    unfold WAD
    decide
  close_factor_ne_zero := Figures.half_ne_zero
  close_factor_le_wad := by
    unfold WAD
    decide
  bonus_lt_wad := Figures.bonus_lt_wad
  yield_rate_le := Nat.le_refl _
  address_ne_zero := by decide
  pool_live := by
    intro pool source
    cases source
    have live : (7 : Fin 8) ≠ 0 ∧ (7 : Fin 8) ≠ 5 := by decide
    exact live

def freshVault : Chain (Fin 8) where
  toLending := Pool.fresh
  vault := deployed 6

theorem fresh_vault_deployed (rate : Nat) : Deployed (smallVault rate) freshVault where
  pool_history := by
    intro pool source
    cases source
    exact .initial (Pool.fresh_deployed rfl)
  unwired := rfl
  unapproved spender := by
    have contract : ¬(1 ≤ (5 : Fin 8) ∧ (5 : Fin 8) ≤ 4 ∧ (spender = 5 ∨ spender = 7)) := by
      simp
    exact if_neg (t := uint256Max) contract
  fresh := ⟨6, rfl⟩

/-- A replay from `freshVault` through steps that a guard admits, read at its end. -/
theorem reachable_of_replay (rate : Nat)
    (admits : Chain (Fin 8) → Action (Fin 8) → Prop) [∀ c action, Decidable (admits c action)]
    (run : List (Action (Fin 8))) (check : Chain (Fin 8) → Bool)
    (outside : ∀ action ∈ run, action.External (smallVault rate))
    (ran : passes (Machine.replay (Machine.guarded admits .external (act (smallVault rate)))
      freshVault run) check = true) :
    ∃ c, ((machine (smallVault rate)).restrict admits).Reachable c ∧ check c = true := by
  obtain ⟨c, replayed, checked⟩ := exists_of_passes _ ran
  have start : ((machine (smallVault rate)).restrict admits).Reachable freshVault :=
    .initial (fresh_vault_deployed rate)
  refine ⟨c, start.replay ?_ replayed, checked⟩
  intro action member before after taken
  obtain ⟨acted, admitted⟩ := Machine.guarded_ok taken
  exact ⟨⟨outside action member, acted⟩, admitted⟩

def borrowingRun : List (Action (Fin 8)) :=
  [.pool 6 (.setBorrowModule 5), .pool 1 (.supply (10 ^ 12)), .vault 2 (.deposit (10 ^ 9) 2),
    .vault 3 (.deposit (10 ^ 9) 3), .wait 1000, .vault 2 (.borrow (10 ^ 8)), .wait 1000]

end Sample

end Vault

end Ghoststake
