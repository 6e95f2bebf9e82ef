import Ghoststake.Pool.Totals
import Ghoststake.Stock.Model

/-!
# What one call on the stock vault can do

Each statement of a call with the effect it has: what the vault's holding of a
token gains on the collateral recorded in it, and what the statement leaves
alone. The effect of a call is the sum of those of its statements.
-/

namespace Ghoststake

set_option autoImplicit false

open Checked Rounding

namespace Brokerage

variable {Address : Type} [DecidableEq Address] {b after : Brokerage Address}

theorem pay_ok_iff {token : Address} {call : Erc20 Address → Outcome Address (Erc20 Address)} :
    b.pay token call = .ok after ↔
      ∃ state, call (b.tokens token) = .ok state ∧ after = b.setToken token state := by
  simp only [pay, bind_ok_iff, Except.ok.injEq, eq_comm (b := after)]

theorem lend_ok_iff {stable : Address}
    {call : Lending Address → Outcome Address (Lending Address)} :
    b.lend stable call = .ok after ↔
      ∃ l, call (b.lending stable) = .ok l ∧ after = b.setLending stable l := by
  simp only [lend, bind_ok_iff, Except.ok.injEq, eq_comm (b := after)]

@[simp] theorem set_token_self (b : Brokerage Address) (token : Address)
    (state : Erc20 Address) : (b.setToken token state).tokens token = state := by
  simp [setToken]

@[simp] theorem set_token_other (b : Brokerage Address) {token other : Address}
    (state : Erc20 Address) (distinct : other ≠ token) :
    (b.setToken token state).tokens other = b.tokens other := by
  simp [setToken, distinct]

@[simp] theorem set_token_stock (b : Brokerage Address) (token : Address)
    (state : Erc20 Address) : (b.setToken token state).stock = b.stock := rfl

@[simp] theorem set_lending_stock (b : Brokerage Address) (stable : Address)
    (l : Lending Address) : (b.setLending stable l).stock = b.stock := rfl

@[simp] theorem set_lending_pool (b : Brokerage Address) (stable : Address)
    (l : Lending Address) : (b.setLending stable l).pool = l.pool := rfl

@[simp] theorem set_lending_tokens (b : Brokerage Address) (stable : Address)
    (l : Lending Address) :
    (b.setLending stable l).tokens = Function.update b.tokens stable l.token := rfl

@[simp] theorem set_lending_lending (b : Brokerage Address) (stable : Address)
    (l : Lending Address) : (b.setLending stable l).lending stable = l := by
  simp [setLending, lending]

@[simp] theorem set_collateral_tokens (b : Brokerage Address) (user token : Address)
    (amount : Nat) : (b.setCollateral user token amount).tokens = b.tokens := rfl

@[simp] theorem set_collateral_lending (b : Brokerage Address) (user token stable : Address)
    (amount : Nat) : (b.setCollateral user token amount).lending stable = b.lending stable := rfl

theorem set_collateral_other (b : Brokerage Address) {user other : Address}
    (token : Address) (amount : Nat) (distinct : other ≠ user) :
    (b.setCollateral user token amount).stock.collateralOf other =
      b.stock.collateralOf other := by
  simp [setCollateral, distinct]

/-- The block once `user` has put up `amount` of `token`, whose state is then `state`. -/
def deposited (b : Brokerage Address) (user token : Address)
    (amount : Nat) (state : Erc20 Address) : Brokerage Address :=
  ((b.setCollateral user token (b.stock.collateralOf user token + amount)).setToken token
    state).emit (.collateralDeposited user token amount)

end Brokerage

namespace Stock

variable {Address : Type} [DecidableEq Address] [Zero Address] {cfg : Config Address}

/-! ## The pool at the block -/

@[simp] theorem accrue_pool_stock (cfg : Config Address) (b : Brokerage Address) :
    (accruePool cfg b).stock = b.stock := rfl

@[simp] theorem accrue_pool_tokens (cfg : Config Address) (b : Brokerage Address) :
    (accruePool cfg b).tokens = b.tokens := by
  simp [accruePool, Brokerage.lending]

@[simp] theorem accrue_pool_timestamp (cfg : Config Address) (b : Brokerage Address) :
    (accruePool cfg b).timestamp = b.timestamp := Pool.accrue_timestamp _ _

@[simp] theorem accrue_pool_lending (cfg : Config Address) (b : Brokerage Address) :
    (accruePool cfg b).lending cfg.stable = Pool.accrue cfg.pool (b.lending cfg.stable) :=
  Brokerage.set_lending_lending _ _ _

/-- The pool has nothing left to accrue in this block. -/
def Current (cfg : Config Address) (b : Brokerage Address) : Prop :=
  Pool.elapsed (b.lending cfg.stable) = 0

theorem current_accrue_pool (cfg : Config Address) (b : Brokerage Address) :
    Current cfg (accruePool cfg b) := by
  unfold Current
  rw [accrue_pool_lending]
  exact Pool.elapsed_accrue _ _

theorem accrue_pool_of_current {b : Brokerage Address} (current : Current cfg b) :
    accruePool cfg b = b := by
  unfold accruePool
  rw [Pool.accrue_of_no_time _ _ current]
  simp [Brokerage.setLending, Brokerage.setToken, Brokerage.lending]

def owed (cfg : Config Address) (b : Brokerage Address) (user : Address) : Nat :=
  debtOf (accruePool cfg b) user

/-! ## Deposits in full -/

theorem deposit_ok {b after : Brokerage Address} {sender token : Address} {amount : Nat}
    (ran : deposit cfg sender token amount b = .ok after) :
    ∃ c state, get cfg token = .ok c ∧ amount ≠ 0 ∧
      (b.tokens token).transferFrom cfg.address sender cfg.address amount = .ok state ∧
      after = b.deposited sender token amount state := by
  simp only [deposit, bind_ok_iff, require_ok_iff, exists_const, Except.ok.injEq,
    Brokerage.pay_ok_iff] at ran
  obtain ⟨_, _, some, c, listed, _, ⟨state, pulled, rfl⟩, _, _, rfl⟩ := ran
  exact ⟨c, state, listed, some, pulled, rfl⟩

/-! ## Effects -/

variable [Fintype Address]

/-- What the vault holds of a token beside the collateral recorded in it. -/
def spare (cfg : Config Address) (b : Brokerage Address) (token : Address) : Int :=
  (b.tokens token).balanceOf cfg.address - (∑ user, b.stock.collateralOf user token : Nat)

/-- A part of a call about `user`: its `flow`, and what it leaves alone. -/
structure Effect (cfg : Config Address) (user : Address) (flow : Address → Int)
    (b after : Brokerage Address) : Prop where
  spare : ∀ token, spare cfg after token = spare cfg b token + flow token
  timestamp : after.timestamp = b.timestamp
  latestRoundData : after.latestRoundData = b.latestRoundData
  uiMultiplier : after.uiMultiplier = b.uiMultiplier
  treasured : after.pool.toTreasured = b.pool.toTreasured
  borrowModule : after.pool.borrowModule = b.pool.borrowModule
  others : ∀ other, other ≠ user →
    after.stock.collateralOf other = b.stock.collateralOf other ∧
      after.pool.scaledDebt other = b.pool.scaledDebt other
  current : Current cfg b → Current cfg after ∧ after.pool.borrowIndex = b.pool.borrowIndex
  allowance : ∀ token spender, spender ≠ cfg.pool.address →
    (after.tokens token).allowance cfg.address spender =
      (b.tokens token).allowance cfg.address spender
  sound : b.pool.Sound → after.pool.Sound

section Effects

variable {b mid after : Brokerage Address} {sender user target token : Address}
  {flow left right : Address → Int} {amount : Nat}

omit [DecidableEq Address] in
theorem Effect.refl (cfg : Config Address) (user : Address) (b : Brokerage Address) :
    Effect cfg user 0 b b where
  spare token := by simp
  timestamp := rfl
  latestRoundData := rfl
  uiMultiplier := rfl
  treasured := rfl
  borrowModule := rfl
  others _ _ := ⟨rfl, rfl⟩
  current current := ⟨current, rfl⟩
  allowance _ _ _ := rfl
  sound sound := sound

omit [DecidableEq Address] in
theorem Effect.trans (first : Effect cfg user left b mid) (second : Effect cfg user right mid after) :
    Effect cfg user (left + right) b after where
  spare token := by
    rw [second.spare, first.spare, Pi.add_apply, add_assoc]
  timestamp := second.timestamp.trans first.timestamp
  latestRoundData := second.latestRoundData.trans first.latestRoundData
  uiMultiplier := second.uiMultiplier.trans first.uiMultiplier
  treasured := second.treasured.trans first.treasured
  borrowModule := second.borrowModule.trans first.borrowModule
  others other distinct := by
    obtain ⟨collateral, debt⟩ := second.others other distinct
    rw [collateral, debt]
    exact first.others other distinct
  current current := by
    obtain ⟨still, index⟩ := first.current current
    obtain ⟨later, same⟩ := second.current still
    exact ⟨later, same.trans index⟩
  allowance token spender distinct :=
    (second.allowance token spender distinct).trans (first.allowance token spender distinct)
  sound sound := second.sound (first.sound sound)

omit [DecidableEq Address] in
theorem Effect.of_flow (effect : Effect cfg user left b after) (same : ∀ token, left token = flow token) :
    Effect cfg user flow b after := by
  rw [← funext same]
  exact effect

/-- A call on a token by the vault that leaves the ledger alone. -/
theorem effect_of_set_token {state : Erc20 Address} {gain : Int}
    (cash : (state.balanceOf cfg.address : Int) =
      (b.tokens token).balanceOf cfg.address + gain)
    (allowance : ∀ spender, spender ≠ cfg.pool.address →
      state.allowance cfg.address spender = (b.tokens token).allowance cfg.address spender) :
    Effect cfg user (Pi.single token gain) b (b.setToken token state) where
  spare other := by
    unfold Stock.spare
    rw [Brokerage.set_token_stock]
    by_cases same : other = token
    · subst same
      rw [Brokerage.set_token_self, Pi.single_eq_same, cash]
      omega
    · rw [Brokerage.set_token_other b state same, Pi.single_eq_of_ne same]
      omega
  timestamp := rfl
  latestRoundData := rfl
  uiMultiplier := rfl
  treasured := rfl
  borrowModule := rfl
  others _ _ := ⟨rfl, rfl⟩
  current current := ⟨current, rfl⟩
  allowance other spender distinct := by
    by_cases same : other = token
    · subst same
      rw [Brokerage.set_token_self]
      exact allowance spender distinct
    · rw [Brokerage.set_token_other b state same]
  sound sound := sound

omit [DecidableEq Address] in
theorem effect_of_emit (event : Event Address) : Effect cfg user 0 b (b.emit event) where
  spare token := by
    rw [Pi.zero_apply, add_zero]
    rfl
  timestamp := rfl
  latestRoundData := rfl
  uiMultiplier := rfl
  treasured := rfl
  borrowModule := rfl
  others _ _ := ⟨rfl, rfl⟩
  current current := ⟨current, rfl⟩
  allowance _ _ _ := rfl
  sound sound := sound

theorem effect_of_pull (outsider : sender ≠ cfg.address)
    (ran : (b.pay token fun state => state.transferFrom cfg.address sender cfg.address amount) =
      .ok after) : Effect cfg user (Pi.single token (amount : Int)) b after := by
  obtain ⟨state, pulled, rfl⟩ := Brokerage.pay_ok_iff.1 ran
  have cash := Pool.pulled_cash outsider pulled
  obtain ⟨_, _, _, _, rfl⟩ := (Erc20.transfer_from_ok_iff _ _ _ _ _ _).1 pulled
  apply effect_of_set_token
  · rw [cash]
    exact Nat.cast_add _ _
  · intro spender _
    exact congrFun (Erc20.allowance_after_other _ _ outsider.symm) spender

/-- Paying out; what the vault pays to itself stays. -/
theorem effect_of_push
    (ran : (b.pay token fun state => state.move cfg.address target amount) = .ok after) :
    Effect cfg user (Pi.single token (if target = cfg.address then 0 else -(amount : Int)))
      b after := by
  obtain ⟨state, pushed, rfl⟩ := Brokerage.pay_ok_iff.1 ran
  obtain ⟨_, _, funded, rfl⟩ := (Erc20.move_ok_iff _ _ _ _ _).1 pushed
  apply effect_of_set_token
  · split_ifs with own
    · subst own
      rw [Erc20.moved_balance_same _ funded, add_zero]
    · rw [Erc20.moved_balance_source _ _ (Ne.symm own)]
      omega
  · intro spender _
    rfl

theorem effect_of_approve
    (ran : (b.pay token fun state => state.approve cfg.address cfg.pool.address amount) =
      .ok after) : Effect cfg user 0 b after := by
  obtain ⟨state, approved, rfl⟩ := Brokerage.pay_ok_iff.1 ran
  simp only [Erc20.approve, bind_ok_iff, require_ok_iff, exists_const, Except.ok.injEq] at approved
  obtain ⟨_, _, rfl⟩ := approved
  have effect : Effect cfg user (Pi.single token (0 : Int)) b (b.setToken token
      { b.tokens token with
        allowance := Function.update (b.tokens token).allowance cfg.address
          (Function.update ((b.tokens token).allowance cfg.address) cfg.pool.address amount) }) := by
    apply effect_of_set_token
    · rw [add_zero]
    · intro spender distinct
      simp [distinct]
  rwa [Pi.single_zero] at effect

/-! ### Calls on the pool -/

theorem effect_of_set_lending {l : Lending Address} {gain : Int}
    (timestamp : l.timestamp = b.timestamp)
    (cash : (l.token.balanceOf cfg.address : Int) =
      (b.tokens cfg.stable).balanceOf cfg.address + gain)
    (allowance : ∀ spender, spender ≠ cfg.pool.address →
      l.token.allowance cfg.address spender =
        (b.tokens cfg.stable).allowance cfg.address spender)
    (treasured : l.pool.toTreasured = b.pool.toTreasured)
    (borrowModule : l.pool.borrowModule = b.pool.borrowModule)
    (debts : ∀ other, other ≠ user → l.pool.scaledDebt other = b.pool.scaledDebt other)
    (current : Current cfg b → Pool.elapsed l = 0 ∧ l.pool.borrowIndex = b.pool.borrowIndex)
    (sound : b.pool.Sound → l.pool.Sound) :
    Effect cfg user (Pi.single cfg.stable gain) b (b.setLending cfg.stable l) := by
  have tokens : Effect cfg user (Pi.single cfg.stable gain) b (b.setToken cfg.stable l.token) :=
    effect_of_set_token cash allowance
  exact
    { spare := tokens.spare
      timestamp := timestamp
      latestRoundData := rfl
      uiMultiplier := rfl
      treasured := treasured
      borrowModule := borrowModule
      others := fun other distinct => ⟨rfl, debts other distinct⟩
      current := by
        intro still
        unfold Current
        rw [Brokerage.set_lending_lending]
        exact current still
      allowance := tokens.allowance
      sound := sound }

theorem effect_of_accrue (cfg : Config Address) (user : Address) (b : Brokerage Address) :
    Effect cfg user 0 b (accruePool cfg b) := by
  rw [← Pi.single_zero cfg.stable]
  apply effect_of_set_lending
  · exact Pool.accrue_timestamp _ _
  · rw [Pool.accrue_token, add_zero]
    rfl
  · intro spender _
    rw [Pool.accrue_token]
    rfl
  · exact Pool.accrue_treasured _ _
  · exact Pool.accrue_borrow_module _ _
  · intro other _
    rw [Pool.accrue_scaled_debt]
    rfl
  · intro still
    rw [Pool.accrue_of_no_time _ _ still]
    exact ⟨still, rfl⟩
  · intro sound
    exact Pool.State.Sound.accrue (l := b.lending cfg.stable) sound

omit [Zero Address] [Fintype Address] in
theorem credit_debt_keeps (pool : Pool.State Address) (user : Address) (scaled : Nat)
    (event : Pool.Event Address) :
    ((pool.creditDebt user scaled).emit event).toTreasured = pool.toTreasured ∧
      ((pool.creditDebt user scaled).emit event).borrowModule = pool.borrowModule ∧
      ((pool.creditDebt user scaled).emit event).lastAccrualTime = pool.lastAccrualTime ∧
      ((pool.creditDebt user scaled).emit event).borrowIndex = pool.borrowIndex :=
  ⟨rfl, rfl, rfl, rfl⟩

theorem effect_of_draw
    (ran : b.lend cfg.stable (Pool.borrow cfg.pool cfg.address amount user) = .ok after) :
    Effect cfg user (Pi.single cfg.stable (amount : Int)) b after := by
  obtain ⟨l, drawn, rfl⟩ := Brokerage.lend_ok_iff.1 ran
  have cash := Pool.borrowed_cash cfg.pool_live.2.symm drawn
  have called : Pool.exec cfg.pool cfg.address (b.lending cfg.stable) (.borrow amount user) =
      .ok l := drawn
  have books : b.pool.Sound → l.pool.Sound := fun sound => Pool.sound_exec sound called
  have gained : (l.token.balanceOf cfg.address : Int) =
      (b.tokens cfg.stable).balanceOf cfg.address + (amount : Int) := by
    have balance : l.token.balanceOf cfg.address =
        (b.tokens cfg.stable).balanceOf cfg.address + amount := cash
    omega
  obtain ⟨_, _, _, _, _, state, moved, rfl⟩ := Pool.borrow_ok_iff.1 drawn
  obtain ⟨_, _, _, rfl⟩ := (Erc20.move_ok_iff _ _ _ _ _).1 moved
  have writes := credit_debt_keeps (Pool.accrue cfg.pool (b.lending cfg.stable)).pool user
    (mulDivUp amount RAY (Pool.accrue cfg.pool (b.lending cfg.stable)).pool.borrowIndex)
    (.borrowed user amount
      (mulDivUp amount RAY (Pool.accrue cfg.pool (b.lending cfg.stable)).pool.borrowIndex))
  obtain ⟨treasured, wired, stamped, index⟩ := writes
  apply effect_of_set_lending
  · exact Pool.accrue_timestamp _ _
  · exact gained
  · intro spender _
    rfl
  · rw [Lending.put_pool, treasured]
    exact Pool.accrue_treasured _ _
  · rw [Lending.put_pool, wired]
    exact Pool.accrue_borrow_module _ _
  · intro other distinct
    simp [distinct, Brokerage.lending]
  · intro still
    rw [Pool.elapsed_put _ _ _ stamped, Lending.put_pool, index,
      Pool.accrue_of_no_time _ _ still]
    exact ⟨still, rfl⟩
  · exact books

/-- The allowance the vault has just given the pool is all a repayment can spend. -/
theorem effect_of_repay_pool (ran : repayPool cfg amount user b = .ok after) :
    Effect cfg user (Pi.single cfg.stable (-(amount : Int))) b after := by
  simp only [repayPool, bind_ok_iff] at ran
  obtain ⟨approved, approves, repays⟩ := ran
  have first : Effect cfg user 0 b approved := effect_of_approve approves
  have second : Effect cfg user (Pi.single cfg.stable (-(amount : Int))) approved after := by
    obtain ⟨l, repaid, rfl⟩ := Brokerage.lend_ok_iff.1 repays
    have called : Pool.exec cfg.pool cfg.address (approved.lending cfg.stable)
        (.repay amount user) = .ok l := repaid
    have books : approved.pool.Sound → l.pool.Sound := fun sound => Pool.sound_exec sound called
    obtain ⟨_, _, _, _, state, pulled, rfl⟩ := Pool.repay_ok_iff.1 repaid
    obtain ⟨_, _, _, funded, rfl⟩ := (Erc20.transfer_from_ok_iff _ _ _ _ _ _).1 pulled
    apply effect_of_set_lending
    · exact Pool.accrue_timestamp _ _
    · have left := Erc20.moved_balance_source (approved.tokens cfg.stable) amount
        cfg.pool_live.2.symm
      have enough : amount ≤ (approved.tokens cfg.stable).balanceOf cfg.address := funded
      have balance : ((approved.tokens cfg.stable).moved cfg.address cfg.pool.address
          amount).balanceOf cfg.address =
          (approved.tokens cfg.stable).balanceOf cfg.address - amount := left
      have cash : (((approved.tokens cfg.stable).moved cfg.address cfg.pool.address
          amount).balanceOf cfg.address : Int) =
          (approved.tokens cfg.stable).balanceOf cfg.address + -(amount : Int) := by
        omega
      exact cash
    · intro spender distinct
      exact Erc20.allowance_after_other_spender _ _ _ _ distinct
    · exact Pool.accrue_treasured _ _
    · exact Pool.accrue_borrow_module _ _
    · intro other distinct
      simp [distinct, Brokerage.lending]
    · intro still
      rw [Pool.accrue_of_no_time _ _ still]
      exact ⟨still, rfl⟩
    · exact books
  exact (first.trans second).of_flow fun token => by rw [zero_add]

theorem effect_of_absorb {loss : Nat} {l : Lending Address}
    (ran : Pool.absorbBadDebt cfg.pool cfg.address user (b.lending cfg.stable) = .ok (loss, l)) :
    Effect cfg user 0 b (b.setLending cfg.stable l) := by
  have called : Pool.exec cfg.pool cfg.address (b.lending cfg.stable) (.absorbBadDebt user) =
      .ok l := (map_ok_iff _ _ _).2 ⟨_, ran, rfl⟩
  have books : b.pool.Sound → l.pool.Sound := fun sound => Pool.sound_exec sound called
  obtain ⟨_, _, _, _, rfl⟩ := Pool.absorb_bad_debt_ok_iff.1 ran
  rw [← Pi.single_zero cfg.stable]
  apply effect_of_set_lending
  · exact Pool.accrue_timestamp _ _
  · rw [add_zero]
    rfl
  · intro spender _
    rfl
  · exact Pool.accrue_treasured _ _
  · exact Pool.accrue_borrow_module _ _
  · intro other distinct
    rw [Lending.put_pool, Pool.absorbed_scaled_debt]
    simp [distinct, Brokerage.lending]
  · intro still
    rw [Pool.accrue_of_no_time _ _ still]
    exact ⟨still, rfl⟩
  · exact books

/-! ### The ledger -/

theorem effect_of_record (cfg : Config Address) (user token : Address) (amount : Nat)
    (b : Brokerage Address) :
    Effect cfg user (Pi.single token (b.stock.collateralOf user token - amount : Int)) b
      (b.setCollateral user token amount) where
  spare other := by
    have sums := PointSums.sum_add_of_eq_off
      (fun account => (b.setCollateral user token amount).stock.collateralOf account other)
      (fun account => b.stock.collateralOf account other) user
      (fun account distinct => by
        simp only [Brokerage.set_collateral_other b token amount distinct])
    unfold Stock.spare
    rw [Brokerage.set_collateral_tokens]
    by_cases same : other = token
    · subst same
      rw [Pi.single_eq_same]
      simp only [Brokerage.setCollateral, Function.update_self] at sums ⊢
      omega
    · rw [Pi.single_eq_of_ne same]
      simp only [Brokerage.setCollateral, Function.update_self, Function.update_of_ne same]
        at sums ⊢
      omega
  timestamp := rfl
  latestRoundData := rfl
  uiMultiplier := rfl
  treasured := rfl
  borrowModule := rfl
  others other distinct := ⟨Brokerage.set_collateral_other b token amount distinct, rfl⟩
  current current := ⟨current, rfl⟩
  allowance _ _ _ := rfl
  sound sound := sound

end Effects

/-! ## The effect of each call -/

section Calls

variable {b after : Brokerage Address} {sender user token : Address} {amount fee : Nat}

def kept (cfg : Config Address) (b : Brokerage Address) (fee : Nat) : Int :=
  if b.pool.treasury = cfg.address then fee else 0

theorem effect_of_pay_treasury (ran : payTreasury cfg fee b = .ok after) :
    Effect cfg user (Pi.single cfg.stable (kept cfg b fee - fee)) b after := by
  unfold payTreasury at ran
  split_ifs at ran with charged
  · apply (effect_of_push ran).of_flow
    intro token
    unfold kept
    split_ifs <;> simp
  · cases ran
    apply (Effect.refl cfg user b).of_flow
    intro token
    have none : fee = 0 := not_not.1 charged
    subst none
    simp [kept]

theorem effect_of_deposit (outsider : sender ≠ cfg.address)
    (ran : deposit cfg sender token amount b = .ok after) : Effect cfg sender 0 b after := by
  simp only [deposit, bind_ok_iff, require_ok_iff, exists_const, Except.ok.injEq] at ran
  obtain ⟨_, _, _, _, _, pulled, pulls, _, _, rfl⟩ := ran
  have recorded := effect_of_record cfg sender token
    (b.stock.collateralOf sender token + amount) b
  have received : Effect cfg sender (Pi.single token (amount : Int)) _ pulled :=
    effect_of_pull outsider pulls
  apply ((recorded.trans received).trans (effect_of_emit _)).of_flow
  intro other
  simp only [Pi.add_apply, Pi.zero_apply, Pi.single_apply]
  split_ifs <;> omega

theorem effect_of_withdraw (outsider : sender ≠ cfg.address)
    (ran : withdraw cfg sender token amount b = .ok after) : Effect cfg sender 0 b after := by
  simp only [withdraw, bind_ok_iff, require_ok_iff, exists_const, Except.ok.injEq] at ran
  obtain ⟨_, _, _, enough, _, _, pushed, pushes, rfl⟩ := ran
  have recorded := effect_of_record cfg sender token
    (b.stock.collateralOf sender token - amount) b
  have accrued := effect_of_accrue cfg sender
    (b.setCollateral sender token (b.stock.collateralOf sender token - amount))
  have sent : Effect cfg sender _ _ pushed := effect_of_push pushes
  apply (((recorded.trans accrued).trans sent).trans (effect_of_emit _)).of_flow
  intro other
  rw [if_neg outsider]
  simp only [Pi.add_apply, Pi.zero_apply, Pi.single_apply]
  split_ifs <;> omega

theorem effect_of_borrow (outsider : sender ≠ cfg.address)
    (ran : borrow cfg sender amount b = .ok after) :
    Effect cfg sender
      (Pi.single cfg.stable (kept cfg b (mulDivUp amount cfg.originationFee WAD))) b after := by
  simp only [borrow, bind_ok_iff, require_ok_iff, exists_const, Except.ok.injEq] at ran
  obtain ⟨_, _, _, sums, _, _, drawn, draws, pushed, pushes, paid, pays, rfl⟩ := ran
  have accrued := effect_of_accrue cfg sender b
  have lent := accrued.trans (effect_of_draw draws)
  have sent := lent.trans (effect_of_push pushes : Effect cfg sender _ _ _)
  have treasury : pushed.pool.treasury = b.pool.treasury :=
    congrArg Treasured.treasury sent.treasured
  have charged : Effect cfg sender _ pushed paid := effect_of_pay_treasury pays
  apply ((sent.trans charged).trans (effect_of_emit _)).of_flow
  intro other
  rw [if_neg outsider]
  simp only [Pi.add_apply, Pi.zero_apply, Pi.single_apply, kept, treasury]
  split_ifs <;> omega

theorem effect_of_repay (outsider : sender ≠ cfg.address)
    (ran : repay cfg sender amount user b = .ok after) : Effect cfg user 0 b after := by
  simp only [repay, bind_ok_iff, require_ok_iff, exists_const, Except.ok.injEq] at ran
  obtain ⟨_, _, pulled, pulls, repaid, repays, rfl⟩ := ran
  have accrued := effect_of_accrue cfg user b
  have received := accrued.trans (effect_of_pull outsider pulls : Effect cfg user _ _ _)
  have cleared := received.trans (effect_of_repay_pool repays)
  apply (cleared.trans (effect_of_emit _)).of_flow
  intro other
  simp only [Pi.add_apply, Pi.zero_apply, Pi.single_apply]
  split_ifs <;> omega

omit [DecidableEq Address] [Fintype Address] in
theorem max_repay_le {c : Collateral Address} (ran : maxRepay cfg c user b = .ok amount) :
    amount ≤ debtOf b user := by
  simp only [maxRepay, bind_ok_iff, require_ok_iff, exists_const, Except.ok.injEq] at ran
  obtain ⟨_, _, _, rfl⟩ := ran
  apply mul_div_le_left
  unfold closeFactorAt
  split_ifs
  · exact Nat.le_refl _
  · exact cfg.close_factor_le_wad

theorem effect_of_liquidate (outsider : sender ≠ cfg.address)
    (ran : liquidate cfg sender user token amount b = .ok after) :
    ∃ c repaid, get cfg token = .ok c ∧ repaid ≤ owed cfg b user ∧
      Effect cfg user (Pi.single cfg.stable (kept cfg b (protocolFeeOn cfg c repaid))) b after := by
  simp only [liquidate, bind_ok_iff, require_ok_iff, exists_const, Except.ok.injEq] at ran
  obtain ⟨c, listed, limit, limits, _, within, _, wanted, _, pulled, pulls, cleared, clears,
    paid, pays, seized, seizes, rfl⟩ := ran
  generalize repays : (if amount = uint256Max then limit else amount) = repaid at *
  refine ⟨c, repaid, listed, within.trans (max_repay_le limits), ?_⟩
  have accrued := effect_of_accrue cfg user b
  have recorded := accrued.trans (effect_of_record cfg user token
    (b.stock.collateralOf user token - min wanted (b.stock.collateralOf user token))
    (accruePool cfg b))
  have received := recorded.trans (effect_of_pull outsider pulls : Effect cfg user _ _ _)
  have repaidPool := received.trans (effect_of_repay_pool clears)
  have treasury : cleared.pool.treasury = b.pool.treasury :=
    congrArg Treasured.treasury repaidPool.treasured
  have charged := repaidPool.trans (effect_of_pay_treasury pays : Effect cfg user _ _ _)
  have sent := charged.trans (effect_of_push seizes : Effect cfg user _ _ _)
  apply (sent.trans (effect_of_emit _)).of_flow
  intro other
  rw [if_neg outsider]
  simp only [Pi.add_apply, Pi.zero_apply, Pi.single_apply, kept, treasury, accrue_pool_stock]
  split_ifs <;> omega

theorem effect_of_hand_over (outsider : sender ≠ cfg.address) {turn next : Nat × Brokerage Address}
    {c : Collateral Address} (ran : handOver cfg sender user turn c = .ok next) :
    Effect cfg user 0 turn.2 next.2 := by
  simp only [handOver] at ran
  split_ifs at ran
  · cases ran
    exact .refl cfg user _
  · simp only [bind_ok_iff, Except.ok.injEq] at ran
    obtain ⟨pushed, pushes, rfl⟩ := ran
    have recorded := effect_of_record cfg user c.token 0 turn.2
    apply (recorded.trans (effect_of_push pushes : Effect cfg user _ _ _)).of_flow
    intro other
    rw [if_neg outsider]
    simp only [Pi.add_apply, Pi.zero_apply, Pi.single_apply]
    split_ifs <;> omega

theorem effect_of_hand_over_collateral (outsider : sender ≠ cfg.address)
    {final : Nat × Brokerage Address}
    (ran : handOverCollateral cfg sender user b = .ok final) : Effect cfg user 0 b final.2 := by
  apply loop_invariant (fun turn => Effect cfg user 0 b turn.2) _ (.refl cfg user b) ran
  intro turn c next _ sofar turned
  apply (sofar.trans (effect_of_hand_over outsider turned)).of_flow
  intro other
  rw [add_zero]

theorem effect_of_buy_out (outsider : sender ≠ cfg.address)
    (ran : buyOut cfg sender user amount b = .ok after) : Effect cfg user 0 b after := by
  unfold buyOut at ran
  split_ifs at ran
  · simp only [bind_ok_iff] at ran
    obtain ⟨pulled, pulls, repays⟩ := ran
    have received : Effect cfg user _ b pulled := effect_of_pull outsider pulls
    apply (received.trans (effect_of_repay_pool repays)).of_flow
    intro other
    simp only [Pi.add_apply, Pi.zero_apply, Pi.single_apply]
    split_ifs <;> omega
  · cases ran
    exact .refl cfg user b

theorem effect_of_write_off (outsider : sender ≠ cfg.address)
    (ran : writeOffBadDebt cfg sender user b = .ok after) : Effect cfg user 0 b after := by
  simp only [writeOffBadDebt, bind_ok_iff, require_ok_iff, exists_const, Except.ok.injEq,
    Prod.exists] at ran
  obtain ⟨_, _, _, count, handed, hands, bought, buys, loss, l, absorbs, rfl⟩ := ran
  have accrued := effect_of_accrue cfg user b
  have gone := accrued.trans (effect_of_hand_over_collateral outsider hands)
  have paid := gone.trans (effect_of_buy_out outsider buys)
  have absorbed := paid.trans (effect_of_absorb absorbs)
  apply (absorbed.trans (effect_of_emit _)).of_flow
  intro other
  simp

omit [DecidableEq Address] in
theorem effect_of_guard [DecidableEq Address] {call : EntryPausable.Call Address}
    (ran : guard sender call b = .ok after) : Effect cfg user 0 b after := by
  simp only [guard, bind_ok_iff, Except.ok.injEq] at ran
  obtain ⟨⟨access, event⟩, _, rfl⟩ := ran
  exact
    { (effect_of_emit (.access event) : Effect cfg user 0 b _) with
      spare := fun token => by
        rw [Pi.zero_apply, add_zero]
        rfl }

def Call.subject (sender : Address) : Call Address → Address
  | .deposit _ _ | .withdraw _ _ | .borrow _ | .guard _ => sender
  | .repay _ user | .liquidate user _ _ | .writeOffBadDebt user => user

def Call.Charges (cfg : Config Address) (b : Brokerage Address) : Call Address → Nat → Prop
  | .borrow amount, fee => fee = mulDivUp amount cfg.originationFee WAD
  | .liquidate user token _, fee => ∃ c repaid, get cfg token = .ok c ∧
      repaid ≤ owed cfg b user ∧ fee = protocolFeeOn cfg c repaid
  | .deposit _ _, fee | .withdraw _ _, fee | .repay _ _, fee | .writeOffBadDebt _, fee
  | .guard _, fee => fee = 0

omit [Fintype Address] in
theorem kept_zero (cfg : Config Address) (b : Brokerage Address) : kept cfg b 0 = 0 := by
  simp [kept]

/-- Whatever the call, only a fee the vault pays itself stays beside the collateral. -/
theorem effect_of_exec {call : Call Address} (outsider : sender ≠ cfg.address)
    (ran : exec cfg sender b call = .ok after) :
    ∃ fee, call.Charges cfg b fee ∧
      Effect cfg (call.subject sender) (Pi.single cfg.stable (kept cfg b fee)) b after := by
  have free : ∀ {user}, Effect cfg user 0 b after →
      Effect cfg user (Pi.single cfg.stable (kept cfg b 0)) b after := by
    intro user effect
    rwa [kept_zero, Pi.single_zero]
  cases call with
  | deposit token amount => exact ⟨0, rfl, free (effect_of_deposit outsider ran)⟩
  | withdraw token amount => exact ⟨0, rfl, free (effect_of_withdraw outsider ran)⟩
  | borrow amount => exact ⟨_, rfl, effect_of_borrow outsider ran⟩
  | repay amount onBehalfOf => exact ⟨0, rfl, free (effect_of_repay outsider ran)⟩
  | liquidate user token amount =>
      obtain ⟨c, repaid, listed, within, effect⟩ := effect_of_liquidate outsider ran
      exact ⟨_, ⟨c, repaid, listed, within, rfl⟩, effect⟩
  | writeOffBadDebt user => exact ⟨0, rfl, free (effect_of_write_off outsider ran)⟩
  | guard call => exact ⟨0, rfl, free (effect_of_guard ran)⟩

end Calls

end Stock

end Ghoststake
