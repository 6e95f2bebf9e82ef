import Ghoststake.Pool.Instant
import Ghoststake.Stock.Portfolio

/-!
# What a loan is held to

A loan is checked against the limit on the amount asked for, and recorded
rounded up to a scaled unit. Taking collateral out is checked on what is left,
and not at all without a debt.
-/

namespace Ghoststake

set_option autoImplicit false

open Checked Rounding

namespace Stock

variable {Address : Type} [DecidableEq Address] [Zero Address] {cfg : Config Address}
  {b after : Brokerage Address} {sender user token : Address} {amount fee : Nat}

def debtUnit (b : Brokerage Address) : Nat := mulDivUp b.pool.borrowIndex 1 RAY

/-! ## Who has collateral on record -/

/-- Collateral is somebody's, and of a listed token. -/
def Recorded (cfg : Config Address) (b : Brokerage Address) : Prop :=
  ∀ user token, b.stock.collateralOf user token ≠ 0 → user ≠ 0 ∧ ∃ c, get cfg token = .ok c

theorem Recorded.of_le (recorded : Recorded cfg b)
    (less : ∀ user token, after.stock.collateralOf user token ≤ b.stock.collateralOf user token) :
    Recorded cfg after := by
  intro user token held
  have bound := less user token
  apply recorded user token
  omega

theorem recorded_of_deposit (recorded : Recorded cfg b)
    (ran : deposit cfg sender token amount b = .ok after) : Recorded cfg after := by
  obtain ⟨c, state, listed, _, pulled, rfl⟩ := deposit_ok ran
  obtain ⟨_, live, _⟩ := (Erc20.transfer_from_ok_iff _ _ _ _ _ _).1 pulled
  intro account other held
  by_cases here : account = sender ∧ other = token
  · rw [here.1, here.2]
    exact ⟨live, c, listed⟩
  · apply recorded account other
    intro none
    apply held
    rw [← none]
    change (b.setCollateral sender token _).stock.collateralOf account other = _
    by_cases same : account = sender
    · have apart : other ≠ token := fun alike => here ⟨same, alike⟩
      rw [same]
      simp [Brokerage.setCollateral, apart]
    · rw [Brokerage.set_collateral_other b token _ same]

theorem recorded_of_exec {call : Call Address} (recorded : Recorded cfg b)
    (ran : exec cfg sender b call = .ok after) : Recorded cfg after := by
  by_cases quiet : ∀ token amount, call ≠ .deposit token amount
  · exact recorded.of_le (collateral_of_exec quiet ran)
  · simp only [not_forall, not_not] at quiet
    obtain ⟨token, amount, rfl⟩ := quiet
    exact recorded_of_deposit recorded ran

theorem recorded_of_reachable (reached : (machine cfg).Reachable b) : Recorded cfg b := by
  apply reached.invariant (Recorded cfg)
  · intro state start user token held
    obtain ⟨guardian, fresh⟩ := start.fresh
    rw [fresh] at held
    exact absurd rfl held
  · intro state action next _ recorded taken
    obtain ⟨_, ran⟩ := taken
    cases action with
    | stock sender call => exact recorded_of_exec recorded ran
    | pool sender call =>
        simp only [act, Brokerage.lend_ok_iff] at ran
        obtain ⟨_, _, rfl⟩ := ran
        exact recorded
    | asset token sender call =>
        simp only [act, Brokerage.pay_ok_iff] at ran
        obtain ⟨_, _, rfl⟩ := ran
        exact recorded
    | feeds latestRoundData =>
        cases ran
        exact recorded
    | multipliers uiMultiplier =>
        cases ran
        exact recorded
    | wait seconds =>
        cases ran
        exact recorded

/-! ## Loans -/

/-- Everybody's balance of the stablecoin after a loan of `amount` at `fee`. -/
def Disbursed (cfg : Config Address) (sender : Address) (amount fee : Nat)
    (b after : Brokerage Address) : Prop :=
  ∀ account, (after.tokens cfg.stable).balanceOf account +
      (if account = cfg.pool.address then amount + fee else 0) =
    (b.tokens cfg.stable).balanceOf account + (if account = sender then amount else 0) +
      if account = b.pool.treasury then fee else 0

theorem paid_treasury (ran : payTreasury cfg fee b = .ok after) (account : Address) :
    (after.tokens cfg.stable).balanceOf account + (if account = cfg.address then fee else 0) =
      (b.tokens cfg.stable).balanceOf account + if account = b.pool.treasury then fee else 0 := by
  unfold payTreasury at ran
  split_ifs at ran with charged
  · obtain ⟨state, pushed, rfl⟩ := Brokerage.pay_ok_iff.1 ran
    obtain ⟨_, _, funded, rfl⟩ := (Erc20.move_ok_iff _ _ _ _ _).1 pushed
    rw [Brokerage.set_token_self]
    exact Erc20.moved_balances _ _ _ funded account
  · cases ran
    have none : fee = 0 := not_not.mp charged
    rw [none]
    simp

theorem pool_of_pay_treasury (ran : payTreasury cfg fee b = .ok after) : after.pool = b.pool := by
  unfold payTreasury at ran
  split_ifs at ran
  · obtain ⟨state, _, rfl⟩ := Brokerage.pay_ok_iff.1 ran
    rfl
  · cases ran
    rfl

theorem treasured_of_draw {l lent : Lending Address}
    (ran : Pool.borrow cfg.pool cfg.address amount user l = .ok lent) :
    lent.pool.toTreasured = l.pool.toTreasured := by
  obtain ⟨_, _, _, _, _, _, _, rfl⟩ := Pool.borrow_ok_iff.1 ran
  have writes := credit_debt_keeps (Pool.accrue cfg.pool l).pool user
    (mulDivUp amount RAY (Pool.accrue cfg.pool l).pool.borrowIndex)
    (.borrowed user amount (mulDivUp amount RAY (Pool.accrue cfg.pool l).pool.borrowIndex))
  rw [Lending.put_pool, writes.1]
  exact Pool.accrue_treasured cfg.pool l

/-- A loan that was granted: what it was checked against, what it is recorded as,
and where the money went. -/
structure Granted (cfg : Config Address) (sender : Address) (amount fee : Nat)
    (b after : Brokerage Address) : Prop where
  priced : Priced cfg sender false b
  within : debtOf b sender + amount + fee ≤ (portfolio cfg sender b).borrowLimit
  debt : debtOf after sender ≤ debtOf b sender + amount + fee + debtUnit after
  stock : after.stock.collateralOf = b.stock.collateralOf
  disbursed : Disbursed cfg sender amount fee b after

theorem granted_of_borrow (ran : borrow cfg sender amount b = .ok after) :
    Granted cfg sender amount (mulDivUp amount cfg.originationFee WAD) (accruePool cfg b) after := by
  simp only [borrow, bind_ok_iff, require_ok_iff, exists_const, Except.ok.injEq,
    Brokerage.lend_ok_iff, Brokerage.pay_ok_iff, totals_ok_iff] at ran
  obtain ⟨_, _, _, sums, ⟨priced, rfl⟩, within, _, ⟨l, drawn, rfl⟩, _, ⟨sent, pushed, rfl⟩, paid,
    pays, rfl⟩ := ran
  generalize mulDivUp amount cfg.originationFee WAD = charge at *
  have current : Pool.accrue cfg.pool ((accruePool cfg b).lending cfg.stable) =
      (accruePool cfg b).lending cfg.stable := Pool.accrue_of_no_time _ _ (current_accrue_pool cfg b)
  have recorded := Pool.borrow_debt_le drawn
  obtain ⟨lent, _, index⟩ := Pool.borrow_leaves drawn
  have treasured := treasured_of_draw drawn
  have stocked := stock_of_pay_treasury pays
  have pool := pool_of_pay_treasury pays
  have charged := paid_treasury pays
  rw [current] at recorded index
  refine ⟨priced, within, ?_, ?_, ?_⟩
  · have unit : debtUnit (paid.emit (.borrowed sender amount charge
        (debtOf (accruePool cfg b) sender + amount + charge))) = mulDivUp l.pool.borrowIndex 1 RAY := by
      change mulDivUp paid.pool.borrowIndex 1 RAY = _
      rw [pool]
      rfl
    have owes : debtOf (paid.emit (.borrowed sender amount charge
        (debtOf (accruePool cfg b) sender + amount + charge))) sender =
          Pool.balanceOfDebt l.pool sender := by
      change Pool.balanceOfDebt paid.pool sender = _
      rw [pool]
      rfl
    rw [unit, owes, index, Nat.add_assoc (debtOf _ _)]
    exact recorded
  · change paid.stock.collateralOf = _
    rw [stocked]
    rfl
  · intro account
    have available : amount + charge ≤ ((accruePool cfg b).lending cfg.stable).token.balanceOf
        cfg.pool.address := (Pool.borrow_ok_iff.1 drawn).2.2.2.1
    obtain ⟨_, _, funded, rfl⟩ := (Erc20.move_ok_iff _ _ _ _ _).1 pushed
    have fromPool := Erc20.moved_balances _ _ cfg.address available account
    have toBorrower := Erc20.moved_balances _ _ sender funded account
    have toTreasury := charged account
    rw [← lent] at fromPool
    rw [Brokerage.set_token_self] at toTreasury
    have held : (((accruePool cfg b).setLending cfg.stable l).tokens cfg.stable).balanceOf account =
        l.token.balanceOf account := by simp
    have start : ((accruePool cfg b).lending cfg.stable).token.balanceOf account =
        ((accruePool cfg b).tokens cfg.stable).balanceOf account := rfl
    have treasury : ((((accruePool cfg b).setLending cfg.stable l).setToken cfg.stable
        ((((accruePool cfg b).setLending cfg.stable l).tokens cfg.stable).moved cfg.address sender
          amount)).pool.treasury) = (accruePool cfg b).pool.treasury :=
      congrArg Treasured.treasury treasured
    change (paid.tokens cfg.stable).balanceOf account + _ = _
    rw [treasury] at toTreasury
    rw [held] at toBorrower
    rw [start] at fromPool
    split_ifs at fromPool toBorrower toTreasury ⊢ <;> omega

theorem asked_of_borrow (current : Current cfg b) (ran : borrow cfg sender amount b = .ok after) :
    amount ≠ 0 ∧ debtOf b sender + amount + mulDivUp amount cfg.originationFee WAD ≤
        (portfolio cfg sender b).borrowLimit ∧
      b.pool.borrowModule = cfg.address ∧
      amount + mulDivUp amount cfg.originationFee WAD ≤
        (b.tokens cfg.stable).balanceOf cfg.pool.address := by
  simp only [borrow, accrue_pool_of_current current, bind_ok_iff, require_ok_iff, exists_const,
    Brokerage.lend_ok_iff, totals_ok_iff] at ran
  obtain ⟨_, _, some, sums, ⟨_, rfl⟩, within, _, ⟨l, drawn, _⟩, _⟩ := ran
  obtain ⟨wired, _, _, available, _⟩ := Pool.borrow_ok_iff.1 drawn
  exact ⟨some, within, wired.symm, available⟩

/-- The pool pays the vault, and the vault the borrower and the treasury. -/
theorem borrows (current : Current cfg b) (opened : b.stock.entriesPaused = false)
    (poolOpened : b.pool.entriesPaused = false) (indexLive : b.pool.borrowIndex ≠ 0)
    (treasury : b.pool.treasury ≠ 0) (outsider : sender ≠ cfg.address) (live : sender ≠ 0)
    (priced : Priced cfg sender false b) (some : amount ≠ 0)
    (charge : fee = mulDivUp amount cfg.originationFee WAD)
    (within : debtOf b sender + amount + fee ≤ (portfolio cfg sender b).borrowLimit)
    (wired : b.pool.borrowModule = cfg.address)
    (available : amount + fee ≤ (b.tokens cfg.stable).balanceOf cfg.pool.address) :
    ∃ after, borrow cfg sender amount b = .ok after := by
  have still : Pool.accrue cfg.pool (b.lending cfg.stable) = b.lending cfg.stable :=
    Pool.accrue_of_no_time _ _ current
  obtain ⟨sent, sends⟩ : ∃ sent, (b.tokens cfg.stable).move cfg.pool.address cfg.address
      (amount + fee) = .ok sent :=
    ⟨_, (Erc20.move_ok_iff _ _ _ _ _).2 ⟨cfg.pool_live.1, cfg.address_ne_zero, available, rfl⟩⟩
  obtain ⟨l, drawn⟩ : ∃ l, Pool.borrow cfg.pool cfg.address (amount + fee) sender
      (b.lending cfg.stable) = .ok l := by
    refine ⟨_, Pool.borrow_ok_iff.2 ⟨wired.symm, poolOpened, ?_, available, ?_, sent, sends, rfl⟩⟩
    · omega
    · rw [still]
      exact indexLive
  have received : l.token.balanceOf cfg.address =
      (b.tokens cfg.stable).balanceOf cfg.address + (amount + fee) := by
    rw [(Pool.borrow_leaves drawn).1]
    exact Erc20.moved_balance_target _ _ cfg.pool_live.2
  have paid : l.pool.treasury = b.pool.treasury :=
    congrArg Treasured.treasury (treasured_of_draw drawn)
  have pushes := (Erc20.move_ok_iff l.token _ cfg.address sender amount).2
    ⟨cfg.address_ne_zero, live, by omega, rfl⟩
  have left := Erc20.moved_balance_source l.token amount outsider.symm
  generalize l.token.moved cfg.address sender amount = pushed at pushes left
  have disburses : ((b.setLending cfg.stable l).pay cfg.stable fun state =>
      state.move cfg.address sender amount) = .ok ((b.setLending cfg.stable l).setToken cfg.stable
        pushed) := by
    refine Brokerage.pay_ok_iff.2 ⟨pushed, ?_, rfl⟩
    rw [Brokerage.set_lending_tokens, Function.update_self]
    exact pushes
  obtain ⟨settled, settles⟩ : ∃ settled, payTreasury cfg fee
      ((b.setLending cfg.stable l).setToken cfg.stable pushed) = .ok settled := by
    unfold payTreasury
    split_ifs
    · refine ⟨_, Brokerage.pay_ok_iff.2 ⟨_, (Erc20.move_ok_iff _ _ _ _ _).2
        ⟨cfg.address_ne_zero, ?_, ?_, rfl⟩, rfl⟩⟩
      · change l.pool.treasury ≠ 0
        rw [paid]
        exact treasury
      · rw [Brokerage.set_token_self]
        omega
    · exact ⟨_, rfl⟩
  simp only [borrow, accrue_pool_of_current current, EntryPausable.whenEntriesOpen, priced.totals]
  rw [require_of _ opened, ok_bind, require_of _ some, ok_bind, ok_bind, ← charge,
    require_of _ within, ok_bind, Brokerage.lend_ok_iff.2 ⟨l, drawn, rfl⟩, ok_bind, disburses,
    ok_bind, settles, ok_bind]
  exact ⟨_, rfl⟩

/-! ## Withdrawals -/

omit [DecidableEq Address] in
theorem within_limit_ok_iff :
    withinLimit cfg user b = .ok () ↔ (debtOf b user ≠ 0 →
      Priced cfg user false b ∧ debtOf b user ≤ (portfolio cfg user b).borrowLimit) := by
  unfold withinLimit
  split_ifs with owing
  · simp only [bind_ok_iff, totals_ok_iff, require_ok_iff]
    constructor
    · rintro ⟨_, ⟨priced, rfl⟩, within⟩
      exact fun _ => ⟨priced, within⟩
    · intro holds
      obtain ⟨priced, within⟩ := holds owing
      exact ⟨_, ⟨priced, rfl⟩, within⟩
  · exact iff_of_true rfl fun wanted => absurd wanted owing

/-- The block once `user` has taken `amount` of `token` off its record. -/
def released (cfg : Config Address) (user token : Address) (amount : Nat)
    (b : Brokerage Address) : Brokerage Address :=
  accruePool cfg (b.setCollateral user token (b.stock.collateralOf user token - amount))

theorem withdraw_ok_iff :
    withdraw cfg sender token amount b = .ok after ↔
      amount ≠ 0 ∧ (∃ c, get cfg token = .ok c) ∧ amount ≤ b.stock.collateralOf sender token ∧
      (debtOf (released cfg sender token amount b) sender ≠ 0 →
        Priced cfg sender false (released cfg sender token amount b) ∧
          debtOf (released cfg sender token amount b) sender ≤
            (portfolio cfg sender (released cfg sender token amount b)).borrowLimit) ∧
      ∃ state, (b.tokens token).move cfg.address sender amount = .ok state ∧
        after = ((released cfg sender token amount b).setToken token state).emit
          (.collateralWithdrawn sender token amount) := by
  simp only [withdraw, bind_ok_iff, require_ok_iff, exists_const, Except.ok.injEq,
    Brokerage.pay_ok_iff]
  have same : (released cfg sender token amount b).tokens = b.tokens := accrue_pool_tokens cfg _
  constructor
  · rintro ⟨some, c, listed, enough, done, within, _, ⟨state, moved, rfl⟩, rfl⟩
    refine ⟨some, ⟨c, listed⟩, enough, within_limit_ok_iff.mp within, state, ?_, rfl⟩
    rw [← same]
    exact moved
  · rintro ⟨some, ⟨c, listed⟩, enough, within, state, moved, rfl⟩
    refine ⟨some, c, listed, enough, (), within_limit_ok_iff.mpr within, _, ⟨state, ?_, rfl⟩, rfl⟩
    rw [← same] at moved
    exact moved

theorem debt_of_released (cfg : Config Address) (user token : Address) (amount : Nat)
    (b : Brokerage Address) (other : Address) :
    debtOf (released cfg user token amount b) other = owed cfg b other := by
  rw [released, accrue_pool_set_collateral]
  rfl

/-! ## Every history -/

theorem disbursed_of_borrow (ran : borrow cfg sender amount b = .ok after) :
    Disbursed cfg sender amount (mulDivUp amount cfg.originationFee WAD) b after := by
  have flows := (granted_of_borrow ran).disbursed
  have treasury : (accruePool cfg b).pool.treasury = b.pool.treasury :=
    congrArg Treasured.treasury (Pool.accrue_treasured cfg.pool (b.lending cfg.stable))
  unfold Disbursed at flows ⊢
  rwa [accrue_pool_tokens, treasury] at flows

omit [DecidableEq Address] in
/-- Within a limit the line is not crossed, and beyond it only by what was added to the debt. -/
theorem liquidatable_of_within {room : Nat} (priced : Priced cfg user true b)
    (within : debtOf b user ≤ (portfolio cfg user b).borrowLimit + room) :
    ∃ liquid, isLiquidatable cfg user b = .ok liquid ∧ (liquid = true →
      (portfolio cfg user b).liquidationLine < (portfolio cfg user b).borrowLimit + room) := by
  by_cases none : debtOf b user = 0
  · exact ⟨false, is_liquidatable_ok_iff.mpr (.inl ⟨none, rfl⟩), fun crossed => by cases crossed⟩
  · refine ⟨_, is_liquidatable_ok_iff.mpr (.inr ⟨none, priced, rfl⟩), ?_⟩
    intro crossed
    exact (of_decide_eq_true crossed).trans_le within

variable [Fintype Address]

theorem debt_free_after_accrual (sound : b.pool.Sound) (none : debtOf b user = 0) :
    owed cfg b user = 0 := by
  have scaled := (sound.debt_eq_zero_iff user).mp none
  unfold owed debtOf accruePool
  rw [Brokerage.set_lending_pool, Pool.balanceOfDebt, Pool.accrue_scaled_debt]
  change mulDiv (b.pool.scaledDebt user) _ _ = 0
  rw [scaled, mul_div_zero_left]

/-- With one, that what remains has prices and still covers it. -/
theorem withdraws_within_limit (current : Current cfg b) (custody : Custody cfg b)
    (recorded : Recorded cfg b) (some : amount ≠ 0)
    (enough : amount ≤ b.stock.collateralOf sender token)
    (priced : Priced cfg sender false
      (b.setCollateral sender token (b.stock.collateralOf sender token - amount)))
    (within : debtOf b sender ≤ (portfolio cfg sender
      (b.setCollateral sender token (b.stock.collateralOf sender token - amount))).borrowLimit) :
    ∃ after, withdraw cfg sender token amount b = .ok after := by
  have held : b.stock.collateralOf sender token ≠ 0 := by omega
  obtain ⟨live, listed⟩ := recorded sender token held
  have share : b.stock.collateralOf sender token ≤ ∑ user, b.stock.collateralOf user token :=
    PointSums.le_sum (fun user => b.stock.collateralOf user token) sender
  have funded : amount ≤ (b.tokens token).balanceOf cfg.address :=
    enough.trans (share.trans (custody.covered token))
  have moves := (Erc20.move_ok_iff (b.tokens token) _ cfg.address sender amount).2
    ⟨cfg.address_ne_zero, live, funded, rfl⟩
  have same : released cfg sender token amount b =
      b.setCollateral sender token (b.stock.collateralOf sender token - amount) :=
    accrue_pool_of_current current
  refine ⟨_, withdraw_ok_iff.mpr ⟨some, listed, enough, ?_, _, moves, rfl⟩⟩
  rw [same]
  exact fun _ => ⟨priced, within⟩

/-- Without a debt nothing but the record and the custody is asked. -/
theorem withdraws_without_debt (custody : Custody cfg b) (recorded : Recorded cfg b)
    (none : debtOf b sender = 0) (some : amount ≠ 0)
    (enough : amount ≤ b.stock.collateralOf sender token) :
    ∃ after, withdraw cfg sender token amount b = .ok after := by
  have held : b.stock.collateralOf sender token ≠ 0 := by omega
  obtain ⟨live, listed⟩ := recorded sender token held
  have share : b.stock.collateralOf sender token ≤ ∑ user, b.stock.collateralOf user token :=
    PointSums.le_sum (fun user => b.stock.collateralOf user token) sender
  have funded : amount ≤ (b.tokens token).balanceOf cfg.address :=
    enough.trans (share.trans (custody.covered token))
  have moves := (Erc20.move_ok_iff (b.tokens token) _ cfg.address sender amount).2
    ⟨cfg.address_ne_zero, live, funded, rfl⟩
  refine ⟨_, withdraw_ok_iff.mpr ⟨some, listed, enough, ?_, _, moves, rfl⟩⟩
  intro owing
  rw [debt_of_released] at owing
  exact absurd (debt_free_after_accrual custody.sound none) owing

theorem treasury_live_of_reachable (reached : (machine cfg).Reachable b) :
    b.pool.treasury ≠ 0 := by
  apply reached.invariant fun b => b.pool.treasury ≠ 0
  · intro state start
    apply start.pool_history.invariant fun l => l.pool.treasury ≠ 0
    · intro l fresh
      obtain ⟨⟨owner, access, guardian, deploys, same⟩, _⟩ := fresh
      simp only [Treasured.deploy, bind_ok_iff, require_ok_iff, exists_const,
        Except.ok.injEq] at deploys
      obtain ⟨live, rfl⟩ := deploys
      rw [same]
      exact live
    · intro l action next _ live taken
      obtain ⟨_, ran⟩ := taken
      cases action with
      | call sender call => exact Pool.exec_treasury_live live ran
      | asset sender call =>
          simp only [Pool.act, bind_ok_iff, Except.ok.injEq] at ran
          obtain ⟨_, _, rfl⟩ := ran
          exact live
      | wait seconds =>
          cases ran
          exact live
  · intro state action next _ live taken
    obtain ⟨external, ran⟩ := taken
    cases action with
    | stock sender call =>
        obtain ⟨_, _, effect⟩ := effect_of_exec external.1 ran
        rw [effect.treasured]
        exact live
    | pool sender call =>
        simp only [act, Brokerage.lend_ok_iff] at ran
        obtain ⟨l, called, rfl⟩ := ran
        exact Pool.exec_treasury_live (l := state.lending cfg.stable) live called
    | asset token sender call =>
        simp only [act, Brokerage.pay_ok_iff] at ran
        obtain ⟨_, _, rfl⟩ := ran
        exact live
    | feeds latestRoundData =>
        cases ran
        exact live
    | multipliers uiMultiplier =>
        cases ran
        exact live
    | wait seconds =>
        cases ran
        exact live

/-- A loan leaves a debt within the limit and one scaled unit, the borrower with
the amount and the treasury with the fee; a withdrawal leaves a debt within the
limit of what remains; so neither crosses the liquidation line, unless a loan's
limit is within that unit of it. Without a debt a withdrawal reads no feed. -/
theorem loans_stay_within_their_limits (cfg : Config Address) (b : Brokerage Address)
    (reached : (machine cfg).Reachable b) (sender : Address) (outsider : Outsider cfg sender) :
    (∀ amount after, borrow cfg sender amount b = .ok after →
      totals cfg sender false after = .ok (portfolio cfg sender after) ∧
      debtOf after sender ≤ (portfolio cfg sender after).borrowLimit + debtUnit after ∧
      Disbursed cfg sender amount (mulDivUp amount cfg.originationFee WAD) b after ∧
      ∃ liquid, isLiquidatable cfg sender after = .ok liquid ∧ (liquid = true →
        (portfolio cfg sender after).liquidationLine <
          (portfolio cfg sender after).borrowLimit + debtUnit after)) ∧
    (∀ token amount after, withdraw cfg sender token amount b = .ok after →
      debtOf after sender ≠ 0 →
      totals cfg sender false after = .ok (portfolio cfg sender after) ∧
      debtOf after sender ≤ (portfolio cfg sender after).borrowLimit ∧
      isLiquidatable cfg sender after = .ok false) ∧
    ∀ token amount feeds multipliers, debtOf b sender = 0 → amount ≠ 0 →
      amount ≤ b.stock.collateralOf sender token →
      ∃ after, withdraw cfg sender token amount
        { b with latestRoundData := feeds, uiMultiplier := multipliers } = .ok after := by
  refine ⟨?_, ?_, ?_⟩
  · intro amount after ran
    have granted := granted_of_borrow ran
    have same : SamePrices sender (accruePool cfg b) after := by
      have effect := effect_of_borrow outsider.1 ran
      exact ⟨effect.timestamp.trans (accrue_pool_timestamp cfg b).symm, effect.latestRoundData,
        effect.uiMultiplier, congrFun granted.stock sender⟩
    have priced : Priced cfg sender false after := same.priced.mpr granted.priced
    have debt : debtOf after sender ≤ (portfolio cfg sender after).borrowLimit + debtUnit after := by
      rw [same.portfolio]
      exact granted.debt.trans (Nat.add_le_add_right granted.within _)
    exact ⟨priced.totals, debt, disbursed_of_borrow ran,
      liquidatable_of_within priced.for_liquidation debt⟩
  · intro token amount after ran owing
    obtain ⟨_, _, _, within, state, _, rfl⟩ := withdraw_ok_iff.mp ran
    obtain ⟨priced, debt⟩ := within owing
    have same : SamePrices sender (released cfg sender token amount b)
        (((released cfg sender token amount b).setToken token state).emit
          (.collateralWithdrawn sender token amount)) := ⟨rfl, rfl, rfl, rfl⟩
    have still : Priced cfg sender false _ := same.priced.mpr priced
    rw [← same.portfolio] at debt
    refine ⟨still.totals, debt, ?_⟩
    obtain ⟨liquid, answers, crossed⟩ :=
      liquidatable_of_within still.for_liquidation (debt.trans (Nat.le_add_right _ 0))
    cases liquid with
    | false => exact answers
    | true => exact absurd (crossed rfl) (Nat.not_lt.mpr (limit_le_line cfg sender _))
  · intro token amount feeds multipliers none some enough
    have told : (machine cfg).Reachable { b with latestRoundData := feeds } :=
      .step reached (show (machine cfg).step b (.feeds feeds) _ from ⟨trivial, rfl⟩)
    have split : (machine cfg).Reachable
        { b with latestRoundData := feeds, uiMultiplier := multipliers } :=
      .step told (show (machine cfg).step _ (.multipliers multipliers) _ from ⟨trivial, rfl⟩)
    exact withdraws_without_debt (custody_of_reachable split) (recorded_of_reachable split) none
      some enough

/-- Two borrows a thousand against collateral of twenty-five thousand. -/
theorem loan_stays_within_its_limit :
    ∃ b after, (machine loans).Reachable b ∧ borrow loans 2 (10 ^ 9) b = .ok after ∧
      debtOf after 2 ≤ (portfolio loans 2 after).borrowLimit + debtUnit after ∧
      Disbursed loans 2 (10 ^ 9) (mulDivUp (10 ^ 9) loans.originationFee WAD) b after := by
  obtain ⟨b, reached, checked⟩ := reachable_of_run (fundedRun 4)
    (fun b => passes (borrow loans 2 (10 ^ 9) b) fun _ => true) (by decide) (by decide +kernel)
  obtain ⟨after, ran, _⟩ := exists_of_passes _ checked
  have limits := loans_stay_within_their_limits loans b reached 2 (by decide)
  obtain ⟨_, debt, disbursed, _⟩ := limits.1 (10 ^ 9) after ran
  exact ⟨b, after, reached, ran, debt, disbursed⟩

end Stock

end Ghoststake
