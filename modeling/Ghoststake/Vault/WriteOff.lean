import Ghoststake.Pool.LossAllocation
import Ghoststake.Vault.Liquidation

/-!
# What a write-off takes

A write-off seizes what the shares are worth, and derives the shares to burn
back from that. Whether these are all of them, and whether anybody is left to
charge for the rest of the lien, depends on the state it finds.
-/

namespace Ghoststake

set_option autoImplicit false

open Checked Rounding ScaledIndex

namespace Pool

variable {Address : Type}

theorem absorbed_claims [DecidableEq Address] (pool : State Address) (user : Address) {loss : Nat}
    (owed : balanceOfDebt pool user = loss) :
    (loss ≤ pool.totalReserves ∧ (pool.absorbed user).totalReserves + loss = pool.totalReserves ∧
      totalSupplied (pool.absorbed user) = totalSupplied pool) ∨
    pool.totalReserves < loss ∧ (pool.absorbed user).totalReserves = 0 ∧
      (totalSupplied pool = 0 ∧ totalSupplied (pool.absorbed user) = 0 ∨
        Floored pool loss ∧
          totalSupplied (pool.absorbed user) = mulDiv pool.totalSupplyScaled 1 RAY ∨
        ¬Floored pool loss ∧ loss - pool.totalReserves < totalSupplied pool ∧
          lowered pool.supplyIndex (totalSupplied pool) (loss - pool.totalReserves) ≠ 0 ∧
          totalSupplied (pool.absorbed user) = mulDiv pool.totalSupplyScaled
            (lowered pool.supplyIndex (totalSupplied pool) (loss - pool.totalReserves)) RAY) := by
  have reserves : (pool.absorbed user).totalReserves =
      pool.totalReserves - min loss pool.totalReserves := by
    rw [← owed, ← write_down_reserves]
    rfl
  have supplied : totalSupplied (pool.absorbed user) =
      mulDiv pool.totalSupplyScaled (writeDown pool loss).supplyIndex RAY := by
    rw [← owed]
    rfl
  have left : remainder pool loss = loss - pool.totalReserves := by
    unfold remainder
    omega
  rw [reserves, supplied]
  rcases write_down_cases pool loss with
    ⟨covered, w⟩ | ⟨uncovered, nobody, w⟩ | ⟨floored, w⟩ | ⟨uncovered, less, alive, w⟩
  · rw [w]
    refine .inl ⟨by omega, by omega, rfl⟩
  · rw [w]
    exact .inr ⟨by omega, by omega, .inl ⟨nobody, nobody⟩⟩
  · have uncovered := floored.1
    rw [w]
    exact .inr ⟨by omega, by omega, .inr (.inl ⟨floored, rfl⟩)⟩
  · have spared : ¬Floored pool loss := fun floored =>
      alive ((lowered_eq_zero_iff floored.2.1).2 floored.2.2)
    rw [w, ← left]
    exact .inr ⟨by omega, by omega, .inr (.inr ⟨spared, less, alive, rfl⟩)⟩

theorem debt_repaid_nothing (pool : State Address) (user : Address) :
    mulDiv (pool.scaledDebt user - repaidScaled pool 0 user) pool.borrowIndex RAY =
      balanceOfDebt pool user := by
  simp only [repaidScaled, mul_div_zero_left, Nat.le_zero]
  split_ifs with whole
  · rw [Nat.sub_self, mul_div_zero_left]
    rcases whole with none | none
    · exact none
    · rw [balanceOfDebt, none, mul_div_zero_left]
  · rfl

theorem absorbed_borrow_index [DecidableEq Address] (pool : State Address) (user : Address) :
    (pool.absorbed user).borrowIndex = pool.borrowIndex := rfl

end Pool

namespace Vault

variable {Address : Type} [DecidableEq Address] [Zero Address] {cfg : Config Address}
  {pool : Pool.Config Address} {c after : Chain Address} {sender user : Address}

/-- Nothing of the position is left, the pool has all of it, and what the pool
has on its books for reserves and suppliers fell by the rest of the lien, up to
one scaled unit of debt. -/
structure SeizesEverything (cfg : Config Address) (pool : Pool.Config Address) (user : Address)
    (c after : Chain Address) : Prop where
  lien : lienOf cfg after user = 0
  shares : balanceOf after user = 0
  ledger : (after.vault.positions user).principal = 0 ∧
    (after.vault.positions user).settledYield = 0
  received : after.token.balanceOf pool.address =
    c.token.balanceOf pool.address + convertToAssets cfg c (balanceOf c user)
  charged : lienOf cfg (accrueLien cfg c) user +
      (after.pool.totalReserves + Pool.totalSupplied after.pool) ≤
    convertToAssets cfg c (balanceOf c user) +
      ((accrueLien cfg c).pool.totalReserves + Pool.totalSupplied (accrueLien cfg c).pool)
  charged_once : convertToAssets cfg c (balanceOf c user) +
      ((accrueLien cfg c).pool.totalReserves + Pool.totalSupplied (accrueLien cfg c).pool) ≤
    lienOf cfg (accrueLien cfg c) user + debtUnit after +
      (after.pool.totalReserves + Pool.totalSupplied after.pool)

/-- What is left of the lien once the worth of the shares has cleared as many
scaled units of it as it pays for. -/
def leftOwing (cfg : Config Address) (user : Address) (c : Chain Address) : Nat :=
  let lent := (accrueLien cfg c).pool
  mulDiv (lent.scaledDebt user -
    Pool.repaidScaled lent (convertToAssets cfg c (balanceOf c user)) user) lent.borrowIndex RAY

/-- The worth of the shares drops less than one share is worth, nobody without
shares has anything on the ledger, and there is someone to charge: reserves and
suppliers have what the shares do not cover, the floor of the supply index leaves
suppliers no more than that, and where the index falls, its dust costs them no
more than the tolerance. -/
@[mk_iff]
structure Seizable (cfg : Config Address) (user : Address) (c : Chain Address) : Prop where
  divides : balanceOf c user * (totalAssets cfg c + 1) % (totalSupply c + virtualShares) <
    totalAssets cfg c + 1
  booked : balanceOf c user = 0 →
    (c.vault.positions user).principal = 0 ∧ (c.vault.positions user).settledYield = 0
  chargeable : lienOf cfg (accrueLien cfg c) user ≤ convertToAssets cfg c (balanceOf c user) +
    ((accrueLien cfg c).pool.totalReserves + Pool.totalSupplied (accrueLien cfg c).pool)
  lowers : Pool.Floored (accrueLien cfg c).pool (leftOwing cfg user c) →
    lienOf cfg (accrueLien cfg c) user + mulDiv (accrueLien cfg c).pool.totalSupplyScaled 1 RAY ≤
      convertToAssets cfg c (balanceOf c user) +
        ((accrueLien cfg c).pool.totalReserves + Pool.totalSupplied (accrueLien cfg c).pool)
  dusts : (accrueLien cfg c).pool.totalReserves < leftOwing cfg user c →
    (convertToAssets cfg c (balanceOf c user) +
        ((accrueLien cfg c).pool.totalReserves + Pool.totalSupplied (accrueLien cfg c).pool) -
      (lienOf cfg (accrueLien cfg c) user + debtUnit (accrueLien cfg c))) * RAY ≤
    (accrueLien cfg c).pool.totalSupplyScaled *
      max 1 (lowered (accrueLien cfg c).pool.supplyIndex
        (Pool.totalSupplied (accrueLien cfg c).pool)
        (leftOwing cfg user c - (accrueLien cfg c).pool.totalReserves))

structure Recovers (cfg : Config Address) (pool : Pool.Config Address) (user : Address)
    (amount : Nat) (c recovered : Chain Address) : Prop where
  least : lienOf cfg (accrueLien cfg c) user ≤ lienOf cfg recovered user + amount
  most : lienOf cfg recovered user + amount ≤
    lienOf cfg (accrueLien cfg c) user + debtUnit recovered
  current : Pool.elapsed recovered.toLending = 0
  claims : Pool.SameClaims (accrueLien cfg c).pool recovered.pool
  borrowIndex : recovered.pool.borrowIndex = (accrueLien cfg c).pool.borrowIndex
  left : Pool.balanceOfDebt recovered.pool user =
    mulDiv ((accrueLien cfg c).pool.scaledDebt user -
      Pool.repaidScaled (accrueLien cfg c).pool amount user) (accrueLien cfg c).pool.borrowIndex RAY
  received : recovered.token.balanceOf pool.address = c.token.balanceOf pool.address + amount

theorem recovers_of_recover {amount : Nat} {recovered : Chain Address}
    (source : cfg.lienSource = some pool)
    (ran : recover cfg pool user amount (upToDate cfg user c) = .ok recovered) :
    Recovers cfg pool user amount c recovered := by
  have current : Pool.elapsed (upToDate cfg user c).toLending = 0 := current_accrue_lien source
  have lending : (upToDate cfg user c).toLending = (accrueLien cfg c).toLending :=
    accrue_lien_settle cfg user c
  have samePool : (upToDate cfg user c).pool = (accrueLien cfg c).pool :=
    congrArg Lending.pool lending
  have accrued : lienOf cfg (upToDate cfg user c) user = lienOf cfg (accrueLien cfg c) user :=
    lien_of_accrue_settle cfg user c user
  have token := up_to_date_token cfg user c
  unfold recover at ran
  split_ifs at ran with something
  · obtain ⟨burnt, burns, repays⟩ := (bind_ok_iff _ _ _).1 ran
    have burntLending := lending_of_burn_collateral burns
    have burntPool : burnt.pool = (upToDate cfg user c).pool :=
      congrArg Lending.pool burntLending
    have burntToken : burnt.token = (upToDate cfg user c).token :=
      congrArg Lending.token burntLending
    have still : Pool.elapsed burnt.toLending = 0 := by
      rw [burntLending]
      exact current
    obtain ⟨paidOff, _⟩ :=
      paid_off_of_repay_lien (c := c) source still (burntPool.trans samePool) repays
    obtain ⟨_, lent, moved, _⟩ := repay_lien_ok source still repays
    have reaches : Reaches cfg (fun _ => False) burnt recovered :=
      Reaches.repay_lien source repays
    rw [burntPool, samePool] at lent
    refine ⟨paidOff.falls_by, paidOff.falls, ?_, ?_, ?_, ?_, ?_⟩
    · rw [Pool.elapsed, reaches.time, lent, repaid_pool_last_accrual, ← samePool, ← burntPool]
      exact still
    · rw [lent]
      exact .debit_debt _ _ _ _
    · rw [lent]
      rfl
    · rw [Pool.balanceOfDebt, lent, repaid_pool_debt]
      rfl
    · rw [moved, Erc20.moved_balance_target _ _ (cfg.pool_live pool source).2.symm, burntToken,
        token]
  · cases ran
    have nothing := not_not.1 something
    refine ⟨?_, ?_, current, ?_, ?_, ?_, ?_⟩
    · rw [accrued, nothing]
      exact Nat.le_refl _
    · rw [accrued, nothing]
      exact Nat.le_add_right _ _
    · rw [samePool]
      exact .refl _
    · rw [samePool]
    · rw [samePool, nothing, Pool.debt_repaid_nothing]
    · rw [token, nothing]
      rfl

theorem write_off_ok (source : cfg.lienSource = some pool)
    (ran : writeOffBadDebt cfg sender user c = .ok after) :
    ∃ recovered, Recovers cfg pool user (convertToAssets cfg c (balanceOf c user)) c recovered ∧
      after.token = recovered.token ∧ after.pool = recovered.pool.absorbed user := by
  simp only [writeOffBadDebt, bind_ok_iff, require_ok_iff, exists_const, creditor_ok_iff,
    Except.ok.injEq, Prod.exists] at ran
  obtain ⟨other, found, _, recovered, recovers, loss, lending, absorbs, done⟩ := ran
  obtain rfl : pool = other := Option.some.inj (source.symm.trans found)
  obtain ⟨_, _, _, _, rfl⟩ := Pool.absorb_bad_debt_ok_iff.1 absorbs
  have ready : accrueLien cfg (settleInternal cfg user c) = upToDate cfg user c := rfl
  rw [ready, convert_up_to_date] at recovers
  have recovery := recovers_of_recover source recovers
  have still := Pool.accrue_of_no_time pool _ recovery.current
  refine ⟨recovered, recovery, ?_, ?_⟩
  · rw [← done]
    rfl
  · rw [← done]
    change (Pool.accrue pool recovered.toLending).pool.absorbed user = _
    rw [still]

omit [DecidableEq Address] in
/-- The shares burnt for what the shares are worth are all of them exactly when
the worth drops less than one share is worth. -/
theorem burns_everything_iff (cfg : Config Address) (c : Chain Address) (user : Address) :
    balanceOf c user ≤ previewWithdraw cfg c (convertToAssets cfg c (balanceOf c user)) ↔
      balanceOf c user * (totalAssets cfg c + 1) % (totalSupply c + virtualShares) <
        totalAssets cfg c + 1 :=
  scaled_le_up_balance_iff (Nat.succ_pos _)

theorem position_after_write_off_iff (ran : writeOffBadDebt cfg sender user c = .ok after) :
    (balanceOf after user = 0 ∧ (after.vault.positions user).principal = 0 ∧
        (after.vault.positions user).settledYield = 0) ↔
      balanceOf c user ≤ previewWithdraw cfg c (convertToAssets cfg c (balanceOf c user)) ∧
        (balanceOf c user = 0 → (c.vault.positions user).principal = 0 ∧
          (c.vault.positions user).settledYield = 0) := by
  rcases leaves_of_write_off ran with ⟨something, move⟩ | ⟨nothing, move⟩
  · have holds : balanceOf c user ≠ 0 := by
      intro none
      rw [none, convertToAssets, mul_div_zero_left] at something
      exact something rfl
    have capped : previewWithdraw cfg c (convertToAssets cfg c (balanceOf c user)) ≤
        balanceOf c user := preview_withdraw_le (Nat.le_refl _)
    rw [min_eq_left capped] at move
    have shares : balanceOf after user = balanceOf c user -
        previewWithdraw cfg c (convertToAssets cfg c (balanceOf c user)) := by
      rw [move.holders, Function.update_self]
    constructor
    · rintro ⟨none, _⟩
      refine ⟨by omega, fun zero => absurd zero holds⟩
    · rintro ⟨whole, _⟩
      have all : previewWithdraw cfg c (convertToAssets cfg c (balanceOf c user)) =
          balanceOf c user := Nat.le_antisymm capped whole
      rw [move.ledger, Function.update_self, all, reduced_whole]
      refine ⟨?_, rfl, rfl⟩
      omega
  · have preview : previewWithdraw cfg c (convertToAssets cfg c (balanceOf c user)) = 0 := by
      rw [nothing, previewWithdraw]
      simp [mulDivUp]
    rw [preview, move.holders, move.ledger, Function.update_self, Nat.le_zero]
    constructor
    · rintro ⟨none, principal, settled⟩
      refine ⟨none, fun _ => ⟨principal, ?_⟩⟩
      exact Nat.eq_zero_of_add_eq_zero_right settled
    · rintro ⟨none, empty⟩
      obtain ⟨principal, settled⟩ := empty none
      refine ⟨none, principal, ?_⟩
      change (c.vault.positions user).settledYield + _ = 0
      rw [settled, accrued_of_no_principal principal]

omit [DecidableEq Address] in
theorem Recovers.left_owing {recovered : Chain Address} (source : cfg.lienSource = some pool)
    (recovery : Recovers cfg pool user (convertToAssets cfg c (balanceOf c user)) c recovered) :
    Pool.balanceOfDebt recovered.pool user = leftOwing cfg user c ∧
      lienOf cfg recovered user = leftOwing cfg user c :=
  ⟨recovery.left, (lien_of_eq source recovered user).trans recovery.left⟩

/-- A write-off charges what is left of the lien, once, exactly when there is
someone to charge it to. -/
theorem write_off_charges_iff {recovered : Chain Address} (source : cfg.lienSource = some pool)
    (recovery : Recovers cfg pool user (convertToAssets cfg c (balanceOf c user)) c recovered)
    (absorbed : after.pool = recovered.pool.absorbed user)
    {worth lien claims : Nat} (held : convertToAssets cfg c (balanceOf c user) = worth)
    (owing : lienOf cfg (accrueLien cfg c) user = lien)
    (claimed : (accrueLien cfg c).pool.totalReserves +
      Pool.totalSupplied (accrueLien cfg c).pool = claims) :
    (lien + (after.pool.totalReserves + Pool.totalSupplied after.pool) ≤ worth + claims ∧
      worth + claims ≤ lien + debtUnit after +
        (after.pool.totalReserves + Pool.totalSupplied after.pool)) ↔
    lien ≤ worth + claims ∧
      (Pool.Floored (accrueLien cfg c).pool (leftOwing cfg user c) →
        lien + mulDiv (accrueLien cfg c).pool.totalSupplyScaled 1 RAY ≤ worth + claims) ∧
      ((accrueLien cfg c).pool.totalReserves < leftOwing cfg user c →
        (worth + claims - (lien + debtUnit (accrueLien cfg c))) * RAY ≤
          (accrueLien cfg c).pool.totalSupplyScaled *
            max 1 (lowered (accrueLien cfg c).pool.supplyIndex
              (Pool.totalSupplied (accrueLien cfg c).pool)
              (leftOwing cfg user c - (accrueLien cfg c).pool.totalReserves))) := by
  obtain ⟨owed, left⟩ := recovery.left_owing source
  have unit : debtUnit after = debtUnit (accrueLien cfg c) := by
    rw [debtUnit, absorbed, Pool.absorbed_borrow_index, recovery.borrowIndex, debtUnit]
  have unitLeft : debtUnit recovered = debtUnit (accrueLien cfg c) := by
    rw [debtUnit, recovery.borrowIndex, debtUnit]
  have least := recovery.least
  have most := recovery.most
  rw [held, owing, left] at least most
  rw [unitLeft] at most
  have falls := Pool.absorbed_claims recovered.pool user owed
  have claims' := recovery.claims
  rw [← absorbed, claims'.floored_iff, claims'.total_supplied, claims'.totalReserves,
    claims'.supplyIndex, claims'.totalSupplyScaled] at falls
  rw [unit, ← le_mul_div_iff ray_pos]
  generalize debtUnit (accrueLien cfg c) = one at most ⊢
  generalize leftOwing cfg user c = rest at least most falls ⊢
  rcases falls with ⟨bears, reserves, same⟩ | ⟨spends, none, falls⟩
  · have spared : ¬Pool.Floored (accrueLien cfg c).pool rest := fun floored =>
      floored.1 (by unfold Pool.remainder; omega)
    simp only [spared, false_implies, not_lt.2 bears, and_true]
    omega
  · simp only [spends, true_implies]
    rcases falls with ⟨nobody, gone⟩ | ⟨floored, kept⟩ | ⟨spared, less, alive, kept⟩
    · have spared : ¬Pool.Floored (accrueLien cfg c).pool rest := fun floored =>
        floored.2.1 nobody
      simp only [spared, false_implies, true_and]
      omega
    · have stopped := (Pool.lowered_eq_zero_iff floored.2.1).2 floored.2.2
      have remains : Pool.remainder (accrueLien cfg c).pool rest =
          rest - (accrueLien cfg c).pool.totalReserves := by
        unfold Pool.remainder
        omega
      rw [remains] at stopped
      rw [stopped]
      simp only [floored, true_implies, Nat.max_eq_left (Nat.zero_le 1)]
      omega
    · have lower : mulDiv (accrueLien cfg c).pool.totalSupplyScaled
          (lowered (accrueLien cfg c).pool.supplyIndex
            (Pool.totalSupplied (accrueLien cfg c).pool)
            (rest - (accrueLien cfg c).pool.totalReserves)) RAY +
          (rest - (accrueLien cfg c).pool.totalReserves) ≤
            Pool.totalSupplied (accrueLien cfg c).pool :=
        balance_add_charge_le ray_pos less.le (Nat.zero_lt_of_lt less)
      rw [Nat.max_eq_right (Nat.one_le_iff_ne_zero.2 alive)]
      simp only [spared, false_implies, true_and]
      omega

/-- A write-off goes through exactly when the lien is more than the shares are
worth and the pool lends through the vault. -/
theorem writes_off_iff [Fintype Address] (source : cfg.lienSource = some pool)
    (reached : (machine cfg).Reachable c) (sender user : Address) :
    (∃ after, writeOffBadDebt cfg sender user c = .ok after) ↔
      convertToAssets cfg (upToDate cfg user c) (balanceOf (upToDate cfg user c) user) <
        lienOf cfg (upToDate cfg user c) user ∧ c.pool.borrowModule = cfg.address := by
  constructor
  · rintro ⟨after, ran⟩
    simp only [writeOffBadDebt, bind_ok_iff, require_ok_iff, exists_const, creditor_ok_iff,
      Except.ok.injEq, Prod.exists] at ran
    obtain ⟨other, found, insolvent, recovered, recovers, _, _, absorbs, _⟩ := ran
    refine ⟨insolvent, ?_⟩
    obtain ⟨lends, _⟩ := Pool.absorb_bad_debt_ok_iff.1 absorbs
    have settled : Reaches cfg (fun _ => False) c (settleInternal cfg user c) :=
      .of_lending (settle_lending cfg user c)
    have reaches : Reaches cfg (fun _ => False) c recovered :=
      settled.trans (Reaches.accrue_lien.trans (reaches_recover found recovers))
    exact (lends.trans reaches.wiring).symm
  · rintro ⟨insolvent, wired⟩
    have owing : lienOf cfg (upToDate cfg user c) user ≠ 0 := by omega
    have sound := sound_up_to_date source reached user
    have lends : (upToDate cfg user c).pool.borrowModule = cfg.address := by
      rw [upToDate, accrue_lien_lending source, settle_lending, Pool.accrue_borrow_module, wired]
    obtain ⟨after, ran, _⟩ := writes_off source rfl sound (custody_of_reachable reached)
      (lien_live reached wired owing) lends insolvent
    exact ⟨after, ran⟩

/-! ## Only the guard calls a position recoverable -/

section Guard

variable {owing : Address} {amount debt collateral : Nat}

theorem approve_not_recoverable (token : Erc20 Address) (owner spender : Address) :
    token.approve owner spender amount ≠ .error (.positionIsRecoverable owing debt collateral) := by
  apply guard_avoids (by simp)
  intro _
  apply guard_avoids (by simp)
  intro _ raised
  cases raised

theorem update_not_recoverable (token : Erc20 Address) (source target : Address) :
    token.update source target amount ≠
      .error (.positionIsRecoverable owing debt collateral) := by
  unfold Erc20.update Erc20.take
  apply bind_avoids
  · split_ifs
    · intro raised
      cases raised
    · apply guard_avoids (by simp)
      intro _ raised
      cases raised
  · intro _ _ raised
    cases raised

theorem transfer_from_not_recoverable (token : Erc20 Address)
    (spender source target : Address) :
    token.transferFrom spender source target amount ≠
      .error (.positionIsRecoverable owing debt collateral) := by
  apply bind_avoids
  · unfold Erc20.spendAllowance
    split_ifs
    · apply guard_avoids (by simp)
      intro _
      exact approve_not_recoverable _ _ _
    · intro raised
      cases raised
  · intro spent _
    apply guard_avoids (by simp)
    intro _
    apply guard_avoids (by simp)
    intro _
    exact update_not_recoverable _ _ _

theorem burn_collateral_not_recoverable (cfg : Config Address) (user : Address)
    (c : Chain Address) :
    burnCollateral cfg user amount c ≠
      .error (.positionIsRecoverable owing debt collateral) := by
  apply bind_avoids
  · apply guard_avoids (by simp)
    intro _
    apply bind_avoids
    · have leg : ¬(user ≠ 0 ∧ (0 : Address) ≠ 0 ∧ user ≠ 0 ∧
          min (previewWithdraw cfg c amount) (balanceOf c user) ≠ 0) := by simp
      rw [carryLedger, if_neg leg]
      intro raised
      cases raised
    · intro carried _
      apply bind_avoids
      · exact update_not_recoverable _ _ _
      · intro _ _ raised
        cases raised
  · intro _ _ raised
    cases raised

theorem repay_lien_not_recoverable (cfg : Config Address) (pool : Pool.Config Address)
    (user : Address) (c : Chain Address) :
    repayLien cfg pool amount user c ≠
      .error (.positionIsRecoverable owing debt collateral) := by
  apply bind_avoids
  · apply bind_avoids
    · exact approve_not_recoverable _ _ _
    · intro _ _ raised
      cases raised
  · intro approved _
    apply bind_avoids
    · apply guard_avoids (by simp)
      intro _
      apply guard_avoids (by simp)
      intro _
      apply guard_avoids (by simp)
      intro _
      apply guard_avoids (by simp)
      intro _
      apply bind_avoids
      · exact transfer_from_not_recoverable _ _ _ _
      · intro _ _ raised
        cases raised
    · intro _ _ raised
      cases raised

omit [Zero Address] in
theorem absorb_not_recoverable (pool : Pool.Config Address) (l : Lending Address) :
    Pool.absorbBadDebt pool sender user l ≠
      .error (.positionIsRecoverable owing debt collateral) := by
  apply guard_avoids (by simp)
  intro _
  apply guard_avoids (by simp)
  intro _
  apply guard_avoids (by simp)
  intro _ raised
  cases raised

/-- The guard of a write-off, and nothing after it, finds the position recoverable. -/
theorem write_off_guarded_iff (source : cfg.lienSource = some pool) (c : Chain Address)
    (sender user : Address) :
    (∀ debt collateral, writeOffBadDebt cfg sender user c ≠
      .error (.positionIsRecoverable user debt collateral)) ↔
    convertToAssets cfg (upToDate cfg user c) (balanceOf (upToDate cfg user c) user) <
      lienOf cfg (upToDate cfg user c) user := by
  have ready : accrueLien cfg (settleInternal cfg user c) = upToDate cfg user c := rfl
  unfold writeOffBadDebt
  rw [creditor_ok_iff.2 source, ok_bind]
  simp only [ready]
  constructor
  · intro passed
    by_contra recoverable
    apply passed (lienOf cfg (upToDate cfg user c) user)
      (convertToAssets cfg (upToDate cfg user c) (balanceOf (upToDate cfg user c) user))
    rw [require_of_not _ recoverable]
    rfl
  · intro insolvent debt collateral
    rw [require_of _ insolvent, ok_bind]
    apply bind_avoids
    · unfold recover
      split_ifs
      · apply bind_avoids (burn_collateral_not_recoverable _ _ _)
        intro burnt _
        exact repay_lien_not_recoverable _ _ _ _
      · intro raised
        cases raised
    · intro recovered _
      apply bind_avoids (absorb_not_recoverable _ _)
      intro _ _ raised
      cases raised

end Guard

/-! ## A share short of a whole unit -/

section Sample

instance (cfg : Config Address) (user : Address) (c : Chain Address) :
    Decidable (Seizable cfg user c) :=
  decidable_of_iff' _ (seizable_iff cfg user c)

/-- A borrower who sent `sent` of its shares away before borrowing, and whose
lien has outgrown the rest. -/
def shortRun (sent : Nat) : List (Action (Fin 8)) :=
  [.pool 6 (.setBorrowModule 5), .pool 1 (.supply (10 ^ 12)), .vault 2 (.deposit (10 ^ 9) 2),
    .vault 2 (.transfer 3 sent), .vault 2 (.borrow (4 * 10 ^ 8)), .wait (2 * 10 ^ 9)]

end Sample

end Vault

end Ghoststake
