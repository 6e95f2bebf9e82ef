import Ghoststake.Finance.Reader
import Ghoststake.Vault.WriteOff

/-!
# The mirror and the contracts at any time

The raw state of an account is read once and described at a time of the
reader's choosing. The description is what the contracts hold after settling the
account and accruing the pool at that time, the quote is what a liquidation
takes then, and the comparison of the debt with the shares is the guard of a
write-off.
-/

namespace Ghoststake

set_option autoImplicit false

open Checked Rounding

def Chain.atTime {Address : Type} (c : Chain Address) (now : Nat) : Chain Address :=
  { c with timestamp := now }

namespace Vault

variable {Address : Type} [DecidableEq Address] [Zero Address] {cfg : Config Address}
  {pool : Pool.Config Address} {c after : Chain Address} {sender user : Address}

theorem settled_and_accrued (source : cfg.lienSource = some pool) (c : Chain Address)
    (settler accruer user : Address) :
    (exec cfg settler c (.settle user) >>= execPool cfg accruer .accrue) =
      .ok (upToDate cfg user c) := by
  have settled : exec cfg settler c (.settle user) = .ok (settleInternal cfg user c) := rfl
  rw [settled, ok_bind, execPool, creditor_ok_iff.2 source, ok_bind, upToDate, accrueLien, source]
  rfl

/-- What a liquidation of the most there is takes is announced by its event. -/
theorem liquidated_of_liquidate
    (ran : liquidate cfg sender user uint256Max c = .ok after) :
    maxLiquidatableDebt cfg (upToDate cfg user c) user ≠ 0 ∧
      ∃ lien health, after.vault.logs.getLast? = some (.liquidated sender user
        (maxLiquidatableDebt cfg (upToDate cfg user c) user)
        (seizure cfg (upToDate cfg user c) user
          (maxLiquidatableDebt cfg (upToDate cfg user c) user))
        (seizure cfg (upToDate cfg user c) user
          (maxLiquidatableDebt cfg (upToDate cfg user c) user) -
            maxLiquidatableDebt cfg (upToDate cfg user c) user) lien health) := by
  simp only [liquidate, bind_ok_iff, require_ok_iff, exists_const, creditor_ok_iff,
    Except.ok.injEq] at ran
  obtain ⟨_, _, underwater, something, _, _, _, seized, _, done⟩ := ran
  have ready : accrueLien cfg (settleInternal cfg user c) = upToDate cfg user c := rfl
  have most : mulDiv (lienOf cfg (upToDate cfg user c) user)
      (effectiveCloseFactor cfg (healthFactor cfg (upToDate cfg user c) user)) WAD =
        maxLiquidatableDebt cfg (upToDate cfg user c) user := (if_neg (not_le.2 underwater)).symm
  simp only [ready, most, if_true] at something done
  refine ⟨something, lienOf cfg seized user, healthFactor cfg seized user, ?_⟩
  rw [← done]
  exact List.getLast?_concat

end Vault

namespace Finance

variable {Address : Type} [DecidableEq Address] [Zero Address]

/-- What a description and its quote say, and what the contracts do at `now`. -/
structure Mirrors (cfg : Vault.Config Address) (c held : Chain Address) (user : Address)
    (h : Health) (q : Quote) : Prop where
  collateral : h.collateral = Vault.collateralValue cfg held user
  debt : h.debt = Vault.lienOf cfg held user
  health_factor : h.healthFactor =
    if Vault.lienOf cfg held user = 0 then none else some (Vault.healthFactor cfg held user)
  no_debt : Vault.lienOf cfg held user = 0 → Vault.healthFactor cfg held user = uint256Max
  liquidatable : h.liquidatable = Vault.isLiquidatable cfg held user
  max_borrowable : h.maxBorrowable = Vault.maxBorrowable cfg held user
  /-- Every liquidation of the most there is takes what is quoted. -/
  quoted : ∀ sender after, Vault.liquidate cfg sender user uint256Max c = .ok after →
    q.maxRepay ≠ 0 ∧ ∃ lien health, after.vault.logs.getLast? = some
      (.liquidated sender user q.maxRepay q.seized (q.seized - q.maxRepay) lien health)
  paid : ∀ sender after, Vault.Outsider cfg sender →
    Vault.liquidate cfg sender user uint256Max c = .ok after →
    Vault.Liquidates cfg sender user q.maxRepay q.seized c after
  /-- And whoever can pay the quoted amount finds that it goes through. -/
  payable : q.maxRepay ≠ 0 → user ≠ 0 → ∀ sender, Vault.Outsider cfg sender → sender ≠ 0 →
    q.maxRepay ≤ c.token.balanceOf sender → q.maxRepay ≤ c.token.allowance sender cfg.address →
    ∃ after, Vault.liquidate cfg sender user uint256Max c = .ok after
  write_off : ∀ sender, h.sharesValue < h.debt ↔
    ∀ debt collateral, Vault.writeOffBadDebt cfg sender user c ≠
      .error (.positionIsRecoverable user debt collateral)

section Quotes

variable {cfg : Vault.Config Address} {pool : Pool.Config Address} {c : Chain Address}
  {user : Address}

theorem max_borrowable_read (source : cfg.lienSource = some pool) :
    (health cfg pool c user).maxBorrowable =
      Vault.maxBorrowable cfg (Vault.upToDate cfg user c) user := by
  have figure : (health cfg pool c user).maxBorrowable =
      maxBorrowable (health cfg pool c user).collateral cfg.maxLTV
        (health cfg pool c user).debt := rfl
  have reads := reads_health (c := c) source user
  rw [figure, reads.collateral, reads.debt, maxBorrowable, Vault.maxBorrowable]
  split_ifs with below above
  · omega
  · rfl
  · rfl
  · omega

theorem health_factor_read (source : cfg.lienSource = some pool) :
    (health cfg pool c user).healthFactor =
      if Vault.lienOf cfg (Vault.upToDate cfg user c) user = 0 then none
      else some (Vault.healthFactor cfg (Vault.upToDate cfg user c) user) := by
  have reads := reads_health (c := c) source user
  have figure : (health cfg pool c user).healthFactor =
      (healthFactor (health cfg pool c user).collateral cfg.liquidationThreshold
        (health cfg pool c user).debt).1 := rfl
  by_cases none : (health cfg pool c user).debt = 0
  · rw [figure, healthFactor, if_pos none, if_pos (reads.debt.symm.trans none)]
  · have owing : Vault.lienOf cfg (Vault.upToDate cfg user c) user ≠ 0 := by
      rw [← reads.debt]
      exact none
    rw [reads.health_factor none, if_neg owing]

omit [DecidableEq Address] in
theorem healthy_of_no_lien (none : Vault.lienOf cfg c user = 0) :
    Vault.healthFactor cfg c user = uint256Max ∧ WAD ≤ Vault.healthFactor cfg c user := by
  have most : Vault.healthFactor cfg c user = uint256Max := if_pos none
  refine ⟨most, ?_⟩
  rw [most]
  unfold WAD uint256Max
  decide

/-- Nothing is quoted exactly when there is nothing that a call may repay. -/
theorem max_repay_read (source : cfg.lienSource = some pool) :
    (quoteFor (health cfg pool c user) (vaultParams cfg)).maxRepay =
      Vault.maxLiquidatableDebt cfg (Vault.upToDate cfg user c) user := by
  have reads := reads_health (c := c) source user
  by_cases underwater : Vault.healthFactor cfg (Vault.upToDate cfg user c) user < WAD
  · have owing : (health cfg pool c user).debt ≠ 0 := by
      intro none
      have healthy := (healthy_of_no_lien (reads.debt.symm.trans none)).2
      omega
    obtain ⟨full, quoted⟩ := quote_read reads (reads.liquidatable.2 ⟨owing, underwater⟩)
    rw [quoted]
    rfl
  · have figure : (health cfg pool c user).healthFactor = _ := health_factor_read source
    have nothing : quoteFor (health cfg pool c user) (vaultParams cfg) = .empty := by
      unfold quoteFor liquidationQuote vaultParams
      rw [figure]
      split_ifs with none
      · rfl
      · exact if_pos (not_lt.1 underwater)
    rw [nothing, Vault.maxLiquidatableDebt, if_pos (not_lt.1 underwater)]
    rfl

theorem seized_read (source : cfg.lienSource = some pool)
    (something : Vault.maxLiquidatableDebt cfg (Vault.upToDate cfg user c) user ≠ 0) :
    (quoteFor (health cfg pool c user) (vaultParams cfg)).seized =
      Vault.seizure cfg (Vault.upToDate cfg user c) user
        (Vault.maxLiquidatableDebt cfg (Vault.upToDate cfg user c) user) := by
  have reads := reads_health (c := c) source user
  have underwater : Vault.healthFactor cfg (Vault.upToDate cfg user c) user < WAD := by
    by_contra healthy
    exact something (if_pos (not_lt.1 healthy))
  have owing : (health cfg pool c user).debt ≠ 0 := by
    intro none
    have healthy := (healthy_of_no_lien (reads.debt.symm.trans none)).2
    omega
  obtain ⟨full, quoted⟩ := quote_read reads (reads.liquidatable.2 ⟨owing, underwater⟩)
  rw [quoted, Quote.repaying, Vault.seizure]
  dsimp only
  split_ifs with capped
  · exact (min_eq_right capped.le).symm
  · exact (min_eq_left (not_lt.1 capped)).symm

end Quotes

section Mirror

variable [Fintype Address]

/-- The description of an account's stored figures at any time is what the
contracts hold once the account is settled and the pool accrued at that time;
the quote is what a liquidation takes then; and a debt above the worth of the
shares is what a write-off asks for. -/
theorem mirror_refines_contracts (cfg : Vault.Config Address) (pool : Pool.Config Address)
    (c : Chain Address) (source : cfg.lienSource = some pool)
    (reached : (Vault.machine cfg).Reachable c) (user : Address) (now : Nat) :
    ∃ held, (∀ settler accruer, (Vault.exec cfg settler (c.atTime now) (.settle user) >>=
        Vault.execPool cfg accruer .accrue) = .ok held) ∧
      Mirrors cfg (c.atTime now) held user
        (describe (readState cfg pool c user) (vaultParams cfg) now)
        (quoteFor (describe (readState cfg pool c user) (vaultParams cfg) now)
          (vaultParams cfg)) := by
  refine ⟨Vault.upToDate cfg user (c.atTime now),
    fun settler accruer => Vault.settled_and_accrued source _ settler accruer user, ?_⟩
  have described : describe (readState cfg pool c user) (vaultParams cfg) now =
      health cfg pool (c.atTime now) user := rfl
  have reads := reads_health (c := c.atTime now) source user
  have repay : (quoteFor (health cfg pool (c.atTime now) user) (vaultParams cfg)).maxRepay =
      Vault.maxLiquidatableDebt cfg (Vault.upToDate cfg user (c.atTime now)) user :=
    max_repay_read source
  rw [described]
  constructor
  · exact reads.collateral
  · exact reads.debt
  · exact health_factor_read source
  · exact fun none => (healthy_of_no_lien none).1
  · apply Bool.eq_iff_iff.2
    rw [reads.liquidatable, Vault.isLiquidatable, decide_eq_true_iff]
    apply and_iff_right_of_imp
    intro underwater none
    have healthy := (healthy_of_no_lien (reads.debt.symm.trans none)).2
    omega
  · exact max_borrowable_read source
  · intro sender after ran
    obtain ⟨something, announced⟩ := Vault.liquidated_of_liquidate ran
    rw [repay, seized_read source something]
    exact ⟨something, announced⟩
  · intro sender after outsider ran
    have something := (Vault.liquidated_of_liquidate ran).1
    have most : Vault.liquidated cfg (Vault.upToDate cfg user (c.atTime now)) user uint256Max =
        Vault.maxLiquidatableDebt cfg (Vault.upToDate cfg user (c.atTime now)) user := if_pos rfl
    have liquidates := Vault.liquidates_of_liquidate outsider ran
    rw [most] at liquidates
    rw [repay, seized_read source something]
    exact liquidates
  · rw [repay]
    intro something userLive sender outsider senderLive funded allowed
    have custody := Vault.custody_of_reachable reached
    have token := Vault.up_to_date_token cfg user (c.atTime now)
    have books : (c.atTime now).pool.Sound :=
      Pool.sound_of_reachable (l := c.toLending) (Vault.pool_reachable reached pool source)
    have sound : (Vault.upToDate cfg user (c.atTime now)).pool.Sound := by
      rw [Vault.upToDate, Vault.accrue_lien_lending source, Vault.settle_lending]
      exact books.accrue
    obtain ⟨after, ran, _⟩ := Vault.liquidates source rfl sound
      ⟨custody.holders_total, custody.zero_holds_none, custody.unapproved⟩ outsider.1 senderLive
      userLive something (token ▸ funded) (token ▸ allowed)
    exact ⟨after, ran⟩
  · intro sender
    rw [reads.shares, reads.debt, Vault.write_off_guarded_iff source]

open Vault in
/-- A borrower read the moment it borrowed, and described long enough after for
its lien to have outgrown the threshold. -/
theorem mirror_of_borrower :
    ∃ c, (machine (smallVault (10 ^ 9))).Reachable c ∧
      (quoteFor (describe (readState (smallVault (10 ^ 9)) (Pool.flatCurve (10 ^ 9)) c 2)
        (vaultParams (smallVault (10 ^ 9))) (c.timestamp + 7 * 10 ^ 8))
          (vaultParams (smallVault (10 ^ 9)))).maxRepay ≠ 0 ∧
      ∃ held, (∀ settler accruer,
          (exec (smallVault (10 ^ 9)) settler (c.atTime (c.timestamp + 7 * 10 ^ 8)) (.settle 2) >>=
            execPool (smallVault (10 ^ 9)) accruer .accrue) = .ok held) ∧
        Mirrors (smallVault (10 ^ 9)) (c.atTime (c.timestamp + 7 * 10 ^ 8)) held 2
          (describe (readState (smallVault (10 ^ 9)) (Pool.flatCurve (10 ^ 9)) c 2)
            (vaultParams (smallVault (10 ^ 9))) (c.timestamp + 7 * 10 ^ 8))
          (quoteFor (describe (readState (smallVault (10 ^ 9)) (Pool.flatCurve (10 ^ 9)) c 2)
            (vaultParams (smallVault (10 ^ 9))) (c.timestamp + 7 * 10 ^ 8))
            (vaultParams (smallVault (10 ^ 9)))) := by
  obtain ⟨c, reached, checked⟩ := reachable_of_replay (10 ^ 9) (fun _ _ => True)
    [.pool 6 (.setBorrowModule 5), .pool 1 (.supply (10 ^ 12)), .vault 2 (.deposit (10 ^ 9) 2),
      .vault 2 (.borrow (5 * 10 ^ 8))]
    (fun c => decide ((quoteFor (describe (readState (smallVault (10 ^ 9))
      (Pool.flatCurve (10 ^ 9)) c 2) (vaultParams (smallVault (10 ^ 9)))
        (c.timestamp + 7 * 10 ^ 8)) (vaultParams (smallVault (10 ^ 9)))).maxRepay ≠ 0))
    (by decide) (by decide +kernel)
  exact ⟨c, reached.of_restrict, of_decide_eq_true checked,
    mirror_refines_contracts _ _ c rfl reached.of_restrict 2 _⟩

end Mirror

end Finance

end Ghoststake
