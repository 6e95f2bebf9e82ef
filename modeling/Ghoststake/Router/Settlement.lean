import Ghoststake.Router.Positions

/-!
# Settlement through the router

The run of `onPositionSettled` on a payout the market has made, statement by
statement: what is repaid, what is forwarded, and that past the accrual and the
reading of the lien nothing on the way can revert.
-/

namespace Ghoststake

set_option autoImplicit false

open Checked Rounding

namespace Vault

variable {Address : Type} [DecidableEq Address] [Zero Address] [Fintype Address]
  {cfg : Config Address} {pool : Pool.Config Address} {c : Chain Address}
  {payer user : Address} {amount : Nat}

/-- A repayment a payer can afford and the debt can absorb goes through, and
reaches the creditor in full. -/
theorem repays_exactly (source : cfg.lienSource = some pool) (sound : c.pool.Sound)
    (current : Pool.elapsed c.toLending = 0) (outsider : payer ≠ cfg.address) (live : payer ≠ 0)
    (something : amount ≠ 0) (owed : amount ≤ lienOf cfg c user)
    (funded : amount ≤ c.token.balanceOf payer)
    (allowed : amount ≤ c.token.allowance payer cfg.address) :
    ∃ after, repay cfg payer amount user c = .ok after ∧
      after.pool = repaidPool cfg user amount c.pool ∧ after.timestamp = c.timestamp ∧
      after.token.balanceOf =
        ((c.token.moved payer cfg.address amount).moved cfg.address pool.address
          amount).balanceOf := by
  obtain ⟨repaid, ran⟩ :=
    pulls_and_repays source sound current outsider live something owed funded allowed
  have upToDate : accrueLien cfg c = c := by
    unfold accrueLien
    rw [source]
    simp only [Pool.accrue_of_no_time pool c.toLending current]
  have indebted : lienOf cfg c user ≠ 0 := by
    omega
  refine ⟨repaid.emit (.repaid payer user amount (lienOf cfg c user - amount)), ?_, ?_, ?_, ?_⟩
  · unfold repay
    rw [creditor_ok_iff.2 source, ok_bind, require_of _ something, ok_bind]
    simp only [upToDate]
    rw [require_of _ indebted, ok_bind, Nat.min_eq_left owed, ran, ok_bind]
  · exact (pull_and_repay_ok source outsider current ran).2.1
  · have reaches : Reaches cfg (fun _ => False) c repaid :=
      reaches_pull_and_repay source outsider ran
    exact reaches.time
  · simp only [pullAndRepay, bind_ok_iff, Chain.pay_ok_iff] at ran
    obtain ⟨_, ⟨token, pulled, rfl⟩, repays⟩ := ran
    have later : Pool.elapsed ({ c with token := token } : Chain Address).toLending = 0 := current
    have paid := (repay_lien_ok source later repays).2.2.1
    obtain ⟨_, _, _, _, rfl⟩ := (Erc20.transfer_from_ok_iff _ _ _ _ _ _).1 pulled
    rw [Chain.emit_lending, paid]
    exact Erc20.moved_balance_congr rfl _ _ _

end Vault

namespace Router

variable {Address : Type} [DecidableEq Address] [Zero Address] {cfg : Config Address}
  {pool : Pool.Config Address} {x after : Exchange Address (Backing Address)}
  {user : Address} {roundId amount : Nat}

/-! ## Statement by statement -/

section Statements

variable [Fintype Address]

theorem repays_owed (source : cfg.vault.lienSource = some pool) (sound : x.rest.pool.Sound)
    (current : Pool.elapsed x.chain.toLending = 0)
    (owed : amount ≤ Vault.lienOf cfg.vault x.chain user)
    (funded : amount ≤ x.token.balanceOf cfg.address) :
    ∃ after, repayOwed cfg user amount x = .ok after ∧
      after.rest.pool = (if amount = 0 then x.rest.pool
        else Vault.repaidPool cfg.vault user amount x.rest.pool) ∧
      after.timestamp = x.timestamp ∧
      after.token.balanceOf =
        ((x.token.moved cfg.address cfg.vault.address amount).moved cfg.vault.address
          pool.address amount).balanceOf := by
  unfold repayOwed
  by_cases none : amount = 0
  · subst none
    refine ⟨x, if_neg (not_not.2 rfl), (if_pos rfl).symm, rfl, ?_⟩
    rw [Erc20.moved_zero, Erc20.moved_zero]
  · rw [if_pos none]
    obtain ⟨token, approves, balances, allowance⟩ :=
      x.token.approves cfg.address_ne_zero cfg.vault.address_ne_zero amount
    have books : ({ x with token := token } : Exchange Address (Backing Address)).chain.pool.Sound :=
      sound
    have upToDate : Pool.elapsed
        ({ x with token := token } : Exchange Address (Backing Address)).chain.toLending = 0 :=
      current
    have lien : amount ≤ Vault.lienOf cfg.vault
        ({ x with token := token } : Exchange Address (Backing Address)).chain user := owed
    have afforded : amount ≤
        ({ x with token := token } : Exchange Address (Backing Address)).chain.token.balanceOf
          cfg.address := by
      have held : amount ≤ token.balanceOf cfg.address := by
        rw [balances]
        exact funded
      exact held
    obtain ⟨c, repays, lent, time, paid⟩ := Vault.repays_exactly source books upToDate
      cfg.not_vault.1 cfg.address_ne_zero none lien afforded allowance.ge
    refine ⟨({ x with token := token } : Exchange Address (Backing Address)).setChain c,
      ?_, ?_, time, ?_⟩
    · rw [Market.pay_ok_iff.2 ⟨token, approves, rfl⟩, ok_bind]
      exact on_chain_ok_iff.2 ⟨c, repays, rfl⟩
    · rw [if_neg none]
      exact lent
    · have flows : c.token.balanceOf =
          ((token.moved cfg.address cfg.vault.address amount).moved cfg.vault.address
            pool.address amount).balanceOf := paid
      have written : (({ x with token := token } :
          Exchange Address (Backing Address)).setChain c).token = c.token := rfl
      rw [written, flows]
      apply Erc20.moved_balance_congr
      exact Erc20.moved_balance_congr balances _ _ _

omit [Fintype Address] in
theorem forwards_surplus (live : user ≠ 0) (funded : amount ≤ x.token.balanceOf cfg.address) :
    ∃ after, forwardSurplus cfg user amount x = .ok after ∧ after.rest = x.rest ∧
      after.timestamp = x.timestamp ∧
      after.token.balanceOf = (x.token.moved cfg.address user amount).balanceOf := by
  unfold forwardSurplus
  by_cases none : amount = 0
  · subst none
    refine ⟨x, if_neg (not_not.2 rfl), rfl, rfl, ?_⟩
    rw [Erc20.moved_zero]
  · rw [if_pos none]
    have moves := (Erc20.move_ok_iff x.token _ cfg.address user amount).2
      ⟨cfg.address_ne_zero, live, funded, rfl⟩
    exact ⟨_, Market.pay_ok_iff.2 ⟨_, moves, rfl⟩, rfl, rfl, rfl⟩

/-- What a settlement of `amount` repays: no more than the lien at that instant. -/
def repaymentOf (cfg : Config Address) (x : Exchange Address (Backing Address)) (user : Address)
    (amount : Nat) : Nat :=
  min amount (Vault.lienOf cfg.vault (Vault.accrueLien cfg.vault x.chain) user)

def settledToken (cfg : Config Address) (pool : Pool.Config Address) (user : Address)
    (amount repaid : Nat) (token : Erc20 Address) : Erc20 Address :=
  ((token.moved cfg.address cfg.vault.address repaid).moved cfg.vault.address pool.address
    repaid).moved cfg.address user (amount - repaid)

/-- The creditor's books after it has been repaid `repaid`, once up to date. -/
def settledPool (cfg : Config Address) (user : Address) (repaid : Nat)
    (pool : Pool.State Address) : Pool.State Address :=
  if repaid = 0 then pool else Vault.repaidPool cfg.vault user repaid pool

omit [DecidableEq Address] [Fintype Address] in
theorem accrues_lien_source (source : cfg.vault.lienSource = some pool)
    (accrues : Pool.Accrues pool x.chain.toLending) :
    accrueLienSource cfg x = .ok (x.setChain (Vault.accrueLien cfg.vault x.chain)) := by
  have ran := Pool.words_accrue_ok_iff.2 ⟨accrues, rfl⟩
  unfold accrueLienSource Vault.accrueLien
  rw [source]
  dsimp only
  rw [ran, ok_bind]

omit [Fintype Address] in
/-- What the settlement asks for before it pays anything: an accrual that goes
through, and a lien that can be read after it. -/
theorem accrues_of_settlement {sender : Address}
    (source : cfg.vault.lienSource = some pool)
    (ran : onPositionSettled cfg sender user amount x = .ok after) :
    Pool.Accrues pool x.chain.toLending ∧
      Vault.lienOf cfg.vault (Vault.accrueLien cfg.vault x.chain) user ≤ uint256Max := by
  simp only [onPositionSettled, bind_ok_iff] at ran
  obtain ⟨_, _, accrued, accrues, owed, reads, _⟩ := ran
  unfold accrueLienSource at accrues
  rw [source] at accrues
  simp only [bind_ok_iff, Pool.words_accrue_ok_iff, Except.ok.injEq] at accrues
  obtain ⟨_, ⟨fits, rfl⟩, rfl⟩ := accrues
  simp only [lienWord, bind_ok_iff, require_ok_iff, exists_const] at reads
  refine ⟨fits, ?_⟩
  unfold Vault.accrueLien
  rw [source]
  exact reads.1

theorem settlement_runs (source : cfg.vault.lienSource = some pool) (sound : x.rest.pool.Sound)
    (live : user ≠ 0) (funded : amount ≤ x.token.balanceOf cfg.address)
    (accrues : Pool.Accrues pool x.chain.toLending)
    (readable : Vault.lienOf cfg.vault (Vault.accrueLien cfg.vault x.chain) user ≤ uint256Max) :
    ∃ after, onPositionSettled cfg cfg.market.address user amount x = .ok after ∧
      after.rest.pool = settledPool cfg user (repaymentOf cfg x user amount)
        (Pool.accrue pool x.chain.toLending).pool ∧
      after.token.balanceOf =
        (settledToken cfg pool user amount (repaymentOf cfg x user amount) x.token).balanceOf := by
  obtain ⟨y, accrued, books, current, token, lien⟩ : ∃ y, accrueLienSource cfg x = .ok y ∧
      y.rest.pool = (Pool.accrue pool x.chain.toLending).pool ∧
      Pool.elapsed y.chain.toLending = 0 ∧ y.token = x.token ∧
      Vault.lienOf cfg.vault y.chain user =
        Vault.lienOf cfg.vault (Vault.accrueLien cfg.vault x.chain) user := by
    refine ⟨_, accrues_lien_source source accrues, ?_, ?_, ?_, rfl⟩
    · have lending := Vault.accrue_lien_lending source x.chain
      exact congrArg Lending.pool lending
    · exact Vault.current_accrue_lien source
    · exact Vault.accrue_lien_token cfg.vault x.chain
  have repayment : (if amount < Vault.lienOf cfg.vault y.chain user then amount
      else Vault.lienOf cfg.vault y.chain user) = repaymentOf cfg x user amount := by
    rw [lien]
    unfold repaymentOf
    split_ifs <;> omega
  have within : repaymentOf cfg x user amount ≤ amount := Nat.min_le_left _ _
  have owed : repaymentOf cfg x user amount ≤ Vault.lienOf cfg.vault y.chain user := by
    rw [lien]
    exact Nat.min_le_right _ _
  have sound : y.rest.pool.Sound := by
    rw [books]
    exact sound.accrue
  obtain ⟨z, repays, lent, _, moved⟩ := repays_owed source sound current owed
    (by rw [token]; omega)
  have left : z.token.balanceOf cfg.address =
      x.token.balanceOf cfg.address - repaymentOf cfg x user amount := by
    rw [moved, token, Erc20.moved_balance_other _ _ cfg.not_vault.1 (cfg.not_vault.2 pool source),
      Erc20.moved_balance_source _ _ cfg.not_vault.1]
  have surplus : amount - repaymentOf cfg x user amount ≤ z.token.balanceOf cfg.address := by
    omega
  obtain ⟨final, forwards, kept, _, paid⟩ := forwards_surplus live surplus
  refine ⟨final.announce (.positionSettled user amount (repaymentOf cfg x user amount)
    (amount - repaymentOf cfg x user amount)), ?_, ?_, ?_⟩
  · unfold onPositionSettled
    have reads : lienWord cfg user y = .ok (Vault.lienOf cfg.vault y.chain user) := by
      rw [← lien] at readable
      unfold lienWord
      dsimp only
      rw [require_of _ readable, ok_bind]
    rw [require_of _ rfl, ok_bind, accrued, ok_bind, reads, ok_bind]
    simp only [repayment]
    rw [repays, ok_bind, forwards, ok_bind]
  · have same : final.rest.pool = z.rest.pool := by rw [kept]
    rw [books] at lent
    exact same.trans lent
  · have flows : final.token.balanceOf = (settledToken cfg pool user amount
        (repaymentOf cfg x user amount) x.token).balanceOf := by
      rw [paid]
      apply Erc20.moved_balance_congr
      rw [moved, token]
    exact flows

end Statements

end Router

end Ghoststake
