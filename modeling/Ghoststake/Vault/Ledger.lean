import Ghoststake.Vault.Shares

/-!
# No position without shares

The ledger is a record of its own, and stays empty where there are no shares
as long as no deposit is rounded down to none.
-/

namespace Ghoststake

set_option autoImplicit false

open Checked Rounding

namespace Vault

variable {Address : Type} [DecidableEq Address] [Zero Address] {cfg : Config Address}
  {c after : Chain Address}

/-- Nothing is recorded for an account that holds nothing. -/
def NoPhantoms (c : Chain Address) : Prop :=
  ∀ user, balanceOf c user = 0 →
    (c.vault.positions user).principal = 0 ∧ (c.vault.positions user).settledYield = 0

/-- A deposit of something issues something, or adds to shares already held. -/
def IssuesShares (cfg : Config Address) (c : Chain Address) : Action Address → Prop
  | .vault _ (.deposit assets receiver) =>
      assets = 0 ∨ previewDeposit cfg c assets ≠ 0 ∨ balanceOf c receiver ≠ 0
  | _ => True

omit [DecidableEq Address] in
/-- Issuing no shares takes no assets, once deposits that round to nothing are
left out. -/
theorem no_assets_of_no_shares {sender receiver : Address} {call : Call Address}
    {assets shares : Nat} (issues : Issues cfg c receiver call assets shares)
    (admitted : IssuesShares cfg c (.vault sender call)) (none : shares = 0)
    (holdsNone : balanceOf c receiver = 0) : assets = 0 := by
  cases issues with
  | deposit =>
      rcases admitted with nothing | issued | held
      · exact nothing
      · exact absurd none issued
      · exact absurd holdsNone held
  | mint =>
      subst none
      simp [previewMint, mulDivUp]

theorem no_phantoms_of_share_move {action : Action Address} (before : NoPhantoms c)
    (admitted : IssuesShares cfg c action) (move : ShareMove cfg c action after) :
    NoPhantoms after := by
  intro user none
  cases move with
  | @enters sender receiver call assets shares issuer issues move =>
      rw [move.holders] at none
      rw [move.ledger]
      by_cases same : user = receiver
      · subst same
        rw [Function.update_self] at none ⊢
        have held : balanceOf c user = 0 := by omega
        have nothing := no_assets_of_no_shares issues (issuer ▸ admitted) (by omega) held
        have settled := settled_of_empty cfg c.timestamp (before user held)
        exact ⟨by rw [nothing]; exact settled.1, settled.2⟩
      · rw [Function.update_of_ne same] at none ⊢
        exact before user none
  | @leaves owner assets shares _ move =>
      rw [move.holders] at none
      rw [move.ledger]
      by_cases same : user = owner
      · subst same
        rw [Function.update_self] at none ⊢
        have held := move.held
        obtain rfl : shares = balanceOf c user := by omega
        rw [reduced_whole]
        exact ⟨rfl, rfl⟩
      · rw [Function.update_of_ne same] at none ⊢
        exact before user none
  | keeps move =>
      rw [move.holders] at none
      rw [move.ledger]
      exact before user none
  | @settles other move =>
      rw [move.holders] at none
      rw [move.ledger]
      by_cases same : user = other
      · subst same
        rw [Function.update_self]
        exact settled_of_empty cfg c.timestamp (before user none)
      · rw [Function.update_of_ne same]
        exact before user none
  | @carries source target value move =>
      rw [move.holders] at none
      rcases move.ledger with ⟨idle, same⟩ | ⟨busy, carried⟩
      · rw [same]
        refine before user ?_
        rcases idle with rfl | rfl
        · rwa [Erc20.moved_balance_same _ move.held] at none
        · rwa [Erc20.moved_zero] at none
      · have apart : source ≠ target := fun same => busy (.inl same)
        have something : value ≠ 0 := fun nothing => busy (.inr nothing)
        by_cases isSource : user = source
        · subst isSource
          rw [Erc20.moved_balance_source _ _ apart] at none
          have held := move.held
          obtain rfl : value = balanceOf c user := by
            unfold balanceOf at held ⊢
            omega
          rw [carried.at_source, reduced_whole]
          exact ⟨rfl, rfl⟩
        by_cases isTarget : user = target
        · subst isTarget
          rw [Erc20.moved_balance_target _ _ apart] at none
          omega
        · rw [Erc20.moved_balance_other _ _ isSource isTarget] at none
          rw [carried.elsewhere user isSource isTarget]
          exact before user none

/-- A deposit the condition leaves out puts a principal behind no shares. -/
theorem phantom_of_unissued_deposit {sender receiver : Address} {assets : Nat}
    (outsider : sender ≠ cfg.address)
    (unissued : ¬IssuesShares cfg c (.vault sender (.deposit assets receiver)))
    (ran : exec cfg sender c (.deposit assets receiver) = .ok after) :
    balanceOf after receiver = 0 ∧ (after.vault.positions receiver).principal ≠ 0 := by
  simp only [IssuesShares, not_or, not_not] at unissued
  obtain ⟨something, noShares, holdsNone⟩ := unissued
  have move := (enters_of_deposit_internal outsider ran).1
  rw [move.holders, move.ledger, Function.update_self, Function.update_self, holdsNone, noShares]
  refine ⟨rfl, ?_⟩
  change _ + assets ≠ 0
  omega

section Runs

variable [Fintype Address]

/-- In every run without a deposit that issues nothing to an account that holds
nothing, an account without shares has no principal and no yield, and none
accrues to it. -/
theorem no_phantom_positions (cfg : Config Address) (c : Chain Address)
    (reached : ((machine cfg).restrict (IssuesShares cfg)).Reachable c) (user : Address)
    (none : balanceOf c user = 0) :
    (c.vault.positions user).principal = 0 ∧ (c.vault.positions user).settledYield = 0 ∧
      accruedYield c user = 0 ∧ totalLedgerValue c user = 0 := by
  have clean : NoPhantoms c := by
    refine reached.invariant NoPhantoms ?_ ?_
    · intro state start user _
      obtain ⟨guardian, fresh⟩ := start.fresh
      rw [fresh]
      exact ⟨rfl, rfl⟩
    · rintro state action next before clean ⟨taken, admitted⟩
      have custody := custody_of_reachable before.of_restrict
      exact no_phantoms_of_share_move clean admitted (share_move_of_step custody taken).1
  obtain ⟨noPrincipal, noYield⟩ := clean user none
  have nothing : accruedYield c user = 0 := accrued_of_no_principal noPrincipal c.timestamp
  refine ⟨noPrincipal, noYield, nothing, ?_⟩
  rw [totalLedgerValue, noPrincipal, noYield, nothing]

instance (cfg : Config Address) (c : Chain Address) (action : Action Address) :
    Decidable (IssuesShares cfg c action) :=
  match action with
  | .vault _ call =>
      match call with
      | .deposit _ _ => inferInstanceAs (Decidable (_ ∨ _ ∨ _))
      | .mint _ _ | .withdraw _ _ _ | .redeem _ _ _ | .borrow _ | .borrowFor _ _
      | .approveBorrowDelegate _ _ | .repay _ _ | .liquidate _ _ | .writeOffBadDebt _
      | .settle _ | .transfer _ _ | .transferFrom _ _ _ | .approve _ _ | .guard _ =>
          isTrue trivial
  | .pool _ _ | .asset _ _ | .wait _ => isTrue trivial

/-- A gift, and the phantom of a deposit too small for the price it makes. -/
theorem deposit_without_shares :
    ∃ c, (machine (smallVault 0)).Reachable c ∧ balanceOf c 2 = 0 ∧
      (c.vault.positions 2).principal = 1 ∧ totalLedgerValue c 2 = 1 := by
  obtain ⟨c, reached, checked⟩ := reachable_of_replay 0 (fun _ _ => True)
    [.asset 1 (.transfer 5 2000000), .vault 2 (.deposit 1 2)]
    (fun c => balanceOf c 2 = 0 ∧ (c.vault.positions 2).principal = 1 ∧
      totalLedgerValue c 2 = 1)
    (by decide) (by decide +kernel)
  exact ⟨c, reached.of_restrict, of_decide_eq_true checked⟩

/-- A depositor who sends half away and redeems the rest. -/
theorem no_phantom_after_exit :
    ∃ c : Chain (Fin 8), balanceOf c 3 ≠ 0 ∧ balanceOf c 2 = 0 ∧ (c.vault.positions 2).principal = 0 ∧
      (c.vault.positions 2).settledYield = 0 ∧ accruedYield c 2 = 0 ∧
      totalLedgerValue c 2 = 0 := by
  obtain ⟨c, reached, checked⟩ := reachable_of_replay 0 (IssuesShares (smallVault 0))
    [.vault 2 (.deposit 1000 2), .wait (10 ^ 7), .vault 2 (.transfer 3 (5 * 10 ^ 8)),
      .vault 2 (.redeem (5 * 10 ^ 8) 2 2), .wait 100]
    (fun c => balanceOf c 3 ≠ 0 ∧ balanceOf c 2 = 0)
    (by decide) (by decide +kernel)
  obtain ⟨others, emptied⟩ := of_decide_eq_true checked
  exact ⟨c, others, emptied, no_phantom_positions _ c reached 2 emptied⟩

end Runs

end Vault

end Ghoststake
