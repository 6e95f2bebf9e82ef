import Ghoststake.Pool.Totals

/-!
# Leaving in full

A supplier who withdraws the whole of its balance gives up the ceiling of a
floor. Whether that is everything it holds depends on the index: above RAY it
always is, and a write-down can push the index below.
-/

namespace Ghoststake

set_option autoImplicit false

open Checked Rounding ScaledIndex

namespace Pool

variable {Address : Type} [DecidableEq Address] [Zero Address] {cfg : Config Address}
  {l after : Lending Address}

/-! ## Scaled supply, write by write -/

section Writes

variable (pool : State Address) (event : Event Address) (user : Address) (scaled : Nat)

omit [DecidableEq Address] [Zero Address] in
@[simp] theorem emit_scaled_supply : (pool.emit event).scaledSupply = pool.scaledSupply := rfl

omit [Zero Address] in
@[simp] theorem credit_supply_scaled_supply :
    (pool.creditSupply user scaled).scaledSupply =
      Function.update pool.scaledSupply user (pool.scaledSupply user + scaled) := rfl

omit [Zero Address] in
@[simp] theorem debit_supply_scaled_supply :
    (pool.debitSupply user scaled).scaledSupply =
      Function.update pool.scaledSupply user (pool.scaledSupply user - scaled) := rfl

omit [Zero Address] in
@[simp] theorem credit_debt_scaled_supply :
    (pool.creditDebt user scaled).scaledSupply = pool.scaledSupply := rfl

omit [Zero Address] in
@[simp] theorem debit_debt_scaled_supply :
    (pool.debitDebt user scaled).scaledSupply = pool.scaledSupply := rfl

omit [Zero Address] in
@[simp] theorem absorbed_scaled_supply :
    (pool.absorbed user).scaledSupply = pool.scaledSupply := rfl

omit [DecidableEq Address] [Zero Address] in
@[simp] theorem debit_reserves_scaled_supply :
    (pool.debitReserves scaled).scaledSupply = pool.scaledSupply := rfl

end Writes

/-! ## Nobody supplies from the zero address -/

/-- Whoever holds scaled supply paid for it once, as a live account to a live pool. -/
def Paid (cfg : Config Address) (l : Lending Address) : Prop :=
  ∀ user, l.pool.scaledSupply user ≠ 0 → user ≠ 0 ∧ cfg.address ≠ 0

omit [DecidableEq Address] in
theorem Paid.of_same {next : Lending Address} (paid : Paid cfg l)
    (same : next.pool.scaledSupply = l.pool.scaledSupply) : Paid cfg next := by
  intro user holds
  rw [same] at holds
  exact paid user holds

omit [DecidableEq Address] in
theorem Paid.accrue (paid : Paid cfg l) : Paid cfg (accrue cfg l) :=
  paid.of_same (accrue_scaled_supply cfg l)

theorem paid_exec {sender : Address} {call : Call Address} (paid : Paid cfg l)
    (ran : exec cfg sender l call = .ok after) : Paid cfg after := by
  cases call with
  | accrue =>
      cases ran
      exact paid.accrue
  | supply amount =>
      obtain ⟨_, _, _, token, pulled, rfl⟩ := supply_ok_iff.1 ran
      obtain ⟨_, senderLive, poolLive, _⟩ := (Erc20.transfer_from_ok_iff _ _ _ _ _ _).1 pulled
      intro user holds
      by_cases own : user = sender
      · exact ⟨own ▸ senderLive, poolLive⟩
      · have before : (accrue cfg l).pool.scaledSupply user ≠ 0 := by
          rwa [Lending.put_pool, emit_scaled_supply, credit_supply_scaled_supply,
            Function.update_of_ne own] at holds
        exact paid.accrue user before
  | withdraw amount =>
      obtain ⟨_, _, _, _, _, token, pushed, rfl⟩ := withdraw_ok_iff.1 ran
      obtain ⟨poolLive, senderLive, _⟩ := (Erc20.move_ok_iff _ _ _ _ _).1 pushed
      intro user holds
      by_cases own : user = sender
      · exact ⟨own ▸ senderLive, poolLive⟩
      · have before : (accrue cfg l).pool.scaledSupply user ≠ 0 := by
          simpa [State.emit, State.debitSupply, own] using holds
        exact paid.accrue user before
  | borrow amount onBehalfOf =>
      obtain ⟨_, _, _, _, _, _, _, rfl⟩ := borrow_ok_iff.1 ran
      apply paid.accrue.of_same
      rw [Lending.put_pool, emit_scaled_supply, credit_debt_scaled_supply]
  | repay amount onBehalfOf =>
      obtain ⟨_, _, _, _, _, _, rfl⟩ := repay_ok_iff.1 ran
      apply paid.accrue.of_same
      rw [Lending.put_pool, emit_scaled_supply, debit_debt_scaled_supply]
  | absorbBadDebt user =>
      obtain ⟨_, _, _, rfl⟩ := exec_absorb_ok_iff.1 ran
      apply paid.accrue.of_same
      rw [Lending.put_pool, absorbed_scaled_supply]
  | withdrawReserves amount =>
      obtain ⟨_, _, _, _, _, _, rfl⟩ := withdraw_reserves_ok_iff.1 ran
      apply paid.of_same
      rw [Lending.put_pool, emit_scaled_supply, debit_reserves_scaled_supply]
  | setBorrowModule target => exact paid.of_same (set_borrow_module_ok ran).1.scaledSupply
  | administer call => exact paid.of_same (administer_ok ran).1.scaledSupply
  | guard call => exact paid.of_same (guard_ok ran).1.scaledSupply

theorem paid_of_reachable (reached : (machine cfg).Reachable l) : Paid cfg l := by
  apply reached.invariant (Paid cfg)
  · intro state start user holds
    obtain ⟨⟨_, access, guardian, _, fresh⟩, _⟩ := start
    rw [fresh] at holds
    exact absurd rfl holds
  · intro state action next _ paid taken
    obtain ⟨_, ran⟩ := taken
    cases action with
    | call sender call => exact paid_exec paid ran
    | asset sender call =>
        simp only [act, bind_ok_iff, Except.ok.injEq] at ran
        obtain ⟨_, _, rfl⟩ := ran
        exact paid
    | wait seconds =>
        cases ran
        exact paid

/-! ## The exit -/

theorem scaled_supply_after_withdraw {sender : Address} {amount : Nat}
    (ran : withdraw cfg sender amount l = .ok after) :
    after.pool.scaledSupply sender = l.pool.scaledSupply sender -
      min (mulDivUp amount RAY (accrue cfg l).pool.supplyIndex)
        (l.pool.scaledSupply sender) := by
  obtain ⟨_, _, _, _, _, _, _, rfl⟩ := withdraw_ok_iff.1 ran
  rw [Lending.put_pool, emit_scaled_supply, debit_supply_scaled_supply, Function.update_self,
    accrue_scaled_supply]

variable [Fintype Address]

/-- A withdrawal of no more than the balance and the cash goes through. -/
theorem withdraws (reached : (machine cfg).Reachable l) {user : Address} {amount : Nat}
    (something : amount ≠ 0) (within : amount ≤ balanceOfSupply (accrue cfg l).pool user)
    (cash : amount ≤ availableLiquidity cfg l) :
    ∃ after, withdraw cfg user amount l = .ok after := by
  have sound : (accrue cfg l).pool.Sound := (sound_of_reachable reached).accrue
  have holds : l.pool.scaledSupply user ≠ 0 := by
    intro none
    rw [balanceOfSupply, accrue_scaled_supply, none, mul_div_zero_left] at within
    omega
  obtain ⟨userLive, poolLive⟩ := paid_of_reachable reached user holds
  have fits := sound.supply_le_total user
  rw [accrue_scaled_supply, accrue_total_supply_scaled] at fits
  have pushed : l.token.move cfg.address user amount =
      .ok (l.token.moved cfg.address user amount) :=
    (Erc20.move_ok_iff _ _ _ _ _).2 ⟨poolLive, userLive, cash, rfl⟩
  exact ⟨_, withdraw_ok_iff.2 ⟨something, within, cash, sound.supply_index_pos.ne',
    (min_le_right _ _).trans fits, _, pushed, rfl⟩⟩

/-- A supplier who withdraws the balance it reads, before the call or at the
index the call accrues to, is left with nothing exactly when one scaled unit
fewer would be worth less than that balance. At the accrued index that is when
the fraction the balance drops is worth less than one scaled unit. -/
theorem full_exit_clears_iff (cfg : Config Address) (l : Lending Address) (user : Address)
    (amount : Nat) (reached : (machine cfg).Reachable l)
    (whole : amount = balanceOfSupply l.pool user ∨
      amount = balanceOfSupply (accrue cfg l).pool user)
    (owns : 0 < amount) (cash : amount ≤ availableLiquidity cfg l) :
    ∃ after, withdraw cfg user amount l = .ok after ∧
      (after.pool.scaledSupply user = 0 ↔
        l.pool.scaledSupply user * (accrue cfg l).pool.supplyIndex <
          amount * RAY + (accrue cfg l).pool.supplyIndex) ∧
      (amount = balanceOfSupply (accrue cfg l).pool user →
        (after.pool.scaledSupply user = 0 ↔
          l.pool.scaledSupply user * (accrue cfg l).pool.supplyIndex % RAY <
            (accrue cfg l).pool.supplyIndex)) := by
  have grows : balanceOfSupply l.pool user ≤ balanceOfSupply (accrue cfg l).pool user := by
    unfold balanceOfSupply
    rw [accrue_scaled_supply]
    exact mul_div_mono_right _ (supply_index_le_accrue cfg l) _
  have within : amount ≤ balanceOfSupply (accrue cfg l).pool user := by omega
  have sound : (accrue cfg l).pool.Sound := (sound_of_reachable reached).accrue
  have live : 0 < (accrue cfg l).pool.supplyIndex := sound.supply_index_pos
  obtain ⟨after, ran⟩ := withdraws reached owns.ne' within cash
  have cleared : after.pool.scaledSupply user = 0 ↔ l.pool.scaledSupply user ≤
      mulDivUp amount RAY (accrue cfg l).pool.supplyIndex := by
    rw [scaled_supply_after_withdraw ran]
    omega
  refine ⟨after, ran, cleared.trans (scaled_le_up_iff live), ?_⟩
  intro exit
  rw [cleared, exit, balanceOfSupply, accrue_scaled_supply]
  exact scaled_le_up_balance_iff live

/-! ## After a write-down -/

section Sample

/-- Two suppliers, and a loss of three fifths of what they supplied. -/
def fallenRun (first second : Nat) : List (Action (Fin 8)) :=
  [.call 6 (.setBorrowModule 5), .call 1 (.supply first), .call 3 (.supply second),
    .call 5 (.borrow 600 2), .call 5 (.absorbBadDebt 2)]

/-- Five scaled units are two units of balance at two fifths, and all of them go. -/
theorem full_exit_of_whole_holding :
    ∃ l after, (machine (flatCurve 0)).Reachable l ∧ l.pool.supplyIndex < RAY ∧
      l.pool.scaledSupply 3 = 5 ∧ withdraw (flatCurve 0) 3 2 l = .ok after ∧
      after.pool.scaledSupply 3 = 0 := by
  obtain ⟨l, reached, checked⟩ := reachable_of_run (flatCurve 0) rfl (fallenRun 995 5)
    (fun l => 2 = balanceOfSupply l.pool 3 ∧ 2 ≤ availableLiquidity (flatCurve 0) l ∧
      l.pool.supplyIndex < RAY ∧ l.pool.scaledSupply 3 = 5 ∧
      l.pool.scaledSupply 3 * (accrue (flatCurve 0) l).pool.supplyIndex <
        2 * RAY + (accrue (flatCurve 0) l).pool.supplyIndex)
    (by decide) (by decide +kernel)
  obtain ⟨whole, cash, fallen, owned, small⟩ := of_decide_eq_true checked
  obtain ⟨after, ran, clears, _⟩ :=
    full_exit_clears_iff (flatCurve 0) l 3 2 reached (.inl whole) (by decide) cash
  exact ⟨l, after, reached, fallen, owned, ran, clears.mpr small⟩

/-- Four scaled units read as one unit of balance at two fifths; taking it out
burns three of them. -/
theorem full_exit_leaves_a_unit :
    ∃ l after, (machine (flatCurve 0)).Reachable l ∧ balanceOfSupply l.pool 3 = 1 ∧
      1 ≤ availableLiquidity (flatCurve 0) l ∧
      withdraw (flatCurve 0) 3 (balanceOfSupply l.pool 3) l = .ok after ∧
      after.pool.scaledSupply 3 = 1 := by
  obtain ⟨l, reached, checked⟩ := reachable_of_run (flatCurve 0) rfl (fallenRun 996 4)
    (fun l => decide (balanceOfSupply l.pool 3 = 1 ∧ 1 ≤ availableLiquidity (flatCurve 0) l) &&
      passes (withdraw (flatCurve 0) 3 (balanceOfSupply l.pool 3) l)
        fun after => after.pool.scaledSupply 3 = 1)
    (by decide) (by decide +kernel)
  rw [Bool.and_eq_true] at checked
  obtain ⟨owns, cash⟩ := of_decide_eq_true checked.1
  obtain ⟨after, ran, left⟩ := exists_of_passes _ checked.2
  exact ⟨l, after, reached, owns, cash, ran, of_decide_eq_true left⟩

end Sample

end Pool

end Ghoststake
