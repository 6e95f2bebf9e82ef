import Ghoststake.Library.IndexedBook
import Ghoststake.Pool.Steps

/-!
# Interest is conserved

The pool read as a book on two indices, each entry point as a move of that
book, and what the move does to the unrounded surplus.
-/

namespace Ghoststake

set_option autoImplicit false

open Checked Rounding IndexedBook

namespace Pool

variable {Address : Type}

/-- What the pool is for: cash and debt on one side, supplier claims and
reserves on the other. -/
def book (cfg : Config Address) (l : Lending Address) : Book where
  cash := l.token.balanceOf cfg.address
  supply := l.pool.totalSupplyScaled
  supplyIndex := l.pool.supplyIndex
  debt := l.pool.totalBorrowScaled
  debtIndex := l.pool.borrowIndex
  reserves := l.pool.totalReserves

/-- `cash * RAY + totalBorrowScaled * borrowIndex - totalSupplyScaled * supplyIndex
- totalReserves * RAY`. -/
def surplus (cfg : Config Address) (l : Lending Address) : Int := (book cfg l).surplus RAY

/-! ## Accrual as a move of the book -/

section Accrue

variable (cfg : Config Address) (l : Lending Address)

theorem book_accrue :
    book cfg (accrue cfg l) = (book cfg l).accrue
      (mulDiv l.pool.supplyIndex (supplyGrowth cfg l) WAD)
      (mulDiv l.pool.borrowIndex (borrowGrowth cfg l) WAD)
      (mulDiv (mulDiv (totalBorrowed l.pool) (borrowGrowth cfg l) WAD) cfg.reserveFactor WAD) := by
  simp only [book, Book.accrue, accrue_token, accrue_total_supply_scaled, accrue_supply_index,
    accrue_total_borrow_scaled, accrue_borrow_index, accrue_total_reserves]

theorem utilization_eq_book : utilization cfg l = (book cfg l).utilization RAY WAD := rfl

theorem supply_growth_mul_le :
    supplyGrowth cfg l * (WAD * WAD) ≤
      borrowGrowth cfg l * (book cfg l).utilization RAY WAD * (WAD - cfg.reserveFactor) := by
  rw [← utilization_eq_book]
  unfold supplyGrowth borrowGrowth supplyRateAt
  generalize utilization cfg l = u
  generalize borrowRateAt cfg u = rate
  have outer := mul_div_mul_le (mulDiv rate u WAD) (WAD - cfg.reserveFactor) WAD
  have inner := mul_div_mul_le rate u WAD
  generalize mulDiv (mulDiv rate u WAD) (WAD - cfg.reserveFactor) WAD = supplyRate at outer ⊢
  generalize mulDiv rate u WAD = gross at outer inner
  generalize WAD - cfg.reserveFactor = kept at outer ⊢
  generalize WAD = wad at outer inner ⊢
  calc
    supplyRate * elapsed l * (wad * wad) = supplyRate * wad * (wad * elapsed l) := by ring
    _ ≤ gross * kept * (wad * elapsed l) := Nat.mul_le_mul_right _ outer
    _ = gross * wad * (kept * elapsed l) := by ring
    _ ≤ rate * u * (kept * elapsed l) := Nat.mul_le_mul_right _ inner
    _ = rate * elapsed l * u * kept := by ring

/-- What an accrual can cost: truncation of the borrow index, and the growth
of a shortfall already present. -/
def accrualLoss (shortfall : Nat) : Nat :=
  (book cfg l).truncation (borrowGrowth cfg l) + mulDiv shortfall (supplyGrowth cfg l) WAD

theorem surplus_accrue_ge {shortfall : Nat} (covered : -(shortfall : Int) ≤ surplus cfg l) :
    surplus cfg l - accrualLoss cfg l shortfall ≤ surplus cfg (accrue cfg l) := by
  have backed : (book cfg l).supply * (book cfg l).supplyIndex ≤
      (book cfg l).assets RAY + shortfall := by
    unfold surplus Book.surplus Book.claims at covered
    omega
  unfold surplus
  rw [book_accrue]
  exact Book.surplus_sub_le_accrue (Book.credited_le_charged wad_pos
    cfg.reserve_factor_lt_wad.le (supply_growth_mul_le cfg l) backed)

end Accrue

/-! ## Each storage write as a move of the book -/

section Writes

variable [DecidableEq Address] (cfg : Config Address) (l : Lending Address)
  (token : Erc20 Address) (event : Event Address) (user : Address) (scaled : Nat)

theorem book_credit_supply :
    book cfg (l.put token (State.emit (l.pool.creditSupply user scaled) event)) =
      (book cfg l).deposit (token.balanceOf cfg.address) scaled := rfl

theorem book_debit_supply :
    book cfg (l.put token (State.emit (l.pool.debitSupply user scaled) event)) =
      (book cfg l).withdraw (token.balanceOf cfg.address) scaled := rfl

theorem book_credit_debt :
    book cfg (l.put token (State.emit (l.pool.creditDebt user scaled) event)) =
      (book cfg l).borrow (token.balanceOf cfg.address) scaled := rfl

theorem book_debit_debt :
    book cfg (l.put token (State.emit (l.pool.debitDebt user scaled) event)) =
      (book cfg l).repay (token.balanceOf cfg.address) scaled := rfl

omit [DecidableEq Address] in
theorem book_debit_reserves (amount : Nat) :
    book cfg (l.put token (State.emit (l.pool.debitReserves amount) event)) =
      (book cfg l).drawReserves (token.balanceOf cfg.address) amount := rfl

end Writes

/-! ## One entry point at a time -/

section Calls

variable [DecidableEq Address] [Zero Address] {cfg : Config Address}
  {l after : Lending Address} {sender onBehalfOf : Address} {amount : Nat}

theorem surplus_supply_ge (external : sender ≠ cfg.address)
    (ran : supply cfg sender amount l = .ok after) :
    surplus cfg (accrue cfg l) ≤ surplus cfg after := by
  obtain ⟨_, _, _, token, pulled, rfl⟩ := supply_ok_iff.1 ran
  rw [← accrue_token cfg l] at pulled
  unfold surplus
  rw [book_credit_supply]
  exact Book.surplus_le_deposit (pulled_cash external pulled) (mul_div_mul_le _ _ _)

theorem surplus_withdraw_ge (ran : withdraw cfg sender amount l = .ok after) :
    surplus cfg (accrue cfg l) ≤ surplus cfg after := by
  obtain ⟨_, owned, _, indexLive, fits, token, pushed, rfl⟩ := withdraw_ok_iff.1 ran
  rw [← accrue_token cfg l] at pushed
  rw [← accrue_total_supply_scaled cfg l] at fits
  rw [balanceOfSupply, le_mul_div_iff ray_pos, accrue_scaled_supply] at owned
  have ceiling := le_mul_div_up_mul amount RAY (Nat.pos_of_ne_zero indexLive)
  have rounding : amount * RAY ≤
      min (mulDivUp amount RAY (accrue cfg l).pool.supplyIndex) (l.pool.scaledSupply sender) *
        (accrue cfg l).pool.supplyIndex := by
    rcases min_choice (mulDivUp amount RAY (accrue cfg l).pool.supplyIndex)
      (l.pool.scaledSupply sender) with part | whole
    · rw [part]
      exact ceiling
    · rw [whole]
      exact owned
  unfold surplus
  rw [book_debit_supply]
  exact Book.surplus_le_withdraw (pushed_cash pushed) rounding fits

theorem surplus_borrow_ge (ran : borrow cfg sender amount onBehalfOf l = .ok after) :
    surplus cfg (accrue cfg l) ≤ surplus cfg after := by
  obtain ⟨_, _, _, _, indexLive, token, pushed, rfl⟩ := borrow_ok_iff.1 ran
  rw [← accrue_token cfg l] at pushed
  unfold surplus
  rw [book_credit_debt]
  exact Book.surplus_le_borrow (pushed_cash pushed)
    (le_mul_div_up_mul amount RAY (Nat.pos_of_ne_zero indexLive))

theorem surplus_repay_partial_ge (external : sender ≠ cfg.address)
    (less : amount ≠ balanceOfDebt (accrue cfg l).pool onBehalfOf)
    (ran : repay cfg sender amount onBehalfOf l = .ok after) :
    surplus cfg (accrue cfg l) ≤ surplus cfg after := by
  obtain ⟨_, owed, indexLive, fits, token, pulled, rfl⟩ := repay_ok_iff.1 ran
  rw [← accrue_token cfg l] at pulled
  rw [← accrue_total_borrow_scaled cfg l] at fits
  have floor := (repaid_scaled_below indexLive (lt_of_le_of_ne owed less)).1
  rw [floor] at fits ⊢
  unfold surplus
  rw [book_debit_debt]
  exact Book.surplus_le_repay (pulled_cash external pulled) (mul_div_mul_le _ _ _) fits

/-- Paying the whole debt collects its floor and clears every scaled unit. -/
theorem surplus_repay_full_gt (external : sender ≠ cfg.address)
    (whole : amount = balanceOfDebt (accrue cfg l).pool onBehalfOf)
    (ran : repay cfg sender amount onBehalfOf l = .ok after) :
    surplus cfg (accrue cfg l) - RAY < surplus cfg after := by
  obtain ⟨_, _, _, fits, token, pulled, rfl⟩ := repay_ok_iff.1 ran
  rw [← accrue_token cfg l] at pulled
  rw [← accrue_total_borrow_scaled cfg l] at fits
  rw [whole, repaid_scaled_full] at fits ⊢
  rw [whole] at pulled
  have below := lt_mul_div_succ_mul ((accrue cfg l).pool.scaledDebt onBehalfOf)
    (accrue cfg l).pool.borrowIndex ray_pos
  unfold surplus
  rw [book_debit_debt]
  exact Book.surplus_sub_lt_repay (pulled_cash external pulled) below fits

theorem surplus_withdraw_reserves_ge
    (ran : withdrawReserves cfg sender amount l = .ok after) :
    surplus cfg l ≤ surplus cfg after := by
  obtain ⟨_, _, enough, _, token, pushed, rfl⟩ := withdraw_reserves_ok_iff.1 ran
  unfold surplus
  rw [book_debit_reserves]
  exact Book.surplus_le_draw_reserves (pushed_cash pushed) enough

/-- Interest is conserved at every step: from a state whose claims are covered
an accrual costs at most one unit of index truncation for each scaled unit of
debt, and once accrual is done every entry point rounds in the pool's favour,
a repayment of the whole debt alone forgiving less than one unit of the asset. -/
theorem interest_is_conserved (cfg : Config Address) (l : Lending Address) :
    (0 ≤ surplus cfg l →
      surplus cfg l - l.pool.totalBorrowScaled ≤ surplus cfg (accrue cfg l)) ∧
    (∀ sender amount after, sender ≠ cfg.address → supply cfg sender amount l = .ok after →
      surplus cfg (accrue cfg l) ≤ surplus cfg after) ∧
    (∀ sender amount after, withdraw cfg sender amount l = .ok after →
      surplus cfg (accrue cfg l) ≤ surplus cfg after) ∧
    (∀ sender amount user after, borrow cfg sender amount user l = .ok after →
      surplus cfg (accrue cfg l) ≤ surplus cfg after) ∧
    (∀ sender amount user after, sender ≠ cfg.address →
      repay cfg sender amount user l = .ok after →
      (amount ≠ balanceOfDebt (accrue cfg l).pool user →
        surplus cfg (accrue cfg l) ≤ surplus cfg after) ∧
      (amount = balanceOfDebt (accrue cfg l).pool user →
        surplus cfg (accrue cfg l) - RAY < surplus cfg after)) ∧
    (∀ sender amount after, withdrawReserves cfg sender amount l = .ok after →
      surplus cfg l ≤ surplus cfg after) := by
  refine ⟨?_, ?_, ?_, ?_, ?_, ?_⟩
  · intro covered
    have accrual := surplus_accrue_ge cfg l (by simpa using covered : -((0 : Nat) : Int) ≤ _)
    have truncated : accrualLoss cfg l 0 ≤ l.pool.totalBorrowScaled := by
      unfold accrualLoss
      rw [mul_div_zero_left]
      exact (book cfg l).truncation_le (borrowGrowth cfg l)
    omega
  · exact fun _ _ _ external ran => surplus_supply_ge external ran
  · exact fun _ _ _ ran => surplus_withdraw_ge ran
  · exact fun _ _ _ _ ran => surplus_borrow_ge ran
  · exact fun _ _ _ _ external ran =>
      ⟨fun less => surplus_repay_partial_ge external less ran,
        fun whole => surplus_repay_full_gt external whole ran⟩
  · exact fun _ _ _ ran => surplus_withdraw_reserves_ge ran

end Calls

/-- A call of each kind that succeeds on `lent`, with the whole debt being 400. -/
theorem interest_is_conserved_of_lent :
    surplus (flatCurve (10 ^ 9)) lent - 400 ≤
        surplus (flatCurve (10 ^ 9)) (accrue (flatCurve (10 ^ 9)) lent) ∧
    (∃ after, supply (flatCurve (10 ^ 9)) 3 77 lent = .ok after ∧
      surplus (flatCurve (10 ^ 9)) (accrue (flatCurve (10 ^ 9)) lent) ≤
        surplus (flatCurve (10 ^ 9)) after) ∧
    (∃ after, withdraw (flatCurve (10 ^ 9)) 1 500 lent = .ok after ∧
      surplus (flatCurve (10 ^ 9)) (accrue (flatCurve (10 ^ 9)) lent) ≤
        surplus (flatCurve (10 ^ 9)) after) ∧
    (∃ after, borrow (flatCurve (10 ^ 9)) 5 30 4 lent = .ok after ∧
      surplus (flatCurve (10 ^ 9)) (accrue (flatCurve (10 ^ 9)) lent) ≤
        surplus (flatCurve (10 ^ 9)) after) ∧
    (∃ after, repay (flatCurve (10 ^ 9)) 2 399 2 lent = .ok after ∧
      surplus (flatCurve (10 ^ 9)) (accrue (flatCurve (10 ^ 9)) lent) ≤
        surplus (flatCurve (10 ^ 9)) after) ∧
    (∃ after, repay (flatCurve (10 ^ 9)) 2 400 2 lent = .ok after ∧
      surplus (flatCurve (10 ^ 9)) (accrue (flatCurve (10 ^ 9)) lent) - RAY <
        surplus (flatCurve (10 ^ 9)) after) ∧
    (∃ after, withdrawReserves (flatCurve (10 ^ 9)) 6 10 lent = .ok after ∧
      surplus (flatCurve (10 ^ 9)) lent ≤ surplus (flatCurve (10 ^ 9)) after) := by
  obtain ⟨accrued, supplied, withdrawn, borrowed, repaid, drawn⟩ :=
    interest_is_conserved (flatCurve (10 ^ 9)) lent
  refine ⟨accrued (by decide +kernel), ?_, ?_, ?_, ?_, ?_, ?_⟩
  · obtain ⟨after, ran, _⟩ := exists_of_passes (fun _ => true)
      (by decide +kernel : passes (supply (flatCurve (10 ^ 9)) 3 77 lent) _ = true)
    exact ⟨after, ran, supplied 3 77 after (by decide) ran⟩
  · obtain ⟨after, ran, _⟩ := exists_of_passes (fun _ => true)
      (by decide +kernel : passes (withdraw (flatCurve (10 ^ 9)) 1 500 lent) _ = true)
    exact ⟨after, ran, withdrawn 1 500 after ran⟩
  · obtain ⟨after, ran, _⟩ := exists_of_passes (fun _ => true)
      (by decide +kernel : passes (borrow (flatCurve (10 ^ 9)) 5 30 4 lent) _ = true)
    exact ⟨after, ran, borrowed 5 30 4 after ran⟩
  · obtain ⟨after, ran, _⟩ := exists_of_passes (fun _ => true)
      (by decide +kernel : passes (repay (flatCurve (10 ^ 9)) 2 399 2 lent) _ = true)
    exact ⟨after, ran, (repaid 2 399 2 after (by decide) ran).1 (by decide +kernel)⟩
  · obtain ⟨after, ran, _⟩ := exists_of_passes (fun _ => true)
      (by decide +kernel : passes (repay (flatCurve (10 ^ 9)) 2 400 2 lent) _ = true)
    exact ⟨after, ran, (repaid 2 400 2 after (by decide) ran).2 (by decide +kernel)⟩
  · obtain ⟨after, ran, _⟩ := exists_of_passes (fun _ => true)
      (by decide +kernel : passes (withdrawReserves (flatCurve (10 ^ 9)) 6 10 lent) _ = true)
    exact ⟨after, ran, drawn 6 10 after ran⟩

end Pool

end Ghoststake
