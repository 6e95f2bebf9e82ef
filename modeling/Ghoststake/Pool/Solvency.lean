import Ghoststake.Pool.Conservation
import Ghoststake.Pool.WriteDown

/-!
# Solvency over every run

One unit for each debt-reducing call is tolerance enough as long as no accrual
credits more than it charges, the books' own surplus and the tolerance left, and
no write-off is stopped by the index floor with suppliers left holding more than
that. Without the first condition the surplus never falls below a rounding
allowance that the run itself determines: a unit for each debt-reducing call, a
unit of index truncation for each scaled unit of debt at each accrual, and the
supply growth of the allowance already there, since a shortfall earns interest
like a deposit.
-/

namespace Ghoststake

set_option autoImplicit false

open Checked Rounding ScaledIndex IndexedBook

namespace Pool

variable {Address : Type}

/-- Supplier claims and reserves are covered by cash, debt and the loss nobody
was charged for, within `units`. -/
def SolventWithin (cfg : Config Address) (l : Lending Address) (units : Nat) : Prop :=
  totalSupplied l.pool + l.pool.totalReserves ≤
    availableLiquidity cfg l + totalBorrowed l.pool + l.pool.unsocialisedBadDebt + units

instance (cfg : Config Address) (l : Lending Address) (units : Nat) :
    Decidable (SolventWithin cfg l units) :=
  inferInstanceAs (Decidable (_ ≤ _))

/-! ## What a run is charged -/

def Call.accrues : Call Address → Bool
  | .accrue | .supply _ | .withdraw _ | .borrow _ _ | .repay _ _ | .absorbBadDebt _ => true
  | .withdrawReserves _ | .setBorrowModule _ | .administer _ | .guard _ => false

def Call.reducesDebt : Call Address → Bool
  | .repay _ _ | .absorbBadDebt _ => true
  | _ => false

/-- Debt-reducing calls so far. -/
def debtReductions (count : Nat) (_ : Lending Address) : Action Address → Nat
  | .call _ call => if call.reducesDebt then count + 1 else count
  | _ => count

/-- The allowance after an action, in units of `1 / RAY`. -/
def roundingAfter (cfg : Config Address) (allowance : Nat) (l : Lending Address) :
    Action Address → Nat
  | .call _ call =>
      allowance + (if call.accrues then accrualLoss cfg l allowance else 0) +
        if call.reducesDebt then RAY else 0
  | _ => allowance

/-- No write-off is stopped by the floor of the supply index while suppliers
hold more than one unit's worth of scaled supply at that floor. -/
def SparesFloor (cfg : Config Address) (l : Lending Address) : Action Address → Prop
  | .call _ (.absorbBadDebt user) =>
      ¬(Floored (accrue cfg l).pool (balanceOfDebt (accrue cfg l).pool user) ∧
        RAY < (accrue cfg l).pool.totalSupplyScaled)
  | _ => True

/-- What an accrual credits to suppliers and reserves, in units of `1 / RAY`. -/
def credited (cfg : Config Address) (l : Lending Address) : Nat :=
  l.pool.totalSupplyScaled * mulDiv l.pool.supplyIndex (supplyGrowth cfg l) WAD +
    mulDiv (mulDiv (totalBorrowed l.pool) (borrowGrowth cfg l) WAD) cfg.reserveFactor WAD * RAY

/-- What it charges borrowers, in the same units. -/
def charged (cfg : Config Address) (l : Lending Address) : Nat :=
  l.pool.totalBorrowScaled * mulDiv l.pool.borrowIndex (borrowGrowth cfg l) WAD

/-- An accrual overpays by no more than the books are long and the tolerance
of `count` units makes up for. -/
def InterestTolerated (cfg : Config Address) (count : Nat) (l : Lending Address) : Prop :=
  (credited cfg l : Int) ≤ charged cfg l + surplus cfg l + count * RAY

/-- What a write-off leaves suppliers at the floor of the index is covered by
cash, the other debts and the tolerance. -/
def FloorTolerated (cfg : Config Address) (count : Nat) (l : Lending Address)
    (user : Address) : Prop :=
  Floored l.pool (balanceOfDebt l.pool user) →
    l.pool.totalSupplyScaled ≤ availableLiquidity cfg l * RAY +
      (l.pool.totalBorrowScaled - l.pool.scaledDebt user) * l.pool.borrowIndex + (count + 1) * RAY

/-- Neither the accrual nor the floor of a call oversteps one unit for each
debt-reducing call made so far. -/
def Tolerates (cfg : Config Address) (pair : Nat × Lending Address) : Action Address → Prop
  | .call _ (.absorbBadDebt user) =>
      InterestTolerated cfg pair.1 pair.2 ∧ FloorTolerated cfg pair.1 (accrue cfg pair.2) user
  | .call _ call => call.accrues = true → InterestTolerated cfg pair.1 pair.2
  | _ => True

/-! ## A write-off -/

section Absorb

variable [DecidableEq Address] (cfg : Config Address) (l : Lending Address)
  (event : Event Address) (user : Address)

theorem book_charge (scaled loss : Nat) (fall : WriteDown) :
    book cfg (l.put l.token
        (State.emit ((l.pool.debitDebt user scaled).charge loss fall) event)) =
      (book cfg l).writeOff scaled fall.supplyIndex
        (l.pool.totalReserves - fall.fromReserves) := rfl

variable {cfg l user}

/-- Either the claims fall with the debt to within one unit, or what suppliers
are left with is worth no more than one unit. -/
theorem surplus_absorb_ge (cfg : Config Address)
    (fits : l.pool.scaledDebt user ≤ l.pool.totalBorrowScaled)
    (spared : ¬(Floored l.pool (balanceOfDebt l.pool user) ∧
      RAY < l.pool.totalSupplyScaled)) :
    min (surplus cfg l) 0 - RAY ≤
      surplus cfg (l.put l.token (l.pool.absorbed user)) := by
  have cleared := lt_mul_div_succ_mul (l.pool.scaledDebt user) l.pool.borrowIndex ray_pos
  have charged := write_down_claims l.pool (balanceOfDebt l.pool user) spared
  rw [← write_down_reserves] at charged
  unfold surplus
  simp only [State.absorbed]
  rw [book_charge]
  exact (book cfg l).surplus_write_off_ge cleared fits charged

/-- At the floor, what the other debts and cash do not cover is what suppliers
keep of an index of one. -/
theorem surplus_absorb_floored {count : Nat}
    (floored : Floored l.pool (balanceOfDebt l.pool user))
    (tolerated : FloorTolerated cfg count l user) :
    -((count + 1) * RAY : Nat) ≤ surplus cfg (l.put l.token (l.pool.absorbed user)) := by
  have bound := tolerated floored
  have spent : l.pool.totalReserves - min (balanceOfDebt l.pool user) l.pool.totalReserves = 0 := by
    have uncovered := floored.1
    unfold remainder at uncovered
    omega
  have index : (writeDown l.pool (balanceOfDebt l.pool user)).supplyIndex = 1 := by
    rcases write_down_cases l.pool (balanceOfDebt l.pool user) with
      ⟨covered, _⟩ | ⟨_, nobody, _⟩ | ⟨_, w⟩ | ⟨_, _, live, _⟩
    · exact absurd covered floored.1
    · exact absurd nobody floored.2.1
    · rw [w]
    · exact absurd ((lowered_eq_zero_iff floored.2.1).2 floored.2.2) live
  have reserves := write_down_reserves l.pool (balanceOfDebt l.pool user)
  unfold surplus
  simp only [State.absorbed]
  rw [book_charge, index, reserves, spent]
  simp only [Book.surplus, Book.assets, Book.claims, Book.writeOff, book, availableLiquidity]
    at bound ⊢
  omega

end Absorb

/-! ## What one action preserves -/

section Step

variable [DecidableEq Address] [Zero Address] {cfg : Config Address}
  {l after : Lending Address} {sender : Address}

omit [DecidableEq Address] [Zero Address] in
theorem surplus_of_same_books (cfg : Config Address) (same : SameBooks l after) :
    surplus cfg after = surplus cfg l := by
  have books : book cfg after = book cfg l := by
    simp only [book, same.token, same.totalSupplyScaled, same.supplyIndex,
      same.totalBorrowScaled, same.borrowIndex, same.totalReserves]
  unfold surplus
  rw [books]

/-- A call costs no more than its accrual, and a unit if it reduces debt; what
a write-off costs is said apart. -/
theorem surplus_call_from {call : Call Address} {floor : Int}
    (external : sender ≠ cfg.address)
    (start : floor ≤ if call.accrues then surplus cfg (accrue cfg l) else surplus cfg l)
    (written : ∀ user, call = .absorbBadDebt user →
      (accrue cfg l).pool.scaledDebt user ≤ (accrue cfg l).pool.totalBorrowScaled →
      floor - RAY ≤ surplus cfg
        ((accrue cfg l).put (accrue cfg l).token ((accrue cfg l).pool.absorbed user)))
    (ran : exec cfg sender l call = .ok after) :
    floor - (if call.reducesDebt then RAY else 0 : Nat) ≤ surplus cfg after := by
  have ray := ray_pos
  cases call with
  | accrue =>
      cases ran
      simp only [Call.accrues, Call.reducesDebt, if_true, Bool.false_eq_true, if_false] at start ⊢
      omega
  | supply amount =>
      have kept := surplus_supply_ge external ran
      simp only [Call.accrues, Call.reducesDebt, if_true, Bool.false_eq_true, if_false] at start ⊢
      omega
  | withdraw amount =>
      have kept := surplus_withdraw_ge ran
      simp only [Call.accrues, Call.reducesDebt, if_true, Bool.false_eq_true, if_false] at start ⊢
      omega
  | borrow amount onBehalfOf =>
      have kept := surplus_borrow_ge ran
      simp only [Call.accrues, Call.reducesDebt, if_true, Bool.false_eq_true, if_false] at start ⊢
      omega
  | repay amount onBehalfOf =>
      have kept : surplus cfg (accrue cfg l) - RAY ≤ surplus cfg after := by
        by_cases whole : amount = balanceOfDebt (accrue cfg l).pool onBehalfOf
        · exact (surplus_repay_full_gt external whole ran).le
        · have part := surplus_repay_partial_ge external whole ran
          omega
      simp only [Call.accrues, Call.reducesDebt, if_true] at start ⊢
      omega
  | absorbBadDebt user =>
      obtain ⟨_, _, fits, rfl⟩ := exec_absorb_ok_iff.1 ran
      rw [← accrue_scaled_debt cfg l, ← accrue_total_borrow_scaled cfg l] at fits
      have kept := written user rfl fits
      rw [accrue_token] at kept
      simp only [Call.reducesDebt, if_true]
      exact kept
  | withdrawReserves amount =>
      have kept := surplus_withdraw_reserves_ge ran
      simp only [Call.accrues, Call.reducesDebt, Bool.false_eq_true, if_false] at start ⊢
      omega
  | setBorrowModule target =>
      have same := surplus_of_same_books cfg (set_borrow_module_ok ran).1
      simp only [Call.accrues, Call.reducesDebt, Bool.false_eq_true, if_false] at start ⊢
      omega
  | administer call =>
      have same := surplus_of_same_books cfg (administer_ok ran).1
      simp only [Call.accrues, Call.reducesDebt, Bool.false_eq_true, if_false] at start ⊢
      omega
  | guard call =>
      have same := surplus_of_same_books cfg (guard_ok ran).1
      simp only [Call.accrues, Call.reducesDebt, Bool.false_eq_true, if_false] at start ⊢
      omega

/-- One call against the allowance: what it costs is what the allowance grows by. -/
theorem surplus_call_ge {call : Call Address} {allowance : Nat}
    (external : sender ≠ cfg.address) (covered : -(allowance : Int) ≤ surplus cfg l)
    (spared : SparesFloor cfg l (.call sender call))
    (ran : exec cfg sender l call = .ok after) :
    -(roundingAfter cfg allowance l (.call sender call) : Int) ≤ surplus cfg after := by
  have accrual := surplus_accrue_ge cfg l covered
  let loss := if call.accrues then accrualLoss cfg l allowance else 0
  have kept : -((allowance + loss : Nat) : Int) - (if call.reducesDebt then RAY else 0 : Nat) ≤
      surplus cfg after := by
    refine surplus_call_from external ?_ ?_ ran
    · simp only [loss]
      split_ifs <;> omega
    · rintro user rfl fits
      have absorbed := surplus_absorb_ge cfg fits spared
      simp only [loss, Call.accrues, if_true]
      omega
  simp only [roundingAfter]
  omega

omit [DecidableEq Address] [Zero Address] in
theorem surplus_accrue_eq (cfg : Config Address) (l : Lending Address) :
    surplus cfg (accrue cfg l) = surplus cfg l + charged cfg l - credited cfg l := by
  unfold surplus
  rw [book_accrue, Book.surplus_accrue]
  rfl

/-- One call against the tolerance: it costs a unit exactly when it makes one more. -/
theorem surplus_tolerated {call : Call Address} {count : Nat}
    (external : sender ≠ cfg.address) (covered : -((count * RAY : Nat) : Int) ≤ surplus cfg l)
    (tolerated : Tolerates cfg (count, l) (.call sender call))
    (ran : exec cfg sender l call = .ok after) :
    -((debtReductions count l (.call sender call) * RAY : Nat) : Int) ≤ surplus cfg after := by
  have moved := surplus_accrue_eq cfg l
  have interest : call.accrues = true → InterestTolerated cfg count l := by
    intro accrues
    cases call <;> first | exact tolerated.1 | exact tolerated accrues
  have accrued : call.accrues = true → -((count * RAY : Nat) : Int) ≤ surplus cfg (accrue cfg l) := by
    intro accrues
    have overpaid := interest accrues
    unfold InterestTolerated at overpaid
    push_cast
    omega
  have kept : -((count * RAY : Nat) : Int) - (if call.reducesDebt then RAY else 0 : Nat) ≤
      surplus cfg after := by
    refine surplus_call_from external ?_ ?_ ran
    · split_ifs with accrues
      · exact accrued accrues
      · exact covered
    · rintro user rfl fits
      by_cases floored : Floored (accrue cfg l).pool (balanceOfDebt (accrue cfg l).pool user)
      · have absorbed : -(((count + 1) * RAY : Nat) : Int) ≤ _ :=
          surplus_absorb_floored floored tolerated.2
        rw [Nat.add_mul, Nat.one_mul] at absorbed
        omega
      · have absorbed := surplus_absorb_ge cfg fits fun both => floored both.1
        have before := accrued rfl
        omega
  simp only [debtReductions]
  split_ifs at kept ⊢ with reduces
  · rw [Nat.add_mul, Nat.one_mul]
    omega
  · omega

end Step

/-! ## Runs -/

section Runs

variable [DecidableEq Address] [Zero Address] {cfg : Config Address}

/-- The pool has approved nobody, and its surplus is within the allowance. -/
structure Covered (cfg : Config Address) (allowance : Nat) (l : Lending Address) : Prop where
  unapproved : l.token.allowance cfg.address = fun _ => 0
  surplus_ge : -(allowance : Int) ≤ surplus cfg l

theorem covered_of_deployed {l : Lending Address} (start : Deployed cfg l) :
    Covered cfg 0 l := by
  obtain ⟨⟨owner, access, guardian, _, fresh⟩, unapproved⟩ := start
  refine ⟨unapproved, ?_⟩
  simp only [surplus, Book.surplus, Book.assets, Book.claims, book, fresh, deployed]
  omega

/-- What happens outside the pool takes nothing from it. -/
theorem covered_of_outside {allowance : Nat} {l after : Lending Address} {action : Action Address}
    (before : Covered cfg allowance l) (taken : (machine cfg).step l action after)
    (outside : ∀ sender call, action ≠ .call sender call) : Covered cfg allowance after := by
  obtain ⟨external, ran⟩ := taken
  cases action with
  | call sender call => exact absurd rfl (outside sender call)
  | asset sender call =>
      simp only [act, bind_ok_iff, Except.ok.injEq] at ran
      obtain ⟨token, moved, rfl⟩ := ran
      obtain ⟨kept, row⟩ := Erc20.exec_keeps_unapproved external
        (fun spender _ => congrFun before.unapproved spender) moved
      exact ⟨row.trans before.unapproved,
        before.surplus_ge.trans ((book cfg l).surplus_le_cash kept)⟩
  | wait seconds =>
      cases ran
      exact ⟨before.unapproved, before.surplus_ge⟩

theorem covered_step {allowance : Nat} {l after : Lending Address}
    {action : Action Address} (before : Covered cfg allowance l)
    (taken : (machine cfg).step l action after) (spared : SparesFloor cfg l action) :
    Covered cfg (roundingAfter cfg allowance l action) after := by
  cases action with
  | call sender call =>
      obtain ⟨external, ran⟩ := taken
      exact ⟨(exec_keeps_bystander external.symm ran).2.trans before.unapproved,
        surplus_call_ge external before.surplus_ge spared ran⟩
  | asset sender call => exact covered_of_outside before taken nofun
  | wait seconds => exact covered_of_outside before taken nofun

theorem tolerated_step {count : Nat} {l after : Lending Address}
    {action : Action Address} (before : Covered cfg (count * RAY) l)
    (taken : (machine cfg).step l action after) (tolerated : Tolerates cfg (count, l) action) :
    Covered cfg (debtReductions count l action * RAY) after := by
  cases action with
  | call sender call =>
      obtain ⟨external, ran⟩ := taken
      exact ⟨(exec_keeps_bystander external.symm ran).2.trans before.unapproved,
        surplus_tolerated external before.surplus_ge tolerated ran⟩
  | asset sender call => exact covered_of_outside before taken nofun
  | wait seconds => exact covered_of_outside before taken nofun

omit [DecidableEq Address] [Zero Address] in
theorem Covered.solvent {allowance : Nat} {l : Lending Address}
    (covered : Covered cfg allowance l) : SolventWithin cfg l (mulDivUp allowance 1 RAY) := by
  have bound := Book.claims_le_of_surplus_ge ray_pos (book cfg l) covered.surplus_ge
  unfold SolventWithin
  exact bound.trans (Nat.add_le_add_right (Nat.le_add_right _ _) _)

/-- Every run in which no write-off is stopped by the index floor keeps the
pool solvent within the allowance it has accumulated. -/
theorem solvent_over_every_run (cfg : Config Address) (allowance : Nat)
    (l : Lending Address)
    (reached : (((machine cfg).restrict (SparesFloor cfg)).tallied 0
      (roundingAfter cfg)).Reachable (allowance, l)) :
    SolventWithin cfg l (mulDivUp allowance 1 RAY) := by
  have covered : Covered cfg allowance l := by
    refine Machine.Reachable.invariant (fun pair => Covered cfg pair.1 pair.2)
      ?_ ?_ reached
    · rintro ⟨tally, state⟩ ⟨rfl, start⟩
      exact covered_of_deployed start
    · rintro ⟨tally, state⟩ action ⟨tally', next⟩ _ before ⟨rfl, taken, spared⟩
      exact covered_step before taken spared
  exact covered.solvent

end Runs

instance (cfg : Config Address) [DecidableEq Address] (l : Lending Address)
    (action : Action Address) : Decidable (SparesFloor cfg l action) :=
  match action with
  | .call _ (.absorbBadDebt _) => inferInstanceAs (Decidable (¬(_ ∧ _)))
  | .call _ .accrue | .call _ (.supply _) | .call _ (.withdraw _) | .call _ (.borrow _ _)
  | .call _ (.repay _ _) | .call _ (.withdrawReserves _) | .call _ (.setBorrowModule _)
  | .call _ (.administer _) | .call _ (.guard _) | .asset _ _ | .wait _ => isTrue trivial

instance (cfg : Config Address) (count : Nat) (l : Lending Address) :
    Decidable (InterestTolerated cfg count l) :=
  inferInstanceAs (Decidable (_ ≤ _))

instance (cfg : Config Address) (count : Nat) (l : Lending Address) (user : Address) :
    Decidable (FloorTolerated cfg count l user) :=
  inferInstanceAs (Decidable (_ → _))

instance (cfg : Config Address) (pair : Nat × Lending Address) (action : Action Address) :
    Decidable (Tolerates cfg pair action) :=
  match action with
  | .call _ (.absorbBadDebt _) => inferInstanceAs (Decidable (_ ∧ _))
  | .call _ .accrue | .call _ (.supply _) | .call _ (.withdraw _) | .call _ (.borrow _ _)
  | .call _ (.repay _ _) | .call _ (.withdrawReserves _) | .call _ (.setBorrowModule _)
  | .call _ (.administer _) | .call _ (.guard _) => inferInstanceAs (Decidable (_ → _))
  | .asset _ _ | .wait _ => isTrue trivial

/-- A debt repaid in full, and another written off against two suppliers. -/
def lossRun : List (Action (Fin 8)) :=
  [.call 6 (.setBorrowModule 5), .call 1 (.supply 1000), .call 4 (.supply 500),
    .call 5 (.borrow 300 2), .call 5 (.borrow 200 3), .wait 1000000, .call 2 (.repay 300 2),
    .wait 1000, .call 5 (.absorbBadDebt 3)]

/-- Two full write-offs: the second starts at an index of one, the floor keeps
it there, and the new supplier's claim on the lost cash stays on the books. -/
def floorRun : List (Action (Fin 8)) :=
  [.call 6 (.setBorrowModule 5), .call 1 (.supply 1000), .call 5 (.borrow 1000 2),
    .call 5 (.absorbBadDebt 2), .call 3 (.supply 1000), .call 5 (.borrow 1000 4),
    .call 5 (.absorbBadDebt 4)]

/-- One repayment of a whole debt leaves a fraction of a unit behind, and the
shortfall then earns interest like any deposit. -/
def compoundingRun : List (Action (Fin 8)) :=
  [.call 6 (.setBorrowModule 5), .call 1 (.supply 2), .call 5 (.borrow 1 2),
    .call 5 (.borrow 1 3), .wait 1, .call 2 (.repay 1 2), .call 1 (.supply 19),
    .call 5 (.borrow 19 4), .wait 1000, .call 1 .accrue]

/-- No repayment at all: the borrow index is truncated in one accrual of each
scaled unit of a large debt. -/
def truncationRun : List (Action (Fin 8)) :=
  [.call 6 (.setBorrowModule 5), .call 1 (.supply (2 * 10 ^ 30)), .call 5 (.borrow (10 ^ 30) 2),
    .wait 1, .call 1 .accrue, .call 5 (.borrow (10 ^ 30) 2), .wait 249999999, .call 1 .accrue]

theorem shortfall_of_replay {rate count : Nat} (run : List (Action (Fin 8)))
    (outside : ∀ action ∈ run, action.External (flatCurve rate))
    (short : passes (Machine.replay (Machine.beside debtReductions
      (Machine.guarded (fun _ _ => True) .external (act (flatCurve rate)))) (0, fresh) run)
      (fun pair => pair.1 = count ∧ ¬SolventWithin (flatCurve rate) pair.2 count) = true) :
    ∃ l, ((machine (flatCurve rate)).tallied 0 debtReductions).Reachable (count, l) ∧
      ¬SolventWithin (flatCurve rate) l count := by
  obtain ⟨⟨tally, l⟩, reached, checked⟩ := reachable_of_replay (flatCurve rate) rfl 0
    debtReductions _ run _ outside short
  obtain ⟨rfl, insolvent⟩ := of_decide_eq_true checked
  refine ⟨l, Machine.Reachable.mono ?_ ?_ reached, insolvent⟩
  · exact fun _ start => start
  · exact fun _ _ _ taken => ⟨taken.1, taken.2.1⟩

end Pool

end Ghoststake
