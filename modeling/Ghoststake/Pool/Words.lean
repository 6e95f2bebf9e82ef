import Ghoststake.Chain.Uint
import Ghoststake.Pool.Conservation

/-!
# Accrual in 256 bits

`accrue()` with the reverts of every sum, product and quotient it writes. No
bound on the curve keeps an index within a word, and past one the call reverts
from then on. Elsewhere the pool's figures are natural numbers; where a result
turns on whether accrual goes through, it is this one.
-/

namespace Ghoststake

set_option autoImplicit false

open Checked

namespace Pool

namespace Words

variable {Address : Type}

def utilization (cfg : Config Address) (l : Lending Address) : Outcome Address Nat := do
  let borrowed ← Uint256.mulDiv l.pool.totalBorrowScaled l.pool.borrowIndex RAY
  if borrowed = 0 then .ok 0
  else do
    let whole ← Uint256.plus (availableLiquidity cfg l) borrowed
    Uint256.mulDiv borrowed WAD whole

def borrowRateAt (cfg : Config Address) (u : Nat) : Outcome Address Nat :=
  if u ≤ cfg.kink then do
    let sloped ← Uint256.mulDiv cfg.slope1PerSecond u cfg.kink
    Uint256.plus cfg.baseRatePerSecond sloped
  else do
    let shallow ← Uint256.plus cfg.baseRatePerSecond cfg.slope1PerSecond
    let steep ← Uint256.mulDiv cfg.slope2PerSecond (u - cfg.kink) (WAD - cfg.kink)
    Uint256.plus shallow steep

def supplyRateAt (cfg : Config Address) (u : Nat) : Outcome Address Nat := do
  let borrowRate ← borrowRateAt cfg u
  let gross ← Uint256.mulDiv borrowRate u WAD
  Uint256.mulDiv gross (WAD - cfg.reserveFactor) WAD

/-- What `if (borrowGrowth != 0)` adds to the reserves and makes of the index. -/
def growBorrows (cfg : Config Address) (pool : State Address) (borrowGrowth : Nat) :
    Outcome Address (Nat × Nat × Nat) :=
  if borrowGrowth ≠ 0 then do
    let borrowed ← Uint256.mulDiv pool.totalBorrowScaled pool.borrowIndex RAY
    let borrowInterest ← Uint256.mulDiv borrowed borrowGrowth WAD
    let reservesAdded ← Uint256.mulDiv borrowInterest cfg.reserveFactor WAD
    let totalReserves ← Uint256.plus pool.totalReserves reservesAdded
    let grown ← Uint256.mulDiv pool.borrowIndex borrowGrowth WAD
    let borrowIndex ← Uint256.plus pool.borrowIndex grown
    .ok (reservesAdded, totalReserves, borrowIndex)
  else .ok (0, pool.totalReserves, pool.borrowIndex)

def growSupply (pool : State Address) (supplyGrowth : Nat) : Outcome Address Nat :=
  if supplyGrowth ≠ 0 then do
    let grown ← Uint256.mulDiv pool.supplyIndex supplyGrowth WAD
    Uint256.plus pool.supplyIndex grown
  else .ok pool.supplyIndex

def accrue (cfg : Config Address) (l : Lending Address) : Outcome Address (Lending Address) :=
  if elapsed l = 0 then .ok l
  else do
    let u ← utilization cfg l
    let borrowRate ← borrowRateAt cfg u
    let borrowGrowth ← Uint256.times borrowRate (elapsed l)
    let supplyRate ← supplyRateAt cfg u
    let supplyGrowth ← Uint256.times supplyRate (elapsed l)
    let (reservesAdded, totalReserves, borrowIndex) ← growBorrows cfg l.pool borrowGrowth
    let supplyIndex ← growSupply l.pool supplyGrowth
    .ok (l.put l.token (State.emit
      { l.pool with
        totalReserves := totalReserves
        borrowIndex := borrowIndex
        supplyIndex := supplyIndex
        lastAccrualTime := l.timestamp }
      (.accrued supplyIndex borrowIndex reservesAdded)))

end Words

/-! ## When it goes through -/

variable {Address : Type} {cfg : Config Address} {l other : Lending Address}

/-- Every figure of the accrual to this instant is a word. Those left out are
no greater than one that is here. -/
@[mk_iff]
structure Fits (cfg : Config Address) (l : Lending Address) : Prop where
  borrowed : totalBorrowed l.pool ≤ uint256Max
  whole : totalBorrowed l.pool ≠ 0 →
    availableLiquidity cfg l + totalBorrowed l.pool ≤ uint256Max
  growth : borrowGrowth cfg l ≤ uint256Max
  interest : borrowGrowth cfg l ≠ 0 →
    Rounding.mulDiv (totalBorrowed l.pool) (borrowGrowth cfg l) WAD ≤ uint256Max
  reserves : borrowGrowth cfg l ≠ 0 → l.pool.totalReserves + reservesAdded cfg l ≤ uint256Max
  borrow_index : borrowGrowth cfg l ≠ 0 → nextBorrowIndex cfg l ≤ uint256Max
  supply_index : supplyGrowth cfg l ≠ 0 → nextSupplyIndex cfg l ≤ uint256Max

/-- The call at hand goes through: it has nothing to do, or everything fits. -/
def Accrues (cfg : Config Address) (l : Lending Address) : Prop := elapsed l = 0 ∨ Fits cfg l

theorem wad_le_uint256_max : WAD ≤ uint256Max := by
  unfold WAD uint256Max
  decide

theorem utilization_le_wad (cfg : Config Address) (l : Lending Address) :
    utilization cfg l ≤ WAD := by
  rw [utilization_eq_book]
  exact IndexedBook.Book.utilization_le RAY WAD _

theorem words_utilization_ok_iff {u : Nat} :
    Words.utilization cfg l = .ok u ↔
      (totalBorrowed l.pool ≤ uint256Max ∧ (totalBorrowed l.pool ≠ 0 →
        availableLiquidity cfg l + totalBorrowed l.pool ≤ uint256Max)) ∧
      utilization cfg l = u := by
  have borrowing : Rounding.mulDiv l.pool.totalBorrowScaled l.pool.borrowIndex RAY =
      totalBorrowed l.pool := rfl
  have small := utilization_le_wad cfg l
  unfold utilization at small ⊢
  simp only [Words.utilization, bind_ok_iff, Uint256.mul_div_ok_iff ray_pos.ne', borrowing]
  dsimp only at small ⊢
  by_cases none : totalBorrowed l.pool = 0
  · simp [none]
  · have positive : availableLiquidity cfg l + totalBorrowed l.pool ≠ 0 := by omega
    rw [if_neg none] at small ⊢
    have fits := small.trans wad_le_uint256_max
    constructor
    · rintro ⟨_, ⟨borrowed, rfl⟩, ran⟩
      rw [if_neg none] at ran
      simp only [bind_ok_iff, Uint256.plus_ok_iff] at ran
      obtain ⟨_, ⟨whole, rfl⟩, ran⟩ := ran
      rw [Uint256.mul_div_ok_iff positive] at ran
      exact ⟨⟨borrowed, fun _ => whole⟩, ran.2⟩
    · rintro ⟨⟨borrowed, whole⟩, same⟩
      refine ⟨_, ⟨borrowed, rfl⟩, ?_⟩
      rw [if_neg none]
      simp only [bind_ok_iff, Uint256.plus_ok_iff]
      refine ⟨_, ⟨whole none, rfl⟩, ?_⟩
      rw [Uint256.mul_div_ok_iff positive]
      exact ⟨fits, same⟩

theorem words_borrow_rate_ok_iff {u rate : Nat} :
    Words.borrowRateAt cfg u = .ok rate ↔
      borrowRateAt cfg u ≤ uint256Max ∧ borrowRateAt cfg u = rate := by
  have kinked : WAD - cfg.kink ≠ 0 := by
    have below := cfg.kink_lt_wad
    omega
  unfold Words.borrowRateAt borrowRateAt
  split_ifs
  · simp only [bind_ok_iff, Uint256.mul_div_ok_iff cfg.kink_ne_zero, Uint256.plus_ok_iff]
    constructor
    · rintro ⟨_, ⟨_, rfl⟩, ran⟩
      exact ran
    · rintro ⟨fits, same⟩
      exact ⟨_, ⟨by omega, rfl⟩, fits, same⟩
  · simp only [bind_ok_iff, Uint256.mul_div_ok_iff kinked, Uint256.plus_ok_iff]
    constructor
    · rintro ⟨_, ⟨_, rfl⟩, _, ⟨_, rfl⟩, ran⟩
      exact ran
    · rintro ⟨fits, same⟩
      exact ⟨_, ⟨by omega, rfl⟩, _, ⟨by omega, rfl⟩, fits, same⟩

theorem supply_rate_le (cfg : Config Address) {u : Nat} (small : u ≤ WAD) :
    supplyRateAt cfg u ≤ borrowRateAt cfg u :=
  (Rounding.mul_div_le_left _ (Nat.sub_le _ _)).trans (Rounding.mul_div_le_left _ small)

theorem words_supply_rate_ok_iff {u rate : Nat} (small : u ≤ WAD)
    (fits : borrowRateAt cfg u ≤ uint256Max) :
    Words.supplyRateAt cfg u = .ok rate ↔ supplyRateAt cfg u = rate := by
  have gross : Rounding.mulDiv (borrowRateAt cfg u) u WAD ≤ uint256Max :=
    (Rounding.mul_div_le_left _ small).trans fits
  have net : supplyRateAt cfg u ≤ uint256Max := (supply_rate_le cfg small).trans fits
  unfold supplyRateAt at net ⊢
  simp only [Words.supplyRateAt, bind_ok_iff, words_borrow_rate_ok_iff,
    Uint256.mul_div_ok_iff wad_pos.ne']
  constructor
  · rintro ⟨_, ⟨_, rfl⟩, _, ⟨_, rfl⟩, ran⟩
    exact ran.2
  · intro same
    exact ⟨_, ⟨fits, rfl⟩, _, ⟨gross, rfl⟩, net, same⟩

theorem words_grow_borrows_ok_iff {growth : Nat} {grown : Nat × Nat × Nat}
    (same : borrowGrowth cfg l = growth) :
    Words.growBorrows cfg l.pool growth = .ok grown ↔
      (growth ≠ 0 →
        totalBorrowed l.pool ≤ uint256Max ∧
        Rounding.mulDiv (totalBorrowed l.pool) growth WAD ≤ uint256Max ∧
        l.pool.totalReserves + reservesAdded cfg l ≤ uint256Max ∧
        nextBorrowIndex cfg l ≤ uint256Max) ∧
      (reservesAdded cfg l, l.pool.totalReserves + reservesAdded cfg l, nextBorrowIndex cfg l) =
        grown := by
  have borrowing : Rounding.mulDiv l.pool.totalBorrowScaled l.pool.borrowIndex RAY =
      totalBorrowed l.pool := rfl
  unfold Words.growBorrows reservesAdded nextBorrowIndex
  rw [same]
  split_ifs with grows
  · simp only [bind_ok_iff, Uint256.mul_div_ok_iff ray_pos.ne',
      Uint256.mul_div_ok_iff wad_pos.ne', Uint256.plus_ok_iff, borrowing]
    constructor
    · rintro ⟨_, ⟨borrowed, rfl⟩, _, ⟨interest, rfl⟩, _, ⟨_, rfl⟩, _, ⟨reserves, rfl⟩, _,
        ⟨_, rfl⟩, _, ⟨index, rfl⟩, ran⟩
      exact ⟨fun _ => ⟨borrowed, interest, reserves, index⟩, Except.ok.inj ran⟩
    · rintro ⟨fits, same⟩
      obtain ⟨borrowed, interest, reserves, index⟩ := fits grows
      exact ⟨_, ⟨borrowed, rfl⟩, _, ⟨interest, rfl⟩, _, ⟨by omega, rfl⟩, _, ⟨reserves, rfl⟩, _,
        ⟨by omega, rfl⟩, _, ⟨index, rfl⟩, congrArg Except.ok same⟩
  · simp [grows]

theorem words_grow_supply_ok_iff {growth grown : Nat} (same : supplyGrowth cfg l = growth) :
    Words.growSupply l.pool growth = .ok grown ↔
      (growth ≠ 0 → nextSupplyIndex cfg l ≤ uint256Max) ∧ nextSupplyIndex cfg l = grown := by
  unfold Words.growSupply nextSupplyIndex
  rw [same]
  split_ifs with grows
  · simp only [bind_ok_iff, Uint256.mul_div_ok_iff wad_pos.ne', Uint256.plus_ok_iff]
    constructor
    · rintro ⟨_, ⟨_, rfl⟩, index, ran⟩
      exact ⟨fun _ => index, ran⟩
    · rintro ⟨fits, same⟩
      have index := fits grows
      exact ⟨_, ⟨by omega, rfl⟩, index, same⟩
  · simp [grows]

/-- Accrual goes through when its figures fit, and does what it does with
figures that know no bound. -/
theorem words_accrue_ok_iff {after : Lending Address} :
    Words.accrue cfg l = .ok after ↔ Accrues cfg l ∧ accrue cfg l = after := by
  unfold Words.accrue accrue Accrues
  split_ifs with still
  · simp [still]
  have u_le := utilization_le_wad cfg l
  have borrowing : borrowRateAt cfg (utilization cfg l) * elapsed l = borrowGrowth cfg l := rfl
  have supplying : supplyRateAt cfg (utilization cfg l) * elapsed l = supplyGrowth cfg l := rfl
  have positive : 1 ≤ elapsed l := by omega
  have slower : supplyGrowth cfg l ≤ borrowGrowth cfg l :=
    Nat.mul_le_mul_right _ (supply_rate_le cfg u_le)
  have rate_le : borrowRateAt cfg (utilization cfg l) ≤ borrowGrowth cfg l :=
    Nat.le_mul_of_pos_right _ positive
  simp only [bind_ok_iff, words_utilization_ok_iff, words_borrow_rate_ok_iff,
    Uint256.times_ok_iff]
  constructor
  · rintro ⟨_, ⟨⟨borrowed, whole⟩, rfl⟩, _, ⟨rate, rfl⟩, _, ⟨growth, rfl⟩, supplyRate, supplied,
      _, ⟨supply, rfl⟩, grown, borrows, supplyIndex, supplies, ran⟩
    rw [words_supply_rate_ok_iff u_le rate] at supplied
    subst supplied
    rw [words_grow_borrows_ok_iff borrowing.symm] at borrows
    rw [words_grow_supply_ok_iff supplying.symm] at supplies
    obtain ⟨fits, rfl⟩ := borrows
    obtain ⟨index, rfl⟩ := supplies
    refine ⟨.inr ⟨borrowed, whole, growth, ?_, ?_, ?_, index⟩, Except.ok.inj ran⟩
    · exact fun grows => (fits grows).2.1
    · exact fun grows => (fits grows).2.2.1
    · exact fun grows => (fits grows).2.2.2
  · rintro ⟨fits, same⟩
    have fits := fits.resolve_left still
    have rate := rate_le.trans fits.growth
    refine ⟨_, ⟨⟨fits.borrowed, fits.whole⟩, rfl⟩, _, ⟨rate, rfl⟩, _, ⟨fits.growth, rfl⟩, _,
      (words_supply_rate_ok_iff u_le rate).2 rfl, _, ⟨slower.trans fits.growth, rfl⟩, _,
      (words_grow_borrows_ok_iff borrowing.symm).2 ⟨?_, rfl⟩, _,
      (words_grow_supply_ok_iff supplying.symm).2 ⟨fits.supply_index, rfl⟩, ?_⟩
    · exact fun grows =>
        ⟨fits.borrowed, fits.interest grows, fits.reserves grows, fits.borrow_index grows⟩
    · exact congrArg Except.ok same

theorem accrues_congr (cash : other.token.balanceOf cfg.address = l.token.balanceOf cfg.address)
    (pool : other.pool = l.pool) (timestamp : other.timestamp = l.timestamp) :
    Accrues cfg other ↔ Accrues cfg l := by
  obtain ⟨borrowing, supplying⟩ := growth_congr cash pool timestamp
  obtain ⟨reserves, nextBorrow, nextSupply⟩ := figures_congr cash pool timestamp
  have fits : Fits cfg other ↔ Fits cfg l := by
    simp only [fits_iff, availableLiquidity, cash, pool, borrowing, supplying, reserves,
      nextBorrow, nextSupply]
  rw [Accrues, Accrues, elapsed_congr pool timestamp, fits]

end Pool

end Ghoststake
