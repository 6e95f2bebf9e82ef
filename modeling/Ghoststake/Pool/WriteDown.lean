import Ghoststake.Library.ScaledIndex
import Ghoststake.Pool.Steps

/-!
# The write-down

The four ways a loss can fall, what suppliers bear in each, and the one where
the index is stopped from above: the floor at one.
-/

namespace Ghoststake

set_option autoImplicit false

open Checked Rounding ScaledIndex

namespace Pool

variable {Address : Type}

/-- What a loss leaves for suppliers once reserves are spent. -/
def remainder (pool : State Address) (loss : Nat) : Nat := loss - min loss pool.totalReserves

/-- The write-down rounds the supply index to zero, and the floor puts it back at one. -/
def Floored (pool : State Address) (loss : Nat) : Prop :=
  remainder pool loss ≠ 0 ∧ totalSupplied pool ≠ 0 ∧
    pool.supplyIndex * (totalSupplied pool - remainder pool loss) < totalSupplied pool

instance (pool : State Address) (loss : Nat) : Decidable (Floored pool loss) :=
  inferInstanceAs (Decidable (_ ∧ _ ∧ _))

theorem lowered_eq_zero_iff {index whole charge : Nat} (someone : whole ≠ 0) :
    lowered index whole charge = 0 ↔ index * (whole - charge) < whole := by
  unfold lowered mulDiv
  rw [Nat.div_eq_zero_iff]
  omega

theorem write_down_cases (pool : State Address) (loss : Nat) :
    (remainder pool loss = 0 ∧
      writeDown pool loss = ⟨min loss pool.totalReserves, 0, 0, pool.supplyIndex⟩) ∨
    (remainder pool loss ≠ 0 ∧ totalSupplied pool = 0 ∧
      writeDown pool loss =
        ⟨min loss pool.totalReserves, 0, remainder pool loss, pool.supplyIndex⟩) ∨
    (Floored pool loss ∧
      writeDown pool loss = ⟨min loss pool.totalReserves,
        min (remainder pool loss) (totalSupplied pool),
        remainder pool loss - min (remainder pool loss) (totalSupplied pool), 1⟩) ∨
    (remainder pool loss ≠ 0 ∧ remainder pool loss < totalSupplied pool ∧
      lowered pool.supplyIndex (totalSupplied pool) (remainder pool loss) ≠ 0 ∧
      writeDown pool loss = ⟨min loss pool.totalReserves, remainder pool loss, 0,
        lowered pool.supplyIndex (totalSupplied pool) (remainder pool loss)⟩) := by
  by_cases covered : remainder pool loss = 0
  · left
    refine ⟨covered, ?_⟩
    unfold remainder at covered
    simp only [writeDown, if_pos covered]
  right
  by_cases nobody : totalSupplied pool = 0
  · left
    refine ⟨covered, nobody, ?_⟩
    unfold remainder at covered ⊢
    simp only [writeDown, if_neg covered, if_pos nobody]
  right
  have charged : writeDown pool loss = ⟨min loss pool.totalReserves,
      min (remainder pool loss) (totalSupplied pool),
      remainder pool loss - min (remainder pool loss) (totalSupplied pool),
      if lowered pool.supplyIndex (totalSupplied pool)
          (min (remainder pool loss) (totalSupplied pool)) = 0 then 1
        else lowered pool.supplyIndex (totalSupplied pool)
          (min (remainder pool loss) (totalSupplied pool))⟩ := by
    unfold remainder at covered ⊢
    simp only [writeDown, if_neg covered, if_neg nobody, lowered]
    congr
  have trimmed : totalSupplied pool - min (remainder pool loss) (totalSupplied pool) =
      totalSupplied pool - remainder pool loss := by omega
  have sameIndex : lowered pool.supplyIndex (totalSupplied pool)
      (min (remainder pool loss) (totalSupplied pool)) =
        lowered pool.supplyIndex (totalSupplied pool) (remainder pool loss) := by
    unfold lowered
    rw [trimmed]
  rw [charged, sameIndex]
  by_cases zero : lowered pool.supplyIndex (totalSupplied pool) (remainder pool loss) = 0
  · left
    refine ⟨⟨covered, nobody, (lowered_eq_zero_iff nobody).1 zero⟩, ?_⟩
    rw [if_pos zero]
  · right
    have less : remainder pool loss < totalSupplied pool := by
      by_contra more
      apply zero
      rw [lowered_eq_zero_iff nobody, Nat.sub_eq_zero_of_le (not_lt.1 more)]
      omega
    refine ⟨covered, less, zero, ?_⟩
    rw [if_neg zero, min_eq_left less.le, Nat.sub_self]

theorem write_down_reserves (pool : State Address) (loss : Nat) :
    (writeDown pool loss).fromReserves = min loss pool.totalReserves := by
  rcases write_down_cases pool loss with h | h | h | h <;> simp [h]

/-- The floor keeps the index alive. -/
theorem write_down_index_pos {pool : State Address} (loss : Nat)
    (live : 0 < pool.supplyIndex) : 0 < (writeDown pool loss).supplyIndex := by
  rcases write_down_cases pool loss with ⟨_, w⟩ | ⟨_, _, w⟩ | ⟨_, w⟩ | ⟨_, _, nonzero, w⟩ <;>
    rw [w]
  · exact live
  · exact live
  · exact Nat.one_pos
  · exact Nat.pos_of_ne_zero nonzero

/-- A write-off spared the floor takes the loss off the claims, or leaves
claims worth no more than one unit. -/
theorem write_down_claims (pool : State Address) (loss : Nat)
    (spared : ¬(Floored pool loss ∧ RAY < pool.totalSupplyScaled)) :
    pool.totalSupplyScaled * (writeDown pool loss).supplyIndex +
          (pool.totalReserves - min loss pool.totalReserves) * RAY + loss * RAY ≤
        pool.totalSupplyScaled * pool.supplyIndex + pool.totalReserves * RAY ∨
      pool.totalSupplyScaled * (writeDown pool loss).supplyIndex +
          (pool.totalReserves - min loss pool.totalReserves) * RAY ≤ RAY := by
  have spent : min loss pool.totalReserves + (pool.totalReserves - min loss pool.totalReserves) =
      pool.totalReserves := by omega
  have split : remainder pool loss + min loss pool.totalReserves = loss := by
    unfold remainder
    omega
  have exhausted : remainder pool loss ≠ 0 →
      pool.totalReserves - min loss pool.totalReserves = 0 := by
    unfold remainder
    omega
  rcases write_down_cases pool loss with
    ⟨covered, w⟩ | ⟨uncovered, nobody, w⟩ | ⟨floored, w⟩ | ⟨uncovered, less, _, w⟩
  · left
    rw [w]
    have scaled := congrArg (· * RAY) spent
    have scaledLoss := congrArg (· * RAY) split
    simp only [covered, Nat.zero_add, Nat.add_mul] at scaled scaledLoss ⊢
    omega
  · right
    rw [w, exhausted uncovered]
    have below := lt_mul_div_succ_mul pool.totalSupplyScaled pool.supplyIndex ray_pos
    unfold totalSupplied at nobody
    rw [nobody] at below
    change pool.totalSupplyScaled * pool.supplyIndex + 0 * RAY ≤ RAY
    omega
  · right
    rw [w, exhausted floored.1]
    have small : pool.totalSupplyScaled ≤ RAY := by
      by_contra large
      exact spared ⟨floored, not_le.1 large⟩
    change pool.totalSupplyScaled * 1 + 0 * RAY ≤ RAY
    omega
  · left
    rw [w, exhausted uncovered]
    have taken := charge_le less.le (Nat.zero_lt_of_lt less)
    have scaledSpent := congrArg (· * RAY) spent
    have scaledLoss := congrArg (· * RAY) split
    simp only [totalSupplied, exhausted uncovered, Nat.add_mul] at taken scaledSpent scaledLoss ⊢
    omega

end Pool

end Ghoststake
