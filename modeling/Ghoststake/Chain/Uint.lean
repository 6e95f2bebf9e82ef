import Ghoststake.Chain.Revert
import Ghoststake.Library.Rounding

/-!
# Checked integers

The widths below 256 bits whose overflow a call can meet, and the arithmetic
on whole words of code whose operands nobody vouches for: what does not fit
reverts.
-/

namespace Ghoststake

set_option autoImplicit false

abbrev Uint64 := Fin (2 ^ 64)

abbrev Uint80 := Fin (2 ^ 80)

theorem Figures.zero_fits : 0 < 2 ^ 64 := by decide

variable {Address : Type}

namespace Uint64

def zero : Uint64 := ⟨0, Figures.zero_fits⟩

/-- `uint64(value)`, which drops the higher bits. -/
def truncate (value : Nat) : Uint64 := ⟨value % 2 ^ 64, Nat.mod_lt _ (by decide)⟩

def plus (a b : Uint64) : Outcome Address Uint64 :=
  if fits : a.val + b.val < 2 ^ 64 then .ok ⟨a.val + b.val, fits⟩ else .error .arithmetic

theorem plus_ok_iff {a b sum : Uint64} :
    (plus a b : Outcome Address Uint64) = .ok sum ↔ sum.val = a.val + b.val := by
  have small := sum.isLt
  unfold plus
  split
  · simp only [Except.ok.injEq, Fin.ext_iff]
    exact eq_comm
  · constructor
    · intro ran
      cases ran
    · intro total
      omega

end Uint64

namespace Uint80

def zero : Uint80 := ⟨0, by decide⟩

/-- `id + 1`, unless `id` is the largest there is. -/
def next (id : Uint80) : Option Uint80 :=
  if fits : id.val + 1 < 2 ^ 80 then some ⟨id.val + 1, fits⟩ else none

theorem next_eq_some_iff {id after : Uint80} :
    id.next = some after ↔ after.val = id.val + 1 := by
  have small := after.isLt
  unfold next
  split
  · simp only [Option.some.injEq, Fin.ext_iff]
    exact eq_comm
  · constructor
    · nofun
    · intro total
      omega

def increment (id : Uint80) : Outcome Address Uint80 :=
  match id.next with
  | some after => .ok after
  | none => .error .arithmetic

end Uint80

namespace Uint256

def minus (a b : Nat) : Outcome Address Nat :=
  if b ≤ a then .ok (a - b) else .error .arithmetic

def times (a b : Nat) : Outcome Address Nat :=
  if a * b ≤ uint256Max then .ok (a * b) else .error .arithmetic

def plus (a b : Nat) : Outcome Address Nat :=
  if a + b ≤ uint256Max then .ok (a + b) else .error .arithmetic

/-- `Math.mulDiv`: the product has twice the width, the quotient has to fit. -/
def mulDiv (x y denominator : Nat) : Outcome Address Nat :=
  if denominator = 0 then .error .divisionByZero
  else if Rounding.mulDiv x y denominator ≤ uint256Max then .ok (Rounding.mulDiv x y denominator)
  else .error .arithmetic

def quotient (a b : Nat) : Outcome Address Nat :=
  if b ≠ 0 then .ok (a / b) else .error .divisionByZero

variable {a b : Nat}

theorem minus_of_le (fits : b ≤ a) : (minus a b : Outcome Address Nat) = .ok (a - b) :=
  if_pos fits

theorem times_of_le (fits : a * b ≤ uint256Max) :
    (times a b : Outcome Address Nat) = .ok (a * b) := if_pos fits

theorem plus_ok_iff {sum : Nat} :
    (plus a b : Outcome Address Nat) = .ok sum ↔ a + b ≤ uint256Max ∧ a + b = sum := by
  unfold plus
  split_ifs with fits <;> simp [fits]

theorem times_ok_iff {product : Nat} :
    (times a b : Outcome Address Nat) = .ok product ↔ a * b ≤ uint256Max ∧ a * b = product := by
  unfold times
  split_ifs with fits <;> simp [fits]

theorem mul_div_ok_iff {denominator result : Nat} (divides : denominator ≠ 0) :
    (mulDiv a b denominator : Outcome Address Nat) = .ok result ↔
      Rounding.mulDiv a b denominator ≤ uint256Max ∧ Rounding.mulDiv a b denominator = result := by
  unfold mulDiv
  rw [if_neg divides]
  split_ifs with fits <;> simp [fits]

theorem quotient_of_ne_zero (divides : b ≠ 0) : (quotient a b : Outcome Address Nat) = .ok (a / b) :=
  if_pos divides

end Uint256

/-! ## Figures

The small types and configurations that runs are carried out on. What has to hold
of a figure for such a configuration to be one is proved here, once for all of them. -/

instance neZeroFour : NeZero 4 := ⟨by decide⟩

instance neZeroEight : NeZero 8 := ⟨by decide⟩

instance neZeroTwelve : NeZero 12 := ⟨by decide⟩

instance neZeroSixteen : NeZero 16 := ⟨by decide⟩

instance neZeroUint8 : NeZero 256 := ⟨by decide⟩

instance neZeroUint64 : NeZero (2 ^ 64) := ⟨by decide⟩

namespace Figures

theorem ten_fits : 10 < 2 ^ 64 := by decide

theorem hundred_fits : 100 < 2 ^ 64 := by decide

theorem two_hundred_fits : 200 < 2 ^ 64 := by decide

theorem one_ne_zero : 1 ≠ 0 := by decide

theorem five_ne_zero : 5 ≠ 0 := by decide

theorem ten_ne_zero : 10 ≠ 0 := by decide

theorem fifty_ne_zero : 50 ≠ 0 := by decide

theorem hundred_ne_zero : 100 ≠ 0 := by decide

theorem half_ne_zero : 5 * 10 ^ 17 ≠ 0 := by decide

theorem half_lt_wad : 5 * 10 ^ 17 < WAD := by
  unfold WAD
  decide

theorem bonus_lt_wad : 5 * 10 ^ 16 < WAD := by
  unfold WAD
  decide

theorem mark_ne_empty : "?" ≠ "" := by decide

theorem eight_decimals_le : 8 ≤ 18 := by decide

theorem seven_ne_zero : (7 : Fin 8) ≠ 0 := by decide

theorem eight_ne_zero : (8 : Fin 12) ≠ 0 := by decide

theorem nine_ne_zero : (9 : Fin 12) ≠ 0 := by decide

end Figures

end Ghoststake
