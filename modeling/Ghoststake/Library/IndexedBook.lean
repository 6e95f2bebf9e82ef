import Ghoststake.Library.Rounding

/-!
# A lending book kept on two indices

Suppliers hold `supply` scaled units worth `supplyIndex / one` each, borrowers
owe `debt` scaled units worth `debtIndex / one` each, and `reserves` are the
house's share of the interest. The surplus is what is left of cash and debt
once every claim is met, before anything is rounded to whole units.
-/

namespace IndexedBook

set_option autoImplicit false

open Rounding

structure Book where
  cash : Nat
  supply : Nat
  supplyIndex : Nat
  debt : Nat
  debtIndex : Nat
  reserves : Nat

namespace Book

/-- Cash and debt, in units of `1 / one`. -/
def assets (one : Nat) (book : Book) : Nat :=
  book.cash * one + book.debt * book.debtIndex

/-- Supplier claims and reserves, in units of `1 / one`. -/
def claims (one : Nat) (book : Book) : Nat :=
  book.supply * book.supplyIndex + book.reserves * one

def surplus (one : Nat) (book : Book) : Int := (book.assets one : Int) - book.claims one

/-! ## Moves -/

def deposit (book : Book) (cash scaled : Nat) : Book :=
  { book with cash := cash, supply := book.supply + scaled }

def withdraw (book : Book) (cash scaled : Nat) : Book :=
  { book with cash := cash, supply := book.supply - scaled }

def borrow (book : Book) (cash scaled : Nat) : Book :=
  { book with cash := cash, debt := book.debt + scaled }

def repay (book : Book) (cash scaled : Nat) : Book :=
  { book with cash := cash, debt := book.debt - scaled }

def drawReserves (book : Book) (cash amount : Nat) : Book :=
  { book with cash := cash, reserves := book.reserves - amount }

/-- Interest: each index moves up, and the house takes its cut. -/
def accrue (book : Book) (supplyGain debtGain reserveGain : Nat) : Book :=
  { book with
    supplyIndex := book.supplyIndex + supplyGain
    debtIndex := book.debtIndex + debtGain
    reserves := book.reserves + reserveGain }

/-- Debt cleared without payment, against a lower supply index and lower reserves. -/
def writeOff (book : Book) (scaled supplyIndex reserves : Nat) : Book :=
  { book with debt := book.debt - scaled, supplyIndex := supplyIndex, reserves := reserves }

/-! ## What each move does to the surplus -/

section Moves

variable {one : Nat} {book : Book} {cash amount scaled : Nat}

theorem surplus_le_cash (book : Book) (gift : book.cash ≤ cash) :
    book.surplus one ≤ ({ book with cash := cash } : Book).surplus one := by
  have more := Nat.mul_le_mul_right one gift
  simp only [surplus, assets, claims]
  omega

theorem surplus_le_deposit (paid : cash = book.cash + amount)
    (rounding : scaled * book.supplyIndex ≤ amount * one) :
    book.surplus one ≤ (book.deposit cash scaled).surplus one := by
  subst paid
  simp only [surplus, assets, claims, deposit, Nat.add_mul]
  omega

theorem surplus_le_withdraw (paid : book.cash ≤ cash + amount)
    (rounding : amount * one ≤ scaled * book.supplyIndex) (fits : scaled ≤ book.supply) :
    book.surplus one ≤ (book.withdraw cash scaled).surplus one := by
  have out := Nat.mul_le_mul_right one paid
  have room := Nat.mul_le_mul_right book.supplyIndex fits
  simp only [surplus, assets, claims, withdraw, Nat.add_mul, Nat.sub_mul] at out ⊢
  omega

theorem surplus_le_borrow (paid : book.cash ≤ cash + amount)
    (rounding : amount * one ≤ scaled * book.debtIndex) :
    book.surplus one ≤ (book.borrow cash scaled).surplus one := by
  have out := Nat.mul_le_mul_right one paid
  simp only [surplus, assets, claims, borrow, Nat.add_mul] at out ⊢
  omega

theorem surplus_le_repay (paid : cash = book.cash + amount)
    (rounding : scaled * book.debtIndex ≤ amount * one) (fits : scaled ≤ book.debt) :
    book.surplus one ≤ (book.repay cash scaled).surplus one := by
  subst paid
  have room := Nat.mul_le_mul_right book.debtIndex fits
  simp only [surplus, assets, claims, repay, Nat.add_mul, Nat.sub_mul]
  omega

/-- A repayment that clears up to a unit more than it pays for. -/
theorem surplus_sub_lt_repay (paid : cash = book.cash + amount)
    (rounding : scaled * book.debtIndex < (amount + 1) * one) (fits : scaled ≤ book.debt) :
    book.surplus one - one < (book.repay cash scaled).surplus one := by
  subst paid
  have room := Nat.mul_le_mul_right book.debtIndex fits
  simp only [surplus, assets, claims, repay, Nat.add_mul, Nat.sub_mul] at rounding ⊢
  omega

theorem surplus_le_draw_reserves (paid : book.cash ≤ cash + amount)
    (enough : amount ≤ book.reserves) :
    book.surplus one ≤ (book.drawReserves cash amount).surplus one := by
  have out := Nat.mul_le_mul_right one paid
  have room := Nat.mul_le_mul_right one enough
  simp only [surplus, assets, claims, drawReserves, Nat.add_mul, Nat.sub_mul] at out ⊢
  omega

/-- An accrual moves the surplus by what it charges less what it credits. -/
theorem surplus_accrue (book : Book) (supplyGain debtGain reserveGain : Nat) :
    (book.accrue supplyGain debtGain reserveGain).surplus one =
      book.surplus one + (book.debt * debtGain : Nat) -
        (book.supply * supplyGain + reserveGain * one : Nat) := by
  simp only [surplus, assets, claims, accrue, Nat.add_mul, Nat.mul_add]
  omega

theorem surplus_sub_le_accrue {supplyGain debtGain reserveGain loss : Nat}
    (interest : book.supply * supplyGain + reserveGain * one ≤ book.debt * debtGain + loss) :
    book.surplus one - loss ≤ (book.accrue supplyGain debtGain reserveGain).surplus one := by
  simp only [surplus, assets, claims, accrue, Nat.add_mul, Nat.mul_add]
  omega

/-- A write-off that takes the loss off the claims costs less than one unit;
one that leaves claims of at most one unit leaves at most that shortfall. -/
theorem surplus_write_off_ge (book : Book) {loss next reserves : Nat}
    (cleared : scaled * book.debtIndex < (loss + 1) * one) (fits : scaled ≤ book.debt)
    (charged : book.supply * next + reserves * one + loss * one ≤ book.claims one ∨
      book.supply * next + reserves * one ≤ one) :
    min (book.surplus one) 0 - one ≤ (book.writeOff scaled next reserves).surplus one := by
  have room := Nat.mul_le_mul_right book.debtIndex fits
  simp only [surplus, assets, claims, writeOff, Nat.add_mul, Nat.sub_mul] at cleared charged ⊢
  omega

end Moves

/-! ## The interest of one accrual -/

section Interest

def owed (one : Nat) (book : Book) : Nat := mulDiv book.debt book.debtIndex one

/-- The borrowed fraction of the book, in units of `1 / wad`. -/
def utilization (one wad : Nat) (book : Book) : Nat :=
  if book.owed one = 0 then 0 else mulDiv (book.owed one) wad (book.cash + book.owed one)

variable {one wad : Nat} {book : Book}

theorem utilization_le (one wad : Nat) (book : Book) : book.utilization one wad ≤ wad := by
  unfold utilization
  split_ifs
  · exact Nat.zero_le _
  · apply mul_div_le_of_le_mul
    rw [Nat.mul_comm]
    exact Nat.mul_le_mul_left _ (Nat.le_add_left _ _)

/-- Utilisation is rounded from a rounded debt and still never overstates the
borrowed part of the assets. -/
theorem utilization_mul_assets_le (one wad : Nat) (book : Book) :
    book.utilization one wad * book.assets one ≤ wad * (book.debt * book.debtIndex) := by
  have bounded := utilization_le one wad book
  have floor : book.owed one * one ≤ book.debt * book.debtIndex := mul_div_mul_le _ _ _
  by_cases none : book.owed one = 0
  · have idle : book.utilization one wad = 0 := by simp [utilization, none]
    rw [idle]
    omega
  have ratio : book.utilization one wad * (book.cash + book.owed one) ≤
      book.owed one * wad := by
    simp only [utilization, if_neg none]
    exact mul_div_mul_le _ _ _
  have idlePart : book.utilization one wad * book.cash ≤
      book.owed one * (wad - book.utilization one wad) := by
    rw [Nat.mul_sub, Nat.mul_comm (book.owed one) (book.utilization one wad)]
    rw [Nat.mul_add] at ratio
    exact Nat.le_sub_of_add_le ratio
  unfold assets
  generalize book.debt * book.debtIndex = debt at floor ⊢
  calc
    book.utilization one wad * (book.cash * one + debt) =
        book.utilization one wad * book.cash * one + book.utilization one wad * debt := by ring
    _ ≤ book.owed one * (wad - book.utilization one wad) * one +
        book.utilization one wad * debt :=
      Nat.add_le_add_right (Nat.mul_le_mul_right _ idlePart) _
    _ = (book.owed one * one) * (wad - book.utilization one wad) +
        book.utilization one wad * debt := by ring
    _ ≤ debt * (wad - book.utilization one wad) + book.utilization one wad * debt :=
      Nat.add_le_add_right (Nat.mul_le_mul_right _ floor) _
    _ = (wad - book.utilization one wad + book.utilization one wad) * debt := by ring
    _ = wad * debt := by rw [Nat.sub_add_cancel bounded]

variable {debtGrowth supplyGrowth cut : Nat}

/-- What suppliers are credited, against claims that may already fall short. -/
theorem supply_interest_le (positive : 0 < wad)
    (growth : supplyGrowth * (wad * wad) ≤
      debtGrowth * book.utilization one wad * (wad - cut))
    {shortfall : Nat}
    (covered : book.supply * book.supplyIndex ≤ book.assets one + shortfall) :
    book.supply * mulDiv book.supplyIndex supplyGrowth wad * (wad * wad) ≤
      book.debt * book.debtIndex * debtGrowth * (wad - cut) +
        shortfall * supplyGrowth * wad := by
  have index := mul_div_mul_le book.supplyIndex supplyGrowth wad
  have ratio := utilization_mul_assets_le one wad book
  generalize book.assets one = backing at ratio covered
  apply Nat.le_of_mul_le_mul_right (c := wad) _ positive
  calc
    book.supply * mulDiv book.supplyIndex supplyGrowth wad * (wad * wad) * wad =
        book.supply * (mulDiv book.supplyIndex supplyGrowth wad * wad) * (wad * wad) := by ring
    _ ≤ book.supply * (book.supplyIndex * supplyGrowth) * (wad * wad) :=
      Nat.mul_le_mul_right _ (Nat.mul_le_mul_left _ index)
    _ = book.supply * book.supplyIndex * (supplyGrowth * (wad * wad)) := by ring
    _ ≤ (backing + shortfall) * (supplyGrowth * (wad * wad)) :=
      Nat.mul_le_mul_right _ covered
    _ = backing * (supplyGrowth * (wad * wad)) + shortfall * supplyGrowth * wad * wad := by ring
    _ ≤ backing * (debtGrowth * book.utilization one wad * (wad - cut)) +
        shortfall * supplyGrowth * wad * wad :=
      Nat.add_le_add_right (Nat.mul_le_mul_left _ growth) _
    _ = (book.utilization one wad * backing) * (debtGrowth * (wad - cut)) +
        shortfall * supplyGrowth * wad * wad := by ring
    _ ≤ (wad * (book.debt * book.debtIndex)) * (debtGrowth * (wad - cut)) +
        shortfall * supplyGrowth * wad * wad :=
      Nat.add_le_add_right (Nat.mul_le_mul_right _ ratio) _
    _ = _ := by ring

theorem reserve_interest_le (one wad debtGrowth cut : Nat) (book : Book) :
    mulDiv (mulDiv (book.owed one) debtGrowth wad) cut wad * one * (wad * wad) ≤
      book.debt * book.debtIndex * debtGrowth * cut := by
  have outer := mul_div_mul_le (mulDiv (book.owed one) debtGrowth wad) cut wad
  have inner := mul_div_mul_le (book.owed one) debtGrowth wad
  have floor : book.owed one * one ≤ book.debt * book.debtIndex := mul_div_mul_le _ _ _
  calc
    _ = mulDiv (mulDiv (book.owed one) debtGrowth wad) cut wad * wad * (one * wad) := by ring
    _ ≤ mulDiv (book.owed one) debtGrowth wad * cut * (one * wad) :=
      Nat.mul_le_mul_right _ outer
    _ = mulDiv (book.owed one) debtGrowth wad * wad * (cut * one) := by ring
    _ ≤ book.owed one * debtGrowth * (cut * one) := Nat.mul_le_mul_right _ inner
    _ = book.owed one * one * (debtGrowth * cut) := by ring
    _ ≤ book.debt * book.debtIndex * (debtGrowth * cut) := Nat.mul_le_mul_right _ floor
    _ = _ := by ring

/-- One unit of index truncation for each scaled unit of debt, in an accrual
that moves the indices at all. -/
def truncation (book : Book) (debtGrowth : Nat) : Nat :=
  if debtGrowth = 0 then 0 else book.debt

theorem truncation_le (book : Book) (debtGrowth : Nat) :
    book.truncation debtGrowth ≤ book.debt := by
  unfold truncation
  split_ifs
  · exact Nat.zero_le _
  · exact Nat.le_refl _

theorem debt_interest_ge (positive : 0 < wad) (debtGrowth : Nat) (book : Book) :
    book.debt * book.debtIndex * debtGrowth ≤
      (book.debt * mulDiv book.debtIndex debtGrowth wad + book.truncation debtGrowth) *
        wad := by
  unfold truncation
  split_ifs with idle
  · rw [idle]
    omega
  · have index := (lt_mul_div_succ_mul book.debtIndex debtGrowth positive).le
    calc
      _ = book.debt * (book.debtIndex * debtGrowth) := by ring
      _ ≤ book.debt * ((mulDiv book.debtIndex debtGrowth wad + 1) * wad) :=
        Nat.mul_le_mul_left _ index
      _ = _ := by ring

/-- Suppliers and reserves together are credited no more than borrowers are
charged, beyond truncation and the growth of a shortfall already present. -/
theorem credited_le_charged (positive : 0 < wad) (cutFits : cut ≤ wad)
    (growth : supplyGrowth * (wad * wad) ≤
      debtGrowth * book.utilization one wad * (wad - cut))
    {shortfall : Nat}
    (covered : book.supply * book.supplyIndex ≤ book.assets one + shortfall) :
    book.supply * mulDiv book.supplyIndex supplyGrowth wad +
        mulDiv (mulDiv (book.owed one) debtGrowth wad) cut wad * one ≤
      book.debt * mulDiv book.debtIndex debtGrowth wad +
        (book.truncation debtGrowth + mulDiv shortfall supplyGrowth wad) := by
  have supplied := supply_interest_le positive growth covered
  have reserved := reserve_interest_le one wad debtGrowth cut book
  have charged := debt_interest_ge positive debtGrowth book
  have factor := Nat.sub_add_cancel cutFits
  rw [← Nat.add_assoc]
  generalize book.debt * book.debtIndex * debtGrowth = debt at supplied reserved charged
  generalize book.supply * mulDiv book.supplyIndex supplyGrowth wad = toSuppliers at supplied ⊢
  generalize mulDiv (mulDiv (book.owed one) debtGrowth wad) cut wad * one =
    toReserves at reserved ⊢
  generalize book.debt * mulDiv book.debtIndex debtGrowth wad + book.truncation debtGrowth =
    fromBorrowers at charged ⊢
  have together : (toSuppliers + toReserves) * wad ≤
      fromBorrowers * wad + shortfall * supplyGrowth := by
    apply Nat.le_of_mul_le_mul_right (c := wad) _ positive
    calc
      (toSuppliers + toReserves) * wad * wad =
          toSuppliers * (wad * wad) + toReserves * (wad * wad) := by ring
      _ ≤ (debt * (wad - cut) + shortfall * supplyGrowth * wad) + debt * cut :=
        Nat.add_le_add supplied reserved
      _ = debt * (wad - cut + cut) + shortfall * supplyGrowth * wad := by ring
      _ = debt * wad + shortfall * supplyGrowth * wad := by rw [factor]
      _ ≤ fromBorrowers * wad * wad + shortfall * supplyGrowth * wad :=
        Nat.add_le_add_right (Nat.mul_le_mul_right _ charged) _
      _ = _ := by ring
  have excess : toSuppliers + toReserves - fromBorrowers ≤
      mulDiv shortfall supplyGrowth wad := by
    rw [le_mul_div_iff positive, Nat.sub_mul]
    omega
  omega

end Interest

/-! ## Whole units -/

theorem claims_le_of_surplus_ge {one allowance : Nat} (positive : 0 < one) (book : Book)
    (bound : -(allowance : Int) ≤ book.surplus one) :
    mulDiv book.supply book.supplyIndex one + book.reserves ≤
      book.cash + book.owed one + mulDivUp allowance 1 one := by
  have supplied := mul_div_mul_le book.supply book.supplyIndex one
  have debt := lt_mul_div_succ_mul book.debt book.debtIndex positive
  have slack := le_mul_div_up_mul allowance 1 positive
  have scaled : (mulDiv book.supply book.supplyIndex one + book.reserves) * one <
      (book.cash + book.owed one + mulDivUp allowance 1 one + 1) * one := by
    simp only [owed, surplus, assets, claims, Nat.add_mul] at bound debt ⊢
    omega
  exact Nat.le_of_lt_succ (Nat.lt_of_mul_lt_mul_right scaled)

end Book

end IndexedBook
