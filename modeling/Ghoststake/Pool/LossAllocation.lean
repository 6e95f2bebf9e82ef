import Ghoststake.Pool.Solvency
import Ghoststake.Pool.Totals

/-!
# Where a loss goes

What a write-off takes from reserves, from suppliers and from nobody, against
the loss; and what is left of the supply index for the next depositor.
-/

namespace Ghoststake

set_option autoImplicit false

open Checked Rounding ScaledIndex IndexedBook

namespace Pool

variable {Address : Type}

/-- The fall in reserves, the fall in supplier balances and the rise in the
loss nobody was charged for, together. -/
def allocated (pool after : State Address) : Int :=
  ((pool.totalReserves : Int) - after.totalReserves) +
    ((totalSupplied pool : Int) - totalSupplied after) +
    ((after.unsocialisedBadDebt : Int) - pool.unsocialisedBadDebt)

/-- A write-off of `user` charges `loss` once and leaves a working index. -/
structure LossAllocated (cfg : Config Address) (pool after : State Address) (user : Address)
    (loss : Nat) : Prop where
  charged : (loss : Int) ≤ allocated pool after
  charged_once : allocated pool after ≤ loss + 1 + mulDivUp pool.totalSupplyScaled 1 RAY
  cleared : balanceOfDebt after user = 0
  others : ∀ other, other ≠ user → balanceOfDebt after other = balanceOfDebt pool other
  index_pos : 0 < after.supplyIndex
  index_grows : ∀ later : Lending Address, later.pool.supplyIndex = after.supplyIndex →
    supplyGrowth cfg later ≠ 0 → later.pool.supplyIndex < (accrue cfg later).pool.supplyIndex

/-- The least supply index that a second at utilisation `u` moves. -/
def leastMoving (cfg : Config Address) (u : Nat) : Nat := mulDivUp WAD 1 (supplyRateAt cfg u)

/-- Charging suppliers pro rata leaves them no less than the floored index is
worth, and an index that every earning rate of the curve still moves. -/
def Chargeable (cfg : Config Address) (pool : State Address) (loss : Nat) : Prop :=
  (Floored pool loss →
    mulDiv pool.totalSupplyScaled 1 RAY ≤ totalSupplied pool - remainder pool loss) ∧
  ∀ u, u ≤ WAD → supplyRateAt cfg u ≠ 0 → leastMoving cfg u ≤ 1 ∨
    leastMoving cfg u ≤ pool.supplyIndex ∧
      leastMoving cfg u * totalSupplied pool ≤
        pool.supplyIndex * (totalSupplied pool - remainder pool loss)

/-! ## The charge -/

section Charge

variable [DecidableEq Address] {pool : State Address} {user : Address}

theorem allocated_absorbed (pool : State Address) (user : Address) :
    allocated pool (pool.absorbed user) =
      (min (balanceOfDebt pool user) pool.totalReserves : Nat) +
        ((totalSupplied pool : Int) -
          mulDiv pool.totalSupplyScaled
            (writeDown pool (balanceOfDebt pool user)).supplyIndex RAY) +
        (writeDown pool (balanceOfDebt pool user)).unsocialised := by
  have reserves : (pool.absorbed user).totalReserves = pool.totalReserves -
      (writeDown pool (balanceOfDebt pool user)).fromReserves := rfl
  have unsocialised : (pool.absorbed user).unsocialisedBadDebt = pool.unsocialisedBadDebt +
      (writeDown pool (balanceOfDebt pool user)).unsocialised := rfl
  have supplied : totalSupplied (pool.absorbed user) = mulDiv pool.totalSupplyScaled
      (writeDown pool (balanceOfDebt pool user)).supplyIndex RAY := rfl
  unfold allocated
  rw [reserves, unsocialised, supplied, write_down_reserves]
  omega

/-- The loss is charged in full unless the floor leaves suppliers more than
the charge would, and never exceeded by more than the dust of the index. -/
theorem allocated_bounds (pool : State Address) (user : Address) :
    ((balanceOfDebt pool user : Int) ≤ allocated pool (pool.absorbed user) ↔
      (Floored pool (balanceOfDebt pool user) →
        mulDiv pool.totalSupplyScaled 1 RAY ≤
          totalSupplied pool - remainder pool (balanceOfDebt pool user))) ∧
    allocated pool (pool.absorbed user) ≤
      balanceOfDebt pool user + mulDivUp pool.totalSupplyScaled 1 RAY := by
  rw [allocated_absorbed]
  generalize balanceOfDebt pool user = loss
  have split : remainder pool loss + min loss pool.totalReserves = loss := by
    unfold remainder
    omega
  have unchanged : mulDiv pool.totalSupplyScaled pool.supplyIndex RAY = totalSupplied pool := rfl
  have someone : totalSupplied pool ≠ 0 → 0 < totalSupplied pool := Nat.pos_of_ne_zero
  rcases write_down_cases pool loss with
    ⟨covered, w⟩ | ⟨uncovered, nobody, w⟩ | ⟨floored, w⟩ | ⟨uncovered, less, alive, w⟩
  · have spared : ¬Floored pool loss := fun floored => floored.1 covered
    rw [w]
    simp only [spared, false_implies, iff_true]
    omega
  · have spared : ¬Floored pool loss := fun floored => floored.2.1 nobody
    rw [w]
    simp only [spared, false_implies, iff_true]
    omega
  · have worth : totalSupplied pool ≤
        mulDiv pool.totalSupplyScaled 1 RAY + remainder pool loss +
          mulDivUp pool.totalSupplyScaled 1 RAY := by
      have below := floored.2.2
      exact balance_le_of_lt ray_pos (by unfold totalSupplied at below; omega)
        (someone floored.2.1)
    rw [w]
    simp only [floored, true_implies]
    omega
  · have spared : ¬Floored pool loss := fun floored =>
      alive ((lowered_eq_zero_iff floored.2.1).2 floored.2.2)
    have supplied : 0 < totalSupplied pool := Nat.zero_lt_of_lt less
    have lower := balance_add_charge_le ray_pos less.le supplied
    have upper : totalSupplied pool ≤
        mulDiv pool.totalSupplyScaled
            (lowered pool.supplyIndex (totalSupplied pool) (remainder pool loss)) RAY +
          remainder pool loss + mulDivUp pool.totalSupplyScaled 1 RAY :=
      balance_le_of_lt ray_pos (lt_mul_div_succ_mul _ _ supplied) supplied
    rw [w]
    simp only [spared, false_implies, iff_true]
    unfold totalSupplied at lower upper ⊢
    omega

theorem debt_absorbed (pool : State Address) (user other : Address) :
    balanceOfDebt (pool.absorbed user) other =
      if other = user then 0 else balanceOfDebt pool other := by
  have debts : (pool.absorbed user).scaledDebt =
      Function.update pool.scaledDebt user (pool.scaledDebt user - pool.scaledDebt user) := rfl
  have index : (pool.absorbed user).borrowIndex = pool.borrowIndex := rfl
  unfold balanceOfDebt
  rw [debts, index]
  split_ifs with same
  · subst same
    rw [Function.update_self, Nat.sub_self, mul_div_zero_left]
  · rw [Function.update_of_ne same]

end Charge

/-! ## The books after -/

/-- The books of a pool that has written `loss` off: nothing is charged beyond
the dust of the supply index, and nothing is left uncharged unless the floor of
that index leaves suppliers more than the charge would. -/
structure Charged (pool after : State Address) (loss : Nat) : Prop where
  allocated_le : allocated pool after ≤ loss + mulDivUp pool.totalSupplyScaled 1 RAY
  le_allocated : (Floored pool loss → mulDiv pool.totalSupplyScaled 1 RAY ≤
    totalSupplied pool - remainder pool loss) → (loss : Int) ≤ allocated pool after

theorem charged_of_absorbed [DecidableEq Address] (pool : State Address) (user : Address) :
    Charged pool (pool.absorbed user) (balanceOfDebt pool user) where
  allocated_le := (allocated_bounds pool user).2
  le_allocated := (allocated_bounds pool user).1.mpr

/-- Pools a loss is charged to alike. -/
structure SameClaims (pool other : State Address) : Prop where
  totalReserves : other.totalReserves = pool.totalReserves
  supplyIndex : other.supplyIndex = pool.supplyIndex
  totalSupplyScaled : other.totalSupplyScaled = pool.totalSupplyScaled
  unsocialisedBadDebt : other.unsocialisedBadDebt = pool.unsocialisedBadDebt

theorem SameClaims.refl (pool : State Address) : SameClaims pool pool := ⟨rfl, rfl, rfl, rfl⟩

theorem SameClaims.debit_debt [DecidableEq Address] (pool : State Address) (user : Address)
    (scaled : Nat) (event : Event Address) :
    SameClaims pool ((pool.debitDebt user scaled).emit event) := ⟨rfl, rfl, rfl, rfl⟩

theorem SameClaims.total_supplied {pool other : State Address} (same : SameClaims pool other) :
    totalSupplied other = totalSupplied pool := by
  rw [totalSupplied, same.totalSupplyScaled, same.supplyIndex, totalSupplied]

theorem SameClaims.floored_iff {pool other : State Address} (same : SameClaims pool other)
    (loss : Nat) : Floored other loss ↔ Floored pool loss := by
  simp only [Floored, remainder, same.totalReserves, same.total_supplied, same.supplyIndex]

theorem Charged.of_same {pool other after : State Address} {loss : Nat}
    (same : SameClaims pool other) (charged : Charged other after loss) :
    Charged pool after loss := by
  obtain ⟨most, least⟩ := charged
  have figures : allocated other after = allocated pool after := by
    rw [allocated, same.totalReserves, same.total_supplied, same.unsocialisedBadDebt, allocated]
  rw [figures, same.totalSupplyScaled] at most
  rw [figures, same.floored_iff, remainder, same.totalSupplyScaled, same.total_supplied,
    same.totalReserves] at least
  exact ⟨most, least⟩

/-! ## The index after -/

section Growth

variable {cfg : Config Address}

/-- The index a charge leaves, in terms of the state before it. -/
theorem le_write_down_index_iff {pool : State Address} {loss least : Nat}
    (indexLive : 0 < pool.supplyIndex) :
    least ≤ (writeDown pool loss).supplyIndex ↔
      least ≤ 1 ∨ least ≤ pool.supplyIndex ∧
        least * totalSupplied pool ≤
          pool.supplyIndex * (totalSupplied pool - remainder pool loss) := by
  rcases write_down_cases pool loss with
    ⟨covered, w⟩ | ⟨uncovered, nobody, w⟩ | ⟨floored, w⟩ | ⟨uncovered, less, alive, w⟩
  · rw [w, covered, Nat.sub_zero]
    constructor
    · exact fun le => .inr ⟨le, Nat.mul_le_mul_right _ le⟩
    · rintro (one | ⟨le, _⟩)
      · exact one.trans indexLive
      · exact le
  · rw [w, nobody, Nat.mul_zero]
    constructor
    · exact fun le => .inr ⟨le, Nat.zero_le _⟩
    · rintro (one | ⟨le, _⟩)
      · exact one.trans indexLive
      · exact le
  · rw [w]
    constructor
    · exact fun le => .inl le
    · rintro (one | ⟨_, ratio⟩)
      · exact one
      · have below := floored.2.2
        have scaled : least * totalSupplied pool < 1 * totalSupplied pool := by omega
        exact (Nat.lt_of_mul_lt_mul_right scaled).le
  · rw [w]
    have supplied : 0 < totalSupplied pool := Nat.zero_lt_of_lt less
    have falls : lowered pool.supplyIndex (totalSupplied pool) (remainder pool loss) ≤
        pool.supplyIndex :=
      mul_div_le_left _ (Nat.sub_le _ _)
    rw [show least ≤ lowered pool.supplyIndex (totalSupplied pool) (remainder pool loss) ↔ _
      from le_mul_div_iff supplied]
    constructor
    · intro ratio
      exact .inr ⟨((le_mul_div_iff supplied).2 ratio).trans falls, ratio⟩
    · rintro (one | ⟨_, ratio⟩)
      · exact (le_mul_div_iff supplied).1 (one.trans (Nat.pos_of_ne_zero alive))
      · exact ratio

theorem least_moving_le_iff {u index : Nat} (earns : supplyRateAt cfg u ≠ 0) :
    leastMoving cfg u ≤ index ↔ WAD ≤ index * supplyRateAt cfg u := by
  unfold leastMoving
  rw [mul_div_up_le_iff (Nat.pos_of_ne_zero earns), Nat.mul_one]

/-- A pool on `index` that has lent out `u` of every `WAD` of its assets and
is accrued a second later. -/
def utilized (l : Lending Address) (index u : Nat) : Lending Address :=
  { l with
    timestamp := 1
    token := { l.token with balanceOf := fun _ => WAD - u }
    pool :=
      { l.pool with
        lastAccrualTime := 0
        totalBorrowScaled := u
        borrowIndex := RAY
        supplyIndex := index } }

theorem utilization_utilized (l : Lending Address) {index u : Nat} (u_le : u ≤ WAD) :
    utilization cfg (utilized l index u) = u := by
  have borrowed : totalBorrowed (utilized l index u).pool = u := mul_div_self u ray_pos
  have idle : availableLiquidity cfg (utilized l index u) = WAD - u := rfl
  simp only [utilization, borrowed, idle]
  split_ifs with none
  · exact none.symm
  · rw [Nat.sub_add_cancel u_le]
    exact mul_div_self u wad_pos

/-- An index survives every accrual that earns interest exactly when a second
at each earning utilisation moves it. -/
theorem index_grows_iff (cfg : Config Address) (l : Lending Address) (index : Nat) :
    (∀ later : Lending Address, later.pool.supplyIndex = index → supplyGrowth cfg later ≠ 0 →
        later.pool.supplyIndex < (accrue cfg later).pool.supplyIndex) ↔
      ∀ u, u ≤ WAD → supplyRateAt cfg u ≠ 0 → leastMoving cfg u ≤ index := by
  constructor
  · intro grows u u_le earns
    have growth : supplyGrowth cfg (utilized l index u) = supplyRateAt cfg u := by
      unfold supplyGrowth
      rw [utilization_utilized l u_le]
      exact Nat.mul_one _
    have moved := grows (utilized l index u) rfl (by rwa [growth])
    rw [accrue_supply_index, growth] at moved
    have gain : 1 ≤ mulDiv index (supplyRateAt cfg u) WAD := Nat.lt_add_right_iff_pos.1 moved
    rw [le_mul_div_iff wad_pos, Nat.one_mul] at gain
    exact (least_moving_le_iff earns).2 gain
  · rintro moves later rfl growth
    have earns : supplyRateAt cfg (utilization cfg later) ≠ 0 := fun none => by
      simp [supplyGrowth, none] at growth
    have time : 1 ≤ elapsed later := Nat.pos_of_ne_zero fun none => by
      simp [supplyGrowth, none] at growth
    have bounded : utilization cfg later ≤ WAD := by
      rw [utilization_eq_book]
      exact Book.utilization_le RAY WAD _
    have second := (least_moving_le_iff earns).1 (moves _ bounded earns)
    rw [accrue_supply_index]
    refine Nat.lt_add_of_pos_right ?_
    rw [Nat.lt_iff_add_one_le, le_mul_div_iff wad_pos, Nat.zero_add, Nat.one_mul]
    unfold supplyGrowth
    rw [← Nat.mul_assoc]
    exact second.trans (Nat.le_mul_of_pos_right _ time)

end Growth

/-! ## Both together -/

section Allocation

variable [DecidableEq Address] [Zero Address] [Fintype Address]

/-- A write-off charges the loss once and leaves a working index exactly when
the state it starts from lets suppliers be charged pro rata. -/
theorem loss_allocated_iff (cfg : Config Address) (l after : Lending Address)
    (sender user : Address) (loss : Nat) (reached : (machine cfg).Reachable l)
    (ran : absorbBadDebt cfg sender user l = .ok (loss, after)) :
    LossAllocated cfg (accrue cfg l).pool after.pool user loss ↔
      Chargeable cfg (accrue cfg l).pool (balanceOfDebt (accrue cfg l).pool user) := by
  obtain ⟨_, _, _, rfl, rfl⟩ := absorb_bad_debt_ok_iff.1 ran
  have live : 0 < (accrue cfg l).pool.supplyIndex :=
    (sound_of_reachable reached).accrue.supply_index_pos
  have survives := index_grows_iff cfg l
    (writeDown (accrue cfg l).pool (balanceOfDebt (accrue cfg l).pool user)).supplyIndex
  simp only [le_write_down_index_iff live] at survives
  obtain ⟨charged, once⟩ := allocated_bounds (accrue cfg l).pool user
  constructor
  · intro fair
    exact ⟨charged.1 fair.charged, survives.1 fair.index_grows⟩
  · rintro ⟨pro_rata, moves⟩
    exact {
      charged := charged.2 pro_rata
      charged_once := once.trans (by omega)
      cleared := (debt_absorbed _ user user).trans (if_pos rfl)
      others := fun other distinct => (debt_absorbed _ user other).trans (if_neg distinct)
      index_pos := write_down_index_pos _ live
      index_grows := survives.2 moves }

omit [DecidableEq Address] [Zero Address] [Fintype Address] in
/-- An index worth a whole `WAD` is moved by any second that earns. -/
theorem least_moving_le {cfg : Config Address} {u : Nat} (earns : supplyRateAt cfg u ≠ 0) :
    leastMoving cfg u ≤ WAD :=
  (mul_div_up_le_iff (Nat.pos_of_ne_zero earns)).2
    (Nat.mul_le_mul_left WAD (Nat.one_le_iff_ne_zero.2 earns))

/-- A loss that leaves four fifths of the supply is charged once. -/
theorem loss_allocated_of_partial_loss :
    ∃ l after, (machine (flatCurve (10 ^ 9))).Reachable l ∧
      absorbBadDebt (flatCurve (10 ^ 9)) 5 2 l = .ok (200, after) ∧
      LossAllocated (flatCurve (10 ^ 9)) (accrue (flatCurve (10 ^ 9)) l).pool after.pool 2 200 := by
  obtain ⟨l, reached, checked⟩ := reachable_of_run (flatCurve (10 ^ 9)) rfl
    [.call 6 (.setBorrowModule 5), .call 1 (.supply 1000), .call 5 (.borrow 200 2), .wait 1000]
    (fun l => passes (absorbBadDebt (flatCurve (10 ^ 9)) 5 2 l)
      fun result => result.1 = 200 ∧
        let pool := (accrue (flatCurve (10 ^ 9)) l).pool
        ¬Floored pool (balanceOfDebt pool 2) ∧ WAD ≤ pool.supplyIndex ∧
          WAD * totalSupplied pool ≤
            pool.supplyIndex * (totalSupplied pool - remainder pool (balanceOfDebt pool 2)))
    (by decide) (by decide +kernel)
  obtain ⟨⟨loss, after⟩, ran, whole⟩ := exists_of_passes _ checked
  obtain ⟨rfl, alive, index, kept⟩ := of_decide_eq_true whole
  refine ⟨l, after, reached, ran, (loss_allocated_iff _ l after 5 2 _ reached ran).2 ?_⟩
  refine ⟨fun floored => absurd floored alive, fun u _ earns => .inr ?_⟩
  have least := least_moving_le earns
  exact ⟨least.trans index, (Nat.mul_le_mul_right _ least).trans kept⟩

/-- The second of two full write-offs finds an index of one, which the floor
leaves where it is: suppliers are charged nothing and nor is anyone else. After
the first, a second of interest does not move the index. -/
theorem full_loss_is_not_allocated :
    (∃ l after, (machine (flatCurve 0)).Reachable l ∧
      absorbBadDebt (flatCurve 0) 5 4 l = .ok (1000, after) ∧
      allocated (accrue (flatCurve 0) l).pool after.pool = 0) ∧
    (∃ l, (machine (flatCurve (10 ^ 9))).Reachable l ∧ 0 < l.pool.totalBadDebt ∧
      supplyGrowth (flatCurve (10 ^ 9)) l ≠ 0 ∧
      (accrue (flatCurve (10 ^ 9)) l).pool.supplyIndex = l.pool.supplyIndex) := by
  constructor
  · obtain ⟨l, reached, checked⟩ := reachable_of_run (flatCurve 0) rfl floorRun.dropLast
      (fun l => passes (absorbBadDebt (flatCurve 0) 5 4 l) fun result =>
        result.1 = 1000 ∧ allocated (accrue (flatCurve 0) l).pool result.2.pool = 0)
      (by decide) (by decide +kernel)
    obtain ⟨⟨loss, after⟩, ran, lost⟩ := exists_of_passes _ checked
    obtain ⟨rfl, nobody⟩ := of_decide_eq_true lost
    exact ⟨l, after, reached, ran, nobody⟩
  · obtain ⟨l, reached, checked⟩ := reachable_of_run (flatCurve (10 ^ 9)) rfl
      (floorRun.dropLast ++ [.wait 1])
      (fun l => 0 < l.pool.totalBadDebt ∧ supplyGrowth (flatCurve (10 ^ 9)) l ≠ 0 ∧
        (accrue (flatCurve (10 ^ 9)) l).pool.supplyIndex = l.pool.supplyIndex)
      (by decide) (by decide +kernel)
    exact ⟨l, reached, of_decide_eq_true checked⟩

end Allocation

end Pool

end Ghoststake
