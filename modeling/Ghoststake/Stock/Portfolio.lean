import Ghoststake.Library.Conversion
import Ghoststake.Stock.Custody

/-!
# What a portfolio is worth

The loop over the listings is a sum, of what each holding is worth and of the
two fractions of it a loan is held against. It fails exactly when something
held has no usable price, and the age a price may have is all that differs
between a loan and a liquidation.
-/

namespace Ghoststake

set_option autoImplicit false

open Checked Rounding

namespace Stock

variable {Address : Type} [DecidableEq Address] [Zero Address] {cfg : Config Address}
  {b after : Brokerage Address} {user token : Address}

/-! ## One listing -/

/-- The answer of a listing's feed, however old. -/
def quote (c : Collateral Address) (b : Brokerage Address) : Nat :=
  match b.latestRoundData c.feed with
  | some (answer, _) => answer.toNat
  | none => 0

/-- A listing's multiplier, one for a token without. -/
def splits (c : Collateral Address) (b : Brokerage Address) : Nat :=
  if c.scaledUI then (b.uiMultiplier c.token).getD 0 else WAD

def rate (cfg : Config Address) (c : Collateral Address) (b : Brokerage Address) : Rate where
  multiplier := splits c b
  one := WAD
  price := quote c b * 10 ^ cfg.stableDecimals
  unit := c.unit

/-- A listing can be valued at a price of at most this age. -/
structure Usable (c : Collateral Address) (maxAge : Nat) (b : Brokerage Address) : Prop where
  priced : ∃ answer updatedAt, b.latestRoundData c.feed = some (answer, updatedAt) ∧ 0 < answer ∧
    updatedAt ≠ 0 ∧ updatedAt ≤ b.timestamp ∧ b.timestamp - updatedAt ≤ maxAge
  split : c.scaledUI → (b.uiMultiplier c.token).isSome

omit [DecidableEq Address] in
theorem Usable.mono {c : Collateral Address} {maxAge longer : Nat} (le : maxAge ≤ longer)
    (usable : Usable c maxAge b) : Usable c longer b := by
  obtain ⟨answer, updatedAt, reads, positive, published, past, fresh⟩ := usable.priced
  exact ⟨⟨answer, updatedAt, reads, positive, published, past, fresh.trans le⟩, usable.split⟩

omit [DecidableEq Address] [Zero Address] in
theorem answered_ok_iff {Result : Type} {answer : Option Result} {result : Result} :
    (answered answer : Outcome Address Result) = .ok result ↔ answer = some result := by
  cases answer with
  | none => simp [answered]
  | some other => simp [answered]

omit [DecidableEq Address] in
theorem price_ok_iff {c : Collateral Address} {maxAge figure : Nat} :
    price c maxAge b = .ok figure ↔
      (∃ answer updatedAt, b.latestRoundData c.feed = some (answer, updatedAt) ∧ 0 < answer ∧
        updatedAt ≠ 0 ∧ updatedAt ≤ b.timestamp ∧ b.timestamp - updatedAt ≤ maxAge) ∧
      figure = quote c b := by
  simp only [price, bind_ok_iff, answered_ok_iff, require_ok_iff, exists_const, Except.ok.injEq,
    Prod.exists]
  constructor
  · rintro ⟨answer, updatedAt, reads, sane, fresh, same⟩
    push Not at sane
    refine ⟨⟨answer, updatedAt, reads, sane.1, sane.2.1, sane.2.2, fresh⟩, ?_⟩
    simp only [quote, reads, same]
  · rintro ⟨⟨answer, updatedAt, reads, positive, published, past, fresh⟩, same⟩
    refine ⟨answer, updatedAt, reads, ?_, fresh, ?_⟩
    · push Not
      exact ⟨positive, published, past⟩
    · simp only [same, quote, reads]

omit [DecidableEq Address] in
theorem multiplier_ok_iff {c : Collateral Address} {figure : Nat} :
    multiplier c b = .ok figure ↔
      (c.scaledUI → (b.uiMultiplier c.token).isSome) ∧ figure = splits c b := by
  unfold multiplier splits
  split_ifs with scaled
  · rw [answered_ok_iff]
    cases b.uiMultiplier c.token with
    | none => simp [scaled]
    | some other =>
        rw [Option.some.injEq, Option.isSome_some, Option.getD_some]
        exact ⟨fun same => ⟨fun _ => rfl, same.symm⟩, fun both => both.2.symm⟩
  · rw [Except.ok.injEq]
    exact ⟨fun same => ⟨fun wanted => absurd wanted scaled, same.symm⟩, fun both => both.2.symm⟩

omit [DecidableEq Address] in
/-- A valuation fails only for want of a price, and reads nothing for nothing. -/
theorem value_ok_iff {c : Collateral Address} {amount maxAge figure : Nat} :
    value cfg c amount maxAge b = .ok figure ↔
      (amount ≠ 0 → Usable c maxAge b) ∧ figure = (rate cfg c b).worth amount := by
  unfold value
  split_ifs with none
  · rw [none, Rate.worth_zero]
    simp [eq_comm]
  · simp only [bind_ok_iff, price_ok_iff, multiplier_ok_iff, Except.ok.injEq]
    constructor
    · rintro ⟨_, ⟨priced, rfl⟩, _, ⟨split, rfl⟩, same⟩
      exact ⟨fun _ => ⟨priced, split⟩, same.symm⟩
    · rintro ⟨usable, same⟩
      have ready := usable none
      exact ⟨_, ⟨ready.priced, rfl⟩, _, ⟨ready.split, rfl⟩, same.symm⟩

omit [DecidableEq Address] in
theorem tokens_for_ok_iff {c : Collateral Address} {sum figure : Nat} :
    tokensFor cfg c sum b = .ok figure ↔
      Usable c c.liquidationMaxAge b ∧ splits c b ≠ 0 ∧ figure = (rate cfg c b).unitsFor sum := by
  simp only [tokensFor, bind_ok_iff, price_ok_iff, multiplier_ok_iff, require_ok_iff,
    exists_const, Except.ok.injEq]
  constructor
  · rintro ⟨_, ⟨priced, rfl⟩, _, ⟨split, rfl⟩, live, same⟩
    exact ⟨⟨priced, split⟩, live, same.symm⟩
  · rintro ⟨usable, live, same⟩
    exact ⟨_, ⟨usable.priced, rfl⟩, _, ⟨usable.split, rfl⟩, live, same.symm⟩

omit [DecidableEq Address] in
theorem unit_pos (c : Collateral Address) : 0 < c.unit := Nat.pow_pos (by decide)

/-! ## All of them -/

def worthOf (cfg : Config Address) (user : Address) (b : Brokerage Address)
    (c : Collateral Address) : Nat :=
  (rate cfg c b).worth (b.stock.collateralOf user c.token)

def portfolio (cfg : Config Address) (user : Address) (b : Brokerage Address) : Totals where
  value := (cfg.collaterals.map (worthOf cfg user b)).sum
  borrowLimit := (cfg.collaterals.map fun c => mulDiv (worthOf cfg user b c) c.maxLTV WAD).sum
  liquidationLine :=
    (cfg.collaterals.map fun c => mulDiv (worthOf cfg user b c) c.liquidationThreshold WAD).sum

/-- Everything a user holds has a price of a usable age. -/
def Priced (cfg : Config Address) (user : Address) (forLiquidation : Bool)
    (b : Brokerage Address) : Prop :=
  ∀ c ∈ cfg.collaterals, b.stock.collateralOf user c.token ≠ 0 → Usable c (c.ageFor forLiquidation) b

omit [DecidableEq Address] in
theorem add_collateral_ok_iff {c : Collateral Address} {forLiquidation : Bool}
    {sums next : Totals} :
    addCollateral cfg user forLiquidation b sums c = .ok next ↔
      (b.stock.collateralOf user c.token ≠ 0 → Usable c (c.ageFor forLiquidation) b) ∧
      next = ⟨sums.value + worthOf cfg user b c,
        sums.borrowLimit + mulDiv (worthOf cfg user b c) c.maxLTV WAD,
        sums.liquidationLine + mulDiv (worthOf cfg user b c) c.liquidationThreshold WAD⟩ := by
  unfold addCollateral
  split_ifs with none
  · have nothing : worthOf cfg user b c = 0 := by rw [worthOf, none, Rate.worth_zero]
    rw [nothing, mul_div_zero_left, mul_div_zero_left, Except.ok.injEq]
    exact ⟨fun same => ⟨fun held => absurd none held, same.symm⟩, fun both => both.2.symm⟩
  · simp only [bind_ok_iff, value_ok_iff, Except.ok.injEq]
    constructor
    · rintro ⟨_, ⟨usable, rfl⟩, same⟩
      exact ⟨usable, same.symm⟩
    · rintro ⟨usable, same⟩
      exact ⟨_, ⟨usable, rfl⟩, same.symm⟩

omit [DecidableEq Address] in
theorem loop_ok_iff {forLiquidation : Bool} (listings : List (Collateral Address))
    {sums final : Totals} :
    listings.foldlM (addCollateral cfg user forLiquidation b) sums = .ok final ↔
      (∀ c ∈ listings, b.stock.collateralOf user c.token ≠ 0 →
        Usable c (c.ageFor forLiquidation) b) ∧
      final = ⟨sums.value + (listings.map (worthOf cfg user b)).sum,
        sums.borrowLimit +
          (listings.map fun c => mulDiv (worthOf cfg user b c) c.maxLTV WAD).sum,
        sums.liquidationLine +
          (listings.map fun c => mulDiv (worthOf cfg user b c) c.liquidationThreshold WAD).sum⟩ := by
  induction listings generalizing sums with
  | nil =>
      rw [List.foldlM_nil, pure_ok_iff]
      exact ⟨fun same => ⟨fun _ member => absurd member List.not_mem_nil, same.symm⟩,
        fun both => both.2.symm⟩
  | cons c rest ih =>
      simp only [List.foldlM_cons, bind_ok_iff, add_collateral_ok_iff, ih, List.map_cons,
        List.sum_cons, List.forall_mem_cons]
      constructor
      · rintro ⟨_, ⟨usable, rfl⟩, others, same⟩
        refine ⟨⟨usable, others⟩, ?_⟩
        rw [same]
        simp only [Nat.add_assoc]
      · rintro ⟨⟨usable, others⟩, same⟩
        refine ⟨_, ⟨usable, rfl⟩, others, ?_⟩
        rw [same]
        simp only [Nat.add_assoc]

omit [DecidableEq Address] in
/-- The loop succeeds exactly when everything held has a price, and then gives the sums. -/
theorem totals_ok_iff {forLiquidation : Bool} {sums : Totals} :
    totals cfg user forLiquidation b = .ok sums ↔
      Priced cfg user forLiquidation b ∧ sums = portfolio cfg user b := by
  unfold totals
  rw [loop_ok_iff]
  simp only [Nat.zero_add]
  rfl

omit [DecidableEq Address] in
theorem Priced.totals {forLiquidation : Bool} (priced : Priced cfg user forLiquidation b) :
    totals cfg user forLiquidation b = .ok (portfolio cfg user b) :=
  totals_ok_iff.mpr ⟨priced, rfl⟩

omit [DecidableEq Address] in
/-- A price good for a loan is good for a liquidation. -/
theorem Priced.for_liquidation (priced : Priced cfg user false b) : Priced cfg user true b := by
  intro c listed held
  exact (priced c listed held).mono c.max_age_le

omit [DecidableEq Address] in
theorem limit_le_line (cfg : Config Address) (user : Address) (b : Brokerage Address) :
    (portfolio cfg user b).borrowLimit ≤ (portfolio cfg user b).liquidationLine := by
  apply List.sum_le_sum
  intro c _
  exact mul_div_mono_right _ c.max_ltv_lt_threshold.le WAD

structure SamePrices (user : Address) (b after : Brokerage Address) : Prop where
  timestamp : after.timestamp = b.timestamp
  latestRoundData : after.latestRoundData = b.latestRoundData
  uiMultiplier : after.uiMultiplier = b.uiMultiplier
  held : after.stock.collateralOf user = b.stock.collateralOf user

omit [DecidableEq Address] in
theorem usable_congr (timestamp : after.timestamp = b.timestamp)
    (latestRoundData : after.latestRoundData = b.latestRoundData)
    (uiMultiplier : after.uiMultiplier = b.uiMultiplier) {c : Collateral Address} {maxAge : Nat} :
    Usable c maxAge after ↔ Usable c maxAge b := by
  constructor
  · intro usable
    have priced := usable.priced
    have split := usable.split
    rw [timestamp, latestRoundData] at priced
    rw [uiMultiplier] at split
    exact ⟨priced, split⟩
  · intro usable
    constructor
    · rw [timestamp, latestRoundData]
      exact usable.priced
    · rw [uiMultiplier]
      exact usable.split

omit [DecidableEq Address] in
theorem rate_congr (latestRoundData : after.latestRoundData = b.latestRoundData)
    (uiMultiplier : after.uiMultiplier = b.uiMultiplier) (c : Collateral Address) :
    rate cfg c after = rate cfg c b := by
  simp only [rate, splits, quote, latestRoundData, uiMultiplier]

omit [DecidableEq Address] in
theorem SamePrices.portfolio (same : SamePrices user b after) :
    portfolio cfg user after = portfolio cfg user b := by
  have worth : worthOf cfg user after = worthOf cfg user b := by
    funext c
    rw [worthOf, worthOf, rate_congr same.latestRoundData same.uiMultiplier, same.held]
  simp only [Stock.portfolio, worth]

omit [DecidableEq Address] in
theorem SamePrices.priced {forLiquidation : Bool} (same : SamePrices user b after) :
    Priced cfg user forLiquidation after ↔ Priced cfg user forLiquidation b := by
  unfold Priced
  simp only [same.held, usable_congr same.timestamp same.latestRoundData same.uiMultiplier]

/-! ## Health -/

omit [DecidableEq Address] in
theorem is_liquidatable_ok_iff {liquid : Bool} :
    isLiquidatable cfg user b = .ok liquid ↔
      debtOf b user = 0 ∧ liquid = false ∨
      debtOf b user ≠ 0 ∧ Priced cfg user true b ∧
        liquid = decide ((portfolio cfg user b).liquidationLine < debtOf b user) := by
  unfold isLiquidatable healthFactor
  split_ifs with none
  · have whole : ¬uint256Max < WAD := by
      unfold uint256Max WAD
      decide
    simp [none, whole, ok_bind, eq_comm]
  · have below : mulDiv (portfolio cfg user b).liquidationLine WAD (debtOf b user) < WAD ↔
        (portfolio cfg user b).liquidationLine < debtOf b user := by
      rw [← not_le, le_mul_div_iff (Nat.pos_of_ne_zero none), Nat.mul_comm,
        Nat.mul_le_mul_right_iff wad_pos, not_le]
    simp only [bind_ok_iff, totals_ok_iff, Except.ok.injEq]
    constructor
    · rintro ⟨_, ⟨_, ⟨priced, rfl⟩, rfl⟩, same⟩
      refine .inr ⟨none, priced, ?_⟩
      rw [← same]
      exact decide_eq_decide.mpr below
    · rintro (⟨zero, _⟩ | ⟨_, priced, same⟩)
      · exact absurd zero none
      · refine ⟨_, ⟨_, ⟨priced, rfl⟩, rfl⟩, ?_⟩
        rw [same]
        exact decide_eq_decide.mpr below

end Stock

end Ghoststake
