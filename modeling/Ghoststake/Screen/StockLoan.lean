import Ghoststake.Stock.Liquidation

/-!
# The stock-loan screen

What the page reads of the vault, and the maxima it makes of that: the most a
limit has room for with the fee, capped by the pool's cash, and the most of a
token that the limit can spare. The screen's limit and the vault's differ by what
their roundings leave over, which decides what the vault makes of either maximum.
-/

namespace Ghoststake

set_option autoImplicit false

open Checked Rounding

namespace LoanScreen

variable {Address : Type}

/-! ## Previews -/

/-- What has been read of a listing; `none` is a read that failed or is still out. -/
structure StockCollateral (Address : Type) where
  token : Address
  decimals : Nat
  maxLTV : Nat
  liquidationThreshold : Nat
  deposited : Option Nat
  /-- Stablecoin units one whole token is worth, per `valueOf`. -/
  valuePerToken : Option Nat

def valueOfAmount (c : StockCollateral Address) (amount : Nat) : Option Nat :=
  c.valuePerToken.map fun valuePerToken => amount * valuePerToken / 10 ^ c.decimals

structure Summary where
  value : Nat
  borrowLimit : Nat
  liquidationLine : Nat
  /-- Some held token has no value yet. -/
  incomplete : Bool
  deriving DecidableEq

def addCollateral (sums : Summary) (c : StockCollateral Address) : Summary :=
  if c.deposited.getD 0 = 0 then sums
  else
    match valueOfAmount c (c.deposited.getD 0) with
    | none => { sums with incomplete := true }
    | some v =>
        { sums with
          value := sums.value + v
          borrowLimit := sums.borrowLimit + v * c.maxLTV / WAD
          liquidationLine := sums.liquidationLine + v * c.liquidationThreshold / WAD }

def summarise (collaterals : List (StockCollateral Address)) : Summary :=
  collaterals.foldl addCollateral ⟨0, 0, 0, false⟩

def originationFeeOn (amount fee : Nat) : Nat := (amount * fee + WAD - 1) / WAD

def stepDown (room fee : Nat) : Nat → Nat
  | 0 => 0
  | x + 1 =>
      if room < (x + 1) + originationFeeOn (x + 1) fee then stepDown room fee x else x + 1

def maxBorrow (limit debt fee : Nat) : Nat :=
  if limit ≤ debt then 0
  else stepDown (limit - debt) fee ((limit - debt) * WAD / (WAD + fee))

def maxWithdraw (c : StockCollateral Address) (summary : Summary) (debt : Option Nat) : Nat :=
  -- without a debt `withdraw` reads no price
  if debt.getD 0 = 0 then c.deposited.getD 0
  else if c.valuePerToken.getD 0 = 0 ∨ c.maxLTV = 0 then 0
  else if summary.borrowLimit ≤ debt.getD 0 then 0
  else
    let room := summary.borrowLimit - debt.getD 0
    let tokens := room * WAD * 10 ^ c.decimals / (c.valuePerToken.getD 0 * c.maxLTV)
    if tokens < c.deposited.getD 0 then tokens else c.deposited.getD 0

/-- Room left for the interest between a read and the transaction. -/
def accrualMargin (debt : Nat) : Nat := if 0 < debt then debt / 1000 + 1 else 0

/-! ## The page -/

structure Loan (Address : Type) where
  originationFee : Option Nat
  debt : Option Nat
  liquidity : Option Nat
  collaterals : List (StockCollateral Address)
  summary : Summary

def borrowMaximum (loan : Loan Address) (fee : Nat) : Nat :=
  let debt := loan.debt.getD 0
  let borrowMax := maxBorrow loan.summary.borrowLimit (debt + accrualMargin debt) fee
  let liquidity := loan.liquidity.getD 0
  if borrowMax < liquidity then borrowMax else liquidity

def withdrawMaximum (loan : Loan Address) (c : StockCollateral Address) : Nat :=
  maxWithdraw c loan.summary loan.debt

section Reads

variable [DecidableEq Address] [Zero Address]

/-- The value of a whole token is asked for at any age. -/
def readCollateral (cfg : Stock.Config Address) (user : Address) (b : Brokerage Address)
    (c : Stock.Collateral Address) : StockCollateral Address where
  token := c.token
  decimals := c.tokenDecimals
  maxLTV := c.maxLTV
  liquidationThreshold := c.liquidationThreshold
  deposited := some (b.stock.collateralOf user c.token)
  valuePerToken := (Stock.valueOf cfg c.token (10 ^ c.tokenDecimals) uint256Max b).toOption

/-- One multicall, so every figure is of one block. -/
def useStockLoan (cfg : Stock.Config Address) (user : Address) (b : Brokerage Address) :
    Loan Address where
  originationFee := some cfg.originationFee
  debt := some (Stock.debtOf b user)
  liquidity := some (Pool.availableLiquidity cfg.pool (b.lending cfg.stable))
  collaterals := cfg.collaterals.map (readCollateral cfg user b)
  summary := summarise (cfg.collaterals.map (readCollateral cfg user b))

end Reads

/-! ## The most a limit has room for -/

theorem origination_fee_on (amount fee : Nat) :
    originationFeeOn amount fee = mulDivUp amount fee WAD := by
  apply Nat.le_antisymm
  · have covers := le_mul_div_up_mul amount fee wad_pos
    rw [Nat.mul_comm (mulDivUp amount fee WAD)] at covers
    unfold originationFeeOn
    rw [Nat.div_le_iff_le_mul_add_pred wad_pos]
    omega
  · rw [mul_div_up_le_iff wad_pos]
    have below := Nat.lt_mul_div_succ (amount * fee + WAD - 1) wad_pos
    have positive := wad_pos
    unfold originationFeeOn
    rw [Nat.mul_comm WAD, Nat.add_mul] at below
    omega

theorem origination_fee_on_zero (fee : Nat) : originationFeeOn 0 fee = 0 := by
  rw [origination_fee_on]
  simp [mulDivUp]

/-- The loop stops at the most that fits, nothing always fitting. -/
theorem step_down_greatest (room fee estimate : Nat) :
    IsGreatest {x | x ≤ estimate ∧ x + originationFeeOn x fee ≤ room}
      (stepDown room fee estimate) := by
  induction estimate with
  | zero =>
      constructor
      · refine ⟨Nat.le_refl _, ?_⟩
        rw [stepDown, origination_fee_on_zero]
        exact Nat.zero_le _
      · intro x fits
        exact fits.1
  | succ x ih =>
      rw [stepDown]
      split_ifs with above
      · constructor
        · exact ⟨ih.1.1.trans (Nat.le_succ x), ih.1.2⟩
        · intro y fits
          apply ih.2
          refine ⟨?_, fits.2⟩
          by_contra more
          have same : y = x + 1 := Nat.le_antisymm fits.1 (not_le.mp more)
          have under := fits.2
          rw [same] at under
          omega
      · exact ⟨⟨Nat.le_refl _, not_lt.mp above⟩, fun y fits => fits.1⟩

/-- What a sum pays for with the fee on top, left unrounded. -/
def lent (sum fee : Nat) : Nat := sum * WAD / (WAD + fee)

theorem le_lent_iff {x sum fee : Nat} : x ≤ lent sum fee ↔ x + originationFeeOn x fee ≤ sum := by
  rw [lent, Nat.le_div_iff_mul_le (Nat.add_pos_left wad_pos fee), Nat.mul_add, origination_fee_on]
  constructor
  · intro pays
    have within : x ≤ sum := by
      by_contra above
      have more := Nat.mul_lt_mul_of_pos_right (not_le.mp above) wad_pos
      omega
    have charged : mulDivUp x fee WAD ≤ sum - x := by
      rw [mul_div_up_le_iff wad_pos, Nat.sub_mul]
      omega
    omega
  · intro fits
    have covers := le_mul_div_up_mul x fee wad_pos
    have scaled := Nat.mul_le_mul_right WAD fits
    rw [Nat.add_mul] at scaled
    omega

theorem max_borrow_greatest {limit debt : Nat} (fee : Nat) (within : debt ≤ limit) :
    IsGreatest {x | debt + x + originationFeeOn x fee ≤ limit} (maxBorrow limit debt fee) := by
  unfold maxBorrow
  split_ifs with full
  · constructor
    · change debt + 0 + originationFeeOn 0 fee ≤ limit
      rw [origination_fee_on_zero]
      exact within
    · intro x fits
      change debt + x + originationFeeOn x fee ≤ limit at fits
      omega
  · obtain ⟨⟨_, fits⟩, greatest⟩ := step_down_greatest (limit - debt) fee
      ((limit - debt) * WAD / (WAD + fee))
    constructor
    · change debt + _ + originationFeeOn _ fee ≤ limit
      omega
    · intro x under
      change debt + x + originationFeeOn x fee ≤ limit at under
      have room : x + originationFeeOn x fee ≤ limit - debt := by omega
      exact greatest ⟨le_lent_iff.mpr room, room⟩

theorem max_borrow_eq (limit debt fee : Nat) : maxBorrow limit debt fee = lent (limit - debt) fee := by
  by_cases within : debt ≤ limit
  · apply (max_borrow_greatest fee within).unique
    constructor
    · have fits := le_lent_iff.mp (Nat.le_refl (lent (limit - debt) fee))
      change debt + _ + originationFeeOn _ fee ≤ limit
      omega
    · intro x fits
      change debt + x + originationFeeOn x fee ≤ limit at fits
      exact le_lent_iff.mpr (by omega)
  · have none : limit - debt = 0 := by omega
    rw [maxBorrow, if_pos (by omega), none, lent, Nat.zero_mul, Nat.zero_div]

/-! ## What the page shows -/

section Shown

variable [DecidableEq Address] [Zero Address] {cfg : Stock.Config Address} {user : Address}
  {b : Brokerage Address} {c : Stock.Collateral Address}

def shownWorth (cfg : Stock.Config Address) (user : Address) (b : Brokerage Address)
    (c : Stock.Collateral Address) : Nat :=
  match Stock.valueOf cfg c.token (10 ^ c.tokenDecimals) uint256Max b with
  | .ok valuePerToken => b.stock.collateralOf user c.token * valuePerToken / 10 ^ c.tokenDecimals
  | .error _ => 0

def shownLimit (cfg : Stock.Config Address) (user : Address) (b : Brokerage Address) : Nat :=
  (cfg.collaterals.map fun c => shownWorth cfg user b c * c.maxLTV / WAD).sum

theorem limit_of_add_collateral (cfg : Stock.Config Address) (user : Address)
    (b : Brokerage Address) (sums : Summary) (c : Stock.Collateral Address) :
    (addCollateral sums (readCollateral cfg user b c)).borrowLimit =
      sums.borrowLimit + shownWorth cfg user b c * c.maxLTV / WAD := by
  have deposited : (readCollateral cfg user b c).deposited.getD 0 =
      b.stock.collateralOf user c.token := rfl
  have value : valueOfAmount (readCollateral cfg user b c) (b.stock.collateralOf user c.token) =
      (Stock.valueOf cfg c.token (10 ^ c.tokenDecimals) uint256Max b).toOption.map fun figure =>
        b.stock.collateralOf user c.token * figure / 10 ^ c.tokenDecimals := rfl
  unfold addCollateral shownWorth
  rw [deposited, value]
  cases Stock.valueOf cfg c.token (10 ^ c.tokenDecimals) uint256Max b with
  | error error =>
      split_ifs
      · simp
      · simp [Except.toOption]
  | ok figure =>
      split_ifs with none
      · simp [none]
      · rfl

theorem limit_of_loop (cfg : Stock.Config Address) (user : Address) (b : Brokerage Address)
    (listings : List (Stock.Collateral Address)) (sums : Summary) :
    ((listings.map (readCollateral cfg user b)).foldl addCollateral sums).borrowLimit =
      sums.borrowLimit +
        (listings.map fun c => shownWorth cfg user b c * c.maxLTV / WAD).sum := by
  induction listings generalizing sums with
  | nil => rfl
  | cons c rest ih =>
      rw [List.map_cons, List.foldl_cons, ih, limit_of_add_collateral, List.map_cons,
        List.sum_cons, Nat.add_assoc]

theorem borrow_limit_shown (cfg : Stock.Config Address) (user : Address)
    (b : Brokerage Address) : (useStockLoan cfg user b).summary.borrowLimit = shownLimit cfg user b :=
  (limit_of_loop cfg user b cfg.collaterals ⟨0, 0, 0, false⟩).trans (Nat.zero_add _)

theorem borrow_maximum_eq (cfg : Stock.Config Address) (user : Address) (b : Brokerage Address) :
    borrowMaximum (useStockLoan cfg user b) cfg.originationFee =
      min (lent (shownLimit cfg user b -
          (Stock.debtOf b user + accrualMargin (Stock.debtOf b user))) cfg.originationFee)
        ((b.tokens cfg.stable).balanceOf cfg.pool.address) := by
  have limit := borrow_limit_shown cfg user b
  have debt : (useStockLoan cfg user b).debt.getD 0 = Stock.debtOf b user := rfl
  have cash : (useStockLoan cfg user b).liquidity.getD 0 =
      (b.tokens cfg.stable).balanceOf cfg.pool.address := rfl
  simp only [borrowMaximum, limit, debt, cash, max_borrow_eq]
  split_ifs with less
  · exact (min_eq_left less.le).symm
  · exact (min_eq_right (not_lt.mp less)).symm

theorem withdraw_maximum_of_no_debt (none : Stock.debtOf b user = 0) :
    withdrawMaximum (useStockLoan cfg user b) (readCollateral cfg user b c) =
      b.stock.collateralOf user c.token := by
  have debt : (useStockLoan cfg user b).debt.getD 0 = Stock.debtOf b user := rfl
  rw [withdrawMaximum, maxWithdraw, debt, if_pos none]
  rfl

theorem withdraw_maximum_le :
    withdrawMaximum (useStockLoan cfg user b) (readCollateral cfg user b c) ≤
      b.stock.collateralOf user c.token := by
  have held : (readCollateral cfg user b c).deposited.getD 0 =
      b.stock.collateralOf user c.token := rfl
  simp only [withdrawMaximum, maxWithdraw, held]
  split_ifs with _ _ _ less
  · exact Nat.le_refl _
  · exact Nat.zero_le _
  · exact Nat.zero_le _
  · exact less.le
  · exact Nat.le_refl _

/-- With a debt the field offers what the room under the limit comes to by the
quote, in one division. -/
theorem withdraw_maximum_eq (owing : Stock.debtOf b user ≠ 0) {figure : Nat}
    (quoted : Stock.valueOf cfg c.token (10 ^ c.tokenDecimals) uint256Max b = .ok figure) :
    withdrawMaximum (useStockLoan cfg user b) (readCollateral cfg user b c) =
      min ((shownLimit cfg user b - Stock.debtOf b user) * WAD * 10 ^ c.tokenDecimals /
        (figure * c.maxLTV)) (b.stock.collateralOf user c.token) := by
  have limit := borrow_limit_shown cfg user b
  have debt : (useStockLoan cfg user b).debt.getD 0 = Stock.debtOf b user := rfl
  have held : (readCollateral cfg user b c).deposited.getD 0 =
      b.stock.collateralOf user c.token := rfl
  have value : (readCollateral cfg user b c).valuePerToken.getD 0 = figure := by
    have read : (readCollateral cfg user b c).valuePerToken =
        (Stock.valueOf cfg c.token (10 ^ c.tokenDecimals) uint256Max b).toOption := rfl
    rw [read, quoted]
    rfl
  have ltv : (readCollateral cfg user b c).maxLTV = c.maxLTV := rfl
  have decimals : (readCollateral cfg user b c).decimals = c.tokenDecimals := rfl
  simp only [withdrawMaximum, maxWithdraw, limit, debt, held, value, ltv, decimals, if_neg owing]
  split_ifs with worthless full less
  · rcases worthless with none | none
    · rw [none, Nat.zero_mul, Nat.div_zero, Nat.zero_min]
    · exact absurd none c.max_ltv_ne_zero
  · have none : shownLimit cfg user b - Stock.debtOf b user = 0 := by omega
    rw [none, Nat.zero_mul, Nat.zero_mul, Nat.zero_div, Nat.zero_min]
  · exact (min_eq_left less.le).symm
  · exact (min_eq_right (not_lt.mp less)).symm

end Shown

/-! ## The two limits -/

section Limits

variable [DecidableEq Address] [Zero Address] {cfg : Stock.Config Address} {user : Address}
  {b : Brokerage Address} {c : Stock.Collateral Address}

def vaultLimit (cfg : Stock.Config Address) (user : Address) (b : Brokerage Address) : Nat :=
  (Stock.portfolio cfg user b).borrowLimit

/-- How far a listing counts for more on the screen than in the vault, by what the
roundings of both leave over. -/
def limitGap (cfg : Stock.Config Address) (user : Address) (b : Brokerage Address)
    (c : Stock.Collateral Address) : Int :=
  (((Stock.worthOf cfg user b c * c.maxLTV % WAD : Nat) : Int) +
    (Stock.rate cfg c b).quoteGap (10 ^ c.tokenDecimals) (b.stock.collateralOf user c.token) *
      c.maxLTV) / (WAD : Nat)

def screenGap (cfg : Stock.Config Address) (user : Address) (b : Brokerage Address) : Int :=
  (cfg.collaterals.map (limitGap cfg user b)).sum

/-- A block the screen is read from: just accrued, nothing paused, and everything
the user holds priced freshly enough to borrow on. -/
structure Read (cfg : Stock.Config Address) (user : Address) (b : Brokerage Address) : Prop where
  reached : (Stock.machine cfg).Reachable b
  outsider : Stock.Outsider cfg user
  live : user ≠ 0
  /-- A timestamp is a word. -/
  clock : b.timestamp ≤ uint256Max
  opened : b.stock.entriesPaused = false
  poolOpened : b.pool.entriesPaused = false
  current : Stock.Current cfg b
  priced : Stock.Priced cfg user false b

theorem Read.quoted (read : Read cfg user b) (listed : c ∈ cfg.collaterals)
    (held : b.stock.collateralOf user c.token ≠ 0) :
    Stock.valueOf cfg c.token (10 ^ c.tokenDecimals) uint256Max b =
      .ok ((Stock.rate cfg c b).worth (10 ^ c.tokenDecimals)) := by
  have fresh := read.priced c listed held
  obtain ⟨answer, updatedAt, reads, positive, published, past, _⟩ := fresh.priced
  have age : b.timestamp - updatedAt ≤ uint256Max := (Nat.sub_le _ _).trans read.clock
  rw [Stock.valueOf, Stock.get_ok_iff.mpr ⟨listed, rfl⟩, ok_bind]
  apply Stock.value_ok_iff.mpr
  exact ⟨fun _ => ⟨⟨answer, updatedAt, reads, positive, published, past, age⟩, fresh.split⟩, rfl⟩

theorem shown_worth_eq (read : Read cfg user b) (listed : c ∈ cfg.collaterals) :
    shownWorth cfg user b c = b.stock.collateralOf user c.token *
      (Stock.rate cfg c b).worth (10 ^ c.tokenDecimals) / 10 ^ c.tokenDecimals := by
  unfold shownWorth
  by_cases held : b.stock.collateralOf user c.token = 0
  · rw [held]
    simp only [Nat.zero_mul, Nat.zero_div]
    split <;> rfl
  · rw [read.quoted listed held]

omit [DecidableEq Address] in
theorem whole_pos (c : Stock.Collateral Address) : 0 < 10 ^ c.tokenDecimals :=
  Nat.pow_pos (by decide)

/-- A listing's limits differ by its gap. -/
theorem listing_limit_shown (read : Read cfg user b) (listed : c ∈ cfg.collaterals) :
    ((shownWorth cfg user b c * c.maxLTV / WAD : Nat) : Int) =
      mulDiv (Stock.worthOf cfg user b c) c.maxLTV WAD + limitGap cfg user b c := by
  have wad : ((WAD : Nat) : Int) ≠ 0 := Int.natCast_ne_zero.mpr wad_pos.ne'
  have quoted := (Stock.rate cfg c b).quoted_worth (Stock.unit_pos c) wad_pos (whole_pos c)
    (b.stock.collateralOf user c.token)
  rw [← shown_worth_eq read listed] at quoted
  have floor := Nat.div_add_mod (Stock.worthOf cfg user b c * c.maxLTV) WAD
  have floor' := congrArg (Nat.cast : Nat → Int) floor
  push_cast at floor'
  have scaled : (shownWorth cfg user b c : Int) * c.maxLTV =
      (((Stock.worthOf cfg user b c * c.maxLTV % WAD : Nat) : Int) +
        (Stock.rate cfg c b).quoteGap (10 ^ c.tokenDecimals)
          (b.stock.collateralOf user c.token) * c.maxLTV) +
      mulDiv (Stock.worthOf cfg user b c) c.maxLTV WAD * (WAD : Nat) := by
    rw [quoted, mulDiv]
    change ((Stock.worthOf cfg user b c : Int) + _) * _ = _
    push_cast
    linear_combination -floor'
  rw [Int.natCast_ediv, Nat.cast_mul, scaled, Int.add_mul_ediv_right _ _ wad, limitGap,
    Int.add_comm]

/-- So the two limits differ by the gaps. -/
theorem shown_limit_eq (read : Read cfg user b) :
    (shownLimit cfg user b : Int) = vaultLimit cfg user b + screenGap cfg user b := by
  have along (listings : List (Stock.Collateral Address))
      (among : ∀ c ∈ listings, c ∈ cfg.collaterals) :
      (((listings.map fun c => shownWorth cfg user b c * c.maxLTV / WAD).sum : Nat) : Int) =
        ((listings.map fun c => mulDiv (Stock.worthOf cfg user b c) c.maxLTV WAD).sum : Nat) +
          (listings.map (limitGap cfg user b)).sum := by
    induction listings with
    | nil => rfl
    | cons c rest ih =>
        have here := listing_limit_shown read (among c List.mem_cons_self)
        have later := ih fun other member => among other (List.mem_cons_of_mem _ member)
        simp only [List.map_cons, List.sum_cons, Nat.cast_add] at later ⊢
        omega
  exact along cfg.collaterals fun _ listed => listed

omit [DecidableEq Address] in
theorem limit_gap_nonpos (even : WAD ∣ b.stock.collateralOf user c.token * Stock.splits c b) :
    limitGap cfg user b c ≤ 0 := by
  have quote := (Stock.rate cfg c b).quote_gap_nonpos (Stock.unit_pos c) wad_pos (whole_pos c) even
  have share : (Stock.rate cfg c b).quoteGap (10 ^ c.tokenDecimals)
      (b.stock.collateralOf user c.token) * (c.maxLTV : Int) ≤ 0 :=
    Int.mul_nonpos_of_nonpos_of_nonneg quote (Int.natCast_nonneg _)
  have rest := Nat.mod_lt (Stock.worthOf cfg user b c * c.maxLTV) wad_pos
  have below : ((Stock.worthOf cfg user b c * c.maxLTV % WAD : Nat) : Int) < (WAD : Nat) :=
    Int.ofNat_lt.mpr rest
  apply Int.le_of_lt_add_one
  apply Int.ediv_lt_of_lt_mul (Int.natCast_pos.mpr wad_pos)
  omega

omit [DecidableEq Address] in
/-- Where what is held comes out at whole shares, the screen is on the safe side. -/
theorem screen_gap_nonpos
    (even : ∀ c ∈ cfg.collaterals,
      WAD ∣ b.stock.collateralOf user c.token * Stock.splits c b) :
    screenGap cfg user b ≤ 0 := by
  have each : ∀ c ∈ cfg.collaterals, limitGap cfg user b c ≤ 0 := fun c listed =>
    limit_gap_nonpos (even c listed)
  have total := List.sum_le_sum each
  rwa [List.map_const', List.sum_replicate, smul_zero] at total

end Limits

/-! ## What the vault makes of it -/

section Accepted

variable [DecidableEq Address] [Zero Address] {cfg : Stock.Config Address} {user : Address}
  {b : Brokerage Address} {c : Stock.Collateral Address}

/-- The room for a loan on the screen, from the vault's limit and the gap. -/
def lendingRoom (cfg : Stock.Config Address) (user : Address) (b : Brokerage Address) : Nat :=
  (vaultLimit cfg user b + screenGap cfg user b -
    (Stock.debtOf b user + accrualMargin (Stock.debtOf b user) : Nat)).toNat

def spareRoom (cfg : Stock.Config Address) (user : Address) (b : Brokerage Address) : Nat :=
  (vaultLimit cfg user b + screenGap cfg user b - (Stock.debtOf b user : Nat)).toNat

/-- Where the pool has cash and the room pays for a unit: the pool lends through the
vault, a fee leaves of the cash what the room pays for, and the vault's limit has
what the cash is, or what the room pays for. -/
def Lendable (cfg : Stock.Config Address) (user : Address) (b : Brokerage Address) : Prop :=
  let cash := (b.tokens cfg.stable).balanceOf cfg.pool.address
  let fee := cfg.originationFee
  cash ≠ 0 → WAD + fee ≤ lendingRoom cfg user b * WAD →
    b.pool.borrowModule = cfg.address ∧
      (fee = 0 ∨ lent (lendingRoom cfg user b) fee ≤ lent cash fee) ∧
      (cash ≤ lent (vaultLimit cfg user b - Stock.debtOf b user) fee ∨
        lent (lendingRoom cfg user b) fee ≤
          lent (vaultLimit cfg user b - Stock.debtOf b user) fee)

/-- The fewest units of a listing that keep the vault's limit above the debt, given
the limit of the rest. -/
def neededUnits (cfg : Stock.Config Address) (user : Address) (b : Brokerage Address)
    (c : Stock.Collateral Address) : Nat :=
  (Stock.rate cfg c b).unitsToCover
    (mulDivUp (mulDiv (Stock.worthOf cfg user b c) c.maxLTV WAD + Stock.debtOf b user -
      vaultLimit cfg user b) WAD c.maxLTV)

/-- Where a debt, a holding and the room make an offer, either nothing of the
listing is needed, or the room divided by the quote stops short of what is. -/
def Releasable (cfg : Stock.Config Address) (user : Address) (b : Brokerage Address)
    (c : Stock.Collateral Address) : Prop :=
  let held := b.stock.collateralOf user c.token
  let unitLimit := (Stock.rate cfg c b).worth (10 ^ c.tokenDecimals) * c.maxLTV
  let room := spareRoom cfg user b * WAD * 10 ^ c.tokenDecimals
  Stock.debtOf b user ≠ 0 → held ≠ 0 → unitLimit ≠ 0 → unitLimit ≤ room →
    neededUnits cfg user b c = 0 ∨
      (neededUnits cfg user b c ≤ held ∧
        room < (held - neededUnits cfg user b c + 1) * unitLimit)

omit [Zero Address] in
theorem row_of_set_collateral (b : Brokerage Address) (user token : Address) (amount : Nat) :
    (b.setCollateral user token amount).stock.collateralOf user =
      Function.update (b.stock.collateralOf user) token amount := by
  simp [Brokerage.setCollateral]

/-- A holding that changes leaves the limit of the rest as it was. -/
theorem limit_of_left (listed : c ∈ cfg.collaterals) (left : Nat) :
    vaultLimit cfg user (b.setCollateral user c.token left) +
        mulDiv (Stock.worthOf cfg user b c) c.maxLTV WAD =
      vaultLimit cfg user b + mulDiv ((Stock.rate cfg c b).worth left) c.maxLTV WAD := by
  have sums := PointSums.sum_map_add_of_eq_off
    (fun other => mulDiv (Stock.worthOf cfg user (b.setCollateral user c.token left) other)
      other.maxLTV WAD)
    (fun other => mulDiv (Stock.worthOf cfg user b other) other.maxLTV WAD)
    (List.Nodup.of_map _ cfg.listed_once) listed ?_
  · have here : Stock.worthOf cfg user (b.setCollateral user c.token left) c =
        (Stock.rate cfg c b).worth left := by
      rw [Stock.worthOf, row_of_set_collateral, Function.update_self]
      rfl
    rw [here] at sums
    exact sums
  · intro other member apart
    have distinct : other.token ≠ c.token := fun same =>
      apart (List.inj_on_of_nodup_map cfg.listed_once member listed same)
    simp only [Stock.worthOf, row_of_set_collateral, Function.update_of_ne distinct]
    rfl

/-- What is left covers the debt when it is what is needed. -/
theorem covers_iff (listed : c ∈ cfg.collaterals) {whole : Nat}
    (live : (Stock.rate cfg c b).worth whole ≠ 0) (left : Nat) :
    Stock.debtOf b user ≤ vaultLimit cfg user (b.setCollateral user c.token left) ↔
      neededUnits cfg user b c ≤ left := by
  obtain ⟨priceLive, multiplierLive⟩ := Rate.live_of_worth live
  have limit : vaultLimit cfg user (b.setCollateral user c.token left) +
        mulDiv (Stock.worthOf cfg user b c) c.maxLTV WAD =
      vaultLimit cfg user b + mulDiv ((Stock.rate cfg c b).worth left) c.maxLTV WAD :=
    limit_of_left listed left
  have ltv : 0 < c.maxLTV := Nat.pos_of_ne_zero c.max_ltv_ne_zero
  rw [neededUnits, Rate.units_to_cover_le_iff (Stock.unit_pos c) wad_pos priceLive multiplierLive,
    mul_div_up_le_iff ltv, ← le_mul_div_iff wad_pos]
  omega

theorem priced_of_less {forLiquidation : Bool} {token : Address} {less : Nat}
    (priced : Stock.Priced cfg user forLiquidation b)
    (le : less ≤ b.stock.collateralOf user token) :
    Stock.Priced cfg user forLiquidation (b.setCollateral user token less) := by
  intro c listed held
  have bound := Stock.set_collateral_le le user c.token
  have before : b.stock.collateralOf user c.token ≠ 0 := by omega
  have usable := priced c listed before
  exact ⟨usable.priced, usable.split⟩

theorem lending_room_eq (read : Read cfg user b) :
    shownLimit cfg user b - (Stock.debtOf b user + accrualMargin (Stock.debtOf b user)) =
      lendingRoom cfg user b := by
  have limit := shown_limit_eq read
  rw [lendingRoom]
  omega

theorem spare_room_eq (read : Read cfg user b) :
    shownLimit cfg user b - Stock.debtOf b user = spareRoom cfg user b := by
  have limit := shown_limit_eq read
  rw [spareRoom]
  omega

theorem lent_pos_iff {sum fee : Nat} : lent sum fee ≠ 0 ↔ WAD + fee ≤ sum * WAD := by
  rw [lent, Nat.div_ne_zero_iff]
  exact ⟨fun some => some.2, fun some => ⟨(Nat.add_pos_left wad_pos fee).ne', some⟩⟩

theorem lent_of_no_fee (sum : Nat) : lent sum 0 = sum := by
  rw [lent, Nat.add_zero, Nat.mul_div_cancel _ wad_pos]

/-- A fee is always some of what it is on top of. -/
theorem lent_lt {sum fee : Nat} (some : sum ≠ 0) (charged : fee ≠ 0) : lent sum fee < sum := by
  rw [lent, Nat.div_lt_iff_lt_mul (Nat.add_pos_left wad_pos fee)]
  exact Nat.mul_lt_mul_of_pos_left (by omega) (Nat.pos_of_ne_zero some)

variable [Fintype Address]

/-- A loan of an amount goes through when the pool lends to the vault, has the cash
for it and its fee, and the limit has the room. -/
theorem borrow_accepted_iff (read : Read cfg user b) {amount : Nat} (some : amount ≠ 0) :
    (∃ after, Stock.borrow cfg user amount b = .ok after) ↔
      b.pool.borrowModule = cfg.address ∧
        amount ≤ lent ((b.tokens cfg.stable).balanceOf cfg.pool.address) cfg.originationFee ∧
        amount ≤ lent (vaultLimit cfg user b - Stock.debtOf b user) cfg.originationFee := by
  rw [le_lent_iff, le_lent_iff, origination_fee_on]
  constructor
  · rintro ⟨after, ran⟩
    obtain ⟨_, within, wired, available⟩ := Stock.asked_of_borrow read.current ran
    change _ ≤ vaultLimit cfg user b at within
    exact ⟨wired, available, by omega⟩
  · rintro ⟨wired, available, room⟩
    have sound := (Stock.custody_of_reachable read.reached).sound
    have within : Stock.debtOf b user + amount + mulDivUp amount cfg.originationFee WAD ≤
        vaultLimit cfg user b := by omega
    exact Stock.borrows read.current read.opened read.poolOpened sound.borrow_index_pos.ne'
      (Stock.treasury_live_of_reachable read.reached) read.outsider.1 read.live read.priced some
      rfl within wired available

theorem borrow_maximum_accepted_iff (read : Read cfg user b) :
    (borrowMaximum (useStockLoan cfg user b) cfg.originationFee ≠ 0 →
      ∃ after, Stock.borrow cfg user
        (borrowMaximum (useStockLoan cfg user b) cfg.originationFee) b = .ok after) ↔
    Lendable cfg user b := by
  rw [borrow_maximum_eq, lending_room_eq read, Lendable]
  rw [← lent_pos_iff]
  generalize lendingRoom cfg user b = room
  by_cases offered : (b.tokens cfg.stable).balanceOf cfg.pool.address ≠ 0 ∧
    lent room cfg.originationFee ≠ 0
  · obtain ⟨cash, pays⟩ := offered
    have some : min (lent room cfg.originationFee)
        ((b.tokens cfg.stable).balanceOf cfg.pool.address) ≠ 0 := by omega
    have ofCash : (b.tokens cfg.stable).balanceOf cfg.pool.address ≤
        lent ((b.tokens cfg.stable).balanceOf cfg.pool.address) cfg.originationFee ↔
          cfg.originationFee = 0 := by
      constructor
      · intro whole
        by_contra charged
        exact absurd (lent_lt cash charged) (Nat.not_lt.mpr whole)
      · intro none
        rw [none, lent_of_no_fee]
    simp only [ne_eq, some, cash, pays, not_false_eq_true, forall_const, borrow_accepted_iff read,
      min_le_iff, ofCash]
    tauto
  · have nothing : min (lent room cfg.originationFee)
        ((b.tokens cfg.stable).balanceOf cfg.pool.address) = 0 := by omega
    rw [nothing]
    constructor
    · intro _ cash pays
      exact absurd ⟨cash, pays⟩ offered
    · intro _ some
      exact absurd rfl some

/-- Some of a holding comes out against a debt when the limit on what is left
covers it. -/
theorem withdraw_accepted_iff (read : Read cfg user b) (owing : Stock.debtOf b user ≠ 0)
    {amount : Nat} (some : amount ≠ 0) (enough : amount ≤ b.stock.collateralOf user c.token) :
    (∃ after, Stock.withdraw cfg user c.token amount b = .ok after) ↔
      Stock.debtOf b user ≤ vaultLimit cfg user
        (b.setCollateral user c.token (b.stock.collateralOf user c.token - amount)) := by
  constructor
  · rintro ⟨after, ran⟩
    obtain ⟨_, _, _, within, _⟩ := Stock.withdraw_ok_iff.mp ran
    have same : Stock.released cfg user c.token amount b = _ :=
      Stock.accrue_pool_of_current read.current
    rw [same] at within
    exact (within owing).2
  · intro within
    exact Stock.withdraws_within_limit read.current (Stock.custody_of_reachable read.reached)
      (Stock.recorded_of_reachable read.reached) some enough
      (priced_of_less read.priced (Nat.sub_le _ _)) within

omit [DecidableEq Address] [Zero Address] [Fintype Address] in
/-- Something being needed, only an offer of less than the holding leaves it. -/
theorem le_rest_iff {needed tokens held : Nat} :
    needed ≤ held - min tokens held ↔
      needed = 0 ∨ (needed ≤ held ∧ tokens < held - needed + 1) := by
  omega

theorem withdraw_maximum_accepted_iff (read : Read cfg user b) (listed : c ∈ cfg.collaterals) :
    (withdrawMaximum (useStockLoan cfg user b) (readCollateral cfg user b c) ≠ 0 →
      ∃ after, Stock.withdraw cfg user c.token
        (withdrawMaximum (useStockLoan cfg user b) (readCollateral cfg user b c)) b =
          .ok after) ↔
    Releasable cfg user b c := by
  by_cases none : Stock.debtOf b user = 0
  · rw [withdraw_maximum_of_no_debt none]
    constructor
    · intro _ owing
      exact absurd none owing
    · intro _ some
      exact Stock.withdraws_without_debt (Stock.custody_of_reachable read.reached)
        (Stock.recorded_of_reachable read.reached) none some (Nat.le_refl _)
  by_cases held : b.stock.collateralOf user c.token = 0
  · have nothing : withdrawMaximum (useStockLoan cfg user b) (readCollateral cfg user b c) = 0 :=
      Nat.eq_zero_of_le_zero (held ▸ withdraw_maximum_le)
    rw [nothing]
    exact ⟨fun _ _ some => absurd held some, fun _ some => absurd rfl some⟩
  rw [withdraw_maximum_eq none (read.quoted listed held), spare_room_eq read, Releasable]
  generalize spareRoom cfg user b * WAD * 10 ^ c.tokenDecimals = room
  by_cases offered : (Stock.rate cfg c b).worth (10 ^ c.tokenDecimals) * c.maxLTV ≠ 0 ∧
    (Stock.rate cfg c b).worth (10 ^ c.tokenDecimals) * c.maxLTV ≤ room
  · obtain ⟨priced, pays⟩ := offered
    have tokens := (Nat.div_ne_zero_iff (a := room)).mpr ⟨priced, pays⟩
    have some : min (room / ((Stock.rate cfg c b).worth (10 ^ c.tokenDecimals) * c.maxLTV))
        (b.stock.collateralOf user c.token) ≠ 0 := by omega
    have live : (Stock.rate cfg c b).worth (10 ^ c.tokenDecimals) ≠ 0 := left_ne_zero_of_mul priced
    rw [← Nat.div_lt_iff_lt_mul (Nat.pos_of_ne_zero priced)]
    simp only [ne_eq, some, none, held, priced, pays, not_false_eq_true, forall_const,
      withdraw_accepted_iff read none some (min_le_right _ _), covers_iff listed live]
    exact le_rest_iff
  · have nothing : min (room / ((Stock.rate cfg c b).worth (10 ^ c.tokenDecimals) * c.maxLTV))
        (b.stock.collateralOf user c.token) = 0 := by
      have small : room / ((Stock.rate cfg c b).worth (10 ^ c.tokenDecimals) * c.maxLTV) = 0 := by
        by_contra some
        exact offered (Nat.div_ne_zero_iff.mp some)
      rw [small, Nat.zero_min]
    rw [nothing]
    constructor
    · intro _ _ _ priced pays
      exact absurd ⟨priced, pays⟩ offered
    · intro _ some
      exact absurd rfl some

/-- The figure for a limit, a debt and a fee is the most that fits. The field for a
loan is accepted exactly when the room for it, the gap of the two limits added,
buys no unit more than the pool's cash and the vault's limit pay for; the field for
collateral exactly when the room divided by the quote leaves what is needed. Where
holdings come out at whole shares, the gap is none or to the safe side. -/
theorem maxima_accepted_iff (cfg : Stock.Config Address) (user : Address) (b : Brokerage Address)
    (read : Read cfg user b) :
    (∀ limit debt fee, (debt ≤ limit →
        IsGreatest {x | debt + x + originationFeeOn x fee ≤ limit} (maxBorrow limit debt fee)) ∧
      (limit < debt → maxBorrow limit debt fee = 0)) ∧
    ((borrowMaximum (useStockLoan cfg user b) cfg.originationFee ≠ 0 →
        ∃ after, Stock.borrow cfg user
          (borrowMaximum (useStockLoan cfg user b) cfg.originationFee) b = .ok after) ↔
      Lendable cfg user b) ∧
    (∀ c ∈ cfg.collaterals,
      (withdrawMaximum (useStockLoan cfg user b) (readCollateral cfg user b c) ≠ 0 →
        ∃ after, Stock.withdraw cfg user c.token
          (withdrawMaximum (useStockLoan cfg user b) (readCollateral cfg user b c)) b =
            .ok after) ↔
      Releasable cfg user b c) ∧
    ((∀ c ∈ cfg.collaterals, WAD ∣ b.stock.collateralOf user c.token * Stock.splits c b) →
      screenGap cfg user b ≤ 0) := by
  refine ⟨?_, borrow_maximum_accepted_iff read, ?_, screen_gap_nonpos⟩
  · intro limit debt fee
    refine ⟨max_borrow_greatest fee, ?_⟩
    intro above
    rw [maxBorrow, if_pos above.le]
  · intro c listed
    exact withdraw_maximum_accepted_iff read listed

end Accepted

/-! ## Offers -/

section Offers

/-- Two has collateral worth twenty-five thousand, and the pool a hundred units. -/
def thinRun : List (Stock.Action (Fin 12)) :=
  [.pool 4 (.setBorrowModule 5), .pool 1 (.supply 100), .stock 2 (.deposit 8 (100 * 10 ^ 18))]

/-- The pool has plenty, and two owes three units of it. -/
def dustRun : List (Stock.Action (Fin 12)) := Stock.fundedRun 4 ++ [.stock 2 (.borrow 2)]

def loanRun : List (Stock.Action (Fin 12)) := Stock.fundedRun 4 ++ [.stock 2 (.borrow (10 ^ 9))]

def held : Stock.Collateral (Fin 12) :=
  Stock.listing 8 9 Figures.eight_ne_zero Figures.nine_ne_zero

/-- A run of the sample vault that two can read the screen after. -/
theorem read_of_run (run : List (Stock.Action (Fin 12))) (check : Brokerage (Fin 12) → Bool)
    (outside : ∀ action ∈ run, action.External Stock.loans)
    (ran : passes (Machine.replay (Stock.act Stock.loans) Stock.freshLoans run) (fun b =>
      passes (Stock.totals Stock.loans 2 false b) fun _ =>
        decide (b.timestamp ≤ uint256Max ∧ b.stock.entriesPaused = false ∧
          b.pool.entriesPaused = false ∧
          Pool.elapsed (b.lending Stock.loans.stable) = 0) && check b) = true) :
    ∃ b, Read Stock.loans 2 b ∧ check b = true := by
  obtain ⟨b, reached, passed⟩ := Stock.reachable_of_run run _ outside ran
  obtain ⟨sums, summed, passed⟩ := exists_of_passes _ passed
  obtain ⟨state, checked⟩ := Bool.and_eq_true_iff.mp passed
  obtain ⟨clock, opened, poolOpened, current⟩ := of_decide_eq_true state
  exact ⟨b, ⟨reached, by decide, by decide, clock, opened, poolOpened, current,
    (Stock.totals_ok_iff.mp summed).1⟩, checked⟩

/-- The maximum of the borrow field, without the loop. -/
def shownMaximum (b : Brokerage (Fin 12)) : Nat :=
  min (lent (shownLimit Stock.loans 2 b -
      (Stock.debtOf b 2 + accrualMargin (Stock.debtOf b 2))) Stock.loans.originationFee)
    ((b.tokens 7).balanceOf 6)

/-- Owing a thousand and its fee, two is offered the most of both, and gets either:
the two limits agree, and the pool has the cash. -/
theorem maxima_accepted :
    ∃ b, Read Stock.loans 2 b ∧ Lendable Stock.loans 2 b ∧ Releasable Stock.loans 2 b held ∧
      borrowMaximum (useStockLoan Stock.loans 2 b) Stock.loans.originationFee = 8949248755 ∧
      (∃ after, Stock.borrow Stock.loans 2 8949248755 b = .ok after) ∧
      withdrawMaximum (useStockLoan Stock.loans 2 b) (readCollateral Stock.loans 2 b held) =
        89950000000000000000 ∧
      ∃ after, Stock.withdraw Stock.loans 2 8 89950000000000000000 b = .ok after := by
  obtain ⟨b, read, checked⟩ := read_of_run loanRun
    (fun b => decide (shownMaximum b = 8949248755 ∧
      withdrawMaximum (useStockLoan Stock.loans 2 b) (readCollateral Stock.loans 2 b held) =
        89950000000000000000 ∧
      b.pool.borrowModule = 5 ∧
      lent (lendingRoom Stock.loans 2 b) Stock.loans.originationFee ≤
        lent ((b.tokens 7).balanceOf 6) Stock.loans.originationFee ∧
      lent (lendingRoom Stock.loans 2 b) Stock.loans.originationFee ≤
        lent (vaultLimit Stock.loans 2 b - Stock.debtOf b 2) Stock.loans.originationFee ∧
      neededUnits Stock.loans 2 b held ≤ b.stock.collateralOf 2 8 ∧
      spareRoom Stock.loans 2 b * WAD * 10 ^ 18 <
        (b.stock.collateralOf 2 8 - neededUnits Stock.loans 2 b held + 1) *
          ((Stock.rate Stock.loans held b).worth (10 ^ 18) * held.maxLTV)))
    (by decide) (by decide +kernel)
  obtain ⟨shown, offered, wired, ofCash, ofLimit, needed, short⟩ := of_decide_eq_true checked
  have lendable : Lendable Stock.loans 2 b := fun _ _ => ⟨wired, .inr ofCash, .inr ofLimit⟩
  have releasable : Releasable Stock.loans 2 b held := fun _ _ _ _ => .inr ⟨needed, short⟩
  have borrows : borrowMaximum (useStockLoan Stock.loans 2 b) Stock.loans.originationFee =
      8949248755 := (borrow_maximum_eq _ _ _).trans shown
  obtain ⟨_, loan, withdrawal, _⟩ := maxima_accepted_iff Stock.loans 2 b read
  have lends := loan.mpr lendable
  have releases := (withdrawal held List.mem_cons_self).mpr releasable
  rw [borrows] at lends
  rw [offered] at releases
  exact ⟨b, read, lendable, releasable, borrows, lends (by decide), offered,
    releases (by decide)⟩

/-- The whole of the pool's cash is offered, and the fee on it does not fit. -/
theorem thin_pool_offers_its_cash :
    ∃ b error, Read Stock.loans 2 b ∧
      borrowMaximum (useStockLoan Stock.loans 2 b) Stock.loans.originationFee = 100 ∧
      Stock.borrow Stock.loans 2 100 b = .error error := by
  obtain ⟨b, read, checked⟩ := read_of_run thinRun
    (fun b => !passes (Stock.borrow Stock.loans 2 100 b) (fun _ => true) &&
      decide (shownMaximum b = 100))
    (by decide) (by decide +kernel)
  obtain ⟨refused, checked⟩ := Bool.and_eq_true_iff.mp checked
  obtain ⟨error, ran⟩ := exists_error_of_refused refused
  exact ⟨b, error, read, (borrow_maximum_eq _ _ _).trans (of_decide_eq_true checked), ran⟩

/-- A positive maximum the vault refuses, in each of the two fields. -/
theorem maxima_refused :
    (∃ b error, Read Stock.loans 2 b ∧
      borrowMaximum (useStockLoan Stock.loans 2 b) Stock.loans.originationFee = 100 ∧
      Stock.borrow Stock.loans 2 100 b = .error error) ∧
    ∃ b error, Read Stock.loans 2 b ∧
      withdrawMaximum (useStockLoan Stock.loans 2 b) (readCollateral Stock.loans 2 b held) =
        99999999970000000000 ∧
      Stock.withdraw Stock.loans 2 8 99999999970000000000 b = .error error := by
  refine ⟨thin_pool_offers_its_cash, ?_⟩
  obtain ⟨b, read, checked⟩ := read_of_run dustRun
    (fun b => !passes (Stock.withdraw Stock.loans 2 8 99999999970000000000 b) (fun _ => true) &&
      decide (withdrawMaximum (useStockLoan Stock.loans 2 b)
        (readCollateral Stock.loans 2 b held) = 99999999970000000000))
    (by decide) (by decide +kernel)
  obtain ⟨refused, checked⟩ := Bool.and_eq_true_iff.mp checked
  obtain ⟨error, ran⟩ := exists_error_of_refused refused
  exact ⟨b, error, read, of_decide_eq_true checked, ran⟩

end Offers

end LoanScreen

end Ghoststake
