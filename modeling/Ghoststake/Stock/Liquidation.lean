import Ghoststake.Stock.Limits

/-!
# What a liquidation takes

A seizure buys at the price less the bonus, so it takes no more off the
collateral than what was repaid and the bonus on it. Where the line is above
the bonus line of the token seized, that leaves the rest no less healthy.
-/

namespace Ghoststake

set_option autoImplicit false

open Checked Rounding

namespace Stock

variable {Address : Type} [DecidableEq Address] [Zero Address] {cfg : Config Address}
  {b after : Brokerage Address} {sender user token : Address} {amount : Nat}
  {c : Collateral Address}

theorem get_ok_iff : get cfg token = .ok c ↔ c ∈ cfg.collaterals ∧ c.token = token := by
  unfold get
  constructor
  · intro found
    cases search : cfg.collaterals.find? (fun c => c.token = token) with
    | none => rw [search] at found; cases found
    | some other =>
        rw [search] at found
        cases found
        exact ⟨List.mem_of_find?_eq_some search, by simpa using List.find?_some search⟩
  · rintro ⟨listed, rfl⟩
    cases search : cfg.collaterals.find? (fun other => other.token = c.token) with
    | none =>
        have apart := List.find?_eq_none.mp search c listed
        simp at apart
    | some other =>
        have same : other.token = c.token := by simpa using List.find?_some search
        have one : other = c := List.inj_on_of_nodup_map cfg.listed_once
          (List.mem_of_find?_eq_some search) listed same
        rw [one]

/-! ## One liquidation -/

def mostRepaid (cfg : Config Address) (c : Collateral Address) (user : Address)
    (b : Brokerage Address) : Nat :=
  mulDiv (debtOf b user)
    (closeFactorAt cfg c (health (debtOf b user) (portfolio cfg user b).liquidationLine)) WAD

def repaying (cfg : Config Address) (c : Collateral Address) (user : Address) (amount : Nat)
    (b : Brokerage Address) : Nat :=
  if amount = uint256Max then mostRepaid cfg c user b else amount

/-- What is paid for the collateral seized: the repayment and the bonus on it. -/
def withBonus (c : Collateral Address) (repaid : Nat) : Nat :=
  repaid + mulDiv repaid c.liquidationBonus WAD

def seizedFor (cfg : Config Address) (c : Collateral Address) (user : Address) (repaid : Nat)
    (b : Brokerage Address) : Nat :=
  min ((rate cfg c b).unitsFor (withBonus c repaid)) (b.stock.collateralOf user c.token)

structure Liquidates (cfg : Config Address) (c : Collateral Address) (user : Address)
    (repaid seized : Nat) (b after : Brokerage Address) : Prop where
  usable : Usable c c.liquidationMaxAge b
  taken : after.stock.collateralOf user =
    Function.update (b.stock.collateralOf user) c.token (b.stock.collateralOf user c.token - seized)
  prices : after.timestamp = b.timestamp ∧ after.latestRoundData = b.latestRoundData ∧
    after.uiMultiplier = b.uiMultiplier
  debt : debtOf after user + repaid ≤ debtOf b user + debtUnit after

omit [DecidableEq Address] in
theorem max_repay_ok_iff {limit : Nat} :
    maxRepay cfg c user b = .ok limit ↔ Priced cfg user true b ∧
      health (debtOf b user) (portfolio cfg user b).liquidationLine < WAD ∧
      limit = mostRepaid cfg c user b := by
  simp only [maxRepay, bind_ok_iff, totals_ok_iff, require_ok_iff, exists_const, Except.ok.injEq]
  constructor
  · rintro ⟨_, ⟨priced, rfl⟩, underwater, same⟩
    exact ⟨priced, underwater, same.symm⟩
  · rintro ⟨priced, underwater, same⟩
    exact ⟨_, ⟨priced, rfl⟩, underwater, same.symm⟩

theorem debt_of_repay_pool (current : Current cfg b)
    (ran : repayPool cfg amount user b = .ok after) :
    debtOf after user + amount ≤ debtOf b user + debtUnit after ∧
      after.timestamp = b.timestamp ∧ after.latestRoundData = b.latestRoundData ∧
      after.uiMultiplier = b.uiMultiplier := by
  simp only [repayPool, bind_ok_iff, Brokerage.pay_ok_iff, Brokerage.lend_ok_iff] at ran
  obtain ⟨_, ⟨state, _, rfl⟩, l, repaid, rfl⟩ := ran
  have still : Pool.accrue cfg.pool ((b.setToken cfg.stable state).lending cfg.stable) =
      (b.setToken cfg.stable state).lending cfg.stable := Pool.accrue_of_no_time _ _ current
  have falls := (Pool.repay_debt_le repaid).1
  have index := Pool.repay_leaves repaid
  obtain ⟨_, _, _, _, paid, _, same⟩ := Pool.repay_ok_iff.1 repaid
  rw [still] at falls index
  refine ⟨?_, ?_, rfl, rfl⟩
  · change Pool.balanceOfDebt l.pool user + amount ≤ _ + mulDivUp l.pool.borrowIndex 1 RAY
    rw [index]
    exact falls
  · change l.timestamp = b.timestamp
    rw [same]
    exact Pool.accrue_timestamp _ _

theorem quiet_of_pay_treasury {fee : Nat} (ran : payTreasury cfg fee b = .ok after) :
    after.timestamp = b.timestamp ∧ after.latestRoundData = b.latestRoundData ∧
      after.uiMultiplier = b.uiMultiplier := by
  unfold payTreasury at ran
  split_ifs at ran
  · obtain ⟨_, _, rfl⟩ := Brokerage.pay_ok_iff.1 ran
    exact ⟨rfl, rfl, rfl⟩
  · cases ran
    exact ⟨rfl, rfl, rfl⟩

theorem liquidates_of_liquidate (listed : get cfg token = .ok c)
    (ran : liquidate cfg sender user token amount b = .ok after) :
    Liquidates cfg c user (repaying cfg c user amount (accruePool cfg b))
      (seizedFor cfg c user (repaying cfg c user amount (accruePool cfg b)) (accruePool cfg b))
      (accruePool cfg b) after := by
  simp only [liquidate, listed, ok_bind, bind_ok_iff, require_ok_iff, exists_const,
    Except.ok.injEq, max_repay_ok_iff, tokens_for_ok_iff, Brokerage.pay_ok_iff] at ran
  obtain ⟨_, ⟨_, _, rfl⟩, _, _, _, _, ⟨usable, _, rfl⟩, _, ⟨pulled, _, rfl⟩, cleared, clears,
    paid, pays, _, ⟨sent, _, rfl⟩, rfl⟩ := ran
  have own : c.token = token := (get_ok_iff.mp listed).2
  have asked : (if amount = uint256Max then mostRepaid cfg c user (accruePool cfg b) else amount) =
      repaying cfg c user amount (accruePool cfg b) := rfl
  rw [asked] at clears pays
  generalize repaying cfg c user amount (accruePool cfg b) = repaid at *
  have seized : min ((rate cfg c (accruePool cfg b)).unitsFor
      (repaid + mulDiv repaid c.liquidationBonus WAD))
      ((accruePool cfg b).stock.collateralOf user token) =
        seizedFor cfg c user repaid (accruePool cfg b) := by
    rw [seizedFor, own]
    rfl
  rw [seized] at clears
  have pool := pool_of_pay_treasury pays
  have stock := (stock_of_pay_treasury pays).trans (stock_of_repay_pool clears)
  obtain ⟨time, rounds, splits⟩ := quiet_of_pay_treasury pays
  have still : Current cfg (((accruePool cfg b).setCollateral user token
      ((accruePool cfg b).stock.collateralOf user token -
        seizedFor cfg c user repaid (accruePool cfg b))).setToken cfg.stable pulled) :=
    current_accrue_pool cfg b
  obtain ⟨falls, sameTime, sameRounds, sameSplits⟩ := debt_of_repay_pool still clears
  refine ⟨usable, ?_, ⟨?_, ?_, ?_⟩, ?_⟩
  · change paid.stock.collateralOf user = _
    rw [stock, own]
    change ((accruePool cfg b).setCollateral user token _).stock.collateralOf user = _
    simp only [Brokerage.setCollateral, Function.update_self]
  · exact time.trans sameTime
  · exact rounds.trans sameRounds
  · exact splits.trans sameSplits
  · change Pool.balanceOfDebt paid.pool user + repaid ≤ _ + mulDivUp paid.pool.borrowIndex 1 RAY
    rw [pool]
    exact falls

/-! ## The collateral against the line -/

omit [Zero Address] [DecidableEq Address] in
/-- Sums that differ at one place differ by what is there. -/
theorem sum_le_add_of_one {Item : Type} {items : List Item} {one : Item} {more less : Item → Nat}
    {gap : Nat} (once : items.Nodup) (there : more one ≤ less one + gap)
    (others : ∀ item ∈ items, item ≠ one → more item = less item) :
    (items.map more).sum ≤ (items.map less).sum + gap := by
  induction items with
  | nil => exact Nat.zero_le _
  | cons item rest ih =>
      obtain ⟨absent, later⟩ := List.nodup_cons.mp once
      simp only [List.map_cons, List.sum_cons]
      by_cases here : item = one
      · have tail : rest.map more = rest.map less := by
          apply List.map_congr_left
          intro other member
          apply others other (List.mem_cons_of_mem _ member)
          intro same
          exact absent (here ▸ same ▸ member)
        rw [tail, here]
        omega
      · have rest := ih later fun other member => others other (List.mem_cons_of_mem _ member)
        have same := others item List.mem_cons_self here
        omega

omit [DecidableEq Address] in
theorem worth_of_seized {repaid : Nat} (cfg : Config Address) (c : Collateral Address)
    (user : Address) (b : Brokerage Address) :
    (rate cfg c b).worth (b.stock.collateralOf user c.token) ≤
      (rate cfg c b).worth (b.stock.collateralOf user c.token - seizedFor cfg c user repaid b) +
        withBonus c repaid :=
  Rate.worth_le_add (unit_pos c) wad_pos (min_le_left _ _)

omit [DecidableEq Address] in
theorem line_drop {before left sum : Nat} (c : Collateral Address) (drop : before ≤ left + sum) :
    mulDiv before c.liquidationThreshold WAD ≤
      mulDiv left c.liquidationThreshold WAD + mulDivUp sum c.liquidationThreshold WAD := by
  have cost := le_mul_div_up_mul sum c.liquidationThreshold wad_pos
  have step := div_sub_div_le ((left + sum) * c.liquidationThreshold) cost wad_pos
  rw [Nat.add_mul, Nat.add_sub_cancel, ← Nat.add_mul] at step
  exact (mul_div_mono drop _ _).trans step

/-- One liquidation takes no more off the line than the threshold of what it paid. -/
theorem line_of_liquidates {repaid : Nat} (listed : c ∈ cfg.collaterals)
    (liquidates : Liquidates cfg c user repaid (seizedFor cfg c user repaid b) b after) :
    (portfolio cfg user b).liquidationLine ≤ (portfolio cfg user after).liquidationLine +
      mulDivUp (withBonus c repaid) c.liquidationThreshold WAD := by
  have rates (other : Collateral Address) : rate cfg other after = rate cfg other b :=
    rate_congr liquidates.prices.2.1 liquidates.prices.2.2 other
  apply sum_le_add_of_one (List.Nodup.of_map _ cfg.listed_once)
  · apply line_drop
    rw [worthOf, worthOf, rates, liquidates.taken, Function.update_self]
    exact worth_of_seized cfg c user b
  · intro other member apart
    have distinct : other.token ≠ c.token := fun same =>
      apart (List.inj_on_of_nodup_map cfg.listed_once member listed same)
    rw [worthOf, worthOf, rates, liquidates.taken, Function.update_of_ne distinct]

/-! ## Bounded, and healing above the bonus line -/

/-- What a step of the price can be worth, and three stable units. -/
def priceStep (cfg : Config Address) (c : Collateral Address) (b : Brokerage Address) : Nat :=
  mulDivUp (rate cfg c b).price 1 (rate cfg c b).unit + 3

omit [DecidableEq Address] in
/-- Above the bonus line a repayment is worth its share of the line. -/
theorem health_of_drop {repaid drop debt debtAfter line lineAfter unit step : Nat}
    (covered : debt * c.liquidationThreshold * (WAD + c.liquidationBonus) ≤ line * WAD * WAD)
    (drops : line ≤ lineAfter + drop)
    (bounded : drop = mulDivUp (withBonus c repaid) c.liquidationThreshold WAD)
    (falls : debtAfter + repaid ≤ debt + unit) (some : 1 ≤ step) :
    (line : Int) * ((debtAfter : Int) - 1 - unit) ≤ ((lineAfter : Int) + step) * debt := by
  have paid : withBonus c repaid * WAD ≤ repaid * (WAD + c.liquidationBonus) := by
    rw [withBonus, Nat.add_mul, Nat.mul_add]
    exact Nat.add_le_add_left (mul_div_mul_le _ _ _) _
  have ceiling : drop * WAD < withBonus c repaid * c.liquidationThreshold + WAD := by
    rw [bounded]
    exact mul_div_up_mul_lt _ _ wad_pos
  have share : drop * debt ≤ repaid * line + debt := by
    apply Nat.le_of_mul_le_mul_right (c := WAD * WAD) _ (Nat.mul_pos wad_pos wad_pos)
    calc
      drop * debt * (WAD * WAD) = drop * WAD * (WAD * debt) := by ring
      _ ≤ (withBonus c repaid * c.liquidationThreshold + WAD) * (WAD * debt) :=
        Nat.mul_le_mul_right _ ceiling.le
      _ = withBonus c repaid * WAD * (c.liquidationThreshold * debt) + debt * (WAD * WAD) := by
        ring
      _ ≤ repaid * (WAD + c.liquidationBonus) * (c.liquidationThreshold * debt) +
          debt * (WAD * WAD) := Nat.add_le_add_right (Nat.mul_le_mul_right _ paid) _
      _ = repaid * (debt * c.liquidationThreshold * (WAD + c.liquidationBonus)) +
          debt * (WAD * WAD) := by ring
      _ ≤ repaid * (line * WAD * WAD) + debt * (WAD * WAD) :=
        Nat.add_le_add_right (Nat.mul_le_mul_left _ covered) _
      _ = (repaid * line + debt) * (WAD * WAD) := by ring
  have left : line * debt ≤ lineAfter * debt + drop * debt := by
    rw [← Nat.add_mul]
    exact Nat.mul_le_mul_right _ drops
  have right : line * debtAfter + line * repaid ≤ line * debt + line * unit := by
    rw [← Nat.mul_add, ← Nat.mul_add]
    exact Nat.mul_le_mul_left _ falls
  have steps : debt ≤ step * debt := Nat.le_mul_of_pos_left debt some
  have whole : line * debtAfter ≤ lineAfter * debt + step * debt + line * unit := by
    have commute : line * repaid = repaid * line := Nat.mul_comm _ _
    omega
  have cast : (line : Int) * debtAfter ≤ lineAfter * debt + step * debt + line * unit := by
    exact_mod_cast whole
  have none : (0 : Int) ≤ line := Int.natCast_nonneg line
  calc
    (line : Int) * ((debtAfter : Int) - 1 - unit) =
        line * debtAfter - line * unit - line := by ring
    _ ≤ lineAfter * debt + step * debt := by omega
    _ = ((lineAfter : Int) + step) * debt := by ring

/-- A liquidation seizes no more than is held and no more, at the price it read,
than the repayment and the bonus on it; above the bonus line of the token it
leaves the position no less healthy, up to a step of the price and a scaled
unit. The two conversions undo each other from below. -/
theorem liquidation_is_bounded_and_heals (cfg : Config Address) (b : Brokerage Address) :
    (∀ sender user token amount c after, get cfg token = .ok c →
      liquidate cfg sender user token amount b = .ok after →
      ∃ repaid seized worth, repaid = repaying cfg c user amount (accruePool cfg b) ∧
        after.stock.collateralOf user token + seized = b.stock.collateralOf user token ∧
        value cfg c seized c.liquidationMaxAge after = .ok worth ∧
        worth ≤ repaid + mulDiv repaid c.liquidationBonus WAD ∧
        (owed cfg b user * c.liquidationThreshold * (WAD + c.liquidationBonus) ≤
            (portfolio cfg user b).liquidationLine * WAD * WAD →
          ((portfolio cfg user b).liquidationLine : Int) *
              ((debtOf after user : Int) - 1 - debtUnit after) ≤
            ((portfolio cfg user after).liquidationLine + priceStep cfg c b) * owed cfg b user)) ∧
    ∀ c : Collateral Address, Usable c c.liquidationMaxAge b → splits c b ≠ 0 →
      (∀ sum, ∃ tokens worth, tokensFor cfg c sum b = .ok tokens ∧
        value cfg c tokens c.liquidationMaxAge b = .ok worth ∧ worth ≤ sum) ∧
      ∀ tokens, ∃ worth back, value cfg c tokens c.liquidationMaxAge b = .ok worth ∧
        tokensFor cfg c worth b = .ok back ∧ back ≤ tokens := by
  refine ⟨?_, ?_⟩
  · intro sender user token amount c after listed ran
    obtain ⟨member, own⟩ := get_ok_iff.mp listed
    have liquidates := liquidates_of_liquidate listed ran
    have drops := line_of_liquidates member liquidates
    obtain ⟨usable, taken, ⟨time, rounds, splits⟩, falls⟩ := liquidates
    have same : SamePrices user b (accruePool cfg b) :=
      ⟨accrue_pool_timestamp cfg b, rfl, rfl, rfl⟩
    have rates : rate cfg c after = rate cfg c (accruePool cfg b) := rate_congr rounds splits c
    rw [same.portfolio] at drops
    refine ⟨_, seizedFor cfg c user (repaying cfg c user amount (accruePool cfg b))
      (accruePool cfg b), _, rfl, ?_, value_ok_iff.mpr ⟨?_, rfl⟩, ?_, ?_⟩
    · rw [taken, ← own, Function.update_self]
      exact Nat.sub_add_cancel (min_le_right _ _)
    · exact fun _ => (usable_congr time rounds splits).mpr usable
    · rw [rates]
      exact (Rate.worth_mono _ (min_le_left _ _)).trans (Rate.worth_units_for_le _ _)
    · intro covered
      exact health_of_drop covered drops rfl falls (Nat.le_add_left 1 _)
  · intro c usable live
    refine ⟨?_, ?_⟩
    · intro sum
      exact ⟨_, _, tokens_for_ok_iff.mpr ⟨usable, live, rfl⟩,
        value_ok_iff.mpr ⟨fun _ => usable, rfl⟩, Rate.worth_units_for_le _ sum⟩
    · intro tokens
      exact ⟨_, _, value_ok_iff.mpr ⟨fun _ => usable, rfl⟩,
        tokens_for_ok_iff.mpr ⟨usable, live, rfl⟩, Rate.units_for_worth_le _ tokens⟩

/-- Two owes close to ten thousand when the price falls from two hundred and fifty
to a hundred and sixty. -/
def fallenRun : List (Action (Fin 12)) :=
  fundedRun 4 ++ [.stock 2 (.borrow (99 * 10 ^ 8)),
    .feeds fun feed => if feed = 9 then some (160 * 10 ^ 8, 1000) else none]

theorem capped_liquidation_heals :
    ∃ b after, (machine loans).Reachable b ∧
      liquidate loans 3 2 8 uint256Max b = .ok after ∧
      ((portfolio loans 2 b).liquidationLine : Int) *
          ((debtOf after 2 : Int) - 1 - debtUnit after) ≤
        ((portfolio loans 2 after).liquidationLine +
          priceStep loans (listing 8 9 (by decide) (by decide)) b) * owed loans b 2 := by
  obtain ⟨b, reached, checked⟩ := reachable_of_run fallenRun
    (fun b => passes (liquidate loans 3 2 8 uint256Max b) fun _ =>
      decide (owed loans b 2 * (6 * 10 ^ 17) * (WAD + 5 * 10 ^ 16) ≤
        (portfolio loans 2 b).liquidationLine * WAD * WAD))
    (by decide) (by decide +kernel)
  obtain ⟨after, ran, covered⟩ := exists_of_passes _ checked
  have listed : get loans 8 = .ok (listing 8 9 (by decide) (by decide)) := rfl
  obtain ⟨_, _, _, _, _, _, _, heals⟩ :=
    (liquidation_is_bounded_and_heals loans b).1 3 2 8 uint256Max _ after listed ran
  exact ⟨b, after, reached, ran, heals (of_decide_eq_true covered)⟩

end Stock

end Ghoststake
