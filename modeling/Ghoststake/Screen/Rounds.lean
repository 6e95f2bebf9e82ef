import Ghoststake.Keeper.Agreement
import Ghoststake.Market.Traces

/-!
# What the round screen shows

The previews of the screen, over the integers it reads from the chain: whether
a stake would be taken, what a side pays, whether the lock will refund the
round, and which side the price stands on.
-/

namespace Ghoststake

set_option autoImplicit false

open Checked Rounding

/-! ## The screen -/

namespace Screen

/-- What the console reads of a round, and the two fields more that the screen does. -/
structure Round extends Console.Round where
  openTime : Int
  lockPrice : Int

/-- Which side leads, and how far the price is off the strike in basis points. -/
structure Standing where
  leading : Option Market.Side
  bps : Option Int

def entryOpen (round : Round) (entryCutoff nowSeconds : Int) : Bool :=
  if round.status ≠ Console.statusOpen then false
  else if nowSeconds < round.openTime then false
  else nowSeconds + entryCutoff < round.lockTime

def multipleFor (round : Round) (side : Market.Side) (rake : Int) : Option Int :=
  let sidePool := if side = .up then round.upPool else round.downPool
  if sidePool = 0 then none
  else
    let total := round.upPool + round.downPool
    let distributable := total - (total * rake).tdiv Ghoststake.WAD
    some ((distributable * Ghoststake.WAD).tdiv sidePool)

def willVoidOnLock (round : Round) (minSidePool : Int) : Bool :=
  Console.willVoidOnLock round.toRound minSidePool

/-- `Number(n)`: the nearest double, and of two the even one. A ratio of two prices is
far below the greatest. -/
def number (n : Int) : Int :=
  let unit := 2 ^ (n.natAbs.log2 - 52)
  let quotient := n.natAbs / unit
  let rest := n.natAbs % unit
  let rounded :=
    if 2 * rest < unit ∨ 2 * rest = unit ∧ quotient % 2 = 0 then quotient else quotient + 1
  n.sign * (rounded * unit)

def standingOf : Option Int → Option Int → Standing
  | some spot, some strike =>
      if strike = 0 ∨ spot = 0 then ⟨none, none⟩
      else
        let diff := spot - strike
        let bps := number ((diff * 10000).tdiv strike)
        ⟨some (if 0 < diff then .up else .down), some bps⟩
  | _, _ => ⟨none, none⟩

def Round.read (round : Market.Round) : Round where
  toRound := .read round
  openTime := round.openTime.val
  lockPrice := round.lockPrice

end Screen

namespace Market

variable {Address Rest : Type} [DecidableEq Address] [Zero Address]

/-! ## Every live round has a strike -/

def Ledger.Struck (ledger : Ledger Address) : Prop :=
  ∀ roundId, (ledger.rounds roundId).status ≠ .none → (ledger.rounds roundId).lockPrice ≠ 0

section Strikes

variable {ledger after : Ledger Address} {terms : Terms} {answers : Nat → Nat → Prop}
  {e next : Escrow Address}

omit [DecidableEq Address] [Zero Address] in
theorem Ledger.Struck.rewritten (struck : ledger.Struck) {roundId : Nat} {round : Round}
    (strike : round.lockPrice ≠ 0)
    (rounds : after.rounds = Function.update ledger.rounds roundId round) : after.Struck := by
  intro id live
  rw [rounds] at live ⊢
  by_cases same : id = roundId
  · subst same
    rw [Function.update_self]
    exact strike
  · rw [Function.update_of_ne same] at live ⊢
    exact struck id live

omit [DecidableEq Address] [Zero Address] in
theorem Ledger.Struck.quiet (struck : e.ledger.Struck) (turn : Quiet terms e next) :
    next.ledger.Struck := by
  cases turn with
  | gains cash more => exact struck
  | opens openTime lockTime closeTime strikePrice early window span strike =>
      apply struck.rewritten _ rfl
      exact strike

theorem Ledger.Struck.turn (struck : e.ledger.Struck) (turn : Turn terms answers e next) :
    next.ledger.Struck := by
  have live : ∀ roundId status, (e.ledger.rounds roundId).status = status → status ≠ .none →
      (e.ledger.rounds roundId).lockPrice ≠ 0 := by
    intro roundId status current running
    exact struck roundId (current ▸ running)
  cases turn with
  | quiet turn => exact struck.quiet turn
  | waits seconds => exact struck
  | enters roundId user side amount sink cash status =>
      apply struck.rewritten _ (Ledger.entered_rounds ..)
      rw [(Round.joined_schedule _ side amount).2.2.2.1]
      exact live roundId .open status (by decide)
  | locks roundId status =>
      apply struck.rewritten _ rfl
      exact live roundId .open status (by decide)
  | resolves roundId price status =>
      apply struck.rewritten _ rfl
      exact live roundId .locked status (by decide)
  | ties roundId status =>
      apply struck.rewritten _ rfl
      exact live roundId .locked status (by decide)
  | voids roundId status =>
      apply struck.rewritten _ rfl
      cases status with
      | inl entering => exact live roundId .open entering (by decide)
      | inr locked => exact live roundId .locked locked (by decide)
  | pays => exact struck
  | withdraws => exact struck

theorem Ledger.Struck.advance (struck : e.ledger.Struck) (advance : Advance terms answers e next) :
    next.ledger.Struck := by
  cases advance with
  | turn turn => exact struck.turn turn
  | claim turn rounds asides =>
      induction asides with
      | refl => exact struck.turn turn
      | tail _ quiet induction => exact induction.quiet quiet

end Strikes

section Runs

variable {cfg : Config Address Rest} {x : Exchange Address Rest}

theorem struck_of_reachable (reached : (machine cfg).Reachable x) : x.market.toLedger.Struck := by
  have both : (escrowOf cfg x).ledger.Struck ∧ Housed cfg x := by
    apply reached.invariant fun x => (escrowOf cfg x).ledger.Struck ∧ Housed cfg x
    · intro state start
      refine ⟨?_, housed_of_deployed start⟩
      obtain ⟨owner, access, guardian, _, fresh⟩ := start.fresh
      intro roundId live
      simp [escrowOf, fresh, deployed, Round.unset] at live
    · intro state action after _ before taken
      obtain ⟨advance, housed⟩ := advance_of_step before.2 taken
      exact ⟨before.1.advance advance, housed⟩
  exact both.1

end Runs

/-! ## Preview by preview -/

section Previews

variable {cfg : Config Address Rest} {x after : Exchange Address Rest} {roundId : Nat}

omit [DecidableEq Address] in
theorem entry_open_eq (cfg : Config Address Rest) (x : Exchange Address Rest) (roundId : Nat) :
    Screen.entryOpen (.read (x.market.rounds roundId)) cfg.entryCutoff.val x.timestamp =
      entryIsOpen cfg x roundId := by
  unfold Screen.entryOpen entryIsOpen cutoffAt Screen.Round.read Console.Round.read
  cases status : (x.market.rounds roundId).status with
  | «open» =>
      by_cases early : x.timestamp < (x.market.rounds roundId).openTime.val
      · have not_yet : ¬(x.market.rounds roundId).openTime.val ≤ x.timestamp := by omega
        simp [status, Status.code, Console.statusOpen, early, not_yet]
      · have begun : (x.market.rounds roundId).openTime.val ≤ x.timestamp := by omega
        have cutoff : ((x.timestamp : Int) + cfg.entryCutoff.val <
            (x.market.rounds roundId).lockTime.val) ↔
            x.timestamp < (x.market.rounds roundId).lockTime.val - cfg.entryCutoff.val := by
          omega
        simp [status, Status.code, Console.statusOpen, early, begun, cutoff]
  | _ => simp [status, Status.code, Console.statusOpen]

omit [DecidableEq Address] in
theorem multiple_for_eq (cfg : Config Address Rest) (ledger : Ledger Address) (roundId : Nat)
    {side : Side} (held : poolOf ledger roundId side ≠ 0) :
    Screen.multipleFor (.read (ledger.rounds roundId)) side cfg.rake =
      some (oddsOf cfg ledger roundId side : Int) := by
  have taken : mulDiv (totalPool ledger roundId) cfg.rake WAD ≤ totalPool ledger roundId :=
    mul_div_le_left _ (cfg.rake_le.trans (Nat.div_le_self _ _))
  have pool : (if side = .up then ((ledger.rounds roundId).upPool : Int)
      else (ledger.rounds roundId).downPool) = (poolOf ledger roundId side : Int) := by
    cases side <;> rfl
  have raked : (((ledger.rounds roundId).upPool : Int) + (ledger.rounds roundId).downPool -
      ((((ledger.rounds roundId).upPool : Int) + (ledger.rounds roundId).downPool) *
        cfg.rake).tdiv WAD) =
      ((totalPool ledger roundId - mulDiv (totalPool ledger roundId) cfg.rake WAD : Nat) : Int) := by
    rw [Nat.cast_sub taken]
    unfold mulDiv totalPool
    push_cast
    rw [Int.tdiv_eq_ediv_of_nonneg (by positivity)]
  unfold Screen.multipleFor oddsOf
  simp only [Screen.Round.read, Console.Round.read, pool, raked, Int.natCast_eq_zero, if_neg held]
  rw [Int.tdiv_eq_ediv_of_nonneg (by positivity)]
  unfold mulDiv
  push_cast
  rfl

omit [DecidableEq Address] in
theorem will_void_iff (cfg : Config Address Rest) (round : Round) :
    Screen.willVoidOnLock (.read round) cfg.minSidePool = true ↔
      round.upPool < cfg.minSidePool ∨ round.downPool < cfg.minSidePool := by
  simp [Screen.willVoidOnLock, Console.willVoidOnLock, Screen.Round.read, Console.Round.read]

omit [DecidableEq Address] in
/-- Inside its window a lock voids a round for its pools and nothing else. -/
theorem lock_round_voids_iff (entering : (x.market.rounds roundId).status = .open)
    (due : (x.market.rounds roundId).lockTime.val ≤ x.timestamp)
    (inside : x.timestamp ≤ (x.market.rounds roundId).lockTime.val + cfg.lockWindow.val) :
    (∃ after, lockRound cfg roundId x = .ok after ∧
      (after.market.rounds roundId).status = .void) ↔
    (x.market.rounds roundId).upPool < cfg.minSidePool ∨
      (x.market.rounds roundId).downPool < cfg.minSidePool := by
  have begins : (requireStatus cfg x roundId .open : Outcome Address Unit) = .ok () :=
    require_status_ok_iff.mpr ⟨by rw [entering]; decide, entering⟩
  have ripe : require ((x.market.rounds roundId).lockTime.val ≤ x.timestamp)
      (Revert.tooEarly roundId (x.market.rounds roundId).lockTime.val : Revert Address) = .ok () :=
    (require_ok_iff _ _ ()).mpr due
  have opening : lockRound cfg roundId x =
      if (x.market.rounds roundId).upPool < cfg.minSidePool ∨
          (x.market.rounds roundId).downPool < cfg.minSidePool then
        .ok (voidInternal roundId (x.market.rounds roundId) "side below floor" x)
      else lockInWindow cfg roundId x := by
    simp only [lockRound, begins, ripe, ok_bind]
  rw [opening]
  by_cases thin : (x.market.rounds roundId).upPool < cfg.minSidePool ∨
      (x.market.rounds roundId).downPool < cfg.minSidePool
  · rw [if_pos thin]
    refine ⟨fun _ => thin, fun _ => ⟨_, rfl, ?_⟩⟩
    exact congrArg Round.status (Ledger.set_round_same x.market.toLedger roundId _)
  · rw [if_neg thin]
    refine ⟨?_, fun impossible => absurd impossible thin⟩
    intro voided
    obtain ⟨after, ran, void⟩ := voided
    simp only [lockInWindow, bind_ok_iff, Except.ok.injEq] at ran
    obtain ⟨deadline, sum, locked⟩ := ran
    rw [Uint64.plus_ok_iff] at sum
    rw [if_neg (by omega)] at locked
    have status : (after.market.rounds roundId).status = .locked := by
      rw [← locked]
      exact congrArg Round.status (Ledger.set_round_same x.market.toLedger roundId _)
    rw [status] at void
    cases void

/-- The screen's leader is what the round came to: the winner, or nobody of a
round that was voided. -/
def Round.Bears (round : Round) (leading : Option Side) : Prop :=
  round.status = .resolved ∧ leading = some round.winner ∨
    round.status = .void ∧ leading = none

theorem leading_of_prices {price strike : Nat} (positive : 0 < price) (asked : strike ≠ 0) :
    (Screen.standingOf (some (price : Int)) (some (strike : Int))).leading =
      some (if strike < price then .up else .down) := by
  have given : ¬((strike : Int) = 0 ∨ (price : Int) = 0) := by omega
  have above : 0 < (price : Int) - strike ↔ strike < price := by omega
  simp only [Screen.standingOf, if_neg given, above]

omit [DecidableEq Address] in
theorem bears_iff_not_tied (struck : x.market.toLedger.Struck) {closeOracleRoundId : Uint80}
    {price : Nat} (positive : 0 < price)
    (read : cfg.readAt x closeOracleRoundId (x.market.rounds roundId).closeTime.val =
      .ok (true, price))
    (ran : resolveRound cfg roundId closeOracleRoundId x = .ok after) :
    (after.market.rounds roundId).Bears
        (Screen.standingOf (some (price : Int))
          (some (Screen.Round.read (x.market.rounds roundId)).lockPrice)).leading ↔
      price ≠ (x.market.rounds roundId).lockPrice := by
  obtain ⟨locked, other, answered, settled⟩ := resolve_round_ok ran
  have same : other = price := by
    have answers := answered.symm.trans read
    simpa using answers
  have asked : (x.market.rounds roundId).lockPrice ≠ 0 := by
    apply struck roundId
    rw [locked]
    decide
  have ended : (settleAt cfg roundId price x).market.rounds roundId = _ := settled_round price
  rw [← same, ← settled, same] at ended
  rw [show (Screen.Round.read (x.market.rounds roundId)).lockPrice =
    ((x.market.rounds roundId).lockPrice : Int) from rfl, leading_of_prices positive asked, ended]
  by_cases tie : price = (x.market.rounds roundId).lockPrice
  · rw [if_pos tie]
    simp [Round.Bears, tie]
  · rw [if_neg tie]
    simp [Round.Bears, Round.settled, tie]

end Previews

section Screens

variable {cfg : Config Address Rest} {x : Exchange Address Rest}

/-- Of the four previews three are the contract's own answers at every moment,
and the leader is what a settlement makes of the price unless the price is the
strike. -/
theorem screen_shows_the_contract_short_of_a_tie (reached : (machine cfg).Reachable x)
    (roundId : Nat) :
    Screen.entryOpen (.read (x.market.rounds roundId)) cfg.entryCutoff.val x.timestamp =
        entryIsOpen cfg x roundId ∧
      (∀ side, poolOf x.market.toLedger roundId side ≠ 0 →
        Screen.multipleFor (.read (x.market.rounds roundId)) side cfg.rake =
          some (oddsOf cfg x.market.toLedger roundId side : Int)) ∧
      ((x.market.rounds roundId).status = .open →
        (x.market.rounds roundId).lockTime.val ≤ x.timestamp →
        x.timestamp ≤ (x.market.rounds roundId).lockTime.val + cfg.lockWindow.val →
        (Screen.willVoidOnLock (.read (x.market.rounds roundId)) cfg.minSidePool = true ↔
          ∃ after, lockRound cfg roundId x = .ok after ∧
            (after.market.rounds roundId).status = .void)) ∧
      ∀ closeOracleRoundId price after, 0 < price →
        cfg.readAt x closeOracleRoundId (x.market.rounds roundId).closeTime.val =
          .ok (true, price) →
        resolveRound cfg roundId closeOracleRoundId x = .ok after →
        ((after.market.rounds roundId).Bears
            (Screen.standingOf (some (price : Int))
              (some (Screen.Round.read (x.market.rounds roundId)).lockPrice)).leading ↔
          price ≠ (x.market.rounds roundId).lockPrice) := by
  refine ⟨entry_open_eq cfg x roundId, ?_, ?_, ?_⟩
  · intro side held
    exact multiple_for_eq cfg x.market.toLedger roundId held
  · intro entering due inside
    rw [will_void_iff, lock_round_voids_iff entering due inside]
  · intro closeOracleRoundId price after positive read ran
    exact bears_iff_not_tied (struck_of_reachable reached) positive read ran

end Screens

section Sample

/-- A round over two sides, locked and past its close, whose strike is given. -/
def struckRun (strike : Nat) : List (Visit (Fin 8)) :=
  [.market 6 (.openRound ⟨0, Figures.zero_fits⟩ ⟨100, Figures.hundred_fits⟩ ⟨200, Figures.two_hundred_fits⟩ strike),
    .market 1 (.takePosition 1 .up 100), .market 2 (.takePosition 1 .down 60), .wait 100,
    .market 4 (.lockRound 1), .wait 100]

/-- A close above the strike is read the way it settles. -/
theorem screen_shows_the_contract_above_the_strike :
    ∃ x after : Exchange (Fin 8) Unit, (machine smallMarket).Reachable x ∧
      resolveRound smallMarket 1 Uint80.zero x = .ok after ∧
      (after.market.rounds 1).Bears
        (Screen.standingOf (some 150)
          (some (Screen.Round.read (x.market.rounds 1)).lockPrice)).leading := by
  obtain ⟨x, reached, checked⟩ := reachable_of_visits (struckRun 100)
    (fun x => (x.market.rounds 1).lockPrice = 100 ∧
      passes (resolveRound smallMarket 1 Uint80.zero x) (fun _ => true) = true)
    (by decide) (by decide +kernel)
  obtain ⟨strike, runs⟩ := of_decide_eq_true checked
  obtain ⟨after, ran, _⟩ := exists_of_passes _ runs
  obtain ⟨_, _, _, standing⟩ := screen_shows_the_contract_short_of_a_tie reached 1
  refine ⟨x, after, reached, ran, ?_⟩
  exact (standing Uint80.zero 150 after (by decide) rfl ran).mpr (by rw [strike]; decide)

/-- A close on the strike: everybody is refunded, and the screen says Down leads. -/
theorem tie_reads_as_down :
    ∃ x after : Exchange (Fin 8) Unit, (machine smallMarket).Reachable x ∧
      resolveRound smallMarket 1 Uint80.zero x = .ok after ∧
      (after.market.rounds 1).status = .void ∧
      (Screen.standingOf (some 150)
        (some (Screen.Round.read (x.market.rounds 1)).lockPrice)).leading = some .down := by
  obtain ⟨x, reached, checked⟩ := reachable_of_visits (struckRun 150)
    (fun x => (Screen.standingOf (some 150)
        (some (Screen.Round.read (x.market.rounds 1)).lockPrice)).leading = some .down ∧
      passes (resolveRound smallMarket 1 Uint80.zero x)
        (fun after => (after.market.rounds 1).status = .void) = true)
    (by decide) (by decide +kernel)
  obtain ⟨down, runs⟩ := of_decide_eq_true checked
  obtain ⟨after, ran, void⟩ := exists_of_passes _ runs
  exact ⟨x, after, reached, ran, of_decide_eq_true void, down⟩

end Sample

end Market

end Ghoststake
