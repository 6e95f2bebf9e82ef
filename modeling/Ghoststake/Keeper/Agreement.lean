import Ghoststake.Keeper.Rules
import Ghoststake.Market.Refunds

/-!
# The three sets of rules agree

What a round needs next, said once over numbers that do not wrap; the keeper
and the console both compute it, and the market does what each of its values
promises.
-/

namespace Ghoststake

set_option autoImplicit false

open Checked

variable {Address Rest : Type} [DecidableEq Address] [Zero Address]

/-! ## What the keeper and the console read from the chain -/

def Keeper.Round.read (round : Market.Round) : Keeper.Round where
  lockTime := round.lockTime
  closeTime := round.closeTime
  status := round.status.code
  upPool := some round.upPool
  downPool := some round.downPool

def Console.Round.read (round : Market.Round) : Console.Round where
  lockTime := round.lockTime.val
  closeTime := round.closeTime.val
  status := round.status.code.val
  upPool := round.upPool
  downPool := round.downPool

def Console.Schedule.of (schedule : Keeper.Schedule) : Console.Schedule where
  openTime := schedule.openTime.val
  lockTime := schedule.lockTime.val
  closeTime := schedule.closeTime.val

namespace Market

variable {cfg : Config Address Rest} {x : Exchange Address Rest} {roundId : Nat} {now : Uint64}

omit [DecidableEq Address] in
def Config.keeperTiming (cfg : Config Address Rest) : Keeper.Timing where
  entryCutoff := cfg.entryCutoff
  lockWindow := cfg.lockWindow
  resolveDeadline := cfg.resolveDeadline
  minSidePool := some cfg.minSidePool

omit [DecidableEq Address] in
def Config.consoleTiming (cfg : Config Address Rest) : Console.Timing where
  entryCutoff := cfg.entryCutoff.val
  lockWindow := cfg.lockWindow.val
  resolveDeadline := cfg.resolveDeadline.val

def dueAction (cfg : Config Address Rest) (round : Round) (time : Nat) : Keeper.Action :=
  match round.status with
  | .open =>
      if time < round.lockTime.val then .none
      else if round.lockTime.val + cfg.lockWindow.val < time then .voidUnlocked
      else .lock
  | .locked =>
      if time < round.closeTime.val then .none
      else if round.closeTime.val + cfg.resolveDeadline.val < time then .voidUnsettled
      else .resolve
  | .none | .resolved | .void => .none

structure DeadlinesFit (cfg : Config Address Rest) (round : Round) : Prop where
  lock : round.lockTime.val + cfg.lockWindow.val < 2 ^ 64
  resolve : round.closeTime.val + cfg.resolveDeadline.val < 2 ^ 64

omit [DecidableEq Address] in
theorem sum_of_fits {a b : Uint64} (fits : a.val + b.val < 2 ^ 64) :
    (a + b).val = a.val + b.val := by
  rw [Fin.val_add, Nat.mod_eq_of_lt fits]

omit [DecidableEq Address] in
theorem keeper_computes_due {round : Round} (fits : DeadlinesFit cfg round) :
    Keeper.actionFor (.read round) cfg.keeperTiming now = dueAction cfg round now.val := by
  have lockSum := sum_of_fits fits.lock
  have resolveSum := sum_of_fits fits.resolve
  unfold Keeper.actionFor dueAction Keeper.Round.read Config.keeperTiming
  simp only [Fin.lt_def, lockSum, resolveSum]
  cases round.status <;> rfl

omit [DecidableEq Address] in
/-- An open or locked round is in none of the phases that end the question. -/
theorem phase_of_running
    (running : (x.market.rounds roundId).status = .open ∨
      (x.market.rounds roundId).status = .locked) :
    ¬(phaseOf cfg x roundId = .resolved ∨ phaseOf cfg x roundId = .void ∨
      phaseOf cfg x roundId = .none) := by
  unfold phaseOf
  rcases running with status | status
  · rw [status]
    simp only
    split_ifs <;> nofun
  · rw [status]
    nofun

omit [DecidableEq Address] in
theorem phase_of_over (entering : (x.market.rounds roundId).status ≠ .open)
    (locked : (x.market.rounds roundId).status ≠ .locked) :
    phaseOf cfg x roundId = .resolved ∨ phaseOf cfg x roundId = .void ∨
      phaseOf cfg x roundId = .none := by
  unfold phaseOf
  cases status : (x.market.rounds roundId).status with
  | none => exact .inr (.inr rfl)
  | «open» => exact absurd status entering
  | locked => exact absurd status locked
  | resolved => exact .inl rfl
  | void => exact .inr (.inl rfl)

omit [DecidableEq Address] in
theorem console_computes_due (cfg : Config Address Rest) (x : Exchange Address Rest)
    (roundId time : Nat) :
    Console.actionFor (.read (x.market.rounds roundId)) (phaseOf cfg x roundId)
      cfg.consoleTiming time = dueAction cfg (x.market.rounds roundId) time := by
  unfold Console.actionFor dueAction
  by_cases isOpen : (x.market.rounds roundId).status = .open
  · rw [if_neg (phase_of_running (.inl isOpen))]
    simp only [Console.Round.read, Config.consoleTiming, isOpen, Status.code,
      Console.statusOpen, ← Nat.cast_add, Nat.cast_lt]
    rfl
  · by_cases locked : (x.market.rounds roundId).status = .locked
    · rw [if_neg (phase_of_running (.inr locked))]
      simp only [Console.Round.read, Config.consoleTiming, locked, Status.code,
        Console.statusOpen, Console.statusLocked, ← Nat.cast_add, Nat.cast_lt]
      rfl
    · rw [if_pos (phase_of_over isOpen locked)]
      cases status : (x.market.rounds roundId).status with
      | «open» => exact absurd status isOpen
      | locked => exact absurd status locked
      | _ => rfl

/-! ## What the market does with a due action -/

variable {after : Exchange Address Rest} {sender : Address}

omit [DecidableEq Address] in
theorem due_lock_iff : dueAction cfg (x.market.rounds roundId) x.timestamp = .lock ↔
    (x.market.rounds roundId).status = .open ∧
      (x.market.rounds roundId).lockTime.val ≤ x.timestamp ∧
      x.timestamp ≤ (x.market.rounds roundId).lockTime.val + cfg.lockWindow.val := by
  unfold dueAction
  cases (x.market.rounds roundId).status with
  | «open» =>
      simp only [true_and]
      split_ifs with early late
      · simp [Nat.not_le.2 early]
      · simp [Nat.not_le.2 late]
      · simp [Nat.not_lt.1 early, Nat.not_lt.1 late]
  | locked =>
      simp only [reduceCtorEq, false_and, iff_false]
      split_ifs <;> nofun
  | _ => simp

omit [DecidableEq Address] in
theorem due_void_unlocked_iff :
    dueAction cfg (x.market.rounds roundId) x.timestamp = .voidUnlocked ↔
      (x.market.rounds roundId).status = .open ∧
        (x.market.rounds roundId).lockTime.val + cfg.lockWindow.val < x.timestamp := by
  unfold dueAction
  cases (x.market.rounds roundId).status with
  | «open» =>
      simp only [true_and]
      split_ifs with early late
      · simp only [false_iff]
        omega
      · simp [late]
      · simp [late]
  | locked =>
      simp only [reduceCtorEq, false_and, iff_false]
      split_ifs <;> nofun
  | _ => simp

omit [DecidableEq Address] in
theorem due_void_unsettled_iff :
    dueAction cfg (x.market.rounds roundId) x.timestamp = .voidUnsettled ↔
      (x.market.rounds roundId).status = .locked ∧
        (x.market.rounds roundId).closeTime.val + cfg.resolveDeadline.val < x.timestamp := by
  unfold dueAction
  cases (x.market.rounds roundId).status with
  | «open» =>
      simp only [reduceCtorEq, false_and, iff_false]
      split_ifs <;> nofun
  | locked =>
      simp only [true_and]
      split_ifs with early late
      · simp only [false_iff]
        omega
      · simp [late]
      · simp [late]
  | _ => simp

omit [DecidableEq Address] in
theorem due_resolve_iff : dueAction cfg (x.market.rounds roundId) x.timestamp = .resolve ↔
    (x.market.rounds roundId).status = .locked ∧
      (x.market.rounds roundId).closeTime.val ≤ x.timestamp ∧
      x.timestamp ≤ (x.market.rounds roundId).closeTime.val + cfg.resolveDeadline.val := by
  unfold dueAction
  cases (x.market.rounds roundId).status with
  | «open» =>
      simp only [reduceCtorEq, false_and, iff_false]
      split_ifs <;> nofun
  | locked =>
      simp only [true_and]
      split_ifs with early late
      · simp [Nat.not_le.2 early]
      · simp [Nat.not_le.2 late]
      · simp [Nat.not_lt.1 early, Nat.not_lt.1 late]
  | _ => simp

def thin (cfg : Config Address Rest) (round : Round) : Prop :=
  round.upPool < cfg.minSidePool ∨ round.downPool < cfg.minSidePool

omit [DecidableEq Address] in
instance (cfg : Config Address Rest) (round : Round) : Decidable (thin cfg round) :=
  inferInstanceAs (Decidable (_ ∨ _))

omit [DecidableEq Address] in
theorem keeper_sees_thin (cfg : Config Address Rest) (round : Round) :
    Keeper.thin (.read round) (some cfg.minSidePool) = true ↔ thin cfg round := by
  simp only [Keeper.thin, Keeper.Round.read, decide_eq_true_eq]
  rfl

omit [DecidableEq Address] in
theorem console_sees_thin (cfg : Config Address Rest) (round : Round) :
    Console.willVoidOnLock (.read round) cfg.minSidePool = true ↔ thin cfg round := by
  simp only [Console.willVoidOnLock, Console.Round.read, decide_eq_true_eq, Nat.cast_lt]
  rfl

omit [DecidableEq Address] in
/-- A lock that is due goes through, and voids the round if a side is short. -/
theorem lock_of_due
    (fits : (x.market.rounds roundId).lockTime.val + cfg.lockWindow.val < 2 ^ 64)
    (due : dueAction cfg (x.market.rounds roundId) x.timestamp = .lock) :
    ∃ after, lockRound cfg roundId x = .ok after ∧
      (thin cfg (x.market.rounds roundId) → (after.market.rounds roundId).status = .void) ∧
      (¬thin cfg (x.market.rounds roundId) →
        (after.market.rounds roundId).status = .locked) := by
  obtain ⟨status, begun, inTime⟩ := due_lock_iff.1 due
  have guards : lockRound cfg roundId x =
      if thin cfg (x.market.rounds roundId) then
        .ok (voidInternal roundId (x.market.rounds roundId) "side below floor" x)
      else lockInWindow cfg roundId x := by
    simp only [lockRound, require_status_of (by decide) status, ok_bind, require_of _ begun]
    rfl
  by_cases short : thin cfg (x.market.rounds roundId)
  · refine ⟨_, guards.trans (if_pos short), ?_, ?_⟩
    · intro _
      exact congrArg Round.status (Ledger.set_round_same ..)
    · intro full
      exact absurd short full
  · obtain ⟨deadline, summed, total⟩ := plus_of_fits Address fits
    have notLate : ¬deadline.val < x.timestamp := by
      rw [total]
      exact Nat.not_lt.2 inTime
    have locks : lockInWindow cfg roundId x =
        .ok ((x.setLedger (x.market.toLedger.setRound roundId
          { x.market.rounds roundId with status := .locked })).emit
            (.roundLocked roundId (x.market.rounds roundId).lockPrice Uint80.zero)) := by
      simp only [lockInWindow, summed, ok_bind, if_neg notLate]
    refine ⟨_, guards.trans ((if_neg short).trans locks), ?_, ?_⟩
    · intro thin
      exact absurd thin short
    · intro _
      exact congrArg Round.status (Ledger.set_round_same ..)

omit [DecidableEq Address] in
/-- A resolve that is due is in the hands of the oracle. -/
theorem resolve_of_due (due : dueAction cfg (x.market.rounds roundId) x.timestamp = .resolve)
    (id : Uint80) :
    resolveRound cfg roundId id x =
      match cfg.readAt x id (x.market.rounds roundId).closeTime.val with
      | .error error => .error error
      | .ok (false, _) => .error (.oracleUnavailable roundId)
      | .ok (true, price) => .ok (settleAt cfg roundId price x) := by
  obtain ⟨status, ended, _⟩ := due_resolve_iff.1 due
  simp only [resolveRound, require_status_of (by decide) status, ok_bind, require_of _ ended]
  cases cfg.readAt x id (x.market.rounds roundId).closeTime.val with
  | error error => rfl
  | ok answer =>
      obtain ⟨answered, price⟩ := answer
      cases answered with
      | false => rfl
      | true => rfl

inductive Moves (roundId : Nat) : Call Address → Prop
  | lock : Moves roundId (.lockRound roundId)
  | resolve (closeOracleRoundId : Uint80) :
      Moves roundId (.resolveRound roundId closeOracleRoundId)
  | voidUnsettled : Moves roundId (.voidUnsettledRound roundId)
  | voidUnlocked : Moves roundId (.voidUnlockedRound roundId)

/-- A round that moves was open past its lock or locked past its close. -/
theorem due_of_move {sinks : Sinks Address Rest} {call : Call Address}
    (moves : Moves roundId call) (ran : exec cfg sinks sender x call = .ok after) :
    dueAction cfg (x.market.rounds roundId) x.timestamp ≠ .none := by
  have late : (x.market.rounds roundId).status = .open ∧
      (x.market.rounds roundId).lockTime.val ≤ x.timestamp ∨
    (x.market.rounds roundId).status = .locked ∧
      (x.market.rounds roundId).closeTime.val ≤ x.timestamp := by
    cases moves with
    | lock =>
        simp only [exec, lockRound, bind_ok_iff, require_ok_iff, exists_const,
          require_status_ok_iff] at ran
        obtain ⟨⟨_, status⟩, begun, _⟩ := ran
        exact .inl ⟨status, begun⟩
    | resolve id =>
        simp only [exec, resolveRound, bind_ok_iff, require_ok_iff, exists_const,
          require_status_ok_iff] at ran
        obtain ⟨⟨_, status⟩, ended, _⟩ := ran
        exact .inr ⟨status, ended⟩
    | voidUnsettled =>
        simp only [exec, voidUnsettledRound, bind_ok_iff, require_ok_iff, exists_const,
          require_status_ok_iff, Uint64.plus_ok_iff] at ran
        obtain ⟨_, _, ⟨_, status⟩, deadline, summed, past, _⟩ := ran
        exact .inr ⟨status, (Nat.le_add_right _ _).trans (summed.symm.trans_le past.le)⟩
    | voidUnlocked =>
        simp only [exec, voidUnlockedRound, bind_ok_iff, require_ok_iff, exists_const,
          require_status_ok_iff, Uint64.plus_ok_iff] at ran
        obtain ⟨⟨_, status⟩, deadline, summed, past, _⟩ := ran
        exact .inl ⟨status, (Nat.le_add_right _ _).trans (summed.symm.trans_le past.le)⟩
  unfold dueAction
  rcases late with ⟨status, begun⟩ | ⟨status, ended⟩
  · rw [status]
    simp only [if_neg (Nat.not_lt.2 begun)]
    split_ifs <;> (intro same; cases same)
  · rw [status]
    simp only [if_neg (Nat.not_lt.2 ended)]
    split_ifs <;> (intro same; cases same)

/-! ## Schedules -/

def acceptable (cfg : Config Address Rest) (schedule : Keeper.Schedule) (time : Nat) : Prop :=
  time ≤ schedule.openTime.val ∧
    schedule.openTime.val + cfg.entryCutoff.val < schedule.lockTime.val ∧
    schedule.lockTime.val < schedule.closeTime.val

omit [DecidableEq Address] in
theorem keeper_accepts_iff {schedule : Keeper.Schedule}
    (fits : schedule.openTime.val + cfg.entryCutoff.val < 2 ^ 64) :
    Keeper.scheduleProblem schedule cfg.entryCutoff now = "" ↔
      acceptable cfg schedule now.val := by
  have sum := sum_of_fits fits
  unfold Keeper.scheduleProblem acceptable
  simp only [Fin.lt_def, Fin.le_def, sum]
  split_ifs with past short ended
  · simp only [String.reduceEq, false_iff]
    omega
  · simp only [String.reduceAppend, String.reduceEq, false_iff]
    omega
  · simp only [String.reduceEq, false_iff]
    omega
  · simp only [true_iff]
    omega

omit [DecidableEq Address] in
theorem console_accepts_iff (cfg : Config Address Rest) (schedule : Keeper.Schedule)
    (time : Nat) :
    Console.scheduleProblem (.of schedule) cfg.entryCutoff.val time = none ↔
      acceptable cfg schedule time := by
  unfold Console.scheduleProblem Console.Schedule.of acceptable
  simp only
  split_ifs with past short ended
  · simp only [false_iff]
    omega
  · simp only [false_iff]
    omega
  · simp only [false_iff]
    omega
  · simp only [true_iff]
    omega

theorem open_round_accepts_iff {schedule : Keeper.Schedule} {strikePrice : Nat}
    (unpaused : x.market.entriesPaused = false) (strike : strikePrice ≠ 0)
    (fits : schedule.openTime.val + cfg.entryCutoff.val < 2 ^ 64) :
    (∃ after, openRound cfg x.market.owner schedule.openTime schedule.lockTime
        schedule.closeTime strikePrice x = .ok after) ↔
      acceptable cfg schedule x.timestamp := by
  constructor
  · intro ⟨after, ran⟩
    simp only [openRound, bind_ok_iff, require_ok_iff, exists_const,
      Uint64.plus_ok_iff] at ran
    obtain ⟨_, _, _, _, early, sum, summed, window, span, _⟩ := ran
    exact ⟨early, summed ▸ window, span⟩
  · intro ⟨early, window, span⟩
    obtain ⟨sum, summed, total⟩ := plus_of_fits Address fits
    apply bind_succeeds (require_of _ rfl)
    apply bind_succeeds (require_of _ unpaused)
    apply bind_succeeds (require_of _ early)
    apply bind_succeeds summed
    apply bind_succeeds (require_of _ (total.trans_lt window))
    apply bind_succeeds (require_of _ span)
    apply bind_succeeds (require_of _ strike)
    exact ⟨_, rfl⟩

theorem split_horizon_ok {horizon window entryCutoff entryWindow observation : Uint64}
    (ran : Keeper.splitHorizon horizon window entryCutoff = .ok (entryWindow, observation)) :
    entryCutoff.val < entryWindow.val ∧ 0 < observation.val := by
  simp only [Keeper.splitHorizon] at ran
  split_ifs at ran with short long
  cases ran
  rw [not_le] at short long
  constructor
  · exact short
  · rw [Fin.sub_val_of_le long.le]
    exact Nat.sub_pos_of_lt long

omit [DecidableEq Address] in
theorem next_schedule_acceptable {lead entryWindow observation : Uint64}
    (window : cfg.entryCutoff.val < entryWindow.val) (watched : 0 < observation.val)
    (fits : now.val + lead.val + entryWindow.val + observation.val < 2 ^ 64) :
    acceptable cfg (Keeper.nextSchedule now lead entryWindow observation) now.val := by
  have opens : (now + lead).val = now.val + lead.val := sum_of_fits (by omega)
  have locks : (now + lead + entryWindow).val = now.val + lead.val + entryWindow.val := by
    rw [sum_of_fits (by omega), opens]
  have closes : (now + lead + entryWindow + observation).val =
      now.val + lead.val + entryWindow.val + observation.val := by
    rw [sum_of_fits (by omega), locks]
  unfold acceptable Keeper.nextSchedule
  simp only [opens, locks, closes]
  omega

omit [DecidableEq Address] in
/-- An open round takes no more entries from its cutoff on. -/
theorem needs_new_round_iff {round : Round} (isOpen : round.status = .open)
    (fits : now.val + cfg.entryCutoff.val < 2 ^ 64) :
    Keeper.needsNewRound (.read round) cfg.entryCutoff now = true ↔
      cutoffAt cfg round ≤ now.val := by
  have sum := sum_of_fits fits
  have coded : ¬(Keeper.Round.read round).status ≠ Keeper.statusOpen := by
    simp only [Keeper.Round.read, isOpen]
    decide
  unfold Keeper.needsNewRound cutoffAt
  rw [if_neg coded, decide_eq_true_eq, Fin.le_def, sum]
  simp only [Keeper.Round.read]
  omega

/-! ## Together -/

/-- What the three sets of rules say of one round at one instant. -/
structure RulesAgree (cfg : Config Address Rest) (x : Exchange Address Rest) (roundId : Nat)
    (now : Uint64) (due : Keeper.Action) : Prop where
  console : Console.actionFor (.read (x.market.rounds roundId)) (phaseOf cfg x roundId)
    cfg.consoleTiming now.val = due
  lock : due = .lock → ∃ after, lockRound cfg roundId x = .ok after ∧
    ((after.market.rounds roundId).status = .locked ↔
      Keeper.thin (.read (x.market.rounds roundId)) (some cfg.minSidePool) = false) ∧
    ((after.market.rounds roundId).status = .void ↔
      Keeper.thin (.read (x.market.rounds roundId)) (some cfg.minSidePool) = true)
  thin : Keeper.thin (.read (x.market.rounds roundId)) (some cfg.minSidePool) =
    Console.willVoidOnLock (.read (x.market.rounds roundId)) cfg.minSidePool
  voidUnlocked : due = .voidUnlocked ↔ ∃ after, voidUnlockedRound cfg roundId x = .ok after
  voidUnsettled : due = .voidUnsettled ↔
    ∃ after, voidUnsettledRound cfg x.market.owner roundId x = .ok after
  resolve : due = .resolve → ∀ id, resolveRound cfg roundId id x =
    match cfg.readAt x id (x.market.rounds roundId).closeTime.val with
    | .error error => .error error
    | .ok (false, _) => .error (.oracleUnavailable roundId)
    | .ok (true, price) => .ok (settleAt cfg roundId price x)
  none : due = .none → ∀ sinks sender call after, Moves roundId call →
    exec cfg sinks sender x call ≠ .ok after

theorem rules_agree_of_fits (clock : now.val = x.timestamp)
    (fits : DeadlinesFit cfg (x.market.rounds roundId)) :
    RulesAgree cfg x roundId now
      (Keeper.actionFor (.read (x.market.rounds roundId)) cfg.keeperTiming now) := by
  rw [keeper_computes_due fits]
  have thinSame : Keeper.thin (.read (x.market.rounds roundId)) (some cfg.minSidePool) =
      Console.willVoidOnLock (.read (x.market.rounds roundId)) cfg.minSidePool := by
    rw [Bool.eq_iff_iff, keeper_sees_thin, console_sees_thin]
  refine ⟨console_computes_due cfg x roundId now.val, ?_, thinSame, ?_, ?_, ?_, ?_⟩
  · intro due
    rw [clock] at due
    obtain ⟨after, ran, voids, locks⟩ := lock_of_due fits.lock due
    refine ⟨after, ran, ?_, ?_⟩
    · rw [Bool.eq_false_iff, Ne, keeper_sees_thin]
      constructor
      · intro locked short
        cases locked.symm.trans (voids short)
      · exact locks
    · rw [keeper_sees_thin]
      constructor
      · intro void
        by_contra full
        cases void.symm.trans (locks full)
      · exact voids
  · rw [clock, due_void_unlocked_iff, void_unlocked_succeeds_iff fits.lock]
  · rw [clock, due_void_unsettled_iff, void_unsettled_succeeds_iff fits.resolve]
    simp only [true_and]
  · intro due
    rw [clock] at due
    exact resolve_of_due due
  · intro due sinks sender call after moves ran
    rw [clock] at due
    exact due_of_move moves ran due

/-- The keeper, the console and the market agree on what a round needs next,
on what locking it does and on which schedules may be opened. -/
theorem round_rules_agree (cfg : Config Address Rest) (x : Exchange Address Rest) (now : Uint64)
    (clock : now.val = x.timestamp) :
    (∀ roundId, DeadlinesFit cfg (x.market.rounds roundId) →
      RulesAgree cfg x roundId now
        (Keeper.actionFor (.read (x.market.rounds roundId)) cfg.keeperTiming now)) ∧
    (∀ roundId, (x.market.rounds roundId).status = .open →
      now.val + cfg.entryCutoff.val < 2 ^ 64 →
      (Keeper.needsNewRound (.read (x.market.rounds roundId)) cfg.entryCutoff now = true ↔
        cutoffAt cfg (x.market.rounds roundId) ≤ now.val)) ∧
    ∀ strikePrice, x.market.entriesPaused = false → strikePrice ≠ 0 →
      (∀ schedule : Keeper.Schedule,
        schedule.openTime.val + cfg.entryCutoff.val < 2 ^ 64 →
        ((∃ after, openRound cfg x.market.owner schedule.openTime schedule.lockTime
            schedule.closeTime strikePrice x = .ok after) ↔
          Keeper.scheduleProblem schedule cfg.entryCutoff now = "") ∧
        ((∃ after, openRound cfg x.market.owner schedule.openTime schedule.lockTime
            schedule.closeTime strikePrice x = .ok after) ↔
          Console.scheduleProblem (.of schedule) cfg.entryCutoff.val now.val = none)) ∧
      ∀ horizon window entryWindow observation lead,
        Keeper.splitHorizon horizon window cfg.entryCutoff = .ok (entryWindow, observation) →
        now.val + lead.val + entryWindow.val + observation.val < 2 ^ 64 →
        ∃ after, openRound cfg x.market.owner
          (Keeper.nextSchedule now lead entryWindow observation).openTime
          (Keeper.nextSchedule now lead entryWindow observation).lockTime
          (Keeper.nextSchedule now lead entryWindow observation).closeTime strikePrice x =
            .ok after := by
  refine ⟨?_, ?_, ?_⟩
  · intro roundId fits
    exact rules_agree_of_fits clock fits
  · intro roundId isOpen fits
    exact needs_new_round_iff isOpen fits
  · intro strikePrice unpaused strike
    constructor
    · intro schedule fits
      rw [open_round_accepts_iff unpaused strike fits, keeper_accepts_iff fits,
        console_accepts_iff, clock]
      exact ⟨Iff.rfl, Iff.rfl⟩
    · intro horizon window entryWindow observation lead split fits
      obtain ⟨long, watched⟩ := split_horizon_ok split
      have accepted := next_schedule_acceptable long watched fits
      have opens : (Keeper.nextSchedule now lead entryWindow observation).openTime.val =
          now.val + lead.val := sum_of_fits (by omega)
      rw [clock] at accepted
      apply (open_round_accepts_iff unpaused strike _).2 accepted
      rw [opens]
      omega

/-- A round nobody entered is due for a lock, which voids it; and a horizon of
five minutes gives a schedule the market takes. -/
theorem small_market_rules_agree :
    ∃ x : Exchange (Fin 8) Unit, ∃ now : Uint64,
      Keeper.actionFor (.read (x.market.rounds 1)) smallMarket.keeperTiming now = .lock ∧
      (∃ after, lockRound smallMarket 1 x = .ok after ∧
        (after.market.rounds 1).status = .void) ∧
      ∃ after, openRound smallMarket 6 ⟨145, by decide⟩ ⟨295, by decide⟩ ⟨445, by decide⟩ 7 x =
        .ok after := by
  obtain ⟨x, _, checked⟩ := reachable_of_visits
    [.market 6 (.openRound ⟨0, by decide⟩ ⟨100, by decide⟩ ⟨200, by decide⟩ 100), .wait 100]
    (fun x => x.timestamp = 100 ∧ x.market.owner = 6 ∧ x.market.entriesPaused = false ∧
      (x.market.rounds 1).lockTime.val = 100 ∧ (x.market.rounds 1).closeTime.val = 200 ∧
      Keeper.actionFor (.read (x.market.rounds 1)) smallMarket.keeperTiming ⟨100, by decide⟩ =
        .lock ∧
      Keeper.thin (.read (x.market.rounds 1)) (some smallMarket.minSidePool) = true)
    (by decide) (by decide +kernel)
  obtain ⟨clock, owner, unpaused, locks, closes, due, thin⟩ := of_decide_eq_true checked
  have fits : DeadlinesFit smallMarket (x.market.rounds 1) := by
    constructor
    · rw [locks]
      decide
    · rw [closes]
      decide
  obtain ⟨rules, _, schedules⟩ := round_rules_agree smallMarket x ⟨100, by decide⟩ clock.symm
  obtain ⟨after, locked, _, voids⟩ := (rules 1 fits).lock due
  obtain ⟨_, accepted⟩ := schedules 7 unpaused (by decide)
  have opens := accepted ⟨300, by decide⟩ ⟨0, by decide⟩ ⟨150, by decide⟩ ⟨150, by decide⟩
    ⟨45, by decide⟩ (by decide +kernel) (by decide)
  rw [owner] at opens
  exact ⟨x, ⟨100, by decide⟩, due, ⟨after, locked, voids.2 thin⟩, opens⟩

end Market

end Ghoststake
