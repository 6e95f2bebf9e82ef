import Ghoststake.Oracle.DemoFeed

/-!
# ChainlinkRoundOracle

The adapter between a feed and a market: it decides which readings can be
trusted, and checks that the feed round a caller names is the last one
published at or before the instant asked about.
-/

namespace Ghoststake

set_option autoImplicit false

open Checked

namespace Chainlink

structure Config (Address : Type) where
  /-- The zero address stands for no check. -/
  sequencerUptimeFeed : Address
  maxStaleness : Nat
  sequencerGracePeriod : Nat
  feedDecimals : Nat
  max_staleness_ne_zero : maxStaleness ≠ 0
  feed_decimals_le : feedDecimals ≤ 18

/-- What the two feeds answer at a block; an error is a call that reverts. -/
structure Sight (Address : Type) where
  timestamp : Nat
  latestRoundData : Outcome Address RoundData
  getRoundData : Uint80 → Outcome Address RoundData
  oraclePaused : Outcome Address Bool
  sequencer : Outcome Address RoundData

variable {Address : Type}

def scaleUp (cfg : Config Address) : Nat := 10 ^ (18 - cfg.feedDecimals)

/-! ## Wrapped reads -/

def latestRound (sight : Sight Address) : Bool × Uint80 × Int × Nat :=
  match sight.latestRoundData with
  | .ok data => (true, data.roundId, data.answer, data.updatedAt)
  | .error _ => (false, Uint80.zero, 0, 0)

def round (sight : Sight Address) (roundId : Uint80) : Bool × Int × Nat :=
  match sight.getRoundData roundId with
  | .ok data => (true, data.answer, data.updatedAt)
  | .error _ => (false, 0, 0)

def sequencerStatus (sight : Sight Address) : Bool × Int × Nat :=
  match sight.sequencer with
  | .ok data => (true, data.answer, data.startedAt)
  | .error _ => (false, 0, 0)

/-- `_feedPaused`: a feed without the function reads as unpaused. -/
def feedPaused (sight : Sight Address) : Bool :=
  match sight.oraclePaused with
  | .ok paused => paused
  | .error _ => false

/-! ## Checks -/

def answerUsableAt (cfg : Config Address) (answer : Int) (updatedAt time : Nat) : Bool :=
  if answer ≤ 0 ∨ updatedAt = 0 then false
  else if uint256Max / scaleUp cfg < answer.toNat then false
  else if time < updatedAt then false
  else time - updatedAt ≤ cfg.maxStaleness

variable [Zero Address] [DecidableEq Address]

def sequencerUpAt (cfg : Config Address) (sight : Sight Address) (time : Nat) : Bool :=
  if cfg.sequencerUptimeFeed = 0 then true
  else
    let (read, answer, startedAt) := sequencerStatus sight
    if ¬read then false
    else if answer ≠ 0 ∨ startedAt = 0 then false
    else if sight.timestamp < startedAt then false
    else if sight.timestamp - startedAt ≤ cfg.sequencerGracePeriod then false
    else startedAt ≤ time

def chainIsTrustworthyAt (cfg : Config Address) (sight : Sight Address) (time : Nat) : Bool :=
  sequencerUpAt cfg sight time && !feedPaused sight

/-! ## The two reads -/

def readLatest (cfg : Config Address) (sight : Sight Address) : Bool × Nat × Uint80 :=
  if ¬chainIsTrustworthyAt cfg sight sight.timestamp then (false, 0, Uint80.zero)
  else
    let (read, roundId, answer, updatedAt) := latestRound sight
    if ¬read ∨ ¬answerUsableAt cfg answer updatedAt sight.timestamp then (false, 0, Uint80.zero)
    else (true, answer.toNat * scaleUp cfg, roundId)

/-- The end of `readAt`: the successor has to exist and come after `time`. -/
def readBefore (cfg : Config Address) (sight : Sight Address) (successor : Option Uint80)
    (answer : Int) (time : Nat) : Bool × Nat :=
  match successor with
  | none => (false, 0)
  | some next =>
      let (readNext, _, updatedAtNext) := round sight next
      if ¬readNext ∨ updatedAtNext ≤ time then (false, 0)
      else (true, answer.toNat * scaleUp cfg)

def readAt (cfg : Config Address) (sight : Sight Address) (oracleRoundId : Uint80)
    (time : Nat) : Bool × Nat :=
  if ¬chainIsTrustworthyAt cfg sight time then (false, 0)
  else
    let (read, answer, updatedAt) := round sight oracleRoundId
    if ¬read ∨ ¬answerUsableAt cfg answer updatedAt time then (false, 0)
    else readBefore cfg sight oracleRoundId.next answer time

/-! ## When a read is answered -/

section Reads

variable {cfg : Config Address} {sight : Sight Address} {oracleRoundId : Uint80}
  {time price : Nat}

omit [Zero Address] [DecidableEq Address] in
theorem answer_usable_iff {answer : Int} {updatedAt : Nat} :
    answerUsableAt cfg answer updatedAt time = true ↔ 0 < answer ∧ updatedAt ≠ 0 ∧
      answer.toNat ≤ uint256Max / scaleUp cfg ∧ updatedAt ≤ time ∧
      time - updatedAt ≤ cfg.maxStaleness := by
  unfold answerUsableAt
  split_ifs with unusable overflowing early
  · simp only [false_iff]
    omega
  · simp only [false_iff]
    omega
  · simp only [false_iff]
    omega
  · simp only [decide_eq_true_eq]
    omega

omit [Zero Address] [DecidableEq Address] in
theorem read_before_iff {successor : Option Uint80} {answer : Int} :
    readBefore cfg sight successor answer time = (true, price) ↔
      (∃ next data, successor = some next ∧ sight.getRoundData next = .ok data ∧
        time < data.updatedAt) ∧ price = answer.toNat * scaleUp cfg := by
  cases successor with
  | none => simp [readBefore]
  | some next =>
      cases read : sight.getRoundData next with
      | error error => simp [readBefore, round, read]
      | ok data =>
          by_cases later : time < data.updatedAt
          · have notEarlier := Nat.not_le_of_lt later
            simp [readBefore, round, read, later, notEarlier, eq_comm]
          · have early := Nat.le_of_not_lt later
            simp [readBefore, round, read, later, early]

theorem read_at_iff :
    readAt cfg sight oracleRoundId time = (true, price) ↔
      chainIsTrustworthyAt cfg sight time = true ∧ ∃ data,
        sight.getRoundData oracleRoundId = .ok data ∧
        answerUsableAt cfg data.answer data.updatedAt time = true ∧
        (∃ next successor, oracleRoundId.next = some next ∧
          sight.getRoundData next = .ok successor ∧ time < successor.updatedAt) ∧
        price = data.answer.toNat * scaleUp cfg := by
  by_cases trusted : chainIsTrustworthyAt cfg sight time = true
  · cases read : sight.getRoundData oracleRoundId with
    | error error => simp [readAt, trusted, round, read]
    | ok data =>
        by_cases usable : answerUsableAt cfg data.answer data.updatedAt time = true
        · have answered : readAt cfg sight oracleRoundId time =
              readBefore cfg sight oracleRoundId.next data.answer time := by
            simp [readAt, trusted, round, read, usable]
          rw [answered, read_before_iff]
          constructor
          · rintro ⟨successor, price⟩
            exact ⟨trusted, data, rfl, usable, successor, price⟩
          · rintro ⟨_, other, same, _, successor, price⟩
            cases same
            exact ⟨successor, price⟩
        · simp [readAt, trusted, round, read, usable]
  · simp [readAt, trusted]

end Reads

end Chainlink

end Ghoststake
