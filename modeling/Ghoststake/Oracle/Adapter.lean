import Ghoststake.Oracle.Chainlink

/-!
# The adapter as it executes

The two reads once more, with the arithmetic that would revert on what a feed
can answer, in the order in which the guards stand before it. None of it ever
does, so a round can always tell "wait" from "never".
-/

namespace Ghoststake

set_option autoImplicit false

open Checked

namespace Chainlink

variable {Address : Type}

namespace Executed

def answerUsableAt (cfg : Config Address) (answer : Int) (updatedAt time : Nat) :
    Outcome Address Bool :=
  if answer ≤ 0 ∨ updatedAt = 0 then .ok false
  else do
    let largest ← Uint256.quotient uint256Max (scaleUp cfg)
    if largest < answer.toNat then .ok false
    else if time < updatedAt then .ok false
    else do
      let age ← Uint256.minus time updatedAt
      .ok (age ≤ cfg.maxStaleness)

variable [Zero Address] [DecidableEq Address]

def sequencerUpAt (cfg : Config Address) (sight : Sight Address) (time : Nat) :
    Outcome Address Bool :=
  if cfg.sequencerUptimeFeed = 0 then .ok true
  else
    let (read, answer, startedAt) := sequencerStatus sight
    if ¬read then .ok false
    else if answer ≠ 0 ∨ startedAt = 0 then .ok false
    else if sight.timestamp < startedAt then .ok false
    else do
      let up ← Uint256.minus sight.timestamp startedAt
      .ok (if up ≤ cfg.sequencerGracePeriod then false else startedAt ≤ time)

def chainIsTrustworthyAt (cfg : Config Address) (sight : Sight Address) (time : Nat) :
    Outcome Address Bool := do
  let up ← sequencerUpAt cfg sight time
  .ok (up && !feedPaused sight)

/-- The end of `readLatest`. -/
def latestPrice (cfg : Config Address) (sight : Sight Address) :
    Outcome Address (Bool × Nat × Uint80) :=
  let (read, roundId, answer, updatedAt) := latestRound sight
  if ¬read then .ok (false, 0, Uint80.zero)
  else do
    let usable ← answerUsableAt cfg answer updatedAt sight.timestamp
    if ¬usable then .ok (false, 0, Uint80.zero)
    else do
      let price ← Uint256.times answer.toNat (scaleUp cfg)
      .ok (true, price, roundId)

def readLatest (cfg : Config Address) (sight : Sight Address) :
    Outcome Address (Bool × Nat × Uint80) := do
  let trusted ← chainIsTrustworthyAt cfg sight sight.timestamp
  if ¬trusted then .ok (false, 0, Uint80.zero) else latestPrice cfg sight

/-- The end of `readAt`, once the named round is known to be usable. -/
def priceBefore (cfg : Config Address) (sight : Sight Address) (oracleRoundId : Uint80)
    (answer : Int) (time : Nat) : Outcome Address (Bool × Nat) :=
  if oracleRoundId.val = 2 ^ 80 - 1 then .ok (false, 0)
  else do
    let next ← oracleRoundId.increment
    let (readNext, _, updatedAtNext) := round sight next
    if ¬readNext ∨ updatedAtNext ≤ time then .ok (false, 0)
    else do
      let price ← Uint256.times answer.toNat (scaleUp cfg)
      .ok (true, price)

/-- `readAt` past the check of the chain. -/
def priceOf (cfg : Config Address) (sight : Sight Address) (oracleRoundId : Uint80)
    (time : Nat) : Outcome Address (Bool × Nat) :=
  let (read, answer, updatedAt) := round sight oracleRoundId
  if ¬read then .ok (false, 0)
  else do
    let usable ← answerUsableAt cfg answer updatedAt time
    if ¬usable then .ok (false, 0) else priceBefore cfg sight oracleRoundId answer time

def readAt (cfg : Config Address) (sight : Sight Address) (oracleRoundId : Uint80)
    (time : Nat) : Outcome Address (Bool × Nat) := do
  let trusted ← chainIsTrustworthyAt cfg sight time
  if ¬trusted then .ok (false, 0) else priceOf cfg sight oracleRoundId time

end Executed

/-! ## Nothing reverts -/

variable {cfg : Config Address} {sight : Sight Address} {oracleRoundId : Uint80}
  {time price : Nat} {answer : Int} {updatedAt : Nat}

theorem scale_up_pos (cfg : Config Address) : 0 < scaleUp cfg := Nat.pow_pos (by decide)

theorem scales_iff {amount : Nat} :
    amount ≤ uint256Max / scaleUp cfg ↔ amount * scaleUp cfg ≤ uint256Max :=
  Nat.le_div_iff_mul_le (scale_up_pos cfg)

theorem executed_answer_usable :
    Executed.answerUsableAt cfg answer updatedAt time =
      .ok (answerUsableAt cfg answer updatedAt time) := by
  unfold Executed.answerUsableAt answerUsableAt
  rw [Uint256.quotient_of_ne_zero (Nat.ne_of_gt (scale_up_pos cfg)), ok_bind]
  split_ifs with unusable overflowing early
  · rfl
  · rfl
  · rfl
  · rw [Uint256.minus_of_le (Nat.le_of_not_lt early), ok_bind]

theorem executed_scaling (usable : answerUsableAt cfg answer updatedAt time = true) :
    (Uint256.times answer.toNat (scaleUp cfg) : Outcome Address Nat) =
      .ok (answer.toNat * scaleUp cfg) := by
  obtain ⟨_, _, scales, _⟩ := answer_usable_iff.1 usable
  exact Uint256.times_of_le (scales_iff.1 scales)

section Reads

variable [Zero Address] [DecidableEq Address]

theorem executed_sequencer_up :
    Executed.sequencerUpAt cfg sight time = .ok (sequencerUpAt cfg sight time) := by
  unfold Executed.sequencerUpAt sequencerUpAt
  obtain ⟨read, answer, startedAt⟩ := sequencerStatus sight
  simp only
  by_cases unchecked : cfg.sequencerUptimeFeed = 0
  · rw [if_pos unchecked, if_pos unchecked]
  · by_cases unread : ¬read = true
    · simp only [if_neg unchecked, if_pos unread]
    · by_cases down : answer ≠ 0 ∨ startedAt = 0
      · simp only [if_neg unchecked, if_neg unread, if_pos down]
      · by_cases early : sight.timestamp < startedAt
        · simp only [if_neg unchecked, if_neg unread, if_neg down, if_pos early]
        · have up : (Uint256.minus sight.timestamp startedAt : Outcome Address Nat) =
              .ok (sight.timestamp - startedAt) :=
            Uint256.minus_of_le (Nat.le_of_not_lt early)
          simp only [if_neg unchecked, if_neg unread, if_neg down, if_neg early, up, ok_bind]

theorem executed_chain_is_trustworthy :
    Executed.chainIsTrustworthyAt cfg sight time = .ok (chainIsTrustworthyAt cfg sight time) := by
  unfold Executed.chainIsTrustworthyAt chainIsTrustworthyAt
  rw [executed_sequencer_up, ok_bind]

theorem executed_read_latest :
    Executed.readLatest cfg sight = .ok (readLatest cfg sight) := by
  unfold Executed.readLatest readLatest Executed.latestPrice
  rw [executed_chain_is_trustworthy, ok_bind]
  obtain ⟨read, roundId, answer, updatedAt⟩ := latestRound sight
  simp only [executed_answer_usable, ok_bind]
  by_cases trusted : chainIsTrustworthyAt cfg sight sight.timestamp = true
  · by_cases usable : answerUsableAt cfg answer updatedAt sight.timestamp = true
    · rw [executed_scaling usable]
      cases read <;> simp [trusted, usable, ok_bind]
    · cases read <;> simp [trusted, usable]
  · simp [trusted]

omit [Zero Address] [DecidableEq Address] in
theorem executed_price_before (usable : answerUsableAt cfg answer updatedAt time = true) :
    Executed.priceBefore cfg sight oracleRoundId answer time =
      .ok (readBefore cfg sight oracleRoundId.next answer time) := by
  unfold Executed.priceBefore readBefore Uint80.increment
  by_cases largest : oracleRoundId.val = 2 ^ 80 - 1
  · have none : oracleRoundId.next = none := by
      unfold Uint80.next
      apply dif_neg
      omega
    rw [if_pos largest, none]
  · have small := oracleRoundId.isLt
    have some : oracleRoundId.next = some ⟨oracleRoundId.val + 1, by omega⟩ :=
      Uint80.next_eq_some_iff.2 rfl
    rw [if_neg largest, some]
    simp only [ok_bind]
    obtain ⟨readNext, _, updatedAtNext⟩ := round sight ⟨oracleRoundId.val + 1, by omega⟩
    simp only [executed_scaling usable, ok_bind]
    split_ifs
    · rfl
    · rfl

theorem executed_read_at :
    Executed.readAt cfg sight oracleRoundId time =
      .ok (readAt cfg sight oracleRoundId time) := by
  unfold Executed.readAt readAt Executed.priceOf
  rw [executed_chain_is_trustworthy, ok_bind]
  obtain ⟨read, answer, updatedAt⟩ := round sight oracleRoundId
  simp only [executed_answer_usable, ok_bind]
  by_cases trusted : chainIsTrustworthyAt cfg sight time = true
  · by_cases usable : answerUsableAt cfg answer updatedAt time = true
    · rw [executed_price_before usable]
      cases read <;> simp [trusted, usable]
    · cases read <;> simp [trusted, usable]
  · simp [trusted]

/-! ## When a price is given, and which -/

/-- What the adapter asks of the sequencer: up now, for longer than the grace
period, and up at the instant already. -/
def SequencerUp (cfg : Config Address) (sight : Sight Address) (time : Nat) : Prop :=
  cfg.sequencerUptimeFeed = 0 ∨ ∃ data, sight.sequencer = .ok data ∧ data.answer = 0 ∧
    data.startedAt ≠ 0 ∧ data.startedAt ≤ sight.timestamp ∧
    cfg.sequencerGracePeriod < sight.timestamp - data.startedAt ∧ data.startedAt ≤ time

theorem sequencer_up_iff : sequencerUpAt cfg sight time = true ↔ SequencerUp cfg sight time := by
  unfold sequencerUpAt SequencerUp
  by_cases unchecked : cfg.sequencerUptimeFeed = 0
  · simp [unchecked]
  · rw [if_neg unchecked]
    cases told : sight.sequencer with
    | error error => simp [sequencerStatus, told, unchecked]
    | ok data =>
        simp only [sequencerStatus, told, unchecked, false_or, Except.ok.injEq,
          exists_eq_left', not_true, if_false]
        split_ifs with down early recent
        · simp only [false_iff]
          omega
        · simp only [false_iff]
          omega
        · simp only [false_iff]
          omega
        · simp only [decide_eq_true_eq]
          omega

omit [Zero Address] [DecidableEq Address] in
theorem unpaused_iff : feedPaused sight = false ↔ sight.oraclePaused ≠ .ok true := by
  unfold feedPaused
  cases told : sight.oraclePaused with
  | error error => simp
  | ok paused => simp

/-- The two reads return whatever the feeds do; a price is given exactly when
the sequencer, the pause flag, the named round and its successor allow it, and
it is the answer scaled to eighteen decimals, which fits in a word. -/
theorem adapter_reads_exactly (cfg : Config Address) (sight : Sight Address)
    (oracleRoundId : Uint80) (time : Nat) :
    (∃ latest, Executed.readLatest cfg sight = .ok latest) ∧
    (∃ answered price, Executed.readAt cfg sight oracleRoundId time = .ok (answered, price)) ∧
    ∀ price, Executed.readAt cfg sight oracleRoundId time = .ok (true, price) ↔
      SequencerUp cfg sight time ∧ sight.oraclePaused ≠ .ok true ∧
      ∃ data, sight.getRoundData oracleRoundId = .ok data ∧
        0 < data.answer ∧ data.answer.toNat * 10 ^ (18 - cfg.feedDecimals) ≤ uint256Max ∧
        data.updatedAt ≠ 0 ∧ data.updatedAt ≤ time ∧
        time - data.updatedAt ≤ cfg.maxStaleness ∧
        (∃ next successor, next.val = oracleRoundId.val + 1 ∧
          sight.getRoundData next = .ok successor ∧ time < successor.updatedAt) ∧
        price = data.answer.toNat * 10 ^ (18 - cfg.feedDecimals) := by
  refine ⟨⟨_, executed_read_latest⟩, ⟨_, _, executed_read_at⟩, ?_⟩
  intro price
  have trusted : chainIsTrustworthyAt cfg sight time = true ↔
      SequencerUp cfg sight time ∧ sight.oraclePaused ≠ .ok true := by
    unfold chainIsTrustworthyAt
    rw [Bool.and_eq_true, sequencer_up_iff, Bool.not_eq_true', unpaused_iff]
  have scaled (amount : Nat) : amount ≤ uint256Max / scaleUp cfg ↔
      amount * 10 ^ (18 - cfg.feedDecimals) ≤ uint256Max := scales_iff
  rw [executed_read_at, Except.ok.injEq, read_at_iff, trusted, and_assoc]
  simp only [answer_usable_iff, scaled, Uint80.next_eq_some_iff]
  constructor
  · intro ⟨up, unpaused, data, read, ⟨positive, live, fits, past, fresh⟩, later, same⟩
    exact ⟨up, unpaused, data, read, positive, fits, live, past, fresh, later, same⟩
  · intro ⟨up, unpaused, data, read, positive, fits, live, past, fresh, later, same⟩
    exact ⟨up, unpaused, data, read, ⟨positive, live, fits, past, fresh⟩, later, same⟩

end Reads

end Chainlink

end Ghoststake
