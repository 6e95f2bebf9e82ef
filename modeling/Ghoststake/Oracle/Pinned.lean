import Ghoststake.Market.Lifecycle
import Ghoststake.Oracle.Chainlink

/-!
# Settlement on a feed published by hand

Of all the feed rounds a caller can name at most one is answered for an
instant, it is the same one however long the feed goes on, and so a market
over the feed settles a round in one way only.
-/

namespace Ghoststake

set_option autoImplicit false

open Checked

/-- The feed beside a market, and what the adapter reads besides its rounds. -/
structure Newsstand (Address : Type) where
  feed : DemoFeed.State Address
  oraclePaused : Outcome Address Bool
  sequencer : Outcome Address RoundData

namespace Pinned

variable {Address : Type}

structure Surroundings (Address : Type) where
  timestamp : Nat
  oraclePaused : Outcome Address Bool
  sequencer : Outcome Address RoundData

def watch (feed : DemoFeed.State Address) (around : Surroundings Address) :
    Chainlink.Sight Address where
  timestamp := around.timestamp
  latestRoundData := DemoFeed.latestRoundData feed
  getRoundData := DemoFeed.getRoundData feed
  oraclePaused := around.oraclePaused
  sequencer := around.sequencer

def surroundings (x : Exchange Address (Newsstand Address)) : Surroundings Address where
  timestamp := x.timestamp
  oraclePaused := x.rest.oraclePaused
  sequencer := x.rest.sequencer

variable [Zero Address] [DecidableEq Address]

structure Setup (Address : Type) [Zero Address] [DecidableEq Address] where
  market : Market.Config Address (Newsstand Address)
  adapter : Chainlink.Config Address
  reads : market.readAt = fun x oracleRoundId time =>
    .ok (Chainlink.readAt adapter (watch x.rest.feed (surroundings x)) oracleRoundId time)

section Reads

variable {adapter : Chainlink.Config Address} {feed later : DemoFeed.State Address}
  {around : Surroundings Address} {oracleRoundId : Uint80} {time price : Nat}

/-- The one entry of a feed that answers for an instant. -/
structure Answer (adapter : Chainlink.Config Address) (feed : DemoFeed.State Address)
    (time : Nat) (oracleRoundId : Uint80) (round : DemoFeed.Round) (index : Nat) : Prop where
  position : oracleRoundId.val = index + 1
  pins : Timeline.Pins DemoFeed.Round.updatedAt (DemoFeed.history feed) time index round
  fresh : time - round.updatedAt ≤ adapter.maxStaleness
  scales : round.answer.toNat ≤ uint256Max / Chainlink.scaleUp adapter

/-- What the adapter answers is what it finds in the list of the feed. -/
theorem read_iff (sound : DemoFeed.Sound feed) :
    Chainlink.readAt adapter (watch feed around) oracleRoundId time = (true, price) ↔
      Chainlink.chainIsTrustworthyAt adapter (watch feed around) time = true ∧
      ∃ round index, Answer adapter feed time oracleRoundId round index ∧
        price = round.answer.toNat * Chainlink.scaleUp adapter := by
  rw [Chainlink.read_at_iff]
  apply and_congr_right
  intro _
  constructor
  · rintro ⟨data, read, usable, ⟨next, successor, after, readNext, later⟩, rfl⟩
    obtain ⟨index, round, position, found, rfl⟩ := sound.get_round_data_ok_iff.1 read
    obtain ⟨nextIndex, nextRound, nextPosition, nextFound, rfl⟩ :=
      sound.get_round_data_ok_iff.1 readNext
    have step := Uint80.next_eq_some_iff.1 after
    have nextIs : nextIndex = index + 1 := by omega
    subst nextIs
    obtain ⟨_, _, scales, past, fresh⟩ := Chainlink.answer_usable_iff.1 usable
    exact ⟨round, index, ⟨position, ⟨found, past, nextRound, nextFound, later⟩, fresh, scales⟩, rfl⟩
  · rintro ⟨round, index, answer, rfl⟩
    obtain ⟨successor, nextFound, future⟩ := answer.pins.next
    have bound := (List.getElem?_eq_some_iff.1 nextFound).1
    obtain ⟨next, nextPosition⟩ := sound.exists_round_id bound
    have positive := sound.positive round (List.mem_of_getElem? answer.pins.found)
    have position := answer.position
    have after : oracleRoundId.next = some next :=
      Uint80.next_eq_some_iff.2 (by omega)
    refine ⟨_, sound.get_round_data_ok_iff.2 ⟨index, round, position, answer.pins.found, rfl⟩,
      ?_, ⟨next, _, after, sound.get_round_data_ok_iff.2
        ⟨index + 1, successor, nextPosition, nextFound, rfl⟩, future⟩, rfl⟩
    exact Chainlink.answer_usable_iff.2
      ⟨positive.1, positive.2.ne', answer.scales, answer.pins.past, answer.fresh⟩

omit [Zero Address] [DecidableEq Address] in
theorem Answer.grown {round : DemoFeed.Round} {index : Nat} {more : List DemoFeed.Round}
    (answer : Answer adapter feed time oracleRoundId round index)
    (grown : DemoFeed.history later = DemoFeed.history feed ++ more) :
    Answer adapter later time oracleRoundId round index := by
  constructor
  · exact answer.position
  · rw [grown]
    exact answer.pins.append more
  · exact answer.fresh
  · exact answer.scales

omit [Zero Address] [DecidableEq Address] in
theorem Answer.unique (sound : DemoFeed.Sound feed) {otherId : Uint80}
    {round other : DemoFeed.Round} {index otherIndex : Nat}
    (left : Answer adapter feed time oracleRoundId round index)
    (right : Answer adapter feed time otherId other otherIndex) :
    otherId = oracleRoundId ∧ other = round := by
  have same := left.pins.unique sound.increasing right.pins
  subst same
  constructor
  · exact Fin.ext (right.position.trans left.position.symm)
  · exact Option.some.inj (right.pins.found.symm.trans left.pins.found)

/-- Two reads for one instant, the second perhaps of a longer feed. -/
theorem reads_agree (sound : DemoFeed.Sound feed)
    (path : (DemoFeed.machine Address).Path feed later) {laterAround : Surroundings Address}
    {laterId : Uint80} {laterPrice : Nat}
    (first : Chainlink.readAt adapter (watch feed around) oracleRoundId time = (true, price))
    (second : Chainlink.readAt adapter (watch later laterAround) laterId time =
      (true, laterPrice)) :
    laterId = oracleRoundId ∧ laterPrice = price := by
  obtain ⟨laterSound, more, grown⟩ := DemoFeed.history_of_path sound path
  obtain ⟨_, round, index, answer, rfl⟩ := (read_iff sound).1 first
  obtain ⟨_, other, otherIndex, laterAnswer, rfl⟩ := (read_iff laterSound).1 second
  obtain ⟨sameId, rfl⟩ := (answer.grown grown).unique laterSound laterAnswer
  exact ⟨sameId, rfl⟩

/-- An answer does not go away. -/
theorem read_stands (sound : DemoFeed.Sound feed)
    (path : (DemoFeed.machine Address).Path feed later)
    (first : Chainlink.readAt adapter (watch feed around) oracleRoundId time = (true, price)) :
    Chainlink.readAt adapter (watch later around) oracleRoundId time = (true, price) := by
  obtain ⟨laterSound, more, grown⟩ := DemoFeed.history_of_path sound path
  obtain ⟨trusted, round, index, answer, rfl⟩ := (read_iff sound).1 first
  exact (read_iff laterSound).2 ⟨trusted, round, index, answer.grown grown, rfl⟩

/-- With neither a sequencer feed nor a pause there is an answer as soon as
there is something to answer with. -/
theorem read_exists (sound : DemoFeed.Sound feed) (unchecked : adapter.sequencerUptimeFeed = 0)
    (unpaused : around.oraclePaused ≠ .ok true) {index : Nat} {round successor : DemoFeed.Round}
    (found : (DemoFeed.history feed)[index]? = some round) (past : round.updatedAt ≤ time)
    (last : ∀ j later, index < j → (DemoFeed.history feed)[j]? = some later →
      time < later.updatedAt)
    (fresh : time - round.updatedAt ≤ adapter.maxStaleness)
    (scales : round.answer.toNat ≤ uint256Max / Chainlink.scaleUp adapter)
    (member : successor ∈ DemoFeed.history feed) (future : time < successor.updatedAt) :
    ∃ oracleRoundId, Chainlink.readAt adapter (watch feed around) oracleRoundId time =
      (true, round.answer.toNat * Chainlink.scaleUp adapter) := by
  have trusted : Chainlink.chainIsTrustworthyAt adapter (watch feed around) time = true := by
    have unpaused : Chainlink.feedPaused (watch feed around) = false := by
      cases paused : around.oraclePaused with
      | error error => simp [Chainlink.feedPaused, watch, paused]
      | ok paused' =>
          cases paused' with
          | true => exact absurd paused unpaused
          | false => simp [Chainlink.feedPaused, watch, paused]
    simp [Chainlink.chainIsTrustworthyAt, Chainlink.sequencerUpAt, unchecked, unpaused]
  have bound := (List.getElem?_eq_some_iff.1 found).1
  obtain ⟨oracleRoundId, position⟩ := sound.exists_round_id bound
  have pins := Timeline.pins_of_last sound.increasing found past last member future
  exact ⟨oracleRoundId, (read_iff sound).2
    ⟨trusted, round, index, ⟨position, pins, fresh, scales⟩, rfl⟩⟩

end Reads

/-! ## Settlement -/

section Settlement

/-- Two settlements of one round, the second perhaps over a longer feed. -/
theorem resolves_agree {cfg : Setup Address} {x y after laterAfter : Exchange Address (Newsstand Address)}
    {roundId : Nat} {oracleRoundId laterId : Uint80} (sound : DemoFeed.Sound x.rest.feed)
    (path : (DemoFeed.machine Address).Path x.rest.feed y.rest.feed)
    (same : y.market.rounds roundId = x.market.rounds roundId)
    (first : Market.resolveRound cfg.market roundId oracleRoundId x = .ok after)
    (second : Market.resolveRound cfg.market roundId laterId y = .ok laterAfter) :
    laterAfter.market.rounds roundId = after.market.rounds roundId := by
  obtain ⟨_, price, read, rfl⟩ := Market.resolve_round_ok first
  obtain ⟨_, laterPrice, laterRead, rfl⟩ := Market.resolve_round_ok second
  rw [cfg.reads] at read laterRead
  rw [same] at laterRead
  obtain ⟨_, rfl⟩ := reads_agree sound path (Except.ok.inj read) (Except.ok.inj laterRead)
  rw [Market.settled_round, Market.settled_round, same]

variable [Fintype Address]

/-- At most one feed round answers for an instant, for good; there is one when
there is anything to answer with; and what a locked round settles to depends
neither on who settles it nor on when. -/
theorem settlement_is_unique (cfg : Setup Address) (feed : DemoFeed.State Address)
    (reached : (DemoFeed.machine Address).Reachable feed) (time : Nat) :
    (∀ around otherAround oracleRoundId otherId price otherPrice,
      Chainlink.readAt cfg.adapter (watch feed around) oracleRoundId time = (true, price) →
      Chainlink.readAt cfg.adapter (watch feed otherAround) otherId time = (true, otherPrice) →
      otherId = oracleRoundId ∧ otherPrice = price) ∧
    (∀ later, (DemoFeed.machine Address).Path feed later → ∀ around oracleRoundId price,
      Chainlink.readAt cfg.adapter (watch feed around) oracleRoundId time = (true, price) →
      Chainlink.readAt cfg.adapter (watch later around) oracleRoundId time = (true, price) ∧
      ∀ laterAround laterId laterPrice,
        Chainlink.readAt cfg.adapter (watch later laterAround) laterId time =
          (true, laterPrice) → laterId = oracleRoundId ∧ laterPrice = price) ∧
    (∀ around : Surroundings Address, cfg.adapter.sequencerUptimeFeed = 0 →
      around.oraclePaused ≠ .ok true → ∀ (index : Nat) (round : DemoFeed.Round),
      (DemoFeed.history feed)[index]? = some round → round.updatedAt ≤ time →
      (∀ (j : Nat) (later : DemoFeed.Round), index < j →
        (DemoFeed.history feed)[j]? = some later → time < later.updatedAt) →
      time - round.updatedAt ≤ cfg.adapter.maxStaleness →
      round.answer.toNat ≤ uint256Max / Chainlink.scaleUp cfg.adapter →
      (∃ successor ∈ DemoFeed.history feed, time < successor.updatedAt) →
      ∃! oracleRoundId, (Chainlink.readAt cfg.adapter (watch feed around)
        oracleRoundId time).1 = true) ∧
    (∀ x y : Exchange Address (Newsstand Address), x.rest.feed = feed →
      (DemoFeed.machine Address).Path feed y.rest.feed → ∀ roundId,
      y.market.rounds roundId = x.market.rounds roundId →
      ∀ oracleRoundId laterId after laterAfter,
      Market.resolveRound cfg.market roundId oracleRoundId x = .ok after →
      Market.resolveRound cfg.market roundId laterId y = .ok laterAfter →
      (laterAfter.market.rounds roundId).closePrice = (after.market.rounds roundId).closePrice ∧
      (laterAfter.market.rounds roundId).winner = (after.market.rounds roundId).winner ∧
      (laterAfter.market.rounds roundId).status = (after.market.rounds roundId).status) ∧
    (∀ x y : Exchange Address (Newsstand Address), (Market.machine cfg.market).Reachable x →
      (Market.machine cfg.market).Path x y → ∀ roundId,
      (x.market.rounds roundId).status = .locked → (y.market.rounds roundId).status = .locked →
      y.market.rounds roundId = x.market.rounds roundId) := by
  have sound := DemoFeed.sound_of_reachable reached
  refine ⟨?_, ?_, ?_, ?_, ?_⟩
  · intro around otherAround oracleRoundId otherId price otherPrice first second
    exact reads_agree sound (.refl feed) first second
  · intro later path around oracleRoundId price first
    refine ⟨read_stands sound path first, ?_⟩
    intro laterAround laterId laterPrice second
    exact reads_agree sound path first second
  · intro around unchecked unpaused index round found past last fresh scales successor
    obtain ⟨successor, member, future⟩ := successor
    obtain ⟨oracleRoundId, read⟩ := read_exists sound unchecked unpaused found past last fresh
      scales member future
    refine ⟨oracleRoundId, congrArg Prod.fst read, ?_⟩
    intro otherId answered
    have second : Chainlink.readAt cfg.adapter (watch feed around) otherId time =
        (true, (Chainlink.readAt cfg.adapter (watch feed around) otherId time).2) :=
      Prod.ext answered rfl
    exact (reads_agree sound (.refl feed) read second).1
  · intro x y here path roundId same oracleRoundId laterId after laterAfter first second
    subst here
    have agree := resolves_agree sound path same first second
    exact ⟨congrArg _ agree, congrArg _ agree, congrArg _ agree⟩
  · intro x y marketReached path roundId before locked
    rcases Market.locked_of_path marketReached path before with same | resolved | void
    · exact same
    · cases resolved.symm.trans locked
    · cases void.symm.trans locked

end Settlement

/-! ## A small feed -/

section Sample

def smallAdapter : Chainlink.Config (Fin 8) where
  sequencerUptimeFeed := 0
  maxStaleness := 100
  sequencerGracePeriod := 0
  feedDecimals := 8
  max_staleness_ne_zero := Figures.hundred_ne_zero
  feed_decimals_le := Figures.eight_decimals_le

def smallPricedMarket : Setup (Fin 8) where
  market :=
    { address := 7
      readAt := fun x oracleRoundId time =>
        .ok (Chainlink.readAt smallAdapter (watch x.rest.feed (surroundings x)) oracleRoundId time)
      rake := 0
      entryCutoff := ⟨10, Figures.ten_fits⟩
      lockWindow := ⟨10, Figures.ten_fits⟩
      resolveDeadline := ⟨100, Figures.hundred_fits⟩
      minSidePool := 5
      rake_le := Nat.zero_le _
      min_side_pool_ne_zero := Figures.five_ne_zero
      entry_cutoff_ne_zero := Figures.ten_ne_zero
      lock_window_ne_zero := Figures.ten_ne_zero
      resolve_deadline_ne_zero := Figures.hundred_ne_zero
      address_ne_zero := Figures.seven_ne_zero }
  adapter := smallAdapter
  reads := rfl

/-- Three pushes, the last of them stamped in the future. -/
def threePushes : List (Fin 8 × DemoFeed.Call (Fin 8)) :=
  [(6, .push 10 100), (6, .push 20 110), (6, .pushAt 120 500)]

/-- Only the second answers for the instant 30, and for good. -/
theorem second_push_answers :
    ∃ feed : DemoFeed.State (Fin 8), (DemoFeed.machine (Fin 8)).Reachable feed ∧
      ∀ later, (DemoFeed.machine (Fin 8)).Path feed later → ∀ around oracleRoundId price,
        Chainlink.readAt smallAdapter (watch later around) oracleRoundId 30 = (true, price) →
        oracleRoundId.val = 2 ∧ price = 110 * 10 ^ 10 := by
  have ran : passes (Machine.replay (fun feed action => DemoFeed.exec action.1 feed action.2)
      (DemoFeed.deployed 6) threePushes) (fun feed =>
        Chainlink.readAt smallAdapter (watch feed ⟨30, .error .external, .error .external⟩)
          ⟨2, by decide⟩ 30 = (true, 110 * 10 ^ 10)) = true := by decide +kernel
  obtain ⟨feed, replayed, checked⟩ := exists_of_passes _ ran
  have first := of_decide_eq_true checked
  have start : (DemoFeed.machine (Fin 8)).Reachable (DemoFeed.deployed 6) := .initial ⟨6, rfl⟩
  have reached : (DemoFeed.machine (Fin 8)).Reachable feed :=
    start.replay (fun _ _ _ _ taken => taken) replayed
  refine ⟨feed, reached, ?_⟩
  intro later path around oracleRoundId price answered
  obtain ⟨_, stands, _⟩ := settlement_is_unique smallPricedMarket feed reached 30
  obtain ⟨sameId, samePrice⟩ := (stands later path _ _ _ first).2 around oracleRoundId price answered
  exact ⟨congrArg Fin.val sameId, samePrice⟩

end Sample

end Pinned

end Ghoststake
