import Ghoststake.Mirror.Model
import Ghoststake.Oracle.Adapter
import Ghoststake.Oracle.Pinned

/-!
# How faithful a mirror is

Everything on the destination was published by the source, under the same
timestamp and in the same order. But the mirror polls, so it can pass over
answers of the source, and between the two ends of such a gap the destination
keeps answering with the older one.
-/

namespace Ghoststake

set_option autoImplicit false

open Checked

namespace Mirror

variable {Address : Type} [DecidableEq Address] {pair : Pair} {signer : Address}
  {w after : World Address} {happening : Happening}

/-! ## What a push does -/

omit [DecidableEq Address] in
theorem latest_stamp {feed : DemoFeed.State Address} (sound : DemoFeed.Sound feed) :
    (feed.rounds feed.latestRoundId).updatedAt =
      ((DemoFeed.history feed).getLast?.map DemoFeed.Round.updatedAt).getD 0 := by
  have counted := sound.counted
  rw [List.getLast?_eq_getElem?]
  cases total : feed.latestRoundId.val with
  | zero =>
      have none : feed.latestRoundId = Uint80.zero := Fin.ext total
      rw [none, sound.unset]
      have empty : DemoFeed.history feed = [] := by
        apply List.eq_nil_of_length_eq_zero
        omega
      rw [empty]
      rfl
  | succ index =>
      have bound : index < (DemoFeed.history feed).length := by omega
      have last : (DemoFeed.history feed).length - 1 = index := by omega
      rw [sound.stored _ index total, last, List.getElem?_eq_getElem bound]
      rfl

theorem execute_ok {feed next : DemoFeed.State Address} {reading : Reading}
    (ran : execute signer feed reading = .ok next) :
    DemoFeed.pushInternal reading.answer reading.updatedAt feed = .ok next := by
  simp only [execute, DemoFeed.pushAt, bind_ok_iff] at ran
  obtain ⟨_, _, ran⟩ := ran
  exact ran

theorem history_of_execute {feed next : DemoFeed.State Address} {reading : Reading}
    (ran : execute signer feed reading = .ok next) :
    DemoFeed.history next = DemoFeed.history feed ++ [reading.round] ∧
      next.owner = feed.owner := by
  obtain ⟨_, _, roundId, _, rfl⟩ := DemoFeed.push_ok (execute_ok ran)
  exact ⟨DemoFeed.history_published feed roundId reading.answer reading.updatedAt, rfl⟩

/-- The owner's push of a positive answer with a new timestamp goes through,
while there are round ids left. -/
theorem execute_succeeds {feed : DemoFeed.State Address} {reading : Reading}
    (owner : feed.owner = signer) (positive : 0 < reading.answer)
    (advanced : (feed.rounds feed.latestRoundId).updatedAt < reading.updatedAt)
    (left : feed.latestRoundId.next ≠ none) :
    ∃ next, execute signer feed reading = .ok next := by
  obtain ⟨roundId, next⟩ := Option.ne_none_iff_exists'.1 left
  have numbered : DemoFeed.nextRoundId feed = .ok roundId := by
    unfold DemoFeed.nextRoundId
    rw [next]
  apply bind_succeeds (require_of _ owner.symm)
  apply bind_succeeds (require_of _ positive)
  apply bind_succeeds (require_of _ advanced)
  apply bind_succeeds numbered
  exact ⟨_, rfl⟩

/-! ## What every history keeps -/

/-- What the process and the network hold of the source, and what has reached
the destination. -/
structure Genuine (pair : Pair) (signer : Address) (w : World Address) : Prop where
  sound : DemoFeed.Sound w.feed
  owner : w.feed.owner = signer
  ordered : Timeline.Increasing DemoFeed.Round.updatedAt w.source
  typed : ∀ round ∈ w.source, 0 < round.answer ∧ round.answer < 2 ^ 255
  copied : ∀ round ∈ DemoFeed.history w.feed, round ∈ w.source
  flying : ∀ reading ∈ w.inFlight, reading.round ∈ w.source
  held : ∀ lastPushed reading, w.process = .sending lastPushed reading →
    reading.round ∈ w.source
  /-- Nothing ever leaves for a feed of another scale. -/
  scaled : pair.sourceDecimals = pair.destDecimals ∨
    w.process = .down ∧ w.inFlight = [] ∧ DemoFeed.history w.feed = []

omit [DecidableEq Address] in
theorem genuine_of_deployed (pair : Pair) (signer : Address) :
    Genuine pair signer ⟨[], DemoFeed.deployed signer, .down, []⟩ where
  sound := DemoFeed.sound_of_deployed signer
  owner := rfl
  ordered := List.Pairwise.nil
  typed := by nofun
  copied := by nofun
  flying := by nofun
  held := by nofun
  scaled := .inr ⟨rfl, rfl, rfl⟩

omit [DecidableEq Address] in
theorem Genuine.rearranged (genuine : Genuine pair signer w) {process : Process}
    {inFlight : List Reading} (same : pair.sourceDecimals = pair.destDecimals)
    (flying : ∀ reading ∈ inFlight, reading.round ∈ w.source)
    (held : ∀ lastPushed reading, process = .sending lastPushed reading →
      reading.round ∈ w.source) :
    Genuine pair signer { w with process := process, inFlight := inFlight } where
  sound := genuine.sound
  owner := genuine.owner
  ordered := genuine.ordered
  typed := genuine.typed
  copied := genuine.copied
  flying := flying
  held := held
  scaled := .inl same

theorem Genuine.pushed (genuine : Genuine pair signer w) {feed : DemoFeed.State Address}
    {reading : Reading} (same : pair.sourceDecimals = pair.destDecimals)
    (member : reading.round ∈ w.source) (ran : execute signer w.feed reading = .ok feed) :
    Genuine pair signer { w with feed := feed } := by
  obtain ⟨grown, kept⟩ := history_of_execute ran
  constructor
  · exact genuine.sound.push (execute_ok ran)
  · exact kept.trans genuine.owner
  · exact genuine.ordered
  · exact genuine.typed
  · intro round copied
    have copied : round ∈ DemoFeed.history w.feed ++ [reading.round] := grown ▸ copied
    rcases List.mem_append.1 copied with old | new
    · exact genuine.copied round old
    · rw [List.mem_singleton.1 new]
      exact member
  · exact genuine.flying
  · exact genuine.held
  · exact .inl same

omit [DecidableEq Address] in
theorem Genuine.published (genuine : Genuine pair signer w) {round : DemoFeed.Round}
    (typed : 0 < round.answer ∧ round.answer < 2 ^ 255)
    (later : ∀ last ∈ w.source, last.updatedAt < round.updatedAt) :
    Genuine pair signer { w with source := w.source ++ [round] } where
  sound := genuine.sound
  owner := genuine.owner
  ordered := genuine.ordered.append later
  typed := by
    intro other member
    rcases List.mem_append.1 member with old | new
    · exact genuine.typed other old
    · rw [List.mem_singleton.1 new]
      exact typed
  copied round copied := List.mem_append_left _ (genuine.copied round copied)
  flying reading flies := List.mem_append_left _ (genuine.flying reading flies)
  held lastPushed reading holds := List.mem_append_left _ (genuine.held lastPushed reading holds)
  scaled := genuine.scaled

omit [DecidableEq Address] in
/-- A process that runs was started on two feeds of one scale. -/
theorem Genuine.same_scale_of_running (genuine : Genuine pair signer w)
    (running : w.process ≠ .down) : pair.sourceDecimals = pair.destDecimals := by
  rcases genuine.scaled with same | ⟨down, _⟩
  · exact same
  · exact absurd down running

omit [DecidableEq Address] in
theorem Genuine.same_scale_of_flying (genuine : Genuine pair signer w) {reading : Reading}
    (flies : reading ∈ w.inFlight) : pair.sourceDecimals = pair.destDecimals := by
  rcases genuine.scaled with same | ⟨_, none, _⟩
  · exact same
  · rw [none] at flies
    cases flies

omit [DecidableEq Address] in
theorem Genuine.same_scale_of_history (genuine : Genuine pair signer w) {round : DemoFeed.Round}
    (member : round ∈ DemoFeed.history w.feed) : pair.sourceDecimals = pair.destDecimals := by
  rcases genuine.scaled with same | ⟨_, _, none⟩
  · exact same
  · rw [none] at member
    cases member

omit [DecidableEq Address] in
theorem same_scale_of_verify {feed : DemoFeed.State Address} {lastPushed : Nat}
    (ran : verifyPair pair feed = .ok lastPushed) : pair.sourceDecimals = pair.destDecimals := by
  simp only [verifyPair, bind_ok_iff, require_ok_iff, exists_const] at ran
  exact ran.1

theorem source_told_ok {source : List DemoFeed.Round} {failure : Option String}
    {round : DemoFeed.Round} (told : sourceTold source failure = .ok round) :
    source.getLast? = some round := by
  unfold sourceTold at told
  split at told
  · cases told
  · rename_i newest last
    cases told
    exact last
  · cases told

/-- What a tick would push is what the source published last. -/
theorem read_of_push {source : List DemoFeed.Round} {failure : Option String} {lastPushed : Nat}
    {reading : Reading}
    (ran : toPush (sourceTold source failure) lastPushed = .ok (some reading)) :
    reading.round ∈ source := by
  have read : readLatest (sourceTold source failure) = .ok reading := by
    simp only [toPush, bind_ok_iff] at ran
    obtain ⟨other, read, ran⟩ := ran
    split_ifs at ran
    · simp only [bind_ok_iff, require_ok_iff, exists_const, Except.ok.injEq,
        Option.some.injEq] at ran
      exact ran.2 ▸ read
    · cases ran
  simp only [readLatest, bind_ok_iff, require_ok_iff, exists_const, Except.ok.injEq] at read
  obtain ⟨round, told, _, rfl⟩ := read
  exact List.mem_of_getLast? (source_told_ok told)

theorem Genuine.settle (genuine : Genuine pair signer w) {lastPushed : Nat} {reading : Reading}
    (sending : Sending) (holds : w.process = .sending lastPushed reading) :
    Genuine pair signer (settle signer w lastPushed reading sending) := by
  have member := genuine.held lastPushed reading holds
  have same : pair.sourceDecimals = pair.destDecimals := by
    apply genuine.same_scale_of_running
    rw [holds]
    nofun
  cases sending with
  | failed => exact genuine.rearranged same genuine.flying (by nofun)
  | lost =>
      apply genuine.rearranged same _ (by nofun)
      intro other flies
      rcases List.mem_append.1 flies with old | new
      · exact genuine.flying other old
      · rw [List.mem_singleton.1 new]
        exact member
  | landed =>
      simp only [Mirror.settle]
      cases ran : execute signer w.feed reading with
      | error error => exact genuine.rearranged same genuine.flying (by nofun)
      | ok feed => exact (genuine.pushed same member ran).rearranged same genuine.flying (by nofun)

theorem Genuine.mine (genuine : Genuine pair signer w) (index : Nat) :
    Genuine pair signer (mine signer w index) := by
  unfold Mirror.mine
  cases found : w.inFlight[index]? with
  | none => exact genuine
  | some reading =>
      have flies := List.mem_of_getElem? found
      have same := genuine.same_scale_of_flying flies
      have fewer : ∀ other ∈ w.inFlight.eraseIdx index, other.round ∈ w.source := by
        intro other stays
        exact genuine.flying other (List.mem_of_mem_eraseIdx stays)
      simp only
      cases ran : execute signer w.feed reading with
      | error error => exact genuine.rearranged same fewer genuine.held
      | ok feed =>
          exact (genuine.pushed same (genuine.flying reading flies) ran).rearranged same fewer
            genuine.held

omit [DecidableEq Address] in
theorem Genuine.kill (genuine : Genuine pair signer w) (submitted : Bool) :
    Genuine pair signer (kill w submitted) := by
  unfold Mirror.kill
  split
  · rename_i lastPushed reading holds
    have same : pair.sourceDecimals = pair.destDecimals := by
      apply genuine.same_scale_of_running
      rw [holds]
      nofun
    apply genuine.rearranged same _ (by nofun)
    intro other flies
    rcases List.mem_append.1 flies with old | new
    · exact genuine.flying other old
    · rw [List.mem_singleton.1 new]
      exact genuine.held lastPushed reading holds
  · constructor
    · exact genuine.sound
    · exact genuine.owner
    · exact genuine.ordered
    · exact genuine.typed
    · exact genuine.copied
    · exact genuine.flying
    · nofun
    · rcases genuine.scaled with same | ⟨_, none, empty⟩
      · exact .inl same
      · exact .inr ⟨rfl, none, empty⟩

omit [DecidableEq Address] in
theorem Genuine.poll (genuine : Genuine pair signer w) (failure : Option String) :
    Genuine pair signer (pollOnce w failure) := by
  unfold pollOnce
  cases process : w.process with
  | down => exact genuine
  | sending lastPushed reading => exact genuine
  | idle lastPushed =>
      have same : pair.sourceDecimals = pair.destDecimals := by
        apply genuine.same_scale_of_running
        rw [process]
        nofun
      simp only
      cases pushes : toPush (sourceTold w.source failure) lastPushed with
      | error error => exact genuine
      | ok found =>
          cases found with
          | none => exact genuine
          | some reading =>
              apply genuine.rearranged same genuine.flying
              intro held other sends
              cases sends
              exact read_of_push pushes

theorem Genuine.act (genuine : Genuine pair signer w) (sane : happening.Sane w) :
    Genuine pair signer (act pair signer w happening) := by
  cases happening with
  | publish round => exact genuine.published ⟨sane.1, sane.2.1⟩ sane.2.2
  | start =>
      simp only [Mirror.act, startUp]
      cases process : w.process with
      | idle lastPushed => exact genuine
      | sending lastPushed reading => exact genuine
      | down =>
          simp only
          cases verified : verifyPair pair w.feed with
          | error error => exact genuine
          | ok lastPushed =>
              exact genuine.rearranged (same_scale_of_verify verified) genuine.flying (by nofun)
  | crash submitted => exact genuine.kill submitted
  | tick failure => exact genuine.poll failure
  | send sending =>
      simp only [Mirror.act]
      cases process : w.process with
      | down => exact genuine
      | idle lastPushed => exact genuine
      | sending lastPushed reading => exact genuine.settle sending process
  | mined index => exact genuine.mine index

theorem genuine_of_reachable (reached : (machine pair signer).Reachable w) :
    Genuine pair signer w := by
  apply reached.invariant (Genuine pair signer)
  · rintro w rfl
    exact genuine_of_deployed pair signer
  · intro w happening after _ genuine taken
    rw [← taken.2]
    exact genuine.act taken.1

/-! ## What the destination answers -/

def Readable (pair : Pair) (round : DemoFeed.Round) : Prop :=
  pair.destDecimals.val ≤ 18 ∧
    round.answer.toNat * 10 ^ (18 - pair.destDecimals.val) ≤ uint256Max

/-- Whatever an adapter over the destination answers for an instant is the
answer of the last source round published at or before it. -/
def Faithful [Zero Address] (pair : Pair) (w : World Address) : Prop :=
  ∀ (adapter : Chainlink.Config Address) (around : Pinned.Surroundings Address)
    (oracleRoundId : Uint80) (time price : Nat),
    adapter.feedDecimals = pair.destDecimals.val →
    Chainlink.readAt adapter (Pinned.watch w.feed around) oracleRoundId time = (true, price) →
    ∃ last, Timeline.Last DemoFeed.Round.updatedAt w.source time last ∧
      price = last.answer.toNat * 10 ^ (18 - pair.sourceDecimals.val)

/-- The same, of the two lists. -/
def Copies (pair : Pair) (w : World Address) : Prop :=
  Timeline.Mirrors DemoFeed.Round.updatedAt DemoFeed.Round.answer (Readable pair) w.source
    (DemoFeed.history w.feed)

section Reads

variable [Zero Address]

theorem faithful_of_copies (genuine : Genuine pair signer w) (copies : Copies pair w) :
    Faithful pair w := by
  intro adapter around oracleRoundId time price decimals answered
  obtain ⟨_, round, index, answer, rfl⟩ := (Pinned.read_iff genuine.sound).1 answered
  have member := List.mem_of_getElem? answer.pins.found
  have scale : Chainlink.scaleUp adapter = 10 ^ (18 - pair.sourceDecimals.val) := by
    rw [Chainlink.scaleUp, decimals, genuine.same_scale_of_history member]
  have readable : Readable pair round := by
    constructor
    · rw [← decimals]
      exact adapter.feed_decimals_le
    · rw [← decimals]
      exact Chainlink.scales_iff.1 answer.scales
  obtain ⟨last, ends, same⟩ := copies time index round answer.pins readable
  refine ⟨last, ends, ?_⟩
  rw [same, scale]

theorem copies_of_faithful (genuine : Genuine pair signer w) (faithful : Faithful pair w) :
    Copies pair w := by
  intro time index round pins readable
  have member := List.mem_of_getElem? pins.found
  have sameScale := genuine.same_scale_of_history member
  -- the most patient adapter, on a chain without a sequencer
  let adapter : Chainlink.Config Address :=
    { sequencerUptimeFeed := 0
      maxStaleness := time - round.updatedAt + 1
      sequencerGracePeriod := 0
      feedDecimals := pair.destDecimals.val
      max_staleness_ne_zero := Nat.succ_ne_zero _
      feed_decimals_le := readable.1 }
  let around : Pinned.Surroundings Address := ⟨time, .error .external, .error .external⟩
  have bound := (List.getElem?_eq_some_iff.1 pins.found).1
  obtain ⟨oracleRoundId, position⟩ := genuine.sound.exists_round_id bound
  have answer : Pinned.Answer adapter w.feed time oracleRoundId round index :=
    ⟨position, pins, Nat.le_succ _, Chainlink.scales_iff.2 readable.2⟩
  have trusted : Chainlink.chainIsTrustworthyAt adapter (Pinned.watch w.feed around) time =
      true := by
    simp [Chainlink.chainIsTrustworthyAt, Chainlink.sequencerUpAt, Chainlink.feedPaused,
      Pinned.watch, adapter, around]
  have answered := (Pinned.read_iff genuine.sound).2 ⟨trusted, round, index, answer, rfl⟩
  obtain ⟨last, ends, price⟩ := faithful adapter around oracleRoundId time _ rfl answered
  refine ⟨last, ends, ?_⟩
  have scale : Chainlink.scaleUp adapter = 10 ^ (18 - pair.sourceDecimals.val) := by
    rw [Chainlink.scaleUp, sameScale]
  rw [scale] at price
  have amounts := Nat.eq_of_mul_eq_mul_right (Nat.pow_pos (by decide)) price
  have positive := (genuine.typed round (genuine.copied round member)).1
  have lastPositive := (genuine.typed last ends.member).1
  omega

theorem faithful_iff_gapless (genuine : Genuine pair signer w) :
    Faithful pair w ↔ Timeline.Gapless DemoFeed.Round.updatedAt DemoFeed.Round.answer
      (Readable pair) w.source (DemoFeed.history w.feed) := by
  rw [← Timeline.mirrors_iff_gapless genuine.ordered genuine.copied]
  constructor
  · exact copies_of_faithful genuine
  · exact faithful_of_copies genuine

end Reads

/-! ## What keeps it faithful -/

/-- The reading a step has the destination's chain execute, if any. -/
def arrives (w : World Address) : Happening → Option Reading
  | .send .landed =>
      match w.process with
      | .sending _ reading => some reading
      | .down | .idle _ => none
  | .mined index => w.inFlight[index]?
  | .publish _ | .start | .crash _ | .tick _ | .send .failed | .send .lost => none

/-- A push finds on the destination the source's answer just before its own:
nothing of another answer was published between the two. -/
def KeepsUp (pair : Pair) (w : World Address) (happening : Happening) : Prop :=
  ∀ reading last, arrives w happening = some reading →
    (DemoFeed.history w.feed).getLast? = some last → w.feed.latestRoundId.next ≠ none →
    Readable pair last → ∀ between ∈ w.source, last.updatedAt < between.updatedAt →
      between.updatedAt < reading.updatedAt → between.answer = last.answer

theorem feed_of_act (pair : Pair) (signer : Address) (w : World Address)
    (happening : Happening) :
    (act pair signer w happening).feed =
      match arrives w happening with
      | none => w.feed
      | some reading => (execute signer w.feed reading).toOption.getD w.feed := by
  cases happening with
  | publish round => rfl
  | start =>
      simp only [act, startUp, arrives]
      cases w.process with
      | down => cases verifyPair pair w.feed <;> rfl
      | _ => rfl
  | crash submitted =>
      simp only [act, kill, arrives]
      split <;> rfl
  | tick failure =>
      simp only [act, pollOnce, arrives]
      split
      · split <;> rfl
      · rfl
      · rfl
  | send sending =>
      cases sending with
      | failed =>
          simp only [act, settle, arrives]
          cases w.process <;> rfl
      | lost =>
          simp only [act, settle, arrives]
          cases w.process <;> rfl
      | landed =>
          simp only [act, settle, arrives]
          cases w.process with
          | sending lastPushed reading =>
              simp only
              cases execute signer w.feed reading <;> rfl
          | _ => rfl
  | mined index =>
      simp only [act, mine, arrives]
      cases w.inFlight[index]? with
      | none => rfl
      | some reading =>
          simp only
          cases execute signer w.feed reading <;> rfl

theorem source_of_act (pair : Pair) (signer : Address) (w : World Address)
    (happening : Happening) :
    (∃ round, happening = .publish round) ∨
      (act pair signer w happening).source = w.source := by
  cases happening with
  | publish round => exact .inl ⟨round, rfl⟩
  | start =>
      right
      simp only [act, startUp]
      cases w.process with
      | down => cases verifyPair pair w.feed <;> rfl
      | _ => rfl
  | crash submitted =>
      right
      simp only [act, kill]
      split <;> rfl
  | tick failure =>
      right
      simp only [act, pollOnce]
      split
      · split <;> rfl
      · rfl
      · rfl
  | send sending =>
      right
      simp only [act]
      cases w.process with
      | sending lastPushed reading =>
          cases sending with
          | landed =>
              simp only [settle]
              cases execute signer w.feed reading <;> rfl
          | _ => rfl
      | _ => rfl
  | mined index =>
      right
      simp only [act, mine]
      cases w.inFlight[index]? with
      | none => rfl
      | some reading =>
          simp only
          cases execute signer w.feed reading <;> rfl

omit [DecidableEq Address] in
theorem genuine_of_arrival (genuine : Genuine pair signer w) {reading : Reading}
    (arrival : arrives w happening = some reading) : reading.round ∈ w.source := by
  cases happening with
  | send sending =>
      cases sending with
      | landed =>
          simp only [arrives] at arrival
          cases process : w.process with
          | sending lastPushed other =>
              rw [process] at arrival
              cases arrival
              exact genuine.held lastPushed reading process
          | _ =>
              rw [process] at arrival
              cases arrival
      | _ => cases arrival
  | mined index => exact genuine.flying reading (List.mem_of_getElem? arrival)
  | _ => cases arrival

/-- A push the destination refuses leaves no gap, and none would have come of it. -/
theorem keeps_up_of_refused (genuine : Genuine pair signer w) {reading : Reading}
    {error : Revert Address} (arrival : arrives w happening = some reading)
    (refused : execute signer w.feed reading = .error error) : KeepsUp pair w happening := by
  intro other last arrived ends left _ between _ after before
  rw [arrival] at arrived
  cases arrived
  have positive : 0 < reading.answer := (genuine.typed _ (genuine_of_arrival genuine arrival)).1
  have stamp := latest_stamp genuine.sound
  rw [ends] at stamp
  have stale : ¬(w.feed.rounds w.feed.latestRoundId).updatedAt < reading.updatedAt := by
    intro advanced
    obtain ⟨next, ran⟩ := execute_succeeds genuine.owner positive advanced left
    cases refused.symm.trans ran
  rw [stamp] at stale
  exact absurd (Nat.lt_trans after before) stale

theorem gapless_act_iff (genuine : Genuine pair signer w) (sane : happening.Sane w)
    (gapless : Timeline.Gapless DemoFeed.Round.updatedAt DemoFeed.Round.answer (Readable pair)
      w.source (DemoFeed.history w.feed)) :
    Timeline.Gapless DemoFeed.Round.updatedAt DemoFeed.Round.answer (Readable pair)
        (act pair signer w happening).source
        (DemoFeed.history (act pair signer w happening).feed) ↔
      KeepsUp pair w happening := by
  have feed := feed_of_act pair signer w happening
  rcases source_of_act pair signer w happening with ⟨round, rfl⟩ | source
  · have still : Timeline.Gapless DemoFeed.Round.updatedAt DemoFeed.Round.answer (Readable pair)
        (w.source ++ [round]) (DemoFeed.history w.feed) := by
      apply (Timeline.gapless_append_source _).2 gapless
      intro copied member
      exact sane.2.2 copied (genuine.copied copied member)
    exact iff_of_true still (by nofun)
  · rw [source, feed]
    cases arrival : arrives w happening with
    | none =>
        apply iff_of_true gapless
        intro reading last arrived
        cases arrival.symm.trans arrived
    | some reading =>
        simp only
        cases ran : execute signer w.feed reading with
        | error error => exact iff_of_true gapless (keeps_up_of_refused genuine arrival ran)
        | ok next =>
            obtain ⟨_, _, roundId, numbered, _⟩ := DemoFeed.push_ok (execute_ok ran)
            have left : w.feed.latestRoundId.next ≠ none := by
              rw [Uint80.next_eq_some_iff.2 numbered]
              nofun
            have grown : DemoFeed.history ((Except.ok next : Outcome Address _).toOption.getD
                w.feed) = DemoFeed.history w.feed ++ [reading.round] :=
              (history_of_execute ran).1
            rw [grown, Timeline.gapless_append_copy]
            constructor
            · intro ⟨_, atEnd⟩ other last arrived ends _ readable
              cases arrival.symm.trans arrived
              exact atEnd last ends readable
            · intro keepsUp
              refine ⟨gapless, ?_⟩
              intro last ends readable
              exact keepsUp reading last arrival ends left readable

section Runs

variable [Zero Address]

theorem faithful_step_iff (reached : (machine pair signer).Reachable w)
    (faithful : Faithful pair w) (taken : (machine pair signer).step w happening after) :
    Faithful pair after ↔ KeepsUp pair w happening := by
  have genuine := genuine_of_reachable reached
  have gapless := (faithful_iff_gapless genuine).1 faithful
  obtain ⟨sane, rfl⟩ := taken
  rw [faithful_iff_gapless (genuine.act sane)]
  exact gapless_act_iff genuine sane gapless

theorem faithful_of_deployed (pair : Pair) (signer : Address) :
    Faithful pair ⟨[], DemoFeed.deployed signer, .down, []⟩ := by
  apply (faithful_iff_gapless (genuine_of_deployed pair signer)).2
  intro i round successor found
  cases found

/-- The destination only ever carries what the source published, in order. It
answers for the source at every instant as long as no push passes over another
answer, and no longer. -/
theorem mirror_faithful_while_it_keeps_up (pair : Pair) (signer : Address) :
    (∀ w, (machine pair signer).Reachable w →
      Timeline.Increasing DemoFeed.Round.updatedAt (DemoFeed.history w.feed) ∧
        ∀ round ∈ DemoFeed.history w.feed, round ∈ w.source) ∧
    (∀ w, ((machine pair signer).restrict (KeepsUp pair)).Reachable w → Faithful pair w) ∧
    ∀ w happening after, (machine pair signer).Reachable w → Faithful pair w →
      (machine pair signer).step w happening after →
        (Faithful pair after ↔ KeepsUp pair w happening) := by
  refine ⟨?_, ?_, ?_⟩
  · intro w reached
    have genuine := genuine_of_reachable reached
    exact ⟨genuine.sound.increasing, genuine.copied⟩
  · intro w reached
    apply reached.invariant (Faithful pair)
    · rintro w rfl
      exact faithful_of_deployed pair signer
    · intro w happening after before faithful taken
      exact (faithful_step_iff before.of_restrict faithful taken.1).2 taken.2
  · intro w happening after reached faithful taken
    exact faithful_step_iff reached faithful taken

end Runs

/-! ## Three answers of a source -/

section Sample

instance (w : World Address) (happening : Happening) : Decidable (happening.Sane w) :=
  match happening with
  | .publish _ => inferInstanceAs (Decidable (_ ∧ _))
  | .start | .crash _ | .tick _ | .send _ | .mined _ => isTrue trivial

/-- Enough for `KeepsUp`, of the one reading that arrives. -/
def keepsUp (w : World Address) (happening : Happening) : Bool :=
  match arrives w happening, (DemoFeed.history w.feed).getLast? with
  | some reading, some last => w.source.all fun between =>
      ¬(last.updatedAt < between.updatedAt ∧ between.updatedAt < reading.updatedAt) ∨
        between.answer = last.answer
  | _, _ => true

omit [DecidableEq Address] in
theorem keeps_up_of (checked : keepsUp w happening = true) : KeepsUp pair w happening := by
  intro reading last arrival ends _ _ between member after before
  rw [keepsUp, arrival, ends, List.all_eq_true] at checked
  have same := checked between member
  simp only [decide_eq_true_eq] at same
  exact same.resolve_left (not_not.2 ⟨after, before⟩)

def samplePair : Pair where
  source := "0x01"
  dest := "0x02"
  sourceDecimals := 8
  destDecimals := 8
  destDescription := "GHOSTSTAKE DEMO FEED (operator-set price) - RHTSLA"

def sampleAdapter : Chainlink.Config (Fin 4) where
  sequencerUptimeFeed := 0
  maxStaleness := 1000
  sequencerGracePeriod := 0
  feedDecimals := 8
  max_staleness_ne_zero := by decide
  feed_decimals_le := Figures.eight_decimals_le

def sampleSurroundings : Pinned.Surroundings (Fin 4) := ⟨40, .error .external, .error .external⟩

def sampleStart : World (Fin 4) := ⟨[], DemoFeed.deployed 1, .down, []⟩

def attempt (allowed : World (Fin 4) → Happening → Bool) (w : World (Fin 4))
    (happening : Happening) : Except Unit (World (Fin 4)) :=
  Machine.guarded (fun w happening => happening.Sane w ∧ allowed w happening = true) ()
    (fun w happening => .ok (act samplePair 1 w happening)) w happening

theorem attempt_ok {allowed : World (Fin 4) → Happening → Bool} {w after : World (Fin 4)}
    {happening : Happening} (ran : attempt allowed w happening = .ok after) :
    (machine samplePair (1 : Fin 4)).step w happening after ∧ allowed w happening = true := by
  obtain ⟨taken, sane, allows⟩ := Machine.guarded_ok ran
  exact ⟨⟨sane, Except.ok.inj taken⟩, allows⟩

/-- One poll for each answer, the second push lost and mined later. -/
def promptRun : List Happening :=
  [.publish ⟨100, 10⟩, .start, .tick none, .send .landed, .publish ⟨200, 20⟩, .tick none,
    .send .lost, .mined 0, .publish ⟨300, 30⟩, .crash false, .start, .tick none, .send .landed]

def slowRun : List Happening :=
  [.publish ⟨100, 10⟩, .start, .tick none, .send .landed, .publish ⟨200, 20⟩,
    .publish ⟨300, 30⟩, .tick none, .send .landed]

theorem prompt_mirror_is_faithful :
    ∃ w : World (Fin 4), Faithful samplePair w ∧
      Chainlink.readAt sampleAdapter (Pinned.watch w.feed sampleSurroundings) ⟨2, by decide⟩ 25 =
        (true, 200 * 10 ^ 10) := by
  have ran : passes (Machine.replay (attempt keepsUp) sampleStart promptRun)
      (fun w => Chainlink.readAt sampleAdapter (Pinned.watch w.feed sampleSurroundings)
        ⟨2, by decide⟩ 25 = (true, 200 * 10 ^ 10)) = true := by
    decide +kernel
  obtain ⟨w, replayed, checked⟩ := exists_of_passes _ ran
  have start : ((machine samplePair (1 : Fin 4)).restrict (KeepsUp samplePair)).Reachable
      sampleStart := .initial rfl
  have reached : ((machine samplePair (1 : Fin 4)).restrict (KeepsUp samplePair)).Reachable w := by
    apply start.replay _ replayed
    intro happening _ before after taken
    obtain ⟨step, allows⟩ := attempt_ok taken
    exact ⟨step, keeps_up_of allows⟩
  obtain ⟨_, faithful, _⟩ := mirror_faithful_while_it_keeps_up samplePair (1 : Fin 4)
  exact ⟨w, faithful w reached, of_decide_eq_true checked⟩

/-- At 25 the source's last answer is 200, and the destination settles on 100. -/
theorem slow_mirror_answers_what_is_past :
    ∃ w : World (Fin 4), (machine samplePair (1 : Fin 4)).Reachable w ∧
      Timeline.Last DemoFeed.Round.updatedAt w.source 25 ⟨200, 20⟩ ∧
      Chainlink.readAt sampleAdapter (Pinned.watch w.feed sampleSurroundings) ⟨1, by decide⟩ 25 =
        (true, 100 * 10 ^ 10) := by
  have ran : passes (Machine.replay (attempt fun _ _ => true) sampleStart slowRun)
      (fun w => w.source = [⟨100, 10⟩, ⟨200, 20⟩, ⟨300, 30⟩] ∧
        Chainlink.readAt sampleAdapter (Pinned.watch w.feed sampleSurroundings)
          ⟨1, by decide⟩ 25 = (true, 100 * 10 ^ 10)) = true := by
    decide +kernel
  obtain ⟨w, replayed, checked⟩ := exists_of_passes _ ran
  have start : (machine samplePair (1 : Fin 4)).Reachable sampleStart := .initial rfl
  have reached : (machine samplePair (1 : Fin 4)).Reachable w := by
    apply start.replay _ replayed
    intro happening _ before after taken
    exact (attempt_ok taken).1
  obtain ⟨published, answered⟩ := of_decide_eq_true checked
  refine ⟨w, reached, ?_, answered⟩
  rw [published]
  constructor
  · simp
  · decide
  · intro other member before
    simp only [List.mem_cons, List.not_mem_nil, or_false] at member
    rcases member with rfl | rfl | rfl
    · decide
    · decide
    · exact absurd before (by decide)

end Sample

end Mirror

end Ghoststake
