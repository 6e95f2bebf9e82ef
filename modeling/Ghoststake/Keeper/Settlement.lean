import Ghoststake.Keeper.FeedSearch
import Ghoststake.Keeper.Rules
import Ghoststake.Library.Machine
import Ghoststake.Oracle.Chainlink

/-!
# How the keeper settles a locked round

One poll of a round past its close: find the feed round to name, ask the
adapter about it, and refund once the deadline has passed with none. What a
search found is remembered as long as the feed's latest id stays.
-/

namespace Ghoststake

set_option autoImplicit false

open Checked

namespace Keeper

variable {Address : Type}

structure View (Address : Type) where
  event : Bool
  latestFeedRound : Except Failure (Option Nat × Option FeedRound)
  readFeedRound : RoundReader
  /-- A dry run of the adapter's `readAt`. -/
  settlementReadable : Nat → Nat → Except Failure Bool
  owner : Except Failure Address

structure SearchResult where
  head : Nat
  candidate : Option Nat

inductive Sent where
  | resolveRound (closeOracleRoundId : Nat)
  | voidUnsettledRound
  deriving DecidableEq

/-- The id to name, unless the adapter refuses it. -/
def dryRun (view : View Address) (closeTime : Nat) (candidate : Option Nat) :
    Except Failure (Option Nat) :=
  match candidate with
  | none => .ok none
  | some id => do
      let readable ← wrap "dry-run readAt" (view.settlementReadable id closeTime)
      .ok (if readable then some id else none)

/-- A search already made with this head is not made again. -/
def candidateFor (view : View Address) (memo : Option SearchResult) (closeTime head : Nat)
    (latest : Option FeedRound) : Except Failure (Option Nat) :=
  match memo with
  | some memo =>
      if memo.head = head then .ok memo.candidate
      else findCloseRoundFrom view.readFeedRound (some head) latest closeTime
  | none => findCloseRoundFrom view.readFeedRound (some head) latest closeTime

/-- The part of `findSettlementRound` behind its cheap rejection. -/
def findCandidate (view : View Address) (memo : Option SearchResult) (closeTime head : Nat)
    (latest : Option FeedRound) : Except Failure (Option Nat) × Option SearchResult :=
  match candidateFor view memo closeTime head latest with
  | .error error => (.error error, memo)
  | .ok candidate => (dryRun view closeTime candidate, some ⟨head, candidate⟩)

/-- `findSettlementRound`, with the entry of `searched` for the round. -/
def findSettlementRound (view : View Address) (memo : Option SearchResult) (closeTime : Nat) :
    Except Failure (Option Nat) × Option SearchResult :=
  if view.event then (dryRun view closeTime (some 0), memo)
  else
    match wrap "read latest feed round" view.latestFeedRound with
    | .error error => (.error error, memo)
    | .ok (none, _) => (.ok none, memo)
    | .ok (some head, latest) =>
        if early latest closeTime then (.ok none, memo)
        else findCandidate view memo closeTime head latest

/-- The refund, which only the owner can make. -/
def refund [DecidableEq Address] (signer : Address) (view : View Address) (action : Action) :
    Except Failure (Option Sent) :=
  if action ≠ .voidUnsettled then .ok none
  else do
    let owner ← view.owner
    .ok (if owner ≠ signer then none else some .voidUnsettledRound)

def sentFor [DecidableEq Address] (signer : Address) (view : View Address) (action : Action)
    (found : Except Failure (Option Nat)) : Except Failure (Option Sent) := do
  match ← found with
  | some feedRoundId => .ok (some (.resolveRound feedRoundId))
  | none => refund signer view action

/-- `settle`, up to the transaction it sends. -/
def settle [DecidableEq Address] (signer : Address) (view : View Address)
    (memo : Option SearchResult) (closeTime : Nat) (action : Action) :
    Except Failure (Option Sent) × Option SearchResult :=
  let found := findSettlementRound view memo closeTime
  (sentFor signer view action found.1, found.2)

/-! ## Polls of one round over a growing feed -/

/-- The feed behind an adapter: a reverting id and one without a timestamp
both hold no data. -/
def feedOf (sight : Chainlink.Sight Address) : Feed := fun id =>
  if small : id < 2 ^ 80 then
    match sight.getRoundData ⟨id, small⟩ with
    | .ok data => if data.updatedAt = 0 then none else some ⟨data.updatedAt⟩
    | .error _ => none
  else none

section Adapter

variable [Zero Address] [DecidableEq Address]

/-- The feed round settles the round and the adapter accepts it. -/
def Accepts (cfg : Chainlink.Config Address) (sight : Chainlink.Sight Address)
    (closeTime id : Nat) : Prop :=
  ∃ small : id < 2 ^ 80, ∃ price, Chainlink.readAt cfg sight ⟨id, small⟩ closeTime = (true, price)

/-- Whatever a call of the poll answers is so on the chain; the latest id is
the last that holds data. -/
structure Truthful (cfg : Chainlink.Config Address) (closeTime : Nat)
    (sight : Chainlink.Sight Address) (view : View Address) : Prop where
  event : view.event = false
  nothing : ∀ latest, view.latestFeedRound = .ok (none, latest) → ∀ id, feedOf sight id = none
  latest : ∀ head latest, view.latestFeedRound = .ok (some head, latest) →
    latest = feedOf sight head ∧ latest ≠ none ∧ ∀ later, head < later → feedOf sight later = none
  read : ∀ id round, view.readFeedRound id = .ok round → round = feedOf sight id
  readable : ∀ id accepted, view.settlementReadable id closeTime = .ok accepted →
    (accepted = true ↔ Accepts cfg sight closeTime id)

structure Answered (view : View Address) : Prop where
  latest : ∃ answer, view.latestFeedRound = .ok answer
  read : ∀ id, ∃ round, view.readFeedRound id = .ok round
  readable : ∀ id time, ∃ accepted, view.settlementReadable id time = .ok accepted
  owner : ∃ owner, view.owner = .ok owner

end Adapter

structure Watch (Address : Type) where
  sight : Chainlink.Sight Address
  memo : Option SearchResult

/-- Publications come after what has been published. -/
def Grows (sight later : Chainlink.Sight Address) : Prop :=
  ∀ id last, id ≤ last → feedOf sight last ≠ none → feedOf later id = feedOf sight id

inductive Turn (Address : Type) where
  | chain (later : Chainlink.Sight Address)
  | poll (view : View Address) (action : Action)
  | forget

/-- A round with a given close time from when it is first polled. -/
def watching [Zero Address] [DecidableEq Address] (cfg : Chainlink.Config Address)
    (signer : Address) (closeTime : Nat) : Machine (Watch Address) (Turn Address) where
  initial watch := watch.memo = none ∧ Feed.Ordered (feedOf watch.sight)
  step watch turn after :=
    match turn with
    | .chain later => Grows watch.sight later ∧ Feed.Ordered (feedOf later) ∧
        after = { watch with sight := later }
    | .poll view action => Truthful cfg closeTime watch.sight view ∧
        after = { watch with memo := (settle signer view watch.memo closeTime action).2 }
    | .forget => after = { watch with memo := none }

/-! ## What a poll finds -/

section Polls

variable [Zero Address] [DecidableEq Address] {cfg : Chainlink.Config Address}
  {closeTime : Nat} {sight later : Chainlink.Sight Address} {view : View Address}
  {memo : Option SearchResult}

/-- What is remembered is what a search of the feed would find now. -/
def Remembers (sight : Chainlink.Sight Address) (closeTime : Nat) (memo : Option SearchResult) :
    Prop :=
  ∀ entry, memo = some entry → feedOf sight entry.head ≠ none ∧
    entry.candidate = Feed.closeRound (feedOf sight) entry.head closeTime

omit [Zero Address] [DecidableEq Address] in
theorem feed_of_data {id : Uint80} {data : RoundData}
    (read : sight.getRoundData id = .ok data) (stamped : data.updatedAt ≠ 0) :
    feedOf sight id.val = some ⟨data.updatedAt⟩ := by
  unfold feedOf
  rw [dif_pos id.isLt]
  simp [read, stamped]

/-- What the adapter accepts brackets the close. -/
theorem brackets_of_accepts {id : Nat} (accepted : Accepts cfg sight closeTime id) :
    Feed.Brackets (feedOf sight) closeTime id := by
  obtain ⟨small, price, answered⟩ := accepted
  rw [Chainlink.read_at_iff] at answered
  obtain ⟨_, data, read, usable, ⟨next, successor, following, read_next, after⟩, _⟩ := answered
  rw [Chainlink.answer_usable_iff] at usable
  obtain ⟨_, stamped, _, before, _⟩ := usable
  rw [Uint80.next_eq_some_iff] at following
  have held := feed_of_data read stamped
  have held_next := feed_of_data read_next (by omega)
  rw [following] at held_next
  exact ⟨⟨_, held, before⟩, _, held_next, after⟩

theorem candidate_found (truthful : Truthful cfg closeTime sight view)
    (remembers : Remembers sight closeTime memo) {head : Nat} {latest : Option FeedRound}
    {candidate : Option Nat} (told : view.latestFeedRound = .ok (some head, latest))
    (ran : candidateFor view memo closeTime head latest = .ok candidate) :
    candidate = Feed.closeRound (feedOf sight) head closeTime := by
  have searched : findCloseRoundFrom view.readFeedRound (some head) latest closeTime =
      .ok candidate → candidate = Feed.closeRound (feedOf sight) head closeTime := by
    intro ran
    rw [(truthful.latest head latest told).1] at ran
    exact Feed.keeper_found truthful.read ran
  unfold candidateFor at ran
  cases memo with
  | none => exact searched ran
  | some entry =>
      by_cases same : entry.head = head
      · simp only [if_pos same, Except.ok.injEq] at ran
        rw [← ran, (remembers entry rfl).2, same]
      · simp only [if_neg same] at ran
        exact searched ran

theorem remembers_after (truthful : Truthful cfg closeTime sight view)
    (remembers : Remembers sight closeTime memo) :
    Remembers sight closeTime (findSettlementRound view memo closeTime).2 := by
  unfold findSettlementRound
  simp only [truthful.event, Bool.false_eq_true, if_false]
  cases told : view.latestFeedRound with
  | error error => exact remembers
  | ok answer =>
      obtain ⟨head, latest⟩ := answer
      cases head with
      | none => exact remembers
      | some head =>
          simp only [wrap_ok]
          by_cases pending : early latest closeTime = true
          · rw [if_pos pending]
            exact remembers
          · rw [if_neg pending]
            unfold findCandidate
            cases ran : candidateFor view memo closeTime head latest with
            | error error => exact remembers
            | ok candidate =>
                intro entry same
                cases same
                obtain ⟨newest, some_data, _⟩ := truthful.latest head latest told
                rw [newest] at some_data
                exact ⟨some_data, candidate_found truthful remembers told ran⟩

theorem dry_run_ok (truthful : Truthful cfg closeTime sight view) {candidate found : Option Nat}
    (ran : dryRun view closeTime candidate = .ok found) {id : Nat} :
    found = some id ↔ candidate = some id ∧ Accepts cfg sight closeTime id := by
  cases candidate with
  | none =>
      cases ran
      simp
  | some proposed =>
      simp only [dryRun, bind_ok_iff, wrap_ok_iff, Except.ok.injEq] at ran
      obtain ⟨readable, asked, rfl⟩ := ran
      have accepted := truthful.readable proposed readable asked
      constructor
      · intro given
        cases readable with
        | false => simp at given
        | true =>
            simp only [if_true, Option.some.injEq] at given
            exact ⟨congrArg some given, given ▸ accepted.mp rfl⟩
      · intro given
        cases given.1
        rw [if_pos (accepted.mpr given.2)]

/-- A poll that fails nowhere names what a search of the feed finds and the
adapter accepts. -/
theorem settlement_round_found (truthful : Truthful cfg closeTime sight view)
    (remembers : Remembers sight closeTime memo) {head id : Nat} {latest : Option FeedRound}
    {found : Option Nat} (told : view.latestFeedRound = .ok (some head, latest))
    (ran : (findSettlementRound view memo closeTime).1 = .ok found) :
    found = some id ↔ Feed.closeRound (feedOf sight) head closeTime = some id ∧
      Accepts cfg sight closeTime id := by
  unfold findSettlementRound at ran
  simp only [truthful.event, Bool.false_eq_true, if_false, told, wrap_ok] at ran
  have newest := (truthful.latest head latest told).1
  by_cases pending : early latest closeTime = true
  · rw [if_pos pending] at ran
    cases ran
    rw [newest] at pending
    simp [Feed.closeRound, pending]
  · rw [if_neg pending] at ran
    unfold findCandidate at ran
    cases searched : candidateFor view memo closeTime head latest with
    | error error =>
        rw [searched] at ran
        cases ran
    | ok candidate =>
        rw [searched] at ran
        rw [← candidate_found truthful remembers told searched]
        exact dry_run_ok truthful ran

omit [Zero Address] [DecidableEq Address] in
theorem remembers_grown (remembers : Remembers sight closeTime memo) (grows : Grows sight later) :
    Remembers later closeTime memo := by
  intro entry same
  obtain ⟨some_data, candidate⟩ := remembers entry same
  have kept : ∀ id, id ≤ entry.head → feedOf later id = feedOf sight id := by
    intro id below
    exact grows id entry.head below some_data
  refine ⟨?_, ?_⟩
  · rw [kept entry.head (Nat.le_refl _)]
    exact some_data
  · rw [candidate]
    apply Feed.close_round_congr
    intro id below
    exact (kept id below).symm

theorem watched_of_reachable {signer : Address} {watch : Watch Address}
    (reached : (watching cfg signer closeTime).Reachable watch) :
    Feed.Ordered (feedOf watch.sight) ∧ Remembers watch.sight closeTime watch.memo := by
  apply reached.invariant fun watch =>
    Feed.Ordered (feedOf watch.sight) ∧ Remembers watch.sight closeTime watch.memo
  · intro watch start
    refine ⟨start.2, ?_⟩
    intro entry same
    rw [start.1] at same
    cases same
  · intro watch turn after _ before taken
    cases turn with
    | chain later =>
        obtain ⟨grows, ordered, rfl⟩ := taken
        exact ⟨ordered, remembers_grown before.2 grows⟩
    | poll view action =>
        obtain ⟨truthful, rfl⟩ := taken
        exact ⟨before.1, remembers_after truthful before.2⟩
    | forget =>
        cases taken
        refine ⟨before.1, ?_⟩
        intro entry same
        cases same

omit [Zero Address] in
theorem refund_of_answered {signer : Address} {action : Action} (due : action = .voidUnsettled)
    (owner : view.owner = .ok signer) :
    refund signer view action = .ok (some .voidUnsettledRound) := by
  simp [refund, due, owner, ok_bind]

omit [Zero Address] in
theorem sent_ok {signer : Address} {action : Action} {found : Except Failure (Option Nat)}
    (ran : sentFor signer view action found = .ok (some .voidUnsettledRound)) :
    found = .ok none := by
  simp only [sentFor, bind_ok_iff] at ran
  obtain ⟨result, rfl, sent⟩ := ran
  cases result with
  | none => rfl
  | some id => simp at sent

omit [Zero Address] [DecidableEq Address] in
theorem searched_of_answered (answered : Answered view) (head closeTime : Nat)
    (latest : Option FeedRound) :
    ∃ found, findCloseRoundFrom view.readFeedRound (some head) latest closeTime = .ok found := by
  choose feed read using answered.read
  have answers : view.readFeedRound = Feed.read feed := by
    funext id
    exact read id
  rw [answers]
  unfold findCloseRoundFrom
  by_cases nothing : head = 0
  · exact ⟨none, if_pos nothing⟩
  · by_cases pending : early latest closeTime = true
    · exact ⟨none, by simp [nothing, pending]⟩
    · simp only [if_neg nothing, if_neg pending, Feed.loop_of_feed, wrap_ok, ok_bind, confirmed]
      by_cases bottom : Feed.floorOf feed head closeTime = 0
      · exact ⟨none, if_pos bottom⟩
      · simp only [if_neg bottom, Feed.read, wrap_ok, ok_bind]
        exact ⟨_, rfl⟩

omit [Zero Address] [DecidableEq Address] in
theorem dry_run_of_answered (answered : Answered view) (closeTime : Nat)
    (candidate : Option Nat) : ∃ found, dryRun view closeTime candidate = .ok found := by
  cases candidate with
  | none => exact ⟨none, rfl⟩
  | some id =>
      obtain ⟨accepted, readable⟩ := answered.readable id closeTime
      simp only [dryRun, readable, wrap_ok, ok_bind]
      exact ⟨_, rfl⟩

omit [Zero Address] [DecidableEq Address] in
theorem found_of_answered (answered : Answered view) (memo : Option SearchResult)
    (closeTime : Nat) : ∃ found, (findSettlementRound view memo closeTime).1 = .ok found := by
  obtain ⟨answer, told⟩ := answered.latest
  obtain ⟨head, latest⟩ := answer
  unfold findSettlementRound
  rw [told]
  by_cases question : view.event = true
  · rw [if_pos question]
    exact dry_run_of_answered answered closeTime (some 0)
  · rw [if_neg question]
    cases head with
    | none => exact ⟨none, rfl⟩
    | some head =>
        simp only [wrap_ok]
        by_cases pending : early latest closeTime = true
        · rw [if_pos pending]
          exact ⟨none, rfl⟩
        · rw [if_neg pending]
          unfold findCandidate
          have candidate : ∃ candidate, candidateFor view memo closeTime head latest =
              .ok candidate := by
            unfold candidateFor
            cases memo with
            | none => exact searched_of_answered answered head closeTime latest
            | some entry =>
                by_cases same : entry.head = head
                · exact ⟨entry.candidate, if_pos same⟩
                · simp only [if_neg same]
                  exact searched_of_answered answered head closeTime latest
          obtain ⟨candidate, searched⟩ := candidate
          rw [searched]
          exact dry_run_of_answered answered closeTime candidate

omit [Zero Address] [DecidableEq Address] in
theorem below_last {id head : Nat} (brackets : Feed.Brackets (feedOf sight) closeTime id)
    (last : ∀ later, head < later → feedOf sight later = none) : id < head := by
  obtain ⟨_, next, held, _⟩ := brackets
  apply Nat.not_le.mp
  intro above
  rw [last (id + 1) (by omega)] at held
  cases held

/-- A refund although some feed round would settle the round betrays a hole
above it. -/
theorem hole_of_refund (ordered : Feed.Ordered (feedOf sight))
    (truthful : Truthful cfg closeTime sight view) (remembers : Remembers sight closeTime memo)
    {signer : Address} {action : Action} {id : Nat} (accepted : Accepts cfg sight closeTime id)
    (ran : (settle signer view memo closeTime action).1 = .ok (some .voidUnsettledRound)) :
    ∃ head latest, view.latestFeedRound = .ok (some head, latest) ∧
      ¬(id ≠ 0 ∧ Feed.ClearAbove (feedOf sight) head id) := by
  have found := sent_ok ran
  have brackets := brackets_of_accepts accepted
  cases told : view.latestFeedRound with
  | error error => simp [findSettlementRound, truthful.event, told, wrap] at found
  | ok answer =>
      obtain ⟨head, latest⟩ := answer
      cases head with
      | none =>
          obtain ⟨⟨round, held, _⟩, _⟩ := brackets
          rw [truthful.nothing latest told id] at held
          cases held
      | some head =>
          obtain ⟨newest, some_data, last⟩ := truthful.latest head latest told
          have below := below_last brackets last
          obtain ⟨round, some_round⟩ := Option.ne_none_iff_exists'.mp some_data
          refine ⟨head, latest, rfl, ?_⟩
          rw [← Feed.close_round_eq_iff ordered brackets (newest.symm.trans some_round) below]
          intro searched
          have named := (settlement_round_found truthful remembers told found).mpr
            ⟨searched, accepted⟩
          cases named

theorem refund_of_hole (ordered : Feed.Ordered (feedOf sight))
    (truthful : Truthful cfg closeTime sight view) (remembers : Remembers sight closeTime memo)
    (answered : Answered view) {signer : Address} (owner : view.owner = .ok signer)
    {id head : Nat} {latest : Option FeedRound} (accepted : Accepts cfg sight closeTime id)
    (told : view.latestFeedRound = .ok (some head, latest))
    (hole : ¬(id ≠ 0 ∧ Feed.ClearAbove (feedOf sight) head id)) :
    (settle signer view memo closeTime .voidUnsettled).1 = .ok (some .voidUnsettledRound) := by
  obtain ⟨found, ran⟩ := found_of_answered answered memo closeTime
  have brackets := brackets_of_accepts accepted
  obtain ⟨newest, some_data, last⟩ := truthful.latest head latest told
  have below := below_last brackets last
  obtain ⟨round, some_round⟩ := Option.ne_none_iff_exists'.mp some_data
  rw [← Feed.close_round_eq_iff ordered brackets (newest.symm.trans some_round) below] at hole
  have nobody : found = none := by
    cases found with
    | none => rfl
    | some other =>
        -- whatever else were found would bracket the close as well
        obtain ⟨searched, _⟩ := (settlement_round_found truthful remembers told ran).mp rfl
        have same := Feed.brackets_unique ordered brackets (Feed.close_round_brackets searched)
        exact absurd (same ▸ searched) hole
  show sentFor signer view .voidUnsettled (findSettlementRound view memo closeTime).1 = _
  rw [ran, nobody]
  exact refund_of_answered rfl owner

end Polls

end Keeper

/-! ## Settling short of a hole -/

section Settlement

variable {Address : Type} [Zero Address] [DecidableEq Address]

open Keeper Feed

/-- Both searches return the same, and only what can settle the round; what can
is found, and the round not refunded for want of it, exactly when no middle the
halving asks about above it is an empty id. -/
theorem settlement_is_found_short_of_a_hole :
    (∀ (feed : Keeper.Feed) (latest closeTime : Nat) (newest : FeedRound), Ordered feed →
      feed latest = some newest → ∃ result,
        Keeper.findCloseRound (read feed) (some latest) closeTime = .ok result ∧
        Keeper.findCloseRoundFrom (read feed) (some latest) (some newest) closeTime =
          .ok result ∧
        Console.findCloseRound (read feed) latest closeTime = .ok result ∧
        (∀ id, result = some id → Brackets feed closeTime id) ∧
        ∀ id, id < latest → Brackets feed closeTime id →
          (result = some id ↔ id ≠ 0 ∧ ClearAbove feed latest id)) ∧
    ∀ (cfg : Chainlink.Config Address) (signer : Address) (closeTime : Nat)
      (watch : Watch Address), (watching cfg signer closeTime).Reachable watch →
      ∀ view, Truthful cfg closeTime watch.sight view →
      ∀ id, Accepts cfg watch.sight closeTime id →
        (∀ action, (settle signer view watch.memo closeTime action).1 =
            .ok (some .voidUnsettledRound) →
          ∃ head latest, view.latestFeedRound = .ok (some head, latest) ∧
            ¬(id ≠ 0 ∧ ClearAbove (feedOf watch.sight) head id)) ∧
        (Answered view → view.owner = .ok signer → ∀ head latest,
          view.latestFeedRound = .ok (some head, latest) →
          ¬(id ≠ 0 ∧ ClearAbove (feedOf watch.sight) head id) →
          (settle signer view watch.memo closeTime .voidUnsettled).1 =
            .ok (some .voidUnsettledRound)) := by
  constructor
  · intro feed latest closeTime newest ordered some_data
    refine ⟨closeRound feed latest closeTime, keeper_finds feed latest closeTime, ?_,
      console_finds feed latest closeTime, ?_, ?_⟩
    · rw [← some_data]
      exact keeper_finds_from feed latest closeTime
    · intro id found
      exact close_round_brackets found
    · intro id below brackets
      exact close_round_eq_iff ordered brackets some_data below
  · intro cfg signer closeTime watch reached view truthful id accepted
    obtain ⟨ordered, remembers⟩ := watched_of_reachable reached
    refine ⟨?_, ?_⟩
    · intro action ran
      exact hole_of_refund ordered truthful remembers accepted ran
    · intro answered owner head latest told hole
      exact refund_of_hole ordered truthful remembers answered owner accepted told hole

def denseFeed : Keeper.Feed := fun id =>
  if 1 ≤ id ∧ id ≤ 3 then some ⟨id * 100⟩ else none

theorem dense_ordered : Ordered denseFeed := by
  intro first second earlier later le held held'
  unfold denseFeed at held held'
  split at held
  · split at held'
    · cases held
      cases held'
      exact Nat.mul_le_mul_right 100 le
    · cases held'
  · cases held

theorem settlement_is_found_in_a_dense_feed :
    Keeper.findCloseRound (read denseFeed) (some 3) 250 = .ok (some 2) := by
  obtain ⟨result, found, _, _, _, complete⟩ :=
    (@settlement_is_found_short_of_a_hole (Fin 8) _ _).1 denseFeed 3 250 ⟨300⟩ dense_ordered rfl
  have brackets : Brackets denseFeed 250 2 :=
    ⟨⟨⟨200⟩, rfl, by decide⟩, ⟨300⟩, rfl, by decide⟩
  have clear : ClearAbove denseFeed 3 2 := by
    intro probe asked above
    have points : Bisection.probes 2 0 3 = [1, 2] := by
      simp [Bisection.probes, Bisection.middle]
    rw [points] at asked
    simp only [List.mem_cons, List.not_mem_nil, or_false] at asked
    omega
  rw [found, (complete 2 (by decide) brackets).mpr ⟨by decide, clear⟩]

/-- The rounds of two phases of a proxy, whose ids start at multiples of `2 ^ 64`. -/
def phasedFeed : Keeper.Feed := fun id =>
  if id = 2 ^ 64 + 1 then some ⟨100⟩
  else if id = 2 ^ 64 + 2 then some ⟨200⟩
  else if id = 2 ^ 65 + 1 then some ⟨300⟩
  else none

theorem phased_ordered : Ordered phasedFeed := by
  intro first second earlier later le held held'
  unfold phasedFeed at held held'
  split_ifs at held held' <;> cases held <;> cases held' <;> simp only <;> omega

/-- A round that closed in the first phase: once the second has begun, the gap
between them hides the feed round it should settle at. -/
theorem phases_hide_the_close :
    Ordered phasedFeed ∧ phasedFeed (2 ^ 65 + 1) = some ⟨300⟩ ∧ 2 ^ 64 + 1 < 2 ^ 65 + 1 ∧
      Brackets phasedFeed 150 (2 ^ 64 + 1) ∧
      Keeper.findCloseRound (read phasedFeed) (some (2 ^ 65 + 1)) 150 = .ok none ∧
      Console.findCloseRound (read phasedFeed) (2 ^ 65 + 1) 150 = .ok none := by
  have last : phasedFeed (2 ^ 65 + 1) = some ⟨300⟩ := by decide
  have brackets : Brackets phasedFeed 150 (2 ^ 64 + 1) :=
    ⟨⟨⟨100⟩, by decide, by decide⟩, ⟨200⟩, by decide, by decide⟩
  have hidden : ¬ClearAbove phasedFeed (2 ^ 65 + 1) (2 ^ 64 + 1) := by
    intro clear
    apply clear (2 ^ 64 + 2 ^ 63) _ (by decide) (by decide)
    rw [Bisection.probes, dif_pos (by decide), if_pos (by decide)]
    apply List.mem_cons_of_mem
    rw [Bisection.probes, dif_pos (by decide)]
    exact List.mem_cons_self
  have missed : closeRound phasedFeed (2 ^ 65 + 1) 150 = none := by
    cases found : closeRound phasedFeed (2 ^ 65 + 1) 150 with
    | none => rfl
    | some id =>
        have same := brackets_unique phased_ordered brackets (close_round_brackets found)
        rw [← same, close_round_eq_iff phased_ordered brackets last (by decide)] at found
        exact absurd found.2 hidden
  refine ⟨phased_ordered, last, by decide, brackets, ?_, ?_⟩
  · rw [keeper_finds, missed]
  · rw [console_finds, missed]

end Settlement

end Ghoststake
