import Ghoststake.Chain.Access
import Ghoststake.Chain.Uint
import Ghoststake.Library.Machine
import Ghoststake.Library.Timeline

/-!
# DemoPriceFeed

A price feed whose rounds its owner publishes by hand: ids count up from one,
and timestamps strictly increase. Behind the mapping is the list of what was
published.
-/

namespace Ghoststake

set_option autoImplicit false

open Checked

structure RoundData where
  roundId : Uint80
  answer : Int
  startedAt : Nat
  updatedAt : Nat
  answeredInRound : Uint80

namespace DemoFeed

variable {Address : Type}

structure Round where
  answer : Int
  updatedAt : Nat
  deriving DecidableEq

def Round.unset : Round := ⟨0, 0⟩

inductive Event (Address : Type) where
  | answerPushed (roundId : Uint80) (answer : Int) (updatedAt : Nat)
  | access (event : AccessEvent Address)

structure State (Address : Type) extends Ownable Address where
  /-- Zero until the first push. -/
  latestRoundId : Uint80
  rounds : Uint80 → Round
  logs : List (Event Address)

def deployed (initialOwner : Address) : State Address where
  owner := initialOwner
  latestRoundId := Uint80.zero
  rounds _ := Round.unset
  logs := []

/-! ## Reading -/

def getRoundData (feed : State Address) (roundId : Uint80) : Outcome Address RoundData := do
  let round := feed.rounds roundId
  require (round.updatedAt ≠ 0) .noData
  .ok ⟨roundId, round.answer, round.updatedAt, round.updatedAt, roundId⟩

def latestRoundData (feed : State Address) : Outcome Address RoundData :=
  getRoundData feed feed.latestRoundId

/-! ## Publishing -/

def State.published (feed : State Address) (roundId : Uint80) (answer : Int) (updatedAt : Nat) :
    State Address :=
  { feed with
    latestRoundId := roundId
    rounds := Function.update feed.rounds roundId ⟨answer, updatedAt⟩
    logs := feed.logs ++ [.answerPushed roundId answer updatedAt] }

/-- `latestRoundId + 1`, which is checked. -/
def nextRoundId (feed : State Address) : Outcome Address Uint80 :=
  match feed.latestRoundId.next with
  | some roundId => .ok roundId
  | none => .error .arithmetic

def pushInternal (answer : Int) (updatedAt : Nat) (feed : State Address) :
    Outcome Address (State Address) := do
  require (0 < answer) (.nonPositiveAnswer answer)
  let last := (feed.rounds feed.latestRoundId).updatedAt
  require (last < updatedAt) (.timestampNotAdvanced last updatedAt)
  let roundId ← nextRoundId feed
  .ok (feed.published roundId answer updatedAt)

section Calls

variable [DecidableEq Address]

def push (sender : Address) (timestamp : Nat) (answer : Int) (feed : State Address) :
    Outcome Address (State Address) := do
  feed.onlyOwner sender
  pushInternal answer timestamp feed

def pushAt (sender : Address) (answer : Int) (updatedAt : Nat) (feed : State Address) :
    Outcome Address (State Address) := do
  feed.onlyOwner sender
  pushInternal answer updatedAt feed

variable [Zero Address]

def administer (sender : Address) (call : Ownable.Call Address) (feed : State Address) :
    Outcome Address (State Address) := do
  let (access, event) ← feed.toOwnable.exec sender call
  .ok { feed with toOwnable := access, logs := feed.logs ++ [.access event] }

/-- The entry points, a push with the time of its block. -/
inductive Call (Address : Type) where
  | push (timestamp : Nat) (answer : Int)
  | pushAt (answer : Int) (updatedAt : Nat)
  | administer (call : Ownable.Call Address)

def exec (sender : Address) (feed : State Address) :
    Call Address → Outcome Address (State Address)
  | .push timestamp answer => push sender timestamp answer feed
  | .pushAt answer updatedAt => pushAt sender answer updatedAt feed
  | .administer call => administer sender call feed

def machine (Address : Type) [DecidableEq Address] [Zero Address] :
    Machine (State Address) (Address × Call Address) where
  initial feed := ∃ initialOwner, feed = deployed initialOwner
  step feed action after := exec action.1 feed action.2 = .ok after

end Calls

/-! ## The list behind the mapping -/

section History

variable {feed after later : State Address}

def Event.round : Event Address → Option Round
  | .answerPushed _ answer updatedAt => some ⟨answer, updatedAt⟩
  | .access _ => none

def history (feed : State Address) : List Round := feed.logs.filterMap Event.round

structure Sound (feed : State Address) : Prop where
  counted : feed.latestRoundId.val = (history feed).length
  unset : feed.rounds Uint80.zero = Round.unset
  stored : ∀ roundId : Uint80, ∀ index, roundId.val = index + 1 →
    feed.rounds roundId = ((history feed)[index]?).getD Round.unset
  increasing : Timeline.Increasing Round.updatedAt (history feed)
  positive : ∀ round ∈ history feed, 0 < round.answer ∧ 0 < round.updatedAt

theorem history_published (feed : State Address) (roundId : Uint80) (answer : Int)
    (updatedAt : Nat) :
    history (feed.published roundId answer updatedAt) = history feed ++ [⟨answer, updatedAt⟩] := by
  simp [history, State.published, Event.round]

theorem Sound.last (sound : Sound feed) {updatedAt : Nat}
    (advanced : (feed.rounds feed.latestRoundId).updatedAt < updatedAt) :
    0 < updatedAt ∧ ∀ round ∈ history feed, round.updatedAt < updatedAt := by
  refine ⟨Nat.zero_lt_of_lt advanced, ?_⟩
  intro round member
  obtain ⟨index, bound, rfl⟩ := List.getElem_of_mem member
  obtain ⟨last, total⟩ : ∃ last, feed.latestRoundId.val = last + 1 :=
    Nat.exists_eq_succ_of_ne_zero (by have counted := sound.counted; omega)
  have lastBound : last < (history feed).length := by
    have counted := sound.counted
    omega
  rw [sound.stored _ last total, List.getElem?_eq_getElem lastBound, Option.getD_some] at advanced
  rcases Nat.lt_or_ge index last with before | notBefore
  · have earlier := sound.increasing.lt before (List.getElem?_eq_getElem bound)
      (List.getElem?_eq_getElem lastBound)
    exact Nat.lt_trans earlier advanced
  · have same : index = last := by
      have counted := sound.counted
      omega
    subst same
    exact advanced

theorem push_ok {answer : Int} {updatedAt : Nat}
    (ran : pushInternal answer updatedAt feed = .ok after) :
    0 < answer ∧ (feed.rounds feed.latestRoundId).updatedAt < updatedAt ∧
      ∃ roundId, roundId.val = feed.latestRoundId.val + 1 ∧
        after = feed.published roundId answer updatedAt := by
  simp only [pushInternal, bind_ok_iff, require_ok_iff, exists_const, Except.ok.injEq,
    nextRoundId] at ran
  obtain ⟨positive, advanced, roundId, next, rfl⟩ := ran
  refine ⟨positive, advanced, roundId, ?_, rfl⟩
  cases found : feed.latestRoundId.next with
  | none =>
      rw [found] at next
      cases next
  | some id =>
      rw [found] at next
      cases next
      exact Uint80.next_eq_some_iff.1 found

theorem Sound.push (sound : Sound feed) {answer : Int} {updatedAt : Nat}
    (ran : pushInternal answer updatedAt feed = .ok after) : Sound after := by
  obtain ⟨positive, advanced, roundId, next, rfl⟩ := push_ok ran
  obtain ⟨stamped, later⟩ := sound.last advanced
  have counted := sound.counted
  constructor
  · rw [history_published, List.length_append, ← counted]
    exact next
  · have distinct : Uint80.zero ≠ roundId := by
      intro same
      rw [← same] at next
      cases next
    exact (Function.update_of_ne distinct ..).trans sound.unset
  · intro other index position
    rw [history_published]
    by_cases same : other = roundId
    · subst same
      have last : index = (history feed).length := by omega
      subst last
      rw [List.getElem?_concat_length]
      exact Function.update_self ..
    · have stored := (Function.update_of_ne same ⟨answer, updatedAt⟩ feed.rounds).trans
        (sound.stored other index position)
      rcases Nat.lt_or_ge index (history feed).length with inside | outside
      · rw [List.getElem?_append_left inside]
        exact stored
      · have notLast : index ≠ (history feed).length := by
          intro last
          apply same
          apply Fin.ext
          omega
        rw [List.getElem?_eq_none outside] at stored
        rw [List.getElem?_eq_none]
        · exact stored
        · rw [List.length_append, List.length_singleton]
          omega
  · rw [history_published]
    exact sound.increasing.append later
  · intro round member
    rw [history_published, List.mem_append, List.mem_singleton] at member
    rcases member with member | rfl
    · exact sound.positive round member
    · exact ⟨positive, stamped⟩

theorem Sound.same (sound : Sound feed) (latest : after.latestRoundId = feed.latestRoundId)
    (rounds : after.rounds = feed.rounds) (log : history after = history feed) : Sound after := by
  constructor
  · rw [latest, log]
    exact sound.counted
  · rw [rounds]
    exact sound.unset
  · rw [rounds, log]
    exact sound.stored
  · rw [log]
    exact sound.increasing
  · rw [log]
    exact sound.positive

theorem sound_of_deployed (initialOwner : Address) : Sound (deployed initialOwner) := by
  constructor
  · rfl
  · rfl
  · intro roundId index _
    rfl
  · exact List.Pairwise.nil
  · nofun

/-- Exactly the rounds of the list can be read, each under its number. -/
theorem Sound.get_round_data_ok_iff (sound : Sound feed) {roundId : Uint80} {data : RoundData} :
    getRoundData feed roundId = .ok data ↔ ∃ index round, roundId.val = index + 1 ∧
      (history feed)[index]? = some round ∧
      data = ⟨roundId, round.answer, round.updatedAt, round.updatedAt, roundId⟩ := by
  simp only [getRoundData, bind_ok_iff, require_ok_iff, exists_const, Except.ok.injEq]
  constructor
  · rintro ⟨written, rfl⟩
    have positive : roundId.val ≠ 0 := by
      intro zero
      have unset := sound.unset
      have same : roundId = Uint80.zero := Fin.ext zero
      rw [← same] at unset
      rw [unset] at written
      exact written rfl
    obtain ⟨index, position⟩ := Nat.exists_eq_succ_of_ne_zero positive
    have stored := sound.stored roundId index position
    cases found : (history feed)[index]? with
    | none =>
        rw [found] at stored
        rw [stored] at written
        exact absurd rfl written
    | some round =>
        rw [found, Option.getD_some] at stored
        rw [stored]
        exact ⟨index, round, position, found, rfl⟩
  · rintro ⟨index, round, position, found, rfl⟩
    have stored := sound.stored roundId index position
    rw [found, Option.getD_some] at stored
    rw [stored]
    have member := List.mem_of_getElem? found
    exact ⟨Nat.ne_of_gt (sound.positive round member).2, rfl⟩

theorem Sound.exists_round_id (sound : Sound feed) {index : Nat}
    (bound : index < (history feed).length) : ∃ roundId : Uint80, roundId.val = index + 1 := by
  have counted := sound.counted
  have small := feed.latestRoundId.isLt
  exact ⟨⟨index + 1, by omega⟩, rfl⟩

section Runs

variable [DecidableEq Address] [Zero Address]

theorem sound_of_exec {sender : Address} {call : Call Address} (sound : Sound feed)
    (ran : exec sender feed call = .ok after) :
    Sound after ∧ ∃ more, history after = history feed ++ more := by
  have pushed : ∀ answer updatedAt, pushInternal answer updatedAt feed = .ok after →
      Sound after ∧ ∃ more, history after = history feed ++ more := by
    intro answer updatedAt ran
    refine ⟨sound.push ran, ?_⟩
    obtain ⟨_, _, roundId, _, rfl⟩ := push_ok ran
    exact ⟨_, history_published feed roundId answer updatedAt⟩
  cases call with
  | push timestamp answer =>
      simp only [exec, push, bind_ok_iff] at ran
      obtain ⟨_, _, ran⟩ := ran
      exact pushed answer timestamp ran
  | pushAt answer updatedAt =>
      simp only [exec, pushAt, bind_ok_iff] at ran
      obtain ⟨_, _, ran⟩ := ran
      exact pushed answer updatedAt ran
  | administer call =>
      simp only [exec, administer, bind_ok_iff, Prod.exists, Except.ok.injEq] at ran
      obtain ⟨access, event, _, rfl⟩ := ran
      have log : history { feed with toOwnable := access, logs := feed.logs ++ [.access event] } =
          history feed := by
        simp [history, Event.round]
      exact ⟨sound.same rfl rfl log, [], by rw [log, List.append_nil]⟩

theorem sound_of_reachable (reached : (machine Address).Reachable feed) : Sound feed := by
  refine reached.invariant Sound ?_ ?_
  · rintro feed ⟨initialOwner, rfl⟩
    exact sound_of_deployed initialOwner
  · intro feed action after _ sound taken
    exact (sound_of_exec sound taken).1

/-- A history only grows. -/
theorem history_of_path (sound : Sound feed) (path : (machine Address).Path feed later) :
    Sound later ∧ ∃ more, history later = history feed ++ more := by
  induction path with
  | refl => exact ⟨sound, [], (List.append_nil _).symm⟩
  | tail _ taken ih =>
      obtain ⟨action, taken⟩ := taken
      obtain ⟨midSound, more, grown⟩ := ih
      obtain ⟨lastSound, extra, last⟩ := sound_of_exec midSound taken
      refine ⟨lastSound, more ++ extra, ?_⟩
      rw [last, grown, List.append_assoc]

end Runs

end History

end DemoFeed

end Ghoststake
