import Ghoststake.Oracle.Bonds

/-!
# What a question announces

The record that a question's events keep of it, and that in every run it is the
question's own storage, with the two deadlines that are not stored.
-/

namespace Ghoststake

set_option autoImplicit false

open Checked

namespace EventOracle

variable {Address : Type}

structure Claim (Address : Type) where
  proposer : Address
  evidenceURI : String
  evidenceDigest : Nat
  proposerStake : Nat
  challengeClosesAt : Uint64

structure Contest (Address : Type) where
  challenger : Address
  rulingDueAt : Uint64

structure Ruling (Address : Type) where
  arbiter : Address
  paid : Address
  reasonURI : String

/-- The question as its events tell it. -/
structure Minutes (Address : Type) where
  state : EventState
  /-- The outcome named last. -/
  outcome : Option EventOutcome
  claim : Option (Claim Address)
  contest : Option (Contest Address)
  ruling : Option (Ruling Address)
  market : Option (Address × Nat)

def Minutes.blank : Minutes Address where
  state := .open
  outcome := none
  claim := none
  contest := none
  ruling := none
  market := none

def Minutes.note (minutes : Minutes Address) : Event Address → Minutes Address
  | .proposed proposer outcome evidenceURI evidenceDigest proposerStake challengeClosesAt =>
      { minutes with
        state := .proposed
        outcome := some outcome
        claim := some
          ⟨proposer, evidenceURI, evidenceDigest, proposerStake, challengeClosesAt⟩ }
  | .challenged challenger rulingDueAt =>
      { minutes with state := .challenged, contest := some ⟨challenger, rulingDueAt⟩ }
  | .ruled arbiter outcome paid reasonURI =>
      { minutes with outcome := some outcome, ruling := some ⟨arbiter, paid, reasonURI⟩ }
  | .finalised outcome => { minutes with state := .final, outcome := some outcome }
  | .abandoned _ => { minutes with state := .abandoned }
  | .marketSet market roundId => { minutes with market := some (market, roundId) }
  | .arbiterSet _ _ | .access _ => minutes

def minutesOf (logs : List (Event Address)) : Minutes Address :=
  logs.foldl Minutes.note .blank

theorem minutes_of_append (logs : List (Event Address)) (event : Event Address) :
    minutesOf (logs ++ [event]) = (minutesOf logs).note event := List.foldl_append

/-- What the question stands by: its answer once it has one, and till then what
was claimed. -/
def standing (oracle : State Address) : EventOutcome :=
  if oracle.state = .final then oracle.outcome else oracle.proposedOutcome

/-- The events of a question and its storage say the same of it. -/
structure Minuted [Zero Address] [DecidableEq Address] (cfg : Config Address)
    (minutes : Minutes Address) (oracle : State Address) : Prop where
  state : minutes.state = oracle.state
  outcome : minutes.outcome = if oracle.state = .open then none else some (standing oracle)
  unclaimed : oracle.state = .open → minutes.claim = none
  claimed : oracle.state ≠ .open → ∃ closesAt : Uint64,
    closesAt.val = oracle.proposedAt.val + cfg.challengeWindow.val ∧
      minutes.claim = some ⟨oracle.proposer, oracle.evidenceURI, oracle.evidenceDigest,
        oracle.proposerStake, closesAt⟩
  uncontested : oracle.challenger = 0 → minutes.contest = none
  contested : oracle.challenger ≠ 0 → ∃ dueAt : Uint64,
    dueAt.val = oracle.challengedAt.val + cfg.rulingDeadline.val ∧
      minutes.contest = some ⟨oracle.challenger, dueAt⟩
  unruled : oracle.state ≠ .final ∨ oracle.challenger = 0 → minutes.ruling = none
  /-- Whoever ruled is still the arbiter: the owner replaces none afterwards. -/
  ruled : oracle.state = .final → oracle.challenger ≠ 0 → ∃ reasonURI,
    minutes.ruling = some ⟨oracle.arbiter, paidBy oracle oracle.outcome, reasonURI⟩
  market : minutes.market =
    if oracle.market = 0 then none else some (oracle.market, oracle.marketRoundId)

variable [Zero Address] [DecidableEq Address]

section Running

variable {cfg : Config Address} {minutes : Minutes Address} {oracle : State Address}

theorem Minuted.named (minuted : Minuted cfg minutes oracle) (claimed : oracle.state ≠ .open)
    (running : oracle.state ≠ .final) : minutes.outcome = some oracle.proposedOutcome := by
  rw [minuted.outcome, if_neg claimed, standing, if_neg running]

end Running

/-! ## Every call announces what it writes -/

section Calls

variable {cfg : Config Address} {sender : Address} {h after : Hearing Address}

theorem minuted_of_propose {outcome : EventOutcome} {evidenceURI : String} {evidenceDigest : Nat}
    {up down : Reply} (filed : Filed cfg h.oracle)
    (minuted : Minuted cfg (minutesOf h.oracle.logs) h.oracle)
    (ran : propose cfg sender outcome evidenceURI evidenceDigest up down h = .ok after) :
    Minuted cfg (minutesOf after.oracle.logs) after.oracle := by
  simp only [propose, bind_ok_iff, require_ok_iff, require_state_ok_iff, exists_const,
    Except.ok.injEq] at ran
  obtain ⟨isOpen, _, _, _, stake, _, pulled, took, closesAt, summed, rfl⟩ := ran
  obtain ⟨_, token, _, rfl⟩ := pull_bond_ok took
  rw [Uint64.plus_ok_iff] at summed
  have uncontested := filed.uncontested (.inl isOpen)
  simp only [emit, setOracle, State.claimed, minutes_of_append]
  constructor
  · rfl
  · rfl
  · intro still
    cases still
  · exact fun _ => ⟨closesAt, summed, rfl⟩
  · exact minuted.uncontested
  · exact minuted.contested
  · exact fun _ => minuted.unruled (.inr uncontested)
  · intro closed
    cases closed
  · exact minuted.market

theorem minuted_of_challenge (minuted : Minuted cfg (minutesOf h.oracle.logs) h.oracle)
    (ran : challenge cfg sender h = .ok after) :
    Minuted cfg (minutesOf after.oracle.logs) after.oracle := by
  simp only [challenge, bind_ok_iff, require_ok_iff, require_state_ok_iff, exists_const,
    Except.ok.injEq] at ran
  obtain ⟨proposed, _, _, _, pulled, took, dueAt, summed, rfl⟩ := ran
  obtain ⟨live, token, _, rfl⟩ := pull_bond_ok took
  rw [Uint64.plus_ok_iff] at summed
  have began : h.oracle.state ≠ .open := by
    rw [proposed]
    decide
  have running : h.oracle.state ≠ .final := by
    rw [proposed]
    decide
  have claimed := minuted.claimed began
  have named := minuted.named began running
  simp only [emit, setOracle, State.contested, minutes_of_append]
  constructor
  · rfl
  · exact named
  · intro still
    cases still
  · exact fun _ => claimed
  · exact fun nobody => absurd nobody live
  · exact fun _ => ⟨dueAt, summed, rfl⟩
  · exact fun _ => minuted.unruled (.inl running)
  · intro closed
    cases closed
  · exact minuted.market

theorem minuted_of_finalise (filed : Filed cfg h.oracle)
    (minuted : Minuted cfg (minutesOf h.oracle.logs) h.oracle)
    (ran : finalise cfg h = .ok after) :
    Minuted cfg (minutesOf after.oracle.logs) after.oracle := by
  simp only [finalise, bind_ok_iff, require_ok_iff, require_state_ok_iff, exists_const,
    Except.ok.injEq] at ran
  obtain ⟨proposed, _, _, _, pushed, paid, rfl⟩ := ran
  obtain ⟨_, _, rfl⟩ := push_bond_ok_iff.1 paid
  have uncontested := filed.uncontested (.inr proposed)
  have began : h.oracle.state ≠ .open := by
    rw [proposed]
    decide
  have claimed := minuted.claimed began
  simp only [emit, setOracle, State.settled, minutes_of_append]
  constructor
  · rfl
  · rfl
  · intro still
    cases still
  · exact fun _ => claimed
  · exact minuted.uncontested
  · exact minuted.contested
  · exact fun _ => minuted.unruled (.inr uncontested)
  · exact fun _ live => absurd uncontested live
  · exact minuted.market

theorem minuted_of_rule {outcome : EventOutcome} {reasonURI : String} (filed : Filed cfg h.oracle)
    (minuted : Minuted cfg (minutesOf h.oracle.logs) h.oracle)
    (ran : rule cfg sender outcome reasonURI h = .ok after) :
    Minuted cfg (minutesOf after.oracle.logs) after.oracle := by
  simp only [rule, bind_ok_iff, require_ok_iff, require_state_ok_iff, exists_const,
    Except.ok.injEq] at ran
  obtain ⟨judge, challenged, _, pushed, paid, rfl⟩ := ran
  obtain ⟨_, _, rfl⟩ := push_bond_ok_iff.1 paid
  have live := filed.contested (.inl challenged)
  have began : h.oracle.state ≠ .open := by
    rw [challenged]
    decide
  have claimed := minuted.claimed began
  simp only [emit, setOracle, State.settled, minutes_of_append]
  constructor
  · rfl
  · rfl
  · intro still
    cases still
  · exact fun _ => claimed
  · exact minuted.uncontested
  · exact minuted.contested
  · rintro (running | nobody)
    · exact absurd rfl running
    · exact absurd nobody live
  · intro _ _
    rw [← judge]
    exact ⟨reasonURI, rfl⟩
  · exact minuted.market

theorem minuted_of_abandon (minuted : Minuted cfg (minutesOf h.oracle.logs) h.oracle)
    (ran : abandon cfg h = .ok after) :
    Minuted cfg (minutesOf after.oracle.logs) after.oracle := by
  simp only [abandon, bind_ok_iff, require_ok_iff, require_state_ok_iff, exists_const,
    Except.ok.injEq] at ran
  obtain ⟨challenged, _, _, _, first, paid, second, repaid, rfl⟩ := ran
  obtain ⟨_, _, rfl⟩ := push_bond_ok_iff.1 paid
  obtain ⟨_, _, rfl⟩ := push_bond_ok_iff.1 repaid
  have began : h.oracle.state ≠ .open := by
    rw [challenged]
    decide
  have running : h.oracle.state ≠ .final := by
    rw [challenged]
    decide
  have claimed := minuted.claimed began
  have named := minuted.named began running
  simp only [emit, setOracle, minutes_of_append]
  constructor
  · rfl
  · exact named
  · intro still
    cases still
  · exact fun _ => claimed
  · exact minuted.uncontested
  · exact minuted.contested
  · exact fun _ => minuted.unruled (.inl running)
  · intro closed
    cases closed
  · exact minuted.market

theorem minuted_of_exec {call : Call Address} (filed : Filed cfg h.oracle)
    (minuted : Minuted cfg (minutesOf h.oracle.logs) h.oracle)
    (ran : exec cfg sender h call = .ok after) :
    Minuted cfg (minutesOf after.oracle.logs) after.oracle := by
  cases call with
  | propose outcome evidenceURI evidenceDigest up down =>
      exact minuted_of_propose filed minuted ran
  | challenge => exact minuted_of_challenge minuted ran
  | finalise => exact minuted_of_finalise filed minuted ran
  | rule outcome reasonURI => exact minuted_of_rule filed minuted ran
  | abandon => exact minuted_of_abandon minuted ran
  | setArbiter next =>
      simp only [exec, setArbiter, bind_ok_iff, require_ok_iff, exists_const,
        Except.ok.injEq] at ran
      obtain ⟨_, _, _, running, rfl⟩ := ran
      simp only [emit, setOracle, minutes_of_append]
      refine ⟨minuted.state, minuted.outcome, minuted.unclaimed, minuted.claimed,
        minuted.uncontested, minuted.contested, minuted.unruled, ?_, minuted.market⟩
      intro closed
      exact absurd (.inl closed) running
  | setMarket market roundId =>
      simp only [exec, setMarket, bind_ok_iff, require_ok_iff, exists_const,
        Except.ok.injEq] at ran
      obtain ⟨_, _, live, _, _, rfl⟩ := ran
      simp only [emit, setOracle, minutes_of_append]
      refine ⟨minuted.state, minuted.outcome, minuted.unclaimed, minuted.claimed,
        minuted.uncontested, minuted.contested, minuted.unruled, minuted.ruled, ?_⟩
      exact (if_neg live).symm
  | administer call =>
      simp only [exec, administer, bind_ok_iff, Prod.exists, Except.ok.injEq] at ran
      obtain ⟨access, event, _, rfl⟩ := ran
      simp only [emit, setOracle, minutes_of_append]
      exact ⟨minuted.state, minuted.outcome, minuted.unclaimed, minuted.claimed,
        minuted.uncontested, minuted.contested, minuted.unruled, minuted.ruled, minuted.market⟩

end Calls

/-! ## Along a run -/

theorem minuted_of_deployed {cfg : Config Address} {x : Hearing Address}
    (start : Deployed cfg x) : Minuted cfg (minutesOf x.oracle.logs) x.oracle := by
  obtain ⟨owner, arbiter, _, _, fresh⟩ := start.fresh
  rw [fresh]
  constructor
  · rfl
  · rfl
  · exact fun _ => rfl
  · exact fun began => absurd rfl began
  · exact fun _ => rfl
  · exact fun live => absurd rfl live
  · exact fun _ => rfl
  · intro closed
    cases closed
  · exact (if_pos rfl).symm

/-- The events of a question are the whole history of what it says. -/
theorem minuted_of_reachable {cfg : Config Address} {x : Hearing Address}
    (reached : (machine cfg).Reachable x) : Minuted cfg (minutesOf x.oracle.logs) x.oracle := by
  induction reached with
  | initial start => exact minuted_of_deployed start
  | step before taken ih =>
      obtain ⟨_, ran⟩ := taken
      rename_i x action after
      cases action with
      | question sender call => exact minuted_of_exec (sound_of_reachable before).filed ih ran
      | asset sender call =>
          simp only [act, pay, bind_ok_iff, Except.ok.injEq] at ran
          obtain ⟨token, _, rfl⟩ := ran
          exact ih
      | wait seconds =>
          cases ran
          exact ih

end EventOracle

end Ghoststake
