import Ghoststake.Library.Machine
import Ghoststake.Oracle.Event

/-!
# Where the bonds of a question go

Every call is one turn of a bonded claim or moves no bond at all; what the
contract holds, whom it paid and what it answers follow from that.
-/

namespace Ghoststake

set_option autoImplicit false

open Checked BondedClaim

namespace EventOracle

variable {Address : Type} [Zero Address] [DecidableEq Address]

/-! ## The machine -/

/-- One thing that happens to a deployed question: a call on it or on the
asset of its bonds, or the passage of time. -/
inductive Action (Address : Type) where
  | question (sender : Address) (call : Call Address)
  | asset (sender : Address) (call : Erc20.Call Address)
  | wait (seconds : Nat)

def pay (h : Hearing Address) (call : Erc20 Address → Outcome Address (Erc20 Address)) :
    Outcome Address (Hearing Address) := do
  let token ← call h.bondAsset
  .ok { h with bondAsset := token }

def act (cfg : Config Address) (h : Hearing Address) :
    Action Address → Outcome Address (Hearing Address)
  | .question sender call => exec cfg sender h call
  | .asset sender call => pay h fun token => token.exec sender call
  | .wait seconds => .ok { h with timestamp := h.timestamp + seconds }

/-- The contract never calls itself or the asset's approval functions, and
nobody calls from the zero address. -/
def Action.External (cfg : Config Address) : Action Address → Prop
  | .question sender _ | .asset sender _ => sender ≠ cfg.address ∧ sender ≠ 0
  | .wait _ => True

structure Deployed (cfg : Config Address) (h : Hearing Address) : Prop where
  fresh : ∃ owner arbiter, Ownable.deploy owner = .ok { owner := owner } ∧ arbiter ≠ 0 ∧
    h.oracle = deployed owner arbiter
  unapproved : h.bondAsset.allowance cfg.address = fun _ => 0
  unmoved : h.moves = []

def machine (cfg : Config Address) : Machine (Hearing Address) (Action Address) where
  initial := Deployed cfg
  step h action after := action.External cfg ∧ act cfg h action = .ok after

/-! ## What the contract is for -/

def stageOf (oracle : State Address) : Stage Address EventOutcome :=
  match oracle.state with
  | .open => .vacant
  | .proposed => .pledged oracle.proposer oracle.proposedOutcome
  | .challenged => .contested oracle.proposer oracle.challenger oracle.proposedOutcome
  | .final =>
      .decided oracle.proposer (if oracle.challenger = 0 then none else some oracle.challenger)
        oracle.proposedOutcome oracle.outcome
  | .abandoned => .dropped oracle.proposer oracle.challenger

def bondsHeld (h : Hearing Address) : Nat := posted h.moves - released h.moves

structure Filed (cfg : Config Address) (oracle : State Address) : Prop where
  answered : oracle.outcome = .none ↔ oracle.state ≠ .final
  claimed : oracle.state ≠ .open → oracle.proposer ≠ 0 ∧ oracle.proposedOutcome ≠ .none
  uncontested : oracle.state = .open ∨ oracle.state = .proposed → oracle.challenger = 0
  contested : oracle.state = .challenged ∨ oracle.state = .abandoned → oracle.challenger ≠ 0
  window : oracle.state = .proposed →
    oracle.proposedAt.val + cfg.challengeWindow.val < 2 ^ 64
  ruling : oracle.state = .challenged →
    oracle.challengedAt.val + cfg.rulingDeadline.val < 2 ^ 64

structure Sound (cfg : Config Address) (h : Hearing Address) : Prop where
  filed : Filed cfg h.oracle
  course : Course cfg.bond (stageOf h.oracle) h.moves
  covered : stakeIn cfg.bond (stageOf h.oracle) ≤ h.bondAsset.balanceOf cfg.address
  unapproved : h.bondAsset.allowance cfg.address = fun _ => 0

/-! ## What a call can do -/

section Inversion

variable {cfg : Config Address} {h after : Hearing Address} {sender : Address}

theorem pull_bond_ok (ran : pullBond cfg sender h = .ok after) :
    sender ≠ 0 ∧ ∃ token,
      h.bondAsset.transferFrom cfg.address sender cfg.address cfg.bond = .ok token ∧
      after = { h with bondAsset := token, moves := h.moves ++ [.posted sender cfg.bond] } := by
  simp only [pullBond, bind_ok_iff, Except.ok.injEq] at ran
  obtain ⟨token, pulled, rfl⟩ := ran
  exact ⟨((Erc20.transfer_from_ok_iff _ _ _ _ _ _).1 pulled).2.1, token, pulled, rfl⟩

theorem pulled_balance {token pulled : Erc20 Address} (outsider : sender ≠ cfg.address)
    (ran : token.transferFrom cfg.address sender cfg.address cfg.bond = .ok pulled) :
    pulled.balanceOf cfg.address = token.balanceOf cfg.address + cfg.bond ∧
      pulled.allowance cfg.address = token.allowance cfg.address := by
  obtain ⟨_, _, _, _, rfl⟩ := (Erc20.transfer_from_ok_iff _ _ _ _ _ _).1 ran
  constructor
  · exact Erc20.moved_balance_target token cfg.bond outsider
  · exact Erc20.allowance_after_other token cfg.bond outsider.symm

theorem push_bond_ok_iff {target : Address} {amount : Nat} :
    pushBond cfg target amount h = .ok after ↔
      target ≠ 0 ∧ amount ≤ h.bondAsset.balanceOf cfg.address ∧
        after = { h with
          bondAsset := h.bondAsset.moved cfg.address target amount
          moves := h.moves ++ [.released target amount] } := by
  simp only [pushBond, bind_ok_iff, Erc20.move_ok_iff, Except.ok.injEq]
  constructor
  · rintro ⟨token, ⟨_, live, funded, rfl⟩, rfl⟩
    exact ⟨live, funded, rfl⟩
  · rintro ⟨live, funded, rfl⟩
    exact ⟨_, ⟨cfg.address_ne_zero, live, funded, rfl⟩, rfl⟩

theorem bind_push_bond {target : Address} {amount : Nat} {Result : Type}
    {next : Hearing Address → Outcome Address Result}
    (rest : ∃ result, next { h with
      bondAsset := h.bondAsset.moved cfg.address target amount
      moves := h.moves ++ [.released target amount] } = .ok result)
    (live : target ≠ 0) (funded : amount ≤ h.bondAsset.balanceOf cfg.address) :
    ∃ result, (pushBond cfg target amount h >>= next) = .ok result :=
  bind_succeeds (push_bond_ok_iff.2 ⟨live, funded, rfl⟩) rest

omit [Zero Address] [DecidableEq Address] in
theorem require_state_ok_iff {state : EventState} {done : Unit} :
    requireState h state = .ok done ↔ h.oracle.state = state := require_ok_iff _ _ _

/-! ## One lemma for each entry point -/

theorem filed_of_propose {outcome : EventOutcome} {evidenceURI : String} {evidenceDigest : Nat}
    {up down : Reply} (filed : Filed cfg h.oracle)
    (ran : propose cfg sender outcome evidenceURI evidenceDigest up down h = .ok after) :
    Filed cfg after.oracle := by
  simp only [propose, bind_ok_iff, require_ok_iff, require_state_ok_iff, exists_const,
    Except.ok.injEq] at ran
  obtain ⟨isOpen, answer, _, _, stake, _, pulled, took, closesAt, summed, rfl⟩ := ran
  obtain ⟨live, token, moved, rfl⟩ := pull_bond_ok took
  rw [Uint64.plus_ok_iff] at summed
  constructor
  · simp only [emit, setOracle, State.claimed]
    rw [filed.answered, isOpen]
    simp
  · intro _
    exact ⟨live, answer⟩
  · intro _
    exact filed.uncontested (.inl isOpen)
  · rintro (contested | contested) <;> cases contested
  · intro _
    exact summed ▸ closesAt.isLt
  · intro later
    cases later

theorem sound_of_propose {outcome : EventOutcome} {evidenceURI : String} {evidenceDigest : Nat}
    {up down : Reply} (sound : Sound cfg h) (outsider : sender ≠ cfg.address)
    (ran : propose cfg sender outcome evidenceURI evidenceDigest up down h = .ok after) :
    Sound cfg after := by
  have filed := filed_of_propose sound.filed ran
  simp only [propose, bind_ok_iff, require_ok_iff, require_state_ok_iff, exists_const,
    Except.ok.injEq] at ran
  obtain ⟨isOpen, _, _, _, stake, _, pulled, took, closesAt, _, rfl⟩ := ran
  obtain ⟨_, token, moved, rfl⟩ := pull_bond_ok took
  obtain ⟨more, same⟩ := pulled_balance outsider moved
  have vacant : stageOf h.oracle = .vacant := by simp only [stageOf, isOpen]
  have course := sound.course
  rw [vacant] at course
  constructor
  · exact filed
  · exact course.turn (.pledges sender outcome)
  · simp only [emit, stageOf, setOracle, State.claimed, stakeIn]
    rw [more]
    exact Nat.le_add_left _ _
  · exact same.trans sound.unapproved

theorem filed_of_challenge (filed : Filed cfg h.oracle) (ran : challenge cfg sender h = .ok after) :
    Filed cfg after.oracle := by
  simp only [challenge, bind_ok_iff, require_ok_iff, require_state_ok_iff, exists_const,
    Except.ok.injEq] at ran
  obtain ⟨proposed, _, _, _, pulled, took, dueAt, summed, rfl⟩ := ran
  obtain ⟨live, token, moved, rfl⟩ := pull_bond_ok took
  rw [Uint64.plus_ok_iff] at summed
  constructor
  · simp only [emit, setOracle, State.contested]
    rw [filed.answered, proposed]
    simp
  · intro _
    apply filed.claimed
    rw [proposed]
    intro same
    cases same
  · rintro (early | early) <;> cases early
  · intro _
    exact live
  · intro later
    cases later
  · intro _
    exact summed ▸ dueAt.isLt

theorem sound_of_challenge (sound : Sound cfg h) (outsider : sender ≠ cfg.address)
    (ran : challenge cfg sender h = .ok after) : Sound cfg after := by
  have filed := filed_of_challenge sound.filed ran
  simp only [challenge, bind_ok_iff, require_ok_iff, require_state_ok_iff, exists_const,
    Except.ok.injEq] at ran
  obtain ⟨proposed, _, _, _, pulled, took, _, _, rfl⟩ := ran
  obtain ⟨_, token, moved, rfl⟩ := pull_bond_ok took
  obtain ⟨more, same⟩ := pulled_balance outsider moved
  have pledged : stageOf h.oracle = .pledged h.oracle.proposer h.oracle.proposedOutcome := by
    simp only [stageOf, proposed]
  have course := sound.course
  have covered := sound.covered
  rw [pledged] at course covered
  constructor
  · exact filed
  · exact course.turn (.contests h.oracle.proposer sender h.oracle.proposedOutcome)
  · have total : token.balanceOf cfg.address =
        h.bondAsset.balanceOf cfg.address + cfg.bond := more
    simp only [emit, stageOf, setOracle, State.contested, stakeIn] at covered ⊢
    rw [total]
    omega
  · exact same.trans sound.unapproved

theorem filed_of_finalise (filed : Filed cfg h.oracle) (ran : finalise cfg h = .ok after) :
    Filed cfg after.oracle := by
  simp only [finalise, bind_ok_iff, require_ok_iff, require_state_ok_iff, exists_const,
    Except.ok.injEq] at ran
  obtain ⟨proposed, _, _, _, pushed, paid, rfl⟩ := ran
  obtain ⟨_, _, rfl⟩ := push_bond_ok_iff.1 paid
  have claimed : h.oracle.proposer ≠ 0 ∧ h.oracle.proposedOutcome ≠ .none := by
    apply filed.claimed
    rw [proposed]
    intro same
    cases same
  constructor
  · simp [emit, setOracle, State.settled, claimed.2]
  · intro _
    exact claimed
  · rintro (early | early) <;> cases early
  · rintro (contested | contested) <;> cases contested
  · intro later
    cases later
  · intro later
    cases later

theorem sound_of_finalise (sound : Sound cfg h) (ran : finalise cfg h = .ok after) :
    Sound cfg after := by
  have filed := filed_of_finalise sound.filed ran
  simp only [finalise, bind_ok_iff, require_ok_iff, require_state_ok_iff, exists_const,
    Except.ok.injEq] at ran
  obtain ⟨proposed, _, _, _, pushed, paid, rfl⟩ := ran
  obtain ⟨_, _, rfl⟩ := push_bond_ok_iff.1 paid
  have pledged : stageOf h.oracle = .pledged h.oracle.proposer h.oracle.proposedOutcome := by
    simp only [stageOf, proposed]
  have course := sound.course
  rw [pledged] at course
  have uncontested := sound.filed.uncontested (.inr proposed)
  constructor
  · exact filed
  · have turned := course.turn (.stands h.oracle.proposer h.oracle.proposedOutcome)
    simpa [stageOf, emit, setOracle, State.settled, uncontested] using turned
  · exact Nat.zero_le _
  · exact sound.unapproved

theorem filed_of_rule {outcome : EventOutcome} {reasonURI : String} (filed : Filed cfg h.oracle)
    (ran : rule cfg sender outcome reasonURI h = .ok after) : Filed cfg after.oracle := by
  simp only [rule, bind_ok_iff, require_ok_iff, require_state_ok_iff, exists_const,
    Except.ok.injEq] at ran
  obtain ⟨_, challenged, answer, pushed, paid, rfl⟩ := ran
  obtain ⟨_, _, rfl⟩ := push_bond_ok_iff.1 paid
  constructor
  · simp [emit, setOracle, State.settled, answer]
  · intro _
    apply filed.claimed
    rw [challenged]
    intro same
    cases same
  · rintro (early | early) <;> cases early
  · rintro (late | late) <;> cases late
  · intro later
    cases later
  · intro later
    cases later

theorem sound_of_rule {outcome : EventOutcome} {reasonURI : String} (sound : Sound cfg h)
    (ran : rule cfg sender outcome reasonURI h = .ok after) : Sound cfg after := by
  have filed := filed_of_rule sound.filed ran
  simp only [rule, bind_ok_iff, require_ok_iff, require_state_ok_iff, exists_const,
    Except.ok.injEq] at ran
  obtain ⟨_, challenged, _, pushed, paid, rfl⟩ := ran
  obtain ⟨_, _, rfl⟩ := push_bond_ok_iff.1 paid
  have contested : stageOf h.oracle =
      .contested h.oracle.proposer h.oracle.challenger h.oracle.proposedOutcome := by
    simp only [stageOf, challenged]
  have course := sound.course
  rw [contested] at course
  have live := sound.filed.contested (.inl challenged)
  constructor
  · exact filed
  · have turned := course.turn
      (.judges h.oracle.proposer h.oracle.challenger h.oracle.proposedOutcome outcome)
    simpa [stageOf, emit, setOracle, State.settled, live, upheld, paidBy] using turned
  · exact Nat.zero_le _
  · exact sound.unapproved

theorem filed_of_abandon (filed : Filed cfg h.oracle) (ran : abandon cfg h = .ok after) :
    Filed cfg after.oracle := by
  simp only [abandon, bind_ok_iff, require_ok_iff, require_state_ok_iff, exists_const,
    Except.ok.injEq] at ran
  obtain ⟨challenged, _, _, _, first, paid, second, repaid, rfl⟩ := ran
  obtain ⟨_, _, rfl⟩ := push_bond_ok_iff.1 paid
  obtain ⟨_, _, rfl⟩ := push_bond_ok_iff.1 repaid
  constructor
  · simp only [emit, setOracle]
    rw [filed.answered, challenged]
    simp
  · intro _
    apply filed.claimed
    rw [challenged]
    intro same
    cases same
  · rintro (early | early) <;> cases early
  · intro _
    exact filed.contested (.inl challenged)
  · intro later
    cases later
  · intro later
    cases later

theorem sound_of_abandon (sound : Sound cfg h) (ran : abandon cfg h = .ok after) :
    Sound cfg after := by
  have filed := filed_of_abandon sound.filed ran
  simp only [abandon, bind_ok_iff, require_ok_iff, require_state_ok_iff, exists_const,
    Except.ok.injEq] at ran
  obtain ⟨challenged, _, _, _, first, paid, second, repaid, rfl⟩ := ran
  obtain ⟨_, _, rfl⟩ := push_bond_ok_iff.1 paid
  obtain ⟨_, _, rfl⟩ := push_bond_ok_iff.1 repaid
  have contested : stageOf h.oracle =
      .contested h.oracle.proposer h.oracle.challenger h.oracle.proposedOutcome := by
    simp only [stageOf, challenged]
  have course := sound.course
  rw [contested] at course
  constructor
  · exact filed
  · have turned := course.turn
      (.drops h.oracle.proposer h.oracle.challenger h.oracle.proposedOutcome)
    simpa [stageOf, emit, setOracle] using turned
  · exact Nat.zero_le _
  · exact sound.unapproved

/-- What the owner's calls leave alone. -/
structure Untouched (h after : Hearing Address) : Prop where
  timestamp : after.timestamp = h.timestamp
  moves : after.moves = h.moves
  bondAsset : after.bondAsset = h.bondAsset
  state : after.oracle.state = h.oracle.state
  outcome : after.oracle.outcome = h.oracle.outcome
  proposer : after.oracle.proposer = h.oracle.proposer
  challenger : after.oracle.challenger = h.oracle.challenger
  proposedAt : after.oracle.proposedAt = h.oracle.proposedAt
  challengedAt : after.oracle.challengedAt = h.oracle.challengedAt
  proposedOutcome : after.oracle.proposedOutcome = h.oracle.proposedOutcome

theorem Untouched.stage (same : Untouched h after) : stageOf after.oracle = stageOf h.oracle := by
  simp only [stageOf, same.state, same.outcome, same.proposer, same.challenger,
    same.proposedOutcome]

omit [DecidableEq Address] in
theorem Filed.untouched (filed : Filed cfg h.oracle) (same : Untouched h after) :
    Filed cfg after.oracle := by
  constructor
  · rw [same.outcome, same.state]
    exact filed.answered
  · rw [same.state, same.proposer, same.proposedOutcome]
    exact filed.claimed
  · rw [same.state, same.challenger]
    exact filed.uncontested
  · rw [same.state, same.challenger]
    exact filed.contested
  · rw [same.state, same.proposedAt]
    exact filed.window
  · rw [same.state, same.challengedAt]
    exact filed.ruling

theorem Sound.untouched (sound : Sound cfg h) (same : Untouched h after) : Sound cfg after := by
  constructor
  · exact sound.filed.untouched same
  · rw [same.stage, same.moves]
    exact sound.course
  · rw [same.stage, same.bondAsset]
    exact sound.covered
  · rw [same.bondAsset]
    exact sound.unapproved

theorem set_arbiter_ok {next : Address} (ran : setArbiter sender next h = .ok after) :
    sender = h.oracle.owner ∧ Untouched h after ∧ after.oracle.arbiter = next ∧
      after.oracle.owner = h.oracle.owner := by
  simp only [setArbiter, Ownable.onlyOwner, bind_ok_iff, require_ok_iff, exists_const,
    Except.ok.injEq] at ran
  obtain ⟨owned, _, _, rfl⟩ := ran
  exact ⟨owned, ⟨rfl, rfl, rfl, rfl, rfl, rfl, rfl, rfl, rfl, rfl⟩, rfl, rfl⟩

theorem set_market_ok {market : Address} {roundId : Nat}
    (ran : setMarket sender market roundId h = .ok after) : Untouched h after := by
  simp only [setMarket, bind_ok_iff, require_ok_iff, exists_const, Except.ok.injEq] at ran
  obtain ⟨_, _, _, _, _, rfl⟩ := ran
  exact ⟨rfl, rfl, rfl, rfl, rfl, rfl, rfl, rfl, rfl, rfl⟩

theorem administer_ok {call : Ownable.Call Address}
    (ran : administer sender call h = .ok after) : Untouched h after := by
  simp only [administer, bind_ok_iff, Prod.exists, Except.ok.injEq] at ran
  obtain ⟨access, event, _, rfl⟩ := ran
  exact ⟨rfl, rfl, rfl, rfl, rfl, rfl, rfl, rfl, rfl, rfl⟩

/-- Every call keeps the storage in order, whatever becomes of the bonds. -/
theorem filed_of_exec {call : Call Address} (filed : Filed cfg h.oracle)
    (ran : exec cfg sender h call = .ok after) : Filed cfg after.oracle := by
  cases call with
  | propose outcome evidenceURI evidenceDigest up down => exact filed_of_propose filed ran
  | challenge => exact filed_of_challenge filed ran
  | finalise => exact filed_of_finalise filed ran
  | rule outcome reasonURI => exact filed_of_rule filed ran
  | abandon => exact filed_of_abandon filed ran
  | setArbiter next => exact filed.untouched (set_arbiter_ok ran).2.1
  | setMarket market roundId => exact filed.untouched (set_market_ok ran)
  | administer call => exact filed.untouched (administer_ok ran)

theorem sound_of_exec {call : Call Address} (sound : Sound cfg h)
    (outsider : sender ≠ cfg.address) (ran : exec cfg sender h call = .ok after) :
    Sound cfg after := by
  cases call with
  | propose outcome evidenceURI evidenceDigest up down =>
      exact sound_of_propose sound outsider ran
  | challenge => exact sound_of_challenge sound outsider ran
  | finalise => exact sound_of_finalise sound ran
  | rule outcome reasonURI => exact sound_of_rule sound ran
  | abandon => exact sound_of_abandon sound ran
  | setArbiter next => exact sound.untouched (set_arbiter_ok ran).2.1
  | setMarket market roundId => exact sound.untouched (set_market_ok ran)
  | administer call => exact sound.untouched (administer_ok ran)

end Inversion

/-! ## Along a run -/

section Runs

variable {cfg : Config Address} {x after later : Hearing Address}

theorem filed_of_deployed (start : Deployed cfg x) : Filed cfg x.oracle := by
  obtain ⟨owner, arbiter, _, _, fresh⟩ := start.fresh
  rw [fresh]
  constructor <;> simp [deployed]

theorem sound_of_deployed (start : Deployed cfg x) : Sound cfg x := by
  obtain ⟨owner, arbiter, _, _, fresh⟩ := start.fresh
  constructor
  · exact filed_of_deployed start
  · rw [fresh, start.unmoved]
    exact .start
  · rw [fresh]
    exact Nat.zero_le _
  · exact start.unapproved

theorem sound_of_step {action : Action Address} (sound : Sound cfg x)
    (taken : (machine cfg).step x action after) : Sound cfg after := by
  obtain ⟨external, ran⟩ := taken
  cases action with
  | question sender call => exact sound_of_exec sound external.1 ran
  | asset sender call =>
      simp only [act, pay, bind_ok_iff, Except.ok.injEq] at ran
      obtain ⟨token, ran, rfl⟩ := ran
      obtain ⟨more, same⟩ := Erc20.exec_keeps_unapproved external.1
        (fun spender _ => congrFun sound.unapproved spender) ran
      exact ⟨sound.filed, sound.course, sound.covered.trans more, same.trans sound.unapproved⟩
  | wait seconds =>
      cases ran
      exact ⟨sound.filed, sound.course, sound.covered, sound.unapproved⟩

theorem sound_of_reachable (reached : (machine cfg).Reachable x) : Sound cfg x :=
  reached.invariant (Sound cfg) (fun _ => sound_of_deployed)
    (fun _ _ _ _ sound taken => sound_of_step sound taken)

/-- Nothing but the owner's calls is accepted on a closed question. -/
theorem untouched_of_closed {sender : Address} {call : Call Address}
    (closed : x.oracle.state = .final ∨ x.oracle.state = .abandoned)
    (ran : exec cfg sender x call = .ok after) : Untouched x after := by
  have notIn : ∀ state, state ≠ .final → state ≠ .abandoned → x.oracle.state ≠ state := by
    intro state notFinal notAbandoned same
    rcases closed with closed | closed
    · exact notFinal (same.symm.trans closed)
    · exact notAbandoned (same.symm.trans closed)
  cases call with
  | propose outcome evidenceURI evidenceDigest up down =>
      simp only [exec, propose, bind_ok_iff, require_state_ok_iff, exists_const] at ran
      exact absurd ran.1 (notIn .open EventState.noConfusion EventState.noConfusion)
  | challenge =>
      simp only [exec, challenge, bind_ok_iff, require_state_ok_iff, exists_const] at ran
      exact absurd ran.1 (notIn .proposed EventState.noConfusion EventState.noConfusion)
  | finalise =>
      simp only [exec, finalise, bind_ok_iff, require_state_ok_iff, exists_const] at ran
      exact absurd ran.1 (notIn .proposed EventState.noConfusion EventState.noConfusion)
  | rule outcome reasonURI =>
      simp only [exec, rule, bind_ok_iff, require_ok_iff, require_state_ok_iff,
        exists_const] at ran
      exact absurd ran.2.1 (notIn .challenged EventState.noConfusion EventState.noConfusion)
  | abandon =>
      simp only [exec, abandon, bind_ok_iff, require_state_ok_iff, exists_const] at ran
      exact absurd ran.1 (notIn .challenged EventState.noConfusion EventState.noConfusion)
  | setArbiter next => exact (set_arbiter_ok ran).2.1
  | setMarket market roundId => exact set_market_ok ran
  | administer call => exact administer_ok ran

/-- An answer stands. -/
theorem closed_of_path (path : (machine cfg).Path x later)
    (closed : x.oracle.state = .final ∨ x.oracle.state = .abandoned) :
    later.oracle.state = x.oracle.state ∧ later.oracle.outcome = x.oracle.outcome := by
  induction path with
  | refl => exact ⟨rfl, rfl⟩
  | @tail mid final before taken ih =>
      obtain ⟨action, _, ran⟩ := taken
      obtain ⟨state, outcome⟩ := ih
      rw [← state] at closed
      rw [← state, ← outcome]
      cases action with
      | question sender call =>
          have same := untouched_of_closed closed ran
          exact ⟨same.state, same.outcome⟩
      | asset sender call =>
          simp only [act, pay, bind_ok_iff, Except.ok.injEq] at ran
          obtain ⟨token, _, rfl⟩ := ran
          exact ⟨rfl, rfl⟩
      | wait seconds =>
          cases ran
          exact ⟨rfl, rfl⟩

def bondsIn (cfg : Config Address) : EventState → Nat
  | .proposed => cfg.bond
  | .challenged => 2 * cfg.bond
  | .open | .final | .abandoned => 0

theorem stake_in_stage (oracle : State Address) :
    stakeIn cfg.bond (stageOf oracle) = bondsIn cfg oracle.state := by
  cases state : oracle.state <;> simp [stageOf, state, stakeIn, bondsIn]

theorem Sound.bonds_held (sound : Sound cfg x) : bondsHeld x = bondsIn cfg x.oracle.state := by
  have conserved := sound.course.conserved
  rw [stake_in_stage] at conserved
  unfold bondsHeld
  omega

/-! ## Nobody's bond is stuck -/

/-- An unchallenged claim settles at anybody's call from the end of its window. -/
theorem finalises (sound : Sound cfg x) (sender : Address)
    (proposed : x.oracle.state = .proposed)
    (late : x.oracle.proposedAt.val + cfg.challengeWindow.val ≤ x.timestamp) :
    ∃ after, exec cfg sender x .finalise = .ok after ∧ after.oracle.state = .final ∧
      after.oracle.outcome = x.oracle.proposedOutcome ∧ bondsHeld after = 0 := by
  have fits := sound.filed.window proposed
  have live : x.oracle.proposer ≠ 0 := by
    refine (sound.filed.claimed ?_).1
    rw [proposed]
    nofun
  have funded : cfg.bond ≤ x.bondAsset.balanceOf cfg.address := by
    have covered := sound.covered
    rw [stake_in_stage, proposed] at covered
    exact covered
  have closes : (Uint64.plus x.oracle.proposedAt cfg.challengeWindow : Outcome Address Uint64) =
      .ok ⟨_, fits⟩ := Uint64.plus_ok_iff.2 rfl
  have ran : ∃ after, finalise cfg x = .ok after := by
    apply bind_succeeds (require_state_ok_iff.2 proposed : requireState x _ = .ok ())
    apply bind_succeeds closes
    apply bind_succeeds (require_of _ late)
    exact bind_push_bond ⟨_, rfl⟩ live funded
  obtain ⟨after, ran⟩ := ran
  have state : after.oracle.state = .final ∧
      after.oracle.outcome = x.oracle.proposedOutcome := by
    simp only [finalise, bind_ok_iff, require_ok_iff, require_state_ok_iff, exists_const,
      Except.ok.injEq] at ran
    obtain ⟨_, _, _, _, pushed, paid, rfl⟩ := ran
    obtain ⟨_, _, rfl⟩ := push_bond_ok_iff.1 paid
    exact ⟨rfl, rfl⟩
  refine ⟨after, ran, state.1, state.2, ?_⟩
  rw [(sound_of_finalise sound ran).bonds_held, state.1]
  rfl

/-- A challenge nobody ruled on is given up at anybody's call from its deadline. -/
theorem abandons (sound : Sound cfg x) (sender : Address)
    (challenged : x.oracle.state = .challenged)
    (late : x.oracle.challengedAt.val + cfg.rulingDeadline.val ≤ x.timestamp) :
    ∃ after, exec cfg sender x .abandon = .ok after ∧ after.oracle.state = .abandoned ∧
      bondsHeld after = 0 := by
  have fits := sound.filed.ruling challenged
  have proposerLive : x.oracle.proposer ≠ 0 := by
    refine (sound.filed.claimed ?_).1
    rw [challenged]
    nofun
  have challengerLive := sound.filed.contested (.inl challenged)
  have funded : 2 * cfg.bond ≤ x.bondAsset.balanceOf cfg.address := by
    have covered := sound.covered
    rw [stake_in_stage, challenged] at covered
    exact covered
  have first : cfg.bond ≤ x.bondAsset.balanceOf cfg.address := by omega
  have second : cfg.bond ≤ (x.bondAsset.moved cfg.address x.oracle.proposer
      cfg.bond).balanceOf cfg.address := by
    have left := Erc20.moved_balance_debit x.bondAsset cfg.address x.oracle.proposer first
    omega
  have due : (Uint64.plus x.oracle.challengedAt cfg.rulingDeadline : Outcome Address Uint64) =
      .ok ⟨_, fits⟩ := Uint64.plus_ok_iff.2 rfl
  have ran : ∃ after, abandon cfg x = .ok after := by
    apply bind_succeeds (require_state_ok_iff.2 challenged : requireState x _ = .ok ())
    apply bind_succeeds due
    apply bind_succeeds (require_of _ late)
    refine bind_push_bond ?_ proposerLive first
    exact bind_push_bond ⟨_, rfl⟩ challengerLive second
  obtain ⟨after, ran⟩ := ran
  have state : after.oracle.state = .abandoned := by
    simp only [abandon, bind_ok_iff, require_ok_iff, require_state_ok_iff, exists_const,
      Except.ok.injEq] at ran
    obtain ⟨_, _, _, _, pushed, paid, repushed, repaid, rfl⟩ := ran
    obtain ⟨_, _, rfl⟩ := push_bond_ok_iff.1 paid
    obtain ⟨_, _, rfl⟩ := push_bond_ok_iff.1 repaid
    rfl
  refine ⟨after, ran, state, ?_⟩
  rw [(sound_of_abandon sound ran).bonds_held, state]
  rfl

end Runs

end EventOracle

end Ghoststake
