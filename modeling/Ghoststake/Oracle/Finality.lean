import Ghoststake.Oracle.Bonds

/-!
# Who decides a question

Besides the calls open to anybody only a ruling moves a bond or sets an
outcome, and the arbiter makes it; but the owner says who the arbiter is.
-/

namespace Ghoststake

set_option autoImplicit false

open Checked BondedClaim

namespace EventOracle

variable {Address : Type} [Zero Address] [DecidableEq Address] {cfg : Config Address}
  {x after : Hearing Address} {sender : Address}

def Call.Permissionless : Call Address → Prop
  | .propose _ _ _ _ _ | .challenge | .finalise | .abandon => True
  | .rule _ _ | .setArbiter _ | .setMarket _ _ | .administer _ => False

/-- Calls the clock alone decides on. -/
def Call.Timed : Call Address → Prop
  | .finalise | .abandon => True
  | .propose _ _ _ _ _ | .challenge | .rule _ _ | .setArbiter _ | .setMarket _ _
  | .administer _ => False

/-- What comes about while one account is the only one to call the question:
its calls, the asset changing hands, and time. -/
def Alone (cfg : Config Address) (account : Address) (x after : Hearing Address) : Prop :=
  ∃ action : Action Address, action.External cfg ∧
    (∀ sender call, action = .question sender call → sender = account) ∧
    act cfg x action = .ok after

/-- From here on the owner alone pays out no bond and sets no outcome, but for
the calls the clock decides on. -/
def OwnerPowerless (cfg : Config Address) (x : Hearing Address) : Prop :=
  ∀ mid call after, Relation.ReflTransGen (Alone cfg x.oracle.owner) x mid →
    (Action.question x.oracle.owner call).External cfg → ¬call.Timed →
    exec cfg x.oracle.owner mid call = .ok after →
    released after.moves = released mid.moves ∧ after.oracle.outcome = mid.oracle.outcome

/-- No account can act as the owner. -/
def Renounced (cfg : Config Address) (x : Hearing Address) : Prop :=
  x.oracle.owner = 0 ∨ x.oracle.owner = cfg.address

/-- There is a dispute, or still time to start one. The sums are those of the
deadlines the calls write down, which revert when they do not fit. -/
def Disputable (cfg : Config Address) (x : Hearing Address) : Prop :=
  match x.oracle.state with
  | .open =>
      max x.timestamp cfg.eventTime.val + cfg.challengeWindow.val < 2 ^ 64 ∧
        max x.timestamp cfg.eventTime.val + cfg.rulingDeadline.val < 2 ^ 64
  | .proposed =>
      x.timestamp < x.oracle.proposedAt.val + cfg.challengeWindow.val ∧
        x.timestamp + cfg.rulingDeadline.val < 2 ^ 64
  | .challenged => True
  | .final | .abandoned => False

/-- A call that asks who makes it touches no bond unless it is a ruling. -/
theorem untouched_of_exec {call : Call Address} (asks : ¬call.Permissionless)
    (ran : exec cfg sender x call = .ok after) :
    Untouched x after ∨
      x.oracle.state = .challenged ∧ sender = x.oracle.arbiter := by
  cases call with
  | propose outcome evidenceURI evidenceDigest up down => exact absurd trivial asks
  | challenge => exact absurd trivial asks
  | finalise => exact absurd trivial asks
  | abandon => exact absurd trivial asks
  | rule outcome reasonURI =>
      simp only [exec, rule, bind_ok_iff, require_ok_iff, require_state_ok_iff,
        exists_const] at ran
      exact .inr ⟨ran.2.1, ran.1⟩
  | setArbiter next => exact .inl (set_arbiter_ok ran).2.1
  | setMarket market roundId => exact .inl (set_market_ok ran)
  | administer call => exact .inl (administer_ok ran)

/-- The arbiter of a pending challenge can always rule. -/
theorem rules (sound : Sound cfg x) (challenged : x.oracle.state = .challenged)
    {outcome : EventOutcome} (answer : outcome ≠ .none) (reasonURI : String) :
    ∃ after, exec cfg x.oracle.arbiter x (.rule outcome reasonURI) = .ok after ∧
      after.moves = x.moves ++ [.released (paidBy x.oracle outcome) (cfg.bond * 2)] ∧
      after.oracle.outcome = outcome := by
  have live : paidBy x.oracle outcome ≠ 0 := by
    unfold paidBy
    split_ifs
    · refine (sound.filed.claimed ?_).1
      rw [challenged]
      nofun
    · exact sound.filed.contested (.inl challenged)
  have funded : cfg.bond * 2 ≤ x.bondAsset.balanceOf cfg.address := by
    have covered := sound.covered
    rw [stake_in_stage, challenged, bondsIn] at covered
    omega
  have ran : ∃ after, rule cfg x.oracle.arbiter outcome reasonURI x = .ok after := by
    apply bind_succeeds (require_of _ rfl)
    apply bind_succeeds (require_state_ok_iff.2 challenged : requireState x _ = .ok ())
    apply bind_succeeds (require_of _ answer)
    exact bind_push_bond ⟨_, rfl⟩ live funded
  obtain ⟨after, ran⟩ := ran
  refine ⟨after, ran, ?_⟩
  simp only [rule, bind_ok_iff, require_ok_iff, require_state_ok_iff, exists_const,
    Except.ok.injEq] at ran
  obtain ⟨_, _, _, pushed, paid, rfl⟩ := ran
  obtain ⟨_, _, rfl⟩ := push_bond_ok_iff.1 paid
  exact ⟨rfl, rfl⟩

/-! ## The owner on its own -/

theorem alone_of_exec {call : Call Address} (outside : (Action.question sender call).External cfg)
    (ran : exec cfg sender x call = .ok after) : Alone cfg sender x after := by
  refine ⟨.question sender call, outside, ?_, ran⟩
  intro _ _ same
  cases same
  rfl

theorem truncate_val_of_lt {value : Nat} (fits : value < 2 ^ 64) :
    (Uint64.truncate value).val = value := Nat.mod_eq_of_lt fits

omit [Zero Address] [DecidableEq Address] in
theorem released_posted (moves : List (Movement Address)) (party : Address) (amount : Nat) :
    released (moves ++ [.posted party amount]) = released moves := by
  rw [released_append]
  simp [released, Movement.amountReleased]

omit [DecidableEq Address] in
theorem disputable_of_untouched (same : Untouched x after) (disputable : Disputable cfg after) :
    Disputable cfg x := by
  unfold Disputable at disputable ⊢
  rw [same.state, same.timestamp, same.proposedAt] at disputable
  exact disputable

omit [DecidableEq Address] in
theorem disputable_of_waited {seconds : Nat}
    (disputable : Disputable cfg { x with timestamp := x.timestamp + seconds }) :
    Disputable cfg x := by
  unfold Disputable at disputable ⊢
  cases state : x.oracle.state with
  | «open» =>
      simp only [state] at disputable ⊢
      omega
  | proposed =>
      simp only [state] at disputable ⊢
      omega
  | challenged => trivial
  | final => simp only [state] at disputable
  | abandoned => simp only [state] at disputable

/-- Where no dispute can be started, no call starts one. -/
theorem disputable_of_exec {call : Call Address} (ran : exec cfg sender x call = .ok after)
    (disputable : Disputable cfg after) : Disputable cfg x := by
  cases call with
  | propose outcome evidenceURI evidenceDigest up down =>
      simp only [exec, propose, bind_ok_iff, require_ok_iff, require_state_ok_iff, exists_const,
        Except.ok.injEq] at ran
      obtain ⟨isOpen, _, happened, _, stake, _, pulled, took, closesAt, summed, rfl⟩ := ran
      obtain ⟨_, token, _, rfl⟩ := pull_bond_ok took
      rw [Uint64.plus_ok_iff] at summed
      have fits := closesAt.isLt
      obtain ⟨inTime, due⟩ := disputable
      simp only [emit, setOracle, State.claimed, Uint64.truncate] at inTime due summed
      -- while the window is open the clock has not left its 64 bits
      have kept : x.timestamp % 2 ^ 64 = x.timestamp := Nat.mod_eq_of_lt (by omega)
      rw [Disputable, isOpen]
      simp only [max_eq_left happened]
      omega
  | challenge =>
      simp only [exec, challenge, bind_ok_iff, require_ok_iff, require_state_ok_iff, exists_const,
        Except.ok.injEq] at ran
      obtain ⟨proposed, closesAt, closes, inTime, pulled, took, dueAt, summed, _⟩ := ran
      obtain ⟨_, token, _, rfl⟩ := pull_bond_ok took
      rw [Uint64.plus_ok_iff] at closes summed
      have small := closesAt.isLt
      have fits := dueAt.isLt
      simp only [setOracle, Uint64.truncate] at summed
      have kept : x.timestamp % 2 ^ 64 = x.timestamp := Nat.mod_eq_of_lt (by omega)
      rw [Disputable, proposed]
      exact ⟨by omega, by omega⟩
  | finalise =>
      simp only [exec, finalise, bind_ok_iff, require_ok_iff, require_state_ok_iff, exists_const,
        Except.ok.injEq] at ran
      obtain ⟨_, _, _, _, pushed, paid, rfl⟩ := ran
      obtain ⟨_, _, rfl⟩ := push_bond_ok_iff.1 paid
      exact disputable.elim
  | rule outcome reasonURI =>
      simp only [exec, rule, bind_ok_iff, require_ok_iff, require_state_ok_iff, exists_const,
        Except.ok.injEq] at ran
      obtain ⟨_, _, _, pushed, paid, rfl⟩ := ran
      obtain ⟨_, _, rfl⟩ := push_bond_ok_iff.1 paid
      exact disputable.elim
  | abandon =>
      simp only [exec, abandon, bind_ok_iff, require_ok_iff, require_state_ok_iff, exists_const,
        Except.ok.injEq] at ran
      obtain ⟨_, _, _, _, first, paid, second, repaid, rfl⟩ := ran
      obtain ⟨_, _, rfl⟩ := push_bond_ok_iff.1 paid
      obtain ⟨_, _, rfl⟩ := push_bond_ok_iff.1 repaid
      exact disputable.elim
  | setArbiter next => exact disputable_of_untouched (set_arbiter_ok ran).2.1 disputable
  | setMarket market roundId => exact disputable_of_untouched (set_market_ok ran) disputable
  | administer call => exact disputable_of_untouched (administer_ok ran) disputable

theorem disputable_of_alone {account : Address}
    (run : Relation.ReflTransGen (Alone cfg account) x after) (disputable : Disputable cfg after) :
    Disputable cfg x := by
  induction run with
  | refl => exact disputable
  | tail _ taken ih =>
      obtain ⟨action, _, _, ran⟩ := taken
      apply ih
      cases action with
      | question sender call => exact disputable_of_exec ran disputable
      | asset sender call =>
          simp only [act, pay, bind_ok_iff, Except.ok.injEq] at ran
          obtain ⟨token, _, rfl⟩ := ran
          exact disputable
      | wait seconds =>
          cases ran
          exact disputable_of_waited disputable

/-- Outside a dispute only the clock's calls pay out or answer. -/
theorem unpaid_of_exec {call : Call Address} (calm : x.oracle.state ≠ .challenged)
    (untimed : ¬call.Timed) (ran : exec cfg sender x call = .ok after) :
    released after.moves = released x.moves ∧ after.oracle.outcome = x.oracle.outcome := by
  by_cases asks : call.Permissionless
  · cases call with
    | propose outcome evidenceURI evidenceDigest up down =>
        simp only [exec, propose, bind_ok_iff, Except.ok.injEq] at ran
        obtain ⟨_, _, _, _, _, _, _, _, stake, _, pulled, took, _, _, rfl⟩ := ran
        obtain ⟨_, token, _, rfl⟩ := pull_bond_ok took
        exact ⟨released_posted _ _ _, rfl⟩
    | challenge =>
        simp only [exec, challenge, bind_ok_iff, Except.ok.injEq] at ran
        obtain ⟨_, _, _, _, _, _, pulled, took, _, _, rfl⟩ := ran
        obtain ⟨_, token, _, rfl⟩ := pull_bond_ok took
        exact ⟨released_posted _ _ _, rfl⟩
    | finalise => exact absurd trivial untimed
    | abandon => exact absurd trivial untimed
    | rule outcome reasonURI => exact asks.elim
    | setArbiter next => exact asks.elim
    | setMarket market roundId => exact asks.elim
    | administer call => exact asks.elim
  · rcases untouched_of_exec asks ran with same | ⟨challenged, _⟩
    · exact ⟨congrArg released same.moves, same.outcome⟩
    · exact absurd challenged calm

/-- The asset can always bring an account what a bond costs. -/
theorem alone_of_wait {account : Address} (seconds : Nat) :
    Alone cfg account x { x with timestamp := x.timestamp + seconds } := by
  refine ⟨.wait seconds, trivial, ?_, rfl⟩
  intro sender call same
  cases same

theorem alone_of_asset {account : Address} {call : Erc20.Call Address}
    (outside : (Action.asset account call).External cfg)
    (ran : act cfg x (.asset account call) = .ok after) : Alone cfg account x after := by
  refine ⟨_, outside, ?_, ran⟩
  intro sender call same
  cases same

theorem funded_alone {account : Address} (live : account ≠ 0) (outsider : account ≠ cfg.address)
    (sound : Sound cfg x) :
    ∃ token, Relation.ReflTransGen (Alone cfg account) x { x with bondAsset := token } ∧
      cfg.bond ≤ token.balanceOf account ∧
      token.allowance account cfg.address = uint256Max ∧
      Sound cfg { x with bondAsset := token } := by
  obtain ⟨minted, mints⟩ : ∃ minted, x.bondAsset.exec account (.mint account cfg.bond) = .ok minted :=
    bind_succeeds (require_of _ live) ⟨_, (Erc20.mint_ok_iff _ _ live _).2 rfl⟩
  obtain ⟨token, approved, kept, allowed⟩ :=
    Erc20.approves minted live cfg.address_ne_zero uint256Max
  have holds : cfg.bond ≤ minted.balanceOf account := by
    have credited : x.bondAsset.update 0 account cfg.bond = .ok minted := by
      simpa [Erc20.exec, live] using mints
    rw [← (Erc20.mint_ok_iff _ _ live _).1 credited]
    simp
  have outside : ∀ call, (Action.asset account call).External cfg := fun _ => ⟨outsider, live⟩
  have step : ∀ (h : Hearing Address) call token, h.bondAsset.exec account call = .ok token →
      act cfg h (.asset account call) = .ok { h with bondAsset := token } := by
    intro h call token ran
    simp only [act, pay, bind_ok_iff, Except.ok.injEq]
    exact ⟨token, ran, rfl⟩
  have first := step x _ _ mints
  have second := step { x with bondAsset := minted } (.approve cfg.address uint256Max) token approved
  refine ⟨token, ?_, kept ▸ holds, allowed, ?_⟩
  · exact .tail (.single (alone_of_asset (outside _) first)) (alone_of_asset (outside _) second)
  · exact sound_of_step (sound_of_step sound ⟨outside _, first⟩) ⟨outside _, second⟩

/-- Somebody who holds a bond and has approved it can post it. -/
theorem bind_pull_bond {Result : Type} {next : Hearing Address → Outcome Address Result}
    (rest : ∀ token, ∃ result, next { x with
      bondAsset := token
      moves := x.moves ++ [.posted sender cfg.bond] } = .ok result)
    (live : sender ≠ 0) (funded : cfg.bond ≤ x.bondAsset.balanceOf sender)
    (allowed : x.bondAsset.allowance sender cfg.address = uint256Max) :
    ∃ result, (pullBond cfg sender x >>= next) = .ok result := by
  obtain ⟨token, pulled⟩ : ∃ token,
      x.bondAsset.transferFrom cfg.address sender cfg.address cfg.bond = .ok token :=
    ⟨_, (Erc20.transfer_from_ok_iff _ _ _ _ _ _).2
      ⟨.inl allowed.ge, live, cfg.address_ne_zero, funded, rfl⟩⟩
  refine bind_succeeds ?_ (rest token)
  simp only [pullBond, pulled, ok_bind]

/-- While a claim can be challenged, an account on its own can do so. -/
theorem challenged_alone {account : Address} (live : account ≠ 0)
    (outsider : account ≠ cfg.address) (sound : Sound cfg x)
    (proposed : x.oracle.state = .proposed) (disputable : Disputable cfg x) :
    ∃ mid, Relation.ReflTransGen (Alone cfg account) x mid ∧ Sound cfg mid ∧
      mid.oracle.state = .challenged ∧ mid.oracle.owner = x.oracle.owner := by
  rw [Disputable, proposed] at disputable
  obtain ⟨inTime, due⟩ := disputable
  have window := sound.filed.window proposed
  obtain ⟨token, funds, funded, allowed, ready⟩ := funded_alone live outsider sound
  have closes : (Uint64.plus x.oracle.proposedAt cfg.challengeWindow : Outcome Address Uint64) =
      .ok ⟨_, window⟩ := Uint64.plus_ok_iff.2 rfl
  have fits : (Uint64.truncate x.timestamp).val + cfg.rulingDeadline.val < 2 ^ 64 := by
    rw [truncate_val_of_lt (by omega)]
    exact due
  have rules : (Uint64.plus (Uint64.truncate x.timestamp) cfg.rulingDeadline :
      Outcome Address Uint64) = .ok ⟨_, fits⟩ := Uint64.plus_ok_iff.2 rfl
  have ran : ∃ mid, challenge cfg account { x with bondAsset := token } = .ok mid := by
    apply bind_succeeds (require_state_ok_iff.2 proposed : requireState _ _ = .ok ())
    apply bind_succeeds closes
    apply bind_succeeds (require_of _ inTime)
    refine bind_pull_bond (fun _ => ?_) live funded allowed
    exact bind_succeeds rules ⟨_, rfl⟩
  obtain ⟨mid, ran⟩ := ran
  have outside : (Action.question account .challenge).External cfg := ⟨outsider, live⟩
  have challenges : Alone cfg account { x with bondAsset := token } mid :=
    alone_of_exec outside ran
  refine ⟨mid, funds.tail challenges, sound_of_challenge ready outsider ran, ?_⟩
  simp only [challenge, bind_ok_iff, Except.ok.injEq] at ran
  obtain ⟨_, _, _, _, _, _, pulled, took, _, _, rfl⟩ := ran
  obtain ⟨_, token, _, rfl⟩ := pull_bond_ok took
  exact ⟨rfl, rfl⟩

/-- An account on its own can claim an answer to an open question once the
event has happened. -/
theorem proposed_alone {account : Address} (live : account ≠ 0)
    (outsider : account ≠ cfg.address) (sound : Sound cfg x)
    (isOpen : x.oracle.state = .open) (disputable : Disputable cfg x) :
    ∃ mid, Relation.ReflTransGen (Alone cfg account) x mid ∧ Sound cfg mid ∧
      mid.oracle.state = .proposed ∧ Disputable cfg mid ∧
      mid.oracle.owner = x.oracle.owner := by
  rw [Disputable, isOpen] at disputable
  obtain ⟨window, due⟩ := disputable
  let seconds := cfg.eventTime.val - x.timestamp
  let waited : Hearing Address := { x with timestamp := x.timestamp + seconds }
  have clock : waited.timestamp = max x.timestamp cfg.eventTime.val := by
    simp only [waited, seconds]
    omega
  rw [← clock] at window due
  have patient : Alone cfg account x waited := alone_of_wait seconds
  have waits : (machine cfg).step x (.wait seconds) waited := ⟨trivial, rfl⟩
  obtain ⟨token, funds, funded, allowed, ready⟩ :=
    funded_alone live outsider (sound_of_step sound waits)
  have happened : cfg.eventTime.val ≤ waited.timestamp := by
    rw [clock]
    exact Nat.le_max_right _ _
  have kept : (Uint64.truncate waited.timestamp).val = waited.timestamp :=
    truncate_val_of_lt (by omega)
  have fits : (Uint64.truncate waited.timestamp).val + cfg.challengeWindow.val < 2 ^ 64 := by
    rw [kept]
    exact window
  have closes : (Uint64.plus (Uint64.truncate waited.timestamp) cfg.challengeWindow :
      Outcome Address Uint64) = .ok ⟨_, fits⟩ := Uint64.plus_ok_iff.2 rfl
  have unstaked : stakeOf x.oracle none none = .ok 0 := by
    unfold stakeOf
    split_ifs <;> rfl
  have ran : ∃ mid, propose cfg account .yes "" 1 none none
      { waited with bondAsset := token } = .ok mid := by
    apply bind_succeeds (require_state_ok_iff.2 isOpen : requireState _ _ = .ok ())
    apply bind_succeeds (require_of _ (by decide))
    apply bind_succeeds (require_of _ happened)
    apply bind_succeeds (require_of _ Figures.one_ne_zero)
    apply bind_succeeds unstaked
    refine bind_pull_bond (fun _ => ?_) live funded allowed
    exact bind_succeeds closes ⟨_, rfl⟩
  obtain ⟨mid, ran⟩ := ran
  have outside : (Action.question account (.propose .yes "" 1 none none)).External cfg :=
    ⟨outsider, live⟩
  have proposes : Alone cfg account { waited with bondAsset := token } mid :=
    alone_of_exec outside ran
  refine ⟨mid, (funds.head patient).tail proposes, sound_of_propose ready outsider ran, ?_⟩
  simp only [propose, bind_ok_iff, Except.ok.injEq] at ran
  obtain ⟨_, _, _, _, _, _, _, _, stake, _, pulled, took, _, _, rfl⟩ := ran
  obtain ⟨_, token, _, rfl⟩ := pull_bond_ok took
  refine ⟨rfl, ⟨?_, due⟩, rfl⟩
  have positive := Nat.pos_of_ne_zero cfg.challenge_window_ne_zero
  change waited.timestamp < (Uint64.truncate waited.timestamp).val + cfg.challengeWindow.val
  omega

/-- While a dispute can be started, an account on its own can start it. -/
theorem disputed_alone {account : Address} (live : account ≠ 0)
    (outsider : account ≠ cfg.address) (sound : Sound cfg x) (disputable : Disputable cfg x) :
    ∃ mid, Relation.ReflTransGen (Alone cfg account) x mid ∧ Sound cfg mid ∧
      mid.oracle.state = .challenged ∧ mid.oracle.owner = x.oracle.owner := by
  cases state : x.oracle.state with
  | «open» =>
      obtain ⟨claimed, proposes, ready, proposed, still, owner⟩ :=
        proposed_alone live outsider sound state disputable
      obtain ⟨mid, challenges, disputed⟩ :=
        challenged_alone live outsider ready proposed still
      exact ⟨mid, proposes.trans challenges, owner ▸ disputed⟩
  | proposed => exact challenged_alone live outsider sound state disputable
  | challenged => exact ⟨x, .refl, sound, state, rfl⟩
  | final =>
      rw [Disputable, state] at disputable
      exact disputable.elim
  | abandoned =>
      rw [Disputable, state] at disputable
      exact disputable.elim

/-- The owner of a dispute can name itself the arbiter. -/
theorem appoints_itself (live : x.oracle.owner ≠ 0) (challenged : x.oracle.state = .challenged) :
    ∃ mid, setArbiter x.oracle.owner x.oracle.owner x = .ok mid := by
  have pending : ¬(x.oracle.state = .final ∨ x.oracle.state = .abandoned) := by
    rw [challenged]
    rintro (closed | closed) <;> cases closed
  apply bind_succeeds (require_of _ rfl)
  apply bind_succeeds (require_of _ live)
  apply bind_succeeds (require_of _ pending)
  exact ⟨_, rfl⟩

/-- The owner is powerless exactly when nobody can act as it or no dispute can
be had any more. -/
theorem owner_powerless_iff (sound : Sound cfg x) :
    OwnerPowerless cfg x ↔ Renounced cfg x ∨ ¬Disputable cfg x := by
  constructor
  · intro powerless
    by_contra condition
    rw [not_or, not_not, Renounced, not_or] at condition
    obtain ⟨⟨live, outsider⟩, disputable⟩ := condition
    obtain ⟨mid, disputes, disputed, challenged, owner⟩ :=
      disputed_alone live outsider sound disputable
    rw [← owner] at live outsider disputes
    rw [OwnerPowerless, ← owner] at powerless
    obtain ⟨armed, appointed⟩ := appoints_itself live challenged
    obtain ⟨_, same, arbiter, _⟩ := set_arbiter_ok appointed
    have answer : EventOutcome.yes ≠ .none := by nofun
    obtain ⟨final, ruled, moves, _⟩ := rules (disputed.untouched same)
      (same.state.trans challenged) answer ""
    rw [arbiter] at ruled
    have outside : ∀ call, (Action.question mid.oracle.owner call).External cfg :=
      fun _ => ⟨outsider, live⟩
    have appoints : Alone cfg mid.oracle.owner mid armed :=
      alone_of_exec (outside (.setArbiter mid.oracle.owner)) appointed
    have unpaid := (powerless armed _ final (disputes.tail appoints) (outside _) id ruled).1
    rw [moves, released_append] at unpaid
    have positive := Nat.pos_of_ne_zero cfg.bond_ne_zero
    simp [released, Movement.amountReleased] at unpaid
    omega
  · intro condition mid call after run outside untimed ran
    rcases condition with (zero | contract) | shut
    · exact absurd zero outside.2
    · exact absurd contract outside.1
    · refine unpaid_of_exec ?_ untimed ran
      intro challenged
      apply shut
      refine disputable_of_alone run ?_
      rw [Disputable, challenged]
      trivial

/-- What a question keeps whoever calls it, and in which states its owner alone
has no hand in it. -/
theorem bonds_and_finality_iff (cfg : Config Address) (x : Hearing Address)
    (reached : (machine cfg).Reachable x) :
    (bondsHeld x = bondsIn cfg x.oracle.state ∧
      bondsHeld x ≤ x.bondAsset.balanceOf cfg.address) ∧
    Accounted cfg.bond (stageOf x.oracle) x.moves ∧
    (x.oracle.outcome = .none ↔ x.oracle.state ≠ .final) ∧
    (∀ oracleRoundId time, (readAt x.oracle oracleRoundId time).1 = true ↔
      x.oracle.state = .final) ∧
    (∀ later, (machine cfg).Path x later → x.oracle.state = .final →
      later.oracle.state = .final ∧ later.oracle.outcome = x.oracle.outcome ∧
      ∀ oracleRoundId time laterId laterTime,
        readAt later.oracle laterId laterTime = readAt x.oracle oracleRoundId time) ∧
    (∀ sender, x.oracle.state = .proposed →
      x.oracle.proposedAt.val + cfg.challengeWindow.val ≤ x.timestamp →
      ∃ after, exec cfg sender x .finalise = .ok after ∧ bondsHeld after = 0) ∧
    (∀ sender, x.oracle.state = .challenged →
      x.oracle.challengedAt.val + cfg.rulingDeadline.val ≤ x.timestamp →
      ∃ after, exec cfg sender x .abandon = .ok after ∧ bondsHeld after = 0) ∧
    (∀ sender call after, exec cfg sender x call = .ok after →
      after.moves ≠ x.moves ∨ after.oracle.outcome ≠ x.oracle.outcome →
      call.Permissionless ∨ sender = x.oracle.arbiter) ∧
    (OwnerPowerless cfg x ↔ Renounced cfg x ∨ ¬Disputable cfg x) := by
  have sound := sound_of_reachable reached
  refine ⟨⟨sound.bonds_held, ?_⟩, sound.course.accounted, sound.filed.answered, ?_, ?_, ?_, ?_,
    ?_, owner_powerless_iff sound⟩
  · rw [sound.bonds_held, ← stake_in_stage]
    exact sound.covered
  · intro oracleRoundId time
    by_cases final : x.oracle.state = .final <;> simp [readAt, final]
  · intro later path final
    obtain ⟨state, outcome⟩ := closed_of_path path (.inl final)
    refine ⟨state.trans final, outcome, ?_⟩
    intro oracleRoundId time laterId laterTime
    simp only [readAt, state, outcome]
  · intro sender proposed late
    obtain ⟨after, ran, _, _, held⟩ := finalises sound sender proposed late
    exact ⟨after, ran, held⟩
  · intro sender challenged late
    obtain ⟨after, ran, _, held⟩ := abandons sound sender challenged late
    exact ⟨after, ran, held⟩
  · intro sender call after ran changed
    by_cases asks : call.Permissionless
    · exact .inl asks
    · rcases untouched_of_exec asks ran with same | ⟨_, arbiter⟩
      · rcases changed with moved | answered
        · exact absurd same.moves moved
        · exact absurd same.outcome answered
      · exact .inr arbiter

/-! ## A small question

Seven is the contract, six its owner, five the arbiter, and one and two have
approved the contract for everything they hold. -/

section Sample

def smallQuestion : Config (Fin 8) where
  address := 7
  bond := 50
  eventTime := ⟨10, Figures.ten_fits⟩
  challengeWindow := ⟨100, Figures.hundred_fits⟩
  rulingDeadline := ⟨100, Figures.hundred_fits⟩
  question := "?"
  criteriaDigest := 1
  bond_ne_zero := Figures.fifty_ne_zero
  challenge_window_ne_zero := Figures.hundred_ne_zero
  ruling_deadline_ne_zero := Figures.hundred_ne_zero
  question_ne_empty := Figures.mark_ne_empty
  criteria_digest_ne_zero := Figures.one_ne_zero
  address_ne_zero := Figures.seven_ne_zero

def freshQuestion : Hearing (Fin 8) where
  timestamp := 10
  bondAsset :=
    { balanceOf := fun user => if 1 ≤ user ∧ user ≤ 2 then 1000 else 0
      allowance := fun owner spender =>
        if 1 ≤ owner ∧ owner ≤ 2 ∧ spender = 7 then uint256Max else 0
      totalSupply := 2000 }
  oracle := deployed 6 5
  moves := []

theorem fresh_question_deployed : Deployed smallQuestion freshQuestion where
  fresh := ⟨6, 5, rfl, by decide, rfl⟩
  unapproved := by
    funext spender
    have contract : ¬(1 ≤ (7 : Fin 8) ∧ (7 : Fin 8) ≤ 2 ∧ spender = 7) := by simp
    exact if_neg (t := uint256Max) contract
  unmoved := rfl

theorem reachable_of_actions (run : List (Action (Fin 8))) (check : Hearing (Fin 8) → Bool)
    (external : ∀ action ∈ run, action.External smallQuestion)
    (ran : passes (Machine.replay (act smallQuestion) freshQuestion run) check = true) :
    ∃ x, (machine smallQuestion).Reachable x ∧ check x = true := by
  obtain ⟨x, replayed, checked⟩ := exists_of_passes _ ran
  have start : (machine smallQuestion).Reachable freshQuestion :=
    .initial fresh_question_deployed
  refine ⟨x, start.replay ?_ replayed, checked⟩
  intro action member before after taken
  exact ⟨external action member, taken⟩

def disputedRun : List (Action (Fin 8)) :=
  [.question 1 (.propose .yes "" 1 none none), .question 2 .challenge]

/-- Somebody else is the arbiter, and the owner decides for two and pays it the
bond of one. -/
theorem owner_decides_a_dispute :
    ∃ x mid after : Hearing (Fin 8), (machine smallQuestion).Reachable x ∧
      x.oracle.owner = 6 ∧ x.oracle.arbiter = 5 ∧ x.oracle.outcome = .none ∧
      exec smallQuestion 6 x (.setArbiter 6) = .ok mid ∧
      exec smallQuestion 6 mid (.rule .no "") = .ok after ∧ after.oracle.outcome = .no ∧
      after.moves = x.moves ++ [.released 2 100] ∧ ¬OwnerPowerless smallQuestion x := by
  obtain ⟨x, reached, checked⟩ := reachable_of_actions disputedRun
    (fun x => x.oracle.owner = 6 ∧ x.oracle.arbiter = 5 ∧ x.oracle.outcome = .none ∧
      passes (Machine.replay (act smallQuestion) x
        [.question 6 (.setArbiter 6), .question 6 (.rule .no "")]) fun after =>
          after.oracle.outcome = .no ∧ after.moves = x.moves ++ [.released 2 100])
    (by simp [disputedRun, Action.External, smallQuestion]) (by decide +kernel)
  obtain ⟨owner, arbiter, undecided, replayed⟩ := of_decide_eq_true checked
  obtain ⟨after, ran, checked⟩ := exists_of_passes _ replayed
  obtain ⟨decided, paid⟩ := of_decide_eq_true checked
  obtain ⟨mid, appointed, ran⟩ := Machine.replay_cons_ok_iff.1 ran
  obtain ⟨final, ruled, ran⟩ := Machine.replay_cons_ok_iff.1 ran
  cases ran
  refine ⟨x, mid, after, reached, owner, arbiter, undecided, appointed, ruled, decided, paid, ?_⟩
  intro powerless
  rw [OwnerPowerless, owner] at powerless
  have outside : ∀ call, (Action.question 6 call).External smallQuestion :=
    fun _ => ⟨by decide, by decide⟩
  have appoints : Alone smallQuestion 6 x mid := alone_of_exec (outside (.setArbiter 6)) appointed
  have unset := (powerless mid (.rule .no "") after (.single appoints) (outside _) id ruled).2
  have same := (set_arbiter_ok appointed).2.1.outcome
  rw [decided, same, undecided] at unset
  cases unset

/-- Once the window is over the claim stands, and not even the owner can have it
disputed. -/
theorem lapsed_claim_is_safe :
    ∃ x : Hearing (Fin 8), x.oracle.state = .proposed ∧ bondsHeld x = 50 ∧
      x.moves = [.posted 1 50] ∧ OwnerPowerless smallQuestion x ∧
      ∃ after, exec smallQuestion 3 x .finalise = .ok after ∧ bondsHeld after = 0 := by
  obtain ⟨x, reached, checked⟩ := reachable_of_actions
    [.question 1 (.propose .yes "" 1 none none), .wait 100]
    (fun x => x.oracle.state = .proposed ∧ x.oracle.proposer = 1 ∧
      x.oracle.proposedAt.val + smallQuestion.challengeWindow.val ≤ x.timestamp)
    (by simp [Action.External, smallQuestion]) (by decide +kernel)
  obtain ⟨proposed, proposer, late⟩ := of_decide_eq_true checked
  obtain ⟨⟨held, _⟩, accounted, _, _, _, finalises, _, _, powerless⟩ :=
    bonds_and_finality_iff smallQuestion x reached
  simp only [stageOf, proposed, proposer] at accounted
  rw [proposed] at held
  refine ⟨x, proposed, held, accounted, powerless.2 (.inr ?_), finalises 3 proposed late⟩
  rw [Disputable, proposed]
  exact fun open_ => absurd open_.1 (Nat.not_lt.2 late)

end Sample

end EventOracle

end Ghoststake
