import Ghoststake.Market.Traces

/-!
# The market rebuilt from its logs

What each event says of storage, and that replaying every event from the first
gives back the rounds, the stakes, the claims and the fees of any reachable
market. Only the sinks are not announced as such.
-/

namespace Ghoststake

set_option autoImplicit false

open Checked Rounding

namespace Market

/-! ## What an event says -/

section Events

variable {Address : Type}

/-- A void by a tie keeps the price it closed at, which is the strike. -/
def Ledger.voided (ledger : Ledger Address) (roundId : Nat) (reason : String) : Ledger Address :=
  if reason = "tie" then ledger.tied roundId else ledger.setStatus roundId .void

variable [DecidableEq Address]

def Ledger.replay (ledger : Ledger Address) : Event Address → Ledger Address
  | .roundOpened roundId openTime lockTime closeTime =>
      { ledger.setRound roundId
          { ledger.rounds roundId with
            openTime := openTime
            lockTime := lockTime
            closeTime := closeTime
            status := .open } with
        roundCount := roundId }
  | .roundStrikeSet roundId strikePrice =>
      ledger.setRound roundId { ledger.rounds roundId with lockPrice := strikePrice }
  | .positionTaken roundId user side amount _ =>
      (ledger.addStake roundId user side amount).setRound roundId
        ((ledger.rounds roundId).joined side amount)
  | .roundLocked roundId lockPrice _ =>
      ledger.setRound roundId
        { ledger.rounds roundId with status := .locked, lockPrice := lockPrice }
  | .roundResolved roundId closePrice winner rakeTaken =>
      { ledger.setRound roundId
          { ledger.rounds roundId with
            status := .resolved
            closePrice := closePrice
            winner := winner
            rakeTaken := rakeTaken } with
        protocolFees := ledger.protocolFees + rakeTaken }
  | .roundVoided roundId reason => ledger.voided roundId reason
  | .claimed roundId user _ _ => ledger.markClaimed roundId user
  | .feesWithdrawn _ amount => ledger.debitFees amount
  | .routerSet _ _ | .access _ => ledger

def Ledger.rebuilt [Zero Address] (logs : List (Event Address)) : Ledger Address :=
  logs.foldl Ledger.replay
    { roundCount := 0
      rounds := fun _ => Round.unset
      stakeOf := fun _ _ _ => 0
      claimed := fun _ _ => false
      settlementSinkOf := fun _ _ => 0
      protocolFees := 0 }

end Events

variable {Address Rest : Type} [DecidableEq Address] [Zero Address]

/-- Storage but for the sinks. -/
def Ledger.unsunk (ledger : Ledger Address) : Ledger Address :=
  { ledger with settlementSinkOf := fun _ _ => 0 }

/-- The events of what a sink may do meanwhile. -/
def Event.Aside : Event Address → Prop
  | .roundOpened _ _ _ _ | .roundStrikeSet _ _ | .routerSet _ _ | .access _ => True
  | .positionTaken _ _ _ _ _ | .roundLocked _ _ _ | .roundResolved _ _ _ _ | .roundVoided _ _
  | .claimed _ _ _ _ | .feesWithdrawn _ _ => False

/-- Storage moved by the events of `kind` that were announced. -/
def Announces (kind : Event Address → Prop) (x after : Exchange Address Rest) : Prop :=
  ∃ events, (∀ event ∈ events, kind event) ∧ after.market.logs = x.market.logs ++ events ∧
    after.market.toLedger.unsunk = events.foldl Ledger.replay x.market.toLedger.unsunk

variable {kind : Event Address → Prop} {x mid after : Exchange Address Rest}

theorem Announces.refl (kind : Event Address → Prop) (x : Exchange Address Rest) :
    Announces kind x x := by
  refine ⟨[], ?_, (List.append_nil _).symm, rfl⟩
  intro event member
  cases member

theorem Announces.trans (left : Announces kind x mid) (right : Announces kind mid after) :
    Announces kind x after := by
  obtain ⟨first, ofKind, logs, moved⟩ := left
  obtain ⟨rest, alsoOfKind, moreLogs, movedOn⟩ := right
  refine ⟨first ++ rest, ?_, ?_, ?_⟩
  · intro event member
    rcases List.mem_append.1 member with early | late
    · exact ofKind event early
    · exact alsoOfKind event late
  · rw [moreLogs, logs, List.append_assoc]
  · rw [movedOn, moved, List.foldl_append]

theorem Announces.still (kind : Event Address → Prop) (logs : after.market.logs = x.market.logs)
    (ledger : after.market.toLedger = x.market.toLedger) : Announces kind x after := by
  refine ⟨[], ?_, ?_, ?_⟩
  · intro event member
    cases member
  · rw [logs, List.append_nil]
  · rw [ledger]
    rfl

theorem Announces.emit {event : Event Address} (ofKind : kind event)
    (logs : after.market.logs = x.market.logs)
    (moved : after.market.toLedger.unsunk = x.market.toLedger.unsunk.replay event) :
    Announces kind x (after.emit event) := by
  refine ⟨[event], ?_, ?_, moved⟩
  · intro other member
    rw [List.mem_singleton.1 member]
    exact ofKind
  · rw [← logs]
    rfl

/-! ## Every call announces what it writes -/

section Calls

variable {cfg : Config Address Rest} {sender : Address} {roundId : Nat}

theorem announces_of_open_round {openTime lockTime closeTime : Uint64} {strikePrice : Nat}
    (ran : openRound cfg sender openTime lockTime closeTime strikePrice x = .ok after) :
    Announces Event.Aside x after := by
  simp only [openRound, bind_ok_iff, require_ok_iff, exists_const, Except.ok.injEq] at ran
  obtain ⟨_, _, _, _, _, _, _, _, _, _, rfl⟩ := ran
  refine ⟨[.roundOpened (x.market.roundCount + 1) openTime lockTime closeTime,
    .roundStrikeSet (x.market.roundCount + 1) strikePrice], ?_, ?_, ?_⟩
  · intro event member
    rcases List.mem_pair.1 member with rfl | rfl
    · trivial
    · trivial
  · exact List.append_assoc _ _ _
  · simp [Exchange.emit, Exchange.setLedger, Ledger.opened, Ledger.unsunk, Ledger.replay,
      Ledger.setRound]

theorem unsunk_entered (ledger : Ledger Address) (user : Address) (side : Side) (amount : Nat)
    (sink funder : Address) :
    (ledger.entered roundId user side amount sink).unsunk =
      ledger.unsunk.replay (.positionTaken roundId user side amount funder) := by
  unfold Ledger.entered Ledger.recordSink
  split_ifs
  · rfl
  · rfl

theorem announces_of_take_position {user payer sink : Address} {side : Side} {amount : Nat}
    (ran : takePositionInternal cfg roundId user side amount payer sink x = .ok after) :
    Announces (fun _ => True) x after := by
  simp only [takePositionInternal, bind_ok_iff, require_ok_iff, exists_const,
    require_status_ok_iff, pay_ok_iff, Except.ok.injEq] at ran
  obtain ⟨_, _, _, _, _, _, _, _, ⟨token, _, rfl⟩, rfl⟩ := ran
  apply Announces.emit trivial
  · rfl
  · exact unsunk_entered _ _ _ _ _ _

theorem announces_of_void {reason : String} (other : reason ≠ "tie") :
    Announces (fun _ => True) x
      (voidInternal roundId (x.market.rounds roundId) reason x) := by
  apply Announces.emit trivial
  · rfl
  · rw [Ledger.replay, Ledger.voided, if_neg other]
    rfl

theorem announces_of_lock_round (ran : lockRound cfg roundId x = .ok after) :
    Announces (fun _ => True) x after := by
  simp only [lockRound, bind_ok_iff, require_ok_iff, exists_const, require_status_ok_iff] at ran
  obtain ⟨_, _, ran⟩ := ran
  split_ifs at ran with thin
  · cases ran
    exact announces_of_void (by decide)
  · simp only [lockInWindow, bind_ok_iff, Except.ok.injEq] at ran
    obtain ⟨deadline, _, rfl⟩ := ran
    split_ifs
    · exact announces_of_void (by decide)
    · apply Announces.emit trivial
      · rfl
      · rfl

theorem announces_of_settle (cfg : Config Address Rest) (roundId price : Nat)
    (x : Exchange Address Rest) :
    Announces (fun _ => True) x (settleAt cfg roundId price x) := by
  simp only [settleAt]
  split_ifs with tie
  · apply Announces.emit trivial
    · rfl
    · rw [Ledger.replay, Ledger.voided, if_pos rfl, tie]
      rfl
  · apply Announces.emit trivial
    · rfl
    · rfl

theorem announces_of_administer {call : Treasured.Call Address}
    (ran : administer sender call x = .ok after) : Announces Event.Aside x after := by
  simp only [administer, bind_ok_iff, Prod.exists, Except.ok.injEq] at ran
  obtain ⟨access, event, _, rfl⟩ := ran
  apply Announces.emit
  · trivial
  · rfl
  · rfl

theorem announces_of_guard {call : EntryPausable.Call Address}
    (ran : guard sender call x = .ok after) : Announces Event.Aside x after := by
  simp only [guard, bind_ok_iff, Prod.exists, Except.ok.injEq] at ran
  obtain ⟨access, event, _, rfl⟩ := ran
  apply Announces.emit
  · trivial
  · rfl
  · rfl

theorem announces_of_set_router {router : Address} {allowed : Bool}
    (ran : setRouter sender router allowed x = .ok after) : Announces Event.Aside x after := by
  simp only [setRouter, bind_ok_iff, require_ok_iff, exists_const, Except.ok.injEq] at ran
  obtain ⟨_, _, _, rfl⟩ := ran
  apply Announces.emit
  · trivial
  · rfl
  · rfl

theorem announces_of_aside (aside : Aside cfg x after) : Announces Event.Aside x after := by
  cases aside with
  | @call sender call after outsider unlocked ran =>
      cases call with
      | openRound openTime lockTime closeTime strikePrice => exact announces_of_open_round ran
      | setRouter router allowed => exact announces_of_set_router ran
      | administer call => exact announces_of_administer ran
      | guard call => exact announces_of_guard ran
      | _ => cases unlocked
  | asset outsider ran => exact .still _ rfl rfl
  | elsewhere rest => exact .still _ rfl rfl

theorem announces_of_asides (asides : Relation.ReflTransGen (Aside cfg) x after) :
    Announces Event.Aside x after := by
  induction asides with
  | refl => exact .refl _ x
  | tail _ aside ih => exact ih.trans (announces_of_aside aside)

theorem Announces.weaken (announced : Announces kind x after) :
    Announces (fun _ => True) x after := by
  obtain ⟨events, _, logs, moved⟩ := announced
  exact ⟨events, fun _ _ => trivial, logs, moved⟩

omit [Zero Address] in
/-- What a sink may do meanwhile is apart from the claim being paid. -/
theorem replay_mark_claimed {event : Event Address} (aside : event.Aside)
    (ledger : Ledger Address) (user : Address) :
    (ledger.markClaimed roundId user).replay event =
      (ledger.replay event).markClaimed roundId user := by
  cases event with
  | roundOpened id openTime lockTime closeTime => rfl
  | roundStrikeSet id strikePrice => rfl
  | routerSet router allowed => rfl
  | access event => rfl
  | _ => cases aside

omit [Zero Address] in
theorem foldl_mark_claimed (events : List (Event Address))
    (asides : ∀ event ∈ events, event.Aside) (ledger : Ledger Address) (user : Address) :
    events.foldl Ledger.replay (ledger.markClaimed roundId user) =
      (events.foldl Ledger.replay ledger).markClaimed roundId user := by
  induction events generalizing ledger with
  | nil => rfl
  | cons event rest ih =>
      have first := asides event List.mem_cons_self
      have later := fun other member => asides other (List.mem_cons_of_mem event member)
      rw [List.foldl_cons, List.foldl_cons, replay_mark_claimed first, ih later]

theorem announces_of_claim {sinks : Sinks Address Rest} (outside : sinks.Outside cfg)
    {user : Address} (ran : claim cfg sinks roundId user x = .ok after) :
    Announces (fun _ => True) x after := by
  obtain ⟨paid, settled, pays, notifies, rfl⟩ := claim_ok ran
  have payment := pay_claim_ok pays
  obtain ⟨events, asides, logs, moved⟩ := announces_of_asides (asides_of_notify outside notifies)
  refine ⟨events ++ [.claimed roundId user (claimableOf x.market.toLedger roundId user)
    (recipientOf x.market.toLedger roundId user)], ?_, ?_, ?_⟩
  · exact fun _ _ => trivial
  · change settled.market.logs ++ [_] = _
    rw [logs, payment.market, List.append_assoc]
  · change settled.market.toLedger.unsunk = _
    have start : paid.market.toLedger.unsunk =
        x.market.toLedger.unsunk.markClaimed roundId user := by
      rw [payment.market]
      rfl
    rw [moved, start, foldl_mark_claimed events asides, List.foldl_append]
    rfl

theorem announces_of_exec {sinks : Sinks Address Rest} (outside : sinks.Outside cfg)
    {call : Call Address} (ran : exec cfg sinks sender x call = .ok after) :
    Announces (fun _ => True) x after := by
  cases call with
  | openRound openTime lockTime closeTime strikePrice =>
      exact (announces_of_open_round ran).weaken
  | takePosition roundId side amount => exact announces_of_take_position ran
  | takePositionFor roundId user side amount =>
      simp only [exec, takePositionFor, bind_ok_iff, require_ok_iff, exists_const] at ran
      exact announces_of_take_position ran.2.2
  | lockRound roundId => exact announces_of_lock_round ran
  | resolveRound roundId closeOracleRoundId =>
      obtain ⟨_, price, _, rfl⟩ := resolve_round_ok ran
      exact announces_of_settle cfg roundId price x
  | voidUnsettledRound roundId =>
      simp only [exec, voidUnsettledRound, bind_ok_iff, require_ok_iff, exists_const,
        require_status_ok_iff, Except.ok.injEq] at ran
      obtain ⟨_, _, _, _, _, _, rfl⟩ := ran
      exact announces_of_void (by decide)
  | voidUnlockedRound roundId =>
      simp only [exec, voidUnlockedRound, bind_ok_iff, require_ok_iff, exists_const,
        require_status_ok_iff, Except.ok.injEq] at ran
      obtain ⟨_, _, _, _, rfl⟩ := ran
      exact announces_of_void (by decide)
  | claim roundId user => exact announces_of_claim outside ran
  | setRouter router allowed => exact (announces_of_set_router ran).weaken
  | withdrawFees amount =>
      simp only [exec, withdrawFees, bind_ok_iff, require_ok_iff, exists_const, pay_ok_iff,
        Except.ok.injEq] at ran
      obtain ⟨_, _, _, _, _, ⟨token, _, rfl⟩, rfl⟩ := ran
      apply Announces.emit trivial
      · rfl
      · rfl
  | administer call => exact (announces_of_administer ran).weaken
  | guard call => exact (announces_of_guard ran).weaken

theorem announces_of_step {action : Action Address Rest}
    (taken : (machine cfg).step x action after) : Announces (fun _ => True) x after := by
  obtain ⟨external, ran⟩ := taken
  cases action with
  | market sinks sender call => exact announces_of_exec external.2 ran
  | asset sender call =>
      simp only [act, pay_ok_iff] at ran
      obtain ⟨token, _, rfl⟩ := ran
      exact .still _ rfl rfl
  | elsewhere rest =>
      cases ran
      exact .still _ rfl rfl
  | wait seconds =>
      cases ran
      exact .still _ rfl rfl

end Calls

/-! ## Along a run -/

/-- The logs are the whole history of the accounts. -/
theorem rebuilt_of_reachable {cfg : Config Address Rest} (reached : (machine cfg).Reachable x) :
    x.market.toLedger.unsunk = Ledger.rebuilt x.market.logs := by
  induction reached with
  | initial start =>
      obtain ⟨owner, access, guardian, _, market⟩ := start.fresh
      rw [market]
      rfl
  | step before taken ih =>
      obtain ⟨events, _, logs, moved⟩ := announces_of_step taken
      rw [moved, ih, logs, Ledger.rebuilt, Ledger.rebuilt, List.foldl_append]

theorem rebuilt_rounds {cfg : Config Address Rest} (reached : (machine cfg).Reachable x) :
    x.market.rounds = (Ledger.rebuilt x.market.logs).rounds := by
  rw [← rebuilt_of_reachable reached]
  rfl

/-! ## What the logs decide -/

/-- Two ledgers with the same rounds, stakes, claims and fees, that owe the same
to everybody. -/
structure SameAccounts (ledger other : Ledger Address) : Prop where
  roundCount : ledger.roundCount = other.roundCount
  rounds : ledger.rounds = other.rounds
  stakeOf : ledger.stakeOf = other.stakeOf
  claimed : ledger.claimed = other.claimed
  protocolFees : ledger.protocolFees = other.protocolFees
  owed : claimableOf ledger = claimableOf other

omit [DecidableEq Address] in
theorem same_accounts_of_unsunk {ledger other : Ledger Address}
    (same : ledger.unsunk = other.unsunk) : SameAccounts ledger other := by
  have counts := congrArg Ledger.roundCount same
  have rounds := congrArg Ledger.rounds same
  have stakes := congrArg Ledger.stakeOf same
  have claims := congrArg Ledger.claimed same
  have fees := congrArg Ledger.protocolFees same
  have owed : claimableOf ledger.unsunk = claimableOf other.unsunk := by rw [same]
  exact ⟨counts, rounds, stakes, claims, fees, owed⟩

/-- Replaying what a market has announced gives back its accounts, so two markets
that announced the same have the same accounts and owe the same to everybody. -/
theorem accounts_of_logs (cfg : Config Address Rest) (x : Exchange Address Rest)
    (reached : (machine cfg).Reachable x) :
    SameAccounts x.market.toLedger (Ledger.rebuilt x.market.logs) ∧
      ∀ (Other : Type) (other : Config Address Other) (y : Exchange Address Other),
        (machine other).Reachable y → x.market.logs = y.market.logs →
          SameAccounts x.market.toLedger y.market.toLedger := by
  have rebuilds := rebuilt_of_reachable reached
  constructor
  · apply same_accounts_of_unsunk
    rw [← rebuilds]
    rfl
  · intro Other other y alsoReached same
    apply same_accounts_of_unsunk
    rw [rebuilds, rebuilt_of_reachable alsoReached, same]

/-! ## The same announcements by other hands -/

section Sample

deriving instance DecidableEq for AccessEvent, Event

/-- A market with a wider window to lock in, on the same prices. -/
def patientMarket : Config (Fin 8) Unit where
  address := 7
  readAt _ _ _ := .ok (true, 150)
  rake := maxRake
  entryCutoff := ⟨10, Figures.ten_fits⟩
  lockWindow := ⟨100, Figures.hundred_fits⟩
  resolveDeadline := ⟨100, Figures.hundred_fits⟩
  minSidePool := 5
  rake_le := Nat.le_refl _
  min_side_pool_ne_zero := Figures.five_ne_zero
  entry_cutoff_ne_zero := Figures.ten_ne_zero
  lock_window_ne_zero := Figures.hundred_ne_zero
  resolve_deadline_ne_zero := Figures.hundred_ne_zero
  address_ne_zero := Figures.seven_ne_zero

theorem fresh_patient_deployed : Deployed patientMarket freshMarket :=
  ⟨fresh_market_deployed.fresh, fresh_market_deployed.unapproved⟩

/-- The rounds and stakes of `settledRun`, locked and resolved later and by others. -/
def patientRun : List (Visit (Fin 8)) :=
  [.market 6 (.openRound ⟨0, Figures.zero_fits⟩ ⟨100, Figures.hundred_fits⟩
      ⟨200, Figures.two_hundred_fits⟩ 100),
    .market 1 (.takePosition 1 .up 100), .market 2 (.takePosition 1 .down 60),
    .market 3 (.takePosition 1 .up 50), .wait 150, .market 3 (.lockRound 1), .wait 70,
    .market 2 (.resolveRound 1 Uint80.zero)]

/-- Two markets of different rules, at different times, one announcement. -/
theorem accounts_of_logs_of_settled_runs :
    ∃ x y, (machine smallMarket).Reachable x ∧ (machine patientMarket).Reachable y ∧
      x.timestamp ≠ y.timestamp ∧ claimableOf x.market.toLedger 1 1 ≠ 0 ∧
      SameAccounts x.market.toLedger (Ledger.rebuilt x.market.logs) ∧
      SameAccounts x.market.toLedger y.market.toLedger := by
  let announced : List (Event (Fin 8)) :=
    [.roundOpened 1 0 100 200, .roundStrikeSet 1 100, .positionTaken 1 1 .up 100 1,
      .positionTaken 1 2 .down 60 2, .positionTaken 1 3 .up 50 3, .roundLocked 1 100 0,
      .roundResolved 1 150 .up 21]
  obtain ⟨x, reached, checked⟩ := reachable_of_visits settledRun
    (fun x => decide (claimableOf x.market.toLedger 1 1 ≠ 0 ∧ x.timestamp = 200 ∧
      x.market.logs = announced)) (by decide +kernel) (by decide +kernel)
  obtain ⟨owed, early, said⟩ := of_decide_eq_true checked
  obtain ⟨y, alsoReached, checked⟩ := reachable_of_replay patientMarket fresh_patient_deployed
    patientRun (fun y => decide (y.timestamp = 220 ∧ y.market.logs = announced))
    (by decide +kernel) (by decide +kernel)
  obtain ⟨late, alsoSaid⟩ := of_decide_eq_true checked
  obtain ⟨rebuilt, others⟩ := accounts_of_logs smallMarket x reached
  refine ⟨x, y, reached, alsoReached, ?_, owed, rebuilt, ?_⟩
  · rw [early, late]
    decide
  · exact others Unit patientMarket y alsoReached (said.trans alsoSaid.symm)

end Sample

end Market

end Ghoststake
