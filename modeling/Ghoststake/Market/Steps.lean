import Ghoststake.Market.Escrow

/-!
# Histories of the market

The machine of the market among its callers, its sinks, its oracle and its
asset, and the theorem that each of its steps is a turn of the escrow, or a
payment followed by what a sink may do with the control it is handed.
-/

namespace Ghoststake

set_option autoImplicit false

open Checked Rounding

namespace Market

/-! ## The escrow behind it -/

section Projection

variable {Address Rest : Type}

def Event.position : Event Address → Option (Position Address)
  | .positionTaken roundId user side amount funder => some ⟨roundId, user, side, amount, funder⟩
  | _ => none

def Event.payout : Event Address → Option (Payout Address)
  | .claimed roundId user amount recipient => some ⟨roundId, user, amount, recipient⟩
  | _ => none

variable {x after : Exchange Address Rest}

theorem pay_ok_iff {call : Erc20 Address → Outcome Address (Erc20 Address)} :
    x.pay call = .ok after ↔
      ∃ token, call x.token = .ok token ∧ after = { x with token := token } := by
  simp only [Exchange.pay, bind_ok_iff, Except.ok.injEq, eq_comm (b := after)]

variable [Zero Address] {cfg : Config Address Rest}

def Config.terms (cfg : Config Address Rest) : Terms where
  entryCutoff := cfg.entryCutoff.val
  minSidePool := cfg.minSidePool
  rake := cfg.rake
  min_side_pool_pos := Nat.pos_of_ne_zero cfg.min_side_pool_ne_zero
  rake_le_wad := cfg.rake_le.trans (Nat.div_le_self _ _)

/-- What the oracle would answer, for some round id a caller could name. -/
def Config.Answers (cfg : Config Address Rest) (x : Exchange Address Rest)
    (instant price : Nat) : Prop :=
  ∃ oracleRoundId, cfg.readAt x oracleRoundId instant = .ok (true, price)

def escrowOf (cfg : Config Address Rest) (x : Exchange Address Rest) : Escrow Address where
  timestamp := x.timestamp
  cash := x.token.balanceOf cfg.address
  ledger := x.market.toLedger
  positions := x.market.logs.filterMap Event.position
  payouts := x.market.logs.filterMap Event.payout

/-- What the market relies on besides its ledger: nobody may spend its assets,
and the treasury is somebody. -/
structure Housed (cfg : Config Address Rest) (x : Exchange Address Rest) : Prop where
  unapproved : x.token.allowance cfg.address = fun _ => 0
  treasury_live : x.market.treasury ≠ 0

@[simp] theorem escrow_of_emit (cfg : Config Address Rest) (x : Exchange Address Rest)
    (event : Event Address) :
    escrowOf cfg (x.emit event) =
      { escrowOf cfg x with
        positions := (escrowOf cfg x).positions ++ event.position.toList
        payouts := (escrowOf cfg x).payouts ++ event.payout.toList } := by
  cases event <;> simp [escrowOf, Exchange.emit, Event.position, Event.payout]

@[simp] theorem escrow_of_set_ledger (cfg : Config Address Rest) (x : Exchange Address Rest)
    (ledger : Ledger Address) :
    escrowOf cfg (x.setLedger ledger) = { escrowOf cfg x with ledger := ledger } := rfl

/-- An event that is neither a stake nor a payment leaves no trace in the escrow. -/
theorem escrow_of_emit_other (cfg : Config Address Rest) (x : Exchange Address Rest)
    {event : Event Address} (noStake : event.position = none) (noPayment : event.payout = none) :
    escrowOf cfg (x.emit event) = escrowOf cfg x := by
  rw [escrow_of_emit, noStake, noPayment]
  simp

theorem Housed.emit (housed : Housed cfg x) (event : Event Address) :
    Housed cfg (x.emit event) := ⟨housed.unapproved, housed.treasury_live⟩

end Projection

variable {Address Rest : Type} [DecidableEq Address] [Zero Address]

/-! ## The machine -/

/-- The entry points that carry no reentrancy guard. -/
def Call.Unlocked : Call Address → Prop
  | .openRound _ _ _ _ | .setRouter _ _ | .administer _ | .guard _ => True
  | .takePosition _ _ _ | .takePositionFor _ _ _ _ | .lockRound _ | .resolveRound _ _
  | .voidUnsettledRound _ | .voidUnlockedRound _ | .claim _ _ | .withdrawFees _ => False

def noSinks : Sinks Address Rest := fun _ _ _ _ => .error .external

/-- What code that is not the market's can do inside one of its transactions. -/
inductive Aside (cfg : Config Address Rest) (x : Exchange Address Rest) :
    Exchange Address Rest → Prop
  | call {sender : Address} {call : Call Address} {after : Exchange Address Rest}
      (outsider : sender ≠ cfg.address) (unlocked : call.Unlocked)
      (ran : exec cfg noSinks sender x call = .ok after) : Aside cfg x after
  | asset {sender : Address} {call : Erc20.Call Address} {token : Erc20 Address}
      (outsider : sender ≠ cfg.address) (ran : x.token.exec sender call = .ok token) :
      Aside cfg x { x with token := token }
  | elsewhere (rest : Rest) : Aside cfg x { x with rest := rest }

/-- Sinks that are not the market and act through calls, any number of them. -/
def Sinks.Outside (cfg : Config Address Rest) (sinks : Sinks Address Rest) : Prop :=
  ∀ sink user amount x after, sinks sink user amount x = .ok after →
    Relation.ReflTransGen (Aside cfg) x after

/-- One thing that happens to a deployed market: a call on it, among sinks that
may answer differently each time, a call on the asset, anything at all in the
rest of the chain, or the passage of time. -/
inductive Action (Address Rest : Type) where
  | market (sinks : Sinks Address Rest) (sender : Address) (call : Call Address)
  | asset (sender : Address) (call : Erc20.Call Address)
  | elsewhere (rest : Rest)
  | wait (seconds : Nat)

def act (cfg : Config Address Rest) (x : Exchange Address Rest) :
    Action Address Rest → Outcome Address (Exchange Address Rest)
  | .market sinks sender call => exec cfg sinks sender x call
  | .asset sender call => x.pay fun token => token.exec sender call
  | .elsewhere rest => .ok { x with rest := rest }
  | .wait seconds => .ok { x with timestamp := x.timestamp + seconds }

/-- The market never calls itself or the asset's approval functions. -/
def Action.External (cfg : Config Address Rest) : Action Address Rest → Prop
  | .market sinks sender _ => sender ≠ cfg.address ∧ sinks.Outside cfg
  | .asset sender _ => sender ≠ cfg.address
  | .elsewhere _ | .wait _ => True

/-- A market fresh from its constructor, on any asset it has approved nobody for. -/
structure Deployed (cfg : Config Address Rest) (x : Exchange Address Rest) : Prop where
  fresh : ∃ owner access guardian, Treasured.deploy owner = .ok access ∧
    x.market = deployed access guardian
  unapproved : x.token.allowance cfg.address = fun _ => 0

def machine (cfg : Config Address Rest) :
    Machine (Exchange Address Rest) (Action Address Rest) where
  initial := Deployed cfg
  step x action after := action.External cfg ∧ act cfg x action = .ok after

/-! ## Every entry point but `claim` is one turn -/

section Inversion

variable {cfg : Config Address Rest} {x after : Exchange Address Rest} {sender : Address}
  {roundId : Nat} {status : Status}

omit [DecidableEq Address] in
theorem require_status_ok_iff {done : Unit} :
    requireStatus cfg x roundId status = .ok done ↔
      (x.market.rounds roundId).status ≠ .none ∧ (x.market.rounds roundId).status = status := by
  simp only [requireStatus, bind_ok_iff, require_ok_iff, exists_const]

structure Still (x after : Exchange Address Rest) : Prop where
  timestamp : after.timestamp = x.timestamp
  token : after.token = x.token
  treasury : after.market.treasury = x.market.treasury

omit [DecidableEq Address] in
theorem Housed.still (housed : Housed cfg x) (still : Still x after) : Housed cfg after := by
  constructor
  · rw [still.token]
    exact housed.unapproved
  · rw [still.treasury]
    exact housed.treasury_live

theorem quiet_of_open_round {openTime lockTime closeTime : Uint64} {strikePrice : Nat}
    (ran : openRound cfg sender openTime lockTime closeTime strikePrice x = .ok after) :
    Quiet cfg.terms (escrowOf cfg x) (escrowOf cfg after) ∧ Still x after := by
  simp only [openRound, bind_ok_iff, require_ok_iff, exists_const, Except.ok.injEq] at ran
  obtain ⟨_, _, _, _, early, sum, summed, window, span, strike, rfl⟩ := ran
  rw [Uint64.plus_ok_iff] at summed
  refine ⟨?_, rfl, rfl, rfl⟩
  rw [escrow_of_emit_other _ _ rfl rfl, escrow_of_emit_other _ _ rfl rfl, escrow_of_set_ledger]
  exact .opens openTime lockTime closeTime strikePrice early (summed ▸ window) span strike

theorem payer_live {user payer sink : Address} {side : Side} {amount : Nat}
    (ran : takePositionInternal cfg roundId user side amount payer sink x = .ok after) :
    payer ≠ 0 := by
  simp only [takePositionInternal, bind_ok_iff, require_ok_iff, exists_const,
    require_status_ok_iff, pay_ok_iff, Except.ok.injEq] at ran
  obtain ⟨_, _, _, _, _, _, _, _, ⟨token, pulled, _⟩, _⟩ := ran
  exact ((Erc20.transfer_from_ok_iff _ _ _ _ _ _).1 pulled).2.1

theorem turn_of_take_position {user payer sink : Address} {side : Side} {amount : Nat}
    (outsider : payer ≠ cfg.address) (live : user ≠ 0)
    (funder : payer = if sink = 0 then user else sink) (housed : Housed cfg x)
    (ran : takePositionInternal cfg roundId user side amount payer sink x = .ok after) :
    Turn cfg.terms (cfg.Answers x) (escrowOf cfg x) (escrowOf cfg after) ∧ Housed cfg after := by
  simp only [takePositionInternal, bind_ok_iff, require_ok_iff, exists_const,
    require_status_ok_iff, pay_ok_iff, Except.ok.injEq] at ran
  obtain ⟨_, _, something, ⟨_, status⟩, begun, inTime, single, _, ⟨token, pulled, rfl⟩, rfl⟩ := ran
  obtain ⟨_, _, _, _, rfl⟩ := (Erc20.transfer_from_ok_iff _ _ _ _ _ _).1 pulled
  rw [not_and_or, not_not, not_not] at single
  constructor
  · have turn : Turn cfg.terms (cfg.Answers x) (escrowOf cfg x)
        { escrowOf cfg x with
          cash := x.token.balanceOf cfg.address + amount
          ledger := x.market.toLedger.entered roundId user side amount sink
          positions := (escrowOf cfg x).positions ++
            [⟨roundId, user, side, amount, if sink = 0 then user else sink⟩] } :=
      .enters roundId user side amount sink _ status inTime something live single (Nat.le_refl _)
    rw [← funder] at turn
    rw [escrow_of_emit]
    have cash := Erc20.moved_balance_target x.token amount outsider
    simpa [escrowOf, Exchange.setLedger, Event.position, Event.payout, cash] using turn
  · constructor
    · exact (Erc20.allowance_after_other _ _ outsider.symm).trans housed.unapproved
    · exact housed.treasury_live

omit [DecidableEq Address] in
theorem escrow_of_void (cfg : Config Address Rest) (x : Exchange Address Rest) (roundId : Nat)
    (round : Round) (reason : String) :
    escrowOf cfg (voidInternal roundId round reason x) =
      { escrowOf cfg x with
        ledger := x.market.toLedger.setRound roundId { round with status := .void } } := by
  unfold voidInternal
  rw [escrow_of_emit_other _ _ rfl rfl, escrow_of_set_ledger]

theorem turn_of_lock_round (ran : lockRound cfg roundId x = .ok after) :
    Turn cfg.terms (cfg.Answers x) (escrowOf cfg x) (escrowOf cfg after) ∧ Still x after := by
  simp only [lockRound, bind_ok_iff, require_ok_iff, exists_const, require_status_ok_iff] at ran
  obtain ⟨⟨_, status⟩, late, ran⟩ := ran
  split_ifs at ran with thin
  · cases ran
    refine ⟨?_, rfl, rfl, rfl⟩
    rw [escrow_of_void]
    exact .voids roundId (.inl status) fun _ => late
  · simp only [lockInWindow, bind_ok_iff, Except.ok.injEq] at ran
    obtain ⟨deadline, _, rfl⟩ := ran
    split_ifs
    · refine ⟨?_, rfl, rfl, rfl⟩
      rw [escrow_of_void]
      exact .voids roundId (.inl status) fun _ => late
    · refine ⟨?_, rfl, rfl, rfl⟩
      rw [escrow_of_emit_other _ _ rfl rfl, escrow_of_set_ledger]
      apply Turn.locks roundId status late
      rw [not_or, not_lt, not_lt] at thin
      intro side
      cases side
      · exact thin.1
      · exact thin.2

theorem turn_of_resolve_round {closeOracleRoundId : Uint80}
    (ran : resolveRound cfg roundId closeOracleRoundId x = .ok after) :
    Turn cfg.terms (cfg.Answers x) (escrowOf cfg x) (escrowOf cfg after) ∧ Still x after := by
  simp only [resolveRound, bind_ok_iff, require_ok_iff, exists_const, require_status_ok_iff,
    Prod.exists, Except.ok.injEq] at ran
  obtain ⟨⟨_, status⟩, late, answered, price, read, rfl, rfl⟩ := ran
  have answer : cfg.Answers x (x.market.rounds roundId).closeTime.val price :=
    ⟨closeOracleRoundId, read⟩
  simp only [settleAt]
  split_ifs with tie
  · refine ⟨?_, rfl, rfl, rfl⟩
    rw [escrow_of_void]
    subst tie
    exact .ties roundId status late answer
  · refine ⟨?_, rfl, rfl, rfl⟩
    rw [escrow_of_emit_other _ _ rfl rfl, escrow_of_set_ledger]
    exact .resolves roundId price status late answer tie

theorem turn_of_void_unlocked_round (ran : voidUnlockedRound cfg roundId x = .ok after) :
    Turn cfg.terms (cfg.Answers x) (escrowOf cfg x) (escrowOf cfg after) ∧ Still x after := by
  simp only [voidUnlockedRound, bind_ok_iff, require_ok_iff, exists_const,
    require_status_ok_iff, Uint64.plus_ok_iff, Except.ok.injEq] at ran
  obtain ⟨⟨_, status⟩, deadline, summed, past, rfl⟩ := ran
  refine ⟨?_, rfl, rfl, rfl⟩
  rw [escrow_of_void]
  apply Turn.voids roundId (.inl status)
  intro _
  exact (Nat.le_add_right _ _).trans (summed.symm.trans_le past.le)

theorem turn_of_void_unsettled_round
    (ran : voidUnsettledRound cfg sender roundId x = .ok after) :
    Turn cfg.terms (cfg.Answers x) (escrowOf cfg x) (escrowOf cfg after) ∧ Still x after := by
  simp only [voidUnsettledRound, bind_ok_iff, require_ok_iff, exists_const,
    require_status_ok_iff, Uint64.plus_ok_iff, Except.ok.injEq] at ran
  obtain ⟨_, _, ⟨_, status⟩, deadline, summed, past, rfl⟩ := ran
  refine ⟨?_, rfl, rfl, rfl⟩
  rw [escrow_of_void]
  apply Turn.voids roundId (.inr status)
  intro isOpen
  cases isOpen.symm.trans status

theorem cash_after_payment {token after : Erc20 Address}
    {account target : Address} {amount : Nat}
    (ran : token.move account target amount = .ok after) :
    token.balanceOf account ≤ after.balanceOf account + amount := by
  obtain ⟨_, _, funded, rfl⟩ := (Erc20.move_ok_iff _ _ _ _ _).1 ran
  exact Erc20.moved_balance_debit token account target funded

theorem turn_of_withdraw_fees {amount : Nat} (housed : Housed cfg x)
    (ran : withdrawFees cfg sender amount x = .ok after) :
    Turn cfg.terms (cfg.Answers x) (escrowOf cfg x) (escrowOf cfg after) ∧ Housed cfg after := by
  simp only [withdrawFees, bind_ok_iff, require_ok_iff, exists_const, pay_ok_iff,
    Except.ok.injEq] at ran
  obtain ⟨_, _, something, within, _, ⟨token, pushed, rfl⟩, rfl⟩ := ran
  constructor
  · rw [escrow_of_emit_other _ _ rfl rfl]
    exact .withdraws amount _ within (cash_after_payment pushed)
  · obtain ⟨_, _, _, rfl⟩ := (Erc20.move_ok_iff _ _ _ _ _).1 pushed
    exact ⟨housed.unapproved, housed.treasury_live⟩

theorem escrow_of_set_router (cfg : Config Address Rest) {router : Address} {allowed : Bool}
    (ran : setRouter sender router allowed x = .ok after) :
    escrowOf cfg after = escrowOf cfg x ∧ Still x after := by
  simp only [setRouter, bind_ok_iff, require_ok_iff, exists_const, Except.ok.injEq] at ran
  obtain ⟨_, _, _, rfl⟩ := ran
  refine ⟨?_, rfl, rfl, rfl⟩
  rw [escrow_of_emit_other _ _ rfl rfl]
  rfl

theorem escrow_of_guard (cfg : Config Address Rest) {call : EntryPausable.Call Address}
    (ran : guard sender call x = .ok after) :
    escrowOf cfg after = escrowOf cfg x ∧ Still x after := by
  simp only [guard, bind_ok_iff, Prod.exists, Except.ok.injEq] at ran
  obtain ⟨access, event, _, rfl⟩ := ran
  refine ⟨?_, rfl, rfl, rfl⟩
  rw [escrow_of_emit_other _ _ rfl rfl]
  rfl

theorem escrow_of_administer {call : Treasured.Call Address} (housed : Housed cfg x)
    (ran : administer sender call x = .ok after) :
    escrowOf cfg after = escrowOf cfg x ∧ Housed cfg after := by
  simp only [administer, bind_ok_iff, Prod.exists, Except.ok.injEq] at ran
  obtain ⟨access, event, granted, rfl⟩ := ran
  refine ⟨?_, housed.unapproved, ?_⟩
  · rw [escrow_of_emit_other _ _ rfl rfl]
    rfl
  · exact Treasured.exec_keeps_treasury_live housed.treasury_live granted

/-! ## A claim is a payment and what its sink does -/

structure Paid (cfg : Config Address Rest) (roundId : Nat) (user : Address)
    (x paid : Exchange Address Rest) : Prop where
  owed : claimableOf x.market.toLedger roundId user ≠ 0
  moved : x.token.move cfg.address (recipientOf x.market.toLedger roundId user)
    (claimableOf x.market.toLedger roundId user) = .ok paid.token
  market : paid.market =
    { x.market with toLedger := x.market.toLedger.markClaimed roundId user }
  timestamp : paid.timestamp = x.timestamp
  rest : paid.rest = x.rest

theorem pay_claim_ok {user : Address} {paid : Exchange Address Rest}
    (ran : payClaim cfg roundId user x = .ok paid) : Paid cfg roundId user x paid := by
  simp only [payClaim, bind_ok_iff, require_ok_iff, exists_const, pay_ok_iff] at ran
  obtain ⟨_, _, owed, token, moved, rfl⟩ := ran
  exact ⟨owed, moved, rfl, rfl, rfl⟩

theorem pay_claim_of_funded {user : Address}
    (live : (x.market.rounds roundId).status ≠ .none)
    (owed : claimableOf x.market.toLedger roundId user ≠ 0)
    (recipient : recipientOf x.market.toLedger roundId user ≠ 0)
    (funded : claimableOf x.market.toLedger roundId user ≤ x.token.balanceOf cfg.address) :
    ∃ paid, payClaim cfg roundId user x = .ok paid := by
  have unclaimed : x.market.claimed roundId user = false := by
    by_contra already
    rw [Bool.not_eq_false] at already
    exact owed (if_pos already)
  have moves := (Erc20.move_ok_iff x.token _ cfg.address
    (recipientOf x.market.toLedger roundId user) (claimableOf x.market.toLedger roundId user)).2
      ⟨cfg.address_ne_zero, recipient, funded, rfl⟩
  apply bind_succeeds (require_of _ live)
  apply bind_succeeds (require_of _ unclaimed)
  apply bind_succeeds (require_of _ owed)
  exact ⟨_, pay_ok_iff.2 ⟨_, moves, rfl⟩⟩

/-- A call on the asset by anybody else is a gain, if anything. -/
theorem gain_of_asset {call : Erc20.Call Address} {token : Erc20 Address}
    (outsider : sender ≠ cfg.address) (housed : Housed cfg x)
    (ran : x.token.exec sender call = .ok token) :
    Quiet cfg.terms (escrowOf cfg x) (escrowOf cfg { x with token := token }) ∧
      Housed cfg { x with token := token } := by
  have unapproved : ∀ spender, spender = sender →
      x.token.allowance cfg.address spender = 0 := by
    intro spender _
    rw [housed.unapproved]
  obtain ⟨more, row⟩ := Erc20.exec_keeps_unapproved outsider unapproved ran
  exact ⟨.gains _ more, row.trans housed.unapproved, housed.treasury_live⟩

/-- What a sink does is quiet, and leaves no stake and no payment behind. -/
theorem quiet_of_aside (housed : Housed cfg x) (aside : Aside cfg x after) :
    Relation.ReflTransGen (Quiet cfg.terms) (escrowOf cfg x) (escrowOf cfg after) ∧
      Housed cfg after := by
  cases aside with
  | @call sender call after outsider unlocked ran =>
      cases call with
      | openRound openTime lockTime closeTime strikePrice =>
          obtain ⟨quiet, still⟩ := quiet_of_open_round ran
          exact ⟨.single quiet, housed.still still⟩
      | setRouter router allowed =>
          obtain ⟨same, still⟩ := escrow_of_set_router cfg ran
          exact ⟨same ▸ .refl, housed.still still⟩
      | administer call =>
          obtain ⟨same, kept⟩ := escrow_of_administer housed ran
          exact ⟨same ▸ .refl, kept⟩
      | guard call =>
          obtain ⟨same, still⟩ := escrow_of_guard cfg ran
          exact ⟨same ▸ .refl, housed.still still⟩
      | _ => cases unlocked
  | @asset sender call token outsider ran =>
      obtain ⟨gain, kept⟩ := gain_of_asset outsider housed ran
      exact ⟨.single gain, kept⟩
  | elsewhere rest => exact ⟨.refl, housed.unapproved, housed.treasury_live⟩

theorem quiet_of_asides (housed : Housed cfg x)
    (asides : Relation.ReflTransGen (Aside cfg) x after) :
    Relation.ReflTransGen (Quiet cfg.terms) (escrowOf cfg x) (escrowOf cfg after) ∧
      Housed cfg after := by
  induction asides with
  | refl => exact ⟨.refl, housed⟩
  | tail _ aside ih =>
      obtain ⟨quiet, housed⟩ := ih
      obtain ⟨more, housed⟩ := quiet_of_aside housed aside
      exact ⟨quiet.trans more, housed⟩

omit [DecidableEq Address] in
/-- What goes on aside does not depend on the payments announced so far. -/
theorem quiet_beside (payout : List (Payout Address)) {e next : Escrow Address}
    (asides : Relation.ReflTransGen (Quiet cfg.terms) e next) :
    Relation.ReflTransGen (Quiet cfg.terms) { e with payouts := e.payouts ++ payout }
      { next with payouts := next.payouts ++ payout } := by
  induction asides with
  | refl => exact .refl
  | tail _ quiet ih =>
      apply ih.tail
      cases quiet with
      | gains cash more => exact .gains cash more
      | opens openTime lockTime closeTime strikePrice early window span strike =>
          exact .opens openTime lockTime closeTime strikePrice early window span strike

theorem claim_ok {sinks : Sinks Address Rest} {user : Address}
    (ran : claim cfg sinks roundId user x = .ok after) :
    ∃ paid settled, payClaim cfg roundId user x = .ok paid ∧
      notifySink sinks (x.market.settlementSinkOf roundId user) user
        (claimableOf x.market.toLedger roundId user) paid = .ok settled ∧
      after = settled.emit (.claimed roundId user (claimableOf x.market.toLedger roundId user)
        (recipientOf x.market.toLedger roundId user)) := by
  simp only [claim, bind_ok_iff, Except.ok.injEq] at ran
  obtain ⟨paid, pays, settled, notifies, same⟩ := ran
  exact ⟨paid, settled, pays, notifies, same.symm⟩

theorem Paid.housed {user : Address} {paid : Exchange Address Rest} (housed : Housed cfg x)
    (pays : Paid cfg roundId user x paid) : Housed cfg paid := by
  obtain ⟨_, _, _, moved⟩ := (Erc20.move_ok_iff _ _ _ _ _).1 pays.moved
  constructor
  · rw [moved]
    exact housed.unapproved
  · rw [pays.market]
    exact housed.treasury_live

theorem asides_of_notify {sinks : Sinks Address Rest} (outside : sinks.Outside cfg)
    {sink user : Address} {amount : Nat} (ran : notifySink sinks sink user amount x = .ok after) :
    Relation.ReflTransGen (Aside cfg) x after := by
  unfold notifySink at ran
  split_ifs at ran
  · exact outside sink user amount x after ran
  · cases ran
    exact .refl

theorem advance_of_claim {sinks : Sinks Address Rest} (outside : sinks.Outside cfg)
    (housed : Housed cfg x) {user : Address} (ran : claim cfg sinks roundId user x = .ok after) :
    Advance cfg.terms (cfg.Answers x) (escrowOf cfg x) (escrowOf cfg after) ∧
      Housed cfg after := by
  obtain ⟨paid, settled, pays, notifies, rfl⟩ := claim_ok ran
  have payment := pay_claim_ok pays
  obtain ⟨quiet, kept⟩ := quiet_of_asides (payment.housed housed) (asides_of_notify outside notifies)
  refine ⟨?_, kept.emit _⟩
  have turn : Turn cfg.terms (cfg.Answers x) (escrowOf cfg x)
      { escrowOf cfg x with
        cash := paid.token.balanceOf cfg.address
        ledger := x.market.toLedger.markClaimed roundId user
        payouts := (escrowOf cfg x).payouts ++
          [⟨roundId, user, claimableOf x.market.toLedger roundId user,
            recipientOf x.market.toLedger roundId user⟩] } :=
    .pays roundId user _ payment.owed (cash_after_payment payment.moved)
  apply Advance.claim turn rfl
  have aside := quiet_beside [⟨roundId, user, claimableOf x.market.toLedger roundId user,
    recipientOf x.market.toLedger roundId user⟩] quiet
  have start : escrowOf cfg paid =
      { escrowOf cfg x with
        cash := paid.token.balanceOf cfg.address
        ledger := x.market.toLedger.markClaimed roundId user } := by
    simp only [escrowOf, payment.market, payment.timestamp]
  rw [start] at aside
  rw [escrow_of_emit]
  simpa [Event.position, Event.payout] using aside

end Inversion

/-! ## Every step advances the escrow -/

section Steps

variable {cfg : Config Address Rest} {x after : Exchange Address Rest}

theorem advance_of_exec {sinks : Sinks Address Rest} {sender : Address} {call : Call Address}
    (outsider : sender ≠ cfg.address) (outside : sinks.Outside cfg) (housed : Housed cfg x)
    (ran : exec cfg sinks sender x call = .ok after) :
    Advance cfg.terms (cfg.Answers x) (escrowOf cfg x) (escrowOf cfg after) ∧
      Housed cfg after := by
  cases call with
  | openRound openTime lockTime closeTime strikePrice =>
      obtain ⟨quiet, still⟩ := quiet_of_open_round ran
      exact ⟨.turn (.quiet quiet), housed.still still⟩
  | takePosition roundId side amount =>
      have live := payer_live ran
      obtain ⟨turn, kept⟩ := turn_of_take_position outsider live (if_pos rfl).symm housed ran
      exact ⟨.turn turn, kept⟩
  | takePositionFor roundId user side amount =>
      simp only [exec, takePositionFor, bind_ok_iff, require_ok_iff, exists_const] at ran
      obtain ⟨_, live, ran⟩ := ran
      have senderLive := payer_live ran
      obtain ⟨turn, kept⟩ :=
        turn_of_take_position outsider live (if_neg senderLive).symm housed ran
      exact ⟨.turn turn, kept⟩
  | lockRound roundId =>
      obtain ⟨turn, still⟩ := turn_of_lock_round ran
      exact ⟨.turn turn, housed.still still⟩
  | resolveRound roundId closeOracleRoundId =>
      obtain ⟨turn, still⟩ := turn_of_resolve_round ran
      exact ⟨.turn turn, housed.still still⟩
  | voidUnsettledRound roundId =>
      obtain ⟨turn, still⟩ := turn_of_void_unsettled_round ran
      exact ⟨.turn turn, housed.still still⟩
  | voidUnlockedRound roundId =>
      obtain ⟨turn, still⟩ := turn_of_void_unlocked_round ran
      exact ⟨.turn turn, housed.still still⟩
  | claim roundId user => exact advance_of_claim outside housed ran
  | setRouter router allowed =>
      obtain ⟨same, still⟩ := escrow_of_set_router cfg ran
      exact ⟨same ▸ .turn (.quiet (.gains _ (Nat.le_refl _))), housed.still still⟩
  | withdrawFees amount =>
      obtain ⟨turn, kept⟩ := turn_of_withdraw_fees housed ran
      exact ⟨.turn turn, kept⟩
  | administer call =>
      obtain ⟨same, kept⟩ := escrow_of_administer housed ran
      exact ⟨same ▸ .turn (.quiet (.gains _ (Nat.le_refl _))), kept⟩
  | guard call =>
      obtain ⟨same, still⟩ := escrow_of_guard cfg ran
      exact ⟨same ▸ .turn (.quiet (.gains _ (Nat.le_refl _))), housed.still still⟩

theorem advance_of_step {action : Action Address Rest} (housed : Housed cfg x)
    (taken : (machine cfg).step x action after) :
    Advance cfg.terms (cfg.Answers x) (escrowOf cfg x) (escrowOf cfg after) ∧
      Housed cfg after := by
  obtain ⟨external, ran⟩ := taken
  cases action with
  | market sinks sender call => exact advance_of_exec external.1 external.2 housed ran
  | asset sender call =>
      simp only [act, pay_ok_iff] at ran
      obtain ⟨token, ran, rfl⟩ := ran
      obtain ⟨gain, kept⟩ := gain_of_asset external housed ran
      exact ⟨.turn (.quiet gain), kept⟩
  | elsewhere rest =>
      cases ran
      exact ⟨.turn (.quiet (.gains _ (Nat.le_refl _))), housed.unapproved, housed.treasury_live⟩
  | wait seconds =>
      cases ran
      exact ⟨.turn (.waits seconds), housed.unapproved, housed.treasury_live⟩

end Steps

/-! ## A small market

Seven is the market, six its owner and guardian, and one to four are users who
have approved it for everything they hold. Its oracle always answers 150. -/

section Sample

inductive Visit (Address : Type) where
  | market (sender : Address) (call : Call Address)
  | asset (sender : Address) (call : Erc20.Call Address)
  | wait (seconds : Nat)

def Visit.action : Visit Address → Action Address Rest
  | .market sender call => .market noSinks sender call
  | .asset sender call => .asset sender call
  | .wait seconds => .wait seconds

def Visit.sender : Visit Address → Option Address
  | .market sender _ | .asset sender _ => some sender
  | .wait _ => none

theorem Visit.external {cfg : Config Address Rest} {visit : Visit Address}
    (outside : ∀ sender ∈ visit.sender, sender ≠ cfg.address) :
    (visit.action : Action Address Rest).External cfg := by
  cases visit with
  | market sender call =>
      refine ⟨outside sender rfl, ?_⟩
      intro sink user amount x after ran
      cases ran
  | asset sender call => exact outside sender rfl
  | wait seconds => exact trivial

def smallMarket : Config (Fin 8) Unit where
  address := 7
  readAt _ _ _ := .ok (true, 150)
  rake := maxRake
  entryCutoff := ⟨10, Figures.ten_fits⟩
  lockWindow := ⟨10, Figures.ten_fits⟩
  resolveDeadline := ⟨100, Figures.hundred_fits⟩
  minSidePool := 5
  rake_le := Nat.le_refl _
  min_side_pool_ne_zero := Figures.five_ne_zero
  entry_cutoff_ne_zero := Figures.ten_ne_zero
  lock_window_ne_zero := Figures.ten_ne_zero
  resolve_deadline_ne_zero := Figures.hundred_ne_zero
  address_ne_zero := Figures.seven_ne_zero

def freshMarket : Exchange (Fin 8) Unit where
  timestamp := 0
  token :=
    { balanceOf := fun user => if 1 ≤ user ∧ user ≤ 4 then 10 ^ 40 else 0
      allowance := fun owner spender =>
        if 1 ≤ owner ∧ owner ≤ 4 ∧ spender = 7 then uint256Max else 0
      totalSupply := 4 * 10 ^ 40 }
  market := deployed { owner := 6, treasury := 6 } 6
  rest := ()

theorem fresh_market_deployed : Deployed smallMarket freshMarket where
  fresh := ⟨6, { owner := 6, treasury := 6 }, 6, rfl, rfl⟩
  unapproved := by
    funext spender
    have contract : ¬(1 ≤ (7 : Fin 8) ∧ (7 : Fin 8) ≤ 4 ∧ spender = 7) := by simp
    exact if_neg (t := uint256Max) contract

theorem reachable_of_replay (cfg : Config (Fin 8) Unit) (start : Deployed cfg freshMarket)
    (run : List (Visit (Fin 8))) (check : Exchange (Fin 8) Unit → Bool)
    (outside : ∀ visit ∈ run, ∀ sender ∈ visit.sender, sender ≠ cfg.address)
    (ran : passes (Machine.replay (act cfg) freshMarket (run.map Visit.action)) check = true) :
    ∃ x, (machine cfg).Reachable x ∧ check x = true := by
  obtain ⟨x, replayed, checked⟩ := exists_of_passes _ ran
  have fresh : (machine cfg).Reachable freshMarket := .initial start
  refine ⟨x, fresh.replay ?_ replayed, checked⟩
  intro action member before after taken
  obtain ⟨visit, visited, rfl⟩ := List.mem_map.1 member
  exact ⟨Visit.external (outside visit visited), taken⟩

theorem reachable_of_visits (run : List (Visit (Fin 8)))
    (check : Exchange (Fin 8) Unit → Bool)
    (outside : ∀ visit ∈ run, ∀ sender ∈ visit.sender, sender ≠ smallMarket.address)
    (ran : passes (Machine.replay (act smallMarket) freshMarket (run.map Visit.action))
      check = true) :
    ∃ x, (machine smallMarket).Reachable x ∧ check x = true :=
  reachable_of_replay smallMarket fresh_market_deployed run check outside ran

def settledRun : List (Visit (Fin 8)) :=
  [.market 6 (.openRound ⟨0, Figures.zero_fits⟩ ⟨100, Figures.hundred_fits⟩ ⟨200, Figures.two_hundred_fits⟩ 100),
    .market 1 (.takePosition 1 .up 100), .market 2 (.takePosition 1 .down 60),
    .market 3 (.takePosition 1 .up 50), .wait 100, .market 4 (.lockRound 1), .wait 100,
    .market 4 (.resolveRound 1 Uint80.zero)]

end Sample

end Market

end Ghoststake
