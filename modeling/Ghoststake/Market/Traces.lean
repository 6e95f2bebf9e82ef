import Ghoststake.Market.Steps

/-!
# What a call on the market leaves behind

Which calls announce a tie, which touch anything outside the market, and how a
round comes to be resolved.
-/

namespace Ghoststake

set_option autoImplicit false

open Checked Rounding

namespace Market

variable {Address Rest : Type} [Zero Address] [DecidableEq Address]
  {cfg : Config Address Rest} {x after : Exchange Address Rest} {roundId : Nat}

def Event.tie : Event Address → Option Nat
  | .roundVoided roundId reason => if reason = "tie" then some roundId else none
  | _ => none

def tiesOf (x : Exchange Address Rest) : List Nat := x.market.logs.filterMap Event.tie

omit [Zero Address] [DecidableEq Address] in
theorem ties_of_emit (x : Exchange Address Rest) (event : Event Address) :
    tiesOf (x.emit event) = tiesOf x ++ event.tie.toList := by
  simp only [tiesOf, Exchange.emit, List.filterMap_append]
  cases found : event.tie <;> simp [found]

omit [Zero Address] [DecidableEq Address] in
theorem ties_of_emit_other (x : Exchange Address Rest) {event : Event Address}
    (other : event.tie = none) : tiesOf (x.emit event) = tiesOf x := by
  rw [ties_of_emit, other]
  exact List.append_nil _

/-- No tie is announced and nothing outside the market is touched. -/
structure Plain (x after : Exchange Address Rest) : Prop where
  rest : after.rest = x.rest
  ties : tiesOf after = tiesOf x

omit [Zero Address] [DecidableEq Address] in
theorem Plain.emit {event : Event Address} (plain : Plain x after) (other : event.tie = none) :
    Plain x (after.emit event) :=
  ⟨plain.rest, (ties_of_emit_other after other).trans plain.ties⟩

omit [Zero Address] [DecidableEq Address] in
theorem plain_of_void (round : Round) {reason : String} (other : reason ≠ "tie") :
    Plain x (voidInternal roundId round reason x) := by
  have untied : (Event.roundVoided roundId reason : Event Address).tie = none := if_neg other
  apply Plain.emit _ untied
  exact ⟨rfl, rfl⟩

theorem plain_of_take_position {user payer sink : Address} {side : Side} {amount : Nat}
    (ran : takePositionInternal cfg roundId user side amount payer sink x = .ok after) :
    Plain x after := by
  simp only [takePositionInternal, bind_ok_iff, require_ok_iff, exists_const,
    require_status_ok_iff, pay_ok_iff, Except.ok.injEq] at ran
  obtain ⟨_, _, _, _, _, _, _, _, ⟨token, _, rfl⟩, rfl⟩ := ran
  apply Plain.emit _ rfl
  exact ⟨rfl, rfl⟩

omit [DecidableEq Address] in
theorem plain_of_lock_round (ran : lockRound cfg roundId x = .ok after) : Plain x after := by
  simp only [lockRound, bind_ok_iff, require_ok_iff, exists_const, require_status_ok_iff] at ran
  obtain ⟨_, _, ran⟩ := ran
  split_ifs at ran with thin
  · cases ran
    exact plain_of_void _ (by decide)
  · simp only [lockInWindow, bind_ok_iff, Except.ok.injEq] at ran
    obtain ⟨deadline, _, rfl⟩ := ran
    split_ifs
    · exact plain_of_void _ (by decide)
    · apply Plain.emit _ rfl
      exact ⟨rfl, rfl⟩

def Call.Routine : Call Address → Prop
  | .resolveRound _ _ | .claim _ _ => False
  | _ => True

theorem plain_of_exec {sinks : Sinks Address Rest} {sender : Address} {call : Call Address}
    (routine : call.Routine) (ran : exec cfg sinks sender x call = .ok after) :
    Plain x after := by
  cases call with
  | openRound openTime lockTime closeTime strikePrice =>
      simp only [exec, openRound, bind_ok_iff, require_ok_iff, exists_const,
        Except.ok.injEq] at ran
      obtain ⟨_, _, _, _, _, _, _, _, _, _, rfl⟩ := ran
      apply Plain.emit _ rfl
      apply Plain.emit _ rfl
      exact ⟨rfl, rfl⟩
  | takePosition roundId side amount => exact plain_of_take_position ran
  | takePositionFor roundId user side amount =>
      simp only [exec, takePositionFor, bind_ok_iff, require_ok_iff, exists_const] at ran
      exact plain_of_take_position ran.2.2
  | lockRound roundId => exact plain_of_lock_round ran
  | resolveRound roundId closeOracleRoundId => exact absurd routine id
  | voidUnsettledRound roundId =>
      simp only [exec, voidUnsettledRound, bind_ok_iff, require_ok_iff, exists_const,
        require_status_ok_iff, Except.ok.injEq] at ran
      obtain ⟨_, _, _, _, _, _, rfl⟩ := ran
      exact plain_of_void _ (by decide)
  | voidUnlockedRound roundId =>
      simp only [exec, voidUnlockedRound, bind_ok_iff, require_ok_iff, exists_const,
        require_status_ok_iff, Except.ok.injEq] at ran
      obtain ⟨_, _, _, _, rfl⟩ := ran
      exact plain_of_void _ (by decide)
  | claim roundId user => exact absurd routine id
  | setRouter router allowed =>
      simp only [exec, setRouter, bind_ok_iff, require_ok_iff, exists_const,
        Except.ok.injEq] at ran
      obtain ⟨_, _, _, rfl⟩ := ran
      apply Plain.emit _ rfl
      exact ⟨rfl, rfl⟩
  | withdrawFees amount =>
      simp only [exec, withdrawFees, bind_ok_iff, require_ok_iff, exists_const, pay_ok_iff,
        Except.ok.injEq] at ran
      obtain ⟨_, _, _, _, _, ⟨token, _, rfl⟩, rfl⟩ := ran
      apply Plain.emit _ rfl
      exact ⟨rfl, rfl⟩
  | administer call =>
      simp only [exec, administer, bind_ok_iff, Prod.exists, Except.ok.injEq] at ran
      obtain ⟨access, event, _, rfl⟩ := ran
      apply Plain.emit _ rfl
      exact ⟨rfl, rfl⟩
  | guard call =>
      simp only [exec, guard, bind_ok_iff, Prod.exists, Except.ok.injEq] at ran
      obtain ⟨access, event, _, rfl⟩ := ran
      apply Plain.emit _ rfl
      exact ⟨rfl, rfl⟩

omit [DecidableEq Address] in
theorem resolve_round_ok {closeOracleRoundId : Uint80}
    (ran : resolveRound cfg roundId closeOracleRoundId x = .ok after) :
    (x.market.rounds roundId).status = .locked ∧ ∃ price,
      cfg.readAt x closeOracleRoundId (x.market.rounds roundId).closeTime.val =
        .ok (true, price) ∧ after = settleAt cfg roundId price x := by
  simp only [resolveRound, bind_ok_iff, require_ok_iff, exists_const, require_status_ok_iff,
    Prod.exists, Except.ok.injEq] at ran
  obtain ⟨⟨_, status⟩, _, answered, price, read, rfl, rfl⟩ := ran
  exact ⟨status, price, read, rfl⟩

omit [DecidableEq Address] in
theorem plain_of_settle {price : Nat} (decided : price ≠ (x.market.rounds roundId).lockPrice) :
    Plain x (settleAt cfg roundId price x) := by
  simp only [settleAt, if_neg decided]
  apply Plain.emit _ rfl
  exact ⟨rfl, rfl⟩

omit [DecidableEq Address] in
theorem settle_at_tie (cfg : Config Address Rest) (x : Exchange Address Rest) (roundId : Nat) :
    (settleAt cfg roundId (x.market.rounds roundId).lockPrice x).rest = x.rest ∧
      tiesOf (settleAt cfg roundId (x.market.rounds roundId).lockPrice x) =
        tiesOf x ++ [roundId] := by
  simp only [settleAt, if_true]
  exact ⟨rfl, ties_of_emit _ _⟩

omit [DecidableEq Address] in
/-- A settled round is a function of the round and the price. -/
theorem settled_round (price : Nat) :
    (settleAt cfg roundId price x).market.rounds roundId =
      if price = (x.market.rounds roundId).lockPrice then
        { x.market.rounds roundId with closePrice := price, status := .void }
      else (x.market.rounds roundId).settled price
        (mulDiv ((x.market.rounds roundId).upPool + (x.market.rounds roundId).downPool)
          cfg.rake WAD) := by
  simp only [settleAt]
  split_ifs with tie
  · exact Ledger.set_round_same ..
  · exact Ledger.set_round_same ..

/-- A round that is resolved was, or an answer resolved it. -/
theorem resolved_of_turn {terms : Terms} {answers : Nat → Nat → Prop} {e next : Escrow Address}
    (turn : Turn terms answers e next) (resolved : (next.ledger.rounds roundId).status = .resolved) :
    next.ledger.rounds roundId = e.ledger.rounds roundId ∨ ∃ price rakeTaken,
      answers (e.ledger.rounds roundId).closeTime.val price ∧
      next.ledger.rounds roundId = (e.ledger.rounds roundId).settled price rakeTaken := by
  cases turn with
  | quiet turn =>
      cases turn with
      | gains cash more => exact .inl rfl
      | opens openTime lockTime closeTime strikePrice =>
          by_cases same : roundId = e.ledger.roundCount + 1
          · subst same
            simp [Ledger.opened, Ledger.setRound] at resolved
          · exact .inl (e.ledger.opened_other openTime lockTime closeTime strikePrice same).rounds
  | waits seconds => exact .inl rfl
  | enters id user side amount sink cash status inTime something live single received =>
      by_cases same : roundId = id
      · subst same
        rw [Ledger.entered_rounds, Function.update_self, Round.joined_status, status] at resolved
        cases resolved
      · exact .inl (e.ledger.entered_other id user side amount sink same).rounds
  | locks id =>
      by_cases same : roundId = id
      · subst same
        rw [Ledger.setStatus, Ledger.set_round_same] at resolved
        cases resolved
      · exact .inl (e.ledger.set_round_other id _ same).rounds
  | resolves id price status late answered decided =>
      by_cases same : roundId = id
      · subst same
        exact .inr ⟨price, _, answered, Function.update_self ..⟩
      · exact .inl (e.ledger.settled_other id price _ same).rounds
  | ties id =>
      by_cases same : roundId = id
      · subst same
        rw [Ledger.tied, Ledger.set_round_same] at resolved
        cases resolved
      · exact .inl (e.ledger.set_round_other id _ same).rounds
  | voids id =>
      by_cases same : roundId = id
      · subst same
        rw [Ledger.setStatus, Ledger.set_round_same] at resolved
        cases resolved
      · exact .inl (e.ledger.set_round_other id _ same).rounds
  | pays => exact .inl rfl
  | withdraws => exact .inl rfl

theorem resolved_of_advance {terms : Terms} {answers : Nat → Nat → Prop} {e next : Escrow Address}
    (advance : Advance terms answers e next)
    (resolved : (next.ledger.rounds roundId).status = .resolved) :
    next.ledger.rounds roundId = e.ledger.rounds roundId ∨ ∃ price rakeTaken,
      answers (e.ledger.rounds roundId).closeTime.val price ∧
      next.ledger.rounds roundId = (e.ledger.rounds roundId).settled price rakeTaken := by
  cases advance with
  | turn turn => exact resolved_of_turn turn resolved
  | @claim mid turn rounds asides =>
      have before : next.ledger.rounds roundId = mid.ledger.rounds roundId := by
        clear turn rounds
        induction asides with
        | refl => rfl
        | @tail last final _ quiet ih =>
            have turn : Turn terms (fun _ _ => False) last final := .quiet quiet
            rcases resolved_of_turn turn resolved with same | ⟨_, _, impossible, _⟩
            · rw [same] at resolved ⊢
              exact ih resolved
            · exact absurd impossible id
      rw [before, rounds]
      exact .inl rfl

/-- A locked round stays as it is until it is over. -/
theorem locked_of_turn {terms : Terms} {answers : Nat → Nat → Prop} {e next : Escrow Address}
    (turn : Turn terms answers e next) (locked : (next.ledger.rounds roundId).status = .locked)
    (before : (e.ledger.rounds roundId).status = .locked) :
    next.ledger.rounds roundId = e.ledger.rounds roundId := by
  cases turn with
  | quiet turn =>
      cases turn with
      | gains cash more => rfl
      | opens openTime lockTime closeTime strikePrice =>
          by_cases same : roundId = e.ledger.roundCount + 1
          · subst same
            simp [Ledger.opened, Ledger.setRound] at locked
          · exact (e.ledger.opened_other openTime lockTime closeTime strikePrice same).rounds
  | waits seconds => rfl
  | enters id user side amount sink cash status inTime something live single received =>
      by_cases same : roundId = id
      · subst same
        cases status.symm.trans before
      · exact (e.ledger.entered_other id user side amount sink same).rounds
  | locks id status =>
      by_cases same : roundId = id
      · subst same
        cases status.symm.trans before
      · exact (e.ledger.set_round_other id _ same).rounds
  | resolves id price =>
      by_cases same : roundId = id
      · subst same
        have settled := congrArg Round.status (Function.update_self roundId
          ((e.ledger.rounds roundId).settled price (mulDiv (totalPool e.ledger roundId)
            terms.rake WAD)) e.ledger.rounds)
        cases settled.symm.trans locked
      · exact (e.ledger.settled_other id price _ same).rounds
  | ties id =>
      by_cases same : roundId = id
      · subst same
        rw [Ledger.tied, Ledger.set_round_same] at locked
        cases locked
      · exact (e.ledger.set_round_other id _ same).rounds
  | voids id =>
      by_cases same : roundId = id
      · subst same
        rw [Ledger.setStatus, Ledger.set_round_same] at locked
        cases locked
      · exact (e.ledger.set_round_other id _ same).rounds
  | pays => rfl
  | withdraws => rfl

end Market

end Ghoststake
