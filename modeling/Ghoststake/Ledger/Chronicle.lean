import Ghoststake.Ledger.Decoding
import Ghoststake.Ledger.Exposure
import Ghoststake.Market.Replay
import Ghoststake.Screen.Rounds

/-!
# Rounds read from their rows

Folding the rows of a market's logs and replaying the logs themselves keep step:
what the projection says of a round is what the market has in storage.
-/

namespace Ghoststake

set_option autoImplicit false

open Checked KeyedFold StableSort

namespace Ledger

open Index Finance

/-! ## A round without its name and its question -/

def Round.bare (r : Round) : Round :=
  { r with chainID := 0, market := none, roundID := 0, question := none, lastBlock := 0 }

def blank : Round where
  chainID := 0
  market := none
  roundID := 0
  status := .unset
  openTime := zeroTime
  lockTime := zeroTime
  closeTime := zeroTime
  upPool := 0
  downPool := 0
  lockPrice := none
  closePrice := none
  winner := []
  rakeTaken := none
  voidReason := []
  question := none
  lastBlock := 0

def bareOf (found : Option Round) : Round := found.elim blank Round.bare

def applyBare (r : Round) (e : RoundEvent) : Round := (applyRoundEvent r e).bare

theorem bare_staked (r : Round) (side : Text) (amount : Int) :
    (r.staked side amount).bare = (r.bare.staked side amount).bare := by
  unfold Round.staked
  split_ifs
  · rfl
  · rfl
  · rfl

theorem bare_apply (r : Round) (e : RoundEvent) :
    (applyRoundEvent r e).bare = applyBare r.bare e := by
  unfold applyBare applyRoundEvent
  cases eventNamed e.provenance.eventName with
  | none => rfl
  | some name =>
      cases name with
      | positionTaken =>
          cases e.body.amount with
          | none => rfl
          | some amount => exact bare_staked r _ _
      | _ => rfl

theorem bare_raised (r : Round) (e : RoundEvent) : (r.raised e).bare = r.bare := by
  unfold Round.raised
  split_ifs
  · rfl
  · rfl

theorem bare_fold_round (e : RoundEvent) (found : Option Round) :
    (foldRound e found).bare = applyBare (bareOf found) e := by
  rw [foldRound, bare_apply, bare_raised]
  cases found with
  | none => rfl
  | some r => rfl

theorem bare_beside {e : RoundEvent} (beside : Beside e) (r : Round) :
    applyBare r.bare e = r.bare := by
  unfold applyBare applyRoundEvent
  unfold Beside at beside
  cases name : eventNamed e.provenance.eventName with
  | none => rfl
  | some known =>
      rw [name] at beside
      cases known with
      | roundOpened => exact beside.elim
      | roundStrikeSet => exact beside.elim
      | positionTaken => exact beside.elim
      | roundLocked => exact beside.elim
      | roundResolved => exact beside.elim
      | roundVoided => exact beside.elim
      | claimed => exact beside.elim
      | _ => rfl

theorem bare_of_bare (found : Option Round) : (bareOf found).bare = bareOf found := by
  cases found with
  | none => rfl
  | some r => rfl

theorem bare_foldl (events : List RoundEvent) (found : Option Round) :
    bareOf (events.foldl (fun found e => some (foldRound e found)) found) =
      (events.filter fun e => ¬Beside e).foldl applyBare (bareOf found) := by
  apply image_foldl bareOf applyBare _ fun _ => True
  · exact fun _ _ _ => trivial
  · exact fun e found _ _ => bare_fold_round e found
  · intro e found _ beside
    have folded : bareOf (some (foldRound e found)) = applyBare (bareOf found) e :=
      bare_fold_round e found
    have still := bare_beside (by simpa using beside) (bareOf found)
    rw [bare_of_bare] at still
    rw [folded, still]
  · trivial

/-! ## One log -/

structure Tells (r : Round) (round : Market.Round) : Prop where
  status : r.status = statusOf round.status
  /-- Every round that was opened is locked at some time. -/
  schedule : round.lockTime.val ≠ 0 → r.openTime = unixOf round.openTime ∧
    r.lockTime = unixOf round.lockTime ∧ r.closeTime = unixOf round.closeTime
  upPool : r.upPool = round.upPool
  downPool : r.downPool = round.downPool
  /-- The strike is announced after the round. -/
  strike : r.lockPrice.getD 0 = round.lockPrice
  settled : round.status = .resolved → r.closePrice = some (round.closePrice : Int) ∧
    r.winner = sideText round.winner ∧ r.rakeTaken = some (round.rakeTaken : Int)

theorem tells_blank : Tells blank Market.Round.unset where
  status := rfl
  schedule := fun later => absurd rfl later
  upPool := rfl
  downPool := rfl
  strike := rfl
  settled := fun resolved => by cases resolved

theorem Tells.bare {r : Round} {round : Market.Round} (tells : Tells r round) :
    Tells r.bare round :=
  ⟨tells.status, tells.schedule, tells.upPool, tells.downPool, tells.strike, tells.settled⟩

theorem Tells.staked {r : Round} {round : Market.Round} (tells : Tells r round)
    (side : Market.Side) (amount : Nat) :
    Tells (r.staked (sideText side) amount).bare (round.joined side amount) := by
  have apart : sideDown ≠ sideUp := by decide
  cases side with
  | up =>
      have joined : r.staked (sideText .up) amount = { r with upPool := r.upPool + amount } :=
        if_pos rfl
      rw [joined]
      refine ⟨tells.status, tells.schedule, ?_, tells.downPool, tells.strike, tells.settled⟩
      change r.upPool + amount = ((round.upPool + amount : Nat) : Int)
      rw [tells.upPool, Nat.cast_add]
  | down =>
      have joined : r.staked (sideText .down) amount =
          { r with downPool := r.downPool + amount } := (if_neg apart).trans (if_pos rfl)
      rw [joined]
      refine ⟨tells.status, tells.schedule, tells.upPool, ?_, tells.strike, tells.settled⟩
      change r.downPool + amount = ((round.downPool + amount : Nat) : Int)
      rw [tells.downPool, Nat.cast_add]

theorem Tells.voided {Account : Type} {ledger : Market.Ledger Account} {roundId : Nat} {r : Round}
    (tells : Tells r (ledger.rounds roundId)) (reason : String) (voidReason : Text) :
    Tells (Round.bare { r with status := .void, voidReason := voidReason })
      ((ledger.voided roundId reason).rounds roundId) := by
  unfold Market.Ledger.voided
  split_ifs
  · rw [Market.Ledger.tied, Market.Ledger.set_round_same]
    exact ⟨rfl, tells.schedule, tells.upPool, tells.downPool, tells.strike,
      fun resolved => by cases resolved⟩
  · rw [Market.Ledger.setStatus, Market.Ledger.set_round_same]
    exact ⟨rfl, tells.schedule, tells.upPool, tells.downPool, tells.strike,
      fun resolved => by cases resolved⟩

variable {Account : Type} [Zero Account] {naming : Naming Account}
  {capital : Address → Nat → Bool} {market : Address} {ledger : Market.Ledger Account}
  {roundId : Nat} {r : Round}

def aboutRound : Market.Event Account → Option Nat
  | .roundOpened roundId _ _ _ | .roundStrikeSet roundId _ | .positionTaken roundId _ _ _ _
  | .roundLocked roundId _ _ | .roundResolved roundId _ _ _ | .roundVoided roundId _
  | .claimed roundId _ _ _ => some roundId
  | .routerSet _ _ | .feesWithdrawn _ _ | .access _ => none

omit [Zero Account] in
theorem replay_other [DecidableEq Account] {event : Market.Event Account}
    (other : aboutRound event ≠ some roundId) :
    (ledger.replay event).rounds roundId = ledger.rounds roundId ∧
      (ledger.replay event).stakeOf roundId = ledger.stakeOf roundId ∧
      (ledger.replay event).claimed roundId = ledger.claimed roundId := by
  have apart {id : Nat} (named : some id ≠ some roundId) : roundId ≠ id := by
    intro same
    exact named (congrArg some same.symm)
  cases event with
  | roundOpened id openTime lockTime closeTime =>
      exact ⟨Function.update_of_ne (apart other) _ _, rfl, rfl⟩
  | roundStrikeSet id strikePrice => exact ⟨Function.update_of_ne (apart other) _ _, rfl, rfl⟩
  | positionTaken id user side amount funder =>
      exact ⟨Function.update_of_ne (apart other) _ _, Function.update_of_ne (apart other) _ _, rfl⟩
  | roundLocked id lockPrice oracleRoundId =>
      exact ⟨Function.update_of_ne (apart other) _ _, rfl, rfl⟩
  | roundResolved id closePrice winner rakeTaken =>
      exact ⟨Function.update_of_ne (apart other) _ _, rfl, rfl⟩
  | roundVoided id reason =>
      simp only [Market.Ledger.replay, Market.Ledger.voided]
      split_ifs
      · exact ⟨Function.update_of_ne (apart other) _ _, rfl, rfl⟩
      · exact ⟨Function.update_of_ne (apart other) _ _, rfl, rfl⟩
  | claimed id user amount recipient =>
      exact ⟨rfl, rfl, Function.update_of_ne (apart other) _ _⟩
  | _ => exact ⟨rfl, rfl, rfl⟩

theorem about_of_decoded {event : Market.Event Account} {bodies : List RoundBody}
    {body : RoundBody} (decoded : decodeRound naming capital event = some bodies)
    (member : body ∈ bodies) : aboutRound event = some body.roundID := by
  have filed {id : Nat} {account : Option Address} {side : Text} {amount : Option Int}
      {fields : List (String × Text)}
      (batch : roundBatch id account side amount fields = some bodies) :
      some id = some body.roundID := by
    obtain ⟨_, only⟩ := round_batch_eq_some_iff.1 batch
    rw [only] at member
    rw [List.mem_singleton.1 member]
  have silent (nothing : some [] = some bodies) : False := by
    rw [← Option.some.inj nothing] at member
    cases member
  cases event with
  | routerSet router allowed => exact (silent decoded).elim
  | feesWithdrawn target amount => exact (silent decoded).elim
  | access access => exact (silent decoded).elim
  | _ => exact filed decoded

theorem decoded_of_about {event : Market.Event Account} (about : aboutRound event = some roundId) :
    decodeRound naming capital event ≠ some [] := by
  have filed {id : Nat} {account : Option Address} {side : Text} {amount : Option Int}
      {fields : List (String × Text)} : roundBatch id account side amount fields ≠ some [] := by
    intro batch
    cases (round_batch_eq_some_iff.1 batch).2
  cases event with
  | routerSet router allowed => cases about
  | feesWithdrawn target amount => cases about
  | access access => cases about
  | _ => exact filed

theorem rows_other {log : MarketLog naming capital} {kept : RoundEvent → Bool}
    (named : ∀ e, kept e = true → refOf e = ⟨some market, roundId⟩)
    (other : aboutRound log.event ≠ some roundId) : (log.rows market).filter kept = [] := by
  rw [List.filter_eq_nil_iff]
  intro e member taken
  obtain ⟨i, body, derived, rfl⟩ := mem_rows member
  apply other
  rw [about_of_decoded log.decoded derived]
  have ref := named _ taken
  exact congrArg some (congrArg RoundRef.roundID ref)

theorem event_named_row (log : MarketLog naming capital) (body : RoundBody) :
    eventNamed (rowOf market log body).provenance.eventName = marketEventName log.event := by
  rw [← event_named_market, ← log.named]
  rfl

variable [DecidableEq Account]

omit [DecidableEq Account] in
theorem body_of_batch {body : RoundBody} {account : Option Address} {side : Text}
    {amount : Option Int} {fields : List (String × Text)}
    (batch : roundBatch roundId account side amount fields = some [body]) :
    body = { roundID := roundId, account, side, amount, data := dataOf fields } :=
  (List.cons.inj (round_batch_eq_some_iff.1 batch).2).1

/-- One record moves the projected round as its event moves the market's. -/
theorem tells_of_event {event : Market.Event Account} {e : RoundEvent}
    (decoded : decodeRound naming capital event = some [e.body])
    (named : eventNamed e.provenance.eventName = marketEventName event)
    (about : aboutRound event = some roundId) (tells : Tells r (ledger.rounds roundId)) :
    Tells (applyBare r e) ((ledger.replay event).rounds roundId) := by
  unfold applyBare applyRoundEvent
  simp only [named]
  cases event with
  | roundOpened id openTime lockTime closeTime =>
      cases about
      have body := body_of_batch decoded
      rw [Market.Ledger.replay, Market.Ledger.set_round_same]
      refine ⟨rfl, fun _ => ?_, tells.upPool, tells.downPool, tells.strike, ?_⟩
      · refine ⟨unix_field_of_decimal ?_, unix_field_of_decimal ?_, unix_field_of_decimal ?_⟩
        · simp [body]
        · simp [body, field_next]
        · simp [body, field_next]
      · intro resolved
        cases resolved
  | roundStrikeSet id strikePrice =>
      cases about
      have strike : bigField e.body.data "strikePrice" = some (strikePrice : Int) := by
        apply big_field_of_decimal
        simp [body_of_batch decoded]
      rw [Market.Ledger.replay, Market.Ledger.set_round_same]
      refine ⟨tells.status, tells.schedule, tells.upPool, tells.downPool, ?_, tells.settled⟩
      exact congrArg (Option.getD · 0) strike
  | positionTaken id user side amount funder =>
      cases about
      have body := body_of_batch decoded
      rw [Market.Ledger.replay, Market.Ledger.set_round_same, body]
      exact tells.staked side amount
  | roundLocked id lockPrice oracleRoundId =>
      cases about
      have strike : bigField e.body.data "lockPrice" = some (lockPrice : Int) := by
        apply big_field_of_decimal
        simp [body_of_batch decoded]
      rw [Market.Ledger.replay, Market.Ledger.set_round_same]
      refine ⟨rfl, tells.schedule, tells.upPool, tells.downPool, ?_, ?_⟩
      · exact congrArg (Option.getD · 0) strike
      · intro resolved
        cases resolved
  | roundResolved id closePrice winner rakeTaken =>
      cases about
      have body := body_of_batch decoded
      have won : field e.body.data "winner" = sideText winner := by simp [body, field_next]
      rw [Market.Ledger.replay, Market.Ledger.set_round_same]
      refine ⟨rfl, tells.schedule, tells.upPool, tells.downPool, tells.strike, fun _ => ?_⟩
      refine ⟨big_field_of_decimal ?_, won, big_field_of_decimal ?_⟩
      · simp [body]
      · simp [body, field_next]
  | roundVoided id reason =>
      cases about
      exact tells.voided reason _
  | claimed id user amount recipient =>
      cases about
      exact tells.bare
  | routerSet router allowed => cases about
  | feesWithdrawn target amount => cases about
  | access access => cases about

/-- One log moves the projected round as it moves the market's. -/
theorem tells_of_log (log : MarketLog naming capital) (tells : Tells r (ledger.rounds roundId)) :
    Tells (((log.rows market).filter fun e => refOf e = ⟨some market, roundId⟩).foldl applyBare r)
      ((ledger.replay log.event).rounds roundId) := by
  by_cases about : aboutRound log.event = some roundId
  · rcases single_round naming capital log.event log.bodies log.decoded with none | ⟨body, one⟩
    · have decoded := log.decoded
      rw [none] at decoded
      exact absurd decoded (decoded_of_about about)
    · have filed := about_of_decoded log.decoded (one ▸ List.mem_singleton_self body)
      rw [about] at filed
      have here : refOf (rowOf market log body) = ⟨some market, roundId⟩ :=
        congrArg (RoundRef.mk (some market)) (Option.some.inj filed).symm
      rw [filter_rows_one one (decide_eq_true here)]
      exact tells_of_event (one ▸ log.decoded) (event_named_row log body) about tells
  · rw [(replay_other about).1, rows_other (fun e taken => of_decide_eq_true taken) about]
    exact tells

variable (market) in
/-- Replaying the logs and folding their rows keep step from the start. -/
theorem tells_of_logs (logs : List (MarketLog naming capital)) (roundId : Nat) :
    Tells (((rowsFiled market logs).filter fun e => refOf e = ⟨some market, roundId⟩).foldl
        applyBare blank)
      ((Market.Ledger.rebuilt (logs.map (·.event))).rounds roundId) := by
  induction logs using List.reverseRecOn with
  | nil => exact tells_blank
  | append_singleton rest log ih =>
      rw [rows_filed_append, List.filter_append, List.foldl_append, List.map_append]
      have replayed : Market.Ledger.rebuilt (rest.map (·.event) ++ [log].map (·.event)) =
          (Market.Ledger.rebuilt (rest.map (·.event))).replay log.event :=
        List.foldl_append
      rw [replayed]
      exact tells_of_log log ih

/-! ## The market's own rounds -/

/-- A round as it is rendered, from the projection and the market's terms. -/
structure Rendered where
  status : RoundStatus
  phase : Finance.Phase
  entryOpen : Bool
  openTime : Int
  lockTime : Int
  closeTime : Int
  upPool : Int
  downPool : Int
  totalPool : Int
  upOdds : Int
  downOdds : Int
  lockPrice : Option Int
  deriving DecidableEq

def renderRound (round : Round) (entryCutoff rake now : Int) : Rendered where
  status := round.status
  phase := Finance.phaseOf round.status round.openTime round.lockTime entryCutoff now
  entryOpen := Finance.entryIsOpen round.status round.openTime round.lockTime entryCutoff now
  openTime := round.openTime
  lockTime := round.lockTime
  closeTime := round.closeTime
  upPool := round.upPool
  downPool := round.downPool
  totalPool := round.upPool + round.downPool
  upOdds := Finance.odds round.upPool round.upPool round.downPool rake
  downOdds := Finance.odds round.downPool round.upPool round.downPool rake
  lockPrice := round.lockPrice

structure Views {Rest : Type} (cfg : Market.Config Account Rest) (x : Exchange Account Rest)
    (roundId : Nat) (shown : Rendered) : Prop where
  status : shown.status = statusOf (x.market.rounds roundId).status
  phase : some shown.phase = Finance.Phase.shown (Market.phaseOf cfg x roundId)
  entryOpen : shown.entryOpen = Market.entryIsOpen cfg x roundId
  openTime : shown.openTime = (x.market.rounds roundId).openTime.val
  lockTime : shown.lockTime = (x.market.rounds roundId).lockTime.val
  closeTime : shown.closeTime = (x.market.rounds roundId).closeTime.val
  upPool : shown.upPool = Market.poolOf x.market.toLedger roundId .up
  downPool : shown.downPool = Market.poolOf x.market.toLedger roundId .down
  totalPool : shown.totalPool = Market.totalPool x.market.toLedger roundId
  upOdds : shown.upOdds = Market.oddsOf cfg x.market.toLedger roundId .up
  downOdds : shown.downOdds = Market.oddsOf cfg x.market.toLedger roundId .down
  lockPrice : shown.lockPrice = some ((x.market.rounds roundId).lockPrice : Int)

section Runs

variable {Rest : Type} {cfg : Market.Config Account Rest} {x : Exchange Account Rest}
  {logs : List (MarketLog naming capital)} {events : List RoundEvent}

theorem tells_of_recorded (reached : (Market.machine cfg).Reachable x)
    (recorded : Recorded market x.market.logs logs events) (roundId : Nat) :
    Tells (bareOf (shown (project events) ⟨some market, roundId⟩)) (x.market.rounds roundId) := by
  have history := history_of_recorded recorded
    (fun e => refOf e = ⟨some market, roundId⟩)
    (fun e named => congrArg RoundRef.market (of_decide_eq_true named))
  have told := tells_of_logs market logs roundId
  rw [recorded.announced, ← Market.rebuilt_rounds reached, ← history] at told
  rw [shown_project, bare_foldl]
  exact told

theorem schedule_of_reachable [Fintype Account] (reached : (Market.machine cfg).Reachable x)
    {roundId : Nat} (known : (x.market.rounds roundId).status ≠ .none) :
    (x.market.rounds roundId).openTime.val + cfg.entryCutoff.val <
        (x.market.rounds roundId).lockTime.val ∧
      (x.market.rounds roundId).lockTime.val < (x.market.rounds roundId).closeTime.val :=
  ((Market.kept_of_reachable reached).1.sound.rounds roundId).schedule known

theorem views_of_tells [Fintype Account] (reached : (Market.machine cfg).Reachable x)
    {roundId : Nat} (known : (x.market.rounds roundId).status ≠ .none)
    (fits : (x.market.rounds roundId).closeTime.val < 2 ^ 63)
    (tells : Tells r (x.market.rounds roundId)) :
    Views cfg x roundId (renderRound r cfg.entryCutoff.val cfg.rake x.timestamp) := by
  obtain ⟨opens, spans⟩ := schedule_of_reachable reached known
  have strike := Market.struck_of_reachable reached roundId known
  obtain ⟨openTime, lockTime, closeTime⟩ := tells.schedule (by omega)
  rw [unix_of_fits (by omega)] at openTime
  rw [unix_of_fits (by omega)] at lockTime
  rw [unix_of_fits fits] at closeTime
  have cutoff : (x.market.rounds roundId).status ≠ .none →
      cfg.entryCutoff.val ≤ (x.market.rounds roundId).lockTime.val := fun _ => by omega
  constructor
  · exact tells.status
  · rw [← phase_of_eq cutoff known, renderRound, tells.status, openTime, lockTime]
  · rw [← entry_is_open_eq cutoff, renderRound, tells.status, openTime, lockTime]
  · exact openTime
  · exact lockTime
  · exact closeTime
  · exact tells.upPool
  · exact tells.downPool
  · rw [renderRound, tells.upPool, tells.downPool, Market.totalPool, Nat.cast_add]
  · rw [← odds_eq, renderRound, tells.upPool, tells.downPool]
    rfl
  · rw [← odds_eq, renderRound, tells.upPool, tells.downPool]
    rfl
  · have told := tells.strike
    cases price : r.lockPrice with
    | none =>
        rw [price] at told
        exact absurd (Int.natCast_eq_zero.1 told.symm) strike
    | some value =>
        rw [price] at told
        exact price.trans (congrArg some told)

/-- What is rendered of every round of a market, from the rows of its logs, is
what the market's own views answer at that block. -/
theorem rounds_rendered_as_on_chain [Fintype Account] (cfg : Market.Config Account Rest)
    (x : Exchange Account Rest) (reached : (Market.machine cfg).Reachable x)
    (logs : List (MarketLog naming capital)) (events : List RoundEvent)
    (recorded : Recorded market x.market.logs logs events) (roundId : Nat)
    (known : (x.market.rounds roundId).status ≠ .none)
    (fits : (x.market.rounds roundId).closeTime.val < 2 ^ 63) :
    ∃ r, shown (project events) ⟨some market, roundId⟩ = some r ∧
      Views cfg x roundId (renderRound r cfg.entryCutoff.val cfg.rake x.timestamp) ∧
      ((x.market.rounds roundId).status = .resolved →
        r.closePrice = some ((x.market.rounds roundId).closePrice : Int) ∧
        r.winner = sideText (x.market.rounds roundId).winner ∧
        r.rakeTaken = some ((x.market.rounds roundId).rakeTaken : Int)) := by
  have tells := tells_of_recorded reached recorded roundId
  cases found : shown (project events) ⟨some market, roundId⟩ with
  | none =>
      rw [found] at tells
      have unset : statusOf (x.market.rounds roundId).status = .unset := tells.status.symm
      cases status : (x.market.rounds roundId).status with
      | none => exact absurd status known
      | _ =>
          rw [status] at unset
          cases unset
  | some r =>
      rw [found] at tells
      have views := views_of_tells reached known fits tells
      exact ⟨r, rfl, views, tells.settled⟩

end Runs

/-! ## A round that Up won -/

section Sample

theorem settled_run_recorded :
    ∃ x, (Market.machine Market.smallMarket).Reachable x ∧
      (∃ logs : List (MarketLog sampleNaming fun _ _ => false),
        Recorded (sampleName 7) x.market.logs logs (rowsFiled (sampleName 7) logs)) ∧
      (x.market.rounds 1).status = .resolved ∧ (x.market.rounds 1).closeTime.val < 2 ^ 63 ∧
      Market.claimableOf x.market.toLedger 1 1 ≠ 0 := by
  obtain ⟨x, reached, checked⟩ := Market.reachable_of_visits Market.settledRun
    (fun x => decide (∀ event ∈ x.market.logs,
        (decodeRound sampleNaming (fun _ _ => false) event).isSome = true) &&
      decide ((x.market.rounds 1).status = .resolved ∧
        (x.market.rounds 1).closeTime.val < 2 ^ 63 ∧
          Market.claimableOf x.market.toLedger 1 1 ≠ 0))
    (by decide +kernel) (by decide +kernel)
  obtain ⟨decodes, stands⟩ := (Bool.and_eq_true _ _).mp checked
  exact ⟨x, reached, exists_tabled (single_round _ _) (sampleName 7) _ x.market.logs
      (of_decide_eq_true decodes),
    of_decide_eq_true stands⟩

theorem settled_round_rendered_as_on_chain :
    ∃ x r events, (Market.machine Market.smallMarket).Reachable x ∧
      (x.market.rounds 1).status = .resolved ∧
      shown (project events) ⟨some (sampleName 7), 1⟩ = some r ∧
      Views Market.smallMarket x 1 (renderRound r Market.smallMarket.entryCutoff.val
        Market.smallMarket.rake x.timestamp) := by
  obtain ⟨x, reached, ⟨logs, recorded⟩, resolved, fits, _⟩ := settled_run_recorded
  have known : (x.market.rounds 1).status ≠ .none := by
    rw [resolved]
    decide
  obtain ⟨r, found, views, _⟩ :=
    rounds_rendered_as_on_chain Market.smallMarket x reached logs _ recorded 1 known fits
  exact ⟨x, r, _, reached, resolved, found, views⟩

end Sample

end Ledger

end Ghoststake
