import Ghoststake.Market.Lifecycle
import Ghoststake.Oracle.EventMarket

/-!
# Rounds on a question

What becomes of a round opened with the strike of a question: it goes the way
the question was answered, and is refunded when nobody answers.
-/

namespace Ghoststake

set_option autoImplicit false

open Checked

namespace EventMarket

variable {Address : Type} [Zero Address] [DecidableEq Address]

/-! ## Along a run -/

section Runs

variable [Fintype Address] {cfg : Setup Address} {x after : Exchange Address (Docket Address)}

omit [Fintype Address] in
theorem path_of_asides (asides : Relation.ReflTransGen (Market.Aside cfg.market) x after) :
    (Market.machine cfg.market).Path x after := by
  induction asides with
  | refl => exact .refl x
  | tail before aside ih =>
      cases aside with
      | @call sender call _ outsider _ ran =>
          apply ih.tail
          refine ⟨.market Market.noSinks sender call, ⟨outsider, ?_⟩, ran⟩
          intro sink user amount x after ran
          cases ran
      | @asset sender call token outsider ran =>
          apply ih.tail
          refine ⟨.asset sender call, outsider, ?_⟩
          simp only [Market.act, Market.pay_ok_iff]
          exact ⟨token, ran, rfl⟩
      | elsewhere rest => exact ih.tail ⟨.elsewhere rest, trivial, rfl⟩

omit [Fintype Address] in
/-- The market of the product is the market among anything else. -/
theorem path_of_step {action : Action Address} (taken : (machine cfg).step x action after) :
    (Market.machine cfg.market).Path x after := by
  obtain ⟨external, ran⟩ := taken
  cases action with
  | market sinks sender call =>
      exact .single (.market sinks sender call) ⟨⟨external.1.1, external.2.market⟩, ran⟩
  | question sender call => exact path_of_asides (asides_of_question ran)
  | asset sender call => exact .single (.asset sender call) ⟨external.1, ran⟩
  | bond sender call =>
      simp only [act] at ran
      exact path_of_asides (.single (asides_of_bond ran))
  | wait seconds => exact .single (.wait seconds) ⟨trivial, ran⟩

omit [Fintype Address] in
theorem path_of_path (path : (machine cfg).Path x after) :
    (Market.machine cfg.market).Path x after := by
  induction path with
  | refl => exact .refl x
  | tail before taken ih =>
      obtain ⟨action, taken⟩ := taken
      exact ih.trans (path_of_step taken)

omit [Fintype Address] in
theorem reachable_market (reached : (machine cfg).Reachable x) :
    (Market.machine cfg.market).Reachable x := by
  induction reached with
  | initial start => exact .initial start.market
  | step before taken ih => exact ih.path (path_of_step taken)

/-- What the rounds with a question's strike have to do with its answer. -/
structure Consistent (cfg : Setup Address) (x : Exchange Address (Docket Address)) : Prop where
  filed : EventOracle.Filed cfg.oracle x.rest.oracle
  resolved : ∀ roundId, (x.market.rounds roundId).lockPrice = EventOracle.STRIKE →
    (x.market.rounds roundId).status = .resolved → x.rest.oracle.state = .final ∧
      ((x.market.rounds roundId).winner = .up ∧ x.rest.oracle.outcome = .yes ∨
        (x.market.rounds roundId).winner = .down ∧ x.rest.oracle.outcome = .no)
  untied : ∀ roundId ∈ Market.tiesOf x, (x.market.rounds roundId).status ≠ .none ∧
    (x.market.rounds roundId).lockPrice ≠ EventOracle.STRIKE

omit [Fintype Address] [DecidableEq Address] in
theorem Consistent.ordered (consistent : Consistent cfg x) (ordered : Ordered cfg x after)
    (same : after.market = x.market) : Consistent cfg after := by
  constructor
  · exact ordered.filed consistent.filed
  · intro roundId strike resolved
    rw [same] at strike resolved
    obtain ⟨final, winner⟩ := consistent.resolved roundId strike resolved
    obtain ⟨state, outcome⟩ := ordered.closed (.inl final)
    rw [same, state, outcome]
    exact ⟨final, winner⟩
  · rw [Market.tiesOf, same]
    exact consistent.untied

theorem Consistent.market (consistent : Consistent cfg x)
    (reached : (machine cfg).Reachable x) {sinks : Market.Sinks Address (Docket Address)}
    {sender : Address} {call : Market.Call Address} (outsider : Outsider cfg sender)
    (outside : Outside cfg sinks)
    (ran : Market.exec cfg.market sinks sender x call = .ok after) : Consistent cfg after := by
  obtain ⟨kept, housed⟩ := Market.kept_of_reachable (reachable_market reached)
  obtain ⟨advance, _⟩ := Market.advance_of_exec outsider.1 outside.market housed ran
  have written := Market.written_of_advance kept advance
  have announced := quietly_of_market outside ran
  have ordered : Ordered cfg x after := by
    rcases announced with quietly | ⟨rest, _⟩
    · exact quietly.ordered
    · exact .of_oracle (congrArg Docket.oracle rest)
  constructor
  · exact ordered.filed consistent.filed
  · intro roundId strike resolved
    have live : (x.market.rounds roundId).status ≠ .none := by
      have follows := (written roundId).follows
      intro none
      have bad : Market.Status.Follows .none .resolved := none ▸ resolved ▸ follows
      rcases bad with bad | bad <;> cases bad
    have strikeBefore : (x.market.rounds roundId).lockPrice = EventOracle.STRIKE :=
      ((written roundId).holds.question live).lockPrice.symm.trans strike
    rcases Market.resolved_of_advance advance resolved with same | ⟨price, rake, answer, settled⟩
    · have round : after.market.rounds roundId = x.market.rounds roundId := same
      rw [round] at resolved ⊢
      obtain ⟨final, winner⟩ := consistent.resolved roundId strikeBefore resolved
      obtain ⟨state, outcome⟩ := ordered.closed (.inl final)
      rw [state, outcome]
      exact ⟨final, winner⟩
    · have round : after.market.rounds roundId =
          (x.market.rounds roundId).settled price rake := settled
      obtain ⟨oracleRoundId, read⟩ := answer
      obtain ⟨final, outcomes⟩ := answer_of_read read
      obtain ⟨state, outcome⟩ := ordered.closed (.inl final)
      rw [round, state, outcome]
      refine ⟨final, ?_⟩
      simp only [Market.Round.settled, strikeBefore]
      rcases outcomes with ⟨yes, above⟩ | ⟨notYes, below⟩
      · exact .inl ⟨if_pos above, yes⟩
      · refine .inr ⟨if_neg below.not_gt, ?_⟩
        have answered : x.rest.oracle.outcome ≠ .none := by
          intro none
          exact consistent.filed.answered.1 none final
        cases outcome : x.rest.oracle.outcome with
        | none => exact absurd outcome answered
        | yes => exact absurd outcome notYes
        | no => rfl
  · intro roundId member
    have before : (x.market.rounds roundId).status ≠ .none ∧
        (x.market.rounds roundId).lockPrice ≠ EventOracle.STRIKE := by
      rcases announced with quietly | ⟨_, tied, live, strike, ties⟩
      · rw [quietly.ties] at member
        exact consistent.untied roundId member
      · rw [ties, List.mem_append, List.mem_singleton] at member
        rcases member with member | rfl
        · exact consistent.untied roundId member
        · exact ⟨live, strike⟩
    have holds := (written roundId).holds
    refine ⟨holds.live before.1, ?_⟩
    have question := (holds.question before.1).lockPrice
    exact fun strike => before.2 (question.symm.trans strike)

omit [Fintype Address] in
theorem ordered_of_step {action : Action Address} (taken : (machine cfg).step x action after) :
    Ordered cfg x after := by
  obtain ⟨external, ran⟩ := taken
  cases action with
  | market sinks sender call =>
      rcases quietly_of_market external.2 ran with quietly | ⟨rest, _⟩
      · exact quietly.ordered
      · exact .of_oracle (congrArg Docket.oracle rest)
  | question sender call => exact (ordered_of_question ran).1
  | asset sender call =>
      simp only [act, Market.pay_ok_iff] at ran
      obtain ⟨token, _, rfl⟩ := ran
      exact .of_oracle rfl
  | bond sender call =>
      simp only [act] at ran
      exact (ordered_of_bond ran).1
  | wait seconds =>
      cases ran
      exact .of_oracle rfl

omit [Fintype Address] in
theorem ordered_of_path (path : (machine cfg).Path x after) : Ordered cfg x after := by
  induction path with
  | refl => exact .of_oracle rfl
  | tail before taken ih =>
      obtain ⟨action, taken⟩ := taken
      exact ih.trans (ordered_of_step taken)

theorem consistent_of_reachable (reached : (machine cfg).Reachable x) : Consistent cfg x := by
  induction reached with
  | @initial x start =>
      obtain ⟨owner, access, guardian, _, fresh⟩ := start.market.fresh
      constructor
      · exact EventOracle.filed_of_deployed start.oracle
      · intro roundId _ resolved
        rw [fresh] at resolved
        cases resolved
      · intro tie tied
        rw [Market.tiesOf, fresh] at tied
        cases tied
  | @step x after action before taken ih =>
      obtain ⟨external, ran⟩ := taken
      cases action with
      | market sinks sender call => exact ih.market before external.1 external.2 ran
      | question sender call =>
          obtain ⟨ordered, same⟩ := ordered_of_question ran
          exact ih.ordered ordered same
      | asset sender call =>
          simp only [act, Market.pay_ok_iff] at ran
          obtain ⟨token, _, rfl⟩ := ran
          exact ih.ordered (.of_oracle rfl) rfl
      | bond sender call =>
          simp only [act] at ran
          obtain ⟨ordered, same⟩ := ordered_of_bond ran
          exact ih.ordered ordered same
      | wait seconds =>
          cases ran
          exact ih.ordered (.of_oracle rfl) rfl

/-- A round with the strike of a question goes the way the question was
answered or is refunded, and never before there is an answer. -/
theorem event_market_follows_answer (cfg : Setup Address)
    (x : Exchange Address (Docket Address)) (reached : (machine cfg).Reachable x)
    (roundId : Nat) (opened : (x.market.rounds roundId).status ≠ .none)
    (strike : (x.market.rounds roundId).lockPrice = EventOracle.STRIKE) :
    ((x.market.rounds roundId).status = .resolved →
      ((x.market.rounds roundId).winner = .up →
        x.rest.oracle.state = .final ∧ x.rest.oracle.outcome = .yes) ∧
      ((x.market.rounds roundId).winner = .down →
        x.rest.oracle.state = .final ∧ x.rest.oracle.outcome = .no)) ∧
    roundId ∉ Market.tiesOf x ∧
    (∀ oracleRoundId after,
      Market.resolveRound cfg.market roundId oracleRoundId x = .ok after →
      x.rest.oracle.state = .final ∧ (after.market.rounds roundId).status = .resolved) ∧
    (∀ later, (machine cfg).Path x later → x.rest.oracle.state = .abandoned →
      (later.market.rounds roundId).status ≠ .resolved ∧
      ((later.market.rounds roundId).status = .void → ∀ user,
        (later.market.claimed roundId user = false →
          Market.claimableOf later.market.toLedger roundId user =
            Market.stakesOf later.market.toLedger roundId user) ∧
        (later.market.claimed roundId user = true →
          Market.paidTo (Market.payoutsOf later) roundId user =
            [Market.stakesOf later.market.toLedger roundId user]))) := by
  have consistent := consistent_of_reachable reached
  refine ⟨?_, ?_, ?_, ?_⟩
  · intro resolved
    obtain ⟨final, winner⟩ := consistent.resolved roundId strike resolved
    rcases winner with ⟨up, yes⟩ | ⟨down, no⟩
    · exact ⟨fun _ => ⟨final, yes⟩, fun down => absurd (up.symm.trans down) (by nofun)⟩
    · exact ⟨fun up => absurd (down.symm.trans up) (by nofun), fun _ => ⟨final, no⟩⟩
  · intro tied
    exact (consistent.untied roundId tied).2 strike
  · intro oracleRoundId after ran
    obtain ⟨_, price, read, rfl⟩ := Market.resolve_round_ok ran
    obtain ⟨final, outcomes⟩ := answer_of_read read
    have decided : price ≠ (x.market.rounds roundId).lockPrice := by
      rw [strike]
      rcases outcomes with ⟨_, above⟩ | ⟨_, below⟩
      · exact above.ne'
      · exact below.ne
    refine ⟨final, ?_⟩
    simp only [Market.settleAt, if_neg decided]
    exact congrArg Market.Round.status (Market.Ledger.set_round_same ..)
  · intro later path abandoned
    have reachedLater := reached.path path
    obtain ⟨kept, _⟩ := Market.kept_of_reachable (reachable_market reachedLater)
    constructor
    · intro resolved
      have question := ((Market.holds_of_path (reachable_market reached) (path_of_path path)
        roundId).1.question opened).lockPrice
      have laterStrike := question.trans strike
      have final := ((consistent_of_reachable reachedLater).resolved roundId laterStrike
        resolved).1
      have still := ((ordered_of_path path).closed (.inr abandoned)).1
      rw [final, abandoned] at still
      cases still
    · intro void user
      have entitled : Market.entitlementOf later.market.toLedger roundId user =
          Market.stakesOf later.market.toLedger roundId user := by
        simp only [Market.entitlementOf, void]
      constructor
      · intro unclaimed
        simp [Market.claimableOf, unclaimed, entitled]
      · intro claimed
        have paid := (kept.settled roundId user).trans (if_pos claimed)
        exact paid.trans (congrArg (fun amount => [amount]) entitled)

end Runs

/-! ## A small market on a question

Seven is the market, eight the question, six the owner of both, five the
arbiter; one to four have approved both for everything they hold, and post
their bonds in the asset of their stakes. -/

section Sample

def smallSetup : Setup (Fin 16) where
  market :=
    { address := 7
      readAt := fun x oracleRoundId time =>
        .ok (EventOracle.readAt x.rest.oracle oracleRoundId time)
      rake := 0
      entryCutoff := ⟨10, Figures.ten_fits⟩
      lockWindow := ⟨10, Figures.ten_fits⟩
      resolveDeadline := ⟨100, Figures.hundred_fits⟩
      minSidePool := 5
      rake_le := Nat.zero_le _
      min_side_pool_ne_zero := Figures.five_ne_zero
      entry_cutoff_ne_zero := Figures.ten_ne_zero
      lock_window_ne_zero := Figures.ten_ne_zero
      resolve_deadline_ne_zero := Figures.hundred_ne_zero
      address_ne_zero := by decide }
  oracle :=
    { address := 8
      bond := 50
      eventTime := ⟨10, Figures.ten_fits⟩
      challengeWindow := ⟨100, Figures.hundred_fits⟩
      rulingDeadline := ⟨100, Figures.hundred_fits⟩
      question := "?"
      criteriaDigest := 1
      bond_ne_zero := Figures.fifty_ne_zero
      challenge_window_ne_zero := Figures.hundred_ne_zero
      ruling_deadline_ne_zero := Figures.hundred_ne_zero
      question_ne_empty := Figures.mark_ne_empty
      criteria_digest_ne_zero := Figures.one_ne_zero
      address_ne_zero := by decide }
  shared := true
  reads := rfl
  distinct := by decide

def fresh : Exchange (Fin 16) (Docket (Fin 16)) where
  timestamp := 0
  token :=
    { balanceOf := fun user => if 1 ≤ user ∧ user ≤ 4 then 1000 else 0
      allowance := fun owner spender =>
        if 1 ≤ owner ∧ owner ≤ 4 ∧ 7 ≤ spender ∧ spender ≤ 8 then uint256Max else 0
      totalSupply := 4000 }
  market := Market.deployed { owner := 6, treasury := 6 } 6
  rest := { bondAsset := Erc20.empty, oracle := EventOracle.deployed 6 5, moves := [] }

theorem fresh_deployed : Deployed smallSetup fresh where
  market :=
    { fresh := ⟨6, { owner := 6, treasury := 6 }, 6, rfl, rfl⟩
      unapproved := by
        funext spender
        have contract : ¬(1 ≤ (7 : Fin 16) ∧ (7 : Fin 16) ≤ 4 ∧ 7 ≤ spender ∧ spender ≤ 8) := by
          simp
        exact if_neg (t := uint256Max) contract }
  oracle :=
    { fresh := ⟨6, 5, rfl, by decide, rfl⟩
      unapproved := by
        funext spender
        have contract : ¬(1 ≤ (8 : Fin 16) ∧ (8 : Fin 16) ≤ 4 ∧ 7 ≤ spender ∧ spender ≤ 8) := by
          simp
        exact if_neg (t := uint256Max) contract
      unmoved := rfl }

/-- A yes that nobody challenges, and a round that reads it. -/
def answeredRun : List (Action (Fin 16)) :=
  [.market Market.noSinks 6
      (.openRound ⟨0, Figures.zero_fits⟩ ⟨100, Figures.hundred_fits⟩ ⟨200, Figures.two_hundred_fits⟩ EventOracle.STRIKE),
    .market Market.noSinks 1 (.takePosition 1 .up 100),
    .market Market.noSinks 2 (.takePosition 1 .down 60), .wait 100,
    .question 3 (.propose .yes "" 1 none none), .market Market.noSinks 4 (.lockRound 1),
    .wait 100, .question 4 .finalise,
    .market Market.noSinks 4 (.resolveRound 1 Uint80.zero)]

theorem no_sinks_outside (cfg : Setup (Fin 16)) : Outside cfg Market.noSinks := by
  intro sink user amount x after ran
  cases ran

theorem answered_run_external : ∀ action ∈ answeredRun, action.External smallSetup := by
  simp [answeredRun, Action.External, Outsider, smallSetup, no_sinks_outside]

/-- Up has won because the answer was yes. -/
theorem answered_round_follows :
    ∃ x : Exchange (Fin 16) (Docket (Fin 16)), (machine smallSetup).Reachable x ∧
      (x.market.rounds 1).status = .resolved ∧ (x.market.rounds 1).winner = .up ∧
      x.rest.oracle.state = .final ∧ x.rest.oracle.outcome = .yes ∧ 1 ∉ Market.tiesOf x := by
  have ran : passes (Machine.replay (act smallSetup) fresh answeredRun) (fun x =>
      (x.market.rounds 1).status = .resolved ∧ (x.market.rounds 1).winner = .up ∧
        (x.market.rounds 1).lockPrice = EventOracle.STRIKE) = true := by decide +kernel
  obtain ⟨x, replayed, checked⟩ := exists_of_passes _ ran
  obtain ⟨resolved, up, strike⟩ := of_decide_eq_true checked
  have start : (machine smallSetup).Reachable fresh := .initial fresh_deployed
  have reached : (machine smallSetup).Reachable x := by
    refine start.replay ?_ replayed
    intro action member before after taken
    exact ⟨answered_run_external action member, taken⟩
  have live : (x.market.rounds 1).status ≠ .none := by
    rw [resolved]
    nofun
  obtain ⟨won, untied, _⟩ := event_market_follows_answer smallSetup x reached 1 live strike
  obtain ⟨final, yes⟩ := (won resolved).1 up
  exact ⟨x, reached, resolved, up, final, yes, untied⟩

end Sample

end EventMarket

end Ghoststake
