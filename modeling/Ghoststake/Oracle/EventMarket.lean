import Ghoststake.Market.Traces
import Ghoststake.Oracle.Bonds

/-!
# A market on a question

The product of a market and the question its oracle answers, each with its own
callers, and what each of their calls does to the other.
-/

namespace Ghoststake

set_option autoImplicit false

open Checked

/-- The question beside a market: its bonds, unless they are in the asset of
the stakes, and its storage. -/
structure Docket (Address : Type) where
  bondAsset : Erc20 Address
  oracle : EventOracle.State Address
  moves : List (Movement Address)

namespace EventMarket

structure Setup (Address : Type) [Zero Address] where
  market : Market.Config Address (Docket Address)
  oracle : EventOracle.Config Address
  /-- Whether the bonds are in the asset of the stakes. -/
  shared : Bool
  reads : market.readAt = fun x oracleRoundId time =>
    .ok (EventOracle.readAt x.rest.oracle oracleRoundId time)
  distinct : oracle.address ≠ market.address

variable {Address : Type} [Zero Address]

def hearing (cfg : Setup Address) (x : Exchange Address (Docket Address)) : Hearing Address where
  timestamp := x.timestamp
  bondAsset := if cfg.shared then x.token else x.rest.bondAsset
  oracle := x.rest.oracle
  moves := x.rest.moves

def conclude (cfg : Setup Address) (x : Exchange Address (Docket Address)) (h : Hearing Address) :
    Exchange Address (Docket Address) :=
  { x with
    token := if cfg.shared then h.bondAsset else x.token
    rest :=
      { bondAsset := if cfg.shared then x.rest.bondAsset else h.bondAsset
        oracle := h.oracle
        moves := h.moves } }

variable [DecidableEq Address]

def question (cfg : Setup Address) (sender : Address) (call : EventOracle.Call Address)
    (x : Exchange Address (Docket Address)) : Outcome Address (Exchange Address (Docket Address)) := do
  let h ← EventOracle.exec cfg.oracle sender (hearing cfg x) call
  .ok (conclude cfg x h)

/-- A call on an asset of bonds that is not the asset of the stakes. -/
def payBond (x : Exchange Address (Docket Address))
    (call : Erc20 Address → Outcome Address (Erc20 Address)) :
    Outcome Address (Exchange Address (Docket Address)) := do
  let token ← call x.rest.bondAsset
  .ok { x with rest := { x.rest with bondAsset := token } }

def Outsider (cfg : Setup Address) (sender : Address) : Prop :=
  sender ≠ cfg.market.address ∧ sender ≠ cfg.oracle.address

/-- What a sink's code can do while the market is in `claim`. -/
inductive Aside (cfg : Setup Address) (x : Exchange Address (Docket Address)) :
    Exchange Address (Docket Address) → Prop
  | market {sender : Address} {call : Market.Call Address}
      {after : Exchange Address (Docket Address)} (outsider : Outsider cfg sender)
      (unlocked : call.Unlocked)
      (ran : Market.exec cfg.market Market.noSinks sender x call = .ok after) : Aside cfg x after
  | question {sender : Address} {call : EventOracle.Call Address}
      {after : Exchange Address (Docket Address)} (outsider : Outsider cfg sender)
      (ran : question cfg sender call x = .ok after) : Aside cfg x after
  | asset {sender : Address} {call : Erc20.Call Address} {token : Erc20 Address}
      (outsider : Outsider cfg sender) (ran : x.token.exec sender call = .ok token) :
      Aside cfg x { x with token := token }
  | bond {sender : Address} {call : Erc20.Call Address}
      {after : Exchange Address (Docket Address)} (outsider : Outsider cfg sender)
      (ran : payBond x (fun token => token.exec sender call) = .ok after) : Aside cfg x after

def Outside (cfg : Setup Address) (sinks : Market.Sinks Address (Docket Address)) : Prop :=
  ∀ sink user amount x after, sinks sink user amount x = .ok after →
    Relation.ReflTransGen (Aside cfg) x after

inductive Action (Address : Type) where
  | market (sinks : Market.Sinks Address (Docket Address)) (sender : Address)
      (call : Market.Call Address)
  | question (sender : Address) (call : EventOracle.Call Address)
  | asset (sender : Address) (call : Erc20.Call Address)
  | bond (sender : Address) (call : Erc20.Call Address)
  | wait (seconds : Nat)

def act (cfg : Setup Address) (x : Exchange Address (Docket Address)) :
    Action Address → Outcome Address (Exchange Address (Docket Address))
  | .market sinks sender call => Market.exec cfg.market sinks sender x call
  | .question sender call => question cfg sender call x
  | .asset sender call => x.pay fun token => token.exec sender call
  | .bond sender call => payBond x fun token => token.exec sender call
  | .wait seconds => .ok { x with timestamp := x.timestamp + seconds }

def Action.External (cfg : Setup Address) : Action Address → Prop
  | .market sinks sender _ => Outsider cfg sender ∧ Outside cfg sinks
  | .question sender _ | .asset sender _ | .bond sender _ => Outsider cfg sender
  | .wait _ => True

structure Deployed (cfg : Setup Address) (x : Exchange Address (Docket Address)) : Prop where
  market : Market.Deployed cfg.market x
  oracle : EventOracle.Deployed cfg.oracle (hearing cfg x)

def machine (cfg : Setup Address) :
    Machine (Exchange Address (Docket Address)) (Action Address) where
  initial := Deployed cfg
  step x action after := action.External cfg ∧ act cfg x action = .ok after

/-! ## What a call on the question does to the asset -/

section Assets

open EventOracle

variable {cfg : EventOracle.Config Address} {h after : Hearing Address} {sender : Address}

def Spends (account : Address) : Erc20 Address → Erc20 Address → Prop :=
  Relation.ReflTransGen fun token after => ∃ call, token.exec account call = .ok after

theorem spends_of_pull (ran : pullBond cfg sender h = .ok after) :
    Spends cfg.address h.bondAsset after.bondAsset ∧ after.timestamp = h.timestamp := by
  obtain ⟨_, token, pulled, rfl⟩ := pull_bond_ok ran
  exact ⟨.single ⟨.transferFrom sender cfg.address cfg.bond, pulled⟩, rfl⟩

theorem spends_of_push {target : Address} {amount : Nat}
    (ran : pushBond cfg target amount h = .ok after) :
    Spends cfg.address h.bondAsset after.bondAsset ∧ after.timestamp = h.timestamp := by
  simp only [pushBond, bind_ok_iff, Except.ok.injEq] at ran
  obtain ⟨token, pushed, rfl⟩ := ran
  exact ⟨.single ⟨.transfer target amount, pushed⟩, rfl⟩

theorem spends_of_exec {call : EventOracle.Call Address}
    (ran : EventOracle.exec cfg sender h call = .ok after) :
    Spends cfg.address h.bondAsset after.bondAsset ∧ after.timestamp = h.timestamp := by
  cases call with
  | propose outcome evidenceURI evidenceDigest up down =>
      simp only [exec, propose, bind_ok_iff, require_ok_iff, require_state_ok_iff,
        exists_const, Except.ok.injEq] at ran
      obtain ⟨_, _, _, _, _, _, pulled, took, _, _, rfl⟩ := ran
      have spent := spends_of_pull took
      exact spent
  | challenge =>
      simp only [exec, challenge, bind_ok_iff, require_ok_iff, require_state_ok_iff,
        exists_const, Except.ok.injEq] at ran
      obtain ⟨_, _, _, _, pulled, took, _, _, rfl⟩ := ran
      have spent := spends_of_pull took
      exact spent
  | finalise =>
      simp only [exec, finalise, bind_ok_iff, require_ok_iff, require_state_ok_iff,
        exists_const, Except.ok.injEq] at ran
      obtain ⟨_, _, _, _, pushed, paid, rfl⟩ := ran
      have spent := spends_of_push paid
      exact spent
  | rule outcome reasonURI =>
      simp only [exec, rule, bind_ok_iff, require_ok_iff, require_state_ok_iff,
        exists_const, Except.ok.injEq] at ran
      obtain ⟨_, _, _, pushed, paid, rfl⟩ := ran
      have spent := spends_of_push paid
      exact spent
  | abandon =>
      simp only [exec, abandon, bind_ok_iff, require_ok_iff, require_state_ok_iff,
        exists_const, Except.ok.injEq] at ran
      obtain ⟨_, _, _, _, first, paid, second, repaid, rfl⟩ := ran
      obtain ⟨spent, time⟩ := spends_of_push paid
      obtain ⟨respent, retime⟩ := spends_of_push repaid
      exact ⟨spent.trans respent, retime.trans time⟩
  | setArbiter next =>
      simp only [exec, setArbiter, bind_ok_iff, require_ok_iff, exists_const, Except.ok.injEq] at ran
      obtain ⟨_, _, _, _, rfl⟩ := ran
      exact ⟨.refl, rfl⟩
  | setMarket market roundId =>
      simp only [exec, setMarket, bind_ok_iff, require_ok_iff, exists_const, Except.ok.injEq] at ran
      obtain ⟨_, _, _, _, _, rfl⟩ := ran
      exact ⟨.refl, rfl⟩
  | administer call =>
      simp only [exec, administer, bind_ok_iff, Prod.exists, Except.ok.injEq] at ran
      obtain ⟨access, event, _, rfl⟩ := ran
      exact ⟨.refl, rfl⟩

end Assets

/-! ## The market among anything else -/

section Projection

variable {cfg : Setup Address} {x after : Exchange Address (Docket Address)} {sender : Address}

/-- What the contract of the question does to the stake asset, the market has
seen other accounts do. -/
theorem asides_of_spends {token : Erc20 Address} (spends : Spends cfg.oracle.address x.token token) :
    Relation.ReflTransGen (Market.Aside cfg.market) x { x with token := token } := by
  induction spends with
  | refl => exact .refl
  | tail before taken ih =>
      obtain ⟨call, ran⟩ := taken
      have aside := Market.Aside.asset (x := { x with token := _ }) cfg.distinct ran
      exact ih.tail aside

theorem asides_of_question {call : EventOracle.Call Address}
    (ran : question cfg sender call x = .ok after) :
    Relation.ReflTransGen (Market.Aside cfg.market) x after := by
  simp only [question, bind_ok_iff, Except.ok.injEq] at ran
  obtain ⟨h, ran, rfl⟩ := ran
  obtain ⟨spends, _⟩ := spends_of_exec ran
  have settled : Relation.ReflTransGen (Market.Aside cfg.market) x
      { x with token := if cfg.shared then h.bondAsset else x.token } := by
    by_cases shared : cfg.shared = true
    · simp only [hearing, shared, if_true] at spends ⊢
      exact asides_of_spends spends
    · simp only [shared]
      exact .refl
  exact settled.tail (.elsewhere _)

theorem asides_of_bond {call : Erc20 Address → Outcome Address (Erc20 Address)}
    (ran : payBond x call = .ok after) : Market.Aside cfg.market x after := by
  simp only [payBond, bind_ok_iff, Except.ok.injEq] at ran
  obtain ⟨token, _, rfl⟩ := ran
  exact .elsewhere _

theorem asides_of_aside (aside : Aside cfg x after) :
    Relation.ReflTransGen (Market.Aside cfg.market) x after := by
  cases aside with
  | market outsider unlocked ran => exact .single (.call outsider.1 unlocked ran)
  | question outsider ran => exact asides_of_question ran
  | asset outsider ran => exact .single (.asset outsider.1 ran)
  | bond outsider ran => exact .single (asides_of_bond ran)

theorem Outside.market {sinks : Market.Sinks Address (Docket Address)}
    (outside : Outside cfg sinks) : sinks.Outside cfg.market := by
  intro sink user amount x after ran
  have asides := outside sink user amount x after ran
  clear ran
  induction asides with
  | refl => exact .refl
  | tail before aside ih => exact ih.trans (asides_of_aside aside)

end Projection

/-! ## What an answer survives, and who announces a tie -/

section Steps

variable {cfg : Setup Address} {x mid after : Exchange Address (Docket Address)}
  {sender : Address}

/-- The question stays in order, a closed one as it is. -/
structure Ordered (cfg : Setup Address) (x after : Exchange Address (Docket Address)) : Prop where
  filed : EventOracle.Filed cfg.oracle x.rest.oracle →
    EventOracle.Filed cfg.oracle after.rest.oracle
  closed : x.rest.oracle.state = .final ∨ x.rest.oracle.state = .abandoned →
    after.rest.oracle.state = x.rest.oracle.state ∧
      after.rest.oracle.outcome = x.rest.oracle.outcome

omit [DecidableEq Address] in
theorem Ordered.of_oracle (same : after.rest.oracle = x.rest.oracle) : Ordered cfg x after := by
  constructor
  · rw [same]
    exact id
  · rw [same]
    exact fun _ => ⟨rfl, rfl⟩

omit [DecidableEq Address] in
theorem Ordered.trans (left : Ordered cfg x mid) (right : Ordered cfg mid after) :
    Ordered cfg x after := by
  constructor
  · exact right.filed ∘ left.filed
  · intro closed
    obtain ⟨state, outcome⟩ := left.closed closed
    rw [← state] at closed
    obtain ⟨laterState, laterOutcome⟩ := right.closed closed
    exact ⟨laterState.trans state, laterOutcome.trans outcome⟩

/-- And no tie is announced. -/
structure Quietly (cfg : Setup Address) (x after : Exchange Address (Docket Address)) : Prop where
  ordered : Ordered cfg x after
  ties : Market.tiesOf after = Market.tiesOf x

omit [DecidableEq Address] in
theorem Quietly.refl (x : Exchange Address (Docket Address)) : Quietly cfg x x :=
  ⟨.of_oracle rfl, rfl⟩

omit [DecidableEq Address] in
theorem Quietly.trans (left : Quietly cfg x mid) (right : Quietly cfg mid after) :
    Quietly cfg x after :=
  ⟨left.ordered.trans right.ordered, right.ties.trans left.ties⟩

omit [DecidableEq Address] in
theorem quietly_of_plain (plain : Market.Plain x after) : Quietly cfg x after :=
  ⟨.of_oracle (congrArg Docket.oracle plain.rest), plain.ties⟩

theorem ordered_of_question {call : EventOracle.Call Address}
    (ran : question cfg sender call x = .ok after) :
    Ordered cfg x after ∧ after.market = x.market := by
  simp only [question, bind_ok_iff, Except.ok.injEq] at ran
  obtain ⟨h, ran, rfl⟩ := ran
  refine ⟨⟨?_, ?_⟩, rfl⟩
  · intro filed
    exact EventOracle.filed_of_exec filed ran
  · intro closed
    have same := EventOracle.untouched_of_closed closed ran
    exact ⟨same.state, same.outcome⟩

omit [DecidableEq Address] in
theorem ordered_of_bond {call : Erc20 Address → Outcome Address (Erc20 Address)}
    (ran : payBond x call = .ok after) : Ordered cfg x after ∧ after.market = x.market := by
  simp only [payBond, bind_ok_iff, Except.ok.injEq] at ran
  obtain ⟨token, _, rfl⟩ := ran
  exact ⟨.of_oracle rfl, rfl⟩

theorem quietly_of_aside (aside : Aside cfg x after) : Quietly cfg x after := by
  cases aside with
  | @market sender call after outsider unlocked ran =>
      apply quietly_of_plain
      apply Market.plain_of_exec _ ran
      cases call <;> first | exact trivial | exact absurd unlocked id
  | question outsider ran =>
      obtain ⟨ordered, same⟩ := ordered_of_question ran
      exact ⟨ordered, by rw [Market.tiesOf, same, Market.tiesOf]⟩
  | asset outsider ran => exact ⟨.of_oracle rfl, rfl⟩
  | bond outsider ran =>
      obtain ⟨ordered, same⟩ := ordered_of_bond ran
      exact ⟨ordered, by rw [Market.tiesOf, same, Market.tiesOf]⟩

theorem quietly_of_asides (asides : Relation.ReflTransGen (Aside cfg) x after) :
    Quietly cfg x after := by
  induction asides with
  | refl => exact .refl x
  | tail _ aside ih => exact ih.trans (quietly_of_aside aside)

theorem quietly_of_claim {sinks : Market.Sinks Address (Docket Address)} {roundId : Nat}
    {user : Address} (outside : Outside cfg sinks)
    (ran : Market.claim cfg.market sinks roundId user x = .ok after) :
    Quietly cfg x after := by
  obtain ⟨paid, settled, pays, notifies, rfl⟩ := Market.claim_ok ran
  have payment := Market.pay_claim_ok pays
  have first : Quietly cfg x paid := by
    apply quietly_of_plain
    constructor
    · exact payment.rest
    · simp only [Market.tiesOf, payment.market]
  have second : Quietly cfg paid settled := by
    unfold Market.notifySink at notifies
    split_ifs at notifies
    · exact quietly_of_asides (outside _ _ _ _ _ notifies)
    · cases notifies
      exact .refl paid
  have third : Quietly cfg settled (settled.emit (.claimed roundId user
      (Market.claimableOf x.market.toLedger roundId user)
      (Market.recipientOf x.market.toLedger roundId user))) := by
    apply quietly_of_plain
    apply Market.Plain.emit _ rfl
    exact ⟨rfl, rfl⟩
  exact (first.trans second).trans third

omit [DecidableEq Address] in
/-- The strike of a question lies strictly between its answers. -/
theorem answer_of_read {oracleRoundId : Uint80} {time price : Nat}
    (read : cfg.market.readAt x oracleRoundId time = .ok (true, price)) :
    x.rest.oracle.state = .final ∧ (x.rest.oracle.outcome = .yes ∧ EventOracle.STRIKE < price ∨
      x.rest.oracle.outcome ≠ .yes ∧ price < EventOracle.STRIKE) := by
  rw [cfg.reads] at read
  by_cases final : x.rest.oracle.state = .final
  · refine ⟨final, ?_⟩
    by_cases yes : x.rest.oracle.outcome = .yes
    · simp only [EventOracle.readAt, final, yes] at read
      cases read
      exact .inl ⟨yes, by decide⟩
    · simp only [EventOracle.readAt, final, yes] at read
      cases read
      exact .inr ⟨yes, by decide⟩
  · simp [EventOracle.readAt, final] at read

/-- A call on the market announces a tie only in a round with another strike. -/
theorem quietly_of_market {sinks : Market.Sinks Address (Docket Address)}
    {call : Market.Call Address} (outside : Outside cfg sinks)
    (ran : Market.exec cfg.market sinks sender x call = .ok after) :
    Quietly cfg x after ∨ after.rest = x.rest ∧ ∃ roundId,
      (x.market.rounds roundId).status ≠ .none ∧
      (x.market.rounds roundId).lockPrice ≠ EventOracle.STRIKE ∧
      Market.tiesOf after = Market.tiesOf x ++ [roundId] := by
  by_cases routine : call.Routine
  · exact .inl (quietly_of_plain (Market.plain_of_exec routine ran))
  · cases call with
    | resolveRound roundId closeOracleRoundId =>
        obtain ⟨status, price, read, rfl⟩ := Market.resolve_round_ok ran
        by_cases tie : price = (x.market.rounds roundId).lockPrice
        · obtain ⟨rest, ties⟩ :=
            Market.settle_at_tie cfg.market x roundId
          rw [← tie] at rest ties
          refine .inr ⟨rest, roundId, ?_, ?_, ties⟩
          · rw [status]
            nofun
          · rw [← tie]
            rcases (answer_of_read read).2 with ⟨_, above⟩ | ⟨_, below⟩
            · exact above.ne'
            · exact below.ne
        · exact .inl (quietly_of_plain (Market.plain_of_settle tie))
    | claim roundId user => exact .inl (quietly_of_claim outside ran)
    | openRound => exact absurd trivial routine
    | takePosition => exact absurd trivial routine
    | takePositionFor => exact absurd trivial routine
    | lockRound => exact absurd trivial routine
    | voidUnsettledRound => exact absurd trivial routine
    | voidUnlockedRound => exact absurd trivial routine
    | setRouter => exact absurd trivial routine
    | withdrawFees => exact absurd trivial routine
    | administer => exact absurd trivial routine
    | guard => exact absurd trivial routine

end Steps

end EventMarket

end Ghoststake
