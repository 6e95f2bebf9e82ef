import Ghoststake.Router.Model
import Ghoststake.Vault.Spending

/-!
# The router among the contracts it joins

Every step of the four contracts, seen from the market, is a step of the
market's own histories, and seen from the vault it is a path of the vault's:
whatever holds in every history of either holds here.
-/

namespace Ghoststake

set_option autoImplicit false

open Checked

namespace Market

variable {Address Rest : Type} [DecidableEq Address] [Zero Address] {cfg : Config Address Rest}
  {x after : Exchange Address Rest}

theorem no_sinks_outside : (noSinks : Sinks Address Rest).Outside cfg := by
  intro sink user amount x after ran
  cases ran

/-- What goes on aside could have gone on between two transactions. -/
theorem path_of_asides (asides : Relation.ReflTransGen (Aside cfg) x after) :
    (machine cfg).Path x after := by
  induction asides with
  | refl => exact .refl x
  | @tail mid final _ aside ih =>
      apply ih.trans
      cases aside with
      | @call sender call after outsider unlocked ran =>
          exact .single (.market noSinks sender call) ⟨⟨outsider, no_sinks_outside⟩, ran⟩
      | @asset sender call token outsider ran =>
          have paid : act cfg mid (.asset sender call) = .ok { mid with token := token } := by
            simp only [act, pay_ok_iff]
            exact ⟨token, ran, rfl⟩
          exact .single (.asset sender call) ⟨outsider, paid⟩
      | elsewhere rest => exact .single (.elsewhere rest) ⟨trivial, rfl⟩

theorem asides_of_driven {actors : Address → Prop} {token : Erc20 Address}
    (apart : ∀ actor, actors actor → actor ≠ cfg.address)
    (driven : Erc20.Driven actors x.token token) :
    Relation.ReflTransGen (Aside cfg) x { x with token := token } := by
  induction driven with
  | refl => exact .refl
  | tail _ taken ih =>
      obtain ⟨actor, call, admitted, ran⟩ := taken
      have aside := Aside.asset (x := { x with token := _ }) (apart actor admitted) ran
      exact ih.tail aside

def Call.records (sender : Address) : Call Address → Nat → Address → Address → Prop
  | .takePositionFor roundId user _ _ => fun id holder sink =>
      id = roundId ∧ holder = user ∧ sink = sender
  | .openRound _ _ _ _ | .takePosition _ _ _ | .lockRound _ | .resolveRound _ _
  | .voidUnsettledRound _ | .voidUnlockedRound _ | .claim _ _ | .setRouter _ _ | .withdrawFees _
  | .administer _ | .guard _ => fun _ _ _ => False

/-- A call touches the rest of the chain through its sinks only, the asset only
with the market's own hand, and no record of a sink but its caller's. -/
structure Touches (cfg : Config Address Rest) (records : Nat → Address → Address → Prop)
    (x after : Exchange Address Rest) : Prop where
  driven : Erc20.Driven (· = cfg.address) x.token after.token
  timestamp : after.timestamp = x.timestamp
  rest : after.rest = x.rest
  sinks : ∀ roundId user,
    after.market.settlementSinkOf roundId user = x.market.settlementSinkOf roundId user ∨
      records roundId user (after.market.settlementSinkOf roundId user)

omit [DecidableEq Address] in
theorem settle_at_keeps (roundId price : Nat) (x : Exchange Address Rest) :
    (settleAt cfg roundId price x).token = x.token ∧
      (settleAt cfg roundId price x).timestamp = x.timestamp ∧
      (settleAt cfg roundId price x).rest = x.rest ∧
      (settleAt cfg roundId price x).market.settlementSinkOf = x.market.settlementSinkOf := by
  simp only [settleAt]
  split_ifs <;> exact ⟨rfl, rfl, rfl, rfl⟩

theorem Touches.of_same {records : Nat → Address → Address → Prop} (token : after.token = x.token)
    (timestamp : after.timestamp = x.timestamp) (rest : after.rest = x.rest)
    (sinks : after.market.settlementSinkOf = x.market.settlementSinkOf) :
    Touches cfg records x after where
  driven := by
    rw [token]
    exact .refl _ _
  timestamp := timestamp
  rest := rest
  sinks roundId user := .inl (by rw [sinks])

theorem sink_of_entered (ledger : Ledger Address) (roundId : Nat) (user : Address) (side : Side)
    (amount : Nat) (sink : Address) (id : Nat) (holder : Address) :
    (ledger.entered roundId user side amount sink).settlementSinkOf id holder =
        ledger.settlementSinkOf id holder ∨
      sink ≠ 0 ∧ id = roundId ∧ holder = user ∧
        (ledger.entered roundId user side amount sink).settlementSinkOf id holder = sink := by
  rw [Ledger.entered_sinks]
  split_ifs with first
  · by_cases here : id = roundId ∧ holder = user
    · obtain ⟨rfl, rfl⟩ := here
      exact .inr ⟨first.1, rfl, rfl, by simp [Ledger.setSink]⟩
    · left
      by_cases sameRound : id = roundId
      · subst sameRound
        have otherUser : holder ≠ user := fun same => here ⟨rfl, same⟩
        simp [Ledger.setSink, otherUser]
      · simp [Ledger.setSink, sameRound]
  · exact .inl rfl

theorem touches_of_take_position {user payer sink : Address} {roundId amount : Nat}
    {side : Side}
    (ran : takePositionInternal cfg roundId user side amount payer sink x = .ok after) :
    Touches cfg (fun id holder recorded => sink ≠ 0 ∧ id = roundId ∧ holder = user ∧
      recorded = sink) x after := by
  simp only [takePositionInternal, bind_ok_iff, require_ok_iff, exists_const,
    require_status_ok_iff, pay_ok_iff, Except.ok.injEq] at ran
  obtain ⟨_, _, _, _, _, _, _, _, ⟨token, pulled, rfl⟩, rfl⟩ := ran
  exact ⟨.transfer_from rfl pulled, rfl, rfl, sink_of_entered _ _ _ _ _ _⟩

theorem Touches.mono {records wider : Nat → Address → Address → Prop}
    (touches : Touches cfg records x after)
    (implies : ∀ roundId user sink, records roundId user sink → wider roundId user sink) :
    Touches cfg wider x after where
  driven := touches.driven
  timestamp := touches.timestamp
  rest := touches.rest
  sinks roundId user := (touches.sinks roundId user).imp_right (implies _ _ _)

theorem touches_of_pay_claim {roundId : Nat} {user : Address}
    (ran : payClaim cfg roundId user x = .ok after) :
    Touches cfg (fun _ _ _ => False) x after := by
  have payment := pay_claim_ok ran
  have same : after.market.settlementSinkOf = x.market.settlementSinkOf := by
    rw [payment.market]
    rfl
  exact ⟨.move rfl payment.moved, payment.timestamp, payment.rest,
    fun id holder => .inl (by rw [same])⟩

theorem touches_of_exec {sinks : Sinks Address Rest} {sender : Address} {call : Call Address}
    (direct : ∀ roundId user, call ≠ .claim roundId user)
    (ran : exec cfg sinks sender x call = .ok after) :
    Touches cfg (call.records sender) x after := by
  cases call with
  | openRound openTime lockTime closeTime strikePrice =>
      simp only [exec, openRound, bind_ok_iff, require_ok_iff, exists_const,
        Except.ok.injEq] at ran
      obtain ⟨_, _, _, _, _, _, _, _, _, _, rfl⟩ := ran
      exact .of_same rfl rfl rfl rfl
  | takePosition roundId side amount =>
      apply (touches_of_take_position ran).mono
      intro id holder sink recorded
      exact absurd rfl recorded.1
  | takePositionFor roundId user side amount =>
      simp only [exec, takePositionFor, bind_ok_iff, require_ok_iff, exists_const] at ran
      apply (touches_of_take_position ran.2.2).mono
      intro id holder sink recorded
      exact recorded.2
  | lockRound roundId =>
      simp only [exec, lockRound, bind_ok_iff, require_ok_iff, exists_const] at ran
      obtain ⟨_, _, _, ran⟩ := ran
      split_ifs at ran
      · cases ran
        exact .of_same rfl rfl rfl rfl
      · simp only [lockInWindow, bind_ok_iff, Except.ok.injEq] at ran
        obtain ⟨_, _, rfl⟩ := ran
        split_ifs <;> exact .of_same rfl rfl rfl rfl
  | resolveRound roundId closeOracleRoundId =>
      simp only [exec, resolveRound, bind_ok_iff, require_ok_iff, exists_const, Prod.exists,
        Except.ok.injEq] at ran
      obtain ⟨_, _, _, _, price, _, _, rfl⟩ := ran
      obtain ⟨token, timestamp, rest, sinks⟩ := settle_at_keeps roundId price x
      exact .of_same token timestamp rest sinks
  | voidUnsettledRound roundId =>
      simp only [exec, voidUnsettledRound, bind_ok_iff, require_ok_iff, exists_const,
        Except.ok.injEq] at ran
      obtain ⟨_, _, _, _, _, _, _, rfl⟩ := ran
      exact .of_same rfl rfl rfl rfl
  | voidUnlockedRound roundId =>
      simp only [exec, voidUnlockedRound, bind_ok_iff, require_ok_iff, exists_const,
        Except.ok.injEq] at ran
      obtain ⟨_, _, _, _, _, rfl⟩ := ran
      exact .of_same rfl rfl rfl rfl
  | claim roundId user => exact absurd rfl (direct roundId user)
  | setRouter router allowed =>
      simp only [exec, setRouter, bind_ok_iff, require_ok_iff, exists_const,
        Except.ok.injEq] at ran
      obtain ⟨_, _, _, rfl⟩ := ran
      exact .of_same rfl rfl rfl rfl
  | withdrawFees amount =>
      simp only [exec, withdrawFees, bind_ok_iff, require_ok_iff, exists_const, pay_ok_iff,
        Except.ok.injEq] at ran
      obtain ⟨_, _, _, _, _, ⟨token, pushed, rfl⟩, rfl⟩ := ran
      exact ⟨.move rfl pushed, rfl, rfl, fun _ _ => .inl rfl⟩
  | administer call =>
      simp only [exec, administer, bind_ok_iff, Prod.exists, Except.ok.injEq] at ran
      obtain ⟨_, _, _, rfl⟩ := ran
      exact .of_same rfl rfl rfl rfl
  | guard call =>
      simp only [exec, guard, bind_ok_iff, Prod.exists, Except.ok.injEq] at ran
      obtain ⟨_, _, _, rfl⟩ := ran
      exact .of_same rfl rfl rfl rfl

omit [DecidableEq Address] [Zero Address] in
theorem Call.Unlocked.direct {call : Call Address} (unlocked : call.Unlocked) (roundId : Nat)
    (user : Address) : call ≠ .claim roundId user := by
  rintro rfl
  exact unlocked

end Market

namespace Vault

variable {Address : Type} [DecidableEq Address] [Zero Address] {cfg : Config Address}
  {c : Chain Address}

theorem path_of_driven {actors : Address → Prop} {token : Erc20 Address}
    (apart : ∀ actor, actors actor → Outsider cfg actor)
    (driven : Erc20.Driven actors c.token token) :
    (machine cfg).Path c { c with token := token } := by
  induction driven with
  | refl => exact .refl c
  | @tail mid final _ taken ih =>
      obtain ⟨actor, call, admitted, ran⟩ := taken
      have paid : act cfg { c with token := mid } (.asset actor call) =
          .ok { c with token := final } := by
        simp only [act, Chain.pay_ok_iff]
        exact ⟨final, ran, rfl⟩
      exact ih.trans (.single (.asset actor call) ⟨apart actor admitted, paid⟩)

end Vault

namespace Router

variable {Address : Type} [DecidableEq Address] [Zero Address] {cfg : Config Address}
  {x mid after : Exchange Address (Backing Address)} {sender user : Address} {amount : Nat}

/-! ## What the router does is what any caller could do -/

/-- A caller of the market and of the vault, the router being one. -/
def Apart (cfg : Config Address) (sender : Address) : Prop :=
  sender ≠ cfg.market.address ∧ Vault.Outsider cfg.vault sender

/-- What such a caller does while the market is in `claim`. -/
inductive Beside (cfg : Config Address) (x : Exchange Address (Backing Address)) :
    Exchange Address (Backing Address) → Prop
  | market {sender : Address} {call : Market.Call Address}
      {after : Exchange Address (Backing Address)} (apart : Apart cfg sender)
      (unlocked : call.Unlocked)
      (ran : Market.exec cfg.market Market.noSinks sender x call = .ok after) : Beside cfg x after
  | vault {sender : Address} {call : Vault.Call Address} {c : Chain Address}
      (apart : Apart cfg sender) (ran : Vault.exec cfg.vault sender x.chain call = .ok c) :
      Beside cfg x (x.setChain c)
  | pool {sender : Address} {call : Pool.Call Address} {c : Chain Address}
      (apart : Apart cfg sender) (ran : Vault.execPool cfg.vault sender call x.chain = .ok c) :
      Beside cfg x (x.setChain c)
  | asset {sender : Address} {call : Erc20.Call Address} {token : Erc20 Address}
      (apart : Apart cfg sender) (ran : x.token.exec sender call = .ok token) :
      Beside cfg x { x with token := token }
  | announce (event : Event Address) : Beside cfg x (x.announce event)

omit [DecidableEq Address] in
theorem Outsider.apart (outsider : Outsider cfg sender) : Apart cfg sender := outsider.2

omit [DecidableEq Address] in
theorem router_apart (cfg : Config Address) : Apart cfg cfg.address :=
  ⟨cfg.not_market, cfg.not_vault⟩

omit [DecidableEq Address] [Zero Address] in
theorem on_chain_ok_iff {call : Chain Address → Outcome Address (Chain Address)} :
    x.onChain call = .ok after ↔ ∃ c, call x.chain = .ok c ∧ after = x.setChain c := by
  simp only [Exchange.onChain, bind_ok_iff, Except.ok.injEq, eq_comm (b := after)]

theorem beside_of_aside (aside : Aside cfg x after) : Beside cfg x after := by
  cases aside with
  | market outsider unlocked ran => exact .market outsider.apart unlocked ran
  | vault outsider ran =>
      obtain ⟨c, called, rfl⟩ := on_chain_ok_iff.1 ran
      exact .vault outsider.apart called
  | pool outsider ran =>
      obtain ⟨c, called, rfl⟩ := on_chain_ok_iff.1 ran
      exact .pool outsider.apart called
  | asset outsider ran => exact .asset outsider.apart ran

theorem beside_of_asides (asides : Relation.ReflTransGen (Aside cfg) x after) :
    Relation.ReflTransGen (Beside cfg) x after := by
  induction asides with
  | refl => exact .refl
  | tail _ aside ih => exact ih.tail (beside_of_aside aside)

theorem beside_of_repay_owed {toRepay : Nat} (ran : repayOwed cfg user toRepay x = .ok after) :
    Relation.ReflTransGen (Beside cfg) x after := by
  unfold repayOwed at ran
  split_ifs at ran
  · simp only [bind_ok_iff, Market.pay_ok_iff, on_chain_ok_iff] at ran
    obtain ⟨_, ⟨token, approved, rfl⟩, c, repaid, rfl⟩ := ran
    have approves : x.token.exec cfg.address (.approve cfg.vault.address toRepay) =
        .ok token := approved
    have repays : Vault.exec cfg.vault cfg.address
        ({ x with token := token } : Exchange Address (Backing Address)).chain
          (.repay toRepay user) = .ok c := repaid
    have first : Beside cfg x { x with token := token } := .asset (router_apart cfg) approves
    exact (Relation.ReflTransGen.single first).tail (.vault (router_apart cfg) repays)
  · cases ran
    exact .refl

theorem beside_of_forward_surplus {surplus : Nat}
    (ran : forwardSurplus cfg user surplus x = .ok after) :
    Relation.ReflTransGen (Beside cfg) x after := by
  unfold forwardSurplus at ran
  split_ifs at ran
  · obtain ⟨token, moved, rfl⟩ := Market.pay_ok_iff.1 ran
    have sends : x.token.exec cfg.address (.transfer user surplus) = .ok token := moved
    exact .single (.asset (router_apart cfg) sends)
  · cases ran
    exact .refl

theorem beside_of_accrue (ran : accrueLienSource cfg x = .ok after) : Beside cfg x after := by
  unfold accrueLienSource at ran
  split at ran
  · cases ran
  · rename_i pool source
    simp only [bind_ok_iff, Pool.words_accrue_ok_iff, Except.ok.injEq] at ran
    obtain ⟨_, ⟨_, rfl⟩, rfl⟩ := ran
    have accrues : Vault.execPool cfg.vault cfg.address .accrue x.chain =
        .ok { x.chain with toLending := Pool.accrue pool x.chain.toLending } := by
      simp only [Vault.execPool, bind_ok_iff, Vault.creditor_ok_iff, Chain.lend_ok_iff]
      exact ⟨pool, source, _, rfl, rfl⟩
    exact .pool (router_apart cfg) accrues

theorem beside_of_settlement (ran : onPositionSettled cfg sender user amount x = .ok after) :
    Relation.ReflTransGen (Beside cfg) x after := by
  simp only [onPositionSettled, bind_ok_iff, require_ok_iff, exists_const, Except.ok.injEq] at ran
  obtain ⟨_, accrued, accrues, owed, _, repaid, repays, forwarded, forwards, rfl⟩ := ran
  have first := beside_of_accrue accrues
  have second := beside_of_repay_owed repays
  have third := beside_of_forward_surplus forwards
  exact (((Relation.ReflTransGen.single first).trans second).trans third).tail (.announce _)

theorem beside_of_sinks {others : Market.Sinks Address (Backing Address)}
    (outside : Outside cfg others) {sink : Address}
    (ran : sinks cfg others sink user amount x = .ok after) :
    Relation.ReflTransGen (Beside cfg) x after := by
  unfold sinks at ran
  split_ifs at ran
  · exact beside_of_settlement ran
  · exact beside_of_asides (outside sink user amount x after ran)

/-! ## Seen from the market -/

/-- A call on the vault that takes no time, seen from the market. -/
theorem asides_of_chain {c : Chain Address} (spends : Vault.Spends cfg.vault x.chain c)
    (timestamp : c.timestamp = x.timestamp) :
    Relation.ReflTransGen (Market.Aside cfg.market) x (x.setChain c) := by
  have apart : ∀ actor, Vault.Hands cfg.vault actor → actor ≠ cfg.market.address :=
    fun actor hands => cfg.market_not_vault.not_hands hands
  have moved := Market.asides_of_driven (x := x) apart spends
  have written : x.setChain c =
      { ({ x with token := c.token } : Exchange Address (Backing Address)) with
        rest := { x.rest with pool := c.pool, vault := c.vault } } := by
    simp only [Exchange.setChain, timestamp]
  rw [written]
  exact moved.tail (.elsewhere _)

theorem timestamp_of_exec_pool {call : Pool.Call Address} {c after : Chain Address}
    (ran : Vault.execPool cfg.vault sender call c = .ok after) : after.timestamp = c.timestamp := by
  simp only [Vault.execPool, bind_ok_iff, Chain.lend_ok_iff] at ran
  obtain ⟨_, _, _, called, rfl⟩ := ran
  exact Pool.exec_timestamp called

theorem asides_of_beside (beside : Beside cfg x after) :
    Relation.ReflTransGen (Market.Aside cfg.market) x after := by
  cases beside with
  | market apart unlocked ran => exact .single (.call apart.1 unlocked ran)
  | vault apart ran =>
      exact asides_of_chain (Vault.spends_of_exec ran) (Vault.exec_reaches apart.2.1 ran).time
  | pool apart ran =>
      exact asides_of_chain (Vault.spends_of_exec_pool ran) (timestamp_of_exec_pool ran)
  | asset apart ran => exact .single (.asset apart.1 ran)
  | announce event => exact .single (.elsewhere _)

theorem asides_of_besides (besides : Relation.ReflTransGen (Beside cfg) x after) :
    Relation.ReflTransGen (Market.Aside cfg.market) x after := by
  induction besides with
  | refl => exact .refl
  | tail _ beside ih => exact ih.trans (asides_of_beside beside)

theorem sinks_outside {others : Market.Sinks Address (Backing Address)}
    (outside : Outside cfg others) : (sinks cfg others).Outside cfg.market := by
  intro sink user amount x after ran
  exact asides_of_besides (beside_of_sinks outside ran)

/-! ## Seen from the vault -/

theorem path_of_touches {records : Nat → Address → Address → Prop}
    (touches : Market.Touches cfg.market records x after) :
    (Vault.machine cfg.vault).Path x.chain after.chain := by
  have apart : ∀ actor, actor = cfg.market.address → Vault.Outsider cfg.vault actor := by
    rintro actor rfl
    exact cfg.market_not_vault
  have path := Vault.path_of_driven (c := x.chain) apart touches.driven
  have same : after.chain = { x.chain with token := after.token } := by
    simp only [Exchange.chain, touches.timestamp, touches.rest]
  rw [same]
  exact path

theorem path_of_beside (beside : Beside cfg x after) :
    (Vault.machine cfg.vault).Path x.chain after.chain := by
  cases beside with
  | market apart unlocked ran =>
      exact path_of_touches (Market.touches_of_exec unlocked.direct ran)
  | @vault sender call c apart ran => exact .single (.vault sender call) ⟨apart.2, ran⟩
  | @pool sender call c apart ran => exact .single (.pool sender call) ⟨apart.2, ran⟩
  | @asset sender call token apart ran =>
      have paid : Vault.act cfg.vault x.chain (.asset sender call) =
          .ok { x.chain with token := token } := by
        simp only [Vault.act, Chain.pay_ok_iff]
        exact ⟨token, ran, rfl⟩
      exact .single (.asset sender call) ⟨apart.2, paid⟩
  | announce event => exact .refl _

theorem path_of_besides (besides : Relation.ReflTransGen (Beside cfg) x after) :
    (Vault.machine cfg.vault).Path x.chain after.chain := by
  induction besides with
  | refl => exact .refl _
  | tail _ beside ih => exact ih.trans (path_of_beside beside)

/-! ## Every step -/

/-- Seen from either side, nothing out of the ordinary. -/
structure Moves (cfg : Config Address) (x after : Exchange Address (Backing Address)) : Prop where
  market : (Market.machine cfg.market).Path x after
  vault : (Vault.machine cfg.vault).Path x.chain after.chain

theorem Moves.trans (left : Moves cfg x mid) (right : Moves cfg mid after) : Moves cfg x after :=
  ⟨left.market.trans right.market, left.vault.trans right.vault⟩

theorem moves_of_besides (besides : Relation.ReflTransGen (Beside cfg) x after) :
    Moves cfg x after :=
  ⟨Market.path_of_asides (asides_of_besides besides), path_of_besides besides⟩

/-- A call on the market by whoever is not the vault, its creditor or the market. -/
theorem moves_of_market {others : Market.Sinks Address (Backing Address)}
    {call : Market.Call Address} (apart : Apart cfg sender) (outside : Outside cfg others)
    (ran : Market.exec cfg.market (sinks cfg others) sender x call = .ok after) :
    Moves cfg x after := by
  constructor
  · exact .single (.market (sinks cfg others) sender call)
      ⟨⟨apart.1, sinks_outside outside⟩, ran⟩
  · by_cases claims : ∃ roundId user, call = .claim roundId user
    · obtain ⟨roundId, user, rfl⟩ := claims
      obtain ⟨paid, settled, pays, notifies, rfl⟩ := Market.claim_ok ran
      have payment := path_of_touches (Market.touches_of_pay_claim pays)
      unfold Market.notifySink at notifies
      split_ifs at notifies
      · have told := path_of_besides (beside_of_sinks outside notifies)
        exact payment.trans told
      · cases notifies
        exact payment
    · apply path_of_touches (Market.touches_of_exec _ ran)
      intro roundId user same
      exact claims ⟨roundId, user, same⟩

theorem no_others_outside : Outside cfg Market.noSinks := by
  intro sink user amount x after ran
  cases ran

/-- An opening up to the stake is the router using the asset and the vault. -/
theorem open_position_ok {roundId borrowAmount ownAmount : Nat} {side : Market.Side}
    (ran : openPosition cfg sender roundId side borrowAmount ownAmount x = .ok after) :
    ∃ pulled drawn approved staked, borrowAmount + ownAmount ≠ 0 ∧
      pullOwn cfg sender ownAmount x = .ok pulled ∧
      drawFor cfg sender borrowAmount pulled = .ok drawn ∧
      (drawn.pay fun token =>
        token.approve cfg.address cfg.market.address (borrowAmount + ownAmount)) = .ok approved ∧
      Market.takePositionFor cfg.market cfg.address roundId sender side
        (borrowAmount + ownAmount) approved = .ok staked ∧
      after = staked.announce (.positionOpened roundId sender side borrowAmount ownAmount) := by
  simp only [openPosition, bind_ok_iff, require_ok_iff, exists_const, Except.ok.injEq] at ran
  obtain ⟨something, pulled, pulls, drawn, draws, approved, approves, staked, stakes, rfl⟩ := ran
  exact ⟨pulled, drawn, approved, staked, something, pulls, draws, approves, stakes, rfl⟩

theorem beside_of_pull_own {ownAmount : Nat} (ran : pullOwn cfg sender ownAmount x = .ok after) :
    Relation.ReflTransGen (Beside cfg) x after := by
  unfold pullOwn at ran
  split_ifs at ran
  · obtain ⟨token, pulled, rfl⟩ := Market.pay_ok_iff.1 ran
    have pulls : x.token.exec cfg.address (.transferFrom sender cfg.address ownAmount) =
        .ok token := pulled
    exact .single (.asset (router_apart cfg) pulls)
  · cases ran
    exact .refl

theorem beside_of_draw_for {borrowAmount : Nat}
    (ran : drawFor cfg sender borrowAmount x = .ok after) :
    Relation.ReflTransGen (Beside cfg) x after := by
  unfold drawFor at ran
  split_ifs at ran
  · obtain ⟨c, drawn, rfl⟩ := on_chain_ok_iff.1 ran
    have draws : Vault.exec cfg.vault cfg.address x.chain (.borrowFor sender borrowAmount) =
        .ok c := drawn
    exact .single (.vault (router_apart cfg) draws)
  · cases ran
    exact .refl

theorem moves_of_open {roundId borrowAmount ownAmount : Nat} {side : Market.Side}
    (ran : openPosition cfg sender roundId side borrowAmount ownAmount x = .ok after) :
    Moves cfg x after := by
  obtain ⟨pulled, drawn, approved, staked, _, pulls, draws, approves, stakes, rfl⟩ :=
    open_position_ok ran
  have first := moves_of_besides (beside_of_pull_own pulls)
  have second := moves_of_besides (beside_of_draw_for draws)
  obtain ⟨token, allows, rfl⟩ := Market.pay_ok_iff.1 approves
  have allowed : drawn.token.exec cfg.address
      (.approve cfg.market.address (borrowAmount + ownAmount)) = .ok token := allows
  have third : Moves cfg drawn { drawn with token := token } :=
    moves_of_besides (.single (.asset (router_apart cfg) allowed))
  have taken : Market.exec cfg.market (sinks cfg Market.noSinks) cfg.address
      { drawn with token := token }
      (.takePositionFor roundId sender side (borrowAmount + ownAmount)) = .ok staked := stakes
  have fourth := moves_of_market (router_apart cfg) no_others_outside taken
  have fifth : Moves cfg staked
      (staked.announce (.positionOpened roundId sender side borrowAmount ownAmount)) :=
    moves_of_besides (.single (.announce _))
  exact (first.trans second).trans ((third.trans fourth).trans fifth)

theorem moves_of_step {action : Action Address} (taken : (machine cfg).step x action after) :
    Moves cfg x after := by
  obtain ⟨external, ran⟩ := taken
  cases action with
  | market others sender call => exact moves_of_market external.1.apart external.2 ran
  | router sender call =>
      cases call with
      | openPosition roundId side borrowAmount ownAmount => exact moves_of_open ran
      | onPositionSettled user amount => exact moves_of_besides (beside_of_settlement ran)
  | vault sender call =>
      simp only [act, on_chain_ok_iff] at ran
      obtain ⟨c, called, rfl⟩ := ran
      exact moves_of_besides (.single (.vault external.apart called))
  | pool sender call =>
      simp only [act, on_chain_ok_iff] at ran
      obtain ⟨c, called, rfl⟩ := ran
      exact moves_of_besides (.single (.pool external.apart called))
  | asset sender call =>
      simp only [act, Market.pay_ok_iff] at ran
      obtain ⟨token, called, rfl⟩ := ran
      exact moves_of_besides (.single (.asset external.apart called))
  | wait seconds =>
      cases ran
      constructor
      · exact .single (.wait seconds) ⟨trivial, rfl⟩
      · exact .single (.wait seconds) ⟨trivial, rfl⟩

theorem reachable_of_reachable (reached : (machine cfg).Reachable x) :
    (Market.machine cfg.market).Reachable x ∧ (Vault.machine cfg.vault).Reachable x.chain := by
  apply reached.invariant fun x =>
    (Market.machine cfg.market).Reachable x ∧ (Vault.machine cfg.vault).Reachable x.chain
  · intro state start
    exact ⟨start.market_history, start.vault_history⟩
  · intro state action next _ before taken
    have moves := moves_of_step taken
    exact ⟨before.1.path moves.market, before.2.path moves.vault⟩

end Router

end Ghoststake
