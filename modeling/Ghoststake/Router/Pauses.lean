import Ghoststake.Market.Pauses
import Ghoststake.Router.Payouts
import Ghoststake.Vault.Pauses

/-!
# Pausing traps nobody

Three contracts can close their entries. Whatever they close, every way out of
them runs as if nothing were closed, a claim that settles through the router
included; and nothing enters a contract that is closed.
-/

set_option autoImplicit false

open Checked Indifference

namespace Ghoststake

variable {Address : Type}

structure Pauses (Address : Type) where
  market : EntryPausable Address
  vault : EntryPausable Address
  pool : EntryPausable Address

def Backing.paused (pauses : Pauses Address) (backing : Backing Address) : Backing Address where
  pool := backing.pool.paused pauses.pool
  vault := backing.vault.paused pauses.vault
  logs := backing.logs

def Pauses.put (pauses : Pauses Address) :
    Exchange Address (Backing Address) → Exchange Address (Backing Address) :=
  Exchange.paused pauses.market (Backing.paused pauses)

namespace Router

variable [DecidableEq Address] [Zero Address] (cfg : Config Address) (pauses : Pauses Address)

/-! ## The contracts beside the market -/

section Backed

variable (x : Exchange Address (Backing Address)) (user : Address) (amount : Nat)

omit [DecidableEq Address] [Zero Address] in
theorem chain_put : (pauses.put x).chain = x.chain.paused pauses.vault pauses.pool := rfl

omit [DecidableEq Address] [Zero Address] in
theorem announce_put (event : Event Address) :
    (pauses.put x).announce event = pauses.put (x.announce event) := rfl

omit [DecidableEq Address] [Zero Address] in
theorem pay_put (call : Erc20 Address → Outcome Address (Erc20 Address)) :
    (pauses.put x).pay call = (x.pay call).map pauses.put :=
  Market.market_pay_paused pauses.market (Backing.paused pauses) x call

omit [DecidableEq Address] [Zero Address] in
theorem on_chain_ignores {call : Chain Address → Outcome Address (Chain Address)}
    (ignores : Ignores (Chain.paused pauses.vault pauses.pool) call) :
    Ignores pauses.put fun x => x.onChain call := by
  intro x
  unfold Exchange.onChain
  dsimp only
  rw [chain_put, ignores, bind_of_map, map_bind]
  rfl

omit [DecidableEq Address] in
theorem accrue_lien_source_put :
    accrueLienSource cfg (pauses.put x) = (accrueLienSource cfg x).map pauses.put := by
  unfold accrueLienSource
  cases cfg.vault.lienSource with
  | none => rfl
  | some pool =>
      dsimp only
      have accrued : Pool.Words.accrue pool (pauses.put x).chain.toLending =
          (Pool.Words.accrue pool x.chain.toLending).map (Lending.paused pauses.pool) :=
        Pool.words_accrue_paused pool pauses.pool x.chain.toLending
      rw [accrued, bind_of_map, map_bind]
      rfl

omit [DecidableEq Address] in
theorem lien_word_put : lienWord cfg user (pauses.put x) = lienWord cfg user x := by
  unfold lienWord
  rw [chain_put, Vault.lien_of_paused]

theorem repay_owed_put :
    repayOwed cfg user amount (pauses.put x) = (repayOwed cfg user amount x).map pauses.put := by
  unfold repayOwed
  split_ifs
  · rw [pay_put, bind_of_map, map_bind]
    refine bind_congr fun approved => ?_
    exact on_chain_ignores pauses
      (Vault.repay_ignores cfg.vault pauses.vault pauses.pool cfg.address user amount) approved
  · rfl

theorem forward_surplus_put :
    forwardSurplus cfg user amount (pauses.put x) =
      (forwardSurplus cfg user amount x).map pauses.put := by
  unfold forwardSurplus
  split_ifs
  · exact pay_put pauses x _
  · rfl

theorem on_position_settled_ignores (sender : Address) :
    Ignores pauses.put (onPositionSettled cfg sender user amount) := by
  intro x
  unfold onPositionSettled
  rw [accrue_lien_source_put, map_bind]
  refine bind_congr fun _ => ?_
  rw [bind_of_map, map_bind]
  refine bind_congr fun accrued => ?_
  rw [lien_word_put, map_bind]
  refine bind_congr fun owed => ?_
  dsimp only
  rw [repay_owed_put]
  simp only [forward_surplus_put, announce_put, bind_of_map, map_bind, map_ok]

end Backed

theorem sinks_ignore {others : Market.Sinks Address (Backing Address)}
    (blind : ∀ sink user amount, Ignores pauses.put (others sink user amount))
    (sink user : Address) (amount : Nat) :
    Ignores pauses.put (sinks cfg others sink user amount) := by
  intro x
  unfold sinks
  split_ifs
  · exact on_position_settled_ignores cfg pauses user amount cfg.market.address x
  · exact blind sink user amount x

/-! ## Leaving -/

end Router

/-- A round that has opened is carried to its end, and paid. -/
def Market.Call.Leaves : Market.Call Address → Prop
  | .lockRound _ | .resolveRound _ _ | .voidUnsettledRound _ | .voidUnlockedRound _
  | .claim _ _ | .withdrawFees _ => True
  | .openRound _ _ _ _ | .takePosition _ _ _ | .takePositionFor _ _ _ _ | .setRouter _ _
  | .administer _ | .guard _ => False

namespace Router

variable [DecidableEq Address] [Zero Address] (cfg : Config Address) (pauses : Pauses Address)

/-- An action that only leaves. Code behind a sink of its own is asked not to
look at the pauses either. -/
def Action.Leaves (pauses : Pauses Address) : Action Address → Prop
  | .market others _ call =>
      call.Leaves ∧ ∀ sink user amount, Ignores pauses.put (others sink user amount)
  | .router _ (.onPositionSettled _ _) => True
  | .router _ (.openPosition _ _ _ _) => False
  | .vault _ call => call.Leaves
  | .pool _ call => call.Leaves
  | .asset _ _ | .wait _ => True

theorem act_ignores
    (unswayed : Market.Unswayed cfg.market pauses.market (Backing.paused pauses))
    {action : Action Address} (leaves : action.Leaves pauses) :
    Ignores pauses.put fun x => act cfg x action := by
  cases action with
  | market others sender call =>
      obtain ⟨leaves, blind⟩ := leaves
      cases call with
      | lockRound roundId => exact Market.lock_round_ignores cfg.market _ _ roundId
      | resolveRound roundId closeOracleRoundId =>
          exact Market.resolve_round_ignores cfg.market _ _ roundId unswayed closeOracleRoundId
      | voidUnsettledRound roundId =>
          exact Market.void_unsettled_round_ignores cfg.market _ _ roundId sender
      | voidUnlockedRound roundId =>
          exact Market.void_unlocked_round_ignores cfg.market _ _ roundId
      | claim roundId user =>
          exact Market.claim_ignores cfg.market _ _ roundId (sinks_ignore cfg pauses blind) user
      | withdrawFees amount =>
          exact Market.withdraw_fees_ignores cfg.market _ _ sender amount
      | openRound _ _ _ _ => exact leaves.elim
      | takePosition _ _ _ => exact leaves.elim
      | takePositionFor _ _ _ _ => exact leaves.elim
      | setRouter _ _ => exact leaves.elim
      | administer _ => exact leaves.elim
      | guard _ => exact leaves.elim
  | router sender call =>
      cases call with
      | onPositionSettled user amount =>
          exact on_position_settled_ignores cfg pauses user amount sender
      | openPosition _ _ _ _ => exact leaves.elim
  | vault sender call =>
      exact on_chain_ignores pauses
        (Vault.exec_ignores cfg.vault pauses.vault pauses.pool sender leaves)
  | pool sender call =>
      apply on_chain_ignores pauses
      intro c
      unfold Vault.execPool
      rw [map_bind]
      refine bind_congr fun pool => ?_
      exact Vault.lend_paused pauses.vault pauses.pool c
        (Pool.exec_ignores pool pauses.pool sender leaves)
  | asset sender call => exact fun x => pay_put pauses x fun token => token.exec sender call
  | wait seconds => exact fun x => rfl

/-! ## Entering -/

/-- An action that would let something into a contract that is closed. -/
def Action.Barred (x : Exchange Address (Backing Address)) : Action Address → Prop
  | .market _ _ (.openRound _ _ _ _) | .market _ _ (.takePosition _ _ _)
  | .market _ _ (.takePositionFor _ _ _ _) => x.market.entriesPaused = true
  | .router _ (.openPosition _ _ borrowAmount _) =>
      x.market.entriesPaused = true ∨
        borrowAmount ≠ 0 ∧ (x.rest.vault.entriesPaused = true ∨ x.rest.pool.entriesPaused = true)
  | .vault _ (.deposit _ _) | .vault _ (.mint _ _) => x.rest.vault.entriesPaused = true
  | .vault _ (.borrow _) | .vault _ (.borrowFor _ _) =>
      x.rest.vault.entriesPaused = true ∨ x.rest.pool.entriesPaused = true
  | .pool _ (.supply _) | .pool _ (.borrow _ _) => x.rest.pool.entriesPaused = true
  | _ => False

section Barred

variable {x after : Exchange Address (Backing Address)} {c next : Chain Address}
  {sender user : Address} {amount : Nat}

theorem open_of_borrow_internal {vault : Vault.Config Address} {recipient : Address}
    (ran : Vault.borrowInternal vault user amount recipient c = .ok next) :
    c.pool.entriesPaused = false := by
  simp only [Vault.borrowInternal, bind_ok_iff, require_ok_iff, exists_const, Chain.lend_ok_iff,
    Vault.creditor_ok_iff] at ran
  obtain ⟨pool, source, _, _, _, ⟨lending, borrowed, _⟩, _⟩ := ran
  have isOpen := Pool.open_of_borrow borrowed
  rw [Vault.accrue_lien_lending source, Vault.settle_lending, Pool.entries_of_accrue] at isOpen
  exact isOpen

theorem open_of_open_round {market : Market.Config Address (Backing Address)}
    {openTime lockTime closeTime : Uint64} {strikePrice : Nat}
    (ran : Market.openRound market sender openTime lockTime closeTime strikePrice x =
      .ok after) : x.market.entriesPaused = false := by
  unfold Market.openRound at ran
  obtain ⟨_, _, ran⟩ := (bind_ok_iff _ _ _).1 ran
  obtain ⟨_, passed, _⟩ := (bind_ok_iff _ _ _).1 ran
  exact Pool.open_of_passed passed

theorem open_of_take_position {market : Market.Config Address (Backing Address)}
    {roundId : Nat} {side : Market.Side} {payer sink : Address}
    (ran : Market.takePositionInternal market roundId user side amount payer sink x = .ok after) :
    x.market.entriesPaused = false := by
  unfold Market.takePositionInternal at ran
  obtain ⟨_, passed, _⟩ := (bind_ok_iff _ _ _).1 ran
  exact Pool.open_of_passed passed

theorem open_of_take_position_for {market : Market.Config Address (Backing Address)}
    {roundId : Nat} {side : Market.Side}
    (ran : Market.takePositionFor market sender roundId user side amount x = .ok after) :
    x.market.entriesPaused = false := by
  unfold Market.takePositionFor at ran
  obtain ⟨_, _, ran⟩ := (bind_ok_iff _ _ _).1 ran
  obtain ⟨_, _, ran⟩ := (bind_ok_iff _ _ _).1 ran
  exact open_of_take_position ran

theorem open_of_borrow_for {vault : Vault.Config Address}
    (ran : Vault.borrowFor vault sender user amount c = .ok next) :
    c.vault.entriesPaused = false ∧ c.pool.entriesPaused = false := by
  unfold Vault.borrowFor at ran
  obtain ⟨_, passed, ran⟩ := (bind_ok_iff _ _ _).1 ran
  obtain ⟨_, _, drawn⟩ := (bind_ok_iff _ _ _).1 ran
  have lent := open_of_borrow_internal drawn
  refine ⟨Pool.open_of_passed passed, ?_⟩
  have same : (Vault.spendBorrowAllowance user sender amount c).pool = c.pool :=
    congrArg Lending.pool (Vault.spend_borrow_allowance_lending ..)
  rw [← same]
  exact lent

theorem untouched_of_pull_own {ownAmount : Nat}
    (ran : pullOwn cfg sender ownAmount x = .ok after) :
    after.market = x.market ∧ after.rest = x.rest := by
  unfold pullOwn at ran
  split_ifs at ran
  · obtain ⟨token, _, rfl⟩ := Market.pay_ok_iff.1 ran
    exact ⟨rfl, rfl⟩
  · cases ran
    exact ⟨rfl, rfl⟩

theorem open_of_draw_for {borrowAmount : Nat}
    (ran : drawFor cfg sender borrowAmount x = .ok after) :
    after.market = x.market ∧ (borrowAmount ≠ 0 →
      x.rest.vault.entriesPaused = false ∧ x.rest.pool.entriesPaused = false) := by
  unfold drawFor at ran
  split_ifs at ran with some
  · obtain ⟨c, borrowed, rfl⟩ := on_chain_ok_iff.1 ran
    have entering := open_of_borrow_for borrowed
    exact ⟨rfl, fun _ => entering⟩
  · cases ran
    exact ⟨rfl, fun other => absurd other some⟩

/-- Nothing in an opening before the stake opens or closes an entry. -/
theorem open_of_open_position {roundId borrowAmount ownAmount : Nat} {side : Market.Side}
    (ran : openPosition cfg sender roundId side borrowAmount ownAmount x = .ok after) :
    x.market.entriesPaused = false ∧ (borrowAmount ≠ 0 →
      x.rest.vault.entriesPaused = false ∧ x.rest.pool.entriesPaused = false) := by
  obtain ⟨pulled, drawn, approved, staked, _, pulls, draws, approves, stakes, _⟩ :=
    open_position_ok ran
  obtain ⟨market, rest⟩ := untouched_of_pull_own cfg pulls
  obtain ⟨lentMarket, lending⟩ := open_of_draw_for cfg draws
  have same : approved.market = drawn.market := by
    obtain ⟨token, _, rfl⟩ := Market.pay_ok_iff.1 approves
    rfl
  have isOpen := open_of_take_position_for stakes
  rw [same, lentMarket, market] at isOpen
  rw [rest] at lending
  exact ⟨isOpen, lending⟩

theorem barred_reverts {action : Action Address} (barred : action.Barred x) :
    act cfg x action ≠ .ok after := by
  intro ran
  cases action with
  | market others caller call =>
      cases call with
      | openRound openTime lockTime closeTime strikePrice =>
          have isOpen := open_of_open_round ran
          exact Bool.false_ne_true (isOpen.symm.trans barred)
      | takePosition roundId side amount =>
          have isOpen := open_of_take_position ran
          exact Bool.false_ne_true (isOpen.symm.trans barred)
      | takePositionFor roundId user side amount =>
          have isOpen := open_of_take_position_for ran
          exact Bool.false_ne_true (isOpen.symm.trans barred)
      | _ => exact barred.elim
  | router caller call =>
      cases call with
      | onPositionSettled _ _ => exact barred.elim
      | openPosition roundId side borrowAmount ownAmount =>
          obtain ⟨entering, lending⟩ := open_of_open_position cfg ran
          obtain closed | ⟨some, closed | closed⟩ := barred
          · exact Bool.false_ne_true (entering.symm.trans closed)
          · exact Bool.false_ne_true ((lending some).1.symm.trans closed)
          · exact Bool.false_ne_true ((lending some).2.symm.trans closed)
  | vault caller call =>
      have called : x.onChain (fun c => Vault.exec cfg.vault caller c call) = .ok after := ran
      obtain ⟨c, done, _⟩ := on_chain_ok_iff.1 called
      have deposits : ∀ {receiver : Address} {assets shares : Nat},
          Vault.depositInternal cfg.vault caller receiver assets shares x.chain = .ok c →
            x.rest.vault.entriesPaused = false := by
        intro receiver assets shares deposited
        unfold Vault.depositInternal at deposited
        obtain ⟨_, passed, _⟩ := (bind_ok_iff _ _ _).1 deposited
        exact Pool.open_of_passed passed
      cases call with
      | deposit assets receiver => exact Bool.false_ne_true ((deposits done).symm.trans barred)
      | mint shares receiver => exact Bool.false_ne_true ((deposits done).symm.trans barred)
      | borrow amount =>
          have drawn : Vault.borrow cfg.vault caller amount x.chain = .ok c := done
          unfold Vault.borrow at drawn
          obtain ⟨_, passed, drawn⟩ := (bind_ok_iff _ _ _).1 drawn
          obtain closed | closed := barred
          · exact Bool.false_ne_true ((Pool.open_of_passed passed).symm.trans closed)
          · exact Bool.false_ne_true ((open_of_borrow_internal drawn).symm.trans closed)
      | borrowFor user amount =>
          have drawn : Vault.borrowFor cfg.vault caller user amount x.chain = .ok c := done
          obtain ⟨entering, lending⟩ := open_of_borrow_for drawn
          obtain closed | closed := barred
          · exact Bool.false_ne_true (entering.symm.trans closed)
          · exact Bool.false_ne_true (lending.symm.trans closed)
      | _ => exact barred.elim
  | pool caller call =>
      have called : x.onChain (Vault.execPool cfg.vault caller call) = .ok after := ran
      obtain ⟨c, done, _⟩ := on_chain_ok_iff.1 called
      simp only [Vault.execPool, bind_ok_iff, Chain.lend_ok_iff] at done
      obtain ⟨pool, _, lending, done, _⟩ := done
      cases call with
      | supply amount =>
          exact Bool.false_ne_true ((Pool.open_of_supply done).symm.trans barred)
      | borrow amount user =>
          exact Bool.false_ne_true ((Pool.open_of_borrow done).symm.trans barred)
      | _ => exact barred.elim
  | asset _ _ => exact barred.elim
  | wait _ => exact barred.elim

end Barred

/-! ## Both at once -/

/-- The runs a pause is about: in every one of them what leaves is settled as
if nothing were closed, and what a closed contract would take in is refused. -/
theorem pausing_traps_nobody
    (unswayed : Market.Unswayed cfg.market pauses.market (Backing.paused pauses))
    (x : Exchange Address (Backing Address)) (actions : List (Action Address)) :
    ((∀ action ∈ actions, action.Leaves pauses) →
      Machine.replay (act cfg) (pauses.put x) actions =
        (Machine.replay (act cfg) x actions).map pauses.put) ∧
    ∀ action : Action Address, action.Barred x → ∀ after, act cfg x action ≠ .ok after := by
  constructor
  · intro leaving
    have run : Ignores pauses.put fun x => Machine.replay (act cfg) x actions :=
      replay_ignores fun action member =>
        act_ignores cfg pauses unswayed (leaving action member)
    exact run x
  · intro action barred after
    exact barred_reverts cfg barred

def allClosed : Pauses (Fin 8) where
  market := { entriesPaused := true, pauseGuardian := 0 }
  vault := { entriesPaused := true, pauseGuardian := 0 }
  pool := { entriesPaused := true, pauseGuardian := 0 }

/-- A claim that settles a lien through the router, with all three contracts closed. -/
theorem claim_pays_while_closed :
    ∃ x after, (machine lendingRouter).Reachable x ∧
      Machine.replay (act lendingRouter) (allClosed.put x)
        [.market Market.noSinks 1 (.claim 1 2)] = .ok (allClosed.put after) := by
  have fresh : Deployed lendingRouter freshDesk :=
    fresh_desk_deployed rfl rfl rfl (by rintro pool ⟨⟩; rfl)
  obtain ⟨x, reached, checked⟩ := reachable_of_visits fresh
    ([.pool 3 (.setBorrowModule 5), .pool 1 (.supply (10 ^ 12)), .vault 2 (.deposit (10 ^ 9) 2),
      .vault 2 (.approveBorrowDelegate 4 (10 ^ 8)), .vault 2 (.borrow (10 ^ 6))] ++
      routedRun (.openPosition 1 .up 6000 1000))
    (fun x => passes (Machine.replay (act lendingRouter) x
      [.market Market.noSinks 1 (.claim 1 2)]) fun _ => true)
    (by decide) (by decide +kernel)
  obtain ⟨after, paid, _⟩ := exists_of_passes _ checked
  refine ⟨x, after, reached, ?_⟩
  have same := (pausing_traps_nobody lendingRouter allClosed (fun _ _ _ => rfl) x
    [.market Market.noSinks 1 (.claim 1 2)]).1 (by
      intro action member
      obtain rfl := List.mem_singleton.1 member
      exact ⟨trivial, fun _ _ _ _ => rfl⟩)
  rw [same, paid]
  rfl

end Router

end Ghoststake
