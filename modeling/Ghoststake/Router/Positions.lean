import Ghoststake.Market.Lifecycle
import Ghoststake.Router.Steps
import Ghoststake.Vault.Closable

/-!
# Positions that settle through the router

The market records the router as the sink of what was opened through it, for
outsiders only and for good; and an opening leaves the router with what it had.
-/

namespace Ghoststake

set_option autoImplicit false

open Checked

namespace Router

variable {Address : Type} [DecidableEq Address] [Zero Address] {cfg : Config Address}
  {x mid after : Exchange Address (Backing Address)} {sender user : Address}
  {roundId amount : Nat} {side : Market.Side}

def Routed (cfg : Config Address) (x : Exchange Address (Backing Address)) (roundId : Nat)
    (user : Address) : Prop := x.market.settlementSinkOf roundId user = cfg.address

/-! ## Whose they are -/

theorem sinks_of_beside (beside : Beside cfg x after) :
    after.market.settlementSinkOf = x.market.settlementSinkOf := by
  cases beside with
  | @market sender call after apart unlocked ran =>
      funext roundId user
      have touches := Market.touches_of_exec unlocked.direct ran
      rcases touches.sinks roundId user with same | recorded
      · exact same
      · cases call <;> first | exact absurd recorded id | exact absurd unlocked id
  | vault apart ran => rfl
  | pool apart ran => rfl
  | asset apart ran => rfl
  | announce event => rfl

theorem sinks_of_besides (besides : Relation.ReflTransGen (Beside cfg) x after) :
    after.market.settlementSinkOf = x.market.settlementSinkOf := by
  induction besides with
  | refl => rfl
  | tail _ beside ih => exact (sinks_of_beside beside).trans ih

/-- Only the caller's own address is recorded, and by `takePositionFor` only. -/
theorem routed_of_market {others : Market.Sinks Address (Backing Address)}
    {call : Market.Call Address} (outside : Outside cfg others)
    (ran : Market.exec cfg.market (sinks cfg others) sender x call = .ok after)
    (routed : Routed cfg after roundId user) :
    Routed cfg x roundId user ∨ sender = cfg.address := by
  by_cases claims : ∃ id holder, call = .claim id holder
  · left
    obtain ⟨id, holder, rfl⟩ := claims
    obtain ⟨paid, settled, pays, notifies, rfl⟩ := Market.claim_ok ran
    have told : settled.market.settlementSinkOf = paid.market.settlementSinkOf := by
      unfold Market.notifySink at notifies
      split_ifs at notifies
      · exact sinks_of_besides (beside_of_sinks outside notifies)
      · cases notifies
        rfl
    have payment := (Market.touches_of_pay_claim pays).sinks roundId user
    rw [or_false] at payment
    have same : settled.market.settlementSinkOf roundId user =
        x.market.settlementSinkOf roundId user := by
      rw [told]
      exact payment
    exact same.symm.trans routed
  · have touches : Market.Touches cfg.market (call.records sender) x after := by
      apply Market.touches_of_exec _ ran
      intro id holder same
      exact claims ⟨id, holder, same⟩
    rcases touches.sinks roundId user with same | recorded
    · exact .inl (same.symm.trans routed)
    · right
      rw [routed] at recorded
      cases call with
      | takePositionFor id holder which value => exact recorded.2.2.symm
      | _ => exact absurd recorded id

theorem routed_of_open {borrowAmount ownAmount id : Nat} {holder : Address}
    (ran : openPosition cfg sender roundId side borrowAmount ownAmount x = .ok after)
    (routed : Routed cfg after id holder) : Routed cfg x id holder ∨ holder = sender := by
  obtain ⟨pulled, drawn, approved, staked, _, pulls, draws, approves, stakes, rfl⟩ :=
    open_position_ok ran
  have first := sinks_of_besides (beside_of_pull_own pulls)
  have second := sinks_of_besides (beside_of_draw_for draws)
  obtain ⟨token, _, rfl⟩ := Market.pay_ok_iff.1 approves
  have taken : Market.exec cfg.market Market.noSinks cfg.address { drawn with token := token }
      (.takePositionFor roundId sender side (borrowAmount + ownAmount)) = .ok staked := stakes
  have touches := Market.touches_of_exec (by nofun) taken
  rcases touches.sinks id holder with same | recorded
  · left
    have before : drawn.market.settlementSinkOf = x.market.settlementSinkOf := second.trans first
    have kept : staked.market.settlementSinkOf id holder =
        x.market.settlementSinkOf id holder := by
      rw [same]
      exact congrFun (congrFun before id) holder
    exact kept.symm.trans routed
  · exact .inr recorded.2.1

/-- A position that settles through the router belongs to an outsider. -/
def Held (cfg : Config Address) (x : Exchange Address (Backing Address)) : Prop :=
  ∀ roundId user, Routed cfg x roundId user → Outsider cfg user

theorem Held.step {action : Action Address} (held : Held cfg x)
    (taken : (machine cfg).step x action after) : Held cfg after := by
  intro roundId user routed
  obtain ⟨external, ran⟩ := taken
  cases action with
  | market others sender call =>
      rcases routed_of_market external.2 ran routed with before | router
      · exact held roundId user before
      · exact absurd router external.1.1
  | router sender call =>
      cases call with
      | openPosition id side borrowAmount ownAmount =>
          rcases routed_of_open ran routed with before | theirs
          · exact held roundId user before
          · exact theirs ▸ external
      | onPositionSettled holder amount =>
          have same := sinks_of_besides (beside_of_settlement ran)
          unfold Routed at routed
          rw [same] at routed
          exact held roundId user routed
  | vault sender call =>
      simp only [act, on_chain_ok_iff] at ran
      obtain ⟨c, _, rfl⟩ := ran
      exact held roundId user routed
  | pool sender call =>
      simp only [act, on_chain_ok_iff] at ran
      obtain ⟨c, _, rfl⟩ := ran
      exact held roundId user routed
  | asset sender call =>
      simp only [act, Market.pay_ok_iff] at ran
      obtain ⟨token, _, rfl⟩ := ran
      exact held roundId user routed
  | wait seconds =>
      cases ran
      exact held roundId user routed

theorem held_of_reachable (reached : (machine cfg).Reachable x) : Held cfg x := by
  apply reached.invariant (Held cfg)
  · intro state start roundId user routed
    exact absurd routed (start.unused roundId user)
  · intro state action next _ held taken
    exact held.step taken

/-! ## For good -/

theorem recorded_of_take_position_for {Rest : Type}
    {market : Market.Config Address Rest} {x after : Exchange Address Rest}
    (ran : Market.takePositionFor market sender roundId user side amount x = .ok after) :
    after.market.settlementSinkOf roundId user = sender ∧
      Market.stakesOf after.market.toLedger roundId user ≠ 0 := by
  simp only [Market.takePositionFor, bind_ok_iff, require_ok_iff, exists_const] at ran
  obtain ⟨_, _, ran⟩ := ran
  have live := Market.payer_live ran
  simp only [Market.takePositionInternal, bind_ok_iff, require_ok_iff, exists_const,
    Market.require_status_ok_iff, Market.pay_ok_iff, Except.ok.injEq] at ran
  obtain ⟨_, _, something, _, _, _, single, _, ⟨token, _, rfl⟩, rfl⟩ := ran
  constructor
  · have recorded : (x.market.toLedger.entered roundId user side amount sender).settlementSinkOf
        roundId user = sender := by
      rw [Market.Ledger.entered_sinks]
      split_ifs with first
      · simp [Market.Ledger.setSink]
      · by_contra other
        exact single ⟨fun none => first ⟨live, none⟩, other⟩
    exact recorded
  · have staked : Market.stakesOf (x.market.toLedger.entered roundId user side amount sender)
        roundId user ≠ 0 := by
      rw [Market.Ledger.entered_stakesOf, if_pos rfl]
      omega
    exact staked

theorem routed_after_open {borrowAmount ownAmount : Nat}
    (ran : openPosition cfg sender roundId side borrowAmount ownAmount x = .ok after) :
    Routed cfg after roundId sender ∧
      Market.stakesOf after.market.toLedger roundId sender ≠ 0 := by
  obtain ⟨_, _, _, staked, _, _, _, _, stakes, rfl⟩ := open_position_ok ran
  have recorded := recorded_of_take_position_for stakes
  exact recorded

theorem moves_of_path (path : (machine cfg).Path x after) : Moves cfg x after := by
  induction path with
  | refl => exact ⟨.refl _, .refl _⟩
  | tail _ taken ih =>
      obtain ⟨action, taken⟩ := taken
      exact ih.trans (moves_of_step taken)

/-- What was opened through the router settles through it ever after. -/
theorem routed_for_good [Fintype Address] {borrowAmount ownAmount : Nat}
    {later : Exchange Address (Backing Address)} (reached : (machine cfg).Reachable x)
    (outsider : Outsider cfg sender)
    (ran : openPosition cfg sender roundId side borrowAmount ownAmount x = .ok after)
    (path : (machine cfg).Path after later) : Routed cfg later roundId sender := by
  have taken : (machine cfg).step x
      (.router sender (.openPosition roundId side borrowAmount ownAmount)) after :=
    ⟨outsider, ran⟩
  have opened : (machine cfg).Reachable after := .step reached taken
  obtain ⟨routed, staked⟩ := routed_after_open ran
  obtain ⟨_, sources⟩ := Market.holds_of_path (reachable_of_reachable opened).1
    (moves_of_path path).market roundId
  obtain ⟨_, same⟩ := sources sender staked
  have first : Market.recipientOf after.market.toLedger roundId sender = cfg.address := by
    unfold Market.recipientOf
    rw [routed, if_neg cfg.address_ne_zero]
  rw [first] at same
  unfold Market.recipientOf at same
  split_ifs at same
  · exact absurd same outsider.1
  · exact same

/-! ## An opening keeps nothing back -/

theorem balance_of_draw {c drawn : Chain Address} {vault : Vault.Config Address}
    (outsider : Vault.Outsider vault sender)
    (ran : Vault.borrowInternal vault user amount sender c = .ok drawn) :
    drawn.token.balanceOf sender = c.token.balanceOf sender + amount := by
  simp only [Vault.borrowInternal, bind_ok_iff, require_ok_iff, exists_const, Chain.pay_ok_iff,
    Chain.lend_ok_iff, Vault.creditor_ok_iff, Except.ok.injEq] at ran
  obtain ⟨pool, source, _, _, _, ⟨lending, lent, rfl⟩, _, ⟨token, pushed, rfl⟩, rfl⟩ := ran
  obtain ⟨_, _, _, _, _, moved, pays, rfl⟩ := Pool.borrow_ok_iff.1 lent
  obtain ⟨_, _, _, rfl⟩ := (Erc20.move_ok_iff _ _ _ _ _).1 pays
  obtain ⟨_, _, _, rfl⟩ := (Erc20.move_ok_iff _ _ _ _ _).1 pushed
  have received := Erc20.moved_balance_target
    ((Vault.accrueLien vault (Vault.settleInternal vault user c)).token.moved pool.address
      vault.address amount) amount outsider.1.symm
  have before := Erc20.moved_balance_other
    (Vault.accrueLien vault (Vault.settleInternal vault user c)).token amount
      (outsider.2 pool source) outsider.1
  have start : (Vault.accrueLien vault (Vault.settleInternal vault user c)).token = c.token := by
    simp
  rw [before, start] at received
  simpa using received

theorem balance_of_pull_own {ownAmount : Nat} (outsider : sender ≠ cfg.address)
    (ran : pullOwn cfg sender ownAmount x = .ok after) :
    after.token.balanceOf cfg.address = x.token.balanceOf cfg.address + ownAmount := by
  unfold pullOwn at ran
  split_ifs at ran with none
  · obtain ⟨token, pulled, rfl⟩ := Market.pay_ok_iff.1 ran
    exact Pool.pulled_cash outsider pulled
  · cases ran
    rw [not_not.1 none, Nat.add_zero]

theorem balance_of_draw_for {borrowAmount : Nat}
    (ran : drawFor cfg sender borrowAmount x = .ok after) :
    after.token.balanceOf cfg.address = x.token.balanceOf cfg.address + borrowAmount := by
  unfold drawFor at ran
  split_ifs at ran with none
  · obtain ⟨c, drawn, rfl⟩ := on_chain_ok_iff.1 ran
    simp only [Vault.borrowFor, bind_ok_iff, require_ok_iff, exists_const] at drawn
    obtain ⟨_, _, _, drawn⟩ := drawn
    have received := balance_of_draw cfg.not_vault drawn
    rw [Vault.spend_borrow_allowance_lending] at received
    exact received
  · cases ran
    rw [not_not.1 none, Nat.add_zero]

theorem balance_of_take_position {Rest : Type} {market : Market.Config Address Rest}
    {x after : Exchange Address Rest} (outsider : sender ≠ market.address)
    (ran : Market.takePositionFor market sender roundId user side amount x = .ok after) :
    after.token.balanceOf sender + amount = x.token.balanceOf sender := by
  simp only [Market.takePositionFor, Market.takePositionInternal, bind_ok_iff, require_ok_iff,
    exists_const, Market.require_status_ok_iff, Market.pay_ok_iff, Except.ok.injEq] at ran
  obtain ⟨_, _, _, _, _, _, _, _, _, _, ⟨token, pulled, rfl⟩, rfl⟩ := ran
  obtain ⟨_, _, _, funded, rfl⟩ := (Erc20.transfer_from_ok_iff _ _ _ _ _ _).1 pulled
  have left := Erc20.moved_balance_source x.token amount outsider
  have funded : amount ≤ x.token.balanceOf sender := funded
  have kept : (x.token.moved sender market.address amount).balanceOf sender + amount =
      x.token.balanceOf sender := by
    omega
  exact kept

theorem balance_of_open {borrowAmount ownAmount : Nat} (outsider : sender ≠ cfg.address)
    (ran : openPosition cfg sender roundId side borrowAmount ownAmount x = .ok after) :
    after.token.balanceOf cfg.address = x.token.balanceOf cfg.address := by
  obtain ⟨pulled, drawn, approved, staked, _, pulls, draws, approves, stakes, rfl⟩ :=
    open_position_ok ran
  have own := balance_of_pull_own outsider pulls
  have borrowed := balance_of_draw_for draws
  obtain ⟨token, allows, rfl⟩ := Market.pay_ok_iff.1 approves
  have spent := balance_of_take_position cfg.not_market stakes
  have same : token.balanceOf = drawn.token.balanceOf := by
    simp only [Erc20.approve, bind_ok_iff, require_ok_iff, exists_const, Except.ok.injEq] at allows
    obtain ⟨_, _, rfl⟩ := allows
    rfl
  simp only [same] at spent
  have left : staked.token.balanceOf cfg.address = x.token.balanceOf cfg.address := by
    omega
  exact left

end Router

end Ghoststake
