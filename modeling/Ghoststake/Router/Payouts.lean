import Ghoststake.Router.Settlement

/-!
# A payout through the router

What a claim of a position opened through the router pays, repays and leaves,
in every state the four contracts can reach, and when it pays nothing: where the
vault has no creditor, which the constructor takes, and once the creditor's
figures have outgrown a word.
-/

namespace Ghoststake

set_option autoImplicit false

open Checked Rounding

namespace Router

variable {Address : Type} [DecidableEq Address] [Zero Address] [Fintype Address]
  {cfg : Config Address} {pool : Pool.Config Address}
  {x after : Exchange Address (Backing Address)} {user : Address} {roundId : Nat}

def accruedLien (cfg : Config Address) (x : Exchange Address (Backing Address))
    (user : Address) : Nat :=
  Vault.lienOf cfg.vault (Vault.accrueLien cfg.vault x.chain) user

/-- There is a creditor, and its accrual to this instant and the lien after it
are words. -/
def Collectable (cfg : Config Address) (x : Exchange Address (Backing Address))
    (user : Address) : Prop :=
  ∃ pool ∈ cfg.vault.lienSource,
    Pool.Accrues pool x.chain.toLending ∧ accruedLien cfg x user ≤ uint256Max

def payoutOf (x : Exchange Address (Backing Address)) (roundId : Nat) (user : Address) : Nat :=
  Market.claimableOf x.market.toLedger roundId user

/-- The lesser of the payout and the lien at this instant goes to the creditor
and comes off the lien, to within a unit of the index; the user has the rest,
and neither the router nor the vault keeps anything. -/
structure PaidOut (cfg : Config Address) (x : Exchange Address (Backing Address)) (roundId : Nat)
    (user : Address) (after : Exchange Address (Backing Address)) : Prop where
  creditor : ∀ pool ∈ cfg.vault.lienSource, after.token.balanceOf pool.address =
    x.token.balanceOf pool.address + min (payoutOf x roundId user) (accruedLien cfg x user)
  lien_falls : accruedLien cfg x user ≤ Vault.lienOf cfg.vault after.chain user +
      min (payoutOf x roundId user) (accruedLien cfg x user) ∧
    Vault.lienOf cfg.vault after.chain user +
        min (payoutOf x roundId user) (accruedLien cfg x user) ≤
      accruedLien cfg x user + mulDivUp (Vault.accrueLien cfg.vault x.chain).pool.borrowIndex 1 RAY
  lien_clears : accruedLien cfg x user ≤ payoutOf x roundId user →
    Vault.lienOf cfg.vault after.chain user = 0
  user_paid : after.token.balanceOf user = x.token.balanceOf user +
    (payoutOf x roundId user - min (payoutOf x roundId user) (accruedLien cfg x user))
  router_keeps : after.token.balanceOf cfg.address = x.token.balanceOf cfg.address
  vault_keeps : after.token.balanceOf cfg.vault.address = x.token.balanceOf cfg.vault.address
  market_pays : after.token.balanceOf cfg.market.address + payoutOf x roundId user =
    x.token.balanceOf cfg.market.address

/-! ## The claim runs to its end -/

variable (cfg) in
omit [Fintype Address] in
/-- The lien after a repayment of no more than was owed. -/
theorem lien_after_settlement [Fintype Address] {state : Pool.State Address} {repaid : Nat}
    (sound : state.Sound) (owed : repaid ≤ Pool.balanceOfDebt state user) :
    Pool.balanceOfDebt state user ≤
        Pool.balanceOfDebt (settledPool cfg user repaid state) user + repaid ∧
      Pool.balanceOfDebt (settledPool cfg user repaid state) user + repaid ≤
        Pool.balanceOfDebt state user + mulDivUp state.borrowIndex 1 RAY := by
  unfold settledPool
  split_ifs with none
  · subst none
    omega
  · exact Vault.lien_after_repaid sound owed

omit [Fintype Address] in
theorem lien_cleared_by_settlement (state : Pool.State Address) :
    Pool.balanceOfDebt (settledPool cfg user (Pool.balanceOfDebt state user) state) user = 0 := by
  unfold settledPool
  split_ifs with none
  · exact none
  · exact Vault.debt_repaid_whole _ _ _

omit [Fintype Address] in
theorem settled_balances (source : cfg.vault.lienSource = some pool) (outsider : Outsider cfg user)
    (token : Erc20 Address) {payout repaid : Nat} (within : repaid ≤ payout)
    (funded : payout ≤ token.balanceOf cfg.market.address) :
    let final := settledToken cfg pool user payout repaid
      (token.moved cfg.market.address cfg.address payout)
    final.balanceOf pool.address = token.balanceOf pool.address + repaid ∧
      final.balanceOf user = token.balanceOf user + (payout - repaid) ∧
      final.balanceOf cfg.address = token.balanceOf cfg.address ∧
      final.balanceOf cfg.vault.address = token.balanceOf cfg.vault.address ∧
      final.balanceOf cfg.market.address + payout = token.balanceOf cfg.market.address := by
  have poolVault : pool.address ≠ cfg.vault.address := (cfg.vault.pool_live pool source).2
  have routerPool : cfg.address ≠ pool.address := cfg.not_vault.2 pool source
  have routerVault : cfg.address ≠ cfg.vault.address := cfg.not_vault.1
  have marketPool : cfg.market.address ≠ pool.address := cfg.market_not_vault.2 pool source
  have marketVault : cfg.market.address ≠ cfg.vault.address := cfg.market_not_vault.1
  have marketRouter : cfg.market.address ≠ cfg.address := cfg.not_market.symm
  have userPool : user ≠ pool.address := outsider.2.2.2 pool source
  have userVault : user ≠ cfg.vault.address := outsider.2.2.1
  have userMarket : user ≠ cfg.market.address := outsider.2.1
  have userRouter : user ≠ cfg.address := outsider.1
  unfold settledToken
  refine ⟨?_, ?_, ?_, ?_, ?_⟩
  · rw [Erc20.moved_balance_other _ _ routerPool.symm userPool.symm,
      Erc20.moved_balance_target _ _ poolVault.symm,
      Erc20.moved_balance_other _ _ routerPool.symm poolVault,
      Erc20.moved_balance_other _ _ marketPool.symm routerPool.symm]
  · rw [Erc20.moved_balance_target _ _ userRouter.symm,
      Erc20.moved_balance_other _ _ userVault userPool,
      Erc20.moved_balance_other _ _ userRouter userVault,
      Erc20.moved_balance_other _ _ userMarket userRouter]
  · rw [Erc20.moved_balance_source _ _ userRouter.symm,
      Erc20.moved_balance_other _ _ routerVault routerPool,
      Erc20.moved_balance_source _ _ routerVault,
      Erc20.moved_balance_target _ _ marketRouter]
    omega
  · rw [Erc20.moved_balance_other _ _ routerVault.symm userVault.symm,
      Erc20.moved_balance_source _ _ poolVault.symm,
      Erc20.moved_balance_target _ _ routerVault,
      Erc20.moved_balance_other _ _ marketVault.symm routerVault.symm]
    omega
  · rw [Erc20.moved_balance_other _ _ marketRouter userMarket.symm,
      Erc20.moved_balance_other _ _ marketVault marketPool,
      Erc20.moved_balance_other _ _ marketRouter marketVault,
      Erc20.moved_balance_source _ _ marketRouter]
    omega

structure Ready (cfg : Config Address) (x : Exchange Address (Backing Address)) : Prop where
  kept : (Market.escrowOf cfg.market x).Kept cfg.market.terms
  sound : ∀ pool ∈ cfg.vault.lienSource, x.rest.pool.Sound
  held : Held cfg x

theorem ready_of_reachable (reached : (machine cfg).Reachable x) : Ready cfg x := by
  obtain ⟨market, vault⟩ := reachable_of_reachable reached
  refine ⟨(Market.kept_of_reachable market).1, ?_, held_of_reachable reached⟩
  intro pool source
  exact Pool.sound_of_reachable (Vault.pool_reachable vault pool source)

omit [Fintype Address] in
/-- A payout of a position opened through the router is made to the router. -/
theorem payment_moves {paid : Exchange Address (Backing Address)}
    (routed : Routed cfg x roundId user) (payment : Market.Paid cfg.market roundId user x paid) :
    payoutOf x roundId user ≤ x.token.balanceOf cfg.market.address ∧
      paid.token = x.token.moved cfg.market.address cfg.address (payoutOf x roundId user) := by
  have recipient : Market.recipientOf x.market.toLedger roundId user = cfg.address := by
    unfold Market.recipientOf
    rw [routed, if_neg cfg.address_ne_zero]
  have moved := payment.moved
  rw [recipient] at moved
  obtain ⟨_, _, funded, moved⟩ := (Erc20.move_ok_iff _ _ _ _ _).1 moved
  exact ⟨funded, moved⟩

omit [Fintype Address] in
/-- It does not pass through the creditor, which accrues and is owed as before. -/
theorem payment_passes_creditor {paid : Exchange Address (Backing Address)}
    (source : cfg.vault.lienSource = some pool) (routed : Routed cfg x roundId user)
    (payment : Market.Paid cfg.market roundId user x paid) :
    (Pool.accrue pool paid.chain.toLending).pool = (Pool.accrue pool x.chain.toLending).pool ∧
      (Pool.Accrues pool paid.chain.toLending ↔ Pool.Accrues pool x.chain.toLending) ∧
      accruedLien cfg paid user = accruedLien cfg x user := by
  have cash : paid.chain.toLending.token.balanceOf pool.address =
      x.chain.toLending.token.balanceOf pool.address := by
    have untouched : paid.token.balanceOf pool.address = x.token.balanceOf pool.address := by
      rw [(payment_moves routed payment).2, Erc20.moved_balance_other _ _
        (cfg.market_not_vault.2 pool source).symm (cfg.not_vault.2 pool source).symm]
    exact untouched
  have storage : paid.chain.toLending.pool = x.chain.toLending.pool :=
    congrArg Backing.pool payment.rest
  have accrued := Pool.accrue_pool_congr cash storage payment.timestamp
  refine ⟨accrued, Pool.accrues_congr cash storage payment.timestamp, ?_⟩
  unfold accruedLien
  rw [Vault.lien_of_eq source, Vault.accrue_lien_lending source, Vault.lien_of_eq source,
    Vault.accrue_lien_lending source, accrued]

/-- What everybody is left with once the router has settled a payout made to it. -/
theorem paid_out_of_settled {settled : Exchange Address (Backing Address)}
    (source : cfg.vault.lienSource = some pool) (sound : x.rest.pool.Sound)
    (outsider : Outsider cfg user)
    (funded : payoutOf x roundId user ≤ x.token.balanceOf cfg.market.address)
    (lent : settled.rest.pool = settledPool cfg user
      (min (payoutOf x roundId user) (accruedLien cfg x user))
      (Pool.accrue pool x.chain.toLending).pool)
    (flows : settled.token.balanceOf = (settledToken cfg pool user (payoutOf x roundId user)
      (min (payoutOf x roundId user) (accruedLien cfg x user))
      (x.token.moved cfg.market.address cfg.address (payoutOf x roundId user))).balanceOf) :
    PaidOut cfg x roundId user settled := by
  have lien : accruedLien cfg x user =
      Pool.balanceOfDebt (Pool.accrue pool x.chain.toLending).pool user := by
    unfold accruedLien
    rw [Vault.lien_of_eq source, Vault.accrue_lien_lending source]
  have finalLien : Vault.lienOf cfg.vault settled.chain user =
      Pool.balanceOfDebt (settledPool cfg user
        (min (payoutOf x roundId user) (accruedLien cfg x user))
        (Pool.accrue pool x.chain.toLending).pool) user := by
    rw [Vault.lien_of_eq source, ← lent]
    rfl
  have index : (Vault.accrueLien cfg.vault x.chain).pool.borrowIndex =
      (Pool.accrue pool x.chain.toLending).pool.borrowIndex := by
    rw [Vault.accrue_lien_lending source]
  obtain ⟨toPool, toUser, atRouter, atVault, atMarket⟩ :=
    settled_balances source outsider x.token
      (Nat.min_le_left (payoutOf x roundId user) (accruedLien cfg x user)) funded
  rw [← flows] at toPool toUser atRouter atVault atMarket
  constructor
  · intro other member
    obtain rfl : pool = other := Option.some.inj (source.symm.trans member)
    exact toPool
  · have within : min (payoutOf x roundId user) (accruedLien cfg x user) ≤
        Pool.balanceOfDebt (Pool.accrue pool x.chain.toLending).pool user := by
      rw [← lien]
      exact Nat.min_le_right _ _
    have bounds := lien_after_settlement cfg sound.accrue within
    rw [← finalLien, ← lien, ← index] at bounds
    exact bounds
  · intro covers
    have whole : min (payoutOf x roundId user) (accruedLien cfg x user) =
        Pool.balanceOfDebt (Pool.accrue pool x.chain.toLending).pool user := by
      rw [Nat.min_eq_right covers, lien]
    rw [whole] at finalLien
    exact finalLien.trans (lien_cleared_by_settlement _)
  · exact toUser
  · exact atRouter
  · exact atVault
  · exact atMarket

theorem claim_pays_out (ready : Ready cfg x) (collectable : Collectable cfg x user)
    (routed : Routed cfg x roundId user) (owed : payoutOf x roundId user ≠ 0)
    (others : Market.Sinks Address (Backing Address)) :
    ∃ after, Market.claim cfg.market (sinks cfg others) roundId user x = .ok after ∧
      PaidOut cfg x roundId user after := by
  obtain ⟨pool, source, accrues, readable⟩ := collectable
  have source : cfg.vault.lienSource = some pool := source
  obtain ⟨paid, pays⟩ := Market.pays_claim ready.kept owed
  have payment := Market.pay_claim_ok pays
  have live : user ≠ 0 := by
    intro nobody
    apply Market.stakes_of_claimable owed
    rw [nobody]
    exact (ready.kept.sound.rounds roundId).nobody
  obtain ⟨funded, moved⟩ := payment_moves routed payment
  obtain ⟨accrued, accruesPaid, lienPaid⟩ := payment_passes_creditor source routed payment
  have sound := ready.sound pool source
  have books : paid.rest.pool.Sound := by
    rw [payment.rest]
    exact sound
  have received : payoutOf x roundId user ≤ paid.token.balanceOf cfg.address := by
    rw [moved, Erc20.moved_balance_target _ _ cfg.not_market.symm]
    exact Nat.le_add_left _ _
  have repayment : repaymentOf cfg paid user (payoutOf x roundId user) =
      min (payoutOf x roundId user) (accruedLien cfg x user) := by
    rw [← lienPaid]
    rfl
  rw [← lienPaid] at readable
  obtain ⟨settled, settles, lent, flows⟩ :=
    settlement_runs source books live received (accruesPaid.2 accrues) readable
  rw [repayment] at lent flows
  rw [accrued] at lent
  rw [moved] at flows
  refine ⟨settled.emit (.claimed roundId user (payoutOf x roundId user)
    (Market.recipientOf x.market.toLedger roundId user)), ?_, ?_⟩
  · have told : Market.notifySink (sinks cfg others) (x.market.settlementSinkOf roundId user) user
        (payoutOf x roundId user) paid = .ok settled := by
      unfold Market.notifySink sinks
      rw [routed, if_pos cfg.address_ne_zero, if_pos rfl]
      exact settles
    have told : Market.notifySink (sinks cfg others) (x.market.settlementSinkOf roundId user) user
        (Market.claimableOf x.market.toLedger roundId user) paid = .ok settled := told
    unfold Market.claim
    rw [pays, ok_bind, told, ok_bind]
    rfl
  · exact paid_out_of_settled source sound (ready.held roundId user routed) funded lent flows

omit [Fintype Address] in
/-- What a claim of such a position that went through met on its way. -/
theorem collectable_of_claim (routed : Routed cfg x roundId user) (others : Market.Sinks Address (Backing Address))
    (ran : Market.claim cfg.market (sinks cfg others) roundId user x = .ok after) :
    Collectable cfg x user := by
  obtain ⟨paid, settled, pays, notifies, _⟩ := Market.claim_ok ran
  unfold Market.notifySink sinks at notifies
  rw [routed, if_pos cfg.address_ne_zero, if_pos rfl] at notifies
  have payment := Market.pay_claim_ok pays
  cases source : cfg.vault.lienSource with
  | none =>
      simp only [onPositionSettled, bind_ok_iff] at notifies
      obtain ⟨_, _, _, accrues, _⟩ := notifies
      unfold accrueLienSource at accrues
      rw [source] at accrues
      cases accrues
  | some pool =>
      obtain ⟨_, accruesPaid, lienPaid⟩ := payment_passes_creditor source routed payment
      obtain ⟨accrues, readable⟩ := accrues_of_settlement source notifies
      refine ⟨pool, source, accruesPaid.1 accrues, ?_⟩
      rw [← lienPaid]
      exact readable

/-! ## Nothing stays with the router -/

/-- What the router has a part in: an opening, or the settlement of a position
opened through it. -/
def Action.Own (cfg : Config Address) (x : Exchange Address (Backing Address)) :
    Action Address → Prop
  | .router _ (.openPosition _ _ _ _) => True
  | .market _ _ (.claim roundId user) => Routed cfg x roundId user
  | .router _ (.onPositionSettled _ _) | .market _ _ _ | .vault _ _ | .pool _ _ | .asset _ _
  | .wait _ => False

/-- Anything else that leaves the router with more than it had. -/
def Donates (cfg : Config Address) (x : Exchange Address (Backing Address))
    (action : Action Address) (after : Exchange Address (Backing Address)) : Prop :=
  ¬action.Own cfg x ∧ x.token.balanceOf cfg.address < after.token.balanceOf cfg.address

def Undonated (cfg : Config Address) :
    Exchange Address (Backing Address) → Exchange Address (Backing Address) → Prop :=
  Relation.ReflTransGen fun x after =>
    ∃ action, (machine cfg).step x action after ∧ ¬Donates cfg x action after

theorem balance_of_claim (ready : Ready cfg x) (routed : Routed cfg x roundId user)
    (others : Market.Sinks Address (Backing Address))
    (ran : Market.claim cfg.market (sinks cfg others) roundId user x = .ok after) :
    after.token.balanceOf cfg.address = x.token.balanceOf cfg.address := by
  have collectable := collectable_of_claim routed others ran
  obtain ⟨paid, _, pays, _, _⟩ := Market.claim_ok ran
  have owed : payoutOf x roundId user ≠ 0 := (Market.pay_claim_ok pays).owed
  obtain ⟨other, same, paidOut⟩ := claim_pays_out ready collectable routed owed others
  rw [ran] at same
  cases same
  exact paidOut.router_keeps

theorem balance_of_own {action : Action Address} (ready : Ready cfg x) (own : action.Own cfg x)
    (taken : (machine cfg).step x action after) :
    after.token.balanceOf cfg.address = x.token.balanceOf cfg.address := by
  obtain ⟨external, ran⟩ := taken
  cases action with
  | router sender call =>
      cases call with
      | openPosition roundId side borrowAmount ownAmount => exact balance_of_open external.1 ran
      | onPositionSettled user amount => exact absurd own id
  | market others sender call =>
      cases call with
      | claim roundId user => exact balance_of_claim ready own others ran
      | _ => exact absurd own id
  | vault sender call => exact absurd own id
  | pool sender call => exact absurd own id
  | asset sender call => exact absurd own id
  | wait seconds => exact absurd own id

theorem empty_of_undonated {start : Exchange Address (Backing Address)}
    (reached : (machine cfg).Reachable start) (empty : start.token.balanceOf cfg.address = 0)
    (run : Undonated cfg start x) :
    (machine cfg).Reachable x ∧ x.token.balanceOf cfg.address = 0 := by
  induction run with
  | refl => exact ⟨reached, empty⟩
  | @tail mid final _ taken ih =>
      obtain ⟨action, taken, undonated⟩ := taken
      obtain ⟨midReached, midEmpty⟩ := ih
      refine ⟨.step midReached taken, ?_⟩
      by_cases own : action.Own cfg mid
      · exact (balance_of_own (ready_of_reachable midReached) own taken).trans midEmpty
      · have noMore : final.token.balanceOf cfg.address ≤ mid.token.balanceOf cfg.address := by
          by_contra more
          exact undonated ⟨own, not_le.1 more⟩
        omega

/-! ## Every payout through the router -/

section Sample

def stakeMarket : Market.Config (Fin 8) (Backing (Fin 8)) where
  address := 6
  readAt _ _ _ := .ok (true, 150)
  rake := Market.maxRake
  entryCutoff := ⟨10, Figures.ten_fits⟩
  lockWindow := ⟨10, Figures.ten_fits⟩
  resolveDeadline := ⟨100, Figures.hundred_fits⟩
  minSidePool := 5
  rake_le := Nat.le_refl _
  min_side_pool_ne_zero := Figures.five_ne_zero
  entry_cutoff_ne_zero := Figures.ten_ne_zero
  lock_window_ne_zero := Figures.ten_ne_zero
  resolve_deadline_ne_zero := Figures.hundred_ne_zero
  address_ne_zero := by decide

def lendingRouter : Config (Fin 8) where
  address := 4
  vault := Vault.smallVault 0
  market := stakeMarket
  address_ne_zero := by decide
  not_market := by decide
  not_vault := by decide
  market_not_vault := by decide

/-- Over the same vault without a creditor, which every constructor takes. -/
def bareRouter : Config (Fin 8) :=
  { lendingRouter with
    vault := { Vault.smallVault 0 with lienSource := none, pool_live := by nofun }
    not_vault := by decide
    market_not_vault := by decide }

/-- Over a creditor of a rate its constructor takes like any other. -/
def steepRouter : Config (Fin 8) :=
  { lendingRouter with
    vault := Vault.smallVault (2 ^ 200)
    not_vault := by decide
    market_not_vault := by decide }

def freshDesk : Exchange (Fin 8) (Backing (Fin 8)) where
  timestamp := 0
  token :=
    { balanceOf := fun user => if 1 ≤ user ∧ user ≤ 3 then 10 ^ 40 else 0
      allowance := fun owner spender =>
        if 1 ≤ owner ∧ owner ≤ 3 ∧ 4 ≤ spender then uint256Max else 0
      totalSupply := 3 * 10 ^ 40 }
  market := Market.deployed { owner := 3, treasury := 3 } 3
  rest :=
    { pool := Pool.deployed { owner := 3, treasury := 3 } 3 0
      vault := Vault.deployed 3
      logs := [] }

theorem fresh_desk_unapproved {account : Fin 8} (contract : 4 ≤ account) :
    freshDesk.token.allowance account = fun _ => 0 := by
  funext spender
  have outside : ¬(1 ≤ account ∧ account ≤ 3 ∧ 4 ≤ spender) := by
    rintro ⟨_, below, _⟩
    omega
  exact if_neg (t := uint256Max) outside

theorem fresh_desk_deployed {cfg : Config (Fin 8)} (market : cfg.market = stakeMarket)
    (address : cfg.address = 4) (vault : cfg.vault.address = 5)
    (pool : ∀ pool ∈ cfg.vault.lienSource, pool.address = 7) : Deployed cfg freshDesk where
  market_history := by
    rw [market]
    exact .initial ⟨⟨3, { owner := 3, treasury := 3 }, 3, rfl, rfl⟩,
      fresh_desk_unapproved (by decide)⟩
  vault_history := by
    refine .initial ⟨?_, rfl, ?_, ⟨3, rfl⟩⟩
    · intro creditor source
      refine .initial ⟨⟨3, { owner := 3, treasury := 3 }, 3, rfl, rfl⟩, ?_⟩
      rw [pool creditor source]
      exact fresh_desk_unapproved (by decide)
    · intro spender
      rw [vault]
      exact congrFun (fresh_desk_unapproved (by decide)) spender
  unused roundId user := by
    rw [address]
    have zero : (0 : Fin 8) ≠ 4 := by decide
    exact zero
  silent := rfl

inductive Visit where
  | market (sender : Fin 8) (call : Market.Call (Fin 8))
  | router (sender : Fin 8) (call : Call (Fin 8))
  | vault (sender : Fin 8) (call : Vault.Call (Fin 8))
  | pool (sender : Fin 8) (call : Pool.Call (Fin 8))
  | wait (seconds : Nat)

def Visit.action : Visit → Action (Fin 8)
  | .market sender call => .market Market.noSinks sender call
  | .router sender call => .router sender call
  | .vault sender call => .vault sender call
  | .pool sender call => .pool sender call
  | .wait seconds => .wait seconds

def Visit.sender : Visit → Option (Fin 8)
  | .market sender _ | .router sender _ | .vault sender _ | .pool sender _ => some sender
  | .wait _ => none

theorem reachable_of_visits {cfg : Config (Fin 8)} (fresh : Deployed cfg freshDesk)
    (run : List Visit) (check : Exchange (Fin 8) (Backing (Fin 8)) → Bool)
    (outside : ∀ visit ∈ run, ∀ sender ∈ visit.sender, Outsider cfg sender)
    (ran : passes (Machine.replay (act cfg) freshDesk (run.map Visit.action)) check = true) :
    ∃ x, (machine cfg).Reachable x ∧ check x = true := by
  obtain ⟨x, replayed, checked⟩ := exists_of_passes _ ran
  have start : (machine cfg).Reachable freshDesk := .initial fresh
  refine ⟨x, start.replay ?_ replayed, checked⟩
  intro action member before after taken
  obtain ⟨visit, visited, rfl⟩ := List.mem_map.1 member
  refine ⟨?_, taken⟩
  have theirs := outside visit visited
  cases visit with
  | market sender call => exact ⟨theirs sender rfl, no_others_outside⟩
  | router sender call => exact theirs sender rfl
  | vault sender call => exact theirs sender rfl
  | pool sender call => exact theirs sender rfl
  | wait seconds => exact trivial

instance (cfg : Config (Fin 8)) (sender : Fin 8) : Decidable (Outsider cfg sender) :=
  inferInstanceAs (Decidable (_ ∧ _ ∧ Vault.Outsider cfg.vault sender))

/-- A round two users have staked in, one of them through the router. -/
def routedRun (opening : Call (Fin 8)) : List Visit :=
  [.market 3 (.setRouter 4 true),
    .market 3 (.openRound ⟨0, Figures.zero_fits⟩ ⟨100, Figures.hundred_fits⟩ ⟨200, Figures.two_hundred_fits⟩ 100),
    .router 2 opening, .market 1 (.takePosition 1 .down 5000), .wait 100,
    .market 1 (.lockRound 1), .wait 100, .market 1 (.resolveRound 1 Uint80.zero)]

def accruesNow (pool : Pool.Config (Fin 8)) (x : Exchange (Fin 8) (Backing (Fin 8))) : Bool :=
  passes (Pool.Words.accrue pool x.chain.toLending) fun _ => true

theorem accrues_of_now {pool : Pool.Config (Fin 8)} {x : Exchange (Fin 8) (Backing (Fin 8))} :
    accruesNow pool x = true ↔ Pool.Accrues pool x.chain.toLending := by
  unfold accruesNow
  constructor
  · intro now
    obtain ⟨_, ran, _⟩ := exists_of_passes _ now
    exact (Pool.words_accrue_ok_iff.1 ran).1
  · intro accrues
    rw [Pool.words_accrue_ok_iff.2 ⟨accrues, rfl⟩]
    rfl

/-- A payout through the router that nobody can ever make. -/
def Stranded (cfg : Config (Fin 8)) : Prop :=
  ∃ x, (machine cfg).Reachable x ∧ Routed cfg x 1 2 ∧ payoutOf x 1 2 ≠ 0 ∧
    ∀ others sender after,
      Market.exec cfg.market (sinks cfg others) sender x (.claim 1 2) ≠ .ok after

theorem stranded_of_run {cfg : Config (Fin 8)} (fresh : Deployed cfg freshDesk)
    (run : List Visit) (check : Exchange (Fin 8) (Backing (Fin 8)) → Bool)
    (outside : ∀ visit ∈ run, ∀ sender ∈ visit.sender, Outsider cfg sender)
    (ran : passes (Machine.replay (act cfg) freshDesk (run.map Visit.action)) (fun x =>
      x.market.settlementSinkOf 1 2 = cfg.address ∧ payoutOf x 1 2 ≠ 0 ∧ check x = true) = true)
    (uncollectable : ∀ x, check x = true → ¬Collectable cfg x 2) : Stranded cfg := by
  obtain ⟨x, reached, checked⟩ := reachable_of_visits fresh run _ outside ran
  obtain ⟨routed, owed, late⟩ := of_decide_eq_true checked
  refine ⟨x, reached, routed, owed, ?_⟩
  intro others sender after claimed
  exact uncollectable x late (collectable_of_claim routed others claimed)

end Sample

end Router

end Ghoststake
