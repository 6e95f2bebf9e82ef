import Ghoststake.Vault.Shares

/-!
# Settlement cadence

A position that is only settled earns the floor of its yield over each interval
between settlements. What a cadence costs against no settlement at all is the
floor of the remainders those divisions drop.
-/

namespace Ghoststake

set_option autoImplicit false

open Checked Rounding

namespace Vault

variable {Address : Type} [DecidableEq Address] [Zero Address]

/-! ## What an action does to one position -/

inductive Touch where
  | spares
  | settles
  | changes
  deriving DecidableEq

/-- A call about the position of `owner`, seen from the position of `user`. -/
def Touch.about (owner user : Address) (effect : Touch) : Touch :=
  if user = owner then effect else .spares

def Call.touch (sender user : Address) : Call Address → Touch
  | .deposit _ receiver | .mint _ receiver => .about receiver user .changes
  | .withdraw _ _ owner | .redeem _ _ owner => .about owner user .changes
  | .borrow _ => .about sender user .settles
  | .borrowFor onBehalfOf _ => .about onBehalfOf user .settles
  | .liquidate other _ | .writeOffBadDebt other => .about other user .changes
  | .settle other => .about other user .settles
  | .transfer target _ => if user = sender then .changes else .about target user .changes
  | .transferFrom source target _ =>
      if user = source then .changes else .about target user .changes
  | .approveBorrowDelegate _ _ | .repay _ _ | .approve _ _ | .guard _ => .spares

def Action.touch (user : Address) : Action Address → Touch
  | .vault sender call => call.touch sender user
  | .pool _ _ | .asset _ _ | .wait _ => .spares

def Touched (cfg : Config Address) (user : Address) (c after : Chain Address) : Touch → Prop
  | .spares => after.vault.positions user = c.vault.positions user
  | .settles => after.vault.positions user = settledPosition cfg c user
  | .changes => True

section Touch

variable {cfg : Config Address} {c after : Chain Address} {sender user owner : Address}

theorem touched_of_update {position : Position}
    (ledger : after.vault.positions = Function.update c.vault.positions owner position)
    (effect : Touch) (holds : user = owner → Touched cfg user c after effect) :
    Touched cfg user c after (.about owner user effect) := by
  unfold Touch.about
  split_ifs with same
  · exact holds same
  · change after.vault.positions user = c.vault.positions user
    rw [ledger]
    exact Function.update_of_ne same ..

theorem Settles.touched (move : Settles cfg owner c after) :
    Touched cfg user c after (.about owner user .settles) := by
  apply touched_of_update move.ledger
  intro same
  subst same
  change after.vault.positions user = settledPosition cfg c user
  rw [move.ledger]
  exact Function.update_self ..

theorem Leaves.touched {assets shares : Nat} (move : Leaves cfg owner assets shares c after) :
    Touched cfg user c after (.about owner user .changes) :=
  touched_of_update move.ledger .changes fun _ => trivial

theorem Carries.touched {source target : Address} {value : Nat}
    (move : Carries cfg source target value c after) :
    Touched cfg user c after
      (if user = source then .changes else .about target user .changes) := by
  split_ifs with isSource
  · trivial
  · unfold Touch.about
    split_ifs with isTarget
    · trivial
    · rcases move.ledger with ⟨_, same⟩ | ⟨_, carried⟩
      · exact congrFun same user
      · exact carried.elsewhere user isSource isTarget

theorem touched_of_exec {call : Call Address} (outsider : sender ≠ cfg.address)
    (ran : exec cfg sender c call = .ok after) :
    Touched cfg user c after (call.touch sender user) := by
  cases call with
  | deposit assets receiver =>
      exact touched_of_update (enters_of_deposit_internal outsider ran).1.ledger _ fun _ => trivial
  | mint shares receiver =>
      exact touched_of_update (enters_of_deposit_internal outsider ran).1.ledger _ fun _ => trivial
  | withdraw assets receiver owner =>
      simp only [exec, withdraw, bind_ok_iff, require_ok_iff, exists_const] at ran
      exact (leaves_of_withdraw_internal ran.2).touched
  | redeem shares receiver owner =>
      simp only [exec, redeem, bind_ok_iff, require_ok_iff, exists_const] at ran
      exact (leaves_of_withdraw_internal ran.2).touched
  | borrow amount =>
      simp only [exec, borrow, bind_ok_iff] at ran
      obtain ⟨_, _, ran⟩ := ran
      exact (settles_of_borrow_internal ran).touched
  | borrowFor onBehalfOf amount => exact (settles_of_borrow_for ran).touched
  | approveBorrowDelegate delegate amount =>
      simp only [exec, approveBorrowDelegate, bind_ok_iff, require_ok_iff, exists_const,
        Except.ok.injEq] at ran
      obtain ⟨_, rfl⟩ := ran
      rfl
  | repay amount onBehalfOf => exact congrFun (keeps_of_repay outsider ran).ledger user
  | liquidate other repayAmount =>
      obtain ⟨_, _, move⟩ := leaves_of_liquidate outsider ran
      exact move.touched
  | writeOffBadDebt other =>
      rcases leaves_of_write_off ran with ⟨_, move⟩ | ⟨_, move⟩
      · exact move.touched
      · exact touched_of_update move.ledger _ fun _ => trivial
  | settle other => exact (settles_of_settle ran).touched
  | transfer target value => exact (carries_of_transfer ran).touched
  | transferFrom source target value => exact (carries_of_transfer_from ran).touched
  | approve spender value => exact congrFun (keeps_of_approve cfg ran).ledger user
  | guard call =>
      simp only [exec, guard, bind_ok_iff, Except.ok.injEq] at ran
      obtain ⟨_, _, rfl⟩ := ran
      rfl

theorem touched_of_step {action : Action Address}
    (taken : (machine cfg).step c action after) :
    Touched cfg user c after (action.touch user) := by
  obtain ⟨external, ran⟩ := taken
  cases action with
  | vault sender call => exact touched_of_exec external.1 ran
  | pool sender call => exact congrFun (keeps_of_exec_pool external ran).1.ledger user
  | asset sender call =>
      simp only [act, Chain.pay_ok_iff] at ran
      obtain ⟨_, _, rfl⟩ := ran
      rfl
  | wait seconds =>
      cases ran
      rfl

omit [Zero Address] in
theorem duration_of_settles {action : Action Address} (settles : action.touch user = .settles) :
    action.duration = 0 := by
  cases action with
  | wait seconds => cases settles
  | vault sender call => rfl
  | pool sender call => rfl
  | asset sender call => rfl

end Touch

/-! ## Checkpoints -/

/-- A position last settled in the past, earning at the vault's rate. -/
structure Checkpointed (cfg : Config Address) (timestamp : Nat) (position : Position) :
    Prop where
  start_le : position.startTime ≤ timestamp
  rate_eq : position.principal = 0 ∨ position.rate = cfg.yieldRatePerSecond

/-- The yield of `principal` over some seconds, in units of `1 / WAD`. -/
def earned (cfg : Config Address) (principal seconds : Nat) : Nat :=
  principal * (cfg.yieldRatePerSecond * seconds)

section Checkpoints

variable {cfg : Config Address} {timestamp : Nat} {position : Position}

omit [DecidableEq Address] in
theorem checkpointed_empty (cfg : Config Address) (timestamp : Nat) :
    Checkpointed cfg timestamp Position.empty := ⟨Nat.zero_le _, .inl rfl⟩

omit [DecidableEq Address] in
theorem checkpointed_settled (cfg : Config Address) (position : Position) (timestamp : Nat) :
    Checkpointed cfg timestamp (position.settled cfg timestamp) := ⟨Nat.le_refl _, .inr rfl⟩

omit [DecidableEq Address] in
theorem checkpointed_reduced (cfg : Config Address) (position : Position)
    (timestamp shares total : Nat) :
    Checkpointed cfg timestamp ((position.settled cfg timestamp).reduced shares total) := by
  unfold Position.reduced
  split_ifs
  · exact checkpointed_empty cfg timestamp
  · exact ⟨Nat.le_refl _, .inr rfl⟩

omit [DecidableEq Address] in
theorem Checkpointed.later (checkpointed : Checkpointed cfg timestamp position) {later : Nat}
    (le : timestamp ≤ later) : Checkpointed cfg later position :=
  ⟨checkpointed.start_le.trans le, checkpointed.rate_eq⟩

omit [DecidableEq Address] in
theorem Checkpointed.accrued_eq (checkpointed : Checkpointed cfg timestamp position) :
    position.accruedYield timestamp =
      earned cfg position.principal (timestamp - position.startTime) / WAD := by
  unfold Position.accruedYield earned
  split_ifs with idle
  · rcases idle with none | none
    · simp [none]
    · simp [none]
  · rcases checkpointed.rate_eq with none | same
    · exact absurd (.inr none) idle
    · rw [same]
      rfl

end Checkpoints

section Reachable

variable {cfg : Config Address} {c after : Chain Address}

theorem checkpointed_of_share_move {action : Action Address} {user : Address}
    (before : Checkpointed cfg c.timestamp (c.vault.positions user))
    (move : ShareMove cfg c action after) :
    Checkpointed cfg c.timestamp (after.vault.positions user) := by
  have of_update : ∀ owner position,
      after.vault.positions = Function.update c.vault.positions owner position →
      Checkpointed cfg c.timestamp position →
      Checkpointed cfg c.timestamp (after.vault.positions user) := by
    intro owner position ledger checkpointed
    rw [ledger]
    by_cases same : user = owner
    · rw [same, Function.update_self]
      exact checkpointed
    · rw [Function.update_of_ne same]
      exact before
  cases move with
  | enters _ _ move => exact of_update _ _ move.ledger ⟨Nat.le_refl _, .inr rfl⟩
  | leaves _ move => exact of_update _ _ move.ledger (checkpointed_reduced cfg _ _ _ _)
  | keeps move =>
      rw [move.ledger]
      exact before
  | settles move => exact of_update _ _ move.ledger (checkpointed_settled cfg _ _)
  | @carries source target value move =>
      rcases move.ledger with ⟨_, same⟩ | ⟨_, carried⟩
      · rw [same]
        exact before
      · by_cases isSource : user = source
        · rw [isSource, carried.at_source]
          exact checkpointed_reduced cfg _ _ _ _
        by_cases isTarget : user = target
        · rw [isTarget, carried.at_target]
          exact ⟨Nat.le_refl _, .inr rfl⟩
        · rw [carried.elsewhere user isSource isTarget]
          exact before

theorem checkpointed_of_reachable [Fintype Address] (reached : (machine cfg).Reachable c)
    (user : Address) : Checkpointed cfg c.timestamp (c.vault.positions user) := by
  apply reached.invariant (fun c => Checkpointed cfg c.timestamp (c.vault.positions user))
  · intro state start
    obtain ⟨guardian, fresh⟩ := start.fresh
    rw [fresh]
    exact checkpointed_empty cfg state.timestamp
  · intro state action next before checkpointed taken
    have custody := custody_of_reachable before
    have moved := checkpointed_of_share_move checkpointed (share_move_of_step custody taken).1
    apply moved.later
    rw [timestamp_of_step taken]
    exact Nat.le_add_right _ _

end Reachable

/-! ## Runs that only settle -/

/-- The seconds between the settlements of `user` in a run, from `elapsed`
seconds after the last one before it, and the seconds left at its end. -/
def intervals (user : Address) : Nat → List (Action Address) → List Nat
  | elapsed, [] => [elapsed]
  | elapsed, action :: rest =>
      match action.touch user with
      | .settles => elapsed :: intervals user 0 rest
      | .spares | .changes => intervals user (elapsed + action.duration) rest

def intervalsFrom (c : Chain Address) (user : Address) (actions : List (Action Address)) :
    List Nat :=
  intervals user (c.timestamp - (c.vault.positions user).startTime) actions

/-- What the divisions of a cadence drop, in units of `1 / WAD`. -/
def dropped (cfg : Config Address) (c : Chain Address) (user : Address)
    (actions : List (Action Address)) : Nat :=
  ((intervalsFrom c user actions).map fun seconds =>
    earned cfg (c.vault.positions user).principal seconds % WAD).sum

/-- A run of calls from outside that settle the position of `user` at most. -/
structure OnlySettles (cfg : Config Address) (user : Address) (c after : Chain Address)
    (actions : List (Action Address)) : Prop where
  external : ∀ action ∈ actions, action.External cfg
  settling : ∀ action ∈ actions, action.touch user ≠ .changes
  ran : Machine.replay (act cfg) c actions = .ok after

section Runs

variable {cfg : Config Address} {c after : Chain Address} {user : Address}
  {actions : List (Action Address)}

theorem OnlySettles.cons {action : Action Address} {rest : List (Action Address)}
    (run : OnlySettles cfg user c after (action :: rest)) :
    ∃ next, (machine cfg).step c action next ∧ action.touch user ≠ .changes ∧
      OnlySettles cfg user next after rest := by
  obtain ⟨next, taken, ran⟩ := Machine.replay_cons_ok_iff.1 run.ran
  refine ⟨next, ⟨run.external action List.mem_cons_self, taken⟩,
    run.settling action List.mem_cons_self, ?_, ?_, ran⟩
  · intro other member
    exact run.external other (List.mem_cons_of_mem action member)
  · intro other member
    exact run.settling other (List.mem_cons_of_mem action member)

/-- A run that only settles adds the yield of each interval, rounded down, and
its intervals make up the time since the last settlement before it. -/
theorem OnlySettles.ledger (run : OnlySettles cfg user c after actions)
    (before : Checkpointed cfg c.timestamp (c.vault.positions user)) :
    totalLedgerValue after user =
        (c.vault.positions user).principal + (c.vault.positions user).settledYield +
          ((intervalsFrom c user actions).map fun seconds =>
            earned cfg (c.vault.positions user).principal seconds / WAD).sum ∧
      (c.vault.positions user).startTime + (intervalsFrom c user actions).sum =
        after.timestamp := by
  have started := before.start_le
  unfold intervalsFrom
  induction actions generalizing c with
  | nil =>
      obtain rfl : c = after := Except.ok.inj run.ran
      simp [intervals, totalLedgerValue, accruedYield, before.accrued_eq, started]
  | cons action rest ih =>
      obtain ⟨next, taken, kept, run⟩ := run.cons
      have time := timestamp_of_step taken
      have touched : Touched cfg user c next (action.touch user) := touched_of_step taken
      unfold intervals
      cases touch : action.touch user with
      | changes => exact absurd touch kept
      | spares =>
          rw [touch] at touched
          have same : next.vault.positions user = c.vault.positions user := touched
          have later : Checkpointed cfg next.timestamp (next.vault.positions user) := by
            rw [same]
            apply before.later
            omega
          have elapsed : next.timestamp - (c.vault.positions user).startTime =
              c.timestamp - (c.vault.positions user).startTime + action.duration := by omega
          have tail := ih run later later.start_le
          rw [same, elapsed] at tail
          exact tail
      | settles =>
          rw [touch] at touched
          have settled : next.vault.positions user = settledPosition cfg c user := touched
          have now : next.timestamp = c.timestamp := by
            rw [time, duration_of_settles touch, Nat.add_zero]
          have later : Checkpointed cfg next.timestamp (next.vault.positions user) := by
            rw [settled, now]
            exact checkpointed_settled cfg _ _
          have elapsed : next.timestamp - (settledPosition cfg c user).startTime = 0 := by
            rw [now]
            exact Nat.sub_self c.timestamp
          have banked : (settledPosition cfg c user).settledYield =
              (c.vault.positions user).settledYield +
                earned cfg (c.vault.positions user).principal
                  (c.timestamp - (c.vault.positions user).startTime) / WAD := by
            rw [← before.accrued_eq]
            rfl
          have principal : (settledPosition cfg c user).principal =
              (c.vault.positions user).principal := rfl
          have start : (settledPosition cfg c user).startTime = c.timestamp := rfl
          obtain ⟨value, total⟩ := ih run later later.start_le
          rw [settled, elapsed, principal, banked] at value
          rw [settled, elapsed, start] at total
          simp only [List.map_cons, List.sum_cons]
          constructor
          · omega
          · omega

omit [Zero Address] in
theorem intervals_of_spared (spared : ∀ action ∈ actions, action.touch user = .spares)
    (elapsed : Nat) : ∃ total, intervals user elapsed actions = [total] := by
  induction actions generalizing elapsed with
  | nil => exact ⟨elapsed, rfl⟩
  | cons action rest ih =>
      simp only [intervals, spared action List.mem_cons_self]
      apply ih
      intro other member
      exact spared other (List.mem_cons_of_mem action member)

omit [DecidableEq Address] in
theorem sum_earned (cfg : Config Address) (principal : Nat) (gaps : List Nat) :
    (gaps.map (earned cfg principal)).sum = earned cfg principal gaps.sum := by
  induction gaps with
  | nil => simp [earned]
  | cons head tail ih =>
      simp only [List.map_cons, List.sum_cons, ih, earned]
      ring

/-- A run that never settles is worth more by the remainders that a run of the
same length drops. -/
theorem OnlySettles.ledger_add_dropped (run : OnlySettles cfg user c after actions)
    {idle : List (Action Address)} {bare : Chain Address}
    (idled : OnlySettles cfg user c bare idle)
    (spared : ∀ action ∈ idle, action.touch user = .spares)
    (sameTime : after.timestamp = bare.timestamp)
    (before : Checkpointed cfg c.timestamp (c.vault.positions user)) :
    totalLedgerValue bare user =
      totalLedgerValue after user + dropped cfg c user actions / WAD := by
  obtain ⟨settledValue, settledTime⟩ := run.ledger before
  obtain ⟨bareValue, bareTime⟩ := idled.ledger before
  obtain ⟨total, single⟩ : ∃ total, intervalsFrom c user idle = [total] :=
    intervals_of_spared spared _
  rw [single] at bareValue bareTime
  simp only [List.map_cons, List.map_nil, List.sum_cons, List.sum_nil, Nat.add_zero]
    at bareValue bareTime
  have sameTotal : total = (intervalsFrom c user actions).sum := by omega
  have split := sum_div_eq ((intervalsFrom c user actions).map
    (earned cfg (c.vault.positions user).principal)) wad_pos
  rw [sum_earned, ← sameTotal, List.map_map, List.map_map] at split
  rw [bareValue, split, settledValue, ← Nat.add_assoc]
  rfl

end Runs

/-! ## When a cadence is neutral -/

/-- The ledger value is the same to within one unit, and so is what it lets the
user borrow, where nothing else limits that. -/
structure CadenceNeutral (cfg : Config Address) (user : Address)
    (settled bare : Chain Address) : Prop where
  ledger_le : totalLedgerValue settled user ≤ totalLedgerValue bare user + 1
  ledger_ge : totalLedgerValue bare user ≤ totalLedgerValue settled user + 1
  capacity_ge : lienOf cfg settled user = lienOf cfg bare user →
    convertToAssets cfg settled (balanceOf settled user) =
      convertToAssets cfg bare (balanceOf bare user) →
    maxBorrowable cfg bare user ≤ maxBorrowable cfg settled user + 1

section Neutrality

variable {cfg : Config Address} {user : Address} {settled bare : Chain Address}

omit [DecidableEq Address] in
theorem max_borrowable_le (ledger : totalLedgerValue bare user ≤ totalLedgerValue settled user + 1)
    (lien : lienOf cfg settled user = lienOf cfg bare user)
    (worth : convertToAssets cfg settled (balanceOf settled user) =
      convertToAssets cfg bare (balanceOf bare user)) :
    maxBorrowable cfg bare user ≤ maxBorrowable cfg settled user + 1 := by
  have collateral : collateralValue cfg bare user ≤ collateralValue cfg settled user + 1 := by
    unfold collateralValue
    rw [worth]
    omega
  have ltv : cfg.maxLTV ≤ WAD := (cfg.max_ltv_lt_threshold.trans cfg.threshold_lt_wad).le
  have ceiling : mulDiv (collateralValue cfg bare user) cfg.maxLTV WAD ≤
      mulDiv (collateralValue cfg settled user) cfg.maxLTV WAD + 1 :=
    (mul_div_mono collateral _ _).trans (mul_div_succ_le _ ltv wad_pos)
  simp only [maxBorrowable, lien]
  split_ifs <;> omega

/-- Settling on the way is neutral exactly when the remainders it drops come to
less than two units, whatever else happens in the meantime. -/
theorem cadence_neutral_iff [Fintype Address] (cfg : Config Address) (c : Chain Address)
    (reached : (machine cfg).Reachable c) (user : Address)
    (actions idle : List (Action Address)) (after bare : Chain Address)
    (run : OnlySettles cfg user c after actions) (idled : OnlySettles cfg user c bare idle)
    (spared : ∀ action ∈ idle, action.touch user = .spares)
    (sameTime : after.timestamp = bare.timestamp) :
    CadenceNeutral cfg user after bare ↔ dropped cfg c user actions < 2 * WAD := by
  have value := run.ledger_add_dropped idled spared sameTime (checkpointed_of_reachable reached user)
  have few : dropped cfg c user actions / WAD < 2 ↔ dropped cfg c user actions < 2 * WAD :=
    Nat.div_lt_iff_lt_mul wad_pos
  rw [← few]
  generalize dropped cfg c user actions / WAD = lost at value
  constructor
  · intro neutral
    have close := neutral.ledger_ge
    omega
  · intro small
    have close : totalLedgerValue bare user ≤ totalLedgerValue after user + 1 := by omega
    exact ⟨by omega, close, max_borrowable_le close⟩

end Neutrality

/-! ## A cadence that is not -/

section Sample

/-- A small position, beside a gift that makes its shares worth more than its ledger. -/
def smallPositionRun : List (Action (Fin 8)) :=
  [.pool 6 (.setBorrowModule 5), .vault 2 (.deposit (10 ^ 7) 2), .asset 3 (.transfer 5 (10 ^ 6))]

def grind (seconds : Nat) : List (Action (Fin 8)) :=
  (List.replicate seconds [.wait 1, .vault 4 (.settle 2)]).flatten

/-- A settlement by a stranger, and another deposit, on the way drop a third of a
unit, and nobody is the worse for it. -/
theorem cadence_neutral_settled_once :
    ∃ c after bare, OnlySettles (smallVault 0) 2 c after
        [.wait 10, .vault 4 (.settle 2), .vault 3 (.deposit 5 3), .wait 10] ∧
      OnlySettles (smallVault 0) 2 c bare [.wait 20] ∧
      CadenceNeutral (smallVault 0) 2 after bare := by
  obtain ⟨c, reached, checked⟩ := reachable_of_replay 0 (fun _ _ => True) smallPositionRun
    (fun c => passes (Machine.replay (act (smallVault 0)) c
        [.wait 10, .vault 4 (.settle 2), .vault 3 (.deposit 5 3), .wait 10])
        (fun after => after.timestamp = c.timestamp + 20 ∧ dropped (smallVault 0) c 2
          [.wait 10, .vault 4 (.settle 2), .vault 3 (.deposit 5 3), .wait 10] < 2 * WAD))
    (by decide) (by decide +kernel)
  obtain ⟨after, ran, passed⟩ := exists_of_passes _ checked
  obtain ⟨time, small⟩ := of_decide_eq_true passed
  have run : OnlySettles (smallVault 0) 2 c after _ := ⟨by decide, by decide, ran⟩
  have idled : OnlySettles (smallVault 0) 2 c _ [.wait 20] := ⟨by decide, by decide, rfl⟩
  exact ⟨c, after, _, run, idled, (cadence_neutral_iff _ c reached.of_restrict 2 _ _ _ _ run idled
    (by decide) time).mpr small⟩

/-- Twenty settlements of one second each lose six units, and three units of
borrowing capacity. -/
theorem cadence_lowers_ledger :
    ∃ c after bare, (machine (smallVault 0)).Reachable c ∧
      OnlySettles (smallVault 0) 2 c after (grind 20) ∧
      OnlySettles (smallVault 0) 2 c bare [.wait 20] ∧
      after.timestamp = bare.timestamp ∧
      totalLedgerValue after 2 + 6 = totalLedgerValue bare 2 ∧
      maxBorrowable (smallVault 0) after 2 + 3 = maxBorrowable (smallVault 0) bare 2 := by
  obtain ⟨c, reached, checked⟩ := reachable_of_replay 0 (fun _ _ => True) smallPositionRun
    (fun c => passes (Machine.replay (act (smallVault 0)) c (grind 20)) fun after =>
      passes (Machine.replay (act (smallVault 0)) c [.wait 20]) fun bare =>
        after.timestamp = bare.timestamp ∧
        totalLedgerValue after 2 + 6 = totalLedgerValue bare 2 ∧
        maxBorrowable (smallVault 0) after 2 + 3 = maxBorrowable (smallVault 0) bare 2)
    (by decide) (by decide +kernel)
  obtain ⟨after, ran, checked⟩ := exists_of_passes _ checked
  obtain ⟨bare, idled, checked⟩ := exists_of_passes _ checked
  exact ⟨c, after, bare, reached.of_restrict, ⟨by decide, by decide, ran⟩,
    ⟨by decide, by decide, idled⟩, of_decide_eq_true checked⟩

end Sample

end Vault

end Ghoststake
