import Ghoststake.Library.ProRata
import Ghoststake.Vault.Shares

/-!
# The ledger under transfers

Each transfer passes on the proportional part of the principal and of the
settled yield, rounded down. A sequence of transfers out of one account leaves
it the exact proportion of its ledger and the drift of those roundings.
-/

namespace Ghoststake

set_option autoImplicit false

open Checked Rounding ProRata

namespace Vault

variable {Address : Type} [DecidableEq Address] [Zero Address]

/-! ## One transfer -/

section Settled

variable {cfg : Config Address} {c after : Chain Address} {user : Address}

omit [DecidableEq Address] in
theorem total_ledger_value_eq (cfg : Config Address) (c : Chain Address) (user : Address) :
    totalLedgerValue c user =
      (settledPosition cfg c user).principal + (settledPosition cfg c user).settledYield :=
  Nat.add_assoc _ _ _

omit [DecidableEq Address] in
theorem settled_position_congr (cfg : Config Address)
    (position : after.vault.positions user = c.vault.positions user)
    (time : after.timestamp = c.timestamp) :
    settledPosition cfg after user = settledPosition cfg c user := by
  unfold settledPosition
  rw [position, time]

omit [DecidableEq Address] in
theorem settled_reduced (cfg : Config Address) (position : Position) (timestamp : Nat)
    {value shares : Nat} (fits : value ≤ shares) (some : 0 < shares) :
    (((position.settled cfg timestamp).reduced value shares).settled cfg timestamp).principal =
        kept (position.settled cfg timestamp).principal shares value ∧
      (((position.settled cfg timestamp).reduced value shares).settled cfg
          timestamp).settledYield =
        kept (position.settled cfg timestamp).settledYield shares value := by
  unfold Position.reduced
  split_ifs with whole
  · obtain rfl : value = shares := by omega
    rw [kept_whole _ some, kept_whole _ some]
    exact settled_of_empty cfg timestamp ⟨rfl, rfl⟩
  · exact settled_again cfg (Nat.sub_self timestamp)

end Settled

structure Passes (cfg : Config Address) (source target : Address) (value : Nat)
    (c after : Chain Address) : Prop where
  held : value ≤ balanceOf c source
  shares_left : balanceOf after source = balanceOf c source - value
  principal : (settledPosition cfg after source).principal =
    kept (settledPosition cfg c source).principal (balanceOf c source) value
  settled_yield : (settledPosition cfg after source).settledYield =
    kept (settledPosition cfg c source).settledYield (balanceOf c source) value
  at_target : totalLedgerValue after target = totalLedgerValue c target +
    (mulDiv (settledPosition cfg c source).principal value (balanceOf c source) +
      mulDiv (settledPosition cfg c source).settledYield value (balanceOf c source))
  elsewhere : ∀ other, other ≠ source → other ≠ target →
    totalLedgerValue after other = totalLedgerValue c other

section Passes

variable {cfg : Config Address} {c after : Chain Address} {source target : Address} {value : Nat}

theorem Carries.passes (move : Carries cfg source target value c after)
    (apart : source ≠ target) : Passes cfg source target value c after := by
  have time : after.timestamp = c.timestamp := by rw [move.lending]
  have held := move.held
  have left : balanceOf after source = balanceOf c source - value := by
    rw [move.holders]
    exact Erc20.moved_balance_source _ value apart
  rcases move.ledger with ⟨idle, same⟩ | ⟨busy, carried⟩
  · obtain rfl : value = 0 := idle.resolve_left apart
    have settled : ∀ other, settledPosition cfg after other = settledPosition cfg c other :=
      fun other => settled_position_congr cfg (congrFun same other) time
    have values : ∀ other, totalLedgerValue after other = totalLedgerValue c other := by
      intro other
      rw [total_ledger_value_eq cfg, total_ledger_value_eq cfg, settled]
    refine ⟨held, left, ?_, ?_, ?_, fun other _ _ => values other⟩
    · rw [settled, kept_none]
    · rw [settled, kept_none]
    · simp only [values, mul_div_zero_right, Nat.add_zero]
  · have something : value ≠ 0 := fun none => busy (.inr none)
    obtain ⟨principal, settledYield⟩ := settled_reduced cfg (c.vault.positions source)
      c.timestamp held (by omega)
    refine ⟨held, left, ?_, ?_, ?_, ?_⟩
    · rw [settledPosition, carried.at_source, time]
      exact principal
    · rw [settledPosition, carried.at_source, time]
      exact settledYield
    · have started : c.timestamp - (after.vault.positions target).startTime = 0 := by
        rw [carried.at_target]
        exact Nat.sub_self c.timestamp
      obtain ⟨same, sameYield⟩ := settled_again cfg started
      rw [total_ledger_value_eq cfg, total_ledger_value_eq cfg, settledPosition, time, same,
        sameYield, carried.at_target]
      simp only [Position.joined, settledPosition]
      omega
    · intro other notSource notTarget
      rw [total_ledger_value_eq cfg, total_ledger_value_eq cfg,
        settled_position_congr cfg (carried.elsewhere other notSource notTarget) time]

omit [DecidableEq Address] in
theorem Passes.at_source (move : Passes cfg source target value c after) :
    totalLedgerValue after source +
        (mulDiv (settledPosition cfg c source).principal value (balanceOf c source) +
          mulDiv (settledPosition cfg c source).settledYield value (balanceOf c source)) =
      totalLedgerValue c source := by
  have principal := kept_add_given (settledPosition cfg c source).principal move.held
  have yields := kept_add_given (settledPosition cfg c source).settledYield move.held
  rw [total_ledger_value_eq cfg, total_ledger_value_eq cfg, move.principal, move.settled_yield]
  omega

theorem Passes.total [Fintype Address] (move : Passes cfg source target value c after)
    (apart : source ≠ target) :
    ∑ user, totalLedgerValue after user = ∑ user, totalLedgerValue c user :=
  PointSums.sum_of_transfer apart move.at_source move.at_target move.elsewhere

end Passes

/-! ## Several transfers -/

/-- A call that sends shares out of an account: its own, or a spender's. -/
inductive Send (Address : Type) where
  | transfer (target : Address) (value : Nat)
  | transferFrom (spender target : Address) (value : Nat)

namespace Send

def target : Send Address → Address
  | .transfer target _ | .transferFrom _ target _ => target

def value : Send Address → Nat
  | .transfer _ value | .transferFrom _ _ value => value

def action (user : Address) : Send Address → Action Address
  | .transfer target value => .vault user (.transfer target value)
  | .transferFrom spender target value => .vault spender (.transferFrom user target value)

end Send

def sent (sends : List (Send Address)) : Nat := (sends.map Send.value).sum

/-- A sequence of transfers from `user` to others, at one timestamp. -/
structure SendsOut (cfg : Config Address) (user : Address) (c after : Chain Address)
    (sends : List (Send Address)) : Prop where
  apart : ∀ send ∈ sends, user ≠ send.target
  ran : Machine.replay (act cfg) c (sends.map (Send.action user)) = .ok after

section Runs

variable {cfg : Config Address} {c after : Chain Address} {user : Address}
  {sends : List (Send Address)}

theorem carries_of_send {send : Send Address} (ran : act cfg c (send.action user) = .ok after) :
    Carries cfg user send.target send.value c after := by
  cases send with
  | transfer target value => exact carries_of_transfer ran
  | transferFrom spender target value => exact carries_of_transfer_from ran

theorem SendsOut.cons {send : Send Address} {rest : List (Send Address)}
    (run : SendsOut cfg user c after (send :: rest)) :
    user ≠ send.target ∧ ∃ next, Passes cfg user send.target send.value c next ∧
      SendsOut cfg user next after rest := by
  obtain ⟨next, taken, ran⟩ := Machine.replay_cons_ok_iff.1 run.ran
  have apart := run.apart send List.mem_cons_self
  refine ⟨apart, next, (carries_of_send taken).passes apart, ?_, ran⟩
  intro other member
  exact run.apart other (List.mem_cons_of_mem send member)

theorem SendsOut.ledger (run : SendsOut cfg user c after sends) :
    sent sends ≤ balanceOf c user ∧
      (settledPosition cfg after user).principal =
        keptAfter (settledPosition cfg c user).principal (balanceOf c user)
          (sends.map Send.value) ∧
      (settledPosition cfg after user).settledYield =
        keptAfter (settledPosition cfg c user).settledYield (balanceOf c user)
          (sends.map Send.value) := by
  induction sends generalizing c with
  | nil =>
      obtain rfl : c = after := Except.ok.inj run.ran
      exact ⟨Nat.zero_le _, rfl, rfl⟩
  | cons send rest ih =>
      obtain ⟨_, next, move, run⟩ := run.cons
      obtain ⟨fits, principal, yields⟩ := ih run
      have held := move.held
      rw [move.shares_left] at fits principal yields
      refine ⟨?_, ?_, ?_⟩
      · simp only [sent, List.map_cons, List.sum_cons] at fits ⊢
        omega
      · rw [principal, move.principal]
        rfl
      · rw [yields, move.settled_yield]
        rfl

theorem SendsOut.total [Fintype Address] (run : SendsOut cfg user c after sends) :
    ∑ holder, totalLedgerValue after holder = ∑ holder, totalLedgerValue c holder := by
  induction sends generalizing c with
  | nil =>
      obtain rfl : c = after := Except.ok.inj run.ran
      rfl
  | cons send rest ih =>
      obtain ⟨apart, next, move, run⟩ := run.cons
      rw [ih run, move.total apart]

theorem SendsOut.bystander (run : SendsOut cfg user c after sends) {other : Address}
    (notSender : other ≠ user) (notTarget : ∀ send ∈ sends, other ≠ send.target) :
    totalLedgerValue after other = totalLedgerValue c other := by
  induction sends generalizing c with
  | nil =>
      obtain rfl : c = after := Except.ok.inj run.ran
      rfl
  | cons send rest ih =>
      obtain ⟨_, next, move, run⟩ := run.cons
      rw [ih run, move.elsewhere other notSender (notTarget send List.mem_cons_self)]
      intro later member
      exact notTarget later (List.mem_cons_of_mem send member)

/-! ## When the ledger follows -/

/-- What the sender keeps beyond its exact proportion. -/
def sentDrift (cfg : Config Address) (c : Chain Address) (user : Address)
    (sends : List (Send Address)) : ℚ :=
  drift (settledPosition cfg c user).principal (balanceOf c user) (sends.map Send.value) +
    drift (settledPosition cfg c user).settledYield (balanceOf c user) (sends.map Send.value)

/-- The sender keeps its proportion of the ledger to within one unit, and the
recipients hold the rest. -/
structure LedgerFollows [Fintype Address] (user : Address) (sends : List (Send Address))
    (c after : Chain Address) : Prop where
  ledger_le : totalLedgerValue after user * balanceOf c user ≤
    totalLedgerValue c user * (balanceOf c user - sent sends) + balanceOf c user
  ledger_ge : totalLedgerValue c user * (balanceOf c user - sent sends) ≤
    totalLedgerValue after user * balanceOf c user + balanceOf c user
  bystanders : ∀ other, other ≠ user → (∀ send ∈ sends, other ≠ send.target) →
    totalLedgerValue after other = totalLedgerValue c other
  total : ∑ holder, totalLedgerValue after holder = ∑ holder, totalLedgerValue c holder

theorem SendsOut.ledger_eq (run : SendsOut cfg user c after sends)
    (some : 0 < balanceOf c user) :
    (totalLedgerValue after user : ℚ) * balanceOf c user =
      totalLedgerValue c user * (balanceOf c user - sent sends : Nat) +
        sentDrift cfg c user sends * balanceOf c user := by
  obtain ⟨fits, principal, yields⟩ := run.ledger
  have nonzero : (balanceOf c user : ℚ) ≠ 0 := by positivity
  have keptPrincipal := kept_after_eq (settledPosition cfg c user).principal some fits
  have keptYield := kept_after_eq (settledPosition cfg c user).settledYield some fits
  rw [← principal] at keptPrincipal
  rw [← yields] at keptYield
  have before := total_ledger_value_eq cfg c user
  have later := total_ledger_value_eq cfg after user
  rw [before, later, Nat.cast_add, Nat.cast_add, keptPrincipal, keptYield, sentDrift, sent]
  field_simp
  ring

/-- The ledger follows the shares through a sequence of transfers exactly when
the drift of its roundings is at most one unit. -/
theorem ledger_follows_iff [Fintype Address] (cfg : Config Address) (c : Chain Address)
    (user : Address) (sends : List (Send Address)) (after : Chain Address)
    (run : SendsOut cfg user c after sends) :
    LedgerFollows user sends c after ↔ sentDrift cfg c user sends ≤ 1 := by
  have holds : (totalLedgerValue after user * balanceOf c user ≤
      totalLedgerValue c user * (balanceOf c user - sent sends) + balanceOf c user ∧
      totalLedgerValue c user * (balanceOf c user - sent sends) ≤
        totalLedgerValue after user * balanceOf c user + balanceOf c user) ↔
      sentDrift cfg c user sends ≤ 1 := by
    rcases Nat.eq_zero_or_pos (balanceOf c user) with none | some
    · have idle : sentDrift cfg c user sends = 0 := by
        rw [sentDrift, none, drift_of_no_shares, drift_of_no_shares, add_zero]
      simp [none, idle]
    · have positive : (0 : ℚ) < balanceOf c user := by exact_mod_cast some
      have value := run.ledger_eq some
      have drifts : 0 ≤ sentDrift cfg c user sends :=
        add_nonneg (drift_nonneg _ _ _) (drift_nonneg _ _ _)
      constructor
      · rintro ⟨le, _⟩
        have cast : (totalLedgerValue after user : ℚ) * balanceOf c user ≤
            totalLedgerValue c user * (balanceOf c user - sent sends : Nat) +
              balanceOf c user := by exact_mod_cast le
        apply le_of_mul_le_mul_right _ positive
        linarith
      · intro small
        have scaled := mul_le_mul_of_nonneg_right small positive.le
        have kept := mul_nonneg drifts positive.le
        constructor
        · have cast : (totalLedgerValue after user : ℚ) * balanceOf c user ≤
              totalLedgerValue c user * (balanceOf c user - sent sends : Nat) +
                balanceOf c user := by linarith
          exact_mod_cast cast
        · have cast : (totalLedgerValue c user : ℚ) * (balanceOf c user - sent sends : Nat) ≤
              totalLedgerValue after user * balanceOf c user + balanceOf c user := by linarith
          exact_mod_cast cast
  rw [← holds]
  constructor
  · intro follows
    exact ⟨follows.ledger_le, follows.ledger_ge⟩
  · rintro ⟨le, ge⟩
    exact ⟨le, ge, fun other => run.bystander, run.total⟩

end Runs

/-! ## Splitting a transfer -/

section Sample

/-- Two transfers, the second by a spender, drift by no more than a unit, and the
ledger follows the shares. -/
theorem ledger_follows_two_transfers :
    ∃ c after, SendsOut (smallVault 0) 2 c after
        [.transfer 3 (10 ^ 8), .transferFrom 4 1 (3 * 10 ^ 8)] ∧
      LedgerFollows 2 [.transfer 3 (10 ^ 8), .transferFrom 4 1 (3 * 10 ^ 8)] c after := by
  obtain ⟨c, _, checked⟩ := reachable_of_replay 0 (fun _ _ => True)
    [.vault 2 (.deposit 1000 2), .vault 2 (.approve 4 (3 * 10 ^ 8)), .wait (10 ^ 7)]
    (fun c => decide (sentDrift (smallVault 0) c 2
        [.transfer 3 (10 ^ 8), .transferFrom 4 1 (3 * 10 ^ 8)] ≤ 1) &&
      passes (Machine.replay (act (smallVault 0)) c (List.map (Send.action 2)
        [.transfer 3 (10 ^ 8), .transferFrom 4 1 (3 * 10 ^ 8)])) fun _ => true)
    (by decide) (by decide +kernel)
  obtain ⟨drift, ran⟩ := Bool.and_eq_true_iff.mp checked
  obtain ⟨after, ran, _⟩ := exists_of_passes _ ran
  have run : SendsOut (smallVault 0) 2 c after
      [.transfer 3 (10 ^ 8), .transferFrom 4 1 (3 * 10 ^ 8)] := ⟨by decide, ran⟩
  exact ⟨c, after, run, (ledger_follows_iff _ c 2 _ after run).mpr (of_decide_eq_true drift)⟩

/-- Sending six tenths of the shares of ten units in twenty pieces leaves all
ten units with the sender, where sending them at once leaves four. -/
theorem split_transfer_keeps_ledger :
    ∃ c after once, (machine (smallVault 0)).Reachable c ∧ lienOf (smallVault 0) c 2 = 0 ∧
      balanceOf c 2 = 10 ^ 7 ∧ totalLedgerValue c 2 = 10 ∧
      SendsOut (smallVault 0) 2 c after (List.replicate 20 (.transfer 3 300000)) ∧
      balanceOf after 2 = 4 * 10 ^ 6 ∧ totalLedgerValue after 2 = 10 ∧
      balanceOf after 3 = 6 * 10 ^ 6 ∧ totalLedgerValue after 3 = 0 ∧
      ¬LedgerFollows 2 (List.replicate 20 (.transfer 3 300000)) c after ∧
      SendsOut (smallVault 0) 2 c once [.transfer 3 6000000] ∧
      balanceOf once 2 = 4 * 10 ^ 6 ∧ totalLedgerValue once 2 = 4 := by
  obtain ⟨c, reached, checked⟩ := reachable_of_replay 0 (fun _ _ => True)
    [.pool 6 (.setBorrowModule 5), .vault 2 (.deposit 10 2)]
    (fun c => (lienOf (smallVault 0) c 2 = 0 ∧ balanceOf c 2 = 10 ^ 7 ∧
        totalLedgerValue c 2 = 10) &&
      (passes (Machine.replay (act (smallVault 0)) c (List.map (Send.action 2)
        (List.replicate 20 (.transfer 3 300000)))) fun after =>
          balanceOf after 2 = 4 * 10 ^ 6 ∧ totalLedgerValue after 2 = 10 ∧
          balanceOf after 3 = 6 * 10 ^ 6 ∧ totalLedgerValue after 3 = 0) &&
      passes (Machine.replay (act (smallVault 0)) c (List.map (Send.action 2)
        [.transfer 3 6000000])) fun once =>
          balanceOf once 2 = 4 * 10 ^ 6 ∧ totalLedgerValue once 2 = 4)
    (by decide) (by decide +kernel)
  simp only [Bool.and_eq_true] at checked
  obtain ⟨⟨before, split⟩, whole⟩ := checked
  obtain ⟨free, held, value⟩ := of_decide_eq_true before
  obtain ⟨after, ran, checked⟩ := exists_of_passes _ split
  obtain ⟨left, stuck, gone, none⟩ := of_decide_eq_true checked
  obtain ⟨once, ranOnce, checked⟩ := exists_of_passes _ whole
  obtain ⟨leftOnce, fair⟩ := of_decide_eq_true checked
  refine ⟨c, after, once, reached.of_restrict, free, held, value, ⟨by decide, ran⟩, left, stuck,
    gone, none, ?_, ⟨by decide, ranOnce⟩, leftOnce, fair⟩
  intro follows
  have le := follows.ledger_le
  have total : sent (List.replicate 20 (Send.transfer (3 : Fin 8) 300000)) = 6 * 10 ^ 6 := rfl
  rw [total, held, value, stuck] at le
  omega

end Sample

end Vault

end Ghoststake
