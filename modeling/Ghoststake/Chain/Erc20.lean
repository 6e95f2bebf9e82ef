import Ghoststake.Chain.Revert
import Ghoststake.Library.Checked
import Ghoststake.Library.PointSums
import Mathlib

/-!
# A plain ERC-20

OpenZeppelin's `ERC20`, which is both the "plain ERC-20" the contracts assume
of their asset and the base of the vault's own shares. Amounts are natural
numbers: a sum the chain would refuse for passing 2^256 is not refused here.
-/

namespace Ghoststake

set_option autoImplicit false

open Checked

structure Erc20 (Address : Type) where
  balanceOf : Address → Nat
  allowance : Address → Address → Nat
  totalSupply : Nat

namespace Erc20

variable {Address : Type}

def empty : Erc20 Address where
  balanceOf _ := 0
  allowance _ _ := 0
  totalSupply := 0

variable [DecidableEq Address]

def credited (token : Erc20 Address) (account : Address) (value : Nat) : Erc20 Address :=
  { token with
    balanceOf := Function.update token.balanceOf account (token.balanceOf account + value) }

def debited (token : Erc20 Address) (account : Address) (value : Nat) : Erc20 Address :=
  { token with
    balanceOf := Function.update token.balanceOf account (token.balanceOf account - value) }

/-- The balances after a move that its guards have let through. -/
def moved (token : Erc20 Address) (source target : Address) (value : Nat) : Erc20 Address :=
  (token.debited source value).credited target value

variable [Zero Address]

/-- The first half of `_update`: the zero address as a source stands for minting. -/
def take (token : Erc20 Address) (source : Address) (value : Nat) :
    Outcome Address (Erc20 Address) :=
  if source = 0 then .ok { token with totalSupply := token.totalSupply + value }
  else do
    require (value ≤ token.balanceOf source)
      (.erc20InsufficientBalance source (token.balanceOf source) value)
    .ok (token.debited source value)

/-- The second half of `_update`: the zero address as a target stands for burning. -/
def give (token : Erc20 Address) (target : Address) (value : Nat) : Erc20 Address :=
  if target = 0 then { token with totalSupply := token.totalSupply - value }
  else token.credited target value

def update (token : Erc20 Address) (source target : Address) (value : Nat) :
    Outcome Address (Erc20 Address) := do
  let taken ← token.take source value
  .ok (taken.give target value)

def move (token : Erc20 Address) (source target : Address) (value : Nat) :
    Outcome Address (Erc20 Address) := do
  require (source ≠ 0) (.erc20InvalidSender source)
  require (target ≠ 0) (.erc20InvalidReceiver target)
  token.update source target value

/-- `_approve`, and `approve` when the owner is the caller. -/
def approve (token : Erc20 Address) (owner spender : Address) (value : Nat) :
    Outcome Address (Erc20 Address) := do
  require (owner ≠ 0) (.erc20InvalidApprover owner)
  require (spender ≠ 0) (.erc20InvalidSpender spender)
  .ok { token with
    allowance := Function.update token.allowance owner
      (Function.update (token.allowance owner) spender value) }

/-- `_spendAllowance`: the largest allowance is a standing one. -/
def spendAllowance (token : Erc20 Address) (owner spender : Address) (value : Nat) :
    Outcome Address (Erc20 Address) :=
  if token.allowance owner spender < uint256Max then do
    require (value ≤ token.allowance owner spender)
      (.erc20InsufficientAllowance spender (token.allowance owner spender) value)
    token.approve owner spender (token.allowance owner spender - value)
  else .ok token

def transferFrom (token : Erc20 Address) (spender source target : Address) (value : Nat) :
    Outcome Address (Erc20 Address) := do
  let token ← token.spendAllowance source spender value
  token.move source target value

/-- The calls anyone can make on the asset itself. `mint` is the issuer's. -/
inductive Call (Address : Type) where
  | transfer (target : Address) (value : Nat)
  | transferFrom (source target : Address) (value : Nat)
  | approve (spender : Address) (value : Nat)
  | mint (target : Address) (value : Nat)

def exec (token : Erc20 Address) (sender : Address) :
    Call Address → Outcome Address (Erc20 Address)
  | .transfer target value => token.move sender target value
  | .transferFrom source target value => token.transferFrom sender source target value
  | .approve spender value => token.approve sender spender value
  | .mint target value => do
      require (target ≠ 0) (.erc20InvalidReceiver target)
      token.update 0 target value

/-- Any number of calls on the asset, each by one of `actors`. -/
def Driven (actors : Address → Prop) : Erc20 Address → Erc20 Address → Prop :=
  Relation.ReflTransGen fun token after =>
    ∃ actor call, actors actor ∧ token.exec actor call = .ok after

/-! ## What a move does to balances -/

omit [Zero Address]

@[simp] theorem credited_balance_self (token : Erc20 Address) (account : Address)
    (value : Nat) :
    (token.credited account value).balanceOf account = token.balanceOf account + value := by
  simp [credited]

@[simp] theorem credited_balance_other (token : Erc20 Address) {account other : Address}
    (value : Nat) (distinct : other ≠ account) :
    (token.credited account value).balanceOf other = token.balanceOf other := by
  simp [credited, distinct]

@[simp] theorem debited_balance_self (token : Erc20 Address) (account : Address)
    (value : Nat) :
    (token.debited account value).balanceOf account = token.balanceOf account - value := by
  simp [debited]

@[simp] theorem debited_balance_other (token : Erc20 Address) {account other : Address}
    (value : Nat) (distinct : other ≠ account) :
    (token.debited account value).balanceOf other = token.balanceOf other := by
  simp [debited, distinct]

@[simp] theorem credited_allowance (token : Erc20 Address) (account : Address) (value : Nat) :
    (token.credited account value).allowance = token.allowance := rfl

@[simp] theorem debited_allowance (token : Erc20 Address) (account : Address) (value : Nat) :
    (token.debited account value).allowance = token.allowance := rfl

@[simp] theorem moved_allowance (token : Erc20 Address) (source target : Address)
    (value : Nat) : (token.moved source target value).allowance = token.allowance := rfl

@[simp] theorem credited_total_supply (token : Erc20 Address) (account : Address)
    (value : Nat) : (token.credited account value).totalSupply = token.totalSupply := rfl

@[simp] theorem debited_total_supply (token : Erc20 Address) (account : Address)
    (value : Nat) : (token.debited account value).totalSupply = token.totalSupply := rfl

@[simp] theorem moved_total_supply (token : Erc20 Address) (source target : Address)
    (value : Nat) : (token.moved source target value).totalSupply = token.totalSupply := rfl

theorem moved_balance_source (token : Erc20 Address) {source target : Address} (value : Nat)
    (distinct : source ≠ target) :
    (token.moved source target value).balanceOf source = token.balanceOf source - value := by
  simp [moved, distinct]

theorem moved_balance_target (token : Erc20 Address) {source target : Address} (value : Nat)
    (distinct : source ≠ target) :
    (token.moved source target value).balanceOf target = token.balanceOf target + value := by
  simp [moved, distinct.symm]

theorem moved_balance_other (token : Erc20 Address) {source target other : Address}
    (value : Nat) (notSource : other ≠ source) (notTarget : other ≠ target) :
    (token.moved source target value).balanceOf other = token.balanceOf other := by
  simp [moved, notSource, notTarget]

theorem moved_balance_same (token : Erc20 Address) {source : Address} {value : Nat}
    (funded : value ≤ token.balanceOf source) :
    (token.moved source source value).balanceOf = token.balanceOf := by
  funext account
  by_cases same : account = source
  · subst same
    simp [moved]
    omega
  · exact moved_balance_other token value same same

theorem moved_balance_debit (token : Erc20 Address) (account target : Address) {value : Nat}
    (funded : value ≤ token.balanceOf account) :
    token.balanceOf account ≤ (token.moved account target value).balanceOf account + value := by
  by_cases own : account = target
  · subst own
    rw [moved_balance_same token funded]
    omega
  · rw [moved_balance_source token value own]
    omega

/-- Balances after a move depend on the balances before it only. -/
theorem moved_balance_congr {token other : Erc20 Address}
    (same : token.balanceOf = other.balanceOf) (source target : Address) (value : Nat) :
    (token.moved source target value).balanceOf =
      (other.moved source target value).balanceOf := by
  simp only [moved, credited, debited, same]

theorem moved_zero (token : Erc20 Address) (source target : Address) :
    (token.moved source target 0).balanceOf = token.balanceOf := by
  simp [moved, debited, credited]

theorem moved_balance_ge (token : Erc20 Address) {source target other : Address}
    (value : Nat) (notSource : other ≠ source) :
    token.balanceOf other ≤ (token.moved source target value).balanceOf other := by
  by_cases isTarget : other = target
  · subst isTarget
    rw [moved_balance_target token value notSource.symm]
    omega
  · rw [moved_balance_other token value notSource isTarget]

/-- What everybody has after a move, the two parties being one account or not. -/
theorem moved_balances (token : Erc20 Address) (source target : Address) {value : Nat}
    (funded : value ≤ token.balanceOf source) (account : Address) :
    (token.moved source target value).balanceOf account + (if account = source then value else 0) =
      token.balanceOf account + if account = target then value else 0 := by
  by_cases own : source = target
  · rw [own] at funded ⊢
    rw [moved_balance_same token funded]
  · by_cases payer : account = source
    · rw [payer, if_pos rfl, if_neg own, moved_balance_source token value own, Nat.add_zero]
      exact Nat.sub_add_cancel funded
    · rw [if_neg payer, Nat.add_zero]
      by_cases payee : account = target
      · rw [payee, if_pos rfl, moved_balance_target token value own]
      · rw [if_neg payee, moved_balance_other token value payer payee, Nat.add_zero]

theorem moved_sum [Fintype Address] (token : Erc20 Address) {source target : Address}
    {value : Nat} (funded : value ≤ token.balanceOf source) :
    ∑ account, (token.moved source target value).balanceOf account =
      ∑ account, token.balanceOf account := by
  have debit := PointSums.sum_debit token.balanceOf source funded
  have credit := PointSums.sum_credit (token.debited source value).balanceOf target value
  have unfoldMoved : (token.moved source target value).balanceOf =
      Function.update (token.debited source value).balanceOf target
        ((token.debited source value).balanceOf target + value) := rfl
  have unfoldDebited : (token.debited source value).balanceOf =
      Function.update token.balanceOf source (token.balanceOf source - value) := rfl
  rw [unfoldMoved, credit, unfoldDebited]
  exact debit

/-- What is left of the allowances once `spender` has spent `value` of `owner`. -/
def allowanceAfter (token : Erc20 Address) (owner spender : Address) (value : Nat) :
    Address → Address → Nat :=
  if token.allowance owner spender < uint256Max then
    Function.update token.allowance owner
      (Function.update (token.allowance owner) spender (token.allowance owner spender - value))
  else token.allowance

theorem allowance_after_le (token : Erc20 Address) (owner spender : Address) (value : Nat)
    (a b : Address) : token.allowanceAfter owner spender value a b ≤ token.allowance a b := by
  unfold allowanceAfter
  split_ifs
  · by_cases sameOwner : a = owner
    · subst sameOwner
      by_cases sameSpender : b = spender
      · subst sameSpender
        simp
      · simp [sameSpender]
    · simp [sameOwner]
  · exact Nat.le_refl _

theorem allowance_after_other (token : Erc20 Address) {owner spender other : Address}
    (value : Nat) (distinct : other ≠ owner) :
    token.allowanceAfter owner spender value other = token.allowance other := by
  unfold allowanceAfter
  split_ifs <;> simp [distinct]

theorem allowance_after_other_spender (token : Erc20 Address) (owner : Address)
    {spender other : Address} (value : Nat) (account : Address) (distinct : other ≠ spender) :
    token.allowanceAfter owner spender value account other = token.allowance account other := by
  unfold allowanceAfter
  split_ifs
  · by_cases same : account = owner
    · subst same
      simp [distinct]
    · simp [same]
  · rfl

/-! ## Successful calls -/

variable [Zero Address]

theorem take_ok_iff (token after : Erc20 Address) {source : Address} (live : source ≠ 0)
    (value : Nat) :
    token.take source value = .ok after ↔
      value ≤ token.balanceOf source ∧ token.debited source value = after := by
  simp [take, live]

theorem move_ok_iff (token after : Erc20 Address) (source target : Address) (value : Nat) :
    token.move source target value = .ok after ↔
      source ≠ 0 ∧ target ≠ 0 ∧ value ≤ token.balanceOf source ∧
        after = token.moved source target value := by
  simp only [move, update, bind_ok_iff, require_ok_iff, exists_const, Except.ok.injEq]
  constructor
  · rintro ⟨sourceLive, targetLive, mid, taken, rfl⟩
    obtain ⟨funded, rfl⟩ := (take_ok_iff token mid sourceLive value).1 taken
    exact ⟨sourceLive, targetLive, funded, if_neg targetLive⟩
  · rintro ⟨sourceLive, targetLive, funded, rfl⟩
    exact ⟨sourceLive, targetLive, token.debited source value,
      (take_ok_iff token _ sourceLive value).2 ⟨funded, rfl⟩, if_neg targetLive⟩

theorem spend_allowance_ok_iff (token after : Erc20 Address) (owner spender : Address)
    (value : Nat) :
    token.spendAllowance owner spender value = .ok after ↔
      (uint256Max ≤ token.allowance owner spender ∨
        value ≤ token.allowance owner spender ∧ owner ≠ 0 ∧ spender ≠ 0) ∧
      after = { token with allowance := token.allowanceAfter owner spender value } := by
  unfold spendAllowance allowanceAfter
  split_ifs with bounded
  · simp only [approve, bind_ok_iff, require_ok_iff, exists_const, Except.ok.injEq]
    constructor
    · rintro ⟨enough, ownerLive, spenderLive, rfl⟩
      exact ⟨.inr ⟨enough, ownerLive, spenderLive⟩, rfl⟩
    · rintro ⟨standing | ⟨enough, ownerLive, spenderLive⟩, rfl⟩
      · omega
      · exact ⟨enough, ownerLive, spenderLive, rfl⟩
  · simp only [Except.ok.injEq]
    constructor
    · rintro rfl
      exact ⟨.inl (by omega), rfl⟩
    · rintro ⟨_, rfl⟩
      rfl

theorem transfer_from_ok_iff (token after : Erc20 Address) (spender source target : Address)
    (value : Nat) :
    token.transferFrom spender source target value = .ok after ↔
      (uint256Max ≤ token.allowance source spender ∨
        value ≤ token.allowance source spender ∧ source ≠ 0 ∧ spender ≠ 0) ∧
      source ≠ 0 ∧ target ≠ 0 ∧ value ≤ token.balanceOf source ∧
      after = { token.moved source target value with
        allowance := token.allowanceAfter source spender value } := by
  simp only [transferFrom, bind_ok_iff, spend_allowance_ok_iff, move_ok_iff]
  constructor
  · rintro ⟨mid, ⟨allowed, rfl⟩, sourceLive, targetLive, funded, rfl⟩
    exact ⟨allowed, sourceLive, targetLive, funded, rfl⟩
  · rintro ⟨allowed, sourceLive, targetLive, funded, rfl⟩
    exact ⟨_, ⟨allowed, rfl⟩, sourceLive, targetLive, funded, rfl⟩

theorem mint_ok_iff (token after : Erc20 Address) {target : Address} (live : target ≠ 0)
    (value : Nat) :
    token.update 0 target value = .ok after ↔
      { token.credited target value with totalSupply := token.totalSupply + value } = after := by
  simp only [update, take, give, if_true, if_neg live, ok_bind, Except.ok.injEq]
  rfl

theorem burn_ok_iff (token after : Erc20 Address) {source : Address} (live : source ≠ 0)
    (value : Nat) :
    token.update source 0 value = .ok after ↔ value ≤ token.balanceOf source ∧
      { token.debited source value with totalSupply := token.totalSupply - value } = after := by
  simp only [update, bind_ok_iff, take_ok_iff _ _ live, Except.ok.injEq, give, if_true]
  constructor
  · rintro ⟨mid, ⟨funded, rfl⟩, same⟩
    exact ⟨funded, same⟩
  · rintro ⟨funded, same⟩
    exact ⟨_, ⟨funded, rfl⟩, same⟩

theorem approves (token : Erc20 Address) {owner spender : Address} (ownerLive : owner ≠ 0)
    (spenderLive : spender ≠ 0) (value : Nat) :
    ∃ after, token.approve owner spender value = .ok after ∧
      after.balanceOf = token.balanceOf ∧ after.allowance owner spender = value := by
  simp only [approve, bind_ok_iff, require_ok_iff, exists_const, Except.ok.injEq]
  exact ⟨_, ⟨ownerLive, spenderLive, rfl⟩, rfl, by simp⟩

/-! ## A transfer never panics -/

theorem move_avoids_arithmetic (token : Erc20 Address) (source target : Address) (value : Nat) :
    token.move source target value ≠ .error .arithmetic := by
  refine guard_avoids (by simp) fun sourceLive => guard_avoids (by simp) fun _ => ?_
  rw [update, take, if_neg sourceLive]
  refine bind_avoids (guard_avoids (by simp) fun _ => ?_) fun _ _ => ?_
  · nofun
  · nofun

theorem transfer_from_avoids_arithmetic (token : Erc20 Address)
    (spender source target : Address) (value : Nat) :
    token.transferFrom spender source target value ≠ .error .arithmetic := by
  refine bind_avoids ?_ fun spent _ => move_avoids_arithmetic spent source target value
  unfold spendAllowance
  split_ifs
  · refine guard_avoids (by simp) fun _ => ?_
    refine guard_avoids (by simp) fun _ => guard_avoids (by simp) fun _ => ?_
    nofun
  · nofun

/-! ## What a contract does to an asset -/

section Driven

variable {actors others : Address → Prop} {token after : Erc20 Address} {actor : Address}

theorem Driven.refl (actors : Address → Prop) (token : Erc20 Address) :
    Driven actors token token := Relation.ReflTransGen.refl

theorem Driven.trans {mid : Erc20 Address} (left : Driven actors token mid)
    (right : Driven actors mid after) : Driven actors token after :=
  Relation.ReflTransGen.trans left right

theorem Driven.mono (wider : ∀ actor, actors actor → others actor)
    (driven : Driven actors token after) : Driven others token after := by
  induction driven with
  | refl => exact .refl others token
  | tail _ taken ih =>
      obtain ⟨actor, call, admitted, ran⟩ := taken
      exact ih.tail ⟨actor, call, wider actor admitted, ran⟩

theorem Driven.move {target : Address} {value : Nat} (admitted : actors actor)
    (ran : token.move actor target value = .ok after) : Driven actors token after :=
  Relation.ReflTransGen.single ⟨actor, .transfer target value, admitted, ran⟩

theorem Driven.transfer_from {source target : Address} {value : Nat} (admitted : actors actor)
    (ran : token.transferFrom actor source target value = .ok after) :
    Driven actors token after :=
  Relation.ReflTransGen.single ⟨actor, .transferFrom source target value, admitted, ran⟩

theorem Driven.approve {spender : Address} {value : Nat} (admitted : actors actor)
    (ran : token.approve actor spender value = .ok after) : Driven actors token after :=
  Relation.ReflTransGen.single ⟨actor, .approve spender value, admitted, ran⟩

end Driven

/-! ## Outsiders -/

/-- No call on the asset by an outsider takes anything from an account that
has approved nobody, and none gives it an allowance. -/
theorem exec_keeps_unapproved {token after : Erc20 Address} {sender account : Address}
    {call : Call Address} (outsider : sender ≠ account)
    (unapproved : ∀ spender, spender = sender → token.allowance account spender = 0)
    (ran : token.exec sender call = .ok after) :
    token.balanceOf account ≤ after.balanceOf account ∧
      after.allowance account = token.allowance account := by
  cases call with
  | transfer target value =>
      obtain ⟨_, _, _, rfl⟩ := (move_ok_iff _ _ _ _ _).1 ran
      exact ⟨moved_balance_ge token value outsider.symm, rfl⟩
  | transferFrom source target value =>
      obtain ⟨allowed, _, _, funded, rfl⟩ := (transfer_from_ok_iff _ _ _ _ _ _).1 ran
      by_cases isSource : account = source
      · subst isSource
        have none := unapproved sender rfl
        have positive : 0 < uint256Max := by decide
        have nothing : value = 0 := by omega
        subst nothing
        refine ⟨?_, ?_⟩
        · by_cases same : account = target
          · subst same
            rw [moved_balance_same token funded]
          · rw [moved_balance_source token 0 same]
            omega
        · funext spender
          have le := allowance_after_le token account sender 0 account spender
          by_cases same : spender = sender
          · subst same
            simp only [none, Nat.le_zero] at le ⊢
            exact le
          · exact allowance_after_other_spender token account 0 account same
      · exact ⟨moved_balance_ge token value isSource,
          allowance_after_other token value isSource⟩
  | approve spender value =>
      simp only [exec, approve, bind_ok_iff, require_ok_iff, exists_const,
        Except.ok.injEq] at ran
      obtain ⟨_, _, rfl⟩ := ran
      exact ⟨Nat.le_refl _, by simp [outsider.symm]⟩
  | mint target value =>
      simp only [exec, bind_ok_iff, require_ok_iff, exists_const] at ran
      obtain ⟨live, minted⟩ := ran
      rw [mint_ok_iff _ _ live] at minted
      subst minted
      refine ⟨?_, rfl⟩
      by_cases same : account = target
      · subst same
        simp
      · simp [same]

end Erc20

end Ghoststake
