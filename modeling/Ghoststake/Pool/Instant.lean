import Ghoststake.Pool.FullExit

/-!
# Money moved at one instant

Supplying, withdrawing, borrowing and repaying within one block. Interest has
nothing to add between two such calls, so whatever an account gains it gains
from a rounding, from a payment made for it, or from a loan another account owes.
-/

namespace Ghoststake

set_option autoImplicit false

open Checked Rounding ScaledIndex

namespace Pool

variable {Address : Type}

inductive Move (Address : Type) where
  | supply (amount : Nat)
  | withdraw (amount : Nat)
  | borrow (amount : Nat) (onBehalfOf : Address)
  | repay (amount : Nat) (onBehalfOf : Address)

def Move.call : Move Address → Call Address
  | .supply amount => .supply amount
  | .withdraw amount => .withdraw amount
  | .borrow amount onBehalfOf => .borrow amount onBehalfOf
  | .repay amount onBehalfOf => .repay amount onBehalfOf

section Play

variable [DecidableEq Address] [Zero Address]

/-- A call in a block: one that reverts changes nothing. -/
def attempt (cfg : Config Address) (l : Lending Address) (turn : Address × Move Address) :
    Lending Address :=
  match exec cfg turn.1 l turn.2.call with
  | .ok after => after
  | .error _ => l

def play (cfg : Config Address) (l : Lending Address) (turns : List (Address × Move Address)) :
    Lending Address :=
  turns.foldl (attempt cfg) l

/-- What `account` gets at another account's expense: a repayment made for it,
or a loan drawn by it that another account owes. -/
def granted (account sender : Address) : Move Address → Nat
  | .supply _ => 0
  | .withdraw _ => 0
  | .borrow amount onBehalfOf => if account = sender ∧ account ≠ onBehalfOf then amount else 0
  | .repay amount onBehalfOf => if account = onBehalfOf ∧ account ≠ sender then amount else 0

/-- The same over a block, counting the calls that go through. -/
def grants (cfg : Config Address) (account : Address) :
    Lending Address → List (Address × Move Address) → Nat
  | _, [] => 0
  | l, turn :: rest =>
      match exec cfg turn.1 l turn.2.call with
      | .ok after => granted account turn.1 turn.2 + grants cfg account after rest
      | .error _ => grants cfg account l rest

/-- The tokens an account holds. The pool's own cash backs the claims on it and
is nobody's wallet. -/
def wallet (cfg : Config Address) (token : Erc20 Address) (account : Address) : Nat :=
  if account = cfg.address then 0 else token.balanceOf account

/-- Wallet and supply less debt. -/
def worth (cfg : Config Address) (l : Lending Address) (account : Address) : Int :=
  wallet cfg l.token account + balanceOfSupply l.pool account - balanceOfDebt l.pool account

/-- What a call moves from one account's figure to another's. -/
def shifted (account sender : Address) : Move Address → Int
  | .supply _ => 0
  | .withdraw _ => 0
  | .borrow amount onBehalfOf =>
      (if account = sender then (amount : Int) else 0) -
        if account = onBehalfOf then (amount : Int) else 0
  | .repay amount onBehalfOf =>
      (if account = onBehalfOf then (amount : Int) else 0) -
        if account = sender then (amount : Int) else 0

omit [Zero Address] in
theorem shifted_le_granted (account sender : Address) (move : Move Address) :
    shifted account sender move ≤ granted account sender move := by
  cases move with
  | supply amount => exact le_refl _
  | withdraw amount => exact le_refl _
  | borrow amount onBehalfOf =>
      by_cases draws : account = sender <;> by_cases owes : account = onBehalfOf <;>
        simp only [shifted, granted, draws, owes] <;> grind
  | repay amount onBehalfOf =>
      by_cases pays : account = sender <;> by_cases owed : account = onBehalfOf <;>
        simp only [shifted, granted, pays, owed] <;> grind

omit [Zero Address] in
theorem sum_shifted [Fintype Address] (sender : Address) (move : Move Address) :
    ∑ account, shifted account sender move = 0 := by
  cases move with
  | supply amount => exact Finset.sum_const_zero
  | withdraw amount => exact Finset.sum_const_zero
  | borrow amount onBehalfOf => simp [shifted]
  | repay amount onBehalfOf => simp [shifted]

/-! ## One call on each of the three figures -/

section Figures

variable {cfg : Config Address} {token after : Erc20 Address} {sender : Address} {amount : Nat}

/-- Tokens an account pays into the pool leave its wallet and no other. -/
theorem wallet_pulled (account : Address) (outside : sender ≠ cfg.address)
    (pulled : token.transferFrom cfg.address sender cfg.address amount = .ok after) :
    wallet cfg after account + (if account = sender then amount else 0) =
      wallet cfg token account := by
  obtain ⟨_, _, _, funded, rfl⟩ := (Erc20.transfer_from_ok_iff _ _ _ _ _ _).1 pulled
  unfold wallet
  by_cases own : account = cfg.address
  · rw [if_pos own, if_pos own, if_neg]
    intro payer
    exact outside (payer.symm.trans own)
  rw [if_neg own, if_neg own]
  by_cases payer : account = sender
  · rw [if_pos payer, payer, Erc20.moved_balance_source token amount outside]
    exact Nat.sub_add_cancel funded
  · rw [if_neg payer, Erc20.moved_balance_other token amount payer own, Nat.add_zero]

/-- And tokens the pool pays out arrive in one wallet. -/
theorem wallet_pushed (account : Address) (outside : sender ≠ cfg.address)
    (pushed : token.move cfg.address sender amount = .ok after) :
    wallet cfg after account =
      wallet cfg token account + if account = sender then amount else 0 := by
  obtain ⟨_, _, _, rfl⟩ := (Erc20.move_ok_iff _ _ _ _ _).1 pushed
  unfold wallet
  by_cases own : account = cfg.address
  · rw [if_pos own, if_pos own, if_neg]
    intro payee
    exact outside (payee.symm.trans own)
  rw [if_neg own, if_neg own]
  by_cases payee : account = sender
  · rw [if_pos payee, payee, Erc20.moved_balance_target token amount outside.symm]
  · rw [if_neg payee, Erc20.moved_balance_other token amount own payee, Nat.add_zero]

end Figures

section Balances

variable (pool : State Address) (event : Event Address) (user account : Address) (scaled : Nat)

omit [DecidableEq Address] [Zero Address] in
theorem supply_of_emit :
    balanceOfSupply (pool.emit event) account = balanceOfSupply pool account := rfl

omit [DecidableEq Address] [Zero Address] in
theorem debt_of_emit : balanceOfDebt (pool.emit event) account = balanceOfDebt pool account := rfl

omit [Zero Address] in
theorem supply_of_credit_debt :
    balanceOfSupply (pool.creditDebt user scaled) account = balanceOfSupply pool account := rfl

omit [Zero Address] in
theorem supply_of_debit_debt :
    balanceOfSupply (pool.debitDebt user scaled) account = balanceOfSupply pool account := rfl

omit [Zero Address] in
theorem debt_of_credit_supply :
    balanceOfDebt (pool.creditSupply user scaled) account = balanceOfDebt pool account := rfl

omit [Zero Address] in
theorem debt_of_debit_supply :
    balanceOfDebt (pool.debitSupply user scaled) account = balanceOfDebt pool account := rfl

omit [Zero Address] in
theorem supply_of_credit_supply :
    balanceOfSupply (pool.creditSupply user scaled) account =
      if account = user then mulDiv (pool.scaledSupply user + scaled) pool.supplyIndex RAY
      else balanceOfSupply pool account := by
  by_cases own : account = user
  · simp [balanceOfSupply, State.creditSupply, own]
  · simp [balanceOfSupply, State.creditSupply, own]

omit [Zero Address] in
theorem supply_of_debit_supply :
    balanceOfSupply (pool.debitSupply user scaled) account =
      if account = user then mulDiv (pool.scaledSupply user - scaled) pool.supplyIndex RAY
      else balanceOfSupply pool account := by
  by_cases own : account = user
  · simp [balanceOfSupply, State.debitSupply, own]
  · simp [balanceOfSupply, State.debitSupply, own]

omit [Zero Address] in
theorem debt_of_credit_debt :
    balanceOfDebt (pool.creditDebt user scaled) account =
      if account = user then mulDiv (pool.scaledDebt user + scaled) pool.borrowIndex RAY
      else balanceOfDebt pool account := by
  by_cases own : account = user
  · simp [balanceOfDebt, State.creditDebt, own]
  · simp [balanceOfDebt, State.creditDebt, own]

omit [Zero Address] in
theorem debt_of_debit_debt :
    balanceOfDebt (pool.debitDebt user scaled) account =
      if account = user then mulDiv (pool.scaledDebt user - scaled) pool.borrowIndex RAY
      else balanceOfDebt pool account := by
  by_cases own : account = user
  · simp [balanceOfDebt, State.debitDebt, own]
  · simp [balanceOfDebt, State.debitDebt, own]

omit [DecidableEq Address] [Zero Address] in
theorem borrow_index_of_emit : (pool.emit event).borrowIndex = pool.borrowIndex := rfl

omit [Zero Address] in
theorem borrow_index_of_credit_debt :
    (pool.creditDebt user scaled).borrowIndex = pool.borrowIndex := rfl

omit [Zero Address] in
theorem borrow_index_of_debit_debt :
    (pool.debitDebt user scaled).borrowIndex = pool.borrowIndex := rfl

omit [DecidableEq Address] [Zero Address] in
theorem last_accrual_of_emit : (pool.emit event).lastAccrualTime = pool.lastAccrualTime := rfl

omit [Zero Address] in
theorem last_accrual_of_credit_supply :
    (pool.creditSupply user scaled).lastAccrualTime = pool.lastAccrualTime := rfl

omit [Zero Address] in
theorem last_accrual_of_debit_supply :
    (pool.debitSupply user scaled).lastAccrualTime = pool.lastAccrualTime := rfl

omit [Zero Address] in
theorem last_accrual_of_credit_debt :
    (pool.creditDebt user scaled).lastAccrualTime = pool.lastAccrualTime := rfl

omit [Zero Address] in
theorem last_accrual_of_debit_debt :
    (pool.debitDebt user scaled).lastAccrualTime = pool.lastAccrualTime := rfl

end Balances

/-! ## What each call makes of each balance -/

section Calls

variable {cfg : Config Address} {l after : Lending Address} {sender : Address} {amount : Nat}

theorem supply_figures (account : Address) (outside : sender ≠ cfg.address)
    (ran : supply cfg sender amount l = .ok after) :
    wallet cfg after.token account + (if account = sender then amount else 0) =
        wallet cfg l.token account ∧
      balanceOfSupply (accrue cfg l).pool account ≤ balanceOfSupply after.pool account ∧
      balanceOfSupply after.pool account ≤ balanceOfSupply (accrue cfg l).pool account +
        (if account = sender then amount else 0) ∧
      balanceOfDebt after.pool account = balanceOfDebt (accrue cfg l).pool account := by
  obtain ⟨_, _, live, token, pulled, rfl⟩ := supply_ok_iff.1 ran
  rw [Lending.put_token, Lending.put_pool, supply_of_emit, debt_of_emit,
    supply_of_credit_supply, debt_of_credit_supply]
  refine ⟨wallet_pulled account outside pulled, ?_, ?_, rfl⟩
  · by_cases own : account = sender
    · rw [if_pos own, own]
      exact mul_div_mono (Nat.le_add_right _ _) _ _
    · rw [if_neg own]
  · by_cases own : account = sender
    · rw [if_pos own, if_pos own, own]
      exact balance_of_credit_le amount ray_pos
    · rw [if_neg own, if_neg own]
      exact Nat.le_refl _

theorem withdraw_figures (account : Address) (outside : sender ≠ cfg.address)
    (ran : withdraw cfg sender amount l = .ok after) :
    wallet cfg after.token account =
        wallet cfg l.token account + (if account = sender then amount else 0) ∧
      balanceOfSupply after.pool account + (if account = sender then amount else 0) ≤
        balanceOfSupply (accrue cfg l).pool account ∧
      (account ≠ sender →
        balanceOfSupply after.pool account = balanceOfSupply (accrue cfg l).pool account) ∧
      balanceOfDebt after.pool account = balanceOfDebt (accrue cfg l).pool account := by
  obtain ⟨_, within, _, live, _, token, pushed, rfl⟩ := withdraw_ok_iff.1 ran
  rw [Lending.put_token, Lending.put_pool, supply_of_emit, debt_of_emit,
    supply_of_debit_supply, debt_of_debit_supply]
  refine ⟨wallet_pushed account outside pushed, ?_, ?_, rfl⟩
  · by_cases own : account = sender
    · rw [if_pos own, if_pos own, own, accrue_scaled_supply]
      rcases Nat.le_total (l.pool.scaledSupply sender)
        (mulDivUp amount RAY (accrue cfg l).pool.supplyIndex) with all | part
      · rw [min_eq_right all, Nat.sub_self, mul_div_zero_left, Nat.zero_add]
        exact within
      · rw [min_eq_left part, balanceOfSupply, accrue_scaled_supply]
        exact balance_of_debit_add_le
          (le_mul_div_up_mul amount RAY (Nat.pos_of_ne_zero live)) part ray_pos
    · rw [if_neg own, if_neg own]
      exact Nat.le_refl _
  · intro other
    rw [if_neg other]

theorem borrow_figures {onBehalfOf : Address} (account : Address)
    (outside : sender ≠ cfg.address)
    (ran : borrow cfg sender amount onBehalfOf l = .ok after) :
    wallet cfg after.token account =
        wallet cfg l.token account + (if account = sender then amount else 0) ∧
      balanceOfSupply after.pool account = balanceOfSupply (accrue cfg l).pool account ∧
      balanceOfDebt (accrue cfg l).pool account + (if account = onBehalfOf then amount else 0) ≤
        balanceOfDebt after.pool account ∧
      (account ≠ onBehalfOf →
        balanceOfDebt after.pool account = balanceOfDebt (accrue cfg l).pool account) := by
  obtain ⟨_, _, _, _, live, token, pushed, rfl⟩ := borrow_ok_iff.1 ran
  rw [Lending.put_token, Lending.put_pool, supply_of_emit, debt_of_emit,
    supply_of_credit_debt, debt_of_credit_debt]
  refine ⟨wallet_pushed account outside pushed, rfl, ?_, ?_⟩
  · by_cases own : account = onBehalfOf
    · rw [if_pos own, if_pos own, own]
      exact balance_add_le_of_credit
        (le_mul_div_up_mul amount RAY (Nat.pos_of_ne_zero live)) ray_pos
    · rw [if_neg own, if_neg own]
      exact Nat.le_refl _
  · intro other
    rw [if_neg other]

/-- A repayment takes off a debt no more than it pays. -/
theorem repay_debt_ge {onBehalfOf : Address} (account : Address)
    (ran : repay cfg sender amount onBehalfOf l = .ok after) :
    balanceOfDebt (accrue cfg l).pool account ≤
      balanceOfDebt after.pool account + (if account = onBehalfOf then amount else 0) := by
  obtain ⟨_, owed, live, _, token, pulled, rfl⟩ := repay_ok_iff.1 ran
  rw [Lending.put_pool, debt_of_emit, debt_of_debit_debt]
  by_cases own : account = onBehalfOf
  · rw [if_pos own, if_pos own, own]
    rcases Nat.lt_or_ge amount (balanceOfDebt (accrue cfg l).pool onBehalfOf) with part | whole
    · rw [(repaid_scaled_below live part).1]
      exact balance_le_add_paid ray_pos
    · omega
  · rw [if_neg own, if_neg own]
    exact Nat.le_refl _

theorem repay_figures {onBehalfOf : Address} (account : Address)
    (outside : sender ≠ cfg.address)
    (ran : repay cfg sender amount onBehalfOf l = .ok after) :
    wallet cfg after.token account + (if account = sender then amount else 0) =
        wallet cfg l.token account ∧
      balanceOfSupply after.pool account = balanceOfSupply (accrue cfg l).pool account ∧
      balanceOfDebt (accrue cfg l).pool account ≤
        balanceOfDebt after.pool account + (if account = onBehalfOf then amount else 0) ∧
      balanceOfDebt after.pool account ≤ balanceOfDebt (accrue cfg l).pool account := by
  have falls_by := repay_debt_ge account ran
  obtain ⟨_, owed, live, _, token, pulled, rfl⟩ := repay_ok_iff.1 ran
  rw [Lending.put_pool, debt_of_emit, debt_of_debit_debt] at falls_by
  rw [Lending.put_token, Lending.put_pool, supply_of_emit, debt_of_emit,
    supply_of_debit_debt, debt_of_debit_debt]
  refine ⟨wallet_pulled account outside pulled, rfl, falls_by, ?_⟩
  · by_cases own : account = onBehalfOf
    · rw [if_pos own, own]
      exact mul_div_mono (Nat.sub_le _ _) _ _
    · rw [if_neg own]

theorem repay_debt_other {onBehalfOf account : Address} (other : account ≠ onBehalfOf)
    (ran : repay cfg sender amount onBehalfOf l = .ok after) :
    balanceOfDebt after.pool account = balanceOfDebt (accrue cfg l).pool account := by
  obtain ⟨_, _, _, _, token, pulled, rfl⟩ := repay_ok_iff.1 ran
  rw [Lending.put_pool, debt_of_emit, debt_of_debit_debt, if_neg other]

/-- What a loan does to the asset, the clock and the index it is recorded at. -/
theorem borrow_leaves {onBehalfOf : Address}
    (ran : borrow cfg sender amount onBehalfOf l = .ok after) :
    after.token = l.token.moved cfg.address sender amount ∧ after.timestamp = l.timestamp ∧
      after.pool.borrowIndex = (accrue cfg l).pool.borrowIndex := by
  obtain ⟨_, _, _, _, _, token, pushed, rfl⟩ := borrow_ok_iff.1 ran
  obtain ⟨_, _, _, same⟩ := (Erc20.move_ok_iff _ _ _ _ _).1 pushed
  rw [Lending.put_token, Lending.put_timestamp, Lending.put_pool, borrow_index_of_emit,
    borrow_index_of_credit_debt]
  exact ⟨same, accrue_timestamp cfg l, rfl⟩

theorem repay_leaves {onBehalfOf : Address}
    (ran : repay cfg sender amount onBehalfOf l = .ok after) :
    after.pool.borrowIndex = (accrue cfg l).pool.borrowIndex := by
  obtain ⟨_, _, _, _, token, pulled, rfl⟩ := repay_ok_iff.1 ran
  rw [Lending.put_pool, borrow_index_of_emit, borrow_index_of_debit_debt]

/-- A loan is recorded at less than one scaled unit above what was drawn. -/
theorem borrow_debt_le {onBehalfOf : Address}
    (ran : borrow cfg sender amount onBehalfOf l = .ok after) :
    balanceOfDebt after.pool onBehalfOf ≤ balanceOfDebt (accrue cfg l).pool onBehalfOf + amount +
      mulDivUp (accrue cfg l).pool.borrowIndex 1 RAY := by
  obtain ⟨_, _, _, _, live, token, pushed, rfl⟩ := borrow_ok_iff.1 ran
  rw [Lending.put_pool, debt_of_emit, debt_of_credit_debt, if_pos rfl]
  exact balance_of_credit_up_le amount ray_pos (Nat.pos_of_ne_zero live)

/-- A repayment falls short of what it pays by less than one scaled unit, and
of a whole debt by nothing. -/
theorem repay_debt_le {onBehalfOf : Address}
    (ran : repay cfg sender amount onBehalfOf l = .ok after) :
    balanceOfDebt after.pool onBehalfOf + amount ≤ balanceOfDebt (accrue cfg l).pool onBehalfOf +
        mulDivUp (accrue cfg l).pool.borrowIndex 1 RAY ∧
      (balanceOfDebt (accrue cfg l).pool onBehalfOf ≤ amount →
        balanceOfDebt after.pool onBehalfOf = 0) := by
  obtain ⟨_, owed, live, _, token, pulled, rfl⟩ := repay_ok_iff.1 ran
  rw [Lending.put_pool, debt_of_emit, debt_of_debit_debt, if_pos rfl]
  rcases Nat.lt_or_ge amount (balanceOfDebt (accrue cfg l).pool onBehalfOf) with part | whole
  · obtain ⟨floor, below⟩ := repaid_scaled_below live part
    rw [floor]
    refine ⟨balance_add_paid_le ray_pos (Nat.pos_of_ne_zero live) below.le, ?_⟩
    intro covers
    omega
  · have exact_ : amount = balanceOfDebt (accrue cfg l).pool onBehalfOf := by omega
    rw [exact_, repaid_scaled_full, Nat.sub_self, mul_div_zero_left]
    omega

/-- And takes no more off a debt than it pays. -/
theorem debt_le_repaid {onBehalfOf : Address}
    (ran : repay cfg sender amount onBehalfOf l = .ok after) :
    balanceOfDebt (accrue cfg l).pool onBehalfOf ≤ balanceOfDebt after.pool onBehalfOf + amount := by
  obtain ⟨_, owed, live, _, token, pulled, rfl⟩ := repay_ok_iff.1 ran
  rw [Lending.put_pool, debt_of_emit, debt_of_debit_debt, if_pos rfl]
  rcases Nat.lt_or_ge amount (balanceOfDebt (accrue cfg l).pool onBehalfOf) with part | whole
  · rw [(repaid_scaled_below live part).1]
    exact balance_le_add_paid ray_pos
  · exact whole.trans (Nat.le_add_left _ _)

theorem accrue_after_move {move : Move Address}
    (ran : exec cfg sender l move.call = .ok after) : accrue cfg after = after := by
  apply accrue_of_no_time
  cases move with
  | supply amount =>
      obtain ⟨_, _, _, _, _, rfl⟩ := supply_ok_iff.1 ran
      rw [elapsed_put, elapsed_accrue]
      rw [last_accrual_of_emit, last_accrual_of_credit_supply]
  | withdraw amount =>
      obtain ⟨_, _, _, _, _, _, _, rfl⟩ := withdraw_ok_iff.1 ran
      rw [elapsed_put, elapsed_accrue]
      rw [last_accrual_of_emit, last_accrual_of_debit_supply]
  | borrow amount onBehalfOf =>
      obtain ⟨_, _, _, _, _, _, _, rfl⟩ := borrow_ok_iff.1 ran
      rw [elapsed_put, elapsed_accrue]
      rw [last_accrual_of_emit, last_accrual_of_credit_debt]
  | repay amount onBehalfOf =>
      obtain ⟨_, _, _, _, _, _, rfl⟩ := repay_ok_iff.1 ran
      rw [elapsed_put, elapsed_accrue]
      rw [last_accrual_of_emit, last_accrual_of_debit_debt]

/-- A call raises no figure by more than it shifts to it. -/
theorem worth_after_move {move : Move Address} (account : Address)
    (outside : sender ≠ cfg.address) (ran : exec cfg sender l move.call = .ok after) :
    worth cfg after account ≤ worth cfg (accrue cfg l) account + shifted account sender move := by
  unfold worth
  rw [accrue_token]
  cases move with
  | supply amount =>
      obtain ⟨paid, _, credited, same⟩ := supply_figures account outside ran
      simp only [shifted]
      split_ifs at paid credited <;> omega
  | withdraw amount =>
      obtain ⟨received, debited, _, same⟩ := withdraw_figures account outside ran
      simp only [shifted]
      split_ifs at received debited <;> omega
  | borrow amount onBehalfOf =>
      obtain ⟨received, same, owed, _⟩ := borrow_figures account outside ran
      simp only [shifted]
      split_ifs at received owed ⊢ <;> omega
  | repay amount onBehalfOf =>
      obtain ⟨paid, same, cleared, _⟩ := repay_figures account outside ran
      simp only [shifted]
      split_ifs at paid cleared ⊢ <;> omega

/-- An account that does not call and is lent nothing keeps its supply and owes no more. -/
theorem bystander_after_move {move : Move Address} {account : Address}
    (outside : sender ≠ cfg.address) (caller : sender ≠ account)
    (debtor : ∀ amount, move ≠ .borrow amount account)
    (ran : exec cfg sender l move.call = .ok after) :
    balanceOfSupply (accrue cfg l).pool account ≤ balanceOfSupply after.pool account ∧
      balanceOfDebt after.pool account ≤ balanceOfDebt (accrue cfg l).pool account := by
  cases move with
  | supply amount =>
      obtain ⟨_, kept, _, same⟩ := supply_figures account outside ran
      exact ⟨kept, same.le⟩
  | withdraw amount =>
      obtain ⟨_, _, kept, same⟩ := withdraw_figures account outside ran
      exact ⟨(kept caller.symm).ge, same.le⟩
  | borrow amount onBehalfOf =>
      obtain ⟨_, same, _, kept⟩ := borrow_figures account outside ran
      have other : account ≠ onBehalfOf := fun own => debtor amount (by rw [own])
      exact ⟨same.ge, (kept other).le⟩
  | repay amount onBehalfOf =>
      obtain ⟨_, same, _, less⟩ := repay_figures account outside ran
      exact ⟨same.ge, less⟩

end Calls

/-! ## A block of calls -/

section Blocks

variable {cfg : Config Address} {turns : List (Address × Move Address)}

/-- What holds between two states of a block and is carried by each call that
goes through is carried by the block. -/
theorem play_induct (Rel : Lending Address → Lending Address → Prop)
    (refl : ∀ l, Rel l l) (trans : ∀ {a b c}, Rel a b → Rel b c → Rel a c)
    (carried : ∀ turn ∈ turns, ∀ l after, exec cfg turn.1 l turn.2.call = .ok after →
      Rel (accrue cfg l) (accrue cfg after))
    (l : Lending Address) : Rel (accrue cfg l) (accrue cfg (play cfg l turns)) := by
  induction turns generalizing l with
  | nil => exact refl _
  | cons turn rest ih =>
      have later := ih fun other member =>
        carried other (List.mem_cons_of_mem _ member)
      cases ran : exec cfg turn.1 l turn.2.call with
      | error error =>
          have same : play cfg l (turn :: rest) = play cfg l rest := by
            simp only [play, List.foldl_cons, attempt, ran]
          rw [same]
          exact later l
      | ok after =>
          have next : play cfg l (turn :: rest) = play cfg after rest := by
            simp only [play, List.foldl_cons, attempt, ran]
          rw [next]
          exact trans (carried turn List.mem_cons_self l after ran) (later after)

theorem worth_after_play (l : Lending Address) (account : Address)
    (outside : ∀ turn ∈ turns, turn.1 ≠ cfg.address) :
    worth cfg (accrue cfg (play cfg l turns)) account ≤
      worth cfg (accrue cfg l) account + grants cfg account l turns := by
  induction turns generalizing l with
  | nil =>
      simp only [play, List.foldl_nil, grants]
      omega
  | cons turn rest ih =>
      have later := fun l => ih l fun other member => outside other (List.mem_cons_of_mem _ member)
      cases ran : exec cfg turn.1 l turn.2.call with
      | error error =>
          simp only [play, List.foldl_cons, attempt, grants, ran] at later ⊢
          exact later l
      | ok after =>
          have first := worth_after_move account (outside turn List.mem_cons_self) ran
          have backed := shifted_le_granted account turn.1 turn.2
          have rest := later after
          rw [accrue_after_move ran] at rest
          simp only [play, List.foldl_cons, attempt, grants, ran, Nat.cast_add] at rest ⊢
          omega

variable [Fintype Address]

/-- Whatever the calls of one block and whatever the indices, the wallets,
supplies and debts of all accounts together never rise; an account's own figure
rises only by what was repaid for it, or was lent to it against another
account's debt; and an account that made no call and was lent nothing keeps its
supply and owes no more. -/
theorem no_profit_at_one_instant (cfg : Config Address) (l : Lending Address)
    (turns : List (Address × Move Address))
    (outside : ∀ turn ∈ turns, turn.1 ≠ cfg.address) :
    (∑ account, worth cfg (accrue cfg (play cfg l turns)) account ≤
      ∑ account, worth cfg (accrue cfg l) account) ∧
    (∀ account, worth cfg (accrue cfg (play cfg l turns)) account ≤
      worth cfg (accrue cfg l) account + grants cfg account l turns) ∧
    ∀ account, (∀ turn ∈ turns, turn.1 ≠ account ∧ ∀ amount, turn.2 ≠ .borrow amount account) →
      balanceOfSupply (accrue cfg l).pool account ≤
          balanceOfSupply (accrue cfg (play cfg l turns)).pool account ∧
        balanceOfDebt (accrue cfg (play cfg l turns)).pool account ≤
          balanceOfDebt (accrue cfg l).pool account := by
  refine ⟨?_, fun account => worth_after_play l account outside, ?_⟩
  · apply play_induct fun before after =>
      ∑ account, worth cfg after account ≤ ∑ account, worth cfg before account
    · exact fun _ => le_refl _
    · exact fun first second => second.trans first
    · intro turn member l after ran
      rw [accrue_after_move ran]
      calc
        ∑ account, worth cfg after account ≤
            ∑ account, (worth cfg (accrue cfg l) account + shifted account turn.1 turn.2) := by
          apply Finset.sum_le_sum
          intro account _
          exact worth_after_move account (outside turn member) ran
        _ = ∑ account, worth cfg (accrue cfg l) account := by
          rw [Finset.sum_add_distrib, sum_shifted, add_zero]
  · intro account apart
    apply play_induct fun before after =>
      balanceOfSupply before.pool account ≤ balanceOfSupply after.pool account ∧
        balanceOfDebt after.pool account ≤ balanceOfDebt before.pool account
    · exact fun _ => ⟨le_refl _, le_refl _⟩
    · exact fun first second => ⟨first.1.trans second.1, second.2.trans first.2⟩
    · intro turn member l after ran
      rw [accrue_after_move ran]
      exact bystander_after_move (outside turn member) (apart turn member).1
        (apart turn member).2 ran

end Blocks

end Play

/-! ## Cycling dust -/

section Sample

/-- Two rounds of a unit in and a unit out, a loan and a part of it paid back by another. -/
def dustTurns : List (Fin 8 × Move (Fin 8)) :=
  [(1, .supply 7), (1, .withdraw 6), (1, .supply 1), (1, .withdraw 1), (5, .borrow 10 2),
    (3, .repay 4 2)]

theorem no_profit_of_dust :
    worth (flatCurve (10 ^ 9)) (accrue (flatCurve (10 ^ 9))
        (play (flatCurve (10 ^ 9)) lent dustTurns)) 2 ≤
      worth (flatCurve (10 ^ 9)) (accrue (flatCurve (10 ^ 9)) lent) 2 +
        grants (flatCurve (10 ^ 9)) 2 lent dustTurns :=
  (no_profit_at_one_instant (flatCurve (10 ^ 9)) lent dustTurns (by decide)).2.1 2

/-- A loan: the module that draws it has 300 more, nobody else holds less, and
the account it is drawn for owes 300 without having called. -/
theorem loan_raises_the_module :
    ∃ l, (machine (flatCurve 0)).Reachable l ∧ accrue (flatCurve 0) l = l ∧
      worth (flatCurve 0) (play (flatCurve 0) l [(5, .borrow 300 2)]) 5 =
        worth (flatCurve 0) l 5 + 300 ∧
      (∀ account, wallet (flatCurve 0) l.token account ≤
        wallet (flatCurve 0) (play (flatCurve 0) l [(5, .borrow 300 2)]).token account) ∧
      balanceOfDebt l.pool 2 = 0 ∧
      balanceOfDebt (play (flatCurve 0) l [(5, .borrow 300 2)]).pool 2 = 300 := by
  obtain ⟨l, reached, checked⟩ := reachable_of_run (flatCurve 0) rfl
    [.call 6 (.setBorrowModule 5), .call 1 (.supply 1000)]
    (fun l => elapsed l = 0 ∧
      worth (flatCurve 0) (play (flatCurve 0) l [(5, .borrow 300 2)]) 5 =
        worth (flatCurve 0) l 5 + 300 ∧
      (∀ account, wallet (flatCurve 0) l.token account ≤
        wallet (flatCurve 0) (play (flatCurve 0) l [(5, .borrow 300 2)]).token account) ∧
      balanceOfDebt l.pool 2 = 0 ∧
      balanceOfDebt (play (flatCurve 0) l [(5, .borrow 300 2)]).pool 2 = 300)
    (by decide) (by decide +kernel)
  obtain ⟨still, gains⟩ := of_decide_eq_true checked
  exact ⟨l, reached, accrue_of_no_time _ l still, gains⟩

end Sample

end Pool

end Ghoststake
