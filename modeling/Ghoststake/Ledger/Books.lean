import Ghoststake.Ledger.Activity
import Ghoststake.Vault.Closable

/-!
# The books of the lending contracts

What the indexer derives from the logs of the vault and of the pool, the balances
that the rows sum to, and that the sums are the contracts' own figures: the
shares, the scaled supply, and the scaled debt of every account. A scaled debt
that the pool absorbs leaves the contract without leaving the book.
-/

namespace Ghoststake

set_option autoImplicit false

open Checked StableSort

namespace Ledger

open Index

/-! ## The books and the histories -/

def shares : Text := "shares".toList

def debtScaled : Text := "debt_scaled".toList

def supplyScaled : Text := "supply_scaled".toList

def deposits : Text := "deposits".toList

def withdrawals : Text := "withdrawals".toList

def yieldSettled : Text := "yield_settled".toList

def liquidations : Text := "liquidations".toList

def lienSettled : Text := "lien_settled".toList

def borrowFlow : Text := "borrow_flow".toList

def repayFlow : Text := "repay_flow".toList

def supplyFlow : Text := "supply_flow".toList

def poolWithdrawFlow : Text := "pool_withdraw_flow".toList

def shareTransferFlow : Text := "share_transfer_flow".toList

theorem length_zero_address : (List.replicate 40 (0 : Fin 16)).length = 40 :=
  List.length_replicate

/-- `common.Address{}`. -/
def zeroAddress : Address := ⟨List.replicate 40 0, length_zero_address⟩

/-- The client's addresses of the accounts of a chain. -/
structure Naming (Account : Type) [Zero Account] where
  name : Account → Address
  injective : Function.Injective name
  zero : name 0 = zeroAddress

def balanceEntry (account : Address) (ledger : Text) (delta : Int)
    (counterparty : Option Address) : EntryBody :=
  { kind := .balance, account, ledger, delta, counterparty }

def flowEntry (account : Address) (ledger : Text) (delta : Int)
    (counterparty : Option Address) : EntryBody :=
  { kind := .flow, account, ledger, delta, counterparty }

variable {Account : Type} [DecidableEq Account] [Zero Account]

section Decoders

variable (naming : Naming Account)

/-- A `Transfer` is a mint, a burn or a move, and only a move is a history of its own. -/
def decodeTransfer (source target : Address) (value : Int) : List EntryBody :=
  (if source ≠ zeroAddress then [balanceEntry source shares (-value) (some target)] else []) ++
  (if target ≠ zeroAddress then [balanceEntry target shares value (some source)] else []) ++
  (if source ≠ zeroAddress ∧ target ≠ zeroAddress then
    [flowEntry source shareTransferFlow (-value) (some target),
      flowEntry target shareTransferFlow value (some source)]
  else [])

def decodeVault : Vault.Event Account → List EntryBody
  | .transfer source target value =>
      decodeTransfer (naming.name source) (naming.name target) value
  | .deposited user assets _ => [flowEntry (naming.name user) deposits assets none]
  | .withdrawn user assets _ => [flowEntry (naming.name user) withdrawals assets none]
  | .yieldSettled user yieldAccrued _ =>
      [flowEntry (naming.name user) yieldSettled yieldAccrued none]
  | .lienSettledAtExit user lienAmount _ =>
      [flowEntry (naming.name user) lienSettled lienAmount none]
  | .borrowed user amount _ => [flowEntry (naming.name user) borrowFlow amount none]
  | .repaid payer user amount _ =>
      [flowEntry (naming.name user) repayFlow amount (some (naming.name payer))]
  | .liquidated liquidator user debtRepaid _ _ _ _ =>
      [flowEntry (naming.name user) liquidations debtRepaid (some (naming.name liquidator))]
  | .deposit _ _ _ _ | .withdraw _ _ _ _ _ | .positionTransferred _ _ _ _
  | .borrowDelegationApproved _ _ _ | .badDebtWrittenOff _ _ _ _ | .access _ => []

def decodePool : Pool.Event Account → List EntryBody
  | .supplied user amount scaledAmount =>
      [balanceEntry (naming.name user) supplyScaled scaledAmount none,
        flowEntry (naming.name user) supplyFlow amount none]
  | .withdrawn user amount scaledAmount =>
      [balanceEntry (naming.name user) supplyScaled (-scaledAmount) none,
        flowEntry (naming.name user) poolWithdrawFlow amount none]
  | .borrowed user _ scaledAmount =>
      [balanceEntry (naming.name user) debtScaled scaledAmount none]
  | .repaid payer user _ scaledAmount =>
      [balanceEntry (naming.name user) debtScaled (-scaledAmount) (some (naming.name payer))]
  -- nothing is derived from an absorbed debt
  | .accrued _ _ _ | .borrowModuleSet _ | .reservesWithdrawn _ _ | .badDebtAbsorbed _ _ _ _ _ _
  | .access _ => []

end Decoders

/-! ## The queries -/

section Queries

variable (rows : List (Row EntryBody)) (chainID : Int) (contracts : List Address)

/-- `SELECT COALESCE(SUM(delta), 0) …`. -/
def balanceOf (account : Address) (ledger : Text) : Int :=
  ((rows.filter fun row => row.provenance.chainID = chainID ∧ row.body.account = account ∧
    row.body.ledger = ledger ∧ row.body.kind = .balance ∧
      row.owner ∈ contracts.map some).map fun row => row.body.delta).sum

/-- `GROUP BY account HAVING SUM(delta) > 0`. -/
def borrowers : List Address :=
  (((rows.filter fun row => row.provenance.chainID = chainID ∧ row.body.ledger = debtScaled ∧
    row.body.kind = .balance ∧ row.owner ∈ contracts.map some).map fun row =>
      row.body.account).dedup).filter fun account =>
        0 < balanceOf rows chainID contracts account debtScaled

/-- `ORDER BY SUM(delta) DESC LIMIT $4`: any order of the same sum. -/
def BorrowersByExposure (limit : Nat) (out : List Address) : Prop :=
  ∃ sorted, Slice (fun a b => balanceOf rows chainID contracts b debtScaled <
    balanceOf rows chainID contracts a debtScaled) (borrowers rows chainID contracts) sorted ∧
      out = sorted.take limit

end Queries

/-! ## What a log adds to a book -/

section Sums

def EntryBody.adds (account : Address) (ledger : Text) (body : EntryBody) : Int :=
  if body.account = account ∧ body.ledger = ledger ∧ body.kind = .balance then body.delta else 0

def added (account : Address) (ledger : Text) (bodies : List EntryBody) : Int :=
  (bodies.map (EntryBody.adds account ledger)).sum

variable {account : Address} {ledger : Text}

@[simp] theorem added_nil : added account ledger [] = 0 := rfl

@[simp] theorem added_cons (body : EntryBody) (rest : List EntryBody) :
    added account ledger (body :: rest) = body.adds account ledger + added account ledger rest :=
  List.sum_cons

@[simp] theorem added_append (first rest : List EntryBody) :
    added account ledger (first ++ rest) =
      added account ledger first + added account ledger rest := by
  simp [added]

@[simp] theorem flow_entry_adds (user : Address) (name : Text) (delta : Int)
    (counterparty : Option Address) :
    (flowEntry user name delta counterparty).adds account ledger = 0 := by
  simp [EntryBody.adds, flowEntry]

theorem balance_entry_adds (user : Address) (name : Text) (delta : Int)
    (counterparty : Option Address) :
    (balanceEntry user name delta counterparty).adds account ledger =
      if user = account ∧ name = ledger then delta else 0 := by
  simp [EntryBody.adds, balanceEntry]

end Sums

/-! ## The pool's books -/

section PoolBooks

variable (naming : Naming Account)

def poolBook (logs : List (Pool.Event Account)) (user : Account) (ledger : Text) : Int :=
  (logs.map fun event => added (naming.name user) ledger (decodePool naming event)).sum

variable {naming} {pool after : Pool.State Account} {user other : Account} {ledger : Text}

omit [DecidableEq Account] in
theorem pool_book_emit (pool : Pool.State Account) (event : Pool.Event Account) :
    poolBook naming (pool.emit event).logs user ledger = poolBook naming pool.logs user ledger +
      added (naming.name user) ledger (decodePool naming event) := by
  simp [poolBook, Pool.State.emit]

theorem books_apart :
    supplyScaled ≠ debtScaled ∧ shares ≠ debtScaled ∧ shares ≠ supplyScaled := by
  decide

omit [DecidableEq Account] in
theorem named_iff : naming.name user = naming.name other ↔ user = other :=
  naming.injective.eq_iff

/-- What a log of the pool adds to the supply and to the debt. -/
def supplyDelta (user : Account) : Pool.Event Account → Int
  | .supplied supplier _ scaled => if supplier = user then scaled else 0
  | .withdrawn supplier _ scaled => if supplier = user then -scaled else 0
  | .borrowed _ _ _ | .repaid _ _ _ _ | .accrued _ _ _ | .borrowModuleSet _
  | .reservesWithdrawn _ _ | .badDebtAbsorbed _ _ _ _ _ _ | .access _ => 0

def debtDelta (user : Account) : Pool.Event Account → Int
  | .borrowed borrower _ scaled => if borrower = user then scaled else 0
  | .repaid _ borrower _ scaled => if borrower = user then -scaled else 0
  | .supplied _ _ _ | .withdrawn _ _ _ | .accrued _ _ _ | .borrowModuleSet _
  | .reservesWithdrawn _ _ | .badDebtAbsorbed _ _ _ _ _ _ | .access _ => 0

theorem added_supply (event : Pool.Event Account) :
    added (naming.name user) supplyScaled (decodePool naming event) = supplyDelta user event := by
  cases event <;>
    simp [decodePool, balance_entry_adds, supplyDelta, named_iff, books_apart.1.symm]

theorem added_debt (event : Pool.Event Account) :
    added (naming.name user) debtScaled (decodePool naming event) = debtDelta user event := by
  cases event <;>
    simp [decodePool, balance_entry_adds, debtDelta, named_iff, books_apart.1]

def IsAbsorbed : Pool.Event Account → Prop
  | .badDebtAbsorbed _ _ _ _ _ _ => True
  | .supplied _ _ _ | .withdrawn _ _ _ | .borrowed _ _ _ | .repaid _ _ _ _ | .accrued _ _ _
  | .borrowModuleSet _ | .reservesWithdrawn _ _ | .access _ => False

def Absorbs (logs : List (Pool.Event Account)) : Prop := ∃ event ∈ logs, IsAbsorbed event

omit [DecidableEq Account] [Zero Account] in
theorem absorbs_append {logs : List (Pool.Event Account)} {event : Pool.Event Account} :
    Absorbs (logs ++ [event]) ↔ Absorbs logs ∨ IsAbsorbed event := by
  simp [Absorbs, or_and_right, exists_or]

/-- The storage moved by what was announced, and nothing was absorbed. -/
structure Follows (naming : Naming Account) (pool after : Pool.State Account) : Prop where
  supply : ∀ user, poolBook naming after.logs user supplyScaled - after.scaledSupply user =
    poolBook naming pool.logs user supplyScaled - pool.scaledSupply user
  debt : ∀ user, poolBook naming after.logs user debtScaled - after.scaledDebt user =
    poolBook naming pool.logs user debtScaled - pool.scaledDebt user
  absorbs : Absorbs after.logs ↔ Absorbs pool.logs

omit [DecidableEq Account] in
theorem Follows.refl (naming : Naming Account) (pool : Pool.State Account) :
    Follows naming pool pool :=
  ⟨fun _ => rfl, fun _ => rfl, Iff.rfl⟩

omit [DecidableEq Account] in
theorem Follows.trans {mid : Pool.State Account} (left : Follows naming pool mid)
    (right : Follows naming mid after) : Follows naming pool after where
  supply user := (right.supply user).trans (left.supply user)
  debt user := (right.debt user).trans (left.debt user)
  absorbs := right.absorbs.trans left.absorbs

theorem Follows.emit {next : Pool.State Account} (event : Pool.Event Account)
    (same : next.logs = pool.logs) (quiet : ¬IsAbsorbed event)
    (supplied : ∀ user, (next.scaledSupply user : Int) =
      pool.scaledSupply user + supplyDelta user event)
    (owed : ∀ user, (next.scaledDebt user : Int) = pool.scaledDebt user + debtDelta user event) :
    Follows naming pool (next.emit event) where
  supply user := by
    have moved := supplied user
    rw [pool_book_emit, added_supply, same]
    change _ - (next.scaledSupply user : Int) = _
    omega
  debt user := by
    have moved := owed user
    rw [pool_book_emit, added_debt, same]
    change _ - (next.scaledDebt user : Int) = _
    omega
  absorbs := by
    change Absorbs (next.logs ++ [event]) ↔ _
    rw [absorbs_append, same, or_iff_left quiet]

theorem Follows.unmoved {next : Pool.State Account} {event : Pool.Event Account}
    (same : next.logs = pool.logs ∧ next.scaledSupply = pool.scaledSupply ∧
      next.scaledDebt = pool.scaledDebt) (quiet : ¬IsAbsorbed event)
    (still : ∀ user, supplyDelta user event = 0 ∧ debtDelta user event = 0) :
    Follows naming pool (next.emit event) := by
  obtain ⟨logs, supplied, owed⟩ := same
  apply Follows.emit event logs quiet
  · intro user
    rw [supplied, (still user).1, Int.add_zero]
  · intro user
    rw [owed, (still user).2, Int.add_zero]

theorem follows_accrue (cfg : Pool.Config Account) (l : Lending Account) :
    Follows naming l.pool (Pool.accrue cfg l).pool := by
  unfold Pool.accrue
  split_ifs
  · exact .refl _ _
  · rw [Lending.put_pool]
    apply Follows.unmoved
    · exact ⟨rfl, rfl, rfl⟩
    · exact id
    · exact fun _ => ⟨rfl, rfl⟩

omit [Zero Account] in
theorem update_credit (balances : Account → Nat) (user other : Account) (value : Nat) :
    ((Function.update balances user (balances user + value) other : Nat) : Int) =
      balances other + if user = other then (value : Int) else 0 := by
  by_cases same : user = other
  · rw [← same, Function.update_self, if_pos rfl, Nat.cast_add]
  · rw [Function.update_of_ne (Ne.symm same), if_neg same, Int.add_zero]

omit [Zero Account] in
theorem update_debit (balances : Account → Nat) (user other : Account) {value : Nat}
    (held : value ≤ balances user) :
    ((Function.update balances user (balances user - value) other : Nat) : Int) =
      balances other + if user = other then -(value : Int) else 0 := by
  by_cases same : user = other
  · rw [← same, Function.update_self, if_pos rfl, Nat.cast_sub held]
    rfl
  · rw [Function.update_of_ne (Ne.symm same), if_neg same, Int.add_zero]

/-- Absorbing a debt takes it from the storage and from no book. -/
theorem absorbed_books (naming : Naming Account) (pool : Pool.State Account)
    (user other : Account) :
    poolBook naming (pool.absorbed user).logs other supplyScaled =
        poolBook naming pool.logs other supplyScaled ∧
      (pool.absorbed user).scaledSupply other = pool.scaledSupply other ∧
      poolBook naming (pool.absorbed user).logs other debtScaled =
        poolBook naming pool.logs other debtScaled ∧
      (pool.absorbed user).scaledDebt other =
        if user = other then 0 else pool.scaledDebt other := by
  refine ⟨?_, rfl, ?_, ?_⟩
  · rw [Pool.State.absorbed, pool_book_emit]
    exact Int.add_zero _
  · rw [Pool.State.absorbed, pool_book_emit]
    exact Int.add_zero _
  · rw [Pool.absorbed_scaled_debt, Pool.debit_debt_scaled_debt, Nat.sub_self]
    by_cases same : user = other
    · rw [← same, Function.update_self, if_pos rfl]
    · rw [Function.update_of_ne (Ne.symm same), if_neg same]

theorem follows_supplied (pool : Pool.State Account) (user : Account) (amount scaled : Nat) :
    Follows naming pool ((pool.creditSupply user scaled).emit (.supplied user amount scaled)) := by
  apply Follows.emit
  · rfl
  · exact id
  · exact fun other => update_credit _ _ _ _
  · exact fun other => (Int.add_zero _).symm

theorem follows_withdrawn (pool : Pool.State Account) (user : Account) {amount scaled : Nat}
    (held : scaled ≤ pool.scaledSupply user) :
    Follows naming pool ((pool.debitSupply user scaled).emit (.withdrawn user amount scaled)) := by
  apply Follows.emit
  · rfl
  · exact id
  · exact fun other => update_debit _ _ _ held
  · exact fun other => (Int.add_zero _).symm

theorem follows_borrowed (pool : Pool.State Account) (user : Account) (amount scaled : Nat) :
    Follows naming pool ((pool.creditDebt user scaled).emit (.borrowed user amount scaled)) := by
  apply Follows.emit
  · rfl
  · exact id
  · exact fun other => (Int.add_zero _).symm
  · exact fun other => update_credit _ _ _ _

theorem follows_repaid (pool : Pool.State Account) (payer user : Account) {amount scaled : Nat}
    (owed : scaled ≤ pool.scaledDebt user) :
    Follows naming pool ((pool.debitDebt user scaled).emit (.repaid payer user amount scaled)) := by
  apply Follows.emit
  · rfl
  · exact id
  · exact fun other => (Int.add_zero _).symm
  · exact fun other => update_debit _ _ _ owed

/-- Every call but an absorption moves the storage by what it announces. -/
theorem follows_of_exec {cfg : Pool.Config Account} {l next : Lending Account} {sender : Account}
    {call : Pool.Call Account} (other : ∀ user, call ≠ .absorbBadDebt user)
    (ran : Pool.exec cfg sender l call = .ok next) : Follows naming l.pool next.pool := by
  have accrued : Follows naming l.pool (Pool.accrue cfg l).pool := follows_accrue cfg l
  cases call with
  | accrue =>
      cases ran
      exact accrued
  | supply amount =>
      obtain ⟨_, _, _, _, _, rfl⟩ := Pool.supply_ok_iff.1 ran
      rw [Lending.put_pool]
      exact accrued.trans (follows_supplied _ _ _ _)
  | withdraw amount =>
      obtain ⟨_, _, _, _, _, _, _, rfl⟩ := Pool.withdraw_ok_iff.1 ran
      rw [Lending.put_pool]
      apply accrued.trans
      apply follows_withdrawn
      rw [Pool.accrue_scaled_supply]
      exact min_le_right _ _
  | borrow amount onBehalfOf =>
      obtain ⟨_, _, _, _, _, _, _, rfl⟩ := Pool.borrow_ok_iff.1 ran
      rw [Lending.put_pool]
      exact accrued.trans (follows_borrowed _ _ _ _)
  | repay amount onBehalfOf =>
      obtain ⟨_, _, _, _, _, _, rfl⟩ := Pool.repay_ok_iff.1 ran
      rw [Lending.put_pool]
      exact accrued.trans (follows_repaid _ _ _ (Pool.repaid_scaled_le_owed _ _ _))
  | absorbBadDebt user => exact absurd rfl (other user)
  | withdrawReserves amount =>
      obtain ⟨_, _, _, _, _, _, rfl⟩ := Pool.withdraw_reserves_ok_iff.1 ran
      rw [Lending.put_pool]
      apply Follows.unmoved
      · exact ⟨rfl, rfl, rfl⟩
      · exact id
      · exact fun _ => ⟨rfl, rfl⟩
  | setBorrowModule target =>
      simp only [Pool.exec, Pool.setBorrowModule, bind_ok_iff, Except.ok.injEq] at ran
      obtain ⟨_, _, _, _, _, _, rfl⟩ := ran
      rw [Lending.put_pool]
      apply Follows.unmoved
      · exact ⟨rfl, rfl, rfl⟩
      · exact id
      · exact fun _ => ⟨rfl, rfl⟩
  | administer call =>
      simp only [Pool.exec, Pool.administer, bind_ok_iff, Except.ok.injEq] at ran
      obtain ⟨_, _, rfl⟩ := ran
      rw [Lending.put_pool]
      apply Follows.unmoved
      · exact ⟨rfl, rfl, rfl⟩
      · exact id
      · exact fun _ => ⟨rfl, rfl⟩
  | guard call =>
      simp only [Pool.exec, Pool.guard, bind_ok_iff, Except.ok.injEq] at ran
      obtain ⟨_, _, rfl⟩ := ran
      rw [Lending.put_pool]
      apply Follows.unmoved
      · exact ⟨rfl, rfl, rfl⟩
      · exact id
      · exact fun _ => ⟨rfl, rfl⟩

/-- The supply book is the storage; the debt book is never below it, and above it exactly
when some debt was absorbed. -/
structure PoolBooked (naming : Naming Account) (pool : Pool.State Account) : Prop where
  supply : ∀ user, poolBook naming pool.logs user supplyScaled = pool.scaledSupply user
  debt : ∀ user, (pool.scaledDebt user : Int) ≤ poolBook naming pool.logs user debtScaled
  exact_iff : (∀ user, poolBook naming pool.logs user debtScaled = pool.scaledDebt user) ↔
    ¬Absorbs pool.logs

omit [DecidableEq Account] in
theorem PoolBooked.follows (before : PoolBooked naming pool)
    (follows : Follows naming pool after) : PoolBooked naming after where
  supply user := by
    have same := follows.supply user
    have booked := before.supply user
    omega
  debt user := by
    have same := follows.debt user
    have booked := before.debt user
    omega
  exact_iff := by
    rw [follows.absorbs, ← before.exact_iff]
    apply forall_congr'
    intro user
    have same := follows.debt user
    omega

omit [Zero Account] in
theorem absorbs_absorbed (pool : Pool.State Account) (user : Account) :
    Absorbs (pool.absorbed user).logs := by
  rw [Pool.State.absorbed]
  exact absorbs_append.2 (.inr trivial)

theorem PoolBooked.absorbed (before : PoolBooked naming pool)
    (owed : pool.scaledDebt user ≠ 0) : PoolBooked naming (pool.absorbed user) where
  supply other := by
    obtain ⟨book, kept, _⟩ := absorbed_books naming pool user other
    rw [book, kept]
    exact before.supply other
  debt other := by
    obtain ⟨_, _, book, left⟩ := absorbed_books naming pool user other
    have booked := before.debt other
    rw [book, left]
    split_ifs
    · exact (Int.natCast_nonneg _).trans booked
    · exact booked
  exact_iff := by
    refine ⟨fun kept => ?_, fun quiet => absurd (absorbs_absorbed pool user) quiet⟩
    obtain ⟨_, _, book, left⟩ := absorbed_books naming pool user user
    have booked := before.debt user
    have same := kept user
    rw [book, left, if_pos rfl] at same
    omega

section Runs

variable [Fintype Account] {cfg : Pool.Config Account} {l : Lending Account}

theorem pool_booked_of_reachable (naming : Naming Account)
    (reached : (Pool.machine cfg).Reachable l) : PoolBooked naming l.pool := by
  apply reached.invariant fun l => PoolBooked naming l.pool
  · intro state start
    obtain ⟨⟨_, access, guardian, _, fresh⟩, _⟩ := start
    rw [fresh]
    refine ⟨fun _ => rfl, fun _ => Int.le_refl _, fun _ => ?_, fun _ _ => rfl⟩
    rintro ⟨event, member, _⟩
    cases member
  · intro state action next history before taken
    obtain ⟨_, ran⟩ := taken
    cases action with
    | call sender call =>
        by_cases absorbs : ∃ user, call = .absorbBadDebt user
        · obtain ⟨user, rfl⟩ := absorbs
          obtain ⟨_, owing, _, rfl⟩ := Pool.exec_absorb_ok_iff.1 ran
          have sound : (Pool.accrue cfg state).pool.Sound :=
            (Pool.sound_of_reachable history).accrue
          rw [Ne, sound.debt_eq_zero_iff] at owing
          exact (before.follows (follows_accrue cfg state)).absorbed owing
        · exact before.follows (follows_of_exec (not_exists.1 absorbs) ran)
    | asset sender call =>
        simp only [Pool.act, bind_ok_iff, Except.ok.injEq] at ran
        obtain ⟨_, _, rfl⟩ := ran
        exact before
    | wait seconds =>
        cases ran
        exact before

end Runs

end PoolBooks

/-! ## The vault's book -/

section VaultBook

variable (naming : Naming Account)

def vaultBook (logs : List (Vault.Event Account)) (user : Account) (ledger : Text) : Int :=
  (logs.map fun event => added (naming.name user) ledger (decodeVault naming event)).sum

variable {naming} {cfg : Vault.Config Account} {pool : Pool.Config Account}
  {c mid after : Chain Account} {sender user : Account} {amount : Nat}

omit [DecidableEq Account] in
theorem vault_book_emit (c : Chain Account) (event : Vault.Event Account) (user : Account)
    (ledger : Text) : vaultBook naming (c.emit event).vault.logs user ledger =
      vaultBook naming c.vault.logs user ledger +
        added (naming.name user) ledger (decodeVault naming event) := by
  simp [vaultBook, Chain.emit]

omit [DecidableEq Account] in
theorem named_zero_iff {account : Account} :
    naming.name account = zeroAddress ↔ account = 0 := by
  rw [← naming.zero, named_iff]

def transferDelta (source target : Account) (value : Nat) (user : Account) : Int :=
  (if target ≠ 0 ∧ target = user then (value : Int) else 0) +
    if source ≠ 0 ∧ source = user then -(value : Int) else 0

theorem added_transfer (source target user : Account) (value : Nat) :
    added (naming.name user) shares (decodeVault naming (.transfer source target value)) =
      transferDelta source target value user := by
  have burn : added (naming.name user) shares
      (if naming.name source ≠ zeroAddress then
        [balanceEntry (naming.name source) shares (-(value : Int)) (some (naming.name target))]
      else []) = if source ≠ 0 ∧ source = user then -(value : Int) else 0 := by
    by_cases none : source = 0
    · simp [named_zero_iff, none]
    · simp [named_zero_iff, none, balance_entry_adds, named_iff]
  have mint : added (naming.name user) shares
      (if naming.name target ≠ zeroAddress then
        [balanceEntry (naming.name target) shares (value : Int) (some (naming.name source))]
      else []) = if target ≠ 0 ∧ target = user then (value : Int) else 0 := by
    by_cases none : target = 0
    · simp [named_zero_iff, none]
    · simp [named_zero_iff, none, balance_entry_adds, named_iff]
  rw [decodeVault, decodeTransfer, added_append, added_append, burn, mint, transferDelta]
  split_ifs <;> simp

theorem balance_of_update {token next : Erc20 Account} {source target : Account} {value : Nat}
    (ran : token.update source target value = .ok next) (user : Account) :
    (next.balanceOf user : Int) =
      token.balanceOf user + transferDelta source target value user := by
  simp only [Erc20.update, bind_ok_iff, Except.ok.injEq] at ran
  obtain ⟨taken, took, rfl⟩ := ran
  have left : (taken.balanceOf user : Int) = token.balanceOf user +
      if source ≠ 0 ∧ source = user then -(value : Int) else 0 := by
    by_cases none : source = 0
    · rw [Erc20.take, if_pos none] at took
      cases took
      simp [none]
    · obtain ⟨held, rfl⟩ := (Erc20.take_ok_iff _ _ none _).1 took
      simp only [ne_eq, none, not_false_eq_true, true_and]
      exact update_debit _ _ _ held
  by_cases burnt : target = 0
  · rw [Erc20.give, if_pos burnt, transferDelta]
    simp [burnt, left]
  · have arrives := update_credit taken.balanceOf target user value
    rw [Erc20.give, if_neg burnt, transferDelta]
    simp only [ne_eq, burnt, not_false_eq_true, true_and]
    change ((Function.update taken.balanceOf target (taken.balanceOf target + value) user : Nat) :
      Int) = _
    rw [arrives, left]
    simp only [ne_eq]
    ring

/-- The shares moved by what was announced, and the pool absorbed nothing. -/
structure VaultFollows (naming : Naming Account) (c after : Chain Account) : Prop where
  shares : ∀ user, vaultBook naming after.vault.logs user shares - Vault.balanceOf after user =
    vaultBook naming c.vault.logs user shares - Vault.balanceOf c user
  absorbs : Absorbs after.pool.logs ↔ Absorbs c.pool.logs

omit [DecidableEq Account] in
theorem VaultFollows.refl (naming : Naming Account) (c : Chain Account) :
    VaultFollows naming c c :=
  ⟨fun _ => rfl, Iff.rfl⟩

omit [DecidableEq Account] in
theorem VaultFollows.trans (left : VaultFollows naming c mid)
    (right : VaultFollows naming mid after) : VaultFollows naming c after where
  shares user := (right.shares user).trans (left.shares user)
  absorbs := right.absorbs.trans left.absorbs

omit [DecidableEq Account] in
/-- A write of neither the shares, the vault's logs nor the pool. -/
theorem VaultFollows.of_same (logs : after.vault.logs = c.vault.logs)
    (held : Vault.balanceOf after = Vault.balanceOf c) (pool : after.pool = c.pool) :
    VaultFollows naming c after where
  shares user := by rw [logs, held]
  absorbs := by rw [pool]

omit [DecidableEq Account] in
theorem VaultFollows.of_vault (same : after.vault = c.vault)
    (absorbs : Absorbs after.pool.logs ↔ Absorbs c.pool.logs) : VaultFollows naming c after where
  shares user := by rw [same, Vault.balance_of_shares (congrArg Vault.State.shares same)]
  absorbs := absorbs

omit [DecidableEq Account] in
theorem VaultFollows.emit (c : Chain Account) {event : Vault.Event Account}
    (quiet : ∀ user, added (naming.name user) Ledger.shares (decodeVault naming event) = 0) :
    VaultFollows naming c (c.emit event) where
  shares user := by
    rw [vault_book_emit, quiet user, Int.add_zero]
    rfl
  absorbs := Iff.rfl

theorem vault_follows_settle (cfg : Vault.Config Account) (user : Account) (c : Chain Account) :
    VaultFollows naming c (Vault.settleInternal cfg user c) := by
  have placed (position : Vault.Position) :
      VaultFollows naming c (c.setPosition user position) := .of_same rfl rfl rfl
  unfold Vault.settleInternal
  dsimp only
  split_ifs
  · exact (placed _).trans (.emit _ fun other => by simp [decodeVault])
  · exact placed _

theorem vault_follows_accrue (cfg : Vault.Config Account) (c : Chain Account) :
    VaultFollows naming c (Vault.accrueLien cfg c) := by
  apply VaultFollows.of_vault (Vault.accrue_lien_vault _ _)
  cases source : cfg.lienSource with
  | none =>
      rw [Vault.accrueLien, source]
  | some pool =>
      rw [Vault.accrue_lien_lending source]
      have follows : Follows naming c.pool (Pool.accrue pool c.toLending).pool :=
        follows_accrue pool c.toLending
      exact follows.absorbs

theorem vault_follows_update {source target : Account} {value : Nat}
    (ran : Vault.updateInternal cfg source target value c = .ok after) :
    VaultFollows naming c after := by
  simp only [Vault.updateInternal, bind_ok_iff, Except.ok.injEq] at ran
  obtain ⟨carried, carries, next, updated, rfl⟩ := ran
  have ledger : VaultFollows naming c carried := by
    unfold Vault.carryLedger at carries
    split_ifs at carries
    · simp only [Vault.moveLedger, bind_ok_iff] at carries
      obtain ⟨_, _, moved⟩ := carries
      have settled : VaultFollows naming c
          (Vault.settleInternal cfg target (Vault.settleInternal cfg source c)) :=
        (vault_follows_settle cfg source c).trans (vault_follows_settle cfg target _)
      split_ifs at moved
      · cases moved
        exact settled
      · cases moved
        apply settled.trans
        refine VaultFollows.trans ?_ (.emit _ fun other => by simp [decodeVault])
        exact .of_same rfl rfl rfl
    · cases carries
      exact .refl _ _
  apply ledger.trans
  refine ⟨fun user => ?_, Iff.rfl⟩
  have moved := balance_of_update updated user
  have announced : vaultBook naming
      ((carried.setShares next).emit (.transfer source target value)).vault.logs user shares =
        vaultBook naming carried.vault.logs user shares +
          transferDelta source target value user := by
    rw [vault_book_emit, added_transfer]
    rfl
  rw [announced]
  change _ - (next.balanceOf user : Int) = _ - (carried.vault.shares.balanceOf user : Int)
  omega

theorem vault_follows_mint {target : Account} {value : Nat}
    (ran : Vault.mintShares cfg target value c = .ok after) : VaultFollows naming c after := by
  simp only [Vault.mintShares, bind_ok_iff, require_ok_iff, exists_const] at ran
  exact vault_follows_update ran.2

theorem vault_follows_burn {source : Account} {value : Nat}
    (ran : Vault.burnShares cfg source value c = .ok after) : VaultFollows naming c after := by
  simp only [Vault.burnShares, bind_ok_iff, require_ok_iff, exists_const] at ran
  exact vault_follows_update ran.2

theorem vault_follows_transfer {source target : Account} {value : Nat}
    (ran : Vault.transferInternal cfg source target value c = .ok after) :
    VaultFollows naming c after := by
  simp only [Vault.transferInternal, bind_ok_iff, require_ok_iff, exists_const] at ran
  exact vault_follows_update ran.2.2

theorem vault_follows_authorize {caller owner : Account} {value : Nat}
    (ran : Vault.authorize caller owner value c = .ok after) : VaultFollows naming c after := by
  obtain ⟨_, rfl⟩ := Vault.authorize_ok ran
  exact .of_same rfl rfl rfl

omit [DecidableEq Account] in
theorem vault_follows_pay {call : Erc20 Account → Outcome Account (Erc20 Account)}
    (ran : c.pay call = .ok after) : VaultFollows naming c after := by
  obtain ⟨_, _, rfl⟩ := Chain.pay_ok_iff.1 ran
  exact .of_vault rfl Iff.rfl

theorem vault_follows_lend {caller : Account} (call : Pool.Call Account)
    (other : ∀ user, call ≠ .absorbBadDebt user)
    (ran : c.lend (fun lending => Pool.exec pool caller lending call) = .ok after) :
    VaultFollows naming c after := by
  obtain ⟨lending, lent, rfl⟩ := Chain.lend_ok_iff.1 ran
  have follows : Follows naming c.pool lending.pool := follows_of_exec other lent
  exact .of_vault rfl follows.absorbs

theorem vault_follows_repay_lien (ran : Vault.repayLien cfg pool amount user c = .ok after) :
    VaultFollows naming c after := by
  obtain ⟨_, approved, repaid⟩ := (bind_ok_iff _ _ _).1 ran
  have lent : VaultFollows naming _ after :=
    vault_follows_lend (.repay amount user) (by simp) repaid
  exact (vault_follows_pay approved).trans lent

theorem vault_follows_deposit {receiver : Account} {assets minted : Nat}
    (ran : Vault.depositInternal cfg sender receiver assets minted c = .ok after) :
    VaultFollows naming c after := by
  simp only [Vault.depositInternal, bind_ok_iff, Except.ok.injEq] at ran
  obtain ⟨_, _, _, paid, issued, mints, rfl⟩ := ran
  have deposited : VaultFollows naming issued (issued.emit
      (.deposit sender receiver assets minted)) := .emit _ fun other => by simp [decodeVault]
  apply (vault_follows_settle cfg receiver c).trans
  apply (vault_follows_pay paid).trans
  apply (vault_follows_mint mints).trans
  apply deposited.trans
  refine VaultFollows.trans ?_ (.emit _ fun other => by simp [decodeVault])
  exact .of_same rfl rfl rfl

theorem vault_follows_withdraw_free {receiver owner : Account} {assets burnt before : Nat}
    (ran : Vault.withdrawFree cfg sender receiver owner assets burnt before c = .ok after) :
    VaultFollows naming c after := by
  simp only [Vault.withdrawFree, bind_ok_iff, Except.ok.injEq] at ran
  obtain ⟨_, authorized, _, burns, left, pays, rfl⟩ := ran
  have withdrawn : VaultFollows naming left (left.emit
      (.withdraw sender receiver owner assets burnt)) := .emit _ fun other => by simp [decodeVault]
  apply (vault_follows_authorize authorized).trans
  apply (vault_follows_burn burns).trans
  apply (vault_follows_pay pays).trans
  apply withdrawn.trans
  refine VaultFollows.trans ?_ (.emit _ fun other => by simp [decodeVault])
  exact .of_same rfl rfl rfl

theorem vault_follows_pay_returned {receiver : Account}
    (ran : Vault.payReturned cfg receiver amount c = .ok after) : VaultFollows naming c after := by
  unfold Vault.payReturned at ran
  split_ifs at ran
  · exact vault_follows_pay ran
  · cases ran
    exact .refl _ _

theorem vault_follows_exit_with_lien {receiver owner : Account} {assets burnt before lien : Nat}
    (ran : Vault.exitWithLien cfg pool sender receiver owner assets burnt before lien c =
      .ok after) : VaultFollows naming c after := by
  simp only [Vault.exitWithLien, bind_ok_iff, require_ok_iff, exists_const, Except.ok.injEq] at ran
  obtain ⟨_, _, _, authorized, withdrawn, burns, _, repays, paid, pays, rfl⟩ := ran
  have reduced : VaultFollows naming withdrawn
      (Vault.reducePositionProRata owner burnt before withdrawn) := .of_same rfl rfl rfl
  apply (vault_follows_authorize authorized).trans
  apply (vault_follows_burn burns).trans
  apply reduced.trans
  apply (vault_follows_repay_lien repays).trans
  apply (vault_follows_pay_returned pays).trans
  have first : VaultFollows naming paid (paid.emit
      (.withdraw sender receiver owner assets burnt)) := .emit _ fun other => by simp [decodeVault]
  apply first.trans
  refine VaultFollows.trans ?_ (.emit _ fun other => by simp [decodeVault])
  exact .emit _ fun other => by simp [decodeVault]

theorem vault_follows_withdraw {receiver owner : Account} {assets burnt : Nat}
    (ran : Vault.withdrawInternal cfg sender receiver owner assets burnt c = .ok after) :
    VaultFollows naming c after := by
  by_cases free : Vault.lienOf cfg c owner = 0
  · rw [Vault.withdraw_internal_of_free free] at ran
    exact (vault_follows_settle cfg owner c).trans (vault_follows_withdraw_free ran)
  · obtain ⟨pool, source⟩ := Vault.source_of_lien free
    rw [Vault.withdraw_internal_of_lien source free] at ran
    apply (vault_follows_settle cfg owner c).trans
    exact (vault_follows_accrue cfg _).trans (vault_follows_exit_with_lien ran)

theorem vault_follows_borrow {recipient : Account}
    (ran : Vault.borrowInternal cfg user amount recipient c = .ok after) :
    VaultFollows naming c after := by
  simp only [Vault.borrowInternal, bind_ok_iff, require_ok_iff, exists_const,
    Except.ok.injEq] at ran
  obtain ⟨_, _, _, _, _, borrowed, _, paid, rfl⟩ := ran
  apply (vault_follows_settle cfg user c).trans
  apply (vault_follows_accrue cfg _).trans
  have lent : VaultFollows naming _ _ :=
    vault_follows_lend (.borrow amount user) (by simp) borrowed
  apply lent.trans
  apply (vault_follows_pay paid).trans
  exact .emit _ fun other => by simp [decodeVault]

theorem vault_follows_pull_and_repay {payer : Account}
    (ran : Vault.pullAndRepay cfg pool payer user amount c = .ok after) :
    VaultFollows naming c after := by
  obtain ⟨_, pulled, repaid⟩ := (bind_ok_iff _ _ _).1 ran
  exact (vault_follows_pay pulled).trans (vault_follows_repay_lien repaid)

theorem vault_follows_burn_collateral
    (ran : Vault.burnCollateral cfg user amount c = .ok after) : VaultFollows naming c after := by
  simp only [Vault.burnCollateral, bind_ok_iff, Except.ok.injEq] at ran
  obtain ⟨_, burns, rfl⟩ := ran
  exact (vault_follows_burn burns).trans (.of_same rfl rfl rfl)

theorem vault_follows_liquidate
    (ran : Vault.liquidate cfg sender user amount c = .ok after) :
    VaultFollows naming c after := by
  simp only [Vault.liquidate, Vault.seizeCollateral, bind_ok_iff, require_ok_iff, exists_const,
    Except.ok.injEq] at ran
  obtain ⟨_, _, _, _, _, _, repays, _, ⟨_, burns, pays⟩, rfl⟩ := ran
  apply (vault_follows_settle cfg user c).trans
  apply (vault_follows_accrue cfg _).trans
  apply (vault_follows_pull_and_repay repays).trans
  apply (vault_follows_burn_collateral burns).trans
  apply (vault_follows_pay pays).trans
  exact .emit _ fun other => by simp [decodeVault]

theorem vault_follows_recover (ran : Vault.recover cfg pool user amount c = .ok after) :
    VaultFollows naming c after := by
  unfold Vault.recover at ran
  split_ifs at ran
  · obtain ⟨_, burns, repays⟩ := (bind_ok_iff _ _ _).1 ran
    exact (vault_follows_burn_collateral burns).trans (vault_follows_repay_lien repays)
  · cases ran
    exact .refl _ _

/-- A write-off moves the shares by the transfers it announces, and the pool absorbs. -/
theorem absorbs_of_write_off (naming : Naming Account)
    (ran : Vault.writeOffBadDebt cfg sender user c = .ok after) :
    (∀ other, vaultBook naming after.vault.logs other shares - Vault.balanceOf after other =
      vaultBook naming c.vault.logs other shares - Vault.balanceOf c other) ∧
      Absorbs after.pool.logs := by
  simp only [Vault.writeOffBadDebt, bind_ok_iff, require_ok_iff, exists_const, Except.ok.injEq,
    Prod.exists] at ran
  obtain ⟨_, _, _, recovered, recovers, written, lending, absorbs, rfl⟩ := ran
  have recovery : VaultFollows naming c recovered := (vault_follows_settle cfg user c).trans
    ((vault_follows_accrue cfg _).trans (vault_follows_recover recovers))
  constructor
  · intro other
    refine Eq.trans ?_ (recovery.shares other)
    refine (VaultFollows.emit { recovered with toLending := lending } ?_).shares other
    intro account
    simp [decodeVault]
  · obtain ⟨_, _, _, _, rfl⟩ := Pool.absorb_bad_debt_ok_iff.1 absorbs
    exact absorbs_absorbed _ _

/-- So does every other call on the vault, and the pool absorbs nothing. -/
theorem vault_follows_of_exec {call : Vault.Call Account}
    (other : ∀ user, call ≠ .writeOffBadDebt user)
    (ran : Vault.exec cfg sender c call = .ok after) : VaultFollows naming c after := by
  cases call with
  | deposit assets receiver => exact vault_follows_deposit ran
  | mint minted receiver => exact vault_follows_deposit ran
  | withdraw assets receiver owner =>
      simp only [Vault.exec, Vault.withdraw, bind_ok_iff] at ran
      obtain ⟨_, _, ran⟩ := ran
      exact vault_follows_withdraw ran
  | redeem burnt receiver owner =>
      simp only [Vault.exec, Vault.redeem, bind_ok_iff] at ran
      obtain ⟨_, _, ran⟩ := ran
      exact vault_follows_withdraw ran
  | borrow amount =>
      simp only [Vault.exec, Vault.borrow, bind_ok_iff] at ran
      obtain ⟨_, _, ran⟩ := ran
      exact vault_follows_borrow ran
  | borrowFor onBehalfOf amount =>
      simp only [Vault.exec, Vault.borrowFor, bind_ok_iff] at ran
      obtain ⟨_, _, _, _, ran⟩ := ran
      refine VaultFollows.trans ?_ (vault_follows_borrow ran)
      unfold Vault.spendBorrowAllowance
      dsimp only
      split_ifs
      · exact .of_same rfl rfl rfl
      · exact .refl _ _
  | approveBorrowDelegate delegate amount =>
      simp only [Vault.exec, Vault.approveBorrowDelegate, bind_ok_iff, Except.ok.injEq] at ran
      obtain ⟨_, _, rfl⟩ := ran
      refine VaultFollows.trans ?_ (.emit _ fun other => by simp [decodeVault])
      exact .of_same rfl rfl rfl
  | repay amount onBehalfOf =>
      simp only [Vault.exec, Vault.repay, bind_ok_iff, require_ok_iff, exists_const,
        Except.ok.injEq] at ran
      obtain ⟨_, _, _, _, _, repays, rfl⟩ := ran
      apply (vault_follows_accrue cfg c).trans
      apply (vault_follows_pull_and_repay repays).trans
      exact .emit _ fun other => by simp [decodeVault]
  | liquidate user repayAmount => exact vault_follows_liquidate ran
  | writeOffBadDebt user => exact absurd rfl (other user)
  | settle user =>
      cases ran
      exact vault_follows_settle cfg user c
  | transfer target value => exact vault_follows_transfer ran
  | transferFrom source target value =>
      simp only [Vault.exec, Vault.transferFrom, bind_ok_iff] at ran
      obtain ⟨_, spent, ran⟩ := ran
      obtain ⟨_, rfl⟩ := Vault.spend_share_allowance_ok_iff.1 spent
      refine VaultFollows.trans ?_ (vault_follows_transfer ran)
      exact .of_same rfl rfl rfl
  | approve spender value =>
      simp only [Vault.exec, Vault.approve, Erc20.approve, bind_ok_iff, require_ok_iff,
        exists_const, Except.ok.injEq] at ran
      obtain ⟨_, ⟨_, _, rfl⟩, rfl⟩ := ran
      exact .of_same rfl rfl rfl
  | guard call =>
      simp only [Vault.exec, Vault.guard, bind_ok_iff, Except.ok.injEq] at ran
      obtain ⟨_, _, rfl⟩ := ran
      refine VaultFollows.trans ?_ (.emit _ fun other => by simp [decodeVault])
      exact .of_same rfl rfl rfl

def WritesOff : Vault.Action Account → Bool
  | .vault _ (.writeOffBadDebt _) | .pool _ (.absorbBadDebt _) => true
  | _ => false

/-- One step: the shares move by what is announced, and the pool absorbs when it is asked to. -/
theorem books_of_step (naming : Naming Account) {action : Vault.Action Account}
    (taken : (Vault.machine cfg).step c action after) :
    (∀ user, vaultBook naming after.vault.logs user shares - Vault.balanceOf after user =
      vaultBook naming c.vault.logs user shares - Vault.balanceOf c user) ∧
      (Absorbs after.pool.logs ↔ Absorbs c.pool.logs ∨ WritesOff action = true) := by
  obtain ⟨_, ran⟩ := taken
  have quiet (follows : VaultFollows naming c after) (still : WritesOff action = false) :
      (∀ user, vaultBook naming after.vault.logs user shares - Vault.balanceOf after user =
        vaultBook naming c.vault.logs user shares - Vault.balanceOf c user) ∧
        (Absorbs after.pool.logs ↔ Absorbs c.pool.logs ∨ WritesOff action = true) :=
    ⟨follows.shares, by simp [still, follows.absorbs]⟩
  cases action with
  | vault sender call =>
      by_cases writes : ∃ user, call = .writeOffBadDebt user
      · obtain ⟨user, rfl⟩ := writes
        obtain ⟨moved, absorbed⟩ := absorbs_of_write_off naming ran
        exact ⟨moved, iff_of_true absorbed (.inr rfl)⟩
      · have other := not_exists.1 writes
        apply quiet (vault_follows_of_exec other ran)
        cases call <;> first | rfl | exact absurd rfl (other _)
  | pool sender call =>
      simp only [Vault.act, Vault.execPool, bind_ok_iff] at ran
      obtain ⟨pool, _, lent⟩ := ran
      by_cases absorbs : ∃ user, call = .absorbBadDebt user
      · obtain ⟨user, rfl⟩ := absorbs
        obtain ⟨lending, absorbed, rfl⟩ := Chain.lend_ok_iff.1 lent
        obtain ⟨_, _, _, rfl⟩ := Pool.exec_absorb_ok_iff.1 absorbed
        exact ⟨fun _ => rfl, iff_of_true (absorbs_absorbed _ _) (.inr rfl)⟩
      · have other := not_exists.1 absorbs
        apply quiet (vault_follows_lend call other lent)
        cases call <;> first | rfl | exact absurd rfl (other _)
  | asset sender call =>
      simp only [Vault.act] at ran
      exact quiet (vault_follows_pay ran) rfl
  | wait seconds =>
      cases ran
      exact quiet (.of_vault rfl Iff.rfl) rfl

section Runs

variable [Fintype Account]

/-- Nothing is absorbed before the module is set. -/
theorem quiet_of_unset (naming : Naming Account) {l : Lending Account}
    (reached : (Pool.machine pool).Reachable l) (unset : l.pool.borrowModule = 0) : ¬Absorbs l.pool.logs := by
  revert unset
  apply reached.invariant fun l => l.pool.borrowModule = 0 → ¬Absorbs l.pool.logs
  · intro state start _
    obtain ⟨⟨_, access, guardian, _, fresh⟩, _⟩ := start
    rw [fresh]
    rintro ⟨event, member, _⟩
    cases member
  · intro state action next history before taken unset
    obtain ⟨_, ran⟩ := taken
    cases action with
    | call sender call =>
        rcases Pool.exec_wiring ran with ⟨same, _⟩ | ⟨_, live, _⟩
        · have none := same.symm.trans unset
          by_cases absorbs : ∃ user, call = .absorbBadDebt user
          · obtain ⟨user, rfl⟩ := absorbs
            obtain ⟨_, owing, _⟩ := Pool.exec_absorb_ok_iff.1 ran
            rw [Pool.balanceOfDebt, Pool.accrue_scaled_debt,
              Pool.no_debt_of_unset history none, Rounding.mul_div_zero_left] at owing
            exact absurd rfl owing
          · have follows : Follows naming state.pool next.pool :=
              follows_of_exec (not_exists.1 absorbs) ran
            rw [follows.absorbs]
            exact before none
        · exact absurd unset live
    | asset sender call =>
        simp only [Pool.act, bind_ok_iff, Except.ok.injEq] at ran
        obtain ⟨_, _, rfl⟩ := ran
        exact before unset
    | wait seconds =>
        cases ran
        exact before unset

structure Booked (naming : Naming Account) (seen : Bool) (c : Chain Account) : Prop where
  shares : ∀ user, vaultBook naming c.vault.logs user shares = Vault.balanceOf c user
  absorbs : Absorbs c.pool.logs ↔ seen = true

/-- The shares are booked, and a debt was absorbed exactly when a call asked for it. -/
theorem booked_of_reachable (naming : Naming Account) (source : cfg.lienSource = some pool)
    {seen : Bool} (reached : ((Vault.machine cfg).tallied false fun seen _ action =>
      seen || WritesOff action).Reachable (seen, c)) : Booked naming seen c := by
  apply reached.invariant fun pair => Booked naming pair.1 pair.2
  · rintro ⟨tally, state⟩ ⟨rfl, start⟩
    constructor
    · intro user
      obtain ⟨guardian, fresh⟩ := start.fresh
      rw [Vault.balanceOf, fresh]
      rfl
    · have quiet := quiet_of_unset naming (start.pool_history pool source) start.unwired
      exact iff_of_false quiet (by simp)
  · rintro ⟨tally, state⟩ action ⟨tally', next⟩ _ before ⟨rfl, taken⟩
    obtain ⟨moved, absorbs⟩ := books_of_step naming taken
    constructor
    · intro user
      have same := moved user
      have booked := before.shares user
      omega
    · rw [absorbs, before.absorbs, Bool.or_eq_true]

end Runs

end VaultBook

end Ledger

end Ghoststake
