import Ghoststake.Index.Model
import Ghoststake.Ledger.Books

/-!
# Balances read from the rows

The rows of every log of a vault and its pool, and what the queries sum them to:
the contracts' own balances, in every run in which no bad debt is written off,
and in no other.
-/

namespace Ghoststake

set_option autoImplicit false

open Checked StableSort KeyedTable

namespace Ledger

open Index

variable {Account : Type} [Zero Account]

/-! ## The rows of a log -/

inductive Emitted (Account : Type) where
  | vault (event : Vault.Event Account)
  | pool (event : Pool.Event Account)

def Emitted.vaultEvent : Emitted Account → Option (Vault.Event Account)
  | .vault event => some event
  | .pool _ => none

def Emitted.poolEvent : Emitted Account → Option (Pool.Event Account)
  | .vault _ => none
  | .pool event => some event

structure Emission (Account : Type) where
  event : Emitted Account
  provenance : Nat → Provenance

section Rows

variable (naming : Naming Account) (vault pool : Account)

def contracts : List Address := [naming.name vault, naming.name pool]

def Emission.rows (emission : Emission Account) : List (Row EntryBody) :=
  match emission.event with
  | .vault event =>
      stamped emission.provenance (some (naming.name vault)) (decodeVault naming event)
  | .pool event =>
      stamped emission.provenance (some (naming.name pool)) (decodePool naming event)

def rowsOf (emissions : List (Emission Account)) : List (Row EntryBody) :=
  emissions.flatMap (Emission.rows naming vault pool)

/-- The logs of both contracts in some order, on one chain. -/
structure Emits (chainID : Int) (c : Chain Account) (emissions : List (Emission Account)) :
    Prop where
  vault : emissions.filterMap (·.event.vaultEvent) = c.vault.logs
  pool : emissions.filterMap (·.event.poolEvent) = c.pool.logs
  chain : ∀ emission ∈ emissions, ∀ i, (emission.provenance i).chainID = chainID

end Rows

/-! ## What the rows sum to -/

section Sums

variable {naming : Naming Account} {chainID : Int} {listed : List Address} {account owner : Address}
  {ledger : Text}

theorem balance_of_append (first rest : List (Row EntryBody)) :
    balanceOf (first ++ rest) chainID listed account ledger =
      balanceOf first chainID listed account ledger +
        balanceOf rest chainID listed account ledger := by
  simp [balanceOf]

theorem balance_of_stamped {provenance : Nat → Provenance}
    (chain : ∀ i, (provenance i).chainID = chainID) (watched : owner ∈ listed)
    (bodies : List EntryBody) :
    balanceOf (stamped provenance (some owner) bodies) chainID listed account ledger =
      added account ledger bodies := by
  induction bodies generalizing provenance with
  | nil => rfl
  | cons body rest ih =>
      have others := @ih (fun i => provenance (i + 1)) fun i => chain (i + 1)
      have split : stamped provenance (some owner) (body :: rest) =
          [⟨provenance 0, some owner, body⟩] ++
            stamped (fun i => provenance (i + 1)) (some owner) rest := List.mapIdx_cons
      rw [split, balance_of_append, others, added_cons]
      congr 1
      simp only [balanceOf, List.filter_cons, List.filter_nil, chain 0, EntryBody.adds]
      by_cases counted : body.account = account ∧ body.ledger = ledger ∧ body.kind = .balance
      · simp [counted, watched]
      · rw [if_neg counted]
        simp only [decide_eq_true_eq]
        rw [if_neg]
        · rfl
        · rintro ⟨_, sameAccount, sameLedger, balance, _⟩
          exact counted ⟨sameAccount, sameLedger, balance⟩

theorem balance_of_rows {vault pool : Account} {emissions : List (Emission Account)}
    (chain : ∀ emission ∈ emissions, ∀ i, (emission.provenance i).chainID = chainID)
    (user : Account) (ledger : Text) :
    balanceOf (rowsOf naming vault pool emissions) chainID (contracts naming vault pool)
        (naming.name user) ledger =
      vaultBook naming (emissions.filterMap (·.event.vaultEvent)) user ledger +
        poolBook naming (emissions.filterMap (·.event.poolEvent)) user ledger := by
  induction emissions with
  | nil => rfl
  | cons emission rest ih =>
      have others := ih fun other member => chain other (List.mem_cons_of_mem _ member)
      have here := chain emission List.mem_cons_self
      rw [rowsOf, List.flatMap_cons, balance_of_append]
      change _ + balanceOf (rowsOf naming vault pool rest) _ _ _ _ = _
      rw [others]
      obtain ⟨event, provenance⟩ := emission
      cases event with
      | vault event =>
          have summed : balanceOf (Emission.rows naming vault pool ⟨.vault event, provenance⟩)
              chainID (contracts naming vault pool) (naming.name user) ledger =
                added (naming.name user) ledger (decodeVault naming event) :=
            balance_of_stamped here (by simp [contracts]) _
          rw [summed]
          simp [Emitted.vaultEvent, Emitted.poolEvent, vaultBook, add_assoc]
      | pool event =>
          have summed : balanceOf (Emission.rows naming vault pool ⟨.pool event, provenance⟩)
              chainID (contracts naming vault pool) (naming.name user) ledger =
                added (naming.name user) ledger (decodePool naming event) :=
            balance_of_stamped here (by simp [contracts]) _
          rw [summed]
          simp [Emitted.vaultEvent, Emitted.poolEvent, poolBook, add_left_comm]

end Sums

/-! ## The contracts' own figures -/

section Books

variable {naming : Naming Account} {cfg : Vault.Config Account} {pool : Pool.Config Account}
  {chainID : Int} {c : Chain Account} {emissions : List (Emission Account)} {seen : Bool}

/-- Every account that owes, and no other, the most exposed first. -/
structure ListsBorrowers (naming : Naming Account) (c : Chain Account) (out : List Address) :
    Prop where
  distinct : out.Nodup
  members : ∀ account, account ∈ out ↔
    ∃ user, account = naming.name user ∧ Pool.balanceOfDebt c.pool user ≠ 0
  sorted : out.Pairwise fun a b => ∀ user other, a = naming.name user → b = naming.name other →
    c.pool.scaledDebt other ≤ c.pool.scaledDebt user

/-- The three books are the contracts' balances, and the borrowers are listed. -/
structure BooksEqual [Fintype Account] (naming : Naming Account) (cfg : Vault.Config Account)
    (pool : Pool.Config Account) (chainID : Int) (c : Chain Account)
    (rows : List (Row EntryBody)) : Prop where
  shares : ∀ user, balanceOf rows chainID (contracts naming cfg.address pool.address)
    (naming.name user) shares = Vault.balanceOf c user
  supply : ∀ user, balanceOf rows chainID (contracts naming cfg.address pool.address)
    (naming.name user) supplyScaled = c.pool.scaledSupply user
  debt : ∀ user, balanceOf rows chainID (contracts naming cfg.address pool.address)
    (naming.name user) debtScaled = c.pool.scaledDebt user
  borrowers : ∀ limit out,
    (Finset.univ.filter fun user => Pool.balanceOfDebt c.pool user ≠ 0).card ≤ limit →
    BorrowersByExposure rows chainID (contracts naming cfg.address pool.address) limit out →
    ListsBorrowers naming c out

theorem added_shares_pool (user : Account) (event : Pool.Event Account) :
    added (naming.name user) shares (decodePool naming event) = 0 := by
  cases event <;>
    simp [decodePool, balance_entry_adds, books_apart.2.1.symm, books_apart.2.2.symm]

theorem added_pool_vault (user : Account) (event : Vault.Event Account) {ledger : Text}
    (other : ledger ≠ shares) : added (naming.name user) ledger (decodeVault naming event) = 0 := by
  cases event with
  | transfer source target value =>
      rw [decodeVault, decodeTransfer]
      split_ifs <;> simp [balance_entry_adds, other.symm]
  | _ => simp [decodeVault]

theorem vault_book_other {logs : List (Vault.Event Account)} {user : Account} {ledger : Text}
    (other : ledger ≠ shares) : vaultBook naming logs user ledger = 0 := by
  rw [vaultBook, List.sum_eq_zero]
  intro value member
  obtain ⟨event, _, rfl⟩ := List.mem_map.1 member
  exact added_pool_vault user event other

theorem pool_book_shares {logs : List (Pool.Event Account)} {user : Account} :
    poolBook naming logs user shares = 0 := by
  rw [poolBook, List.sum_eq_zero]
  intro value member
  obtain ⟨event, _, rfl⟩ := List.mem_map.1 member
  exact added_shares_pool user event

theorem balance_of_shares (emits : Emits chainID c emissions) (vault pool user : Account) :
    balanceOf (rowsOf naming vault pool emissions) chainID (contracts naming vault pool)
      (naming.name user) shares = vaultBook naming c.vault.logs user shares := by
  rw [balance_of_rows emits.chain, emits.vault, pool_book_shares, Int.add_zero]

theorem balance_of_pool_book (emits : Emits chainID c emissions) (vault pool user : Account)
    {ledger : Text} (other : ledger ≠ shares) :
    balanceOf (rowsOf naming vault pool emissions) chainID (contracts naming vault pool)
      (naming.name user) ledger = poolBook naming c.pool.logs user ledger := by
  rw [balance_of_rows emits.chain, emits.pool, vault_book_other other, Int.zero_add]

/-! ## Who is listed -/

theorem named_of_mem_rows {vault pool : Account} {row : Row EntryBody}
    (member : row ∈ rowsOf naming vault pool emissions) :
    ∃ user, row.body.account = naming.name user := by
  obtain ⟨emission, _, stampedRow⟩ := List.mem_flatMap.1 member
  obtain ⟨event, provenance⟩ := emission
  have about (bodies : List EntryBody) (owner : Address)
      (named : ∀ body ∈ bodies, ∃ user, body.account = naming.name user)
      (inBodies : row ∈ stamped provenance (some owner) bodies) :
      ∃ user, row.body.account = naming.name user := by
    obtain ⟨i, _, rfl⟩ := List.mem_mapIdx.1 inBodies
    exact named _ (List.getElem_mem _)
  cases event with
  | vault event =>
      apply about _ _ _ stampedRow
      cases event with
      | transfer source target value =>
          intro body listed
          simp only [decodeVault, decodeTransfer, List.mem_append] at listed
          rcases listed with (burnt | minted) | moved
          · split_ifs at burnt with live
            · rw [List.mem_singleton.1 burnt]
              exact ⟨source, rfl⟩
            · cases burnt
          · split_ifs at minted with live
            · rw [List.mem_singleton.1 minted]
              exact ⟨target, rfl⟩
            · cases minted
          · split_ifs at moved with live
            · rcases List.mem_pair.1 moved with rfl | rfl
              · exact ⟨source, rfl⟩
              · exact ⟨target, rfl⟩
            · cases moved
      | _ => simp [decodeVault, flowEntry]
  | pool event =>
      apply about _ _ _ stampedRow
      cases event <;> simp [decodePool, flowEntry, balanceEntry]

theorem mem_borrowers_iff {vault pool : Account} (account : Address) :
    account ∈ borrowers (rowsOf naming vault pool emissions) chainID
        (contracts naming vault pool) ↔
      (∃ user, account = naming.name user) ∧
        0 < balanceOf (rowsOf naming vault pool emissions) chainID (contracts naming vault pool)
          account debtScaled := by
  rw [borrowers, List.mem_filter, List.mem_dedup, decide_eq_true_iff]
  apply and_congr_left
  intro positive
  constructor
  · intro grouped
    obtain ⟨row, kept, rfl⟩ := List.mem_map.1 grouped
    exact named_of_mem_rows (List.mem_filter.1 kept).1
  · intro _
    by_contra absent
    have none : balanceOf (rowsOf naming vault pool emissions) chainID
        (contracts naming vault pool) account debtScaled = 0 := by
      rw [balanceOf, List.filter_eq_nil_iff.2]
      · rfl
      · intro row member matched
        obtain ⟨chain, sameAccount, sameLedger, balance, watched⟩ := of_decide_eq_true matched
        apply absent
        rw [List.mem_map]
        exact ⟨row, List.mem_filter.2 ⟨member,
          decide_eq_true ⟨chain, sameLedger, balance, watched⟩⟩, sameAccount⟩
    omega

variable [Fintype Account]

theorem lists_borrowers {vault pool : Account} (sound : c.pool.Sound)
    (exposed : ∀ user, balanceOf (rowsOf naming vault pool emissions) chainID
      (contracts naming vault pool) (naming.name user) debtScaled = c.pool.scaledDebt user)
    {limit : Nat} {out : List Address}
    (enough : (Finset.univ.filter fun user => Pool.balanceOfDebt c.pool user ≠ 0).card ≤ limit)
    (listed : BorrowersByExposure (rowsOf naming vault pool emissions) chainID
      (contracts naming vault pool) limit out) : ListsBorrowers naming c out := by
  obtain ⟨sorted, ⟨perm, ordered⟩, rfl⟩ := listed
  have distinct : sorted.Nodup := perm.nodup_iff.2 ((List.nodup_dedup _).filter _)
  have members (account : Address) : account ∈ sorted ↔
      ∃ user, account = naming.name user ∧ Pool.balanceOfDebt c.pool user ≠ 0 := by
    rw [perm.mem_iff, mem_borrowers_iff]
    constructor
    · rintro ⟨⟨user, rfl⟩, positive⟩
      rw [exposed user] at positive
      refine ⟨user, rfl, ?_⟩
      rw [Ne, sound.debt_eq_zero_iff]
      omega
    · rintro ⟨user, rfl, owing⟩
      rw [Ne, sound.debt_eq_zero_iff] at owing
      refine ⟨⟨user, rfl⟩, ?_⟩
      rw [exposed user]
      omega
  have whole : sorted.take limit = sorted := by
    apply List.take_of_length_le
    rw [← List.toFinset_card_of_nodup distinct]
    apply le_trans (Finset.card_le_card _) (Finset.card_image_le.trans enough)
    · exact naming.name
    · intro account member
      obtain ⟨user, rfl, owing⟩ := (members account).1 (List.mem_toFinset.1 member)
      exact Finset.mem_image.2 ⟨user, Finset.mem_filter.2 ⟨Finset.mem_univ user, owing⟩, rfl⟩
  rw [whole]
  refine ⟨distinct, members, ?_⟩
  apply (ordered ?_).imp
  · rintro a b below user other rfl rfl
    dsimp only at below
    rw [exposed user, exposed other] at below
    omega
  · intro a _ b _ d _ first second
    omega

/-- The rows of a run's logs sum to the contracts' balances, and list its borrowers, exactly
when no call of the run wrote off or absorbed a bad debt. -/
theorem books_equal_iff [DecidableEq Account] (naming : Naming Account) (cfg : Vault.Config Account)
    (pool : Pool.Config Account) (source : cfg.lienSource = some pool) (chainID : Int)
    (seen : Bool) (c : Chain Account) (emissions : List (Emission Account))
    (reached : ((Vault.machine cfg).tallied false fun seen _ action =>
      seen || WritesOff action).Reachable (seen, c)) (emits : Emits chainID c emissions) :
    BooksEqual naming cfg pool chainID c (rowsOf naming cfg.address pool.address emissions) ↔
      seen = false := by
  have booked := booked_of_reachable naming source reached
  have history := Vault.pool_reachable (Machine.Reachable.of_tallied reached) pool source
  have sound := Pool.sound_of_reachable history
  have poolBooked := pool_booked_of_reachable naming history
  have debt_other : debtScaled ≠ shares := books_apart.2.1.symm
  constructor
  · intro equal
    have quiet : ¬Absorbs c.pool.logs := by
      rw [← poolBooked.exact_iff]
      intro user
      rw [← balance_of_pool_book emits cfg.address pool.address user debt_other]
      exact equal.debt user
    rw [booked.absorbs] at quiet
    exact Bool.eq_false_iff.2 quiet
  · intro still
    have quiet : ¬Absorbs c.pool.logs := by
      rw [booked.absorbs, still]
      simp
    have exposed (user : Account) : balanceOf (rowsOf naming cfg.address pool.address emissions)
        chainID (contracts naming cfg.address pool.address) (naming.name user) debtScaled =
          c.pool.scaledDebt user := by
      rw [balance_of_pool_book emits _ _ user debt_other]
      exact poolBooked.exact_iff.2 quiet user
    constructor
    · intro user
      rw [balance_of_shares emits, booked.shares]
    · intro user
      rw [balance_of_pool_book emits _ _ user books_apart.2.2.symm]
      exact poolBooked.supply user
    · exact exposed
    · intro limit out enough listed
      exact lists_borrowers sound exposed enough listed

end Books

/-! ## A borrower written off -/

section Sample

open Vault

def sampleName (account : Fin 8) : Address where
  digits := List.replicate 39 0 ++ [Fin.ofNat 16 account]
  sized := by rw [List.length_append, List.length_replicate, List.length_singleton]

/-- The accounts of the small chain, by their last digit. -/
def sampleNaming : Naming (Fin 8) where
  name := sampleName
  injective := by decide +kernel
  zero := by decide +kernel

def logPlace (n i : Nat) : Provenance where
  chainID := 1
  blockNumber := n
  blockHash := ⟨List.replicate 64 0, length_zeros⟩
  blockTime := n
  txHash := ⟨List.replicate 64 0, length_zeros⟩
  logIndex := n
  recordIndex := i
  contract := .borrowLiquidityPool
  eventName := []

def collected (c : Chain (Fin 8)) : List (Emission (Fin 8)) :=
  (c.vault.logs.map Emitted.vault ++ c.pool.logs.map Emitted.pool).mapIdx fun n event =>
    ⟨event, logPlace n⟩

theorem filter_map_placed {Event : Type} (read : Emitted (Fin 8) → Option Event)
    (place : Nat → Nat → Provenance) (events : List (Emitted (Fin 8))) :
    (events.mapIdx fun n event => Emission.mk event (place n)).filterMap (read ·.event) =
      events.filterMap read := by
  induction events generalizing place with
  | nil => rfl
  | cons event rest ih =>
      rw [List.mapIdx_cons, List.filterMap_cons, List.filterMap_cons]
      rw [ih fun n => place (n + 1)]

theorem emits_collected (c : Chain (Fin 8)) : Emits 1 c (collected c) where
  vault := by
    rw [collected, filter_map_placed]
    simp [Function.comp_def, Emitted.vaultEvent]
  pool := by
    rw [collected, filter_map_placed]
    simp [Function.comp_def, Emitted.poolEvent]
  chain emission member i := by
    obtain ⟨n, _, rfl⟩ := List.mem_mapIdx.1 member
    rfl

/-- A depositor has borrowed, nothing was written off, and the books are the
contracts' balances. -/
theorem books_equal_while_borrowing :
    ∃ c, (machine (smallVault (10 ^ 9))).Reachable c ∧ c.pool.scaledDebt 2 ≠ 0 ∧
      BooksEqual sampleNaming (smallVault (10 ^ 9)) (Pool.flatCurve (10 ^ 9)) 1 c
        (rowsOf sampleNaming 5 7 (collected c)) := by
  obtain ⟨c, reached, checked⟩ := reachable_of_replay (10 ^ 9) (fun _ action => ¬WritesOff action)
    borrowingRun (fun c => decide (c.pool.scaledDebt 2 ≠ 0)) (by decide) (by decide +kernel)
  have tallied : ((machine (smallVault (10 ^ 9))).tallied false fun seen _ action =>
      seen || WritesOff action).Reachable (false, c) :=
    reached.tallied_still fun _ action allowed => by simpa using allowed
  exact ⟨c, reached.of_restrict, of_decide_eq_true checked,
    (books_equal_iff sampleNaming _ _ rfl 1 false c _ tallied (emits_collected c)).mpr rfl⟩

/-- Written off, the borrower owes nothing and is still listed with a scaled debt. -/
theorem written_off_debt_stays_booked :
    ∃ c, (machine (smallVault (10 ^ 9))).Reachable c ∧ Emits 1 c (collected c) ∧
      c.pool.scaledDebt 2 = 0 ∧
      0 < balanceOf (rowsOf sampleNaming 5 7 (collected c)) 1 (contracts sampleNaming 5 7)
        (sampleName 2) debtScaled ∧
      ¬BooksEqual sampleNaming (smallVault (10 ^ 9)) (Pool.flatCurve (10 ^ 9)) 1 c
        (rowsOf sampleNaming 5 7 (collected c)) := by
  obtain ⟨c, reached, checked⟩ := reachable_of_replay (10 ^ 9) (fun _ _ => True)
    [.pool 6 (.setBorrowModule 5), .pool 1 (.supply (10 ^ 12)), .vault 2 (.deposit (10 ^ 9) 2),
      .vault 2 (.borrow (4 * 10 ^ 8)), .wait (2 * 10 ^ 9), .vault 4 (.writeOffBadDebt 2)]
    (fun c => decide (c.pool.scaledDebt 2 = 0 ∧
      0 < poolBook sampleNaming c.pool.logs 2 debtScaled))
    (by decide) (by decide +kernel)
  obtain ⟨cleared, booked⟩ := of_decide_eq_true checked
  have emits := emits_collected c
  have sums : balanceOf (rowsOf sampleNaming 5 7 (collected c)) 1 (contracts sampleNaming 5 7)
      (sampleName 2) debtScaled = poolBook sampleNaming c.pool.logs 2 debtScaled :=
    balance_of_pool_book emits 5 7 2 books_apart.2.1.symm
  refine ⟨c, reached.of_restrict, emits, cleared, ?_, ?_⟩
  · rw [sums]
    exact booked
  · intro equal
    have same : balanceOf (rowsOf sampleNaming 5 7 (collected c)) 1 (contracts sampleNaming 5 7)
        (sampleName 2) debtScaled = c.pool.scaledDebt 2 := equal.debt 2
    rw [sums, cleared] at same
    omega

end Sample

end Ledger

end Ghoststake
