import Ghoststake.Finance.Reader
import Ghoststake.Ledger.Activity
import Ghoststake.Screen.Literal
import Ghoststake.Vault.WriteOff

/-!
# The at-risk listing

Borrowers by how close they are to liquidation, each with what a call on it
would do. The rows are text on the wire, and the page that shows them names one
call, or none, for each.
-/

namespace Ghoststake

set_option autoImplicit false

open Rounding StableSort

namespace Finance

open Index (Text decimal)
open Ledger (setString set_string_decimal)

/-! ## Numbers on the wire -/

def bigString : Option Nat → Text
  | none => "<nil>".toList
  | some n => decimal n

/-- A character as the page receives it; none above the first plane is sent. -/
def codeUnit (c : Char) : Screen.CodeUnit := UInt16.ofNat c.toNat

def bigInt (text : Text) : Option Int := Screen.Text.bigInt (text.map codeUnit)

/-- A decimal integer that `BigInt` reads. -/
def Readable (text : Text) : Prop := ∃ n : Nat, text = decimal n ∧ bigInt text = some (n : Int)

theorem digit_of_char {d : Nat} (small : d < 10) :
    Screen.Text.digitOf (codeUnit (Nat.digitChar d)) = d := by
  revert d
  decide

theorem digit_of_code_unit {c : Char} (digit : c.isDigit = true) :
    Screen.Text.digitOf (codeUnit c) < 10 := by
  have range : 48 ≤ c.toNat ∧ c.toNat ≤ 57 := by
    simpa [Char.isDigit, UInt32.le_iff_toNat_le] using digit
  have value : (codeUnit c).toNat = c.toNat := by
    rw [codeUnit, UInt16.toNat_ofNat']
    omega
  have between : 0x30 ≤ (codeUnit c).toNat ∧ (codeUnit c).toNat ≤ 0x39 := by
    rw [value]
    exact range
  rw [Screen.Text.digitOf, if_pos between]
  omega

theorem numeral_decimal (n : Nat) :
    Screen.Text.numeral 10 ((decimal n).map codeUnit) = n := by
  induction n using Nat.strong_induction_on with
  | _ n ih =>
      have last := digit_of_char (Nat.mod_lt n (show 0 < 10 by decide))
      have written (m : Nat) : decimal m = Nat.toDigits 10 m := rfl
      by_cases single : n < 10
      · rw [written, Nat.toDigits_of_lt_base single]
        simpa [Screen.Text.numeral] using digit_of_char single
      · rw [written, Nat.toDigits_of_base_le (by decide) (Nat.not_lt.mp single), List.map_append,
          Screen.Text.numeral_append, ← written, ih (n / 10) (by omega)]
        have tail : Screen.Text.numeral 10 ([Nat.digitChar (n % 10)].map codeUnit) = n % 10 := by
          simpa [Screen.Text.numeral] using last
        rw [tail]
        simp
        omega

theorem big_int_decimal (n : Nat) : bigInt (decimal n) = some (n : Int) := by
  have plain : Screen.Text.Digits 10 ((decimal n).map codeUnit) := by
    intro unit member
    obtain ⟨c, found, rfl⟩ := List.mem_map.1 member
    exact digit_of_code_unit (Ledger.digit_of_mem_decimal found)
  rw [bigInt, Screen.Text.big_int_of_digits plain, numeral_decimal]

theorem readable_decimal (n : Nat) : Readable (decimal n) := ⟨n, rfl, big_int_decimal n⟩

theorem not_readable_nil : ¬Readable (bigString none) := by
  rintro ⟨n, written, _⟩
  have bracket : '<' ∈ decimal n := by
    rw [← written]
    decide
  exact absurd (Ledger.digit_of_mem_decimal bracket) (by decide)

theorem readable_big_string_iff {value : Option Nat} :
    Readable (bigString value) ↔ value ≠ none := by
  cases value with
  | none => exact iff_of_false not_readable_nil (not_not.2 rfl)
  | some n => exact iff_of_true (readable_decimal n) (Option.some_ne_none n)

/-! ## The rows -/

structure AtRiskPosition (Address : Type) where
  address : Address
  collateral : Text
  debt : Text
  healthFactor : Text
  ltv : Text
  band : Band
  liquidatable : Bool
  maxRepay : Text
  seized : Text
  bonus : Text
  profitable : Bool
  fullLiquidation : Bool
  writeOffCandidate : Bool

structure AtRiskResponse (Address : Type) where
  scanned : Nat
  truncated : Bool
  positions : List (AtRiskPosition Address)

namespace AtRiskPosition

variable {Address : Type}

def figures (position : AtRiskPosition Address) : List Text :=
  [position.collateral, position.debt, position.healthFactor, position.ltv, position.maxRepay,
    position.seized, position.bonus]

/-- What the handler sorts by, reading back what it has just written. -/
def Sicker (a b : AtRiskPosition Address) : Prop :=
  match setString a.healthFactor, setString b.healthFactor with
  | some left, some right => left < right
  | _, _ => False

end AtRiskPosition

inductive Action where
  | liquidate | writeOff | watch
  deriving DecidableEq, Repr

variable {Address : Type}

def actionFor (position : AtRiskPosition Address) : Action :=
  if position.writeOffCandidate then .writeOff
  else if position.liquidatable && position.profitable then .liquidate
  else .watch

def atRiskPosition (params : VaultParams) (borrower : Address) (health : Health) :
    AtRiskPosition Address where
  address := borrower
  collateral := bigString (some health.collateral)
  debt := bigString (some health.debt)
  healthFactor := bigString health.healthFactor
  ltv := bigString health.ltv
  band := health.band
  liquidatable := health.liquidatable
  maxRepay := bigString (some (quoteFor health params).maxRepay)
  seized := bigString (some (quoteFor health params).seized)
  bonus := bigString (some (quoteFor health params).bonus)
  profitable := (quoteFor health params).profitable
  fullLiquidation := (quoteFor health params).fullLiquidation
  writeOffCandidate := health.sharesValue < health.debt

variable [Zero Address] (cfg : Vault.Config Address) (pool : Pool.Config Address)
  (c : Chain Address)

/-- The rows of the scanned borrowers in the order they were scanned, without
those who owe nothing. -/
def atRiskPositions (borrowers : List Address) : List (AtRiskPosition Address) :=
  ((borrowers.zip (healthBatch cfg pool c borrowers)).filter fun (_, health) =>
    health.hasDebt).map fun (borrower, health) => atRiskPosition (vaultParams cfg) borrower health

/-- What `handleAtRisk` can answer when the store has listed these borrowers,
one more than the limit where there are that many. -/
def handleAtRisk (listed : List Address) (limit : Nat) (response : AtRiskResponse Address) :
    Prop :=
  let borrowers := listed.take limit
  response.scanned = borrowers.length ∧ response.truncated = decide (limit < listed.length) ∧
    Slice AtRiskPosition.Sicker (atRiskPositions cfg pool c borrowers) response.positions

/-! ## What a row says -/

section Rows

variable {cfg pool c} {borrower : Address} {rows : List (AtRiskPosition Address)}

theorem at_risk_positions_eq (borrowers : List Address) :
    atRiskPositions cfg pool c borrowers =
      (borrowers.filter fun borrower => (health cfg pool c borrower).hasDebt).map fun borrower =>
        atRiskPosition (vaultParams cfg) borrower (health cfg pool c borrower) := by
  have paired : borrowers.zip (healthBatch cfg pool c borrowers) =
      borrowers.map fun borrower => (borrower, health cfg pool c borrower) := by
    unfold healthBatch
    induction borrowers with
    | nil => rfl
    | cons borrower rest ih => rw [List.map_cons, List.zip_cons_cons, ih, List.map_cons]
  rw [atRiskPositions, paired, List.filter_map, List.map_map]
  rfl

variable [DecidableEq Address]

theorem readable_figures_iff {h : Health} (reads : Reads cfg c borrower h)
    (owes : h.debt ≠ 0) :
    (∀ figure ∈ (atRiskPosition (vaultParams cfg) borrower h).figures, Readable figure) ↔
      Vault.collateralValue cfg (Vault.upToDate cfg borrower c) borrower ≠ 0 := by
  have ratio : Readable (bigString h.ltv) ↔ h.collateral ≠ 0 := by
    rw [readable_big_string_iff]
    exact not_congr reads.ltv
  rw [← reads.collateral, ← ratio]
  constructor
  · intro readable
    exact readable _ (by simp [AtRiskPosition.figures, atRiskPosition])
  · intro read figure member
    simp only [AtRiskPosition.figures, atRiskPosition, List.mem_cons, List.not_mem_nil,
      or_false] at member
    rcases member with rfl | rfl | rfl | rfl | rfl | rfl | rfl
    · exact readable_decimal _
    · exact readable_decimal _
    · rw [reads.health_factor owes]
      exact readable_decimal _
    · exact read
    · exact readable_decimal _
    · exact readable_decimal _
    · exact readable_decimal _

/-- The row says write-off where the lien is more than the shares are worth. -/
theorem action_write_off_iff {h : Health} (reads : Reads cfg c borrower h) :
    actionFor (atRiskPosition (vaultParams cfg) borrower h) = .writeOff ↔
      Vault.convertToAssets cfg (Vault.upToDate cfg borrower c)
          (Vault.balanceOf (Vault.upToDate cfg borrower c) borrower) <
        Vault.lienOf cfg (Vault.upToDate cfg borrower c) borrower := by
  rw [← reads.shares, ← reads.debt, actionFor, atRiskPosition]
  dsimp only
  by_cases candidate : h.sharesValue < h.debt
  · simp [candidate]
  · simp only [candidate, decide_false, Bool.false_eq_true, if_false, iff_false]
    intro same
    split_ifs at same

omit [Zero Address] [DecidableEq Address] in
theorem profitable_repaying (repay bonus seizable : Nat) (full : Bool) :
    (Quote.repaying repay bonus seizable full).profitable = true ↔
      repay < min (repay + mulDiv repay bonus WAD) seizable := by
  simp only [Quote.repaying, decide_eq_true_iff]
  split_ifs with short
  · rw [min_eq_right short.le]
  · rw [min_eq_left (not_lt.1 short)]

/-- The row says liquidate where the collateral taken is worth more than the
most that can be repaid. -/
theorem action_liquidate_iff {h : Health} (reads : Reads cfg c borrower h) :
    actionFor (atRiskPosition (vaultParams cfg) borrower h) = .liquidate ↔
      Vault.maxLiquidatableDebt cfg (Vault.upToDate cfg borrower c) borrower <
        Vault.seizure cfg (Vault.upToDate cfg borrower c) borrower
          (Vault.maxLiquidatableDebt cfg (Vault.upToDate cfg borrower c) borrower) := by
  have pays (line : h.liquidatable = true) : (quoteFor h (vaultParams cfg)).profitable = true ↔
      Vault.maxLiquidatableDebt cfg (Vault.upToDate cfg borrower c) borrower <
        Vault.seizure cfg (Vault.upToDate cfg borrower c) borrower
          (Vault.maxLiquidatableDebt cfg (Vault.upToDate cfg borrower c) borrower) := by
    obtain ⟨full, quote⟩ := quote_read reads line
    rw [quote, profitable_repaying]
    rfl
  have solvent (gains : Vault.maxLiquidatableDebt cfg (Vault.upToDate cfg borrower c) borrower <
      Vault.seizure cfg (Vault.upToDate cfg borrower c) borrower
        (Vault.maxLiquidatableDebt cfg (Vault.upToDate cfg borrower c) borrower)) :
      ¬h.sharesValue < h.debt := by
    rw [reads.shares, reads.debt]
    intro insolvent
    exact Vault.no_gain_of_insolvent insolvent gains
  rw [actionFor, atRiskPosition]
  dsimp only
  constructor
  · intro same
    split_ifs at same with candidate worthwhile
    rw [Bool.and_eq_true] at worthwhile
    exact (pays worthwhile.1).1 worthwhile.2
  · intro gains
    have underwater := Vault.underwater_of_gain gains
    have owes : h.debt ≠ 0 := by
      rw [reads.debt]
      intro none
      rw [Vault.healthFactor, if_pos none] at underwater
      exact absurd underwater (by unfold WAD; decide)
    have line := reads.liquidatable.2 ⟨owes, underwater⟩
    simp [solvent gains, line, (pays line).2 gains]

end Rows

/-! ## The listing -/

section Listing

variable [DecidableEq Address]

/-- The rows are of the scanned borrowers who owe, sickest first; the page can
read every figure; and the call it names is the one to make. -/
structure Truthful (cfg : Vault.Config Address) (c : Chain Address) (scanned : List Address)
    (rows : List (AtRiskPosition Address)) : Prop where
  accounts : (rows.map AtRiskPosition.address).Perm (scanned.filter fun account =>
    Vault.lienOf cfg (Vault.upToDate cfg account c) account ≠ 0)
  sickest_first : rows.Pairwise fun a b => ∃ x y, bigInt a.healthFactor = some x ∧
    bigInt b.healthFactor = some y ∧ x ≤ y
  readable : ∀ row ∈ rows, ∀ figure ∈ row.figures, Readable figure
  write_off : ∀ row ∈ rows, ∀ sender, actionFor row = .writeOff ↔
    ∃ after, Vault.writeOffBadDebt cfg sender row.address c = .ok after
  liquidate : ∀ row ∈ rows, ∀ sender, Vault.Able cfg c row.address sender →
    (actionFor row = .liquidate ↔
      ∃ after, Vault.liquidate cfg sender row.address uint256Max c = .ok after ∧
        c.token.balanceOf sender < after.token.balanceOf sender)

/-- Every scanned borrower who owes has collateral left, and is one the vault
could write off if the shares were not worth the debt. -/
def Listable (cfg : Vault.Config Address) (c : Chain Address) (scanned : List Address) : Prop :=
  ∀ account ∈ scanned, Vault.lienOf cfg (Vault.upToDate cfg account c) account ≠ 0 →
    Vault.collateralValue cfg (Vault.upToDate cfg account c) account ≠ 0 ∧
      (Vault.convertToAssets cfg (Vault.upToDate cfg account c)
          (Vault.balanceOf (Vault.upToDate cfg account c) account) <
        Vault.lienOf cfg (Vault.upToDate cfg account c) account →
        c.pool.borrowModule = cfg.address)

instance (cfg : Vault.Config Address) (c : Chain Address) (scanned : List Address) :
    Decidable (Listable cfg c scanned) :=
  inferInstanceAs (Decidable (∀ account ∈ scanned, _ → _ ∧ (_ → _)))

variable {cfg pool c} {scanned : List Address} {rows : List (AtRiskPosition Address)}

theorem has_debt_iff (source : cfg.lienSource = some pool) (account : Address) :
    (health cfg pool c account).hasDebt = true ↔
      Vault.lienOf cfg (Vault.upToDate cfg account c) account ≠ 0 := by
  have reads := @reads_health _ _ _ cfg pool c source account
  rw [reads.has_debt, reads.debt]

theorem mem_positions_iff (source : cfg.lienSource = some pool)
    {row : AtRiskPosition Address} :
    row ∈ atRiskPositions cfg pool c scanned ↔ ∃ account ∈ scanned,
      Vault.lienOf cfg (Vault.upToDate cfg account c) account ≠ 0 ∧
        atRiskPosition (vaultParams cfg) account (health cfg pool c account) = row := by
  rw [at_risk_positions_eq, List.mem_map]
  simp only [List.mem_filter, has_debt_iff source, and_assoc]

theorem accounts_of_positions (source : cfg.lienSource = some pool) :
    (atRiskPositions cfg pool c scanned).map AtRiskPosition.address =
      scanned.filter fun account =>
        Vault.lienOf cfg (Vault.upToDate cfg account c) account ≠ 0 := by
  have named : AtRiskPosition.address ∘ (fun borrower =>
      atRiskPosition (vaultParams cfg) borrower (health cfg pool c borrower)) = id := rfl
  rw [at_risk_positions_eq, List.map_map, named, List.map_id]
  apply List.filter_congr
  intro account _
  rw [Bool.eq_iff_iff, decide_eq_true_iff]
  exact has_debt_iff source account

omit [Zero Address] [DecidableEq Address] in
theorem sicker_iff {a b : AtRiskPosition Address} {x y : Nat} (left : a.healthFactor = decimal x)
    (right : b.healthFactor = decimal y) : AtRiskPosition.Sicker a b ↔ x < y := by
  rw [AtRiskPosition.Sicker, left, right, set_string_decimal, set_string_decimal]
  exact Nat.cast_lt

/-- Every row has a health factor to sort by. -/
theorem health_factor_of_mem (source : cfg.lienSource = some pool)
    {row : AtRiskPosition Address} (member : row ∈ atRiskPositions cfg pool c scanned) :
    ∃ n : Nat, row.healthFactor = decimal n := by
  obtain ⟨account, _, owes, rfl⟩ := (mem_positions_iff source).1 member
  have reads := @reads_health _ _ _ cfg pool c source account
  rw [← reads.debt] at owes
  refine ⟨Vault.healthFactor cfg (Vault.upToDate cfg account c) account, ?_⟩
  rw [atRiskPosition, reads.health_factor owes]
  rfl

theorem sickest_first_of_slice (source : cfg.lienSource = some pool)
    (sorted : Slice AtRiskPosition.Sicker (atRiskPositions cfg pool c scanned) rows) :
    rows.Pairwise fun a b => ∃ x y, bigInt a.healthFactor = some x ∧
      bigInt b.healthFactor = some y ∧ x ≤ y := by
  have weak : WeakOn AtRiskPosition.Sicker (atRiskPositions cfg pool c scanned) := by
    intro a left b middle c right first second
    obtain ⟨x, ax⟩ := health_factor_of_mem source left
    obtain ⟨y, yb⟩ := health_factor_of_mem source middle
    obtain ⟨z, cz⟩ := health_factor_of_mem source right
    rw [sicker_iff yb ax, Nat.not_lt] at first
    rw [sicker_iff cz yb, Nat.not_lt] at second
    rw [sicker_iff cz ax, Nat.not_lt]
    exact first.trans second
  apply (sorted.2 weak).imp_of_mem
  intro a b left right kept
  obtain ⟨x, ax⟩ := health_factor_of_mem source (sorted.1.mem_iff.1 left)
  obtain ⟨y, yb⟩ := health_factor_of_mem source (sorted.1.mem_iff.1 right)
  rw [sicker_iff yb ax, Nat.not_lt] at kept
  refine ⟨x, y, ?_, ?_, Nat.cast_le.2 kept⟩
  · rw [ax, big_int_decimal]
  · rw [yb, big_int_decimal]

/-- The listing is truthful exactly when no scanned borrower who owes has lost
the last of its collateral, and the pool lends through the vault where one is
insolvent. -/
theorem at_risk_truthful_iff [Fintype Address] (cfg : Vault.Config Address)
    (pool : Pool.Config Address) (source : cfg.lienSource = some pool) (c : Chain Address)
    (reached : (Vault.machine cfg).Reachable c) (listed : List Address) (limit : Nat)
    (response : AtRiskResponse Address)
    (handled : handleAtRisk cfg pool c listed limit response) :
    Truthful cfg c (listed.take limit) response.positions ↔ Listable cfg c (listed.take limit) := by
  obtain ⟨_, _, sorted⟩ := handled
  have rows {row : AtRiskPosition Address} : row ∈ response.positions ↔
      row ∈ atRiskPositions cfg pool c (listed.take limit) := sorted.1.mem_iff
  constructor
  · intro truthful account member owes
    have reads := @reads_health _ _ _ cfg pool c source account
    have shown : atRiskPosition (vaultParams cfg) account (health cfg pool c account) ∈
        response.positions :=
      rows.2 ((mem_positions_iff source).2 ⟨account, member, owes, rfl⟩)
    constructor
    · rw [← reads.debt] at owes
      exact (readable_figures_iff reads owes).1 (truthful.readable _ shown)
    · intro insolvent
      have named := (action_write_off_iff reads).2 insolvent
      have ran := (truthful.write_off _ shown account).1 named
      exact ((Vault.writes_off_iff source reached account account).1 ran).2
  · intro listable
    constructor
    · rw [← accounts_of_positions source]
      exact sorted.1.map _
    · exact sickest_first_of_slice source sorted
    · intro row member
      obtain ⟨account, scanned, owes, rfl⟩ := (mem_positions_iff source).1 (rows.1 member)
      have reads := @reads_health _ _ _ cfg pool c source account
      apply (readable_figures_iff reads (reads.debt.trans_ne owes)).2
      exact (listable account scanned owes).1
    · intro row member sender
      obtain ⟨account, scanned, owes, rfl⟩ := (mem_positions_iff source).1 (rows.1 member)
      have reads := @reads_health _ _ _ cfg pool c source account
      rw [action_write_off_iff reads]
      constructor
      · intro insolvent
        have wired := (listable account scanned owes).2 insolvent
        exact (Vault.writes_off_iff source reached sender account).2 ⟨insolvent, wired⟩
      · intro ran
        exact ((Vault.writes_off_iff source reached sender account).1 ran).1
    · intro row member sender able
      obtain ⟨account, _, _, rfl⟩ := (mem_positions_iff source).1 (rows.1 member)
      have reads := @reads_health _ _ _ cfg pool c source account
      rw [action_liquidate_iff reads]
      exact (Vault.liquidate_gains_iff source reached able).symm

end Listing

/-! ## An emptied position -/

section Sample

def sampleResponse (c : Chain (Fin 8)) : AtRiskResponse (Fin 8) where
  scanned := 1
  truncated := false
  positions := atRiskPositions (Vault.smallVault (10 ^ 9)) (Pool.flatCurve (10 ^ 9)) c [2]

theorem sample_response_handled (c : Chain (Fin 8)) :
    handleAtRisk (Vault.smallVault (10 ^ 9)) (Pool.flatCurve (10 ^ 9)) c [2] 50
      (sampleResponse c) := by
  refine ⟨rfl, rfl, slice_self ?_⟩
  rw [at_risk_positions_eq, List.length_map]
  exact List.length_filter_le _ _

/-- A borrower with collateral to spare. -/
theorem borrowing_position_is_listed :
    ∃ c, (sampleResponse c).positions.length = 1 ∧
      Truthful (Vault.smallVault (10 ^ 9)) c [2] (sampleResponse c).positions := by
  obtain ⟨c, reached, checked⟩ := Vault.reachable_of_replay (10 ^ 9) (fun _ _ => True)
    Vault.borrowingRun
    (fun c => (sampleResponse c).positions.length = 1 ∧
      Listable (Vault.smallVault (10 ^ 9)) c [2])
    (by decide) (by decide +kernel)
  obtain ⟨listed, listable⟩ := of_decide_eq_true checked
  exact ⟨c, listed, (at_risk_truthful_iff _ (Pool.flatCurve (10 ^ 9)) rfl c reached.of_restrict
    [2] 50 (sampleResponse c) (sample_response_handled c)).2 listable⟩

/-- A borrower whose shares have all been seized for a part of the lien. -/
def emptiedRun : List (Vault.Action (Fin 8)) :=
  [.pool 6 (.setBorrowModule 5), .pool 1 (.supply (10 ^ 12)), .vault 2 (.deposit (10 ^ 9) 2),
    .vault 2 (.borrow (4 * 10 ^ 8)), .wait (2 * 10 ^ 9), .vault 3 (.liquidate 2 (10 ^ 9))]

/-- What it still owes has no ratio to nothing, and the row says so in a text
that is no number. -/
theorem emptied_position_is_unreadable :
    ∃ c, (Vault.machine (Vault.smallVault (10 ^ 9))).Reachable c ∧
      handleAtRisk (Vault.smallVault (10 ^ 9)) (Pool.flatCurve (10 ^ 9)) c [2] 50
        (sampleResponse c) ∧
      (sampleResponse c).positions.map AtRiskPosition.ltv = ["<nil>".toList] ∧
      ¬Truthful (Vault.smallVault (10 ^ 9)) c [2] (sampleResponse c).positions := by
  obtain ⟨c, reached, checked⟩ := Vault.reachable_of_replay (10 ^ 9) (fun _ _ => True)
    emptiedRun
    (fun c => (sampleResponse c).positions.map AtRiskPosition.ltv = ["<nil>".toList])
    (by decide) (by decide +kernel)
  have shown := of_decide_eq_true checked
  refine ⟨c, reached.of_restrict, sample_response_handled c, shown, ?_⟩
  intro truthful
  have row : "<nil>".toList ∈ (sampleResponse c).positions.map AtRiskPosition.ltv := by
    rw [shown]
    exact List.mem_singleton_self _
  obtain ⟨position, member, text⟩ := List.mem_map.1 row
  have read := truthful.readable position member position.ltv
    (by simp [AtRiskPosition.figures])
  rw [text] at read
  exact not_readable_nil read

end Sample

end Finance

end Ghoststake
