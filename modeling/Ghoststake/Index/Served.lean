import Ghoststake.Index.ExactlyOnce

/-!
# Is the endpoint serving these logs?

On a chain that only grows, behind an endpoint that serves every log it is
asked for: when the two checks on an endpoint refuse it, over every database
that any number of deployments have left.
-/

namespace Ghoststake

set_option autoImplicit false

open Calls

namespace Index

variable {Entry RoundEvent Payload : Type}

/-- One of the two refusals of an endpoint. -/
def Failure.refuses : Failure → Bool
  | .logsNotServed _ _ _ => true
  | .logsNoLongerServed _ _ _ _ _ _ => true
  | _ => false

/-- The chain at these heights, behind an endpoint and a database that answer. -/
def serving (chain : Chain Payload) (height : Nat → Nat) (tick : Nat) : Moment Payload :=
  ⟨honest chain (height tick), .works⟩

/-! ## What a call finds -/

section Calls

variable {chain : Chain Payload} {height : Nat → Nat} {lo : Nat}
variable {db : Database Entry RoundEvent} {world : Nat → Moment Payload}

theorem ends_query {Value : Type} (read : Database Entry RoundEvent → Value)
    (works : ∀ tick, (world tick).fate = .works) :
    Ends world lo db (query read) (.ok (read db)) db := by
  apply ends_ask
  intro tick _
  rw [works tick, if_pos rfl]

theorem ends_transactFrom {fromBlock : Nat}
    {write : Database Entry RoundEvent → Option (Database Entry RoundEvent)}
    (positive : fromBlock ≠ 0) (works : ∀ tick, (world tick).fate = .works) :
    Ends world lo db (transactFrom fromBlock write) (.ok ()) ((write db).getD db) := by
  unfold transactFrom ensure
  rw [if_pos positive]
  apply ends_bind (ends_pure ())
  apply ends_call
  intro tick _
  rw [works tick]

theorem ends_headerByNumber {number : Nat} {header : Header}
    (answers : ∀ tick, lo ≤ tick → (world tick).client.headerByNumber number = some header) :
    Ends world lo db (headerByNumber number) (.ok header) db := by
  apply ends_ask
  intro tick later
  rw [answers tick later]
  rfl

theorem ends_filterLogs {first last : Nat} {addresses : Option (List Address)}
    {logs : List (Log Payload)}
    (answers : ∀ tick, lo ≤ tick →
      (world tick).client.filterLogs first last addresses = some logs) :
    Ends world lo db (filterLogs first last addresses) (.ok logs) db := by
  apply ends_ask
  intro tick later
  rw [answers tick later]
  rfl

theorem serving_header {number : Nat} (tall : ∀ tick, lo ≤ tick → number ≤ height tick) :
    Ends (serving chain height) lo db (headerByNumber number) (.ok (chain.block number).header)
      db := by
  apply ends_headerByNumber
  intro tick later
  exact if_pos (tall tick later)

theorem serving_logs {first last : Nat} {addresses : Option (List Address)}
    (tall : ∀ tick, lo ≤ tick → last ≤ height tick) :
    Ends (serving chain height) lo db (filterLogs first last addresses)
      (.ok (chain.logsBetween first last addresses)) db := by
  apply ends_filterLogs
  intro tick later
  show some (chain.logsBetween first (min last (height tick)) addresses) = _
  rw [Nat.min_eq_left (tall tick later)]

end Calls

/-! ## A range read for the first time -/

section Ranges

variable {chain : Chain Payload} {height : Nat → Nat} {lo : Nat} {ix : Indexer}
variable {db : Database Entry RoundEvent}

theorem logsBetween_self (n : Nat) : chain.logsBetween n n none = (chain.block n).logs := by
  have one : n + 1 - n = 1 := by omega
  rw [Chain.logsBetween, one, List.range'_one, List.flatMap_singleton]
  exact List.filter_eq_self.2 fun _ _ => rfl

theorem serving_probe {first last : Nat} {blocks : List Nat}
    (tall : ∀ b ∈ blocks, ∀ tick, lo ≤ tick → b ≤ height tick) :
    Ends (serving chain height) lo db (probe ix first last blocks) (.ok ()) db := by
  induction blocks with
  | nil => exact ends_pure ()
  | cons b rest ih =>
      have here := tall b List.mem_cons_self
      apply ends_bind (serving_header here)
      split
      · exact ih fun other member => tall other (List.mem_cons_of_mem _ member)
      · rename_i marked
        apply ends_bind (serving_logs here)
        have some : chain.logsBetween b b none ≠ [] := by
          rw [logsBetween_self]
          intro empty
          apply marked
          simp [Block.header, empty]
        rw [if_pos some]
        exact ends_pure ()

theorem serving_range {first last head : Nat} (tall : ∀ tick, lo ≤ tick → last ≤ height tick) :
    Ends (serving chain height) lo db (assertRangeServed ix first last head) (.ok ()) db := by
  unfold assertRangeServed
  split
  · exact ends_pure ()
  · apply serving_probe
    intro b member tick later
    have inside := List.mem_range'_1.1 member
    have top := tall tick later
    omega

end Ranges

/-! ## A range read again -/

section Scan

variable {lo : Nat} {ix : Indexer} {db : Database Entry RoundEvent}
variable {world : Nat → Moment Payload}

/-- Some row of the chain stands in the window, whoever wrote it. -/
def holds (ix : Indexer) (db : Database Entry RoundEvent) (window : Nat × Nat) : Bool :=
  db.recordsInRange ix.cfg.chainID window.1 window.2 != 0

/-- What the scan says of the first window that holds a row. -/
def verdict (ix : Indexer) (db : Database Entry RoundEvent)
    (logs : Nat × Nat → List (Log Payload)) (path : Path) (first last : Nat)
    (spans : List (Nat × Nat)) : Except Failure Unit :=
  match spans.find? (holds ix db) with
  | none => .ok ()
  | some window =>
      if logs window ≠ [] then .ok ()
      else .error (.logsNoLongerServed path first last window.1 window.2
        (db.recordsInRange ix.cfg.chainID window.1 window.2))

theorem ends_scan {logs : Nat × Nat → List (Log Payload)} {path : Path} {first last : Nat}
    {spans : List (Nat × Nat)} (works : ∀ tick, (world tick).fate = .works)
    (served : ∀ window ∈ spans, ∀ tick, lo ≤ tick →
      (world tick).client.filterLogs window.1 window.2 (some ix.addresses) = some (logs window)) :
    Ends world lo db (scan ix path first last spans)
      (verdict ix db logs path first last spans) db := by
  induction spans with
  | nil => exact ends_pure ()
  | cons window rest ih =>
      apply ends_bind (ends_query _ works)
      split
      · rename_i empty
        have skips : holds ix db window = false := by
          rw [holds, empty]
          rfl
        rw [verdict, List.find?_cons_of_neg (by simp [skips])]
        exact ih fun other member => served other (List.mem_cons_of_mem _ member)
      · rename_i held
        have found : holds ix db window = true := bne_iff_ne.2 held
        apply ends_bind (ends_filterLogs (served window List.mem_cons_self))
        rw [verdict, List.find?_cons_of_pos found]
        exact ends_ensure

theorem snd_le_of_mem_windows {batchSize first last : Nat} {window : Nat × Nat}
    (member : window ∈ windows batchSize first last) : window.2 ≤ last := by
  obtain ⟨i, _, rfl⟩ := List.mem_map.1 member
  exact Nat.min_le_right _ _

end Scan

section Covered

variable {chain : Chain Payload} {height : Nat → Nat} {lo : Nat} {ix : Indexer}
variable {db : Database Entry RoundEvent}

/-- The oldest window of the range that any row of the chain stands in has a
log of a contract that `ix` watches. -/
def Covered (ix : Indexer) (chain : Chain Payload) (db : Database Entry RoundEvent)
    (first last : Nat) : Prop :=
  ∀ older window newer, windows ix.cfg.batchSize first last = older ++ window :: newer →
    (∀ other ∈ older, db.recordsInRange ix.cfg.chainID other.1 other.2 = 0) →
    db.recordsInRange ix.cfg.chainID window.1 window.2 ≠ 0 →
      ∃ n, window.1 ≤ n ∧ n ≤ window.2 ∧ ∃ log ∈ (chain.block n).logs, log.address ∈ ix.addresses

def ownLogs (ix : Indexer) (chain : Chain Payload) (window : Nat × Nat) : List (Log Payload) :=
  chain.logsBetween window.1 window.2 (some ix.addresses)

theorem ownLogs_ne_nil_iff {window : Nat × Nat} :
    ownLogs ix chain window ≠ [] ↔ ∃ n, window.1 ≤ n ∧ n ≤ window.2 ∧
      ∃ log ∈ (chain.block n).logs, log.address ∈ ix.addresses := by
  unfold ownLogs
  constructor
  · intro some
    obtain ⟨log, member⟩ := List.exists_mem_of_ne_nil _ some
    obtain ⟨n, after, before, inBlock, watched⟩ := mem_logsBetween.1 member
    exact ⟨n, after, before, log, inBlock, of_decide_eq_true watched⟩
  · rintro ⟨n, after, before, log, inBlock, watched⟩
    exact List.ne_nil_of_mem
      (mem_logsBetween.2 ⟨n, after, before, inBlock, decide_eq_true watched⟩)

theorem verdict_ok_iff {path : Path} {first last : Nat} :
    verdict ix db (ownLogs ix chain) path first last (windows ix.cfg.batchSize first last) =
      .ok () ↔ Covered ix chain db first last := by
  have skipped (window : Nat × Nat) : (!holds ix db window) = true ↔
      db.recordsInRange ix.cfg.chainID window.1 window.2 = 0 := by
    simp [holds]
  unfold verdict
  cases found : (windows ix.cfg.batchSize first last).find? (holds ix db) with
  | none =>
      refine iff_of_true rfl ?_
      intro older window newer split _ held
      have absent := List.find?_eq_none.1 found window (by simp [split])
      exact absurd (bne_iff_ne.2 held) absent
  | some window =>
      obtain ⟨held, older, newer, split, skips⟩ := List.find?_eq_some_iff_append.1 found
      have first : ownLogs ix chain window ≠ [] ↔ Covered ix chain db first last := by
        rw [ownLogs_ne_nil_iff]
        constructor
        · intro own older' window' newer' split' skips' held'
          have found' : (windows ix.cfg.batchSize first last).find? (holds ix db) =
              some window' := by
            apply List.find?_eq_some_iff_append.2
            exact ⟨bne_iff_ne.2 held', older', newer', split',
              fun other member => (skipped other).2 (skips' other member)⟩
          cases found.symm.trans found'
          exact own
        · intro covered
          exact covered older window newer split
            (fun other member => (skipped other).1 (skips other member)) (bne_iff_ne.1 held)
      rw [← first]
      dsimp only
      split_ifs with own
      · exact iff_of_true rfl own
      · exact iff_of_false nofun own

theorem recordsInRange_empty {chainID : Int} {first last : Nat} (empty : last < first) :
    db.recordsInRange chainID first last = 0 := by
  have outside {Body : Type} (table : List (Row Body)) :
      table.countP (·.within chainID first last) = 0 := by
    apply List.countP_eq_zero.2
    intro row _ inside
    simp only [Row.within, Bool.and_eq_true, decide_eq_true_eq] at inside
    omega
  rw [Database.recordsInRange, outside, outside]

/-- Nothing contradicts an empty range. -/
theorem covered_of_empty {first last : Nat} (empty : last < first) :
    Covered ix chain db first last := by
  intro older window newer split _ held
  have member : window ∈ windows ix.cfg.batchSize first last := by simp [split]
  obtain ⟨i, _, rfl⟩ := List.mem_map.1 member
  refine absurd (recordsInRange_empty ?_) held
  have top := Nat.min_le_right (first + i * ix.cfg.batchSize + ix.cfg.batchSize - 1) last
  have bottom := Nat.le_add_right first (i * ix.cfg.batchSize)
  omega

/-- Every row of the chain stands in a block with a log of these contracts. -/
def Own {Body : Type} (ix : Indexer) (chain : Chain Payload) (rows : List (Row Body)) : Prop :=
  ∀ row ∈ rows, row.provenance.chainID = ix.cfg.chainID →
    ∃ log ∈ (chain.block row.provenance.blockNumber).logs, log.address ∈ ix.addresses

/-- Rows of this deployment's own contracts are never taken for pruned logs. -/
theorem covered_of_own {first last : Nat} (entries : Own ix chain db.entries)
    (rounds : Own ix chain db.rounds) : Covered ix chain db first last := by
  intro older window newer _ _ held
  have found {Body : Type} {table : List (Row Body)} (own : Own ix chain table)
      (some : table.countP (·.within ix.cfg.chainID window.1 window.2) ≠ 0) :
      ∃ n, window.1 ≤ n ∧ n ≤ window.2 ∧
        ∃ log ∈ (chain.block n).logs, log.address ∈ ix.addresses := by
    obtain ⟨row, member, inside⟩ := List.countP_pos_iff.1 (Nat.pos_of_ne_zero some)
    simp only [Row.within, Bool.and_eq_true, beq_iff_eq, decide_eq_true_eq] at inside
    obtain ⟨⟨chainID, after⟩, before⟩ := inside
    exact ⟨_, after, before, own row member chainID⟩
  rw [Database.recordsInRange] at held
  by_cases some : db.entries.countP (·.within ix.cfg.chainID window.1 window.2) = 0
  · exact found rounds (by omega)
  · exact found entries some

/-- What the scan stops on is a refusal of the endpoint. -/
theorem refuses_of_verdict {logs : Nat × Nat → List (Log Payload)} {path : Path}
    {first last : Nat} {spans : List (Nat × Nat)} {failure : Failure}
    (stopped : verdict ix db logs path first last spans = .error failure) :
    failure.refuses = true := by
  unfold verdict at stopped
  split at stopped
  · cases stopped
  · split_ifs at stopped
    cases stopped
    rfl

theorem serving_reread {path : Path} {first last : Nat}
    (tall : ∀ tick, lo ≤ tick → last ≤ height tick) :
    ∃ result, Ends (serving chain height) lo db (assertLogsStillServed ix first last path) result
      db ∧ (result = .ok () ↔ Covered ix chain db first last) ∧
      ∀ failure, result = .error failure → failure.refuses = true := by
  unfold assertLogsStillServed
  split
  · rename_i empty
    exact ⟨.ok (), ends_pure (), iff_of_true rfl (covered_of_empty empty), nofun⟩
  · refine ⟨_, ends_scan (fun _ => rfl) ?_, verdict_ok_iff, fun _ => refuses_of_verdict⟩
    intro window member tick later
    show some (chain.logsBetween window.1 (min window.2 (height tick)) _) = _
    rw [Nat.min_eq_left ((snd_le_of_mem_windows member).trans (tall tick later))]
    rfl

theorem serving_replayFound {cursor : Cursor} (started : ix.cfg.startBlock ≠ 0)
    (wanted : wantsReplay ix cursor = true)
    (tall : ∀ tick, lo ≤ tick → cursor.lastBlock ≤ height tick) :
    ∃ result after, Ends (serving chain height) lo db (replayFound ix (some cursor)) result after ∧
      (result = .ok () ↔ Covered ix chain db ix.cfg.startBlock cursor.lastBlock) ∧
      ∀ failure, result = .error failure → failure.refuses = true := by
  obtain ⟨result, ends, passes⟩ : ∃ result, Ends (serving chain height) lo db
      (assertLogsStillServed ix ix.cfg.startBlock cursor.lastBlock .decoderReplay) result db ∧
        (result = .ok () ↔ Covered ix chain db ix.cfg.startBlock cursor.lastBlock) ∧
        ∀ failure, result = .error failure → failure.refuses = true :=
    serving_reread tall
  simp only [replayFound, if_pos wanted]
  cases result with
  | ok value => exact ⟨_, _, ends_bind ends (ends_transactFrom started fun _ => rfl), passes⟩
  | error failure => exact ⟨_, _, ends_bind_error ends, passes⟩

/-- A replay that the cursor asks for, over a range that is not covered. -/
def Unreadable (ix : Indexer) (chain : Chain Payload) (db : Database Entry RoundEvent)
    (found : Option Cursor) : Prop :=
  ∃ cursor, found = some cursor ∧ wantsReplay ix cursor = true ∧
    ¬Covered ix chain db ix.cfg.startBlock cursor.lastBlock

/-- A replay for new decoders is let through where its range is covered. -/
theorem serving_replay (started : ix.cfg.startBlock ≠ 0)
    (tall : ∀ cursor, db.cursors ix.stream = some cursor →
      ∀ tick, lo ≤ tick → cursor.lastBlock ≤ height tick) :
    ∃ result after, Ends (serving chain height) lo db (replayForNewDecoders ix) result after ∧
      (result = .ok () ↔ ¬Unreadable ix chain db (db.cursors ix.stream)) ∧
      ∀ failure, result = .error failure → failure.refuses = true := by
  have asked : Ends (serving chain height) lo db
      (query fun db => db.loadCursor ix.stream : Program Entry RoundEvent Payload (Option Cursor))
      (.ok (db.cursors ix.stream)) db := ends_query _ fun _ => rfl
  have still (readable : ¬Unreadable ix chain db (db.cursors ix.stream))
      (ends : Ends (serving chain height) lo db (replayFound ix (db.cursors ix.stream)) (.ok ())
        db) : ∃ result after, Ends (serving chain height) lo db (replayForNewDecoders ix) result
          after ∧ (result = .ok () ↔ ¬Unreadable ix chain db (db.cursors ix.stream)) ∧
          ∀ failure, result = .error failure → failure.refuses = true :=
    ⟨.ok (), db, ends_bind asked ends, iff_of_true rfl readable, nofun⟩
  cases held : db.cursors ix.stream with
  | none =>
      rw [held] at still
      apply still
      · rintro ⟨cursor, found, _⟩
        cases found
      · exact ends_pure ()
  | some cursor =>
      rw [held] at still asked
      by_cases wanted : wantsReplay ix cursor = true
      · obtain ⟨result, after, ends, passes, refuses⟩ : ∃ result after,
            Ends (serving chain height) lo db (replayFound ix (some cursor)) result after ∧
              (result = .ok () ↔ Covered ix chain db ix.cfg.startBlock cursor.lastBlock) ∧
              ∀ failure, result = .error failure → failure.refuses = true :=
          serving_replayFound started wanted (tall cursor held)
        refine ⟨result, after, ends_bind asked ends, passes.trans ?_, refuses⟩
        simp [Unreadable, wanted]
      · apply still
        · rintro ⟨other, found, asks, _⟩
          cases found
          exact wanted asks
        · simp only [replayFound, if_neg wanted]
          exact ends_pure ()

end Covered

/-! ## A boot -/

section Boot

variable {chain : Chain Payload} {height : Nat → Nat} {lo : Nat} {ix : Indexer}
variable {db after mid : Database Entry RoundEvent}

/-- Two databases that a replay check cannot tell apart. -/
structure SameCounts (ix : Indexer) (db after : Database Entry RoundEvent) : Prop where
  cursor : after.cursors ix.stream = db.cursors ix.stream
  counts : ∀ first last, after.recordsInRange ix.cfg.chainID first last =
    db.recordsInRange ix.cfg.chainID first last
  bare : after.unattributedRoundEvents ix.cfg.chainID = db.unattributedRoundEvents ix.cfg.chainID

theorem SameCounts.refl (db : Database Entry RoundEvent) : SameCounts ix db db :=
  ⟨rfl, fun _ _ => rfl, rfl⟩

theorem SameCounts.trans (first : SameCounts ix db mid) (second : SameCounts ix mid after) :
    SameCounts ix db after where
  cursor := second.cursor.trans first.cursor
  counts first' last := (second.counts first' last).trans (first.counts first' last)
  bare := second.bare.trans first.bare

theorem covered_congr (same : ∀ first last, after.recordsInRange ix.cfg.chainID first last =
    db.recordsInRange ix.cfg.chainID first last) {first last : Nat} :
    Covered ix chain after first last ↔ Covered ix chain db first last := by
  simp only [Covered, same]

theorem countP_withOwner {Body : Type} {chainID : Int} {named : Row Body → Bool} {owner : Address}
    (rows : List (Row Body)) (first last : Nat) :
    (withOwner chainID named owner rows).countP (·.within chainID first last) =
      rows.countP (·.within chainID first last) := by
  rw [withOwner, List.countP_map]
  apply List.countP_congr
  intro row _
  rw [Function.comp_apply]
  split
  · exact Iff.rfl
  · exact Iff.rfl

theorem sameCounts_attributeEntries (contract : ContractName) (address : Address) :
    SameCounts ix db (db.attributeEntries ix.cfg.chainID contract address) where
  cursor := rfl
  counts first last := congrArg (· + _) (countP_withOwner db.entries first last)
  bare := rfl

theorem ends_attributeEach {contracts : List ContractSpec} :
    ∃ after, Ends (serving chain height) lo db (attributeEach ix contracts) (.ok ()) after ∧
      SameCounts ix db after := by
  induction contracts generalizing db with
  | nil => exact ⟨db, ends_pure (), .refl db⟩
  | cons c rest ih =>
      unfold attributeEach
      split_ifs with money
      · obtain ⟨after, ends, same⟩ := @ih (db.attributeEntries ix.cfg.chainID c.name c.address)
        exact ⟨after, ends_bind (ends_call fun _ _ => rfl) ends,
          (sameCounts_attributeEntries c.name c.address).trans same⟩
      · exact ih

theorem ends_attributeExistingEntries :
    ∃ after, Ends (serving chain height) lo db (attributeExistingEntries ix) (.ok ()) after ∧
      SameCounts ix db after := by
  by_cases none : db.unattributedEntries ix.cfg.chainID = 0
  · refine ⟨db, ends_bind (ends_query _ fun _ => rfl) ?_, .refl db⟩
    rw [if_pos none]
    exact ends_pure ()
  · obtain ⟨after, ends, same⟩ : ∃ after, Ends (serving chain height) lo db
        (attributeEach ix ix.contracts) (.ok ()) after ∧ SameCounts ix db after :=
      ends_attributeEach
    refine ⟨after, ends_bind (ends_query _ fun _ => rfl) ?_, same⟩
    rw [if_neg none]
    exact ends

/-- The rounds without a market have one they can be given, or there are none. -/
def Fileable (ix : Indexer) (db : Database Entry RoundEvent) : Prop :=
  db.unattributedRoundEvents ix.cfg.chainID = 0 ∨ ∃ market, marketAddresses ix = [market]

theorem ends_attributeExistingRounds (fileable : Fileable ix db) :
    ∃ after, Ends (serving chain height) lo db (attributeExistingRounds ix) (.ok ()) after ∧
      after.cursors ix.stream = db.cursors ix.stream ∧
      ∀ first last, after.recordsInRange ix.cfg.chainID first last =
        db.recordsInRange ix.cfg.chainID first last := by
  by_cases none : db.unattributedRoundEvents ix.cfg.chainID = 0
  · refine ⟨db, ends_bind (ends_query _ fun _ => rfl) ?_, rfl, fun _ _ => rfl⟩
    rw [if_pos none]
    exact ends_pure ()
  · obtain ⟨market, only⟩ := fileable.resolve_left none
    refine ⟨db.attributeRoundEvents ix.cfg.chainID market,
      ends_bind (ends_query _ fun _ => rfl) ?_, rfl, ?_⟩
    · rw [if_neg none, only]
      exact ends_call fun _ _ => rfl
    · exact fun first last => congrArg (_ + ·) (countP_withOwner db.rounds first last)

theorem unfileable_stops (unfileable : ¬Fileable ix db) :
    Ends (serving chain height) lo db (attributeExistingRounds ix)
      (.error (.unattributedRounds (db.unattributedRoundEvents ix.cfg.chainID)
        (marketAddresses ix))) db := by
  obtain ⟨some, several⟩ := not_or.mp unfileable
  apply ends_bind (ends_query _ fun _ => rfl)
  rw [if_neg some]
  unfold attributeTo
  split
  · rename_i market only
    exact absurd ⟨market, only⟩ several
  · exact ends_fail _

theorem ends_adoptFound {found : Option Cursor} (held : db.cursors (legacyStream ix) = found) :
    ∃ after, Ends (serving chain height) lo db (adoptFound ix found) (.ok ()) after ∧
      after.cursors ix.stream = position ix db ∧ after.entries = db.entries ∧
      after.rounds = db.rounds := by
  have stays (unadopted : found.filter (adoptable ix) = none) :
      db.cursors ix.stream = position ix db := by
    rw [position, held, unadopted]
    cases db.cursors ix.stream <;> rfl
  cases found with
  | none => exact ⟨db, ends_pure (), stays rfl, rfl, rfl⟩
  | some cursor =>
      by_cases ours : adoptable ix cursor = true
      · refine ⟨db.adoptCursor (legacyStream ix) ix.stream, ?_, ?_, ?_, ?_⟩
        · rw [adoptFound, if_pos ours]
          exact ends_call fun _ _ => rfl
        · have moved := position_adopt held ours
          have finds : (db.adoptCursor (legacyStream ix) ix.stream).cursors ix.stream ≠ none :=
            db.adoptCursor_finds held
          obtain ⟨own, there⟩ := Option.ne_none_iff_exists'.1 finds
          rw [← moved, position_of_own there, there]
        · exact entriesTable.rows_adopt _ _ _
        · exact roundsTable.rows_adopt _ _ _
      · refine ⟨db, ?_, stays (Option.filter_some_neg (Bool.eq_false_iff.2 ours)), rfl, rfl⟩
        rw [adoptFound, if_neg ours]
        exact ends_pure ()

/-- As far as the replay, which the checks before it may keep a boot from. -/
structure Boots (ix : Indexer) (db : Database Entry RoundEvent) : Prop where
  named : ∀ cursor, position ix db = some cursor →
    cursor.contracts = [] ∨ cursor.contracts = ix.fingerprint
  fileable : Fileable ix db

theorem ends_checkCursorContracts
    (named : ∀ cursor, db.cursors ix.stream = some cursor →
      cursor.contracts = [] ∨ cursor.contracts = ix.fingerprint) :
    Ends (serving chain height) lo db (checkCursorContracts ix) (.ok ()) db := by
  apply ends_bind (ends_query _ fun _ => rfl)
  unfold Database.loadCursor
  cases held : db.cursors ix.stream with
  | none => exact ends_pure ()
  | some cursor =>
      rw [checkFound, ensure, if_pos (named cursor held)]
      exact ends_pure ()

theorem misnamed_stops {cursor : Cursor} (held : db.cursors ix.stream = some cursor)
    (misnamed : ¬(cursor.contracts = [] ∨ cursor.contracts = ix.fingerprint)) :
    Ends (serving chain height) lo db (checkCursorContracts ix)
      (.error (.cursorOfOtherContracts cursor.contracts ix.fingerprint)) db := by
  apply ends_bind (ends_query _ fun _ => rfl)
  unfold Database.loadCursor
  rw [held, checkFound, ensure, if_neg misnamed]
  exact ends_fail _

/-- A boot that something else than the replay stops refuses no endpoint. -/
theorem unready_refuses_iff {failure : Failure} (harmless : failure.refuses = false)
    (unready : ¬Boots ix db)
    (ends : Ends (serving chain height) lo db (preflight ix) (.error failure) after) :
    (∃ other, (preflight ix (serving chain height) lo db).result = .error other ∧
      other.refuses = true) ↔ Boots ix db ∧ Unreadable ix chain db (position ix db) := by
  refine iff_of_false ?_ fun both => unready both.1
  rintro ⟨other, stopped, refuses⟩
  rw [(result_of_ends ends).1] at stopped
  cases stopped
  rw [harmless] at refuses
  cases refuses

/-- The first two repairs change neither what is counted nor where the index stands. -/
theorem ends_first_repairs (distinct : legacyStream ix ≠ ix.stream) :
    ∃ adopted filed, Ends (serving chain height) lo db (adoptLegacyCursor ix) (.ok ()) adopted ∧
      Ends (serving chain height) lo adopted (attributeExistingEntries ix) (.ok ()) filed ∧
      filed.cursors ix.stream = position ix db ∧
      (∀ first last, filed.recordsInRange ix.cfg.chainID first last =
        db.recordsInRange ix.cfg.chainID first last) ∧
      (Fileable ix filed ↔ Fileable ix db) := by
  obtain ⟨adopted, adopts, at_, entries, rounds⟩ :
      ∃ adopted, Ends (serving chain height) lo db (adoptFound ix (db.cursors (legacyStream ix)))
        (.ok ()) adopted ∧ adopted.cursors ix.stream = position ix db ∧
        adopted.entries = db.entries ∧ adopted.rounds = db.rounds := ends_adoptFound rfl
  obtain ⟨filed, files, same⟩ : ∃ filed, Ends (serving chain height) lo adopted
      (attributeExistingEntries ix) (.ok ()) filed ∧ SameCounts ix adopted filed :=
    ends_attributeExistingEntries
  refine ⟨adopted, filed, ?_, files, same.cursor.trans at_, ?_, ?_⟩
  · rw [adoptLegacyCursor, if_neg distinct]
    exact ends_bind (ends_query _ fun _ => rfl) adopts
  · intro first last
    rw [same.counts, Database.recordsInRange, Database.recordsInRange, entries, rounds]
  · rw [Fileable, Fileable, same.bare, Database.unattributedRoundEvents,
      Database.unattributedRoundEvents, rounds]

/-- A boot refuses the endpoint exactly where it gets as far as a replay that is
not covered. -/
theorem serving_preflight (distinct : legacyStream ix ≠ ix.stream)
    (started : ix.cfg.startBlock ≠ 0)
    (tall : ∀ cursor, position ix db = some cursor →
      ∀ tick, lo ≤ tick → cursor.lastBlock ≤ height tick) :
    (∃ failure, (preflight ix (serving chain height) lo db).result = .error failure ∧
      failure.refuses = true) ↔ Boots ix db ∧ Unreadable ix chain db (position ix db) := by
  obtain ⟨adopted, filed, first, files, stands, counts, bare⟩ : ∃ adopted filed,
      Ends (serving chain height) lo db (adoptLegacyCursor ix) (.ok ()) adopted ∧
        Ends (serving chain height) lo adopted (attributeExistingEntries ix) (.ok ()) filed ∧
        filed.cursors ix.stream = position ix db ∧
        (∀ first last, filed.recordsInRange ix.cfg.chainID first last =
          db.recordsInRange ix.cfg.chainID first last) ∧
        (Fileable ix filed ↔ Fileable ix db) := ends_first_repairs distinct
  by_cases named : ∀ cursor, position ix db = some cursor →
      cursor.contracts = [] ∨ cursor.contracts = ix.fingerprint
  swap
  · push Not at named
    obtain ⟨cursor, held, apart⟩ := named
    have unready : ¬Boots ix db := fun boots => not_or.2 apart (boots.named cursor held)
    exact unready_refuses_iff rfl unready (ends_bind first (ends_bind files (ends_bind_error
      (misnamed_stops (stands.trans held) (not_or.2 apart)))))
  have checks : Ends (serving chain height) lo filed (checkCursorContracts ix) (.ok ()) filed :=
    ends_checkCursorContracts (stands ▸ named)
  by_cases fileable : Fileable ix filed
  swap
  · have unready : ¬Boots ix db := fun boots => fileable (bare.2 boots.fileable)
    exact unready_refuses_iff rfl unready (ends_bind first (ends_bind files (ends_bind checks
      (ends_bind_error (unfileable_stops fileable)))))
  obtain ⟨ready, readies, kept, counted⟩ : ∃ ready, Ends (serving chain height) lo filed
      (attributeExistingRounds ix) (.ok ()) ready ∧
      ready.cursors ix.stream = filed.cursors ix.stream ∧
      ∀ first last, ready.recordsInRange ix.cfg.chainID first last =
        filed.recordsInRange ix.cfg.chainID first last := ends_attributeExistingRounds fileable
  have here : ready.cursors ix.stream = position ix db := kept.trans stands
  obtain ⟨result, after, ends, passes, refuses⟩ :
      ∃ result after, Ends (serving chain height) lo ready (replayForNewDecoders ix) result after ∧
        (result = .ok () ↔ ¬Unreadable ix chain ready (ready.cursors ix.stream)) ∧
        ∀ failure, result = .error failure → failure.refuses = true :=
    serving_replay started (here ▸ tall)
  have reads : Unreadable ix chain ready (ready.cursors ix.stream) ↔
      Unreadable ix chain db (position ix db) := by
    simp only [Unreadable, here, covered_congr fun first last =>
      (counted first last).trans (counts first last)]
  have boots : Ends (serving chain height) lo db (preflight ix) result after :=
    ends_bind first (ends_bind files (ends_bind checks (ends_bind readies ends)))
  rw [(result_of_ends boots).1, and_iff_right ⟨named, bare.1 fileable⟩, ← reads]
  cases result with
  | ok value =>
      refine iff_of_false ?_ (passes.1 rfl)
      rintro ⟨_, stopped, _⟩
      cases stopped
  | error failure =>
      refine iff_of_true ⟨failure, rfl, refuses failure rfl⟩ ?_
      by_contra readable
      cases passes.2 readable

end Boot

/-! ## A step on a chain that only grows -/

section Step

variable {chain : Chain Payload} {height : Nat → Nat} {lo : Nat} {ix : Indexer}
variable {decode : Decoder Entry RoundEvent Payload} {db : Database Entry RoundEvent}
variable {world : Nat → Moment Payload} {Value Result : Type}

/-- A refusal nobody but a decoder could have made. -/
def Blames (decode : Decoder Entry RoundEvent Payload) (failure : Failure) : Prop :=
  failure.refuses = true → ∃ name oracle payload, decode name oracle payload = .error failure

/-- Wherever it stops, the program has refused no endpoint. -/
def Harmless (decode : Decoder Entry RoundEvent Payload) (world : Nat → Moment Payload)
    (program : Program Entry RoundEvent Payload Value) : Prop :=
  Triple world (fun _ _ => True) program (fun _ _ _ => True) (fun failure _ _ => Blames decode failure)

theorem harmless_bind {program : Program Entry RoundEvent Payload Value}
    {next : Value → Program Entry RoundEvent Payload Result}
    (first : Harmless decode world program) (rest : ∀ value, Harmless decode world (next value)) :
    Harmless decode world (program >>= next) :=
  triple_bind first rest

theorem harmless_pure (value : Value) : Harmless decode world (pure value) :=
  triple_pure fun _ _ _ => trivial

theorem harmless_answered {found : Moment Payload → Option Value} :
    Harmless decode world (ask fun moment _ => answered (found moment)) := by
  apply triple_ask
  · exact fun _ _ _ _ _ => trivial
  · intro clock state failure _ ran refuses
    cases told : found (world clock) with
    | none =>
        rw [told] at ran
        cases ran
        cases refuses
    | some value =>
        rw [told] at ran
        cases ran

theorem harmless_transact (write : Database Entry RoundEvent → Database Entry RoundEvent) :
    Harmless decode world (transact write) := by
  apply triple_call
  intro clock state _
  cases (world clock).fate with
  | works => exact trivial
  | fails => exact nofun
  | unheard => exact nofun

theorem harmless_blockTimeOf (times : List (Nat × Nat)) (number : Nat) :
    Harmless decode world (blockTimeOf times number) := by
  unfold blockTimeOf
  split
  · exact harmless_pure _
  · exact harmless_bind harmless_answered fun header => harmless_pure _

theorem harmless_decodeLog (c : ContractSpec) (log : Log Payload) (blockTime : Nat) :
    Harmless decode world (returned (decodeLog decode ix.cfg.chainID c log blockTime)) := by
  cases ran : decodeLog decode ix.cfg.chainID c log blockTime with
  | ok batch => exact harmless_pure batch
  | error failure =>
      apply triple_fail
      intro clock state _ _
      unfold decodeLog at ran
      split at ran
      · rename_i undecodable
        cases ran
        exact ⟨_, _, _, undecodable⟩
      · cases ran
      · cases ran

theorem harmless_decodeLogs (times : List (Nat × Nat)) (logs : List (Log Payload)) :
    Harmless decode world (decodeLogs decode ix times logs) := by
  induction logs generalizing times with
  | nil =>
      rw [decodeLogs]
      exact harmless_pure _
  | cons log rest ih =>
      rw [decodeLogs]
      split
      · apply harmless_bind (harmless_blockTimeOf _ _)
        intro time
        apply harmless_bind (harmless_decodeLog _ _ _)
        intro first
        exact harmless_bind (ih _) fun others => harmless_pure _
      · exact ih times

theorem serving_readRange {first last head : Nat}
    (tall : ∀ tick, lo ≤ tick → last ≤ height tick) :
    Triple (serving chain height) (fun clock state => lo ≤ clock ∧ state = db)
      (readRange decode ix first last head) (fun _ _ _ => True)
      (fun failure _ _ => Blames decode failure) := by
  have rest : Harmless decode (serving chain height) (do
      let logs ← filterLogs first last (some ix.addresses)
      let batch ← decodeLogs decode ix [] logs
      let tip ← headerByNumber last
      transact fun db => db.append batch ix.stream (nextCursor ix last tip)) := by
    apply harmless_bind harmless_answered
    intro logs
    apply harmless_bind (harmless_decodeLogs _ _)
    intro batch
    apply harmless_bind harmless_answered
    intro tip
    exact harmless_transact _
  exact triple_bind_of_ends (serving_range tall) (triple_weaken rest (fun _ _ _ => trivial)
    (fun _ _ _ => id) (fun _ _ _ => id))

def Agreed (chain : Chain Payload) (top : Nat) (cursor : Cursor) : Prop :=
  ∀ hash, cursor.lastHash = some hash →
    cursor.lastBlock ≤ top ∧ hash = (chain.block cursor.lastBlock).hash

theorem serving_checkReorg {cursor : Cursor} (growing : Monotone height)
    (agreed : Agreed chain (height lo) cursor) :
    Ends (serving chain height) lo db (checkReorg ix cursor) (.ok cursor) db := by
  unfold checkReorg
  split
  · exact ends_pure cursor
  · rename_i hash recorded
    obtain ⟨reached, rfl⟩ := agreed hash recorded
    apply ends_bind (serving_header fun tick later => reached.trans (growing later))
    have same : (chain.block cursor.lastBlock).header.hash =
      (chain.block cursor.lastBlock).hash := rfl
    rw [if_pos same]
    exact ends_pure cursor

/-- A step from a cursor the chain agrees with refuses no endpoint. -/
theorem serving_step (growing : Monotone height)
    (agreed : Agreed chain (height lo) (startCursor ix db)) :
    Triple (serving chain height) (fun clock state => lo ≤ clock ∧ state = db) (step decode ix)
      (fun _ _ _ => True) (fun failure _ _ => Blames decode failure) := by
  have asks : Triple (serving chain height) (fun clock state => lo ≤ clock ∧ state = db)
      (blockNumber : Program Entry RoundEvent Payload Nat)
      (fun head clock state => (lo ≤ clock ∧ state = db) ∧ ∀ tick, clock ≤ tick → head ≤ height tick)
      (fun failure _ _ => Blames decode failure) := by
    apply triple_ask
    · rintro clock state head ⟨began, rfl⟩ answered
      cases answered
      exact ⟨⟨by omega, rfl⟩, fun tick later => growing (by omega)⟩
    · rintro clock state failure _ answered
      cases answered
  apply triple_bind asks
  intro head
  apply triple_of_start
  rintro start state ⟨⟨began, rfl⟩, tall⟩
  split
  · exact triple_pure fun _ _ _ => trivial
  · have still : Agreed chain (height start) (startCursor ix state) := by
      intro hash recorded
      obtain ⟨reached, same⟩ := agreed hash recorded
      exact ⟨reached.trans (growing began), same⟩
    have steps : Triple (serving chain height) (fun clock s => start ≤ clock ∧ s = state)
        (stepFrom decode ix head) (fun _ _ _ => True)
        (fun failure _ _ => Blames decode failure) := by
      apply triple_bind_of_ends (ends_query _ fun _ => rfl)
      apply triple_bind_of_ends (serving_checkReorg growing still)
      unfold advance
      split
      · exact triple_pure fun _ _ _ => trivial
      · apply serving_readRange
        intro tick later
        have reached := tall tick later
        unfold lastOfRange
        omega
    apply triple_weaken steps
    · rintro clock s ⟨rfl, rfl⟩
      exact ⟨Nat.le_refl clock, rfl⟩
    · exact fun _ _ _ => id
    · exact fun _ _ _ => id

end Step

/-! ## Any number of deployments -/

section Fleet

structure Fleet (Entry RoundEvent : Type) where
  clock : Nat
  db : Database Entry RoundEvent
  booted : Indexer → Bool

variable (hashing : Hashing) (chainID : Int)

def Deploys (ix : Indexer) : Prop :=
  ∃ cfg, Indexer.new hashing cfg = .ok ix ∧ cfg.chainID = chainID

variable (decode : Indexer → Decoder Entry RoundEvent Payload) (world : Nat → Moment Payload)

def turn (f : Fleet Entry RoundEvent) (label : Indexer × Act) :
    Except Unit (Fleet Entry RoundEvent) :=
  match act (decode label.1) label.1 world ⟨f.clock, f.db, f.booted label.1⟩ label.2 with
  | .ok p => .ok ⟨p.clock, p.db, Function.update f.booted label.1 p.booted⟩
  | .error refused => .error refused

/-- Every cursor lies below `top`, on the block of the chain it was left on. -/
def Anchored (chain : Chain Payload) (top : Nat) (db : Database Entry RoundEvent) : Prop :=
  ∀ stream cursor, db.cursors stream = some cursor →
    cursor.lastBlock ≤ top ∧ Agreed chain top cursor

/-- Runs of the deployments from a database whose cursors the chain agrees with. -/
def fleet (chain : Chain Payload) (height : Nat → Nat) :
    Machine (Fleet Entry RoundEvent) (Indexer × Act) where
  initial f := Anchored chain (height f.clock) f.db ∧ ∀ ix, f.booted ix = false
  step f label next := Deploys hashing chainID label.1 ∧ turn decode world f label = .ok next

end Fleet

section FleetLemmas

variable {hashing : Hashing} {chainID : Int} {chain : Chain Payload} {height : Nat → Nat}
variable {decode : Indexer → Decoder Entry RoundEvent Payload} {world : Nat → Moment Payload}
variable {db after : Database Entry RoundEvent} {ix : Indexer} {f : Fleet Entry RoundEvent}
variable {top : Nat}

theorem Anchored.mono {higher : Nat} (anchored : Anchored chain top db) (grown : top ≤ higher) :
    Anchored chain higher db := by
  intro stream cursor found
  obtain ⟨below, agreed⟩ := anchored stream cursor found
  refine ⟨below.trans grown, ?_⟩
  intro hash recorded
  exact ⟨below.trans grown, (agreed hash recorded).2⟩

theorem Anchored.update {cursors : Text → Option Cursor} {stream : Text} {cursor : Cursor}
    (anchored : ∀ stream cursor, cursors stream = some cursor →
      cursor.lastBlock ≤ top ∧ Agreed chain top cursor)
    (below : cursor.lastBlock ≤ top) (agreed : Agreed chain top cursor) :
    ∀ other held, Function.update cursors stream (some cursor) other = some held →
      held.lastBlock ≤ top ∧ Agreed chain top held := by
  intro other held found
  by_cases same : other = stream
  · subst same
    rw [Function.update_self] at found
    cases found
    exact ⟨below, agreed⟩
  · rw [Function.update_of_ne same] at found
    exact anchored other held found

theorem anchored_of_repair (repair : Repair ix db after) (anchored : Anchored chain top db) :
    Anchored chain top after := by
  cases repair with
  | @adopt cursor distinct found ours =>
      cases held : db.cursors ix.stream with
      | some own =>
          rw [db.adoptCursor_of_taken held]
          exact anchored
      | none =>
          rw [db.adoptCursor_of_free found held]
          obtain ⟨below, agreed⟩ := anchored _ cursor found
          apply Anchored.update _ below agreed
          intro stream other kept
          by_cases same : stream = legacyStream ix
          · rw [same, Function.update_self] at kept
            cases kept
          · rw [Function.update_of_ne same] at kept
            exact anchored stream other kept
  | attributeEntries _ _ => exact anchored
  | attributeRounds _ => exact anchored
  | @replay cursor found wanted =>
      have below := (anchored _ cursor found).1
      have rewound : db.rewind ix.stream (ix.cfg.startBlock - 1) =
          Function.update db.cursors ix.stream
            (some { cursor with lastBlock := ix.cfg.startBlock - 1, lastHash := none }) := by
        rw [Database.rewind, found]
        rfl
      intro stream other kept
      rw [rewound] at kept
      refine Anchored.update anchored ?_ ?_ stream other kept
      · simp only [wantsReplay, Bool.and_eq_true, decide_eq_true_eq] at wanted
        show ix.cfg.startBlock - 1 ≤ top
        omega
      · intro hash recorded
        cases recorded

theorem anchored_of_repairs (repairs : Relation.ReflTransGen (Repair ix) db after)
    (anchored : Anchored chain top db) : Anchored chain top after := by
  induction repairs with
  | refl => exact anchored
  | tail _ repair ih => exact anchored_of_repair repair ih

theorem agreed_startCursor (anchored : Anchored chain top db) :
    Agreed chain top (startCursor ix db) := by
  unfold startCursor Database.loadCursor
  cases found : db.cursors ix.stream with
  | none => exact nofun
  | some cursor => exact (anchored _ cursor found).2

/-- Where the endpoint answers for the chain, no reorg is noticed. -/
theorem still_of_agreed {lo hi : Nat} {start cursor : Cursor}
    (answers : ∀ tick, Answers chain (height tick) (world tick).client)
    (agreed : Agreed chain top start) (checked : Checked ix world lo hi start db cursor after) :
    cursor = start ∧ after = db := by
  cases checked with
  | unverified _ => exact ⟨rfl, rfl⟩
  | verified _ _ _ _ => exact ⟨rfl, rfl⟩
  | @unwound tick header _ _ _ answered recorded moved _ =>
      exfalso
      obtain ⟨hash, held⟩ := Option.ne_none_iff_exists'.1 recorded
      apply moved
      rw [held, (agreed hash held).2, ((answers tick).headerByNumber _ _ answered).2]
      rfl

theorem anchored_of_stepped {decode : Decoder Entry RoundEvent Payload} {n m : Nat}
    {returned : Bool} (growing : Monotone height)
    (answers : ∀ tick, Answers chain (height tick) (world tick).client)
    (anchored : Anchored chain (height n) db)
    (stepped : Stepped decode ix world n db returned m after) :
    Anchored chain (height m) after := by
  have agreed : Agreed chain (height n) (startCursor ix db) := agreed_startCursor anchored
  cases stepped with
  | still order _ => exact anchored.mono (growing order)
  | looked _ _ order checked _ =>
      obtain ⟨_, rfl⟩ := still_of_agreed answers agreed checked
      exact anchored.mono (growing order)
  | @read head mid cursor state final answered deep order past checked behind committed =>
      obtain ⟨rfl, rfl⟩ := still_of_agreed answers agreed checked
      obtain ⟨_, _, _, tipAt, tip, _, _, _, _, _, tipped, rfl⟩ := committed
      have isHead := (answers n).blockNumber head answered
      have reached : lastOfRange ix (startCursor ix state) (head - ix.cfg.confirmations) ≤
          height m := by
        have grown := growing (order.trans past)
        unfold lastOfRange
        omega
      refine Anchored.update (anchored.mono (growing (order.trans past))) reached ?_
      intro hash recorded
      cases recorded
      refine ⟨reached, ?_⟩
      rw [((answers tipAt).headerByNumber _ _ tipped).2]
      rfl

theorem anchored_of_reachable (growing : Monotone height)
    (answers : ∀ tick, Answers chain (height tick) (world tick).client)
    (reached : (fleet hashing chainID decode world chain height).Reachable f) :
    Anchored chain (height f.clock) f.db := by
  induction reached with
  | initial start => exact start.1
  | @step f next label before taken ih =>
      obtain ⟨_, taken⟩ := taken
      obtain ⟨ix, made⟩ := label
      unfold turn at taken
      split at taken
      · rename_i p ran
        cases taken
        cases made with
        | restart =>
            cases ran
            exact ih
        | pass ticks =>
            cases ran
            exact ih.mono (growing (Nat.le_add_right _ _))
        | preflight =>
            obtain ⟨⟨later, repairs⟩, _⟩ := of_act_preflight ran
            exact (anchored_of_repairs repairs ih).mono (growing later)
        | step =>
            obtain ⟨_, _, stepped⟩ := of_act_step ran
            exact anchored_of_stepped growing answers ih stepped
      · cases taken

theorem cursor_of_position {cursor : Cursor} (found : position ix db = some cursor) :
    ∃ stream, db.cursors stream = some cursor := by
  unfold position at found
  split at found
  · rename_i own held
    exact ⟨ix.stream, held.trans found⟩
  · exact ⟨legacyStream ix, (Option.filter_eq_some_iff.1 found).1⟩

/-- Over every database that any number of deployments of a growing chain have
left, with an endpoint that serves every log: a range read for the first time
is let through, a range read again exactly where the oldest window of it with
a row of the chain also has a log of this deployment's contracts. So a decoder
replay is refused exactly where that fails of what it would read again, a boot
exactly where it gets as far as such a replay, and a step never. -/
theorem pruning_check_refuses_iff (growing : Monotone height)
    (answers : ∀ tick, Answers chain (height tick) (world tick).client)
    (reached : (fleet hashing chainID decode world chain height).Reachable f)
    (deployed : Deploys hashing chainID ix) :
    (∀ first last head, last ≤ height f.clock →
      (assertRangeServed ix first last head (serving chain height) f.clock f.db).result =
        .ok ()) ∧
    (∀ first last path, last ≤ height f.clock →
      ((assertLogsStillServed ix first last path (serving chain height) f.clock f.db).result =
        .ok () ↔ Covered ix chain f.db first last)) ∧
    ((replayForNewDecoders ix (serving chain height) f.clock f.db).result = .ok () ↔
      ∀ cursor, f.db.cursors ix.stream = some cursor → wantsReplay ix cursor = true →
        Covered ix chain f.db ix.cfg.startBlock cursor.lastBlock) ∧
    ((∃ failure, (preflight ix (serving chain height) f.clock f.db).result = .error failure ∧
      failure.refuses = true) ↔ Boots ix f.db ∧ Unreadable ix chain f.db (position ix f.db)) ∧
    ∀ failure, (step (decode ix) ix (serving chain height) f.clock f.db).result =
      .error failure → Blames (decode ix) failure := by
  have anchored := anchored_of_reachable growing answers reached
  obtain ⟨cfg, built, _⟩ := deployed
  have started := (Indexer.nonzero_of_new built).1
  have tall {last : Nat} (below : last ≤ height f.clock) :
      ∀ tick, f.clock ≤ tick → last ≤ height tick :=
    fun tick later => below.trans (growing later)
  refine ⟨?_, ?_, ?_, ?_, ?_⟩
  · intro first last head below
    exact (result_of_ends (serving_range (tall below))).1
  · intro first last path below
    obtain ⟨result, ends, passes, _⟩ : ∃ result, Ends (serving chain height) f.clock f.db
        (assertLogsStillServed ix first last path) result f.db ∧
          (result = .ok () ↔ Covered ix chain f.db first last) ∧
          ∀ failure, result = .error failure → failure.refuses = true := serving_reread (tall below)
    rw [(result_of_ends ends).1]
    exact passes
  · obtain ⟨result, _, ends, passes, _⟩ : ∃ result after,
        Ends (serving chain height) f.clock f.db (replayForNewDecoders ix) result after ∧
          (result = .ok () ↔ ¬Unreadable ix chain f.db (f.db.cursors ix.stream)) ∧
          ∀ failure, result = .error failure → failure.refuses = true :=
      serving_replay started fun cursor found => tall (anchored _ cursor found).1
    rw [(result_of_ends ends).1, passes]
    simp [Unreadable]
  · apply serving_preflight (Indexer.stream_ne_legacy built _) started
    intro cursor found
    obtain ⟨stream, held⟩ := cursor_of_position found
    exact tall (anchored stream cursor held).1
  · intro failure stopped
    have triple : Triple (serving chain height) (fun clock state => f.clock ≤ clock ∧ state = f.db)
        (step (decode ix) ix) (fun _ _ _ => True) (fun failure _ _ => Blames (decode ix) failure) :=
      serving_step growing (agreed_startCursor anchored)
    have ended := triple f.clock f.db ⟨Nat.le_refl _, rfl⟩
    rw [Ended.Satisfies, stopped] at ended
    exact ended

/-! ## A deployment by itself -/

variable {cfg : Config}

/-- Runs of one deployment, from a database without rows of anybody else's logs. -/
def alone (hashing : Hashing) (chainID : Int) (decode : Indexer → Decoder Entry RoundEvent Payload)
    (world : Nat → Moment Payload) (chain : Chain Payload) (height : Nat → Nat) (ix : Indexer) :
    Machine (Fleet Entry RoundEvent) (Indexer × Act) where
  initial f := (fleet hashing chainID decode world chain height).initial f ∧
    Own ix chain f.db.entries ∧ Own ix chain f.db.rounds
  step f label next := (fleet hashing chainID decode world chain height).step f label next ∧
    label.1 = ix

theorem fleet_of_alone
    (reached : (alone hashing chainID decode world chain height ix).Reachable f) :
    (fleet hashing chainID decode world chain height).Reachable f := by
  apply Machine.Reachable.mono _ _ reached
  · exact fun _ start => start.1
  · exact fun _ _ _ taken => taken.1

theorem Own.withOwner {Body : Type} {rows : List (Row Body)} (own : Own ix chain rows)
    (named : Row Body → Bool) (owner : Address) :
    Own ix chain (withOwner ix.cfg.chainID named owner rows) := by
  intro row member onChain
  obtain ⟨old, inTable, made⟩ := List.mem_map.1 member
  have same : row.provenance = old.provenance := by
    split at made
    · rw [← made]
    · rw [made]
  rw [same] at onChain ⊢
  exact own old inTable onChain

theorem own_of_repair (repair : Repair ix db after)
    (own : Own ix chain db.entries ∧ Own ix chain db.rounds) :
    Own ix chain after.entries ∧ Own ix chain after.rounds := by
  cases repair with
  | adopt _ _ _ =>
      unfold Database.adoptCursor
      split
      · exact own
      · exact own
  | attributeEntries _ _ => exact ⟨own.1.withOwner _ _, own.2⟩
  | attributeRounds _ => exact ⟨own.1, own.2.withOwner _ _⟩
  | replay _ _ => exact own

theorem own_of_expected {Body : Type} {table : Table Entry RoundEvent Body}
    {decode : Decoder Entry RoundEvent Payload} {row : Row Body} {n : Nat}
    (listed : ix.addresses = ix.contracts.map (·.address))
    (member : row ∈ expected table decode ix chain n) :
    ∃ log ∈ (chain.block row.provenance.blockNumber).logs, log.address ∈ ix.addresses := by
  obtain ⟨log, inBlock, inRecords, _, block, _⟩ := of_mem_expected member
  rw [block]
  refine ⟨log, inBlock, ?_⟩
  by_contra foreign
  rw [derived, specFor_of_not_mem listed foreign, table.records_nil] at inRecords
  cases inRecords

theorem own_of_stepped {decode : Decoder Entry RoundEvent Payload} {n m : Nat} {returned : Bool}
    (built : Indexer.new hashing cfg = .ok ix) (growing : Monotone height)
    (answers : ∀ tick, Answers chain (height tick) (world tick).client)
    (anchored : Anchored chain (height n) db)
    (stepped : Stepped decode ix world n db returned m after)
    (own : Own ix chain db.entries ∧ Own ix chain db.rounds) :
    Own ix chain after.entries ∧ Own ix chain after.rounds := by
  have agreed : Agreed chain (height n) (startCursor ix db) := agreed_startCursor anchored
  cases stepped with
  | still _ _ => exact own
  | looked _ _ _ checked _ =>
      obtain ⟨_, rfl⟩ := still_of_agreed answers agreed checked
      exact own
  | @read head mid cursor state final answered deep order past checked behind committed =>
      obtain ⟨rfl, rfl⟩ := still_of_agreed answers agreed checked
      have isHead := (answers n).blockNumber head answered
      have steady : Steady (fun _ => chain) height chain mid m
          (lastOfRange ix (startCursor ix state) (head - ix.cfg.confirmations)) := by
        refine ⟨?_, fun _ _ _ _ _ => rfl⟩
        intro tick later _
        have grown := growing (order.trans later)
        unfold lastOfRange
        omega
      have listed := (Indexer.of_new built).2.1
      obtain ⟨batch, tip, rfl, _, _, brings⟩ := of_committed listed answers steady committed
      have added {Body : Type} (table : Table Entry RoundEvent Body) {rows : List (Row Body)}
          (own : Own ix chain rows) :
          Own ix chain (KeyedTable.insertAll Row.key rows (table.records batch)) := by
        intro row member onChain
        rcases KeyedTable.mem_of_mem_insertAll member with old | new
        · exact own row old onChain
        · rw [brings table] at new
          obtain ⟨_, _, record⟩ := List.mem_flatMap.1 new
          exact own_of_expected listed record
      exact ⟨added entriesTable own.1, added roundsTable own.2⟩

/-- A deployment by itself is covered, whatever range it reads again. -/
theorem covered_of_alone (built : Indexer.new hashing cfg = .ok ix) (growing : Monotone height)
    (answers : ∀ tick, Answers chain (height tick) (world tick).client)
    (reached : (alone hashing chainID decode world chain height ix).Reachable f)
    (first last : Nat) : Covered ix chain f.db first last := by
  have own : Own ix chain f.db.entries ∧ Own ix chain f.db.rounds := by
    induction reached with
    | initial start => exact start.2
    | @step f next label before taken ih =>
        obtain ⟨⟨_, taken⟩, rfl⟩ := taken
        have anchored := anchored_of_reachable growing answers (fleet_of_alone before)
        unfold turn at taken
        split at taken
        · rename_i p ran
          cases taken
          cases made : label.2 with
          | restart =>
              rw [made] at ran
              cases ran
              exact ih
          | pass ticks =>
              rw [made] at ran
              cases ran
              exact ih
          | preflight =>
              rw [made] at ran
              obtain ⟨⟨_, repairs⟩, _⟩ := of_act_preflight ran
              exact kept_of_repairs (fun _ _ => own_of_repair) repairs ih
          | step =>
              rw [made] at ran
              obtain ⟨_, _, stepped⟩ := of_act_step ran
              exact own_of_stepped built growing answers anchored stepped ih
        · cases taken
  exact covered_of_own own.1 own.2

end FleetLemmas

section Sample

def vaultConfig : Config := { sampleConfig with eventOracles := [] }

def vaultIndexer : Indexer := built sampleHashing vaultConfig

def strangerConfig : Config :=
  { sampleConfig with
    vaultAddress := sampleAddress '6'
    poolAddress := sampleAddress '7'
    marketAddresses := [sampleAddress '8']
    eventOracles := [] }

def stranger : Indexer := built sampleHashing strangerConfig

/-- What an older decoder left of the stranger's contracts, which have logged nothing. -/
def strangerDatabase : Database Nat Nat where
  entries := []
  rounds := []
  cursors := Function.update (fun _ => none) stranger.stream
    (some ⟨11155111, 1, none, stranger.fingerprint, "older".toList⟩)

def sampleFleet : Machine (Fleet Nat Nat) (Indexer × Act) :=
  fleet sampleHashing 11155111 (fun _ => sampleDecode) sampleWorld sampleChain fun _ => 7

def sampleAlone : Machine (Fleet Nat Nat) (Indexer × Act) :=
  alone sampleHashing 11155111 (fun _ => sampleDecode) sampleWorld sampleChain (fun _ => 7)
    vaultIndexer

theorem vault_deploys : Deploys sampleHashing 11155111 vaultIndexer :=
  ⟨vaultConfig, by decide +kernel, rfl⟩

/-- The other deployment boots and polls once, beside the stranger's cursor. -/
theorem reachable_of_turns (check : Fleet Nat Nat → Bool)
    (ran : Checked.passes (Machine.replay (turn (fun _ => sampleDecode) sampleWorld)
      ⟨0, strangerDatabase, fun _ => false⟩
      [(vaultIndexer, .preflight), (vaultIndexer, .step)]) check = true) :
    ∃ f, sampleAlone.Reachable f ∧ check f = true := by
  obtain ⟨f, replayed, checked⟩ := Checked.exists_of_passes _ ran
  have start : sampleAlone.Reachable ⟨0, strangerDatabase, fun _ => false⟩ := by
    refine .initial ⟨⟨?_, fun _ => rfl⟩, nofun, nofun⟩
    apply Anchored.update
    · intro stream cursor found
      cases found
    · show 1 ≤ 7
      decide
    · intro hash recorded
      cases recorded
  refine ⟨f, start.replay ?_ replayed, checked⟩
  intro label member before after taken
  have mine : label.1 = vaultIndexer := by
    rcases List.mem_cons.1 member with rfl | member
    · rfl
    · rw [List.mem_singleton.1 member]
  exact ⟨⟨mine ▸ vault_deploys, taken⟩, mine⟩

/-- The stranger does not boot: the only rows in block 1 are of another vault. -/
theorem replay_refused_over_foreign_rows :
    Deploys sampleHashing 11155111 stranger ∧ ∃ f, sampleFleet.Reachable f ∧
      (preflight stranger (serving sampleChain fun _ => 7) f.clock f.db).result =
        .error (.logsNoLongerServed .decoderReplay 1 1 1 1 2) := by
  refine ⟨⟨strangerConfig, by decide +kernel, rfl⟩, ?_⟩
  obtain ⟨f, reached, checked⟩ := reachable_of_turns
    (fun f => decide ((preflight stranger (serving sampleChain fun _ => 7) f.clock f.db).result =
      .error (.logsNoLongerServed .decoderReplay 1 1 1 1 2))) (by decide +kernel)
  exact ⟨f, fleet_of_alone reached, of_decide_eq_true checked⟩

/-- By itself the deployment reads its block again. -/
theorem own_rows_are_covered :
    ∃ f, sampleFleet.Reachable f ∧ f.db.entries ≠ [] ∧
      (assertLogsStillServed vaultIndexer 1 1 .decoderReplay
        (serving sampleChain fun _ => 7) f.clock f.db).result = .ok () := by
  obtain ⟨f, reached, checked⟩ := reachable_of_turns (fun f => decide (f.db.entries ≠ []))
    (by decide +kernel)
  have built : Indexer.new sampleHashing vaultConfig = .ok vaultIndexer := by decide +kernel
  obtain ⟨_, reread, _, _⟩ := pruning_check_refuses_iff monotone_const
    (fun _ => answers_honest sampleChain 7) (fleet_of_alone reached) vault_deploys
  refine ⟨f, fleet_of_alone reached, of_decide_eq_true checked,
    (reread 1 1 .decoderReplay (by decide)).2 ?_⟩
  exact covered_of_alone built monotone_const (fun _ => answers_honest sampleChain 7) reached 1 1

end Sample

end Index

end Ghoststake
