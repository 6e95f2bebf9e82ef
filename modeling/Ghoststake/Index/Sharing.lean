import Ghoststake.Index.Served

/-!
# Deployments in one database

What one deployment's indexer does to the rows and the cursors of the others.
-/

namespace Ghoststake

set_option autoImplicit false

open Calls KeyedTable

namespace Index

variable {Entry RoundEvent Payload Body : Type}

section Definitions

variable (table : Table Entry RoundEvent Body) (ix : Indexer) (nameless : Bool)

/-- A row of a contract or a market that `ix` does not watch. -/
def Foreign (row : Row Body) : Prop := row.owner ≠ none ∧ row.owner ∉ (table.owners ix).map some

instance (row : Row Body) : Decidable (Foreign table ix row) :=
  inferInstanceAs (Decidable (_ ∧ _))

def others (db : Database Entry RoundEvent) : List (Row Body) :=
  (table.rows db).filter fun row => decide (Foreign table ix row)

/-- A cursor under the chain-scoped name that another deployment left: the
contracts it names say so, and where it names none, `nameless` does. -/
def OthersCursor (cursor : Cursor) : Prop :=
  cursor.contracts ≠ ix.fingerprint ∧ (cursor.contracts = [] → nameless = true)

def OthersStream (db : Database Entry RoundEvent) (stream : Text) : Prop :=
  stream ≠ ix.stream ∧ (stream = legacyStream ix →
    ∀ cursor, db.cursors stream = some cursor → OthersCursor ix nameless cursor)

/-- Every row and every cursor of the other deployments is what it was. -/
structure LeavesOthers (db after : Database Entry RoundEvent) : Prop where
  entries : others entriesTable ix after = others entriesTable ix db
  rounds : others roundsTable ix after = others roundsTable ix db
  cursors : ∀ stream, OthersStream ix nameless db stream →
    after.cursors stream = db.cursors stream

/-- Where a reorg noticed from this cursor would be unwound to, or above, the
other deployments have no row of this chain. -/
def ClearAbove (db : Database Entry RoundEvent) (cursor : Cursor) : Prop :=
  (∀ row ∈ others entriesTable ix db, row.provenance.chainID = ix.cfg.chainID →
    row.provenance.blockNumber < rewindPoint ix cursor) ∧
  ∀ row ∈ others roundsTable ix db, row.provenance.chainID = ix.cfg.chainID →
    row.provenance.blockNumber < rewindPoint ix cursor

/-- A reorg that a step may notice is unwound above the rows of the others. -/
def Clear (db : Database Entry RoundEvent) : Prop :=
  ∀ cursor, db.cursors ix.stream = some cursor → cursor.lastHash ≠ none →
    rewindPoint ix cursor ≠ 0 → ClearAbove ix db cursor

/-- No cursor of another deployment is taken for a cursor of ours: one that
names no contracts is, where our stream has none yet. -/
def Unclaimed (db : Database Entry RoundEvent) : Prop :=
  ∀ cursor, db.cursors (legacyStream ix) = some cursor → cursor.contracts = [] →
    OthersCursor ix nameless cursor → db.cursors ix.stream ≠ none

end Definitions

section Frames

variable {table : Table Entry RoundEvent Body} {ix : Indexer} {nameless : Bool}
variable {db mid after : Database Entry RoundEvent}

theorem LeavesOthers.refl : LeavesOthers ix nameless db db := ⟨rfl, rfl, fun _ _ => rfl⟩

theorem LeavesOthers.trans (first : LeavesOthers ix nameless db mid)
    (second : LeavesOthers ix nameless mid after) : LeavesOthers ix nameless db after where
  entries := second.entries.trans first.entries
  rounds := second.rounds.trans first.rounds
  cursors stream theirs := by
    have same := first.cursors stream theirs
    have still : OthersStream ix nameless mid stream := by
      refine ⟨theirs.1, ?_⟩
      intro legacy cursor found
      exact theirs.2 legacy cursor (same.symm.trans found)
    exact (second.cursors stream still).trans same

variable (table) in
theorem filter_withOwner {chainID : Int} {named : Row Body → Bool} {owner : Address}
    (own : some owner ∈ (table.owners ix).map some) (rows : List (Row Body)) :
    (withOwner chainID named owner rows).filter (fun row => decide (Foreign table ix row)) =
      rows.filter fun row => decide (Foreign table ix row) := by
  induction rows with
  | nil => rfl
  | cons row rest ih =>
      rw [withOwner, List.map_cons]
      by_cases taken : (row.unattributed chainID && named row) = true
      · have unowned : row.owner = none := by
          simp only [Bool.and_eq_true, Row.unattributed, Option.isNone_iff_eq_none] at taken
          exact taken.1.2
        have before : ¬Foreign table ix row := fun foreign => foreign.1 unowned
        have later : ¬Foreign table ix { row with owner := some owner } :=
          fun foreign => foreign.2 own
        rw [if_pos taken, List.filter_cons_of_neg (by simpa using later),
          List.filter_cons_of_neg (by simpa using before)]
        exact ih
      · rw [if_neg taken, List.filter_cons, List.filter_cons]
        split_ifs
        · exact congrArg _ ih
        · exact ih

theorem leaves_of_repair (unclaimed : Unclaimed ix nameless db) (repair : Repair ix db after) :
    LeavesOthers ix nameless db after := by
  cases repair with
  | @adopt cursor distinct found ours =>
      constructor
      · rw [others, others, entriesTable.rows_adopt]
      · rw [others, others, roundsTable.rows_adopt]
      · intro stream theirs
        cases held : db.cursors ix.stream with
        | some own => rw [db.adoptCursor_of_taken held]
        | none =>
            have apart : stream ≠ legacyStream ix := by
              rintro rfl
              have foreign := theirs.2 rfl cursor found
              have unnamed : cursor.contracts = [] := by
                rcases Bool.or_eq_true_iff.1 ours with none | same
                · exact eq_of_beq none
                · exact absurd (eq_of_beq same) foreign.1
              exact unclaimed cursor found unnamed foreign held
            rw [db.adoptCursor_of_free found held]
            exact (Function.update_of_ne theirs.1 _ _).trans (Function.update_of_ne apart _ _)
  | @attributeEntries c listed money =>
      refine ⟨?_, rfl, fun _ _ => rfl⟩
      apply filter_withOwner entriesTable
      exact List.mem_map_of_mem (List.mem_map_of_mem listed)
  | @attributeRounds market only =>
      refine ⟨rfl, ?_, fun _ _ => rfl⟩
      apply filter_withOwner roundsTable
      apply List.mem_map_of_mem
      show market ∈ marketAddresses ix
      rw [only]
      exact List.mem_singleton_self market
  | replay found wanted =>
      exact ⟨rfl, rfl, fun stream theirs => db.rewind_other theirs.1⟩

/-- A repair never takes our own cursor away, so it leaves nothing more to claim. -/
theorem unclaimed_of_repair (unclaimed : Unclaimed ix nameless db) (repair : Repair ix db after) :
    Unclaimed ix nameless after := by
  cases repair with
  | adopt _ found _ => exact fun _ _ _ _ => db.adoptCursor_finds found
  | attributeEntries _ _ => exact unclaimed
  | attributeRounds _ => exact unclaimed
  | replay found _ =>
      intro _ _ _ _ empty
      have held := (db.rewind_self found).symm.trans empty
      cases held

theorem leaves_of_repairs (unclaimed : Unclaimed ix nameless db)
    (repairs : Relation.ReflTransGen (Repair ix) db after) :
    LeavesOthers ix nameless db after := by
  suffices both : LeavesOthers ix nameless db after ∧ Unclaimed ix nameless after from both.1
  induction repairs with
  | refl => exact ⟨.refl, unclaimed⟩
  | tail _ repair ih =>
      exact ⟨ih.1.trans (leaves_of_repair ih.2 repair), unclaimed_of_repair ih.2 repair⟩

/-- Every record a batch brings is of a contract that is watched. -/
theorem own_of_decoded {decode : Decoder Entry RoundEvent Payload} {timeOf : Nat → Nat → Prop}
    {logs : List (Log Payload)} {batch : Batch Entry RoundEvent}
    (decoded : DecodedLogs decode ix timeOf logs batch) :
    ∀ row ∈ table.records batch, row.owner ∈ (table.owners ix).map some := by
  induction decoded with
  | nil =>
      rw [table.records_nil]
      exact nofun
  | skip _ _ ih => exact ih
  | @track log rest c time first batch kept watched at_ ran others ih =>
      intro row member
      rw [table.records_add first batch] at member
      rcases List.mem_append.1 member with new | old
      · obtain ⟨listed, here⟩ := of_specFor watched
        obtain ⟨eventName, owner, bodies, filed, records⟩ :=
          table.records_decode decode ix c log time first listed here ran
        rw [records] at new
        obtain ⟨i, body, found, rfl⟩ := mem_stamped new
        rcases filed with filed | none
        · exact filed
        · rw [none] at found
          cases found
      · exact ih row old

theorem others_append {stream : Text} {cursor : Cursor} {batch : Batch Entry RoundEvent}
    (own : ∀ row ∈ table.records batch, row.owner ∈ (table.owners ix).map some) :
    others table ix (db.append batch stream cursor) = others table ix db := by
  rw [others, others, table.rows_append]
  apply filter_insertAll
  intro row member
  exact decide_eq_false fun foreign => foreign.2 (own row member)

theorem leaves_of_committed {decode : Decoder Entry RoundEvent Payload}
    {world : Nat → Moment Payload} {lo hi first last : Nat}
    (committed : Committed decode ix world lo hi first last db after) :
    LeavesOthers ix nameless db after := by
  obtain ⟨_, _, batch, _, tip, _, _, _, _, decoded, _, rfl⟩ := committed
  exact ⟨others_append (own_of_decoded decoded), others_append (own_of_decoded decoded),
    fun stream theirs => Function.update_of_ne theirs.1 _ _⟩

/-- What a rollback deletes of the others. -/
theorem others_rollback {chainID : Int} {stream : Text} {fromBlock : Nat}
    (ran : db.rollbackFrom chainID stream fromBlock = some after) :
    others table ix after = (others table ix db).filter
      fun row => !row.atOrAbove chainID fromBlock := by
  rw [others, others, table.rows_rollback db chainID stream fromBlock after ran,
    List.filter_filter, List.filter_filter]
  apply List.filter_congr
  intro row _
  exact Bool.and_comm _ _

theorem others_rollback_eq_iff {chainID : Int} {stream : Text} {fromBlock : Nat}
    (ran : db.rollbackFrom chainID stream fromBlock = some after) :
    others table ix after = others table ix db ↔
      ∀ row ∈ others table ix db, row.provenance.chainID = chainID →
        row.provenance.blockNumber < fromBlock := by
  rw [others_rollback ran, List.filter_eq_self]
  apply forall₂_congr
  intro row _
  simp only [Row.atOrAbove, Bool.not_eq_true', Bool.and_eq_false_iff, beq_eq_false_iff_ne,
    decide_eq_false_iff_not, Nat.not_le]
  exact Decidable.imp_iff_not_or.symm

theorem leaves_rollback_iff {fromBlock : Nat}
    (ran : db.rollbackFrom ix.cfg.chainID ix.stream fromBlock = some after) :
    LeavesOthers ix nameless db after ↔
      (∀ row ∈ others entriesTable ix db, row.provenance.chainID = ix.cfg.chainID →
        row.provenance.blockNumber < fromBlock) ∧
      ∀ row ∈ others roundsTable ix db, row.provenance.chainID = ix.cfg.chainID →
        row.provenance.blockNumber < fromBlock := by
  rw [← others_rollback_eq_iff ran, ← others_rollback_eq_iff ran]
  constructor
  · exact fun leaves => ⟨leaves.entries, leaves.rounds⟩
  · rintro ⟨entries, rounds⟩
    refine ⟨entries, rounds, ?_⟩
    intro stream theirs
    unfold Database.rollbackFrom at ran
    split at ran
    · cases ran
    · cases ran
      exact db.rewind_other theirs.1

/-- A cursor with a hash on it is one from the database. -/
theorem found_of_recorded (recorded : (startCursor ix db).lastHash ≠ none) :
    db.cursors ix.stream = some (startCursor ix db) := by
  unfold startCursor Database.loadCursor at recorded ⊢
  cases found : db.cursors ix.stream with
  | none =>
      rw [found] at recorded
      exact absurd rfl recorded
  | some cursor => rfl

theorem leaves_of_checked {world : Nat → Moment Payload} {lo hi : Nat} {cursor : Cursor}
    (clear : Clear ix db) (checked : Checked ix world lo hi (startCursor ix db) db cursor after) :
    LeavesOthers ix nameless db after := by
  cases checked with
  | unverified _ => exact .refl
  | verified _ _ _ _ => exact .refl
  | unwound _ _ _ recorded _ deleted =>
      apply (leaves_rollback_iff deleted).2
      apply clear _ (found_of_recorded recorded) recorded
      intro zero
      rw [Database.rollbackFrom, if_pos zero] at deleted
      cases deleted

theorem leaves_of_stepped {decode : Decoder Entry RoundEvent Payload}
    {world : Nat → Moment Payload} {n m : Nat} {returned : Bool} (clear : Clear ix db)
    (stepped : Stepped decode ix world n db returned m after) :
    LeavesOthers ix nameless db after := by
  cases stepped with
  | still _ _ => exact .refl
  | looked _ _ _ checked _ => exact leaves_of_checked clear checked
  | read _ _ _ _ checked _ committed =>
      exact (leaves_of_checked clear checked).trans (leaves_of_committed committed)

end Frames

/-! ## The step that unwinds -/

section Alarm

variable {ix : Indexer} {db : Database Entry RoundEvent}
variable {decode : Decoder Entry RoundEvent Payload}

/-- An endpoint whose chain has another block, whatever the number, and logs
wherever it is asked for some. -/
def alarm [Inhabited Payload] (ix : Indexer) (other : Hash) (_ : Nat) : Moment Payload where
  client :=
    { blockNumber := some ix.cfg.confirmations
      headerByNumber := fun _ => some ⟨other, 0, false⟩
      filterLogs := fun _ _ _ => some [⟨⟨List.replicate 40 1, length_ones⟩, 0, other, other, 0, false,
        default⟩] }
  fate := .works

theorem alarm_reread [Inhabited Payload] {other : Hash} {lo first last : Nat} {path : Path} :
    Ends (alarm ix other : Nat → Moment Payload) lo db (assertLogsStillServed ix first last path)
      (.ok ()) db := by
  unfold assertLogsStillServed
  split
  · exact ends_pure ()
  · have scanned : Ends (alarm ix other : Nat → Moment Payload) lo db
        (scan ix path first last (windows ix.cfg.batchSize first last)) _ db :=
      ends_scan (fun _ => rfl) fun _ _ _ _ => rfl
    have passes : verdict ix db (fun _ => [(⟨⟨List.replicate 40 1, length_ones⟩, 0, other, other, 0,
        false, default⟩ : Log Payload)]) path first last (windows ix.cfg.batchSize first last) =
          .ok () := by
      unfold verdict
      split
      · rfl
      · exact if_pos (List.cons_ne_nil _ _)
    rw [passes] at scanned
    exact scanned

theorem alarm_step [Inhabited Payload] {other hash : Hash} {lo : Nat} {cursor : Cursor}
    (found : db.cursors ix.stream = some cursor) (recorded : cursor.lastHash = some hash)
    (moved : other ≠ hash) (positive : rewindPoint ix cursor ≠ 0) :
    Ends (alarm ix other : Nat → Moment Payload) lo db (step decode ix) (.ok ())
      ((db.rollbackFrom ix.cfg.chainID ix.stream (rewindPoint ix cursor)).getD db) := by
  have works : ∀ tick, (alarm ix other tick : Moment Payload).fate = .works := fun _ => rfl
  have heads : Ends (alarm ix other : Nat → Moment Payload) lo db blockNumber
      (.ok ix.cfg.confirmations) db := ends_ask fun _ _ => rfl
  have unwinds : Ends (alarm ix other : Nat → Moment Payload) lo db (checkReorg ix cursor)
      (.ok (cursor.rewound (rewindPoint ix cursor)))
      ((db.rollbackFrom ix.cfg.chainID ix.stream (rewindPoint ix cursor)).getD db) := by
    unfold checkReorg
    rw [recorded]
    apply ends_bind (ends_headerByNumber fun _ _ => rfl)
    rw [if_neg moved]
    apply ends_bind alarm_reread
    exact ends_bind (ends_transactFrom positive works) (ends_pure _)
  apply ends_bind heads
  rw [if_neg (Nat.lt_irrefl _)]
  apply ends_bind (ends_query _ works)
  rw [Database.loadCursor, found]
  apply ends_bind unwinds
  rw [advance, if_pos (by omega)]
  exact ends_pure ()

end Alarm

/-! ## The boot that adopts -/

section Adoption

variable {ix : Indexer} {db : Database Entry RoundEvent} {cursor : Cursor}

/-- An endpoint that is down, beside a database that works. -/
def deaf (_ : Nat) : Moment Payload where
  client :=
    { blockNumber := none
      headerByNumber := fun _ => none
      filterLogs := fun _ _ _ => none }
  fate := .works

theorem deaf_adopt {lo : Nat} (distinct : legacyStream ix ≠ ix.stream)
    (found : db.cursors (legacyStream ix) = some cursor) (ours : adoptable ix cursor = true) :
    Ends (deaf : Nat → Moment Payload) lo db (adoptLegacyCursor ix) (.ok ())
      (db.adoptCursor (legacyStream ix) ix.stream) := by
  unfold adoptLegacyCursor
  rw [if_neg distinct]
  apply ends_bind (ends_query _ fun _ => rfl)
  rw [Database.loadCursor, found, adoptFound, if_pos ours]
  exact ends_call fun _ _ => rfl

/-- Once the chain-scoped name is free, no repair takes it again. -/
theorem vacant_of_repairs {after : Database Entry RoundEvent}
    (distinct : legacyStream ix ≠ ix.stream) (vacant : db.cursors (legacyStream ix) = none)
    (repairs : Relation.ReflTransGen (Repair ix) db after) :
    after.cursors (legacyStream ix) = none := by
  induction repairs with
  | refl => exact vacant
  | @tail state _ _ repair ih =>
      cases repair with
      | adopt _ found _ =>
          rw [ih] at found
          cases found
      | attributeEntries _ _ => exact ih
      | attributeRounds _ => exact ih
      | replay _ _ => exact (state.rewind_other distinct).trans ih

/-- A boot that finds a cursor of no contracts, and none of ours, takes it. -/
theorem vacated_of_preflight (distinct : legacyStream ix ≠ ix.stream)
    (found : db.cursors (legacyStream ix) = some cursor) (unnamed : cursor.contracts = [])
    (free : db.cursors ix.stream = none) :
    (preflight ix (deaf : Nat → Moment Payload) 0 db).state.cursors (legacyStream ix) = none := by
  have ours : adoptable ix cursor = true := by
    rw [adoptable, unnamed]
    rfl
  have vacant : (db.adoptCursor (legacyStream ix) ix.stream).cursors (legacyStream ix) = none := by
    rw [db.adoptCursor_of_free found free]
    exact (Function.update_of_ne distinct _ _).trans (Function.update_self _ _ _)
  have boots : Triple (deaf : Nat → Moment Payload) (fun clock s => 0 ≤ clock ∧ s = db)
      (preflight ix) (fun _ _ state => state.cursors (legacyStream ix) = none)
      (fun _ _ state => state.cursors (legacyStream ix) = none) := by
    apply triple_bind_of_ends (deaf_adopt distinct found ours)
    apply triple_weaken (repairing_rest _ _)
    · exact fun _ _ holds => holds
    · exact fun _ _ _ result => vacant_of_repairs distinct vacant result.1.2
    · exact fun _ _ _ left => vacant_of_repairs distinct vacant left.2
  have ended := boots 0 db ⟨Nat.le_refl 0, rfl⟩
  simp only [Ended.Satisfies] at ended
  split at ended
  · exact ended
  · exact ended

end Adoption

/-- On one chain, whatever the endpoint answers and wherever a call fails:
every `Preflight` and every `Step` of a deployment leaves the rows and the
cursors of all the others as they were, exactly where none of their rows
stands at or above the height a reorg noticed now would be unwound to, and
none of their cursors waits under the chain-scoped name without saying whose
it is while this deployment has no cursor of its own. -/
theorem deployments_spare_each_other_iff [Inhabited Payload]
    (decode : Decoder Entry RoundEvent Payload) (ix : Indexer) (nameless : Bool)
    (db : Database Entry RoundEvent) :
    (∀ (world : Nat → Moment Payload) clock,
      LeavesOthers ix nameless db (preflight ix world clock db).state ∧
        LeavesOthers ix nameless db (step decode ix world clock db).state) ↔
      Clear ix db ∧ Unclaimed ix nameless db := by
  constructor
  · intro leaves
    constructor
    · intro cursor found recorded positive
      obtain ⟨hash, held⟩ := Option.ne_none_iff_exists'.1 recorded
      obtain ⟨other, moved⟩ : ∃ other : Hash, other ≠ hash := by
        by_cases same : hash = ⟨List.replicate 64 0, length_zeros⟩
        · refine ⟨⟨List.replicate 64 1, List.length_replicate⟩, ?_⟩
          rw [same]
          decide
        · exact ⟨_, fun is => same is.symm⟩
      have ended : (step decode ix (alarm ix other : Nat → Moment Payload) 0 db).state = _ :=
        (result_of_ends (alarm_step found held moved positive)).2
      have spared := (leaves (alarm ix other : Nat → Moment Payload) 0).2
      rw [ended] at spared
      exact (leaves_rollback_iff (rollback_getD positive)).1 spared
    · intro cursor found unnamed foreign free
      have distinct : legacyStream ix ≠ ix.stream := by
        intro same
        rw [same, free] at found
        cases found
      have theirs : OthersStream ix nameless db (legacyStream ix) := by
        refine ⟨distinct, ?_⟩
        intro _ other held
        rw [found] at held
        cases held
        exact foreign
      have spared := (leaves (deaf : Nat → Moment Payload) 0).1.cursors _ theirs
      rw [vacated_of_preflight distinct found unnamed free, found] at spared
      cases spared
  · rintro ⟨clear, unclaimed⟩ world clock
    let p : Process Entry RoundEvent := ⟨clock, db, true⟩
    have boots : act decode ix world p .preflight = .ok _ := rfl
    have polls : act decode ix world p .step = .ok _ := rfl
    exact ⟨leaves_of_repairs unclaimed (of_act_preflight boots).1.2,
      leaves_of_stepped clear (of_act_step polls).2.2⟩

section Sample

def busyChain : Chain (List Nat) where
  block n :=
    ⟨sampleHash n, 12 * n,
      [{ vaultLog with blockNumber := n, blockHash := sampleHash n, index := n }]⟩
  placed n log member := by
    rw [List.mem_singleton.1 member]
    exact ⟨rfl, rfl, rfl⟩
  distinct n m log member other member' _ same := by
    rw [List.mem_singleton.1 member, List.mem_singleton.1 member'] at same ⊢
    have blocks : n = m := same
    rw [blocks]

def strangerRow : Row Nat where
  provenance :=
    ⟨11155111, 8, sampleHash 8, 96, sampleHash 2, 0, 0, .collateralVault, "Deposit".toList⟩
  owner := some (hexToAddress (sampleAddress '6'))
  body := 30

/-- Two deployments that have read up to block 9, one of them on a chain that
was abandoned since. -/
def sharedDatabase : Database Nat Nat where
  entries := [strangerRow]
  rounds := []
  cursors := Function.update
    (Function.update (fun _ => none) stranger.stream
      (some ⟨11155111, 9, some (sampleHash 9), stranger.fingerprint, decoderVersion⟩))
    vaultIndexer.stream
    (some ⟨11155111, 9, some (sampleHash 1), vaultIndexer.fingerprint, decoderVersion⟩)

theorem rollback_deletes_foreign_rows :
    Deploys sampleHashing 11155111 vaultIndexer ∧ Deploys sampleHashing 11155111 stranger ∧
      (∀ address ∈ vaultIndexer.addresses, address ∉ stranger.addresses) ∧
      strangerRow.owner ∈ stranger.addresses.map some ∧ strangerRow ∈ sharedDatabase.entries ∧
      strangerRow ∉ (step sampleDecode vaultIndexer (serving busyChain fun _ => 14) 0
        sharedDatabase).state.entries := by
  refine ⟨⟨vaultConfig, by decide +kernel, rfl⟩, ⟨strangerConfig, by decide +kernel, rfl⟩,
    by decide +kernel, by decide +kernel, by decide, by decide +kernel⟩

end Sample

end Index

end Ghoststake
