import Ghoststake.Index.Attribution
import Ghoststake.Index.Runs
import Ghoststake.Index.Streams

/-!
# Every log once

On a chain that only grows, whatever fails and whenever the process restarts,
the rows below the cursor are the records of the chain.
-/

namespace Ghoststake

set_option autoImplicit false

namespace Index

variable {Entry RoundEvent Payload Body : Type}

/-! ## Where the index stands -/

section Position

variable (ix : Indexer) (db : Database Entry RoundEvent)

/-- The cursor of the deployment: under its own stream, or under the old name
where nothing has taken it yet. -/
def position : Option Cursor :=
  match db.cursors ix.stream with
  | some cursor => some cursor
  | none => (db.cursors (legacyStream ix)).filter (adoptable ix)

def lastRead : Nat :=
  match position ix db with
  | some cursor => cursor.lastBlock
  | none => ix.cfg.startBlock - 1

/-- Rows an older decoder wrote have not been derived again. -/
def Pending : Prop :=
  ∃ cursor, position ix db = some cursor ∧ cursor.decoders ≠ decoderVersion ∧
    ix.cfg.startBlock ≤ cursor.lastBlock

end Position

section PositionLemmas

variable {ix : Indexer} {db after : Database Entry RoundEvent} {cursor : Cursor}

theorem position_of_own (found : db.cursors ix.stream = some cursor) :
    position ix db = some cursor := by
  rw [position, found]

theorem lastRead_of_position (found : position ix db = some cursor) :
    lastRead ix db = cursor.lastBlock := by
  rw [lastRead, found]

theorem lastRead_congr (same : position ix after = position ix db) :
    lastRead ix after = lastRead ix db := by
  rw [lastRead, lastRead, same]

theorem pending_congr (same : position ix after = position ix db) :
    Pending ix after ↔ Pending ix db := by
  rw [Pending, Pending, same]

theorem position_adopt
    (found : db.cursors (legacyStream ix) = some cursor) (ours : adoptable ix cursor = true) :
    position ix (db.adoptCursor (legacyStream ix) ix.stream) = position ix db := by
  cases held : db.cursors ix.stream with
  | none =>
      have adopted : (db.adoptCursor (legacyStream ix) ix.stream).cursors ix.stream =
          some cursor := by
        rw [db.adoptCursor_of_free found held]
        exact Function.update_self _ _ _
      rw [position_of_own adopted, position, held, found]
      exact (Option.filter_some_pos ours).symm
  | some own => rw [db.adoptCursor_of_taken held]

theorem startCursor_eq (adopted : Adopted ix db) (distinct : legacyStream ix ≠ ix.stream) :
    position ix db = some (startCursor ix db) ∨
      position ix db = none ∧ startCursor ix db = freshCursor ix := by
  unfold position startCursor Database.loadCursor
  cases held : db.cursors ix.stream with
  | some cursor => exact .inl rfl
  | none =>
      refine .inr ⟨?_, rfl⟩
      cases found : db.cursors (legacyStream ix) with
      | none => rfl
      | some legacy => exact Option.filter_some_neg (adopted distinct held legacy found)

end PositionLemmas

/-! ## What is kept -/

section Kept

variable (decode : Decoder Entry RoundEvent Payload) (ix : Indexer) (chain : Chain Payload)

/-- What a table holds while the process runs. Blocks up to `gap` may lack the
records of newer decoders, as long as nobody asked for them again. -/
structure Kept (table : Table Entry RoundEvent Body) (gap : Nat)
    (db : Database Entry RoundEvent) : Prop where
  sound : Sound table decode ix chain (max (lastRead ix db) gap) db
  recorded : ∀ n, ix.cfg.startBlock ≤ n → n ≤ lastRead ix db →
    (n ≤ gap ∧ (Pending ix db ∨ ix.cfg.skipDecoderReplay = true)) ∨
      Recorded table decode ix chain n db

structure Placed (gap : Nat) (db : Database Entry RoundEvent) : Prop where
  hash : ∀ cursor hash, position ix db = some cursor → cursor.lastHash = some hash →
    hash = (chain.block cursor.lastBlock).hash
  stale : ∀ cursor, position ix db = some cursor → cursor.decoders ≠ decoderVersion →
    cursor.lastBlock ≤ max gap (ix.cfg.startBlock - 1)

structure Inv (gap : Nat) (db : Database Entry RoundEvent) : Prop where
  entries : Kept decode ix chain entriesTable gap db
  rounds : Kept decode ix chain roundsTable gap db
  placed : Placed ix chain gap db

end Kept

section Steps

variable {decode : Decoder Entry RoundEvent Payload} {ix : Indexer} {chain : Chain Payload}
variable {table : Table Entry RoundEvent Body} {gap : Nat} {db after : Database Entry RoundEvent}

theorem Kept.congr (rows : table.rows after = table.rows db)
    (same : position ix after = position ix db) (kept : Kept decode ix chain table gap db) :
    Kept decode ix chain table gap after where
  sound := by
    rw [lastRead_congr same]
    exact kept.sound.congr rows
  recorded n started read := by
    rw [lastRead_congr same] at read
    rw [pending_congr same]
    exact (kept.recorded n started read).imp_right fun recorded => recorded.congr rows

theorem Placed.congr (same : position ix after = position ix db)
    (placed : Placed ix chain gap db) : Placed ix chain gap after where
  hash := same ▸ placed.hash
  stale := same ▸ placed.stale

abbrev replayed (ix : Indexer) (db : Database Entry RoundEvent) : Database Entry RoundEvent :=
  { db with cursors := db.rewind ix.stream (ix.cfg.startBlock - 1) }

theorem position_replayed {cursor : Cursor} (found : db.cursors ix.stream = some cursor) :
    position ix (replayed ix db) =
      some { cursor with lastBlock := ix.cfg.startBlock - 1, lastHash := none } := by
  have held : (replayed ix db).cursors ix.stream = some _ := db.rewind_self found
  exact position_of_own held

/-- A rewound cursor has nothing read, and what was read lies in the gap. -/
theorem Kept.replay {cursor : Cursor} (found : db.cursors ix.stream = some cursor)
    (started : ix.cfg.startBlock ≠ 0) (old : cursor.lastBlock ≤ max gap (ix.cfg.startBlock - 1))
    (kept : Kept decode ix chain table gap db) :
    Kept decode ix chain table gap (replayed ix db) where
  sound := by
    rw [lastRead_of_position (position_replayed found)]
    apply Sound.congr (table.rows_cursors db _)
    have before := lastRead_of_position (position_of_own found)
    apply kept.sound.mono
    rw [before]
    show max cursor.lastBlock gap ≤ max (ix.cfg.startBlock - 1) gap
    omega
  recorded n after read := by
    rw [lastRead_of_position (position_replayed found)] at read
    have below : n ≤ ix.cfg.startBlock - 1 := read
    omega

theorem Placed.replay {cursor : Cursor} (found : db.cursors ix.stream = some cursor) :
    Placed ix chain gap (replayed ix db) where
  hash other hash held recorded := by
    rw [position_replayed found] at held
    cases held
    cases recorded
  stale other held _ := by
    rw [position_replayed found] at held
    cases held
    exact Nat.le_max_right _ _

/-- A repair keeps what is kept once every row has its owner. -/
theorem inv_of_repair {hashing : Hashing} {cfg : Config}
    (built : Indexer.new hashing cfg = .ok ix) (repair : Repair ix db after)
    (inv : Inv decode ix chain gap (attributed ix db)) :
    Inv decode ix chain gap (attributed ix after) := by
  have started := (Indexer.nonzero_of_new built).1
  cases repair with
  | adopt _ found ours =>
      rw [attributed_adopt]
      have same : position ix ((attributed ix db).adoptCursor (legacyStream ix) ix.stream) =
          position ix (attributed ix db) := position_adopt found ours
      exact ⟨inv.entries.congr (entriesTable.rows_adopt _ _ _) same,
        inv.rounds.congr (roundsTable.rows_adopt _ _ _) same, inv.placed.congr same⟩
  | attributeEntries listed money =>
      rw [attributed_entries built listed money]
      exact inv
  | attributeRounds only =>
      rw [attributed_rounds only]
      exact inv
  | @replay cursor found wanted =>
      have held : (attributed ix db).cursors ix.stream = some cursor := found
      have stale := inv.placed.stale _ (position_of_own held) (older_of_wants wanted)
      exact ⟨inv.entries.replay held started stale, inv.rounds.replay held started stale,
        .replay held⟩

theorem Inv.owned (inv : Inv decode ix chain gap db) : Owned ix db :=
  ⟨inv.entries.sound.attributed, inv.rounds.sound.attributed⟩

theorem lastRead_startCursor (adopted : Adopted ix db) (distinct : legacyStream ix ≠ ix.stream) :
    lastRead ix db = (startCursor ix db).lastBlock := by
  rcases startCursor_eq adopted distinct with found | ⟨empty, fresh⟩
  · exact lastRead_of_position found
  · rw [lastRead, empty, fresh]
    rfl

/-- A booted process has nothing pending but what it was told to leave. -/
theorem skips_of_pending (adopted : Adopted ix db) (settled : Settled ix db)
    (distinct : legacyStream ix ≠ ix.stream) (pending : Pending ix db) :
    ix.cfg.skipDecoderReplay = true := by
  obtain ⟨cursor, found, older, started⟩ := pending
  cases held : db.cursors ix.stream with
  | some own =>
      rw [position_of_own held] at found
      cases found
      have unwanted := settled _ held
      simp only [wantsReplay, Bool.and_eq_false_iff, bne_eq_false_iff_eq, decide_eq_false_iff_not,
        Bool.not_eq_false'] at unwanted
      rcases unwanted with (same | below) | skips
      · exact absurd same older
      · exact absurd started below
      · exact skips
  | none =>
      rw [position, held] at found
      obtain ⟨legacy, ours⟩ := Option.filter_eq_some_iff.1 found
      rw [adopted distinct held cursor legacy] at ours
      cases ours

section Commit

variable {hashing : Hashing} {cfg : Config} {world : Nat → Moment Payload} {height : Nat → Nat}
variable {batch : Batch Entry RoundEvent} {last : Nat} {tip : Header}

/-- The cursor's hash is the chain's, so the reorg check passes. -/
theorem still_of_checked {lo hi : Nat} {cursor : Cursor} (distinct : legacyStream ix ≠ ix.stream)
    (answers : ∀ tick, Answers chain (height tick) (world tick).client) (adopted : Adopted ix db)
    (placed : Placed ix chain gap db)
    (checked : Checked ix world lo hi (startCursor ix db) db cursor after) :
    cursor = startCursor ix db ∧ after = db := by
  cases checked with
  | unverified _ => exact ⟨rfl, rfl⟩
  | verified _ _ _ _ => exact ⟨rfl, rfl⟩
  | @unwound tick header _ _ _ answered recorded moved _ =>
      exfalso
      rcases startCursor_eq adopted distinct with found | ⟨_, fresh⟩
      · obtain ⟨hash, held⟩ := Option.ne_none_iff_exists'.1 recorded
        have own := placed.hash _ hash found held
        have told := ((answers tick).headerByNumber _ _ answered).2
        apply moved
        rw [held, own, told]
        rfl
      · rw [fresh] at recorded
        exact recorded rfl

theorem position_append :
    position ix (db.append batch ix.stream (nextCursor ix last tip)) =
      some (nextCursor ix last tip) :=
  position_of_own (db.append_cursors_self batch ix.stream _)

theorem Kept.append (distinct : legacyStream ix ≠ ix.stream) (adopted : Adopted ix db)
    (settled : Settled ix db) (onward : (startCursor ix db).lastBlock ≤ last)
    (brings : table.records batch = (List.range' ((startCursor ix db).lastBlock + 1)
      (last + 1 - ((startCursor ix db).lastBlock + 1))).flatMap
        (expected table decode ix chain))
    (decodes : ∀ n, (startCursor ix db).lastBlock + 1 ≤ n → n ≤ last →
      ∀ log ∈ (chain.block n).logs, Decodes decode ix chain log)
    (kept : Kept decode ix chain table gap db) :
    Kept decode ix chain table gap (db.append batch ix.stream (nextCursor ix last tip)) where
  sound := by
    have before := lastRead_startCursor adopted distinct
    rw [lastRead_of_position position_append]
    apply (kept.sound.append brings).mono
    show max (max (lastRead ix db) gap) last ≤ max last gap
    omega
  recorded n started read := by
    have before := lastRead_startCursor adopted distinct
    rw [lastRead_of_position position_append] at read
    by_cases old : n ≤ lastRead ix db
    · rcases kept.recorded n started old with ⟨inGap, pending | skips⟩ | recorded
      · exact .inl ⟨inGap, .inr (skips_of_pending adopted settled distinct pending)⟩
      · exact .inl ⟨inGap, .inr skips⟩
      · exact .inr recorded.append
    · apply Or.inr
      apply recorded_of_append kept.sound brings
      · exact decodes n (by omega) read
      · omega
      · exact read

theorem inv_of_append (distinct : legacyStream ix ≠ ix.stream) (adopted : Adopted ix db)
    (settled : Settled ix db) (onward : (startCursor ix db).lastBlock ≤ last)
    (hash : tip.hash = (chain.block last).hash)
    (brings : ∀ {Body : Type} (table : Table Entry RoundEvent Body), table.records batch =
      (List.range' ((startCursor ix db).lastBlock + 1)
        (last + 1 - ((startCursor ix db).lastBlock + 1))).flatMap
          (expected table decode ix chain))
    (decodes : ∀ n, (startCursor ix db).lastBlock + 1 ≤ n → n ≤ last →
      ∀ log ∈ (chain.block n).logs, Decodes decode ix chain log)
    (inv : Inv decode ix chain gap db) :
    Inv decode ix chain gap (db.append batch ix.stream (nextCursor ix last tip)) ∧
      Adopted ix (db.append batch ix.stream (nextCursor ix last tip)) ∧
      Settled ix (db.append batch ix.stream (nextCursor ix last tip)) := by
  have own := db.append_cursors_self batch ix.stream (nextCursor ix last tip)
  refine ⟨⟨?_, ?_, ?_, ?_⟩, ?_, ?_⟩
  · exact inv.entries.append distinct adopted settled onward (brings entriesTable) decodes
  · exact inv.rounds.append distinct adopted settled onward (brings roundsTable) decodes
  · intro cursor known held recorded
    rw [position_append] at held
    cases held
    cases recorded
    exact hash
  · intro cursor held older
    rw [position_append] at held
    cases held
    exact absurd rfl older
  · intro _ empty
    rw [own] at empty
    cases empty
  · intro cursor held
    rw [own] at held
    cases held
    simp [wantsReplay, nextCursor]

theorem inv_of_stepped {n m : Nat} {returned : Bool} (built : Indexer.new hashing cfg = .ok ix)
    (answers : ∀ tick, Answers chain (height tick) (world tick).client) (growing : Monotone height)
    (adopted : Adopted ix db) (settled : Settled ix db)
    (stepped : Stepped decode ix world n db returned m after)
    (inv : Inv decode ix chain gap db) :
    Inv decode ix chain gap after ∧ Adopted ix after ∧ Settled ix after := by
  have distinct : legacyStream ix ≠ ix.stream := Indexer.stream_ne_legacy built _
  cases stepped with
  | still _ _ => exact ⟨inv, adopted, settled⟩
  | looked _ _ _ checked _ =>
      obtain ⟨_, rfl⟩ := still_of_checked distinct answers adopted inv.placed checked
      exact ⟨inv, adopted, settled⟩
  | @read head mid cursor state final answered deep order past checked behind committed =>
      obtain ⟨rfl, rfl⟩ := still_of_checked distinct answers adopted inv.placed checked
      have isHead := (answers n).blockNumber head answered
      have onward : (startCursor ix state).lastBlock ≤
          lastOfRange ix (startCursor ix state) (head - ix.cfg.confirmations) := by
        unfold lastOfRange
        omega
      have reached : lastOfRange ix (startCursor ix state) (head - ix.cfg.confirmations) ≤ head := by
        unfold lastOfRange
        omega
      have steady : Steady (fun _ => chain) height chain mid m
          (lastOfRange ix (startCursor ix state) (head - ix.cfg.confirmations)) := by
        constructor
        · intro tick later _
          have grown := growing (order.trans later)
          omega
        · exact fun _ _ _ _ _ => rfl
      have listed := (Indexer.of_new built).2.1
      obtain ⟨batch, tip, rfl, hash, decodes, brings⟩ := of_committed listed answers steady committed
      exact inv_of_append distinct adopted settled onward hash brings decodes inv

end Commit

end Steps

/-! ## Runs -/

section Runs

variable (decode : Decoder Entry RoundEvent Payload) (ix : Indexer) (chain : Chain Payload)

/-- The block up to which an older decoder wrote what a database starts with. -/
def gapOf (db : Database Entry RoundEvent) : Nat :=
  match position ix db with
  | some cursor => if cursor.decoders = decoderVersion then 0 else cursor.lastBlock
  | none => 0

/-- A database an indexer of the same contracts left on the same chain: its
rows are records of the chain below its cursor, all of them unless an older
decoder wrote them. -/
structure Inherited (db : Database Entry RoundEvent) : Prop where
  entries : Sound entriesTable decode ix chain (lastRead ix db) db
  rounds : Sound roundsTable decode ix chain (lastRead ix db) db
  complete : ∀ n, ix.cfg.startBlock ≤ n → n ≤ lastRead ix db → ¬Pending ix db →
    Recorded entriesTable decode ix chain n db ∧ Recorded roundsTable decode ix chain n db
  hash : ∀ cursor hash, position ix db = some cursor → cursor.lastHash = some hash →
    hash = (chain.block cursor.lastBlock).hash

/-- What the index promises of one table, when an older decoder had written up
to block `gap`. -/
structure IndexedOnce (table : Table Entry RoundEvent Body) (gap : Nat)
    (db : Database Entry RoundEvent) : Prop where
  once : ((table.rows db).map Row.key).Nodup
  /-- A block the cursor passed is read, and its rows are its records. -/
  exact : ∀ n, ix.cfg.startBlock ≤ n → n ≤ lastRead ix db →
    gap < n ∨ (¬Pending ix db ∧ ix.cfg.skipDecoderReplay = false) →
      (∀ log ∈ (chain.block n).logs, Decodes decode ix chain log) ∧
        ∀ row, (row ∈ table.rows db ∧ Ours table ix row ∧ row.provenance.blockNumber = n) ↔
          row ∈ expected table decode ix chain n
  /-- Elsewhere there are only records too, and none above what was once read. -/
  genuine : ∀ row ∈ table.rows db, Ours table ix row →
    row ∈ expected table decode ix chain row.provenance.blockNumber ∧
      (row.provenance.blockNumber ≤ lastRead ix db ∨ row.provenance.blockNumber ≤ gap)

end Runs

section RunLemmas

variable {decode : Decoder Entry RoundEvent Payload} {ix : Indexer} {chain : Chain Payload}
variable {table : Table Entry RoundEvent Body} {db : Database Entry RoundEvent}
variable {hashing : Hashing} {cfg : Config} {world : Nat → Moment Payload} {height : Nat → Nat}

theorem Kept.indexedOnce {gap : Nat} (kept : Kept decode ix chain table gap db) :
    IndexedOnce decode ix chain table gap db where
  once := kept.sound.unique
  exact n started read outside := by
    have recorded : Recorded table decode ix chain n db := by
      rcases kept.recorded n started read with ⟨inGap, excused⟩ | recorded
      · rcases outside with above | ⟨settled, asked⟩
        · omega
        · rcases excused with pending | skips
          · exact absurd pending settled
          · rw [asked] at skips
            cases skips
      · exact recorded
    exact ⟨recorded.1, rows_of_recorded kept.sound recorded⟩
  genuine row member ours := by
    obtain ⟨record, below⟩ := kept.sound.genuine row member ours
    exact ⟨record, by omega⟩

theorem gapOf_of_older {cursor : Cursor} (found : position ix db = some cursor)
    (older : cursor.decoders ≠ decoderVersion) : gapOf ix db = cursor.lastBlock := by
  rw [gapOf, found]
  exact if_neg older

theorem Inherited.inv (inherited : Inherited decode ix chain db) :
    Inv decode ix chain (gapOf ix db) db := by
  have excused {Body : Type} {table : Table Entry RoundEvent Body}
      (complete : ∀ n, ix.cfg.startBlock ≤ n → n ≤ lastRead ix db → ¬Pending ix db →
        Recorded table decode ix chain n db) (n : Nat) (started : ix.cfg.startBlock ≤ n)
      (read : n ≤ lastRead ix db) :
      (n ≤ gapOf ix db ∧ (Pending ix db ∨ ix.cfg.skipDecoderReplay = true)) ∨
        Recorded table decode ix chain n db := by
    by_cases pending : Pending ix db
    · refine .inl ⟨?_, .inl pending⟩
      obtain ⟨cursor, found, older, _⟩ := pending
      rw [lastRead_of_position found] at read
      rw [gapOf_of_older found older]
      exact read
    · exact .inr (complete n started read pending)
  refine ⟨⟨inherited.entries.mono (Nat.le_max_left _ _), ?_⟩,
    ⟨inherited.rounds.mono (Nat.le_max_left _ _), ?_⟩, inherited.hash, ?_⟩
  · exact excused fun n started read settled => (inherited.complete n started read settled).1
  · exact excused fun n started read settled => (inherited.complete n started read settled).2
  · intro cursor found older
    rw [gapOf_of_older found older]
    exact Nat.le_max_left _ _

theorem inv_of_repairs {gap : Nat} {after : Database Entry RoundEvent}
    (built : Indexer.new hashing cfg = .ok ix)
    (repairs : Relation.ReflTransGen (Repair ix) db after)
    (inv : Inv decode ix chain gap (attributed ix db)) :
    Inv decode ix chain gap (attributed ix after) :=
  kept_of_repairs (fun _ _ => inv_of_repair built) repairs inv

/-- What holds of the process at any time: what is kept once every row has its
owner, that a booted process has nothing left to repair, and that an index
without ownerless rows gets none. -/
structure Running (decode : Decoder Entry RoundEvent Payload) (ix : Indexer)
    (chain : Chain Payload) (start : Database Entry RoundEvent) (p : Process Entry RoundEvent) :
    Prop where
  inv : Inv decode ix chain (gapOf ix start) (attributed ix p.db)
  ready : p.booted = true → Ready ix p.db
  owned : Owned ix start → Owned ix p.db

theorem Running.all_owned {start : Database Entry RoundEvent} {p : Process Entry RoundEvent}
    (running : Running decode ix chain start p) (through : p.booted = true ∨ Owned ix start) :
    Owned ix p.db := by
  rcases through with booted | owned
  · exact owned_of_ready (running.ready booted) running.inv.owned
  · exact running.owned owned

theorem running_of_step {start : Database Entry RoundEvent} {p next : Process Entry RoundEvent}
    (built : Indexer.new hashing cfg = .ok ix)
    (answers : ∀ tick, Answers chain (height tick) (world tick).client) (growing : Monotone height)
    (running : Running decode ix chain start p) (taken : act decode ix world p .step = .ok next) :
    Running decode ix chain start next := by
  obtain ⟨booted, _, stepped⟩ := of_act_step taken
  have ready := running.ready booted
  have inv := running.inv
  rw [attributed_of_owned (running.all_owned (.inl booted))] at inv
  obtain ⟨kept, adopted, settled⟩ :=
    inv_of_stepped built answers growing ready.adopted ready.settled stepped inv
  have owned : Owned ix next.db := kept.owned
  refine ⟨?_, ?_, fun _ => owned⟩
  · rw [attributed_of_owned owned]
    exact kept
  · intro _
    refine ⟨adopted, ?_, owned.rounds, settled⟩
    intro row member bare
    rw [owned.entries row member] at bare
    cases bare

theorem running_of_run (built : Indexer.new hashing cfg = .ok ix)
    (answers : ∀ tick, Answers chain (height tick) (world tick).client) (growing : Monotone height)
    (inherited : Inherited decode ix chain (attributed ix db)) {p : Process Entry RoundEvent}
    (reached : (process decode ix world fun _ start => start = db).Reachable p) :
    Running decode ix chain db p := by
  induction reached with
  | initial start =>
      obtain ⟨rfl, down⟩ := start
      refine ⟨inherited.inv, ?_, id⟩
      rw [down]
      nofun
  | @step p next label before taken ih =>
      cases label with
      | restart =>
          cases taken
          exact ⟨ih.inv, nofun, ih.owned⟩
      | pass ticks =>
          cases taken
          exact ⟨ih.inv, ih.ready, ih.owned⟩
      | preflight =>
          obtain ⟨repairs, booted⟩ := of_act_preflight taken
          exact ⟨inv_of_repairs built repairs.2 ih.inv, booted, fun owned =>
            kept_of_repairs (fun _ _ => owned_of_repair) repairs.2 (ih.owned owned)⟩
      | step => exact running_of_step built answers growing ih taken

end RunLemmas

section Sample

def plainConfig (skip : Bool) : Config := { otherConfig with skipDecoderReplay := skip }

def plainIndexer (skip : Bool) : Indexer := built sampleHashing (plainConfig skip)

def sampleHash (n : Nat) : Hash := ⟨List.replicate 64 (Fin.ofNat 16 n), List.length_replicate⟩

def vaultLog : Log (List Nat) where
  address := hexToAddress (sampleAddress '1')
  blockNumber := 1
  blockHash := sampleHash 1
  txHash := sampleHash 9
  index := 0
  removed := false
  payload := [10, 20]

def sampleChain : Chain (List Nat) where
  block n := ⟨sampleHash n, 12 * n, if n = 1 then [vaultLog] else []⟩
  placed n log member := by
    by_cases one : n = 1
    · subst one
      rw [List.mem_singleton.1 member]
      decide
    · rw [if_neg one] at member
      cases member
  distinct n m log member other member' _ _ := by
    have only {k : Nat} {log : Log (List Nat)}
        (member : log ∈ if k = 1 then [vaultLog] else []) : log = vaultLog := by
      split at member
      · exact List.mem_singleton.1 member
      · cases member
    rw [only member, only member']

def sampleDecode : Decoder Nat Nat (List Nat) := fun _ _ payload => .ok (some ⟨[], payload, []⟩)

def sampleWorld : Nat → Moment (List Nat) := fun _ => ⟨honest sampleChain 7, .works⟩

/-- An older decoder recorded the first number of the log in block 1, without
the vault's address and under the chain-scoped name. -/
def olderDatabase (skip : Bool) : Database Nat Nat where
  entries := ((expected entriesTable sampleDecode (plainIndexer skip) sampleChain 1).take 1).map
    fun row => { row with owner := none }
  rounds := []
  cursors := Function.update (fun _ => none) (legacyStream (plainIndexer skip))
    (some ⟨11155111, 1, none, (plainIndexer skip).fingerprint, "older".toList⟩)

theorem position_older (skip : Bool) :
    position (plainIndexer skip) (olderDatabase skip) =
      some ⟨11155111, 1, none, (plainIndexer skip).fingerprint, "older".toList⟩ := by
  cases skip <;> decide +kernel

theorem older_attributed (skip : Bool) :
    (attributed (plainIndexer skip) (olderDatabase skip)).entries =
      (expected entriesTable sampleDecode (plainIndexer skip) sampleChain 1).take 1 := by
  cases skip <;> decide +kernel

theorem older_inherited (skip : Bool) :
    Inherited sampleDecode (plainIndexer skip) sampleChain
      (attributed (plainIndexer skip) (olderDatabase skip)) := by
  have found : position (plainIndexer skip) (attributed (plainIndexer skip) (olderDatabase skip)) =
      some _ := position_older skip
  have record {row : Row Nat}
      (member : row ∈ (attributed (plainIndexer skip) (olderDatabase skip)).entries) :
      row ∈ expected entriesTable sampleDecode (plainIndexer skip) sampleChain 1 := by
    rw [older_attributed] at member
    exact List.mem_of_mem_take member
  have pending : Pending (plainIndexer skip)
      (attributed (plainIndexer skip) (olderDatabase skip)) := by
    refine ⟨_, found, ?_, ?_⟩
    · cases skip <;> decide +kernel
    · cases skip <;> decide +kernel
  constructor
  · constructor
    · cases skip <;> decide +kernel
    · intro row member _
      rw [block_of_expected (record member), lastRead_of_position found]
      exact ⟨record member, Nat.le_refl 1⟩
    · intro row member foreign
      exact absurd (ours_of_expected (record member)) foreign
    · cases skip <;> decide +kernel
  · exact ⟨List.nodup_nil, nofun, nofun, nofun⟩
  · exact fun _ _ _ settled => absurd pending settled
  · intro cursor hash held recorded
    rw [found] at held
    cases held
    cases recorded

def samplePolls (skip : Bool) : Machine (Process Nat Nat) Act :=
  process sampleDecode (plainIndexer skip) sampleWorld fun _ start => start = olderDatabase skip

/-- A boot and a poll, from the database the older decoder left. -/
theorem reachable_of_poll (skip : Bool) (check : Process Nat Nat → Bool)
    (ran : Checked.passes (Machine.replay (act sampleDecode (plainIndexer skip) sampleWorld)
      ⟨0, olderDatabase skip, false⟩ [.preflight, .step]) check = true) :
    ∃ p, (samplePolls skip).Reachable p ∧ check p = true := by
  obtain ⟨p, replayed, checked⟩ := Checked.exists_of_passes _ ran
  have start : (samplePolls skip).Reachable ⟨0, olderDatabase skip, false⟩ :=
    .initial ⟨rfl, rfl⟩
  exact ⟨p, start.replay (fun _ _ _ _ taken => taken) replayed, checked⟩

end Sample

end Index

end Ghoststake
