import Ghoststake.Index.Steps

/-!
# The chain behind the endpoint

A chain is its blocks, an endpoint answers for it or fails, and the index is
held against the records of its logs. The two tables are treated as one.
-/

namespace Ghoststake

set_option autoImplicit false

open KeyedTable

namespace Index

variable {Entry RoundEvent Payload Body : Type}

structure Block (Payload : Type) where
  hash : Hash
  time : Nat
  logs : List (Log Payload)

/-- Every log knows its block, and a transaction and an index name one log. -/
structure Chain (Payload : Type) where
  block : Nat → Block Payload
  placed : ∀ n, ∀ log ∈ (block n).logs,
    log.blockNumber = n ∧ log.blockHash = (block n).hash ∧ log.removed = false
  distinct : ∀ n m, ∀ log ∈ (block n).logs, ∀ other ∈ (block m).logs,
    log.txHash = other.txHash → log.index = other.index → log = other

/-- A bloom has a bit set by every log, and by nothing else. -/
def Block.header (block : Block Payload) : Header where
  hash := block.hash
  time := block.time
  bloom := !block.logs.isEmpty

def matching (addresses : Option (List Address)) (log : Log Payload) : Bool :=
  match addresses with
  | none => true
  | some addresses => log.address ∈ addresses

/-- The logs of `[first, last]` in the order of the chain. -/
def Chain.logsBetween (chain : Chain Payload) (first last : Nat)
    (addresses : Option (List Address)) : List (Log Payload) :=
  (List.range' first (last + 1 - first)).flatMap fun n =>
    (chain.block n).logs.filter (matching addresses)

/-- Whatever the endpoint answers is what a chain of this height holds. -/
structure Answers (chain : Chain Payload) (height : Nat) (client : EthClient Payload) : Prop where
  blockNumber : ∀ head, client.blockNumber = some head → head = height
  headerByNumber : ∀ n header, client.headerByNumber n = some header →
    n ≤ height ∧ header = (chain.block n).header
  filterLogs : ∀ first last addresses logs, client.filterLogs first last addresses = some logs →
    logs = chain.logsBetween first (min last height) addresses

theorem mem_logsBetween {chain : Chain Payload} {first last : Nat}
    {addresses : Option (List Address)} {log : Log Payload} :
    log ∈ chain.logsBetween first last addresses ↔
      ∃ n, first ≤ n ∧ n ≤ last ∧ log ∈ (chain.block n).logs ∧ matching addresses log = true := by
  simp only [Chain.logsBetween, List.mem_flatMap, List.mem_range'_1, List.mem_filter]
  constructor
  · rintro ⟨n, ⟨after, before⟩, inBlock, wanted⟩
    exact ⟨n, after, by omega, inBlock, wanted⟩
  · rintro ⟨n, after, before, inBlock, wanted⟩
    exact ⟨n, ⟨after, by omega⟩, inBlock, wanted⟩

def honest (chain : Chain Payload) (height : Nat) : EthClient Payload where
  blockNumber := some height
  headerByNumber n := if n ≤ height then some (chain.block n).header else none
  filterLogs first last addresses := some (chain.logsBetween first (min last height) addresses)

theorem answers_honest (chain : Chain Payload) (height : Nat) :
    Answers chain height (honest chain height) where
  blockNumber head answered := (Option.some.inj answered).symm
  headerByNumber n header answered := by
    simp only [honest, Option.ite_none_right_eq_some, Option.some.injEq] at answered
    exact ⟨answered.1, answered.2.symm⟩
  filterLogs first last addresses logs answered := (Option.some.inj answered).symm

/-! ## The two tables as one -/

/-- One of the two tables: its rows, and what a batch brings it. -/
structure Table (Entry RoundEvent Body : Type) where
  rows : Database Entry RoundEvent → List (Row Body)
  records : Batch Entry RoundEvent → List (Row Body)
  /-- The rows of the contracts an indexer watches. -/
  owners : Indexer → List Address
  rows_append : ∀ db batch stream cursor,
    rows (db.append batch stream cursor) = insertAll Row.key (rows db) (records batch)
  rows_rollback : ∀ db chainID stream fromBlock rolled,
    db.rollbackFrom chainID stream fromBlock = some rolled →
      rows rolled = (rows db).filter fun row => !row.atOrAbove chainID fromBlock
  rows_cursors : ∀ db cursors, rows { db with cursors := cursors } = rows db
  records_nil : records ⟨[], []⟩ = []
  records_add : ∀ left right : Batch Entry RoundEvent,
    records ⟨left.entries ++ right.entries, left.rounds ++ right.rounds⟩ =
      records left ++ records right
  /-- Records of one log share all but their index, which numbers them. -/
  records_decode : ∀ {Payload : Type} (decode : Decoder Entry RoundEvent Payload) ix c
    (log : Log Payload) time batch, c ∈ ix.contracts → c.address = log.address →
    decodeLog decode ix.cfg.chainID c log time = .ok batch →
      ∃ eventName owner bodies, (owner ∈ (owners ix).map some ∨ bodies = []) ∧
        records batch = stamped (stamp ix.cfg.chainID c log time eventName) owner bodies

/-- `ledger_entries`. -/
def entriesTable : Table Entry RoundEvent Entry where
  rows := Database.entries
  records := Batch.entries
  owners ix := ix.contracts.map (·.address)
  rows_append _ _ _ _ := rfl
  rows_rollback := by
    intro db chainID stream fromBlock rolled ran
    unfold Database.rollbackFrom at ran
    split at ran
    · cases ran
    · cases ran
      rfl
  rows_cursors _ _ := rfl
  records_nil := rfl
  records_add _ _ := rfl
  records_decode := by
    intro Payload decode ix c log time batch listed here ran
    unfold decodeLog at ran
    split at ran
    · cases ran
    · cases ran
      exact ⟨[], none, [], .inr rfl, rfl⟩
    · rename_i decoded _
      cases ran
      refine ⟨decoded.eventName, some log.address, decoded.entries, .inl ?_, rfl⟩
      rw [List.mem_map]
      exact ⟨log.address, here ▸ List.mem_map_of_mem listed, rfl⟩

/-- `round_events`. -/
def roundsTable : Table Entry RoundEvent RoundEvent where
  rows := Database.rounds
  records := Batch.rounds
  owners := marketAddresses
  rows_append _ _ _ _ := rfl
  rows_rollback := by
    intro db chainID stream fromBlock rolled ran
    unfold Database.rollbackFrom at ran
    split at ran
    · cases ran
    · cases ran
      rfl
  rows_cursors _ _ := rfl
  records_nil := rfl
  records_add _ _ := rfl
  records_decode := by
    intro Payload decode ix c log time batch listed here ran
    unfold decodeLog at ran
    split at ran
    · cases ran
    · cases ran
      exact ⟨[], none, [], .inr rfl, rfl⟩
    · rename_i decoded _
      cases ran
      refine ⟨decoded.eventName, c.market, entriesOnly c decoded.rounds, ?_, rfl⟩
      cases filed : c.market with
      | none => exact .inr (if_pos filed)
      | some market =>
          refine .inl (List.mem_map.2 ⟨market, ?_, rfl⟩)
          exact List.mem_filterMap.2 ⟨c, listed, filed⟩

theorem Table.rows_adopt (table : Table Entry RoundEvent Body) (db : Database Entry RoundEvent)
    (legacy stream : Text) : table.rows (db.adoptCursor legacy stream) = table.rows db := by
  unfold Database.adoptCursor
  split
  · exact table.rows_cursors db _
  · rfl

/-! ## The records of a chain -/

section Records

variable (table : Table Entry RoundEvent Body) (decode : Decoder Entry RoundEvent Payload)
variable (ix : Indexer) (chain : Chain Payload)

def derived (log : Log Payload) : Batch Entry RoundEvent :=
  match specFor ix log.address with
  | none => ⟨[], []⟩
  | some c =>
      match decodeLog decode ix.cfg.chainID c log (chain.block log.blockNumber).time with
      | .ok batch => batch
      | .error _ => ⟨[], []⟩

/-- The decoders can read the log, if they are asked to. -/
def Decodes (log : Log Payload) : Prop :=
  ∀ c, specFor ix log.address = some c → ∃ batch,
    decodeLog decode ix.cfg.chainID c log (chain.block log.blockNumber).time = .ok batch

def expected (n : Nat) : List (Row Body) :=
  (chain.block n).logs.flatMap fun log => table.records (derived decode ix chain log)

/-- The rows of the contracts `ix` watches. -/
def Ours (row : Row Body) : Prop :=
  row.provenance.chainID = ix.cfg.chainID ∧ row.owner ∈ (table.owners ix).map some

end Records

section RecordLemmas

variable {table : Table Entry RoundEvent Body} {decode : Decoder Entry RoundEvent Payload}
variable {ix : Indexer} {chain : Chain Payload} {row other : Row Body} {n m : Nat}

theorem of_specFor {address : Address} {c : ContractSpec} (found : specFor ix address = some c) :
    c ∈ ix.contracts ∧ c.address = address := by
  have matched := @List.find?_some _ (fun c : ContractSpec => c.address == address) c _ found
  exact ⟨List.mem_of_find?_eq_some found, eq_of_beq matched⟩

theorem specFor_of_not_mem {address : Address} (listed : ix.addresses = ix.contracts.map (·.address))
    (foreign : address ∉ ix.addresses) : specFor ix address = none := by
  apply List.find?_eq_none.2
  intro c member same
  apply foreign
  rw [listed, ← eq_of_beq same]
  exact List.mem_map_of_mem member

theorem mem_stamped {provenance : Nat → Provenance} {owner : Option Address} {bodies : List Body}
    (member : row ∈ stamped provenance owner bodies) :
    ∃ i body, bodies[i]? = some body ∧ row = ⟨provenance i, owner, body⟩ := by
  obtain ⟨i, inside, rfl⟩ := List.mem_mapIdx.1 member
  exact ⟨i, bodies[i], List.getElem?_eq_getElem inside, rfl⟩

variable (table decode ix chain) in
/-- The records of a log carry its coordinates and an index of their own. -/
theorem records_of_derived (log : Log Payload) :
    ∃ c eventName owner bodies, (owner ∈ (table.owners ix).map some ∨ bodies = []) ∧
      table.records (derived decode ix chain log) =
        stamped (stamp ix.cfg.chainID c log (chain.block log.blockNumber).time eventName) owner
          bodies := by
  have empty : ∃ c eventName owner bodies, (owner ∈ (table.owners ix).map some ∨ bodies = []) ∧
      table.records ⟨[], []⟩ =
        stamped (stamp ix.cfg.chainID c log (chain.block log.blockNumber).time eventName) owner
          bodies := by
    refine ⟨⟨.collateralVault, log.address, none, none⟩, [], none, [], .inr rfl, ?_⟩
    rw [table.records_nil]
    rfl
  unfold derived
  split
  · exact empty
  · rename_i c found
    split
    · rename_i batch ran
      have ⟨listed, here⟩ := of_specFor found
      exact ⟨c, table.records_decode decode ix c log _ batch listed here ran⟩
    · exact empty

theorem of_mem_expected (member : row ∈ expected table decode ix chain n) :
    ∃ log ∈ (chain.block n).logs, row ∈ table.records (derived decode ix chain log) ∧
      row.provenance.chainID = ix.cfg.chainID ∧ row.provenance.blockNumber = n ∧
      row.provenance.txHash = log.txHash ∧ row.provenance.logIndex = log.index ∧
      row.owner ∈ (table.owners ix).map some := by
  obtain ⟨log, inBlock, inRecords⟩ := List.mem_flatMap.1 member
  obtain ⟨c, eventName, owner, bodies, filed, records⟩ :=
    records_of_derived table decode ix chain log
  refine ⟨log, inBlock, inRecords, ?_⟩
  rw [records] at inRecords
  obtain ⟨i, body, found, rfl⟩ := mem_stamped inRecords
  refine ⟨rfl, (chain.placed n log inBlock).1, rfl, rfl, ?_⟩
  rcases filed with filed | none
  · exact filed
  · rw [none] at found
    cases found

theorem ours_of_expected (member : row ∈ expected table decode ix chain n) :
    Ours table ix row := by
  obtain ⟨_, _, _, chainID, _, _, _, owner⟩ := of_mem_expected member
  exact ⟨chainID, owner⟩

theorem block_of_expected (member : row ∈ expected table decode ix chain n) :
    row.provenance.blockNumber = n := by
  obtain ⟨_, _, _, _, block, _⟩ := of_mem_expected member
  exact block

/-- The uniqueness key names one record of a chain. -/
theorem expected_key_injective (left : row ∈ expected table decode ix chain n)
    (right : other ∈ expected table decode ix chain m) (same : row.key = other.key) :
    row = other := by
  obtain ⟨log, inBlock, inRecords, _, _, tx, index, _⟩ := of_mem_expected left
  obtain ⟨log', inBlock', inRecords', _, _, tx', index', _⟩ := of_mem_expected right
  simp only [Row.key, Prod.mk.injEq] at same
  obtain ⟨_, sameTx, sameIndex, sameRecord⟩ := same
  have one : log = log' := by
    apply chain.distinct n m log inBlock log' inBlock'
    · rw [← tx, ← tx', sameTx]
    · rw [← index, ← index', sameIndex]
  subst one
  obtain ⟨c, eventName, owner, bodies, _, records⟩ :=
    records_of_derived table decode ix chain log
  rw [records] at inRecords inRecords'
  obtain ⟨i, body, found, rfl⟩ := mem_stamped inRecords
  obtain ⟨j, body', found', rfl⟩ := mem_stamped inRecords'
  have index : i = j := sameRecord
  subst index
  rw [found] at found'
  cases found'
  rfl

variable (table) in
/-- What decoding a list of the chain's logs brings to the table. -/
theorem records_of_decoded {timeOf : Nat → Nat → Prop} {logs : List (Log Payload)}
    {batch : Batch Entry RoundEvent} (decoded : DecodedLogs decode ix timeOf logs batch)
    (kept : ∀ log ∈ logs, log.removed = false)
    (times : ∀ log ∈ logs, ∀ time, timeOf log.blockNumber time →
      time = (chain.block log.blockNumber).time) :
    (∀ log ∈ logs, Decodes decode ix chain log) ∧
      table.records batch = logs.flatMap fun log => table.records (derived decode ix chain log) := by
  induction decoded with
  | nil => exact ⟨nofun, table.records_nil⟩
  | @skip log rest batch untracked others ih =>
      obtain ⟨decodes, records⟩ := ih
        (fun other member => kept other (List.mem_cons_of_mem _ member))
        (fun other member => times other (List.mem_cons_of_mem _ member))
      have unwatched : specFor ix log.address = none := by
        rcases untracked with gone | unwatched
        · have stays := kept log List.mem_cons_self
          rw [gone] at stays
          cases stays
        · exact unwatched
      have none : derived decode ix chain log = ⟨[], []⟩ := by
        rw [derived, unwatched]
      constructor
      · intro other member c found
        rcases List.mem_cons.1 member with rfl | older
        · rw [unwatched] at found
          cases found
        · exact decodes other older c found
      · rw [List.flatMap_cons, none, table.records_nil, List.nil_append]
        exact records
  | @track log rest c time first batch _ watched at_ ran others ih =>
      obtain ⟨decodes, records⟩ := ih
        (fun other member => kept other (List.mem_cons_of_mem _ member))
        (fun other member => times other (List.mem_cons_of_mem _ member))
      have onTime := times log List.mem_cons_self time at_
      rw [onTime] at ran
      have is : derived decode ix chain log = first := by
        simp only [derived, watched, ran]
      constructor
      · intro other member c' found
        rcases List.mem_cons.1 member with rfl | older
        · rw [watched] at found
          cases found
          exact ⟨first, ran⟩
        · exact decodes other older c' found
      · rw [List.flatMap_cons, is, table.records_add first batch, records]

theorem flatMap_watched (listed : ix.addresses = ix.contracts.map (·.address))
    (logs : List (Log Payload)) :
    (logs.filter (matching (some ix.addresses))).flatMap
        (fun log => table.records (derived decode ix chain log)) =
      logs.flatMap fun log => table.records (derived decode ix chain log) := by
  induction logs with
  | nil => rfl
  | cons log rest ih =>
      by_cases watched : matching (some ix.addresses) log = true
      · rw [List.filter_cons_of_pos watched, List.flatMap_cons, List.flatMap_cons, ih]
      · have foreign : log.address ∉ ix.addresses := by
          intro member
          exact watched (decide_eq_true member)
        have nothing : derived decode ix chain log = ⟨[], []⟩ := by
          rw [derived, specFor_of_not_mem listed foreign]
        rw [List.filter_cons_of_neg watched, List.flatMap_cons, nothing, table.records_nil,
          List.nil_append, ih]

theorem records_of_range (listed : ix.addresses = ix.contracts.map (·.address))
    (first last : Nat) :
    (chain.logsBetween first last (some ix.addresses)).flatMap
        (fun log => table.records (derived decode ix chain log)) =
      (List.range' first (last + 1 - first)).flatMap (expected table decode ix chain) := by
  rw [Chain.logsBetween, List.flatMap_assoc]
  apply List.flatMap_congr
  intro n _
  exact flatMap_watched listed (chain.block n).logs

end RecordLemmas

/-! ## What a committed range holds -/

section Commit

variable {decode : Decoder Entry RoundEvent Payload} {ix : Indexer}
variable {world : Nat → Moment Payload} {db state : Database Entry RoundEvent}
variable {history : Nat → Chain Payload} {height : Nat → Nat} {chain : Chain Payload}

/-- From tick `lo` to tick `hi` the endpoint's chain agrees with `chain` up to
block `last`, which it has reached. -/
structure Steady (history : Nat → Chain Payload) (height : Nat → Nat) (chain : Chain Payload)
    (lo hi last : Nat) : Prop where
  tall : ∀ tick, lo ≤ tick → tick < hi → last ≤ height tick
  same : ∀ tick, lo ≤ tick → tick < hi → ∀ n ≤ last, (history tick).block n = chain.block n

theorem logsBetween_congr {left right : Chain Payload} {first last : Nat}
    {addresses : Option (List Address)} (same : ∀ n ≤ last, left.block n = right.block n) :
    left.logsBetween first last addresses = right.logsBetween first last addresses := by
  unfold Chain.logsBetween
  apply List.flatMap_congr
  intro n member
  rw [List.mem_range'_1] at member
  rw [same n (by omega)]

/-- A range committed over steady ticks is the chain's records of the range. -/
theorem of_committed {lo hi first last : Nat} (listed : ix.addresses = ix.contracts.map (·.address))
    (answers : ∀ tick, Answers (history tick) (height tick) (world tick).client)
    (steady : Steady history height chain lo hi last)
    (committed : Committed decode ix world lo hi first last db state) :
    ∃ batch tip, state = db.append batch ix.stream (nextCursor ix last tip) ∧
      tip.hash = (chain.block last).hash ∧
      (∀ n, first ≤ n → n ≤ last → ∀ log ∈ (chain.block n).logs, Decodes decode ix chain log) ∧
      ∀ {Body : Type} (table : Table Entry RoundEvent Body), table.records batch =
        (List.range' first (last + 1 - first)).flatMap (expected table decode ix chain) := by
  obtain ⟨logsAt, logs, batch, tipAt, tip, afterLogs, order, beforeEnd, found, decoded, tipped,
    written⟩ := committed
  have tall := steady.tall logsAt afterLogs (by omega)
  have isLogs : logs = chain.logsBetween first last (some ix.addresses) := by
    have told := (answers logsAt).filterLogs _ _ _ _ found
    rw [Nat.min_eq_left tall] at told
    rw [told]
    exact logsBetween_congr (steady.same logsAt afterLogs (by omega))
  have inside : ∀ log ∈ logs, log.blockNumber ≤ last ∧ log.removed = false := by
    intro log member
    rw [isLogs] at member
    obtain ⟨n, _, below, inBlock, _⟩ := mem_logsBetween.1 member
    obtain ⟨number, _, kept⟩ := chain.placed n log inBlock
    exact ⟨by omega, kept⟩
  have times : ∀ log ∈ logs, ∀ time, TimeOf world lo tipAt log.blockNumber time →
      time = (chain.block log.blockNumber).time := by
    rintro log member time ⟨tick, header, after, before, answered, told⟩
    have ⟨_, is⟩ := (answers tick).headerByNumber _ _ answered
    rw [← told, is, steady.same tick after (by omega) _ (inside log member).1]
    rfl
  have kept : ∀ log ∈ logs, log.removed = false := fun log member => (inside log member).2
  have decodes := (records_of_decoded entriesTable decoded kept times).1
  refine ⟨batch, tip, written, ?_, ?_, ?_⟩
  · have ⟨_, is⟩ := (answers tipAt).headerByNumber _ _ tipped
    rw [is, steady.same tipAt (by omega) beforeEnd last (Nat.le_refl last)]
    rfl
  · intro n after below log inBlock
    by_cases watched : matching (some ix.addresses) log = true
    · apply decodes
      rw [isLogs]
      exact mem_logsBetween.2 ⟨n, after, below, inBlock, watched⟩
    · intro c specified
      have foreign : log.address ∉ ix.addresses := fun member => watched (decide_eq_true member)
      rw [specFor_of_not_mem listed foreign] at specified
      cases specified
  · intro Body table
    rw [(records_of_decoded table decoded kept times).2, isLogs]
    exact records_of_range listed first last

end Commit

end Index

end Ghoststake
