import Ghoststake.Index.Endpoint

/-!
# Rows against a chain

Which rows a table may hold of the contracts an indexer watches, and what
committing the records of a range does to them.
-/

namespace Ghoststake

set_option autoImplicit false

open Calls KeyedTable

namespace Index

variable {Entry RoundEvent Payload Body : Type}

section Definitions

variable (table : Table Entry RoundEvent Body) (decode : Decoder Entry RoundEvent Payload)
variable (ix : Indexer) (chain : Chain Payload)

/-- The rows of our contracts are records of the chain, none of a block above
`top`, and nobody else's row takes the key of one. -/
structure Sound (top : Nat) (db : Database Entry RoundEvent) : Prop where
  unique : ((table.rows db).map Row.key).Nodup
  genuine : ∀ row ∈ table.rows db, Ours table ix row →
    row ∈ expected table decode ix chain row.provenance.blockNumber ∧
      row.provenance.blockNumber ≤ top
  apart : ∀ row ∈ table.rows db, ¬Ours table ix row → ∀ n,
    ∀ record ∈ expected table decode ix chain n, row.key ≠ record.key
  attributed : ∀ row ∈ table.rows db, row.unattributed ix.cfg.chainID = false

/-- Block `n` was read: its logs decode and their records are there. -/
def Recorded (n : Nat) (db : Database Entry RoundEvent) : Prop :=
  (∀ log ∈ (chain.block n).logs, Decodes decode ix chain log) ∧
    ∀ record ∈ expected table decode ix chain n, record ∈ table.rows db

end Definitions

section RowLemmas

variable {table : Table Entry RoundEvent Body} {decode : Decoder Entry RoundEvent Payload}
variable {ix : Indexer} {chain : Chain Payload} {db : Database Entry RoundEvent}
variable {batch : Batch Entry RoundEvent} {stream : Text} {cursor : Cursor} {top first last : Nat}

theorem Sound.agrees (sound : Sound table decode ix chain top db) (n : Nat) :
    Agrees Row.key (table.rows db) (expected table decode ix chain n) := by
  intro row member record isRecord same
  by_cases ours : Ours table ix row
  · exact expected_key_injective (sound.genuine row member ours).1 isRecord same
  · exact absurd same (sound.apart row member ours n record isRecord)

theorem mem_rows_append (sound : Sound table decode ix chain top db)
    (brings : table.records batch =
      (List.range' first (last + 1 - first)).flatMap (expected table decode ix chain))
    (row : Row Body) :
    row ∈ table.rows (db.append batch stream cursor) ↔ row ∈ table.rows db ∨
      ∃ n, first ≤ n ∧ n ≤ last ∧ row ∈ expected table decode ix chain n := by
  have inRange (record : Row Body) : record ∈ table.records batch ↔
      ∃ n, first ≤ n ∧ n ≤ last ∧ record ∈ expected table decode ix chain n := by
    rw [brings]
    simp only [List.mem_flatMap, List.mem_range'_1]
    constructor
    · rintro ⟨n, ⟨after, before⟩, member⟩
      exact ⟨n, after, by omega, member⟩
    · rintro ⟨n, after, before, member⟩
      exact ⟨n, ⟨after, by omega⟩, member⟩
  have outer : Agrees Row.key (table.rows db) (table.records batch) := by
    intro row member record isRecord same
    obtain ⟨n, _, _, found⟩ := (inRange record).1 isRecord
    exact sound.agrees n row member record found same
  have inner : Agrees Row.key (table.records batch) (table.records batch) := by
    intro record isRecord other isOther same
    obtain ⟨n, _, _, found⟩ := (inRange record).1 isRecord
    obtain ⟨m, _, _, found'⟩ := (inRange other).1 isOther
    exact expected_key_injective found found' same
  rw [table.rows_append, mem_insertAll_iff outer inner, inRange]

theorem Sound.append (sound : Sound table decode ix chain top db)
    (brings : table.records batch =
      (List.range' first (last + 1 - first)).flatMap (expected table decode ix chain)) :
    Sound table decode ix chain (max top last) (db.append batch stream cursor) where
  unique := by
    rw [table.rows_append]
    exact nodup_insertAll sound.unique
  genuine row member ours := by
    rcases (mem_rows_append sound brings row).1 member with old | ⟨n, _, below, record⟩
    · obtain ⟨is, bounded⟩ := sound.genuine row old ours
      exact ⟨is, by omega⟩
    · rw [block_of_expected record]
      exact ⟨record, by omega⟩
  apart row member foreign n record isRecord := by
    rcases (mem_rows_append sound brings row).1 member with old | ⟨m, _, _, isOurs⟩
    · exact sound.apart row old foreign n record isRecord
    · exact absurd (ours_of_expected isOurs) foreign
  attributed row member := by
    rcases (mem_rows_append sound brings row).1 member with old | ⟨n, _, _, record⟩
    · exact sound.attributed row old
    · obtain ⟨owner, _, owned⟩ := List.mem_map.1 (ours_of_expected record).2
      rw [Row.unattributed, ← owned]
      simp

theorem Recorded.append {n : Nat} (recorded : Recorded table decode ix chain n db) :
    Recorded table decode ix chain n (db.append batch stream cursor) := by
  refine ⟨recorded.1, ?_⟩
  intro record isRecord
  rw [table.rows_append]
  exact mem_insertAll_of_mem (recorded.2 record isRecord)

theorem recorded_of_append {n : Nat} (sound : Sound table decode ix chain top db)
    (brings : table.records batch =
      (List.range' first (last + 1 - first)).flatMap (expected table decode ix chain))
    (decodes : ∀ log ∈ (chain.block n).logs, Decodes decode ix chain log)
    (after : first ≤ n) (before : n ≤ last) :
    Recorded table decode ix chain n (db.append batch stream cursor) :=
  ⟨decodes, fun record isRecord =>
    (mem_rows_append sound brings record).2 (.inr ⟨n, after, before, isRecord⟩)⟩

theorem Sound.mono {higher : Nat} (sound : Sound table decode ix chain top db)
    (above : top ≤ higher) : Sound table decode ix chain higher db :=
  { sound with
    genuine := fun row member ours =>
      ⟨(sound.genuine row member ours).1, (sound.genuine row member ours).2.trans above⟩ }

theorem Sound.congr {after : Database Entry RoundEvent} (same : table.rows after = table.rows db)
    (sound : Sound table decode ix chain top db) : Sound table decode ix chain top after where
  unique := same ▸ sound.unique
  genuine := same ▸ sound.genuine
  apart := same ▸ sound.apart
  attributed := same ▸ sound.attributed

theorem Recorded.congr {n : Nat} {after : Database Entry RoundEvent}
    (same : table.rows after = table.rows db) (recorded : Recorded table decode ix chain n db) :
    Recorded table decode ix chain n after :=
  ⟨recorded.1, same ▸ recorded.2⟩

/-- In a block that was read, our rows are the records. -/
theorem rows_of_recorded {n : Nat} (sound : Sound table decode ix chain top db)
    (recorded : Recorded table decode ix chain n db) (row : Row Body) :
    (row ∈ table.rows db ∧ Ours table ix row ∧ row.provenance.blockNumber = n) ↔
      row ∈ expected table decode ix chain n := by
  constructor
  · rintro ⟨member, ours, rfl⟩
    exact (sound.genuine row member ours).1
  · intro record
    exact ⟨recorded.2 row record, ours_of_expected record, block_of_expected record⟩

end RowLemmas

end Index

end Ghoststake
