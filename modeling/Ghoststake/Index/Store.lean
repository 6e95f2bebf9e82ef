import Ghoststake.Index.Deployment
import Ghoststake.Library.KeyedTable

/-!
# The derived index in the database

The two tables of records, the cursors, and the statements that write them.
-/

namespace Ghoststake

set_option autoImplicit false

open KeyedTable

namespace Index

abbrev Hash := Nibbles 64

structure Provenance where
  chainID : Int
  blockNumber : Nat
  blockHash : Hash
  blockTime : Nat
  txHash : Hash
  logIndex : Nat
  recordIndex : Nat
  contract : ContractName
  eventName : Text
deriving DecidableEq

/-- A row of `ledger_entries` or of `round_events`. Its owner is the
`contract_address` of the one, NULL being none, and the `market` of the other,
none being the empty string. -/
structure Row (Body : Type) where
  provenance : Provenance
  owner : Option Address
  body : Body
deriving DecidableEq

/-- Both tables are unique on these columns. -/
def Row.key {Body : Type} (row : Row Body) : Int × Hash × Nat × Nat :=
  (row.provenance.chainID, row.provenance.txHash, row.provenance.logIndex,
    row.provenance.recordIndex)

/-- How far a stream has been read; the stream is the key of the row. -/
structure Cursor where
  chainID : Int
  lastBlock : Nat
  /-- None is the empty hash: unverified. -/
  lastHash : Option Hash
  contracts : Text
  decoders : Text
deriving DecidableEq

structure Batch (Entry RoundEvent : Type) where
  entries : List (Row Entry)
  rounds : List (Row RoundEvent)

structure Database (Entry RoundEvent : Type) where
  entries : List (Row Entry)
  rounds : List (Row RoundEvent)
  cursors : Text → Option Cursor

section Tables

variable {Body : Type}

/-- `chain_id = $1 AND block_number BETWEEN $2 AND $3`. -/
def Row.within (chainID : Int) (first last : Nat) (row : Row Body) : Bool :=
  row.provenance.chainID == chainID && first ≤ row.provenance.blockNumber &&
    row.provenance.blockNumber ≤ last

/-- `chain_id = $1 AND block_number >= $2`. -/
def Row.atOrAbove (chainID : Int) (fromBlock : Nat) (row : Row Body) : Bool :=
  row.provenance.chainID == chainID && fromBlock ≤ row.provenance.blockNumber

def Row.unattributed (chainID : Int) (row : Row Body) : Bool :=
  row.provenance.chainID == chainID && row.owner.isNone

def withOwner (chainID : Int) (named : Row Body → Bool) (owner : Address)
    (table : List (Row Body)) : List (Row Body) :=
  table.map fun row =>
    if row.unattributed chainID && named row then { row with owner := some owner } else row

end Tables

namespace Database

variable {Entry RoundEvent : Type} (db : Database Entry RoundEvent)

/-- Insert both kinds of record and move the cursor, in one transaction. -/
def append (batch : Batch Entry RoundEvent) (stream : Text) (cursor : Cursor) :
    Database Entry RoundEvent where
  entries := insertAll Row.key db.entries batch.entries
  rounds := insertAll Row.key db.rounds batch.rounds
  cursors := Function.update db.cursors stream (some cursor)

theorem append_cursors_self (batch : Batch Entry RoundEvent) (stream : Text) (cursor : Cursor) :
    (db.append batch stream cursor).cursors stream = some cursor := Function.update_self _ _ _

def loadCursor (stream : Text) : Option Cursor := db.cursors stream

/-- `UPDATE indexer_cursor SET last_block, last_block_hash = '' WHERE stream`. -/
def rewind (stream : Text) (lastBlock : Nat) : Text → Option Cursor :=
  Function.update db.cursors stream
    ((db.cursors stream).map fun c => { c with lastBlock := lastBlock, lastHash := none })

/-- Delete every record at or above a height and rewind the cursor below it. -/
def rollbackFrom (chainID : Int) (stream : Text) (fromBlock : Nat) :
    Option (Database Entry RoundEvent) :=
  if fromBlock = 0 then none
  else some {
    entries := db.entries.filter fun row => !row.atOrAbove chainID fromBlock
    rounds := db.rounds.filter fun row => !row.atOrAbove chainID fromBlock
    cursors := db.rewind stream (fromBlock - 1) }

def recordsInRange (chainID : Int) (fromBlock toBlock : Nat) : Nat :=
  db.entries.countP (·.within chainID fromBlock toBlock) +
    db.rounds.countP (·.within chainID fromBlock toBlock)

def replayFrom (stream : Text) (fromBlock : Nat) : Option (Database Entry RoundEvent) :=
  if fromBlock = 0 then none else some { db with cursors := db.rewind stream (fromBlock - 1) }

/-- Rename a stream, never over another. -/
def adoptCursor (legacy stream : Text) : Database Entry RoundEvent :=
  match db.cursors legacy, db.cursors stream with
  | some cursor, none =>
      { db with
        cursors := Function.update (Function.update db.cursors legacy none) stream (some cursor) }
  | _, _ => db

theorem adoptCursor_of_free {legacy stream : Text} {cursor : Cursor}
    (found : db.cursors legacy = some cursor) (free : db.cursors stream = none) :
    db.adoptCursor legacy stream =
      { db with
        cursors := Function.update (Function.update db.cursors legacy none) stream (some cursor) } := by
  simp only [adoptCursor, found, free]

theorem adoptCursor_of_taken {legacy stream : Text} {cursor : Cursor}
    (taken : db.cursors stream = some cursor) : db.adoptCursor legacy stream = db := by
  unfold adoptCursor
  split
  · rename_i free
    rw [taken] at free
    cases free
  · rfl

theorem adoptCursor_finds {legacy stream : Text} {cursor : Cursor}
    (found : db.cursors legacy = some cursor) :
    (db.adoptCursor legacy stream).cursors stream ≠ none := by
  cases held : db.cursors stream with
  | none =>
      rw [adoptCursor_of_free db found held]
      simp
  | some other =>
      rw [adoptCursor_of_taken db held, held]
      nofun

theorem rewind_self {stream : Text} {cursor : Cursor} {lastBlock : Nat}
    (found : db.cursors stream = some cursor) :
    db.rewind stream lastBlock stream =
      some { cursor with lastBlock := lastBlock, lastHash := none } := by
  rw [rewind, Function.update_self, found]
  rfl

theorem rewind_other {stream other : Text} {lastBlock : Nat} (distinct : other ≠ stream) :
    db.rewind stream lastBlock other = db.cursors other := Function.update_of_ne distinct _ _

def unattributedEntries (chainID : Int) : Nat := db.entries.countP (·.unattributed chainID)

def attributeEntries (chainID : Int) (contract : ContractName) (address : Address) :
    Database Entry RoundEvent :=
  { db with
    entries := withOwner chainID (fun row => row.provenance.contract == contract) address
      db.entries }

def unattributedRoundEvents (chainID : Int) : Nat := db.rounds.countP (·.unattributed chainID)

def attributeRoundEvents (chainID : Int) (market : Address) : Database Entry RoundEvent :=
  { db with rounds := withOwner chainID (fun _ => true) market db.rounds }

def indexedBlock (hashing : Hashing) (cfg : Config) : Nat :=
  match db.loadCursor (indexedStream hashing cfg) with
  | some cursor => cursor.lastBlock
  | none => 0

end Database

end Index

end Ghoststake
