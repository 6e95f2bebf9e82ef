import Ghoststake.Index.Store
import Ghoststake.Library.Faulty

/-!
# The indexer

`Preflight` and `Step`, call by call: each call to the endpoint or to the
database is one tick of a clock, and at each tick the endpoint answers what it
likes, or fails, and the database may fail or lose the reply to a commit.
-/

namespace Ghoststake

set_option autoImplicit false

open Calls

namespace Index

/-! ## What the calls meet -/

structure Header where
  hash : Hash
  time : Nat
  /-- `logsBloom` is not zero. -/
  bloom : Bool
deriving DecidableEq

structure Log (Payload : Type) where
  address : Address
  blockNumber : Nat
  blockHash : Hash
  txHash : Hash
  index : Nat
  /-- The node has reorganised it away. -/
  removed : Bool
  /-- Topics and data. -/
  payload : Payload
deriving DecidableEq

/-- `EthClient`; none is an error. -/
structure EthClient (Payload : Type) where
  blockNumber : Option Nat
  headerByNumber : Nat → Option Header
  filterLogs : Nat → Nat → Option (List Address) → Option (List (Log Payload))

inductive Fate where
  | works
  | fails
  /-- What it wrote is kept, and the caller never hears of it. -/
  | unheard
deriving DecidableEq

structure Moment (Payload : Type) where
  client : EthClient Payload
  fate : Fate

inductive Path where
  | decoderReplay
  | reorgRollback
deriving DecidableEq

inductive Failure where
  | endpoint
  | database
  | zeroBlock
  | undecodable
  | cursorOfOtherContracts (its ours : Text)
  | unattributedRounds (pending : Nat) (markets : List Address)
  /-- `ErrLogsNotServed`. -/
  | logsNotServed (block first last : Nat)
  | logsNoLongerServed (path : Path) (first last start «end» held : Nat)
deriving DecidableEq

variable {Entry RoundEvent Payload : Type}

structure Decoded (Entry RoundEvent : Type) where
  eventName : Text
  entries : List Entry
  rounds : List RoundEvent

/-- The decoders of the four contracts over their ABIs: none is a log they do
not track. -/
abbrev Decoder (Entry RoundEvent Payload : Type) :=
  ContractName → Option EventOracle → Payload → Except Failure (Option (Decoded Entry RoundEvent))

abbrev Program (Entry RoundEvent Payload Value : Type) :=
  Calls (Moment Payload) (Database Entry RoundEvent) Failure Value

/-! ## Calls -/

section Client

def answered {Value : Type} : Option Value → Except Failure Value
  | some value => .ok value
  | none => .error .endpoint

def blockNumber : Program Entry RoundEvent Payload Nat :=
  ask fun moment _ => answered moment.client.blockNumber

def headerByNumber (number : Nat) : Program Entry RoundEvent Payload Header :=
  ask fun moment _ => answered (moment.client.headerByNumber number)

def filterLogs (first last : Nat) (addresses : Option (List Address)) :
    Program Entry RoundEvent Payload (List (Log Payload)) :=
  ask fun moment _ => answered (moment.client.filterLogs first last addresses)

/-- The same call, its error looked at rather than returned. -/
def tryFilterLogs (first last : Nat) (addresses : Option (List Address)) :
    Program Entry RoundEvent Payload (Option (List (Log Payload))) :=
  ask fun moment _ => .ok (moment.client.filterLogs first last addresses)

def query {Value : Type} (read : Database Entry RoundEvent → Value) :
    Program Entry RoundEvent Payload Value :=
  ask fun moment db => if moment.fate = .works then .ok (read db) else .error .database

def transact (write : Database Entry RoundEvent → Database Entry RoundEvent) :
    Program Entry RoundEvent Payload Unit :=
  call fun moment db =>
    match moment.fate with
    | .works => (.ok (), write db)
    | .fails => (.error .database, db)
    | .unheard => (.error .database, write db)

/-- A transaction on a height, which refuses zero before it begins. -/
def transactFrom (fromBlock : Nat)
    (write : Database Entry RoundEvent → Option (Database Entry RoundEvent)) :
    Program Entry RoundEvent Payload Unit := do
  ensure (fromBlock ≠ 0) .zeroBlock
  transact fun db => (write db).getD db

def returned {Value : Type} : Except Failure Value → Program Entry RoundEvent Payload Value
  | .ok value => pure value
  | .error failure => fail failure

end Client

/-! ## Decoding -/

section Decoding

variable (decode : Decoder Entry RoundEvent Payload) (ix : Indexer)

def stamp (chainID : Int) (c : ContractSpec) (log : Log Payload) (blockTime : Nat)
    (eventName : Text) (recordIndex : Nat) : Provenance where
  chainID := chainID
  blockNumber := log.blockNumber
  blockHash := log.blockHash
  blockTime := blockTime
  txHash := log.txHash
  logIndex := log.index
  recordIndex := recordIndex
  contract := c.name
  eventName := eventName

/-- `RecordIndex` restarts at zero for each kind. -/
def stamped {Body : Type} (provenance : Nat → Provenance) (owner : Option Address)
    (bodies : List Body) : List (Row Body) :=
  bodies.mapIdx fun i body => ⟨provenance i, owner, body⟩

/-- The vault and the pool, which have no market, record entries and nothing else. -/
def entriesOnly (c : ContractSpec) (rounds : List RoundEvent) : List RoundEvent :=
  if c.market = none then [] else rounds

def decodeLog (chainID : Int) (c : ContractSpec) (log : Log Payload) (blockTime : Nat) :
    Except Failure (Batch Entry RoundEvent) :=
  match decode c.name c.oracle log.payload with
  | .error failure => .error failure
  | .ok none => .ok ⟨[], []⟩
  | .ok (some decoded) =>
      .ok {
        entries := stamped (stamp chainID c log blockTime decoded.eventName) (some log.address)
          decoded.entries
        rounds := stamped (stamp chainID c log blockTime decoded.eventName) c.market
          (entriesOnly c decoded.rounds) }

def specFor (address : Address) : Option ContractSpec :=
  ix.contracts.find? fun c => c.address == address

/-- The block's time, from the header unless a log before it asked. -/
def blockTimeOf (times : List (Nat × Nat)) (number : Nat) :
    Program Entry RoundEvent Payload Nat :=
  match times.lookup number with
  | some time => pure time
  | none => do
      let header ← headerByNumber number
      pure header.time

def decodeLogs : List (Nat × Nat) → List (Log Payload) →
    Program Entry RoundEvent Payload (Batch Entry RoundEvent)
  | _, [] => pure ⟨[], []⟩
  | times, log :: rest =>
      match log.removed, specFor ix log.address with
      | false, some c => do
          let blockTime ← blockTimeOf times log.blockNumber
          let decoded ← returned (decodeLog decode ix.cfg.chainID c log blockTime)
          let others ← decodeLogs ((log.blockNumber, blockTime) :: times) rest
          pure ⟨decoded.entries ++ others.entries, decoded.rounds ++ others.rounds⟩
      | _, _ => decodeLogs times rest

end Decoding

/-! ## Is the endpoint serving these logs? -/

section Served

variable (ix : Indexer)

def probeDepth : Nat := 256

def probeBlocks : Nat := 8

/-- The loop of `assertRangeServed` over the first blocks of a range. -/
def probe (first last : Nat) : List Nat → Program Entry RoundEvent Payload Unit
  | [] => pure ()
  | b :: rest => do
      let header ← headerByNumber b
      if header.bloom = false then probe first last rest
      else do
        let logs ← filterLogs b b none
        if logs ≠ [] then pure ()
        else do
          let ours ← tryFilterLogs b b (some ix.addresses)
          ensure (ours.getD [] ≠ []) (.logsNotServed b first last)

def assertRangeServed (first last head : Nat) : Program Entry RoundEvent Payload Unit :=
  if head < probeDepth ∨ head - probeDepth < first then pure ()
  else probe ix first last (List.range' first (min probeBlocks (last + 1 - first)))

/-- `[first, last]` one `BatchSize` at a time, upward. -/
def windows (batchSize first last : Nat) : List (Nat × Nat) :=
  (List.range ((last - first) / batchSize + 1)).map fun i =>
    (first + i * batchSize, min (first + i * batchSize + batchSize - 1) last)

/-- The loop of `assertLogsStillServed`: the first window that holds records
decides. -/
def scan (path : Path) (first last : Nat) :
    List (Nat × Nat) → Program Entry RoundEvent Payload Unit
  | [] => pure ()
  | window :: rest => do
      let held ← query fun db => db.recordsInRange ix.cfg.chainID window.1 window.2
      if held = 0 then scan path first last rest
      else do
        let logs ← filterLogs window.1 window.2 (some ix.addresses)
        ensure (logs ≠ []) (.logsNoLongerServed path first last window.1 window.2 held)

def assertLogsStillServed (first last : Nat) (path : Path) :
    Program Entry RoundEvent Payload Unit :=
  if last < first then pure ()
  else scan ix path first last (windows ix.cfg.batchSize first last)

end Served

/-! ## Preflight -/

section Preflight

variable (ix : Indexer)

def decoderVersion : Text := "2026-08-28-replay-after-prune".toList

def legacyStream : Text := streamName ix.cfg.chainID []

/-- A cursor that is adopted: ours, or too old to say whose it is. -/
def adoptable (cursor : Cursor) : Bool :=
  cursor.contracts == [] || cursor.contracts == ix.fingerprint

def adoptFound (found : Option Cursor) : Program Entry RoundEvent Payload Unit :=
  match found with
  | none => pure ()
  | some cursor =>
      if adoptable ix cursor then transact fun db => db.adoptCursor (legacyStream ix) ix.stream
      else pure ()

def adoptLegacyCursor : Program Entry RoundEvent Payload Unit :=
  if legacyStream ix = ix.stream then pure ()
  else do
    let found ← query fun db => db.loadCursor (legacyStream ix)
    adoptFound ix found

def attributeEach : List ContractSpec → Program Entry RoundEvent Payload Unit
  | [] => pure ()
  | c :: rest =>
      if c.name = .collateralVault ∨ c.name = .borrowLiquidityPool then do
        transact fun db => db.attributeEntries ix.cfg.chainID c.name c.address
        attributeEach rest
      else attributeEach rest

def attributeExistingEntries : Program Entry RoundEvent Payload Unit := do
  let pending ← query fun db => db.unattributedEntries ix.cfg.chainID
  if pending = 0 then pure () else attributeEach ix ix.contracts

def checkFound (found : Option Cursor) : Program Entry RoundEvent Payload Unit :=
  match found with
  | none => pure ()
  | some cursor =>
      ensure (cursor.contracts = [] ∨ cursor.contracts = ix.fingerprint)
        (.cursorOfOtherContracts cursor.contracts ix.fingerprint)

def checkCursorContracts : Program Entry RoundEvent Payload Unit := do
  let found ← query fun db => db.loadCursor ix.stream
  checkFound ix found

def marketAddresses : List Address := ix.contracts.filterMap (·.market)

def attributeTo (pending : Nat) : List Address → Program Entry RoundEvent Payload Unit
  | [market] => transact fun db => db.attributeRoundEvents ix.cfg.chainID market
  | markets => fail (.unattributedRounds pending markets)

def attributeExistingRounds : Program Entry RoundEvent Payload Unit := do
  let pending ← query fun db => db.unattributedRoundEvents ix.cfg.chainID
  if pending = 0 then pure () else attributeTo ix pending (marketAddresses ix)

/-- Whether a cursor is to be rewound for the decoders there are now. -/
def wantsReplay (cursor : Cursor) : Bool :=
  cursor.decoders != decoderVersion && ix.cfg.startBlock ≤ cursor.lastBlock &&
    !ix.cfg.skipDecoderReplay

def replayFound (found : Option Cursor) : Program Entry RoundEvent Payload Unit :=
  match found with
  | none => pure ()
  | some cursor =>
      if wantsReplay ix cursor then do
        assertLogsStillServed ix ix.cfg.startBlock cursor.lastBlock .decoderReplay
        transactFrom ix.cfg.startBlock fun db => db.replayFrom ix.stream ix.cfg.startBlock
      else pure ()

def replayForNewDecoders : Program Entry RoundEvent Payload Unit := do
  let found ← query fun db => db.loadCursor ix.stream
  replayFound ix found

def preflight : Program Entry RoundEvent Payload Unit := do
  adoptLegacyCursor ix
  attributeExistingEntries ix
  checkCursorContracts ix
  attributeExistingRounds ix
  replayForNewDecoders ix

end Preflight

/-! ## Step -/

section Step

variable (decode : Decoder Entry RoundEvent Payload) (ix : Indexer)

def rewindPoint (cursor : Cursor) : Nat :=
  if ix.cfg.confirmations < cursor.lastBlock then cursor.lastBlock - ix.cfg.confirmations
  else ix.cfg.startBlock

def Cursor.rewound (cursor : Cursor) (fromBlock : Nat) : Cursor :=
  { cursor with lastBlock := fromBlock - 1, lastHash := none }

def unwind (cursor : Cursor) : Program Entry RoundEvent Payload Cursor := do
  assertLogsStillServed ix (rewindPoint ix cursor) cursor.lastBlock .reorgRollback
  transactFrom (rewindPoint ix cursor) fun db =>
    db.rollbackFrom ix.cfg.chainID ix.stream (rewindPoint ix cursor)
  pure (cursor.rewound (rewindPoint ix cursor))

def checkReorg (cursor : Cursor) : Program Entry RoundEvent Payload Cursor :=
  match cursor.lastHash with
  | none => pure cursor
  | some hash => do
      let header ← headerByNumber cursor.lastBlock
      if header.hash = hash then pure cursor else unwind ix cursor

/-- A stream that has never run, one block below `StartBlock`. -/
def freshCursor : Cursor where
  chainID := ix.cfg.chainID
  lastBlock := ix.cfg.startBlock - 1
  lastHash := none
  contracts := ix.fingerprint
  decoders := decoderVersion

def nextCursor (last : Nat) (tip : Header) : Cursor where
  chainID := ix.cfg.chainID
  lastBlock := last
  lastHash := some tip.hash
  contracts := ix.fingerprint
  decoders := decoderVersion

/-- Read `[first, last]` and commit it with the cursor on `last`. -/
def readRange (first last head : Nat) : Program Entry RoundEvent Payload Unit := do
  assertRangeServed ix first last head
  let logs ← filterLogs first last (some ix.addresses)
  let batch ← decodeLogs decode ix [] logs
  let tip ← headerByNumber last
  transact fun db => db.append batch ix.stream (nextCursor ix last tip)

def lastOfRange (cursor : Cursor) (safeHead : Nat) : Nat :=
  min (cursor.lastBlock + ix.cfg.batchSize) safeHead

def advance (head : Nat) (cursor : Cursor) : Program Entry RoundEvent Payload Unit :=
  if head - ix.cfg.confirmations ≤ cursor.lastBlock then pure ()
  else
    readRange decode ix (cursor.lastBlock + 1)
      (lastOfRange ix cursor (head - ix.cfg.confirmations)) head

def stepFrom (head : Nat) : Program Entry RoundEvent Payload Unit := do
  let found ← query fun db => db.loadCursor ix.stream
  let cursor ← checkReorg ix (found.getD (freshCursor ix))
  advance decode ix head cursor

def step : Program Entry RoundEvent Payload Unit := do
  let head ← blockNumber
  if head < ix.cfg.confirmations then pure () else stepFrom decode ix head

end Step

end Index

end Ghoststake
