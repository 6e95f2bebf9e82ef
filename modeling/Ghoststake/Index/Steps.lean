import Ghoststake.Index.Model

/-!
# What one call of the indexer can do

Each program is described once: which answers it saw, at which ticks, and what
it left in the database, wherever it stopped.
-/

namespace Ghoststake

set_option autoImplicit false

open Calls

namespace Index

variable {Entry RoundEvent Payload : Type} {decode : Decoder Entry RoundEvent Payload}
variable {ix : Indexer} {world : Nat → Moment Payload} {db : Database Entry RoundEvent}

/-! ## Reading -/

theorem answered_ok {Value : Type} {found : Option Value} {value : Value}
    (ran : answered found = .ok value) : found = some value := by
  cases found with
  | none => cases ran
  | some other =>
      cases ran
      rfl

theorem reads_probe (first last : Nat) (blocks : List Nat) :
    Reads (probe ix first last blocks : Program Entry RoundEvent Payload Unit) := by
  induction blocks with
  | nil => exact reads_pure ()
  | cons b rest ih =>
      apply reads_bind
      · exact reads_ask _
      · intro header
        split
        · exact ih
        · apply reads_bind
          · exact reads_ask _
          · intro logs
            split
            · exact reads_pure ()
            · apply reads_bind
              · exact reads_ask _
              · intro ours
                exact reads_ensure _ _

theorem reads_assertRangeServed (first last head : Nat) :
    Reads (assertRangeServed ix first last head : Program Entry RoundEvent Payload Unit) := by
  unfold assertRangeServed
  split
  · exact reads_pure ()
  · exact reads_probe first last _

theorem reads_scan (path : Path) (first last : Nat) (spans : List (Nat × Nat)) :
    Reads (scan ix path first last spans : Program Entry RoundEvent Payload Unit) := by
  induction spans with
  | nil => exact reads_pure ()
  | cons window rest ih =>
      apply reads_bind
      · exact reads_ask _
      · intro held
        split
        · exact ih
        · apply reads_bind
          · exact reads_ask _
          · intro logs
            exact reads_ensure _ _

theorem reads_assertLogsStillServed (first last : Nat) (path : Path) :
    Reads (assertLogsStillServed ix first last path : Program Entry RoundEvent Payload Unit) := by
  unfold assertLogsStillServed
  split
  · exact reads_pure ()
  · exact reads_scan path first last _

/-! ## Decoding -/

/-- The endpoint gave block `number` this time at one of these ticks. -/
def TimeOf (world : Nat → Moment Payload) (lo hi number time : Nat) : Prop :=
  ∃ tick header, lo ≤ tick ∧ tick < hi ∧
    (world tick).client.headerByNumber number = some header ∧ header.time = time

theorem TimeOf.mono {lo hi hi' number time : Nat} (known : TimeOf world lo hi number time)
    (later : hi ≤ hi') : TimeOf world lo hi' number time := by
  obtain ⟨tick, header, after, before, answered, told⟩ := known
  exact ⟨tick, header, after, by omega, answered, told⟩

/-- `batch` is the records of `logs`, each log's block at a time `timeOf` allows. -/
inductive DecodedLogs (decode : Decoder Entry RoundEvent Payload) (ix : Indexer)
    (timeOf : Nat → Nat → Prop) : List (Log Payload) → Batch Entry RoundEvent → Prop
  | nil : DecodedLogs decode ix timeOf [] ⟨[], []⟩
  | skip {log : Log Payload} {rest : List (Log Payload)} {batch : Batch Entry RoundEvent}
      (untracked : log.removed = true ∨ specFor ix log.address = none)
      (others : DecodedLogs decode ix timeOf rest batch) :
      DecodedLogs decode ix timeOf (log :: rest) batch
  | track {log : Log Payload} {rest : List (Log Payload)} {c : ContractSpec} {time : Nat}
      {first batch : Batch Entry RoundEvent} (kept : log.removed = false)
      (watched : specFor ix log.address = some c) (at_ : timeOf log.blockNumber time)
      (decoded : decodeLog decode ix.cfg.chainID c log time = .ok first)
      (others : DecodedLogs decode ix timeOf rest batch) :
      DecodedLogs decode ix timeOf (log :: rest)
        ⟨first.entries ++ batch.entries, first.rounds ++ batch.rounds⟩

theorem DecodedLogs.mono {timeOf timeOf' : Nat → Nat → Prop} {logs : List (Log Payload)}
    {batch : Batch Entry RoundEvent} (decoded : DecodedLogs decode ix timeOf logs batch)
    (allows : ∀ number time, timeOf number time → timeOf' number time) :
    DecodedLogs decode ix timeOf' logs batch := by
  induction decoded with
  | nil => exact .nil
  | skip untracked _ ih => exact .skip untracked ih
  | track kept watched at_ decoded _ ih => exact .track kept watched (allows _ _ at_) decoded ih

/-- From tick `lo` on, in the database as it was. -/
def From (lo : Nat) (db : Database Entry RoundEvent) (n : Nat)
    (state : Database Entry RoundEvent) : Prop :=
  lo ≤ n ∧ state = db

theorem triple_reads {Value : Type} {lo : Nat}
    {program : Program Entry RoundEvent Payload Value} (reads : Reads program) :
    Triple world (From lo db) program (fun _ => From lo db) (fun _ => From lo db) := by
  apply triple_of_reads reads
  intro clock later state passed holds
  exact ⟨holds.1.trans passed, holds.2⟩

theorem triple_headerByNumber {lo number : Nat} :
    Triple world (From lo db) (headerByNumber number)
      (fun header n state => ∃ tick, lo ≤ tick ∧ tick < n ∧ state = db ∧
        (world tick).client.headerByNumber number = some header)
      (fun _ => From lo db) := by
  apply triple_ask
  · intro clock state header holds ran
    exact ⟨clock, holds.1, Nat.lt_succ_self clock, holds.2, answered_ok ran⟩
  · intro clock state error holds _
    exact ⟨holds.1.trans (Nat.le_succ clock), holds.2⟩

theorem triple_filterLogs {lo first last : Nat} {addresses : Option (List Address)} :
    Triple world (From lo db) (filterLogs first last addresses)
      (fun logs n state => ∃ tick, lo ≤ tick ∧ tick < n ∧ state = db ∧
        (world tick).client.filterLogs first last addresses = some logs)
      (fun _ => From lo db) := by
  apply triple_ask
  · intro clock state logs holds ran
    exact ⟨clock, holds.1, Nat.lt_succ_self clock, holds.2, answered_ok ran⟩
  · intro clock state error holds _
    exact ⟨holds.1.trans (Nat.le_succ clock), holds.2⟩

theorem triple_query {Value : Type} {lo : Nat} {read : Database Entry RoundEvent → Value} :
    Triple world (From lo db) (query read)
      (fun value n state => value = read db ∧ From lo db n state) (fun _ => From lo db) := by
  apply triple_ask
  · intro clock state value holds ran
    have later := holds.1.trans (Nat.le_succ clock)
    split at ran
    · cases ran
      exact ⟨by rw [holds.2], later, holds.2⟩
    · cases ran
  · intro clock state error holds _
    exact ⟨holds.1.trans (Nat.le_succ clock), holds.2⟩

/-- A transaction leaves the database as it was or as it was to be. -/
theorem triple_transact {lo : Nat} {write : Database Entry RoundEvent → Database Entry RoundEvent} :
    Triple world (From lo db) (transact write)
      (fun _ => From (lo + 1) (write db))
      (fun _ n state => lo + 1 ≤ n ∧ (state = db ∨ state = write db)) := by
  apply triple_call
  intro clock state holds
  have later := Nat.succ_le_succ holds.1
  cases (world clock).fate with
  | works => exact ⟨later, by rw [holds.2]⟩
  | fails => exact ⟨later, .inl holds.2⟩
  | unheard => exact ⟨later, .inr (by rw [holds.2])⟩

/-- Every cached time was given by the endpoint at one of these ticks. -/
def Cached (world : Nat → Moment Payload) (lo hi : Nat) (times : List (Nat × Nat)) : Prop :=
  ∀ entry ∈ times, TimeOf world lo hi entry.1 entry.2

theorem triple_blockTimeOf {lo mid number : Nat} {times : List (Nat × Nat)} (order : lo ≤ mid) :
    Triple world (fun n state => From mid db n state ∧ Cached world lo n times)
      (blockTimeOf times number)
      (fun time n state => From mid db n state ∧ Cached world lo n ((number, time) :: times))
      (fun _ => From mid db) := by
  unfold blockTimeOf
  split
  · rename_i time found
    apply triple_pure
    intro clock state holds
    refine ⟨holds.1, ?_⟩
    intro entry member
    rcases List.mem_cons.1 member with rfl | older
    · obtain ⟨front, back, whole, _⟩ := List.lookup_eq_some_iff.1 found
      apply holds.2
      rw [whole]
      exact List.mem_append_right _ List.mem_cons_self
    · exact holds.2 entry older
  · apply triple_of_start
    intro start began holds
    obtain ⟨⟨after, rfl⟩, cached⟩ := holds
    apply triple_bind
    · apply triple_weaken triple_headerByNumber
      · rintro clock state ⟨rfl, rfl⟩
        exact ⟨Nat.le_refl clock, rfl⟩
      · exact fun _ _ _ result => result
      · intro error clock state left
        exact ⟨after.trans left.1, left.2⟩
    · intro header
      apply triple_pure
      rintro clock state ⟨tick, later, earlier, rfl, answered⟩
      refine ⟨⟨by omega, rfl⟩, ?_⟩
      intro entry member
      rcases List.mem_cons.1 member with rfl | older
      · exact ⟨tick, header, by omega, earlier, answered, rfl⟩
      · exact (cached entry older).mono (by omega)

theorem triple_returned {Value : Type} {lo : Nat} {outcome : Except Failure Value}
    {more : Nat → Prop} :
    Triple world (fun n state => From lo db n state ∧ more n)
      (returned outcome : Program Entry RoundEvent Payload Value)
      (fun value n state => outcome = .ok value ∧ From lo db n state ∧ more n)
      (fun _ => From lo db) := by
  cases outcome with
  | ok value => exact triple_pure fun clock state holds => ⟨rfl, holds⟩
  | error failure => exact triple_fail fun clock state holds => holds.1

theorem triple_decodeLogs {lo mid : Nat} {times : List (Nat × Nat)} {logs : List (Log Payload)}
    (order : lo ≤ mid) :
    Triple world (fun n state => From mid db n state ∧ Cached world lo n times)
      (decodeLogs decode ix times logs)
      (fun batch n state => From mid db n state ∧
        DecodedLogs decode ix (TimeOf world lo n) logs batch)
      (fun _ => From mid db) := by
  induction logs generalizing mid times with
  | nil =>
      rw [decodeLogs]
      exact triple_pure fun clock state holds => ⟨holds.1, .nil⟩
  | cons log rest ih =>
      rw [decodeLogs]
      cases gone : log.removed with
      | true =>
          apply triple_weaken (ih order)
          · exact fun _ _ holds => holds
          · exact fun _ _ _ result => ⟨result.1, .skip (.inl gone) result.2⟩
          · exact fun _ _ _ left => left
      | false =>
          cases watched : specFor ix log.address with
          | none =>
              apply triple_weaken (ih order)
              · exact fun _ _ holds => holds
              · exact fun _ _ _ result => ⟨result.1, .skip (.inr watched) result.2⟩
              · exact fun _ _ _ left => left
          | some c =>
              apply triple_bind (triple_blockTimeOf order)
              intro time
              apply triple_bind triple_returned
              intro first
              apply triple_of_start
              rintro start began ⟨decoded, before, cached⟩
              apply triple_bind
              · apply triple_weaken (ih (order.trans before.1))
                · rintro clock state ⟨rfl, rfl⟩
                  exact ⟨⟨Nat.le_refl clock, before.2⟩, cached⟩
                · exact fun _ _ _ result => result
                · exact fun _ _ _ left => ⟨before.1.trans left.1, left.2⟩
              · intro batch
                apply triple_pure
                intro clock state holds
                have time := (cached _ List.mem_cons_self).mono holds.1.1
                exact ⟨⟨before.1.trans holds.1.1, holds.1.2⟩,
                  .track gone watched time decoded holds.2⟩

/-! ## The reorg check -/

/-- What `checkReorg` found of a cursor, between ticks `lo` and `hi`, and the
cursor and database it left. -/
inductive Checked (ix : Indexer) (world : Nat → Moment Payload) (lo hi : Nat) (cursor : Cursor)
    (db : Database Entry RoundEvent) : Cursor → Database Entry RoundEvent → Prop
  | unverified (empty : cursor.lastHash = none) : Checked ix world lo hi cursor db cursor db
  | verified {tick : Nat} {header : Header} (after : lo ≤ tick) (before : tick < hi)
      (answered : (world tick).client.headerByNumber cursor.lastBlock = some header)
      (same : cursor.lastHash = some header.hash) : Checked ix world lo hi cursor db cursor db
  | unwound {tick : Nat} {header : Header} {rolled : Database Entry RoundEvent}
      (after : lo ≤ tick) (before : tick < hi)
      (answered : (world tick).client.headerByNumber cursor.lastBlock = some header)
      (recorded : cursor.lastHash ≠ none) (moved : cursor.lastHash ≠ some header.hash)
      (deleted : db.rollbackFrom ix.cfg.chainID ix.stream (rewindPoint ix cursor) = some rolled) :
      Checked ix world lo hi cursor db (cursor.rewound (rewindPoint ix cursor)) rolled

theorem Checked.mono {lo hi hi' : Nat} {cursor after : Cursor} {rest : Database Entry RoundEvent}
    (checked : Checked ix world lo hi cursor db after rest) (later : hi ≤ hi') :
    Checked ix world lo hi' cursor db after rest := by
  cases checked with
  | unverified empty => exact .unverified empty
  | verified after before answered same =>
      exact .verified after (by omega) answered same
  | unwound after before answered recorded moved deleted =>
      exact .unwound after (by omega) answered recorded moved deleted

/-- The cursor and database a reorg check leaves, also where it stops after
its transaction. -/
def AfterCheck (ix : Indexer) (world : Nat → Moment Payload) (lo : Nat) (cursor : Cursor)
    (db : Database Entry RoundEvent) (n : Nat) (state : Database Entry RoundEvent) : Prop :=
  lo ≤ n ∧ (state = db ∨ ∃ after, Checked ix world lo n cursor db after state)

/-- A transaction on a height leaves the database as it was or as it was to
be, and only for a height above zero. -/
theorem triple_transactFrom {lo fromBlock : Nat}
    {write : Database Entry RoundEvent → Option (Database Entry RoundEvent)} :
    Triple world (From lo db) (transactFrom fromBlock write)
      (fun _ n state => fromBlock ≠ 0 ∧ From lo ((write db).getD db) n state)
      (fun _ n state => lo ≤ n ∧
        (state = db ∨ fromBlock ≠ 0 ∧ state = (write db).getD db)) := by
  unfold transactFrom
  apply triple_ensure
  · intro positive
    apply triple_weaken triple_transact
    · exact fun _ _ holds => holds
    · exact fun _ _ _ result => ⟨positive, by have := result.1; omega, result.2⟩
    · intro error clock state left
      refine ⟨by have := left.1; omega, ?_⟩
      exact left.2.imp_right fun written => ⟨positive, written⟩
  · exact fun _ _ _ left => ⟨left.1, .inl left.2⟩

theorem rollback_getD {chainID : Int} {stream : Text} {fromBlock : Nat}
    (positive : fromBlock ≠ 0) :
    db.rollbackFrom chainID stream fromBlock =
      some ((db.rollbackFrom chainID stream fromBlock).getD db) := by
  rw [Database.rollbackFrom, if_neg positive]
  rfl

/-- Between ticks `lo` and `n` the endpoint gave the cursor's block another hash. -/
def Moved (world : Nat → Moment Payload) (lo : Nat) (cursor : Cursor) (n : Nat) : Prop :=
  ∃ tick header, lo ≤ tick ∧ tick < n ∧
    (world tick).client.headerByNumber cursor.lastBlock = some header ∧
      cursor.lastHash ≠ none ∧ cursor.lastHash ≠ some header.hash

theorem triple_unwind {lo start : Nat} {cursor : Cursor} (moved : Moved world lo cursor start) :
    Triple world (From start db) (unwind ix cursor)
      (fun after n state => lo ≤ n ∧ Checked ix world lo n cursor db after state)
      (fun _ => AfterCheck ix world lo cursor db) := by
  obtain ⟨tick, header, after, before, answered, recorded, differs⟩ := moved
  have unwound {n : Nat} {state : Database Entry RoundEvent} (later : start ≤ n)
      (positive : rewindPoint ix cursor ≠ 0)
      (written : state =
        (db.rollbackFrom ix.cfg.chainID ix.stream (rewindPoint ix cursor)).getD db) :
      Checked ix world lo n cursor db (cursor.rewound (rewindPoint ix cursor)) state := by
    apply Checked.unwound after (by omega) answered recorded differs
    rw [written]
    exact rollback_getD positive
  unfold unwind
  apply triple_bind
  · apply triple_weaken (triple_reads (reads_assertLogsStillServed _ _ _))
    · exact fun _ _ holds => holds
    · exact fun _ _ _ result => result
    · exact fun _ _ _ left => ⟨by have := left.1; omega, .inl left.2⟩
  · intro _
    apply triple_bind
    · apply triple_weaken triple_transactFrom
      · exact fun _ _ holds => holds
      · exact fun _ _ _ result => result
      · intro error clock state left
        refine ⟨by have := left.1; omega, left.2.imp_right ?_⟩
        intro written
        exact ⟨_, unwound left.1 written.1 written.2⟩
    · intro _
      apply triple_pure
      intro clock state result
      exact ⟨by have := result.2.1; omega, unwound result.2.1 result.1 result.2.2⟩

theorem triple_checkReorg {lo : Nat} {cursor : Cursor} :
    Triple world (From lo db) (checkReorg ix cursor)
      (fun after n state => lo ≤ n ∧ Checked ix world lo n cursor db after state)
      (fun _ => AfterCheck ix world lo cursor db) := by
  unfold checkReorg
  split
  · rename_i empty
    apply triple_pure
    rintro clock state ⟨later, rfl⟩
    exact ⟨later, .unverified empty⟩
  · rename_i hash recorded
    apply triple_bind
    · apply triple_weaken triple_headerByNumber
      · exact fun _ _ holds => holds
      · exact fun _ _ _ result => result
      · exact fun _ _ _ left => ⟨left.1, .inl left.2⟩
    · intro header
      split
      · rename_i same
        apply triple_pure
        rintro clock state ⟨tick, after, before, rfl, answered⟩
        exact ⟨by omega, .verified after before answered (by rw [recorded, same])⟩
      · rename_i differs
        apply triple_of_start
        rintro start began ⟨tick, after, before, rfl, answered⟩
        have kept : cursor.lastHash ≠ none := by
          rw [recorded]
          nofun
        have other : cursor.lastHash ≠ some header.hash := by
          rw [recorded]
          exact fun same => differs (Option.some.inj same).symm
        apply triple_weaken
          (triple_unwind ⟨tick, header, after, before, answered, kept, other⟩)
        · rintro clock state ⟨rfl, rfl⟩
          exact ⟨Nat.le_refl clock, rfl⟩
        · exact fun _ _ _ result => result
        · exact fun _ _ _ left => left

/-! ## A committed range -/

/-- `[first, last]` read after tick `lo` and committed with the cursor on `last`. -/
structure Committed (decode : Decoder Entry RoundEvent Payload) (ix : Indexer)
    (world : Nat → Moment Payload) (lo hi first last : Nat) (db state : Database Entry RoundEvent) :
    Prop where
  committed : ∃ logsAt logs batch tipAt tip, lo ≤ logsAt ∧ logsAt < tipAt ∧ tipAt < hi ∧
    (world logsAt).client.filterLogs first last (some ix.addresses) = some logs ∧
    DecodedLogs decode ix (TimeOf world lo tipAt) logs batch ∧
    (world tipAt).client.headerByNumber last = some tip ∧
    state = db.append batch ix.stream (nextCursor ix last tip)

def AfterRead (decode : Decoder Entry RoundEvent Payload) (ix : Indexer)
    (world : Nat → Moment Payload) (lo first last : Nat) (db : Database Entry RoundEvent) (n : Nat)
    (state : Database Entry RoundEvent) : Prop :=
  lo ≤ n ∧ (state = db ∨ Committed decode ix world lo n first last db state)

theorem triple_readRange {lo first last head : Nat} :
    Triple world (From lo db) (readRange decode ix first last head)
      (fun _ n state => lo ≤ n ∧ Committed decode ix world lo n first last db state)
      (fun _ => AfterRead decode ix world lo first last db) := by
  have still {n : Nat} {state : Database Entry RoundEvent} (left : From lo db n state) :
      AfterRead decode ix world lo first last db n state := ⟨left.1, .inl left.2⟩
  unfold readRange
  apply triple_bind
  · apply triple_weaken (triple_reads (reads_assertRangeServed _ _ _))
    · exact fun _ _ holds => holds
    · exact fun _ _ _ result => result
    · exact fun _ _ _ left => still left
  · intro _
    apply triple_bind
    · apply triple_weaken triple_filterLogs
      · exact fun _ _ holds => holds
      · exact fun _ _ _ result => result
      · exact fun _ _ _ left => still left
    · intro logs
      apply triple_of_start
      rintro start began ⟨logsAt, after, before, rfl, found⟩
      apply triple_bind
      · apply triple_weaken (triple_decodeLogs (by omega : lo ≤ start))
        · rintro clock state ⟨rfl, rfl⟩
          exact ⟨⟨Nat.le_refl clock, rfl⟩, fun _ member => nomatch member⟩
        · exact fun _ _ _ result => result
        · exact fun _ _ _ left => still ⟨by have := left.1; omega, left.2⟩
      · intro batch
        apply triple_of_start
        rintro middle began' ⟨⟨later, rfl⟩, decoded⟩
        apply triple_bind
        · apply triple_weaken triple_headerByNumber
          · rintro clock state ⟨rfl, rfl⟩
            exact ⟨Nat.le_refl clock, rfl⟩
          · exact fun _ _ _ result => result
          · exact fun _ _ _ left => still ⟨by have := left.1; omega, left.2⟩
        · intro tip
          apply triple_of_start
          rintro third began'' ⟨tipAt, afterTip, beforeTip, rfl, tipped⟩
          have whole {n : Nat} {state : Database Entry RoundEvent} (past : third + 1 ≤ n)
              (written : state = began''.append batch ix.stream (nextCursor ix last tip)) :
              Committed decode ix world lo n first last began'' state :=
            ⟨logsAt, logs, batch, tipAt, tip, after, by omega, by omega, found,
              decoded.mono fun _ _ known => known.mono afterTip, tipped, written⟩
          apply triple_weaken triple_transact
          · rintro clock state ⟨rfl, rfl⟩
            exact ⟨Nat.le_refl clock, rfl⟩
          · exact fun _ _ _ result => ⟨by have := result.1; omega, whole result.1 result.2⟩
          · intro error clock state left
            exact ⟨by have := left.1; omega, left.2.imp_right (whole left.1)⟩

/-! ## Step -/

def startCursor (ix : Indexer) (db : Database Entry RoundEvent) : Cursor :=
  (db.loadCursor ix.stream).getD (freshCursor ix)

/-- What a `Step` begun at tick `n` has done by tick `m`, whether it returned
or stopped on an error. -/
inductive Stepped (decode : Decoder Entry RoundEvent Payload) (ix : Indexer)
    (world : Nat → Moment Payload) (n : Nat) (db : Database Entry RoundEvent) (returned : Bool)
    (m : Nat) : Database Entry RoundEvent → Prop
  /-- Nothing was written; where it returned, the chain is too short to read. -/
  | still (order : n ≤ m) (young : returned = true → ∃ head,
      (world n).client.blockNumber = some head ∧ head < ix.cfg.confirmations) :
      Stepped decode ix world n db returned m db
  /-- The reorg check passed or unwound; where it returned, there was nothing to read. -/
  | looked {head : Nat} {cursor : Cursor} {state : Database Entry RoundEvent}
      (answered : (world n).client.blockNumber = some head)
      (deep : ix.cfg.confirmations ≤ head) (order : n ≤ m)
      (checked : Checked ix world (n + 1) m (startCursor ix db) db cursor state)
      (caught : returned = true → head - ix.cfg.confirmations ≤ cursor.lastBlock) :
      Stepped decode ix world n db returned m state
  | read {head mid : Nat} {cursor : Cursor} {state final : Database Entry RoundEvent}
      (answered : (world n).client.blockNumber = some head)
      (deep : ix.cfg.confirmations ≤ head) (order : n ≤ mid) (past : mid ≤ m)
      (checked : Checked ix world (n + 1) mid (startCursor ix db) db cursor state)
      (behind : cursor.lastBlock < head - ix.cfg.confirmations)
      (committed : Committed decode ix world mid m (cursor.lastBlock + 1)
        (lastOfRange ix cursor (head - ix.cfg.confirmations)) state final) :
      Stepped decode ix world n db returned m final

theorem triple_blockNumber {n : Nat} :
    Triple world (fun clock state => clock = n ∧ state = db) blockNumber
      (fun head m state => (world n).client.blockNumber = some head ∧ From (n + 1) db m state)
      (fun _ => From (n + 1) db) := by
  apply triple_ask
  · rintro clock state head ⟨rfl, rfl⟩ ran
    exact ⟨answered_ok ran, Nat.le_refl _, rfl⟩
  · rintro clock state error ⟨rfl, rfl⟩ _
    exact ⟨Nat.le_refl _, rfl⟩

theorem triple_advance {n mid head : Nat} {cursor : Cursor} {state : Database Entry RoundEvent}
    (answered : (world n).client.blockNumber = some head) (deep : ix.cfg.confirmations ≤ head)
    (order : n ≤ mid)
    (checked : Checked ix world (n + 1) mid (startCursor ix db) db cursor state) :
    Triple world (From mid state) (advance decode ix head cursor)
      (fun _ m final => Stepped decode ix world n db true m final)
      (fun _ m final => Stepped decode ix world n db false m final) := by
  unfold advance
  split
  · rename_i caught
    apply triple_pure
    rintro clock final ⟨later, rfl⟩
    exact .looked answered deep (by omega) (checked.mono later) fun _ => caught
  · rename_i behind
    apply triple_weaken triple_readRange
    · exact fun _ _ holds => holds
    · intro _ clock final result
      exact .read answered deep order result.1 checked (by omega) result.2
    · rintro error clock final ⟨later, rfl | committed⟩
      · exact .looked answered deep (by omega) (checked.mono later) nofun
      · exact .read answered deep order later checked (by omega) committed

theorem triple_stepFrom {n head : Nat} (answered : (world n).client.blockNumber = some head)
    (deep : ix.cfg.confirmations ≤ head) :
    Triple world (From (n + 1) db) (stepFrom decode ix head)
      (fun _ m state => Stepped decode ix world n db true m state)
      (fun _ m state => Stepped decode ix world n db false m state) := by
  unfold stepFrom
  apply triple_bind
  · apply triple_weaken triple_query
    · exact fun _ _ holds => holds
    · exact fun _ _ _ result => result
    · rintro error clock state ⟨later, rfl⟩
      exact .still (by omega) nofun
  · intro found
    apply triple_of_start
    rintro start began ⟨rfl, later, rfl⟩
    apply triple_bind
    · apply triple_weaken triple_checkReorg
      · rintro clock state ⟨rfl, rfl⟩
        exact ⟨later, rfl⟩
      · exact fun _ _ _ result => result
      · rintro error clock state ⟨past, rfl | ⟨after, checked⟩⟩
        · exact .still (by omega) nofun
        · exact .looked answered deep (by omega) checked nofun
    · intro cursor
      apply triple_of_start
      intro middle state ⟨past, checked⟩
      apply triple_weaken (triple_advance answered deep (by omega : n ≤ middle) checked)
      · rintro clock final ⟨rfl, rfl⟩
        exact ⟨Nat.le_refl clock, rfl⟩
      · exact fun _ _ _ result => result
      · exact fun _ _ _ left => left

theorem triple_step {n : Nat} :
    Triple world (fun clock state => clock = n ∧ state = db) (step decode ix)
      (fun _ m state => Stepped decode ix world n db true m state)
      (fun _ m state => Stepped decode ix world n db false m state) := by
  unfold step
  apply triple_bind
  · apply triple_weaken triple_blockNumber
    · exact fun _ _ holds => holds
    · exact fun _ _ _ result => result
    · rintro error clock state ⟨later, rfl⟩
      exact .still (by omega) nofun
  · intro head
    apply triple_of_start
    rintro start began ⟨answered, later, rfl⟩
    split
    · rename_i young
      apply triple_pure
      rintro clock state ⟨rfl, rfl⟩
      exact .still (by omega) fun _ => ⟨head, answered, young⟩
    · rename_i deep
      apply triple_weaken (triple_stepFrom answered (Nat.le_of_not_lt deep))
      · rintro clock state ⟨rfl, rfl⟩
        exact ⟨later, rfl⟩
      · exact fun _ _ _ result => result
      · exact fun _ _ _ left => left

/-! ## Preflight -/

inductive Repair (ix : Indexer) (db : Database Entry RoundEvent) :
    Database Entry RoundEvent → Prop
  | adopt {cursor : Cursor} (distinct : legacyStream ix ≠ ix.stream)
      (found : db.cursors (legacyStream ix) = some cursor) (ours : adoptable ix cursor = true) :
      Repair ix db (db.adoptCursor (legacyStream ix) ix.stream)
  | attributeEntries {c : ContractSpec} (listed : c ∈ ix.contracts)
      (money : c.name = .collateralVault ∨ c.name = .borrowLiquidityPool) :
      Repair ix db (db.attributeEntries ix.cfg.chainID c.name c.address)
  | attributeRounds {market : Address} (only : marketAddresses ix = [market]) :
      Repair ix db (db.attributeRoundEvents ix.cfg.chainID market)
  | replay {cursor : Cursor} (found : db.cursors ix.stream = some cursor)
      (wanted : wantsReplay ix cursor = true) :
      Repair ix db { db with cursors := db.rewind ix.stream (ix.cfg.startBlock - 1) }

def Repairs (ix : Indexer) (lo : Nat) (db : Database Entry RoundEvent) (n : Nat)
    (state : Database Entry RoundEvent) : Prop :=
  lo ≤ n ∧ Relation.ReflTransGen (Repair ix) db state

def Adopted (ix : Indexer) (db : Database Entry RoundEvent) : Prop :=
  legacyStream ix ≠ ix.stream → db.cursors ix.stream = none →
    ∀ cursor, db.cursors (legacyStream ix) = some cursor → adoptable ix cursor = false

def Settled (ix : Indexer) (db : Database Entry RoundEvent) : Prop :=
  ∀ cursor, db.cursors ix.stream = some cursor → wantsReplay ix cursor = false

/-- No entry of these contracts is left without its address. -/
def EntriesFiled (ix : Indexer) (contracts : List ContractSpec) (db : Database Entry RoundEvent) :
    Prop :=
  ∀ row ∈ db.entries, row.unattributed ix.cfg.chainID = true → ∀ c ∈ contracts,
    c.name = .collateralVault ∨ c.name = .borrowLiquidityPool → row.provenance.contract ≠ c.name

def RoundsFiled (ix : Indexer) (db : Database Entry RoundEvent) : Prop :=
  ∀ row ∈ db.rounds, row.unattributed ix.cfg.chainID = false

/-- What a `Preflight` that returned leaves to do: nothing. -/
structure Ready (ix : Indexer) (db : Database Entry RoundEvent) : Prop where
  adopted : Adopted ix db
  entries : EntriesFiled ix ix.contracts db
  rounds : RoundsFiled ix db
  settled : Settled ix db

theorem older_of_wants {cursor : Cursor} (wanted : wantsReplay ix cursor = true) :
    cursor.decoders ≠ decoderVersion := by
  simp only [wantsReplay, Bool.and_eq_true, bne_iff_ne] at wanted
  exact wanted.1.1

theorem adopted_of_repair {after : Database Entry RoundEvent} (repair : Repair ix db after)
    (adopted : Adopted ix db) : Adopted ix after := by
  cases repair with
  | adopt _ found _ =>
      intro _ empty
      exact absurd empty (db.adoptCursor_finds found)
  | attributeEntries _ _ => exact adopted
  | attributeRounds _ => exact adopted
  | replay found _ =>
      intro _ empty
      have held := (db.rewind_self found).symm.trans empty
      cases held

/-- Attribution takes rows out of those without an owner and puts none in. -/
theorem mem_of_unattributed {Body : Type} {chainID : Int} {named : Row Body → Bool}
    {owner : Address} {table : List (Row Body)} {row : Row Body}
    (member : row ∈ withOwner chainID named owner table) (bare : row.unattributed chainID = true) :
    row ∈ table ∧ named row = false := by
  obtain ⟨old, inTable, made⟩ := List.mem_map.1 member
  split at made
  · subst made
    simp [Row.unattributed] at bare
  · rename_i kept
    subst made
    rw [bare, Bool.true_and, Bool.not_eq_true] at kept
    exact ⟨inTable, kept⟩

theorem entriesFiled_of_repair {contracts : List ContractSpec}
    {after : Database Entry RoundEvent} (repair : Repair ix db after)
    (filed : EntriesFiled ix contracts db) : EntriesFiled ix contracts after := by
  cases repair with
  | adopt _ _ _ =>
      unfold Database.adoptCursor
      split
      · exact filed
      · exact filed
  | attributeEntries _ _ =>
      intro row member bare
      exact filed row (mem_of_unattributed member bare).1 bare
  | attributeRounds _ => exact filed
  | replay _ _ => exact filed

theorem roundsFiled_of_repair {after : Database Entry RoundEvent} (repair : Repair ix db after)
    (filed : RoundsFiled ix db) : RoundsFiled ix after := by
  cases repair with
  | adopt _ _ _ =>
      unfold Database.adoptCursor
      split
      · exact filed
      · exact filed
  | attributeEntries _ _ => exact filed
  | attributeRounds _ =>
      intro row member
      rw [Bool.eq_false_iff]
      intro bare
      have named := (mem_of_unattributed member bare).2
      cases named
  | replay _ _ => exact filed

theorem kept_of_repairs {keeps : Database Entry RoundEvent → Prop}
    (stable : ∀ db after, Repair ix db after → keeps db → keeps after)
    {after : Database Entry RoundEvent} (repairs : Relation.ReflTransGen (Repair ix) db after)
    (holds : keeps db) : keeps after := by
  induction repairs with
  | refl => exact holds
  | tail _ repair ih => exact stable _ _ repair ih

def Repairing (ix : Indexer) (world : Nat → Moment Payload) {Value : Type}
    (program : Program Entry RoundEvent Payload Value)
    (returns : Value → Database Entry RoundEvent → Prop) : Prop :=
  ∀ lo db, Triple world (From lo db) program
    (fun value n state => Repairs ix lo db n state ∧ returns value state)
    (fun _ => Repairs ix lo db)

theorem Repairs.refl {lo n : Nat} {state : Database Entry RoundEvent}
    (left : From lo db n state) : Repairs ix lo db n state := by
  obtain ⟨later, rfl⟩ := left
  exact ⟨later, .refl⟩

theorem Repairs.trans {lo n m : Nat} {middle state : Database Entry RoundEvent}
    (first : Repairs ix lo db n middle) (second : Repairs ix n middle m state) :
    Repairs ix lo db m state :=
  ⟨first.1.trans second.1, first.2.trans second.2⟩

theorem repairing_bind {Value Result : Type} {program : Program Entry RoundEvent Payload Value}
    {next : Value → Program Entry RoundEvent Payload Result}
    {between : Value → Database Entry RoundEvent → Prop}
    {returns : Result → Database Entry RoundEvent → Prop}
    (first : Repairing ix world program between)
    (rest : ∀ value state lo, between value state →
      Triple world (From lo state) (next value)
        (fun result n final => Repairs ix lo state n final ∧ returns result final)
        (fun _ => Repairs ix lo state)) :
    Repairing ix world (program >>= next) returns := by
  intro lo db
  apply triple_bind (first lo db)
  intro value
  apply triple_of_start
  intro start state ⟨before, holds⟩
  apply triple_weaken (rest value state start holds)
  · rintro clock final ⟨rfl, rfl⟩
    exact ⟨Nat.le_refl clock, rfl⟩
  · exact fun _ _ _ result => ⟨before.trans result.1, result.2⟩
  · exact fun _ _ _ left => before.trans left

/-- What every repair keeps is there behind a program of repairs. -/
theorem triple_keep {Value : Type} {lo : Nat} {program : Program Entry RoundEvent Payload Value}
    {keeps : Database Entry RoundEvent → Prop}
    {returns : Value → Database Entry RoundEvent → Prop}
    (stable : ∀ db after, Repair ix db after → keeps db → keeps after) (holds : keeps db)
    (rest : Triple world (From lo db) program
      (fun value n state => Repairs ix lo db n state ∧ returns value state)
      (fun _ => Repairs ix lo db)) :
    Triple world (From lo db) program
      (fun value n state => Repairs ix lo db n state ∧ keeps state ∧ returns value state)
      (fun _ => Repairs ix lo db) := by
  apply triple_weaken rest
  · exact fun _ _ before => before
  · exact fun _ _ _ result => ⟨result.1, kept_of_repairs stable result.1.2 holds, result.2⟩
  · exact fun _ _ _ left => left

theorem repairing_query {Value : Type} (read : Database Entry RoundEvent → Value) :
    Repairing ix world (query read) fun value state => value = read state := by
  intro lo db
  apply triple_weaken triple_query
  · exact fun _ _ holds => holds
  · rintro value clock state ⟨rfl, left⟩
    exact ⟨.refl left, by rw [left.2]⟩
  · exact fun _ _ _ left => .refl left

theorem triple_repair {lo : Nat} {write : Database Entry RoundEvent → Database Entry RoundEvent}
    (repair : Repair ix db (write db)) :
    Triple world (From lo db) (transact write)
      (fun _ n state => Repairs ix lo db n state ∧ state = write db)
      (fun _ => Repairs ix lo db) := by
  apply triple_weaken triple_transact
  · exact fun _ _ holds => holds
  · rintro _ clock state ⟨later, rfl⟩
    exact ⟨⟨by omega, .single repair⟩, rfl⟩
  · rintro error clock state ⟨later, rfl | rfl⟩
    · exact ⟨by omega, .refl⟩
    · exact ⟨by omega, .single repair⟩

theorem triple_still {Value : Type} {lo : Nat} {value : Value}
    {returns : Value → Database Entry RoundEvent → Prop} (holds : returns value db) :
    Triple world (From lo db) (pure value : Program Entry RoundEvent Payload Value)
      (fun result n state => Repairs ix lo db n state ∧ returns result state)
      (fun _ => Repairs ix lo db) := by
  apply triple_pure
  rintro clock state ⟨later, rfl⟩
  exact ⟨⟨later, .refl⟩, holds⟩

theorem repairing_adoptLegacyCursor :
    Repairing ix world (adoptLegacyCursor ix : Program Entry RoundEvent Payload Unit)
      fun _ state => Adopted ix state := by
  unfold adoptLegacyCursor
  split
  · rename_i same
    intro lo db
    exact triple_still fun distinct => absurd same distinct
  · rename_i distinct
    apply repairing_bind (repairing_query _)
    rintro found state lo rfl
    unfold adoptFound
    split
    · rename_i empty
      apply triple_still
      intro _ _ other held
      have none := empty.symm.trans held
      cases none
    · rename_i cursor held
      split
      · rename_i ours
        apply triple_weaken (triple_repair (.adopt distinct held ours))
        · exact fun _ _ holds => holds
        · rintro _ clock final ⟨repairs, rfl⟩
          refine ⟨repairs, ?_⟩
          intro _ empty
          exact absurd empty (state.adoptCursor_finds held)
        · exact fun _ _ _ left => left
      · rename_i foreign
        apply triple_still
        intro _ _ other same
        have is := held.symm.trans same
        cases is
        exact Bool.eq_false_iff.2 foreign

theorem triple_attributeEach {lo : Nat} {contracts : List ContractSpec}
    (listed : ∀ c ∈ contracts, c ∈ ix.contracts) :
    Triple world (From lo db) (attributeEach ix contracts)
      (fun _ n state => Repairs ix lo db n state ∧ EntriesFiled ix contracts state)
      (fun _ => Repairs ix lo db) := by
  induction contracts generalizing lo db with
  | nil => exact triple_still nofun
  | cons c rest ih =>
      have others : ∀ c ∈ rest, c ∈ ix.contracts := fun other member =>
        listed other (List.mem_cons_of_mem _ member)
      unfold attributeEach
      split
      · rename_i money
        apply triple_bind (triple_repair (.attributeEntries (listed c List.mem_cons_self) money))
        intro _
        apply triple_of_start
        rintro start state ⟨before, rfl⟩
        have first : EntriesFiled ix [c] (db.attributeEntries ix.cfg.chainID c.name c.address) := by
          intro row member bare other single _ same
          rw [List.mem_singleton.1 single] at same
          have named := (mem_of_unattributed member bare).2
          rw [same, beq_self_eq_true] at named
          cases named
        have filed := triple_keep (fun _ _ => entriesFiled_of_repair) first
          (@ih (db.attributeEntries ix.cfg.chainID c.name c.address) start others)
        apply triple_weaken filed
        · rintro clock final ⟨rfl, rfl⟩
          exact ⟨Nat.le_refl clock, rfl⟩
        · rintro _ clock final ⟨repairs, one, more⟩
          refine ⟨before.trans repairs, ?_⟩
          intro row member bare other isListed
          rcases List.mem_cons.1 isListed with rfl | later
          · exact one row member bare other List.mem_cons_self
          · exact more row member bare other later
        · exact fun _ _ _ left => before.trans left
      · rename_i elsewhere
        apply triple_weaken (ih others)
        · exact fun _ _ holds => holds
        · rintro _ clock final ⟨repairs, more⟩
          refine ⟨repairs, ?_⟩
          intro row member bare other isListed money
          rcases List.mem_cons.1 isListed with rfl | later
          · exact absurd money elsewhere
          · exact more row member bare other later money
        · exact fun _ _ _ left => left

theorem repairing_attributeExistingEntries :
    Repairing ix world (attributeExistingEntries ix : Program Entry RoundEvent Payload Unit)
      fun _ state => EntriesFiled ix ix.contracts state := by
  apply repairing_bind (repairing_query _)
  rintro pending state lo rfl
  split
  · rename_i empty
    apply triple_still
    intro row member bare
    exact absurd bare (List.countP_eq_zero.1 empty row member)
  · exact triple_attributeEach fun _ member => member

theorem repairing_checkCursorContracts :
    Repairing ix world (checkCursorContracts ix : Program Entry RoundEvent Payload Unit)
      fun _ _ => True := by
  apply repairing_bind (repairing_query _)
  intro found state lo _
  unfold checkFound
  split
  · exact triple_still trivial
  · unfold ensure
    split
    · exact triple_still trivial
    · exact triple_fail fun clock final left => .refl left

theorem repairing_attributeExistingRounds :
    Repairing ix world (attributeExistingRounds ix : Program Entry RoundEvent Payload Unit)
      fun _ state => RoundsFiled ix state := by
  apply repairing_bind (repairing_query _)
  rintro pending state lo rfl
  split
  · rename_i empty
    apply triple_still
    intro row member
    exact Bool.eq_false_iff.2 (List.countP_eq_zero.1 empty row member)
  · unfold attributeTo
    split
    · rename_i market only
      apply triple_weaken (triple_repair (.attributeRounds only))
      · exact fun _ _ holds => holds
      · rintro _ clock final ⟨repairs, rfl⟩
        refine ⟨repairs, ?_⟩
        intro row member
        rw [Bool.eq_false_iff]
        intro bare
        have named := (mem_of_unattributed member bare).2
        cases named
      · exact fun _ _ _ left => left
    · exact triple_fail fun clock final left => .refl left

theorem replay_getD {stream : Text} {fromBlock : Nat} (positive : fromBlock ≠ 0) :
    (db.replayFrom stream fromBlock).getD db =
      { db with cursors := db.rewind stream (fromBlock - 1) } := by
  rw [Database.replayFrom, if_neg positive]
  rfl

theorem repairing_replayForNewDecoders :
    Repairing ix world (replayForNewDecoders ix : Program Entry RoundEvent Payload Unit)
      fun _ state => Settled ix state := by
  apply repairing_bind (repairing_query _)
  rintro found state lo rfl
  unfold replayFound
  split
  · rename_i empty
    apply triple_still
    intro cursor held
    have none := empty.symm.trans held
    cases none
  · rename_i cursor held
    split
    · rename_i wanted
      have repair : Repair ix state _ := .replay held wanted
      apply triple_bind
      · apply triple_weaken (triple_reads (reads_assertLogsStillServed _ _ _))
        · exact fun _ _ holds => holds
        · exact fun _ _ _ result => result
        · exact fun _ _ _ left => .refl left
      · intro _
        apply triple_weaken triple_transactFrom
        · exact fun _ _ holds => holds
        · rintro _ clock final ⟨positive, later, rfl⟩
          rw [replay_getD positive]
          refine ⟨⟨later, .single repair⟩, ?_⟩
          intro other rewound
          have same := (state.rewind_self held).symm.trans rewound
          cases same
          have below : ¬ix.cfg.startBlock ≤ ix.cfg.startBlock - 1 := by omega
          simp [wantsReplay, below]
        · rintro error clock final ⟨later, rfl | ⟨positive, rfl⟩⟩
          · exact ⟨later, .refl⟩
          · rw [replay_getD positive]
            exact ⟨later, .single repair⟩
    · rename_i unwanted
      apply triple_still
      intro other same
      have is := held.symm.trans same
      cases is
      exact Bool.eq_false_iff.2 unwanted

theorem repairing_rest :
    Repairing ix world (do
      attributeExistingEntries ix
      checkCursorContracts ix
      attributeExistingRounds ix
      replayForNewDecoders ix : Program Entry RoundEvent Payload Unit)
      fun _ final => EntriesFiled ix ix.contracts final ∧ RoundsFiled ix final ∧
        Settled ix final := by
  apply repairing_bind repairing_attributeExistingEntries
  intro _ first lo filed
  apply triple_keep (fun _ _ => entriesFiled_of_repair) filed
  apply repairing_bind repairing_checkCursorContracts
  intro _ second lo _
  apply repairing_bind repairing_attributeExistingRounds
  intro _ third lo filed
  exact triple_keep (fun _ _ => roundsFiled_of_repair) filed
    (repairing_replayForNewDecoders lo third)

/-- `Preflight` makes repairs and nothing else, and where it returns there is
nothing left to adopt, to attribute or to replay. -/
theorem repairing_preflight :
    Repairing ix world (preflight ix : Program Entry RoundEvent Payload Unit)
      fun _ state => Ready ix state := by
  intro lo db
  apply triple_bind (repairing_adoptLegacyCursor lo db)
  intro _
  apply triple_of_start
  rintro start state ⟨before, adopted⟩
  apply triple_weaken
    (triple_keep (fun _ _ => adopted_of_repair) adopted (repairing_rest start state))
  · rintro clock final ⟨rfl, rfl⟩
    exact ⟨Nat.le_refl clock, rfl⟩
  · rintro _ clock final ⟨repairs, adopted, entries, rounds, settled⟩
    exact ⟨before.trans repairs, adopted, entries, rounds, settled⟩
  · exact fun _ _ _ left => before.trans left

end Index

end Ghoststake
