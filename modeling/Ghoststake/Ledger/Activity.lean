import Ghoststake.Ledger.Rounds
import Ghoststake.Library.Paging

/-!
# One address's history

The lending rows and the round rows of an account are one list, newest first by
the coordinates of their logs, read a page at a time. The position between two
pages is a text in the URL.
-/

namespace Ghoststake

set_option autoImplicit false

open Checked Paging

namespace Ledger

open Index

/-! ## Rows and positions -/

inductive Kind where
  | balance | flow
  deriving DecidableEq, Repr

/-- What a row of `ledger_entries` holds besides its provenance and its contract. -/
structure EntryBody where
  kind : Kind
  account : Address
  ledger : Text
  delta : Int
  /-- NULL where the event names no other party. -/
  counterparty : Option Address
  deriving DecidableEq

abbrev Books := Database EntryBody RoundBody

inductive Source where
  | ledger | round
  deriving DecidableEq, Repr

structure Activity where
  provenance : Provenance
  source : Source
  ledger : Text
  amount : Int
  counterparty : Option Address
  market : Option Address
  roundID : Nat
  side : Text
  data : List (Text × Text)
  deriving DecidableEq

structure ActivityCursor where
  blockNumber : Nat
  logIndex : Nat
  recordIndex : Nat
  deriving DecidableEq, Repr

namespace ActivityCursor

/-- Rows compare as SQL compares row values. -/
def key (c : ActivityCursor) : Nat ×ₗ Nat ×ₗ Nat :=
  toLex (c.blockNumber, toLex (c.logIndex, c.recordIndex))

/-- `BIGINT`, `INTEGER` and `SMALLINT` hold it. -/
def Fits (c : ActivityCursor) : Prop :=
  c.blockNumber < 2 ^ 63 ∧ c.logIndex < 2 ^ 31 ∧ c.recordIndex < 2 ^ 15

instance : DecidablePred Fits := fun c =>
  inferInstanceAs (Decidable (c.blockNumber < 2 ^ 63 ∧ c.logIndex < 2 ^ 31 ∧ c.recordIndex < 2 ^ 15))

end ActivityCursor

def positionOf (p : Provenance) : ActivityCursor := ⟨p.blockNumber, p.logIndex, p.recordIndex⟩

def Activity.cursorOf (a : Activity) : ActivityCursor := positionOf a.provenance

def Activity.key (a : Activity) : Nat ×ₗ Nat ×ₗ Nat := a.cursorOf.key

/-! ## The text of a position -/

/-- `fmt.Sprintf("%d-%d-%d", …)`. -/
def ActivityCursor.string (c : ActivityCursor) : Text :=
  decimal c.blockNumber ++ '-' :: (decimal c.logIndex ++ '-' :: decimal c.recordIndex)

def parseUint (bits : Nat) (text : Text) : Option Nat := do
  let n ← natural text
  if n < 2 ^ bits then some n else none

def parseActivityCursor (raw : Text) : Option ActivityCursor :=
  match (trimSpace raw).splitOn '-' with
  | [block, logIndex, record] => do
      let block ← parseUint 64 block
      let logIndex ← parseUint 32 logIndex
      let record ← parseUint 16 record
      some ⟨block, logIndex, record⟩
  | _ => none

theorem digits_append (text : Text) (c : Char) (n : Nat) :
    digits n (text ++ [c]) = (digits n text).bind fun v =>
      if c.isDigit then some (10 * v + (c.toNat - '0'.toNat)) else none := by
  induction text generalizing n with
  | nil => rfl
  | cons d rest ih =>
      rw [List.cons_append, digits, digits]
      split
      · exact ih _
      · rfl

theorem digit_char {d : Nat} (small : d < 10) :
    (Nat.digitChar d).isDigit = true ∧ (Nat.digitChar d).toNat - '0'.toNat = d := by
  revert d
  decide

theorem digits_to_digits (n : Nat) : digits 0 (Nat.toDigits 10 n) = some n := by
  induction n using Nat.strong_induction_on with
  | _ n ih =>
      have lastDigit := digit_char (Nat.mod_lt n (show 0 < 10 by decide))
      by_cases single : n < 10
      · have only := digit_char single
        rw [Nat.toDigits_of_lt_base single, digits, if_pos only.1, only.2]
        simp [digits]
      · rw [Nat.toDigits_of_base_le (by decide) (Nat.not_lt.mp single), digits_append,
          ih (n / 10) (by omega), Option.bind_some, if_pos lastDigit.1, lastDigit.2,
          Nat.div_add_mod]

theorem natural_decimal (n : Nat) : natural (decimal n) = some n := by
  have some : decimal n ≠ [] := Nat.toDigits_ne_nil
  rw [natural, if_neg some]
  exact digits_to_digits n

theorem parse_uint_decimal {bits n : Nat} (fits : n < 2 ^ bits) :
    parseUint bits (decimal n) = some n := by
  unfold parseUint
  rw [natural_decimal]
  exact if_pos fits

theorem lt_of_parse_uint {bits n : Nat} {text : Text} (read : parseUint bits text = some n) :
    n < 2 ^ bits := by
  unfold parseUint at read
  cases value : natural text with
  | none => rw [value] at read; cases read
  | some m =>
      rw [value, Option.bind_eq_bind, Option.bind_some] at read
      split at read
      · rename_i small
        cases read
        exact small
      · cases read

theorem digit_of_mem_decimal {n : Nat} {c : Char} (member : c ∈ decimal n) : c.isDigit = true :=
  Nat.isDigit_of_mem_toDigits (by decide) (by decide) member

/-- What is written as a natural number reads back as that number. -/
theorem set_string_decimal (n : Nat) : setString (decimal n) = some (n : Int) := by
  have read := natural_decimal n
  have digits {c : Char} (member : c ∈ decimal n) := digit_of_mem_decimal member
  generalize decimal n = text at read digits ⊢
  unfold setString
  split
  · exact absurd (digits List.mem_cons_self) (by decide)
  · exact absurd (digits List.mem_cons_self) (by decide)
  · rw [read]
    rfl

theorem dash_not_mem_decimal (n : Nat) : '-' ∉ decimal n := by
  intro member
  exact absurd (digit_of_mem_decimal member) (by decide)

theorem space_of_digit {c : Char} (digit : c.isDigit = true) : isSpace c = false := by
  have range : 48 ≤ c.toNat ∧ c.toNat ≤ 57 := by
    simpa [Char.isDigit, UInt32.le_iff_toNat_le] using digit
  have apart : c ≠ ' ' := by
    intro space
    rw [space] at range
    exact absurd range.1 (by decide)
  simp only [isSpace, Bool.or_eq_false_iff, Bool.and_eq_false_iff, decide_eq_false_iff_not,
    beq_eq_false_iff_ne]
  refine ⟨⟨⟨⟨⟨⟨⟨⟨⟨⟨?_, apart⟩, ?_⟩, ?_⟩, ?_⟩, ?_⟩, ?_⟩, ?_⟩, ?_⟩, ?_⟩, ?_⟩ <;> omega

theorem string_clean (c : ActivityCursor) : ∀ char ∈ c.string, isSpace char = false := by
  intro char member
  have cases : char.isDigit = true ∨ char = '-' := by
    unfold ActivityCursor.string at member
    simp only [List.mem_append, List.mem_cons] at member
    rcases member with block | dash | log | dash | record
    · exact .inl (digit_of_mem_decimal block)
    · exact .inr dash
    · exact .inl (digit_of_mem_decimal log)
    · exact .inr dash
    · exact .inl (digit_of_mem_decimal record)
  cases cases with
  | inl digit => exact space_of_digit digit
  | inr dash => rw [dash]; decide

/-- A position within what a parse accepts is read back from its text. -/
theorem parse_string {c : ActivityCursor} (block : c.blockNumber < 2 ^ 64)
    (log : c.logIndex < 2 ^ 32) (record : c.recordIndex < 2 ^ 16) :
    parseActivityCursor c.string = some c := by
  have pieces : c.string.splitOn '-' =
      [decimal c.blockNumber, decimal c.logIndex, decimal c.recordIndex] := by
    rw [ActivityCursor.string,
      List.splitOn_append_cons_self_of_not_mem (dash_not_mem_decimal c.blockNumber),
      List.splitOn_append_cons_self_of_not_mem (dash_not_mem_decimal c.logIndex),
      List.splitOn_eq_singleton (dash_not_mem_decimal c.recordIndex)]
  unfold parseActivityCursor
  rw [trim_space_of_clean (string_clean c), pieces]
  simp only [parse_uint_decimal block, parse_uint_decimal log, parse_uint_decimal record]
  rfl

theorem fits_of_parse {raw : Text} {c : ActivityCursor}
    (accepted : parseActivityCursor raw = some c) :
    c.blockNumber < 2 ^ 64 ∧ c.logIndex < 2 ^ 32 ∧ c.recordIndex < 2 ^ 16 := by
  unfold parseActivityCursor at accepted
  split at accepted
  · simp only [Option.bind_eq_bind, Option.bind_eq_some_iff] at accepted
    obtain ⟨block, readBlock, log, readLog, record, readRecord, same⟩ := accepted
    cases same
    exact ⟨lt_of_parse_uint readBlock, lt_of_parse_uint readLog, lt_of_parse_uint readRecord⟩
  · cases accepted

/-! ## The query -/

def ofEntry (row : Row EntryBody) : Activity where
  provenance := row.provenance
  source := .ledger
  ledger := row.body.ledger
  amount := row.body.delta
  counterparty := row.body.counterparty
  market := none
  roundID := 0
  side := []
  data := []

def ofRound (row : RoundEvent) : Activity where
  provenance := row.provenance
  source := .round
  ledger := []
  amount := row.body.amount.getD 0
  counterparty := none
  market := row.owner
  roundID := row.body.roundID
  side := row.body.side
  data := row.body.data

/-- `chain_id = $1 AND account = $2 AND kind = 'flow'`. -/
def flowOf (chainID : Int) (account : Address) (row : Row EntryBody) : Bool :=
  row.provenance.chainID == chainID && row.body.account == account && row.body.kind == .flow

/-- `chain_id = $1 AND account = $2`. -/
def roundOf (chainID : Int) (account : Address) (row : RoundEvent) : Bool :=
  row.provenance.chainID == chainID && row.body.account == some account

def merged (db : Books) (chainID : Int) (account : Address) : List Activity :=
  (db.entries.filter (flowOf chainID account)).map ofEntry ++
    (db.rounds.filter (roundOf chainID account)).map ofRound

/-- `NOT $3::BOOLEAN OR (block_number, log_index, record_index) < ($4, $5, $6)`. -/
def olderThan (after : Option ActivityCursor) (a : Activity) : Bool :=
  match after with
  | none => true
  | some c => decide (a.key < c.key)

/-- `None` is a query that failed: its columns do not hold the position asked for. -/
def activityFor (db : Books) (chainID : Int) (account : Address) (after : Option ActivityCursor)
    (limit : Nat) : Option (List Activity × Option ActivityCursor) :=
  if ∀ c ∈ after, c.Fits then
    let out :=
      (newestFirst Activity.key ((merged db chainID account).filter (olderThan after))).take
        (limit + 1)
    if limit < out.length then
      some (out.take limit, (out.take limit).getLast?.map Activity.cursorOf)
    else some (out, none)
  else none

/-! ## The endpoint -/

inductive Status where
  | badRequest | internalServerError
  deriving DecidableEq, Repr

structure Page where
  events : List Activity
  nextCursor : Option Text
  deriving DecidableEq

/-- An empty `?cursor=` is the first page. -/
def cursorParam (raw : Text) : Except Status (Option ActivityCursor) :=
  if raw = [] then .ok none
  else
    match parseActivityCursor raw with
    | some c => .ok (some c)
    | none => .error .badRequest

def page (db : Books) (chainID : Int) (account : Address) (limit : Nat) (raw : Text) :
    Except Status Page := do
  let after ← cursorParam raw
  match activityFor db chainID account after limit with
  | some (events, next) => .ok ⟨events, next.map ActivityCursor.string⟩
  | none => .error .internalServerError

def defaultActivityLimit : Nat := 50

def maxActivityLimit : Nat := 200

def atoi (raw : Text) : Option Int := do
  let n ← setString raw
  if -2 ^ 63 ≤ n ∧ n < 2 ^ 63 then some n else none

def clampActivityLimit (raw : Text) : Nat :=
  if raw = [] then defaultActivityLimit
  else
    match atoi raw with
    | none => defaultActivityLimit
    | some n =>
        if n ≤ 0 then defaultActivityLimit
        else if maxActivityLimit < n then maxActivityLimit
        else n.toNat

structure ActivityResponse where
  address : Address
  chainID : Int
  indexedBlock : Nat
  page : Page

def handleActivity (hashing : Hashing) (cfg : Config) (db : Books) (address : Address)
    (limit cursor : Text) : Except Status ActivityResponse := do
  let found ← page db cfg.chainID address (clampActivityLimit limit) cursor
  return ⟨address, cfg.chainID, db.indexedBlock hashing cfg, found⟩

/-! ## A reader following the cursors -/

/-- One request to each database of a list, the first with no cursor and each
later one with the cursor it was handed, until a page has none. -/
def follow (chainID : Int) (account : Address) (limit : Nat) :
    Text → List Books → Except Status (List Page)
  | _, [] => .ok []
  | raw, db :: later => do
      let here ← page db chainID account limit raw
      match here.nextCursor with
      | none => return [here]
      | some next => return here :: (← follow chainID account limit next later)

/-- The rows of one chain are where their columns can say they are, no two of
an account's history at one place. -/
structure Stored (chainID : Int) (account : Address) (db : Books) : Prop where
  fits : ∀ a ∈ merged db chainID account, a.cursorOf.Fits
  distinct : ((merged db chainID account).map Activity.key).Nodup

def blocksOf (chainID : Int) (db : Books) : List Nat :=
  ((db.entries.map Row.provenance ++ db.rounds.map Row.provenance).filter
    fun p => p.chainID == chainID).map Provenance.blockNumber

def Higher (chainID : Int) (db : Books) (p : Provenance) : Prop :=
  p.chainID = chainID → ∀ block ∈ blocksOf chainID db, block < p.blockNumber

/-- Nothing was taken away, and what was added on the chain is of higher blocks. -/
structure Grown (chainID : Int) (db next : Books) : Prop where
  entries : ∃ added, next.entries.Perm (db.entries ++ added) ∧
    ∀ row ∈ added, Higher chainID db row.provenance
  rounds : ∃ added, next.rounds.Perm (db.rounds ++ added) ∧
    ∀ row ∈ added, Higher chainID db row.provenance

/-- A pass of the indexer that read higher blocks than it had. -/
theorem grown_of_append {chainID : Int} {db : Books} {batch : Batch EntryBody RoundBody}
    {stream : Text} {cursor : Index.Cursor}
    (entries : ∀ row ∈ batch.entries, Higher chainID db row.provenance)
    (rounds : ∀ row ∈ batch.rounds, Higher chainID db row.provenance) :
    Grown chainID db (db.append batch stream cursor) := by
  obtain ⟨newEntries, splitEntries, amongEntries⟩ :=
    KeyedTable.insertAll_eq_append Row.key db.entries batch.entries
  obtain ⟨newRounds, splitRounds, amongRounds⟩ :=
    KeyedTable.insertAll_eq_append Row.key db.rounds batch.rounds
  constructor
  · refine ⟨newEntries, ?_, fun row member => entries row (amongEntries row member)⟩
    rw [Database.append, splitEntries]
  · refine ⟨newRounds, ?_, fun row member => rounds row (amongRounds row member)⟩
    rw [Database.append, splitRounds]

theorem Grown.refl (chainID : Int) (db : Books) : Grown chainID db db where
  entries := ⟨[], by rw [List.append_nil], fun _ member => absurd member List.not_mem_nil⟩
  rounds := ⟨[], by rw [List.append_nil], fun _ member => absurd member List.not_mem_nil⟩

/-- What the first databases of a run leave of `rows` to show, in `pages` of `limit`. -/
structure Paged (limit requests : Nat) (rows : List Activity) (pages : List Page)
    (left : List Activity) : Prop where
  shown : pages.flatMap Page.events ++ left = rows
  full : ∀ p ∈ pages.dropLast, p.events.length = limit ∧ p.nextCursor ≠ none
  last : ∀ p ∈ pages.getLast?, p.nextCursor = none ↔ left = []
  ends : rows.length ≤ limit * requests → left = []

section Reading

variable {chainID : Int} {account : Address} {limit : Nat} {db next : Books}
  {after : Option ActivityCursor} {rest : List Activity}

theorem mem_blocks_of_entry {row : Row EntryBody} (member : row ∈ db.entries)
    (chain : row.provenance.chainID = chainID) :
    row.provenance.blockNumber ∈ blocksOf chainID db := by
  apply List.mem_map_of_mem
  apply List.mem_filter.mpr
  exact ⟨List.mem_append_left _ (List.mem_map_of_mem member), beq_iff_eq.mpr chain⟩

theorem mem_blocks_of_round {row : RoundEvent} (member : row ∈ db.rounds)
    (chain : row.provenance.chainID = chainID) :
    row.provenance.blockNumber ∈ blocksOf chainID db := by
  apply List.mem_map_of_mem
  apply List.mem_filter.mpr
  exact ⟨List.mem_append_right _ (List.mem_map_of_mem member), beq_iff_eq.mpr chain⟩

theorem chain_of_flow {row : Row EntryBody} (flow : flowOf chainID account row = true) :
    row.provenance.chainID = chainID := by
  simp only [flowOf, Bool.and_eq_true, beq_iff_eq] at flow
  exact flow.1.1

theorem chain_of_round {row : RoundEvent} (round : roundOf chainID account row = true) :
    row.provenance.chainID = chainID := by
  simp only [roundOf, Bool.and_eq_true, beq_iff_eq] at round
  exact round.1

theorem block_of_merged {a : Activity} (member : a ∈ merged db chainID account) :
    a.provenance.blockNumber ∈ blocksOf chainID db := by
  cases List.mem_append.mp member with
  | inl entry =>
      obtain ⟨row, kept, same⟩ := List.mem_map.mp entry
      have parts := List.mem_filter.mp kept
      rw [← same]
      exact mem_blocks_of_entry parts.1 (chain_of_flow parts.2)
  | inr round =>
      obtain ⟨row, kept, same⟩ := List.mem_map.mp round
      have parts := List.mem_filter.mp kept
      rw [← same]
      exact mem_blocks_of_round parts.1 (chain_of_round parts.2)

theorem key_lt_of_block {a b : Activity}
    (below : a.provenance.blockNumber < b.provenance.blockNumber) : a.key < b.key :=
  Prod.Lex.toLex_lt_toLex.mpr (.inl below)

/-- What an account's history gains is newer than all it had. -/
theorem merged_of_grown (grown : Grown chainID db next) :
    ∃ added, (merged next chainID account).Perm (merged db chainID account ++ added) ∧
      ∀ new ∈ added, ∀ old ∈ merged db chainID account, old.key < new.key := by
  obtain ⟨entries, entriesPerm, entriesAbove⟩ := grown.entries
  obtain ⟨rounds, roundsPerm, roundsAbove⟩ := grown.rounds
  refine ⟨(entries.filter (flowOf chainID account)).map ofEntry ++
    (rounds.filter (roundOf chainID account)).map ofRound, ?_, ?_⟩
  · have left := (entriesPerm.filter (flowOf chainID account)).map ofEntry
    have right := (roundsPerm.filter (roundOf chainID account)).map ofRound
    rw [List.filter_append, List.map_append] at left right
    have both := left.append right
    rw [merged, merged]
    refine both.trans ?_
    rw [List.append_assoc, List.append_assoc]
    apply List.Perm.append_left
    rw [← List.append_assoc, ← List.append_assoc]
    exact List.perm_append_comm.append_right _
  · intro new member old inOld
    apply key_lt_of_block
    cases List.mem_append.mp member with
    | inl entry =>
        obtain ⟨row, kept, same⟩ := List.mem_map.mp entry
        have parts := List.mem_filter.mp kept
        rw [← same]
        exact entriesAbove row parts.1 (chain_of_flow parts.2) _ (block_of_merged inOld)
    | inr round =>
        obtain ⟨row, kept, same⟩ := List.mem_map.mp round
        have parts := List.mem_filter.mp kept
        rw [← same]
        exact roundsAbove row parts.1 (chain_of_round parts.2) _ (block_of_merged inOld)

/-- However the tables have grown, below a row shown there is what was not shown. -/
theorem below_of_grown {shown : List Activity} {last : Activity} (stored : Stored chainID account db)
    (grown : Grown chainID db next)
    (listed : newestFirst Activity.key (merged db chainID account) = shown ++ rest)
    (ends : shown.getLast? = some last) :
    newestFirst Activity.key
      ((merged next chainID account).filter (olderThan (some last.cursorOf))) = rest := by
  obtain ⟨added, perm, above⟩ : ∃ added,
      (merged next chainID account).Perm (merged db chainID account ++ added) ∧
        ∀ new ∈ added, ∀ old ∈ merged db chainID account, old.key < new.key :=
    merged_of_grown grown
  have member : last ∈ merged db chainID account := by
    apply (@perm_newestFirst _ _ _ Activity.key _).mem_iff.mp
    rw [listed]
    exact List.mem_append_left _ (List.mem_of_getLast? ends)
  have none : added.filter (olderThan (some last.cursorOf)) = [] := by
    apply List.filter_eq_nil_iff.mpr
    intro new inAdded below
    exact lt_asymm (of_decide_eq_true below) (above new inAdded last member)
  have same := perm.filter (olderThan (some last.cursorOf))
  rw [List.filter_append, none, List.append_nil] at same
  have distinct : (((merged db chainID account).filter (olderThan (some last.cursorOf))).map
      Activity.key).Nodup := stored.distinct.sublist (List.filter_sublist.map _)
  have descends := descends_newestFirst stored.distinct
  rw [newestFirst_eq same distinct, ← filter_newestFirst stored.distinct, listed]
  rw [listed] at descends
  exact filter_below_last descends ends

variable (limit) in
theorem activity_for_of_rest (fits : ∀ c ∈ after, c.Fits)
    (left : newestFirst Activity.key ((merged db chainID account).filter (olderThan after)) = rest) :
    activityFor db chainID account after limit =
      some (rest.take limit,
        if limit < rest.length then (rest.take limit).getLast?.map Activity.cursorOf else none) := by
  unfold activityFor
  rw [if_pos fits, left]
  by_cases more : limit < rest.length
  · have long : limit < (rest.take (limit + 1)).length := by
      rw [List.length_take]
      omega
    rw [if_pos more]
    simp only [if_pos long, List.take_take, Nat.min_eq_left (Nat.le_succ limit)]
  · have all : rest.take (limit + 1) = rest := List.take_of_length_le (by omega)
    have same : rest.take limit = rest := List.take_of_length_le (Nat.not_lt.mp more)
    rw [if_neg more]
    simp only [all, same, if_neg more]

variable (limit) in
theorem page_of_rest {raw : Text} (asked : cursorParam raw = .ok after)
    (fits : ∀ c ∈ after, c.Fits)
    (left : newestFirst Activity.key ((merged db chainID account).filter (olderThan after)) = rest) :
    page db chainID account limit raw = .ok ⟨rest.take limit,
      if limit < rest.length then
        (rest.take limit).getLast?.map fun last => last.cursorOf.string
      else none⟩ := by
  have found := activity_for_of_rest limit fits left
  by_cases more : limit < rest.length
  · rw [if_pos more] at found ⊢
    simp only [page, asked, ok_bind, found, Option.map_map]
    rfl
  · rw [if_neg more] at found ⊢
    simp only [page, asked, ok_bind, found, Option.map_none]

theorem cursor_param_string {c : ActivityCursor} (fits : c.Fits) :
    cursorParam c.string = .ok (some c) := by
  have some : c.string ≠ [] := by simp [ActivityCursor.string]
  have block : c.blockNumber < 2 ^ 64 := lt_trans fits.1 (by decide)
  have log : c.logIndex < 2 ^ 32 := lt_trans fits.2.1 (by decide)
  have record : c.recordIndex < 2 ^ 16 := lt_trans fits.2.2 (by decide)
  rw [cursorParam, if_neg some, parse_string block log record]

theorem follow_last {later : List Books} {raw : Text} {events : List Activity}
    (answer : page db chainID account limit raw = .ok ⟨events, none⟩) :
    follow chainID account limit raw (db :: later) = .ok [⟨events, none⟩] := by
  simp only [follow, answer, ok_bind]
  rfl

theorem follow_more {later : List Books} {raw mark : Text} {events : List Activity}
    {pages : List Page} (answer : page db chainID account limit raw = .ok ⟨events, some mark⟩)
    (others : follow chainID account limit mark later = .ok pages) :
    follow chainID account limit raw (db :: later) = .ok (⟨events, some mark⟩ :: pages) := by
  simp only [follow, answer, ok_bind, others]
  rfl

theorem paged_nil (limit : Nat) (rows : List Activity) : Paged limit 0 rows [] rows where
  shown := rfl
  full := by intro p member; cases member
  last := by intro p member; cases member
  ends few := List.length_eq_zero_iff.mp (Nat.le_zero.mp few)

theorem paged_last {requests : Nat} {rows : List Activity} :
    Paged limit requests rows [⟨rows, none⟩] [] where
  shown := by simp
  full := by intro p member; cases member
  last := by
    intro p member
    cases member
    exact iff_of_true rfl rfl
  ends _ := rfl

theorem paged_more {requests : Nat} {rows left : List Activity} {mark : Text} {pages : List Page}
    (more : limit < rows.length) (later : Paged limit requests (rows.drop limit) pages left) :
    Paged limit (requests + 1) rows (⟨rows.take limit, some mark⟩ :: pages) left where
  shown := by
    rw [List.flatMap_cons, List.append_assoc, later.shown]
    exact List.take_append_drop limit rows
  full := by
    intro p member
    cases pages with
    | nil => cases member
    | cons second others =>
        rw [List.dropLast_cons_of_ne_nil (List.cons_ne_nil _ _)] at member
        cases List.mem_cons.mp member with
        | inl first =>
            rw [first]
            exact ⟨List.length_take_of_le (Nat.le_of_lt more), Option.some_ne_none _⟩
        | inr behind => exact later.full p behind
  last := by
    intro p member
    cases pages with
    | nil =>
        cases member
        have unread : rows.drop limit = left := later.shown.symm
        have some : left ≠ [] := by
          rw [← unread, Ne, List.drop_eq_nil_iff]
          exact Nat.not_le.mpr more
        exact iff_of_false (Option.some_ne_none _) some
    | cons second others =>
        rw [List.getLast?_cons_cons] at member
        exact later.last p member
  ends few := by
    apply later.ends
    rw [List.length_drop, Nat.mul_succ] at *
    omega

/-- From any place in the list the reader is shown the rest of it, in order. -/
theorem paged_of_rest (positive : 1 ≤ limit) (stored : Stored chainID account db)
    {dbs : List Books} (grown : ∀ next ∈ dbs, Grown chainID db next) {raw : Text}
    {shown : List Activity} (asked : cursorParam raw = .ok after) (fits : ∀ c ∈ after, c.Fits)
    (listed : newestFirst Activity.key (merged db chainID account) = shown ++ rest)
    (left : ∀ next ∈ dbs.head?, newestFirst Activity.key
      ((merged next chainID account).filter (olderThan after)) = rest) :
    ∃ pages unread, follow chainID account limit raw dbs = .ok pages ∧
      Paged limit dbs.length rest pages unread := by
  induction dbs generalizing shown rest raw after with
  | nil => exact ⟨[], rest, rfl, paged_nil limit rest⟩
  | cons next later ih =>
      have answer := page_of_rest limit asked fits (left next rfl)
      by_cases more : limit < rest.length
      · rw [if_pos more] at answer
        have nonempty : rest.take limit ≠ [] := by
          intro empty
          have size := List.length_take_of_le (Nat.le_of_lt more)
          rw [empty] at size
          exact absurd size (Nat.ne_of_lt positive)
        have ends : (rest.take limit).getLast? = some ((rest.take limit).getLast nonempty) :=
          List.getLast?_eq_some_getLast nonempty
        have split : newestFirst Activity.key (merged db chainID account) =
            (shown ++ rest.take limit) ++ rest.drop limit := by
          rw [listed, List.append_assoc, List.take_append_drop]
        have closes : (shown ++ rest.take limit).getLast? =
            some ((rest.take limit).getLast nonempty) := by
          rw [List.getLast?_append_of_ne_nil _ nonempty, ends]
        have member : (rest.take limit).getLast nonempty ∈ merged db chainID account := by
          apply (@perm_newestFirst _ _ _ Activity.key _).mem_iff.mp
          rw [split]
          exact List.mem_append_left _ (List.mem_of_getLast? closes)
        have place := stored.fits _ member
        rw [ends, Option.map_some] at answer
        obtain ⟨pages, unread, others, paged⟩ := ih
          (fun following inLater => grown following (List.mem_cons_of_mem _ inLater))
          (cursor_param_string place)
          (by intro c same; cases same; exact place) split
          (fun following first => below_of_grown stored
            (grown following (List.mem_cons_of_mem _ (List.mem_of_head? first))) split closes)
        exact ⟨_, unread, follow_more answer others, paged_more more paged⟩
      · rw [if_neg more, List.take_of_length_le (Nat.not_lt.mp more)] at answer
        exact ⟨_, [], follow_last answer, paged_last⟩

/-- Following the cursors while the index grows, a reader is shown an account's
history as it stood at the first request, newest first and each row once. -/
theorem paging_loses_and_repeats_nothing (positive : 1 ≤ limit)
    (stored : Stored chainID account db) {later : List Books}
    (grown : ∀ next ∈ later, Grown chainID db next) :
    (∃ pages unread, follow chainID account limit [] (db :: later) = .ok pages ∧
      (pages.flatMap Page.events ++ unread).Perm (merged db chainID account) ∧
      Descends Activity.key (pages.flatMap Page.events ++ unread) ∧
      (∀ p ∈ pages.dropLast, p.events.length = limit ∧ p.nextCursor ≠ none) ∧
      (∀ p ∈ pages.getLast?, p.nextCursor = none ↔ unread = []) ∧
      ((merged db chainID account).length ≤ limit * (later.length + 1) → unread = [])) ∧
    (∀ a ∈ merged db chainID account, parseActivityCursor a.cursorOf.string = some a.cursorOf) ∧
    ∀ raw c, parseActivityCursor raw = some c → parseActivityCursor c.string = some c := by
  have all : (merged db chainID account).filter (olderThan none) = merged db chainID account :=
    List.filter_eq_self.mpr fun _ _ => rfl
  refine ⟨?_, ?_, ?_⟩
  · have each : ∀ next ∈ db :: later, Grown chainID db next := by
      intro next member
      cases List.mem_cons.mp member with
      | inl same => exact same ▸ Grown.refl chainID db
      | inr behind => exact grown next behind
    obtain ⟨pages, unread, run, paged⟩ := paged_of_rest positive stored each
      (show cursorParam [] = .ok none from rfl) (by intro c member; cases member)
      (List.nil_append _).symm
      (by
        intro next member
        cases member
        rw [all])
    refine ⟨pages, unread, run, ?_, ?_, paged.full, paged.last, ?_⟩
    · rw [paged.shown]
      exact perm_newestFirst
    · rw [paged.shown]
      exact descends_newestFirst stored.distinct
    · intro few
      apply paged.ends
      rw [perm_newestFirst.length_eq]
      exact few
  · intro a member
    have place := stored.fits a member
    exact parse_string (lt_trans place.1 (by decide)) (lt_trans place.2.1 (by decide))
      (lt_trans place.2.2 (by decide))
  · intro raw c accepted
    have bounds := fits_of_parse accepted
    exact parse_string bounds.1 bounds.2.1 bounds.2.2

end Reading

/-! ## A page that ends inside a block -/

def reader : Address := ⟨List.replicate 40 1, Index.length_ones⟩

def samplePlace (block logIndex recordIndex : Nat) : Provenance where
  chainID := 1
  blockNumber := block
  blockHash := ⟨List.replicate 64 2, List.length_replicate⟩
  blockTime := 12 * block
  txHash := ⟨List.replicate 64 3, List.length_replicate⟩
  logIndex := logIndex
  recordIndex := recordIndex
  contract := .collateralVault
  eventName := []

def sampleEntry (kind : Kind) (block logIndex recordIndex : Nat) : Row EntryBody :=
  ⟨samplePlace block logIndex recordIndex, none, ⟨kind, reader, [], 100, none⟩⟩

def sampleStake (block logIndex : Nat) : RoundEvent :=
  ⟨samplePlace block logIndex 0, none, ⟨7, some reader, sideUp, some 30, []⟩⟩

def sampleBooks : Books where
  entries := [sampleEntry .flow 4 0 0, sampleEntry .balance 4 0 1, sampleEntry .flow 5 2 1]
  rounds := [sampleStake 5 1, sampleStake 5 2]
  cursors := fun _ => none

def sampleBatch : Batch EntryBody RoundBody := ⟨[sampleEntry .flow 6 0 0], [sampleStake 6 1]⟩

def sampleBooksLater : Books := sampleBooks.append sampleBatch [] ⟨1, 6, none, [], []⟩

theorem sample_books_stored : Stored 1 reader sampleBooks where
  fits := by decide +kernel
  distinct := by decide +kernel

theorem sample_books_grown : Grown 1 sampleBooks sampleBooksLater := by
  apply grown_of_append
  · intro row member _
    cases List.mem_singleton.mp member
    decide +kernel
  · intro row member _
    cases List.mem_singleton.mp member
    decide +kernel

theorem paging_is_complete_at_a_split_block :
    ∃ pages, follow 1 reader 2 [] [sampleBooks, sampleBooksLater] = .ok pages ∧
      (pages.flatMap Page.events).Perm (merged sampleBooks 1 reader) ∧
      Descends Activity.key (pages.flatMap Page.events) := by
  have grown : ∀ next ∈ [sampleBooksLater], Grown 1 sampleBooks next := by
    intro next member
    cases List.mem_singleton.mp member
    exact sample_books_grown
  have paged := paging_loses_and_repeats_nothing (show 1 ≤ 2 by decide) sample_books_stored grown
  obtain ⟨pages, unread, run, same, descends, _, _, ends⟩ := paged.1
  have done : unread = [] := ends (by decide +kernel)
  rw [done, List.append_nil] at same descends
  exact ⟨pages, run, same, descends⟩

end Ledger

end Ghoststake
