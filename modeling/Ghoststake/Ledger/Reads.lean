import Mathlib
import Ghoststake.Ledger.Rounds

/-!
# Reading rounds back

The queries over `round_events` that the API reads rounds by: first which
rounds, then every event of those.
-/

namespace Ghoststake

set_option autoImplicit false

open KeyedFold StableSort KeyedTable

namespace Ledger

open Index

variable {Entry : Type}

/-- What a process derives from a range, and what it keeps. -/
abbrev Records (Entry : Type) := Batch Entry RoundBody

abbrev Store (Entry : Type) := Database Entry RoundBody

/-- `chain_id = $1`. -/
def onChain (chainID : Int) (db : Store Entry) : List RoundEvent :=
  db.rounds.filter fun e => e.provenance.chainID = chainID

/-! ## RecentRounds -/

/-- `max(block_number)` of a group. -/
def newestBlock (events : List RoundEvent) (ref : RoundRef) : Nat :=
  ((events.filter fun e => refOf e = ref).map fun e => e.provenance.blockNumber).foldl max 0

-- how the database orders the texts of two markets
variable (collates : Option Address → Option Address → Bool)

/-- `ORDER BY max(block_number) DESC, round_id DESC, market`. -/
def Newer (events : List RoundEvent) (a b : RoundRef) : Prop :=
  if newestBlock events a ≠ newestBlock events b then newestBlock events b < newestBlock events a
  else if a.roundID ≠ b.roundID then b.roundID < a.roundID
  else collates a.market b.market = true

instance (events : List RoundEvent) : DecidableRel (Newer collates events) := fun a b => by
  unfold Newer
  infer_instance

def recentRounds (db : Store Entry) (chainID : Int) (market : Option Address) (limit : Nat) :
    List RoundRef :=
  let events := (onChain chainID db).filter fun e => market = none ∨ e.owner = market
  (sliceStable (Newer collates events) (events.map refOf).dedup).take limit

theorem nodup_recent_rounds (db : Store Entry) (chainID : Int) (market : Option Address)
    (limit : Nat) : (recentRounds collates db chainID market limit).Nodup := by
  unfold recentRounds
  apply List.Nodup.sublist (List.take_sublist _ _)
  exact (perm_sliceStable _).nodup_iff.2 (List.nodup_dedup _)

/-! ## RoundEventsByRefs -/

/-- `JOIN unnest($2, $3) AS want ON …`. -/
def joined (refs : List RoundRef) (events : List RoundEvent) : List RoundEvent :=
  events.flatMap fun e => (refs.filter fun want => want = refOf e).map fun _ => e

/-- `ORDER BY block_number, log_index, record_index`. -/
def InLogOrder (a b : RoundEvent) : Prop :=
  if a.provenance.blockNumber ≠ b.provenance.blockNumber then
    a.provenance.blockNumber < b.provenance.blockNumber
  else if a.provenance.logIndex ≠ b.provenance.logIndex then
    a.provenance.logIndex < b.provenance.logIndex
  else a.provenance.recordIndex < b.provenance.recordIndex

instance : DecidableRel InLogOrder := fun a b => by
  unfold InLogOrder
  infer_instance

instance : Std.Total (NotLess InLogOrder) where
  total a b := by
    simp only [NotLess, InLogOrder]
    split_ifs <;> omega

instance : IsTrans RoundEvent (NotLess InLogOrder) where
  trans a b c := by
    simp only [NotLess, InLogOrder]
    split_ifs <;> omega

def roundEventsByRefs (db : Store Entry) (chainID : Int) (refs : List RoundRef) :
    List RoundEvent :=
  if refs = [] then [] else sliceStable InLogOrder (joined refs (onChain chainID db))

/-! ## What a read shows of a round -/

def eventsOf (db : Store Entry) (chainID : Int) (ref : RoundRef) : List RoundEvent :=
  sliceStable InLogOrder ((onChain chainID db).filter fun e => refOf e = ref)

def currentRound (db : Store Entry) (chainID : Int) (ref : RoundRef) : Option Round :=
  shown (project (roundEventsByRefs db chainID [ref])) ref

theorem joined_cons (refs : List RoundRef) (e : RoundEvent) (rest : List RoundEvent) :
    joined refs (e :: rest) =
      ((refs.filter fun want => want = refOf e).map fun _ => e) ++ joined refs rest := rfl

theorem filter_joined {refs : List RoundRef} (distinct : refs.Nodup) {ref : RoundRef}
    (asked : ref ∈ refs) (events : List RoundEvent) :
    (joined refs events).filter (fun e => refOf e = ref) =
      events.filter fun e => refOf e = ref := by
  induction events with
  | nil => rfl
  | cons e rest ih =>
      rw [joined_cons, List.filter_append, ih]
      by_cases same : refOf e = ref
      · have once : (refs.filter fun want => want = refOf e) = [ref] := by
          rw [same, List.filter_eq, List.count_eq_one_of_mem distinct asked]
          rfl
        rw [once, List.filter_cons_of_pos (by simp [same])]
        simp [same]
      · rw [List.filter_cons_of_neg (by simp [same])]
        simp [same]

theorem mem_of_mem_joined {refs : List RoundRef} {events : List RoundEvent} {e : RoundEvent}
    (member : e ∈ joined refs events) : e ∈ events ∧ refOf e ∈ refs := by
  obtain ⟨row, inTable, copied⟩ := List.mem_flatMap.1 member
  obtain ⟨want, wanted, rfl⟩ := List.mem_map.1 copied
  have found := List.mem_filter.1 wanted
  exact ⟨inTable, of_decide_eq_true found.2 ▸ found.1⟩

theorem events_by_refs_of {refs : List RoundRef} (distinct : refs.Nodup) {ref : RoundRef}
    (asked : ref ∈ refs) (db : Store Entry) (chainID : Int) :
    (roundEventsByRefs db chainID refs).filter (fun e => refOf e = ref) =
      eventsOf db chainID ref := by
  rw [roundEventsByRefs, if_neg (List.ne_nil_of_mem asked), filter_sliceStable,
    filter_joined distinct asked]
  rfl

/-- A read shows every round it asks for as it stands. -/
theorem shown_read {refs : List RoundRef} (distinct : refs.Nodup) {ref : RoundRef}
    (asked : ref ∈ refs) (db : Store Entry) (chainID : Int) :
    shown (project (roundEventsByRefs db chainID refs)) ref =
      currentRound db chainID ref := by
  rw [currentRound, shown_project, shown_project, events_by_refs_of distinct asked,
    events_by_refs_of (List.nodup_singleton ref) (List.mem_singleton_self ref)]

theorem shown_read_of_not_asked {refs : List RoundRef} {ref : RoundRef} (unasked : ref ∉ refs)
    (db : Store Entry) (chainID : Int) :
    shown (project (roundEventsByRefs db chainID refs)) ref = none := by
  rw [shown_project_eq_none]
  intro e member same
  unfold roundEventsByRefs at member
  split at member
  · nomatch member
  · exact unasked (same ▸ (mem_of_mem_joined (mem_sliceStable.1 member)).2)

theorem current_round_eq_none {db : Store Entry} {chainID : Int} {ref : RoundRef} :
    currentRound db chainID ref = none ↔
      (onChain chainID db).filter (fun e => refOf e = ref) = [] := by
  have rows := events_by_refs_of (List.nodup_singleton ref) (List.mem_singleton_self ref) db chainID
  rw [currentRound, shown_project, foldl_some_eq_none, ← List.length_eq_zero_iff,
    (perm_sliceStable _).length_eq, rows, eventsOf, (perm_sliceStable _).length_eq,
    List.length_eq_zero_iff]

/-! ## What a commit changes -/

variable {batch : Records Entry} {stream : Text} {cursor : Cursor} {db : Store Entry}
variable {chainID : Int} {ref : RoundRef}

def touchedBy (batch : Records Entry) : List RoundRef := batch.rounds.map refOf

theorem current_round_append_of_untouched (untouched : ref ∉ touchedBy batch) :
    currentRound (db.append batch stream cursor) chainID ref = currentRound db chainID ref := by
  have same : (onChain chainID (db.append batch stream cursor)).filter
      (fun e => refOf e = ref) = (onChain chainID db).filter fun e => refOf e = ref := by
    rw [onChain, onChain, List.filter_filter, List.filter_filter]
    apply filter_insertAll
    intro e member
    have other : refOf e ≠ ref := fun same => untouched (List.mem_map.2 ⟨e, member, same⟩)
    simp [other]
  have rows (db : Store Entry) :=
    events_by_refs_of (List.nodup_singleton ref) (List.mem_singleton_self ref) db chainID
  rw [currentRound, currentRound, shown_project, shown_project, rows, rows,
    eventsOf, eventsOf, same]

/-- Rows are never taken away. -/
theorem current_round_append_ne_none (here : currentRound db chainID ref ≠ none) :
    currentRound (db.append batch stream cursor) chainID ref ≠ none := by
  rw [Ne, current_round_eq_none, List.filter_eq_nil_iff] at here ⊢
  intro absent
  apply here
  intro e member
  apply absent e
  have row := List.mem_filter.1 member
  exact List.mem_filter.2 ⟨mem_insertAll_of_mem row.1, row.2⟩

end Ledger

end Ghoststake
