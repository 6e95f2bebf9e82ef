import Ghoststake.Library.Bisection
import Ghoststake.Library.Checked

/-!
# The round a settlement has to name

The keeper and the operator console look for the last feed round published at
or before the close of a round, by halving the ids up to the latest one. Ids
without data sort with the early ones, wherever they are.
-/

namespace Ghoststake

set_option autoImplicit false

open Checked

namespace Keeper

/-- An error of a call, and the words its callers put before it. -/
inductive Failure where
  | call (text : String)
  | within (context : String) (cause : Failure)
  deriving DecidableEq

/-- `fmt.Errorf("context: %w", err)` -/
def wrap {Value : Type} (context : String) : Except Failure Value → Except Failure Value
  | .error cause => .error (.within context cause)
  | .ok value => .ok value

theorem wrap_ok_iff {Value : Type} {context : String} {program : Except Failure Value}
    {value : Value} : wrap context program = .ok value ↔ program = .ok value := by
  cases program with
  | error cause => simp [wrap]
  | ok other => exact Iff.rfl

@[simp] theorem wrap_ok {Value : Type} (context : String) (value : Value) :
    wrap context (.ok value) = .ok value := rfl

structure FeedRound where
  updatedAt : Nat
  deriving DecidableEq

abbrev Feed := Nat → Option FeedRound

/-- An id without data is `none`; a call that could not be made is an error. -/
abbrev RoundReader := Nat → Except Failure (Option FeedRound)

def early (round : Option FeedRound) (closeTime : Nat) : Bool :=
  match round with
  | none => true
  | some round => round.updatedAt ≤ closeTime

def holds (read : RoundReader) (closeTime id : Nat) : Except Failure Bool :=
  match read id with
  | .error error => .error error
  | .ok round => .ok (early round closeTime)

/-- Past the loop: only a round with data is an answer. -/
def confirmed (read : RoundReader) (lo : Nat) : Except Failure (Option Nat) :=
  if lo = 0 then .ok none
  else do
    let answer ← wrap "keeper: read candidate feed round" (read lo)
    .ok (answer.map fun _ => lo)

/-- `FindCloseRoundFrom`; an id may be a nil pointer. -/
def findCloseRoundFrom (read : RoundReader) (latestId : Option Nat)
    (latest : Option FeedRound) (closeTime : Nat) : Except Failure (Option Nat) :=
  match latestId with
  | none => .ok none
  | some latestId =>
      if latestId = 0 then .ok none
      else if early latest closeTime then .ok none
      else do
        let lo ← wrap "keeper: feed round search"
          (Bisection.search (holds read closeTime) 0 latestId)
        confirmed read lo

def findCloseRound (read : RoundReader) (latestId : Option Nat) (closeTime : Nat) :
    Except Failure (Option Nat) :=
  match latestId with
  | none => .ok none
  | some id =>
      if id = 0 then .ok none
      else do
        let latest ← wrap "keeper: read latest feed round" (read id)
        findCloseRoundFrom read latestId latest closeTime

end Keeper

namespace Console

open Keeper (FeedRound RoundReader Failure)

def confirmed (readRound : RoundReader) (lo : Nat) : Except Failure (Option Nat) :=
  if lo = 0 then .ok none
  else do
    let answer ← readRound lo
    .ok (if answer = none then none else some lo)

/-- `findCloseRound`; a rejected read rejects the search. -/
def findCloseRound (readRound : RoundReader) (latestRoundId closeTime : Nat) :
    Except Failure (Option Nat) := do
  let latest ← readRound latestRoundId
  match latest with
  | none => .ok none
  | some latest =>
      if latest.updatedAt ≤ closeTime then .ok none
      else do
        let lo ← Bisection.search (Keeper.holds readRound closeTime) 0 latestRoundId
        confirmed readRound lo

end Console

/-! ## A feed at one moment -/

namespace Feed

open Keeper (Feed FeedRound)

variable {feed : Feed} {latest closeTime id : Nat} {newest : FeedRound}

/-- Timestamps do not decrease over the ids that hold data. -/
def Ordered (feed : Feed) : Prop :=
  ∀ first second earlier later, first ≤ second → feed first = some earlier →
    feed second = some later → earlier.updatedAt ≤ later.updatedAt

/-- What a settlement has to name: data at or before the close, and after it
in the next id. -/
def Brackets (feed : Feed) (closeTime id : Nat) : Prop :=
  (∃ round, feed id = some round ∧ round.updatedAt ≤ closeTime) ∧
    ∃ next, feed (id + 1) = some next ∧ closeTime < next.updatedAt

def read (feed : Feed) : Keeper.RoundReader := fun id => .ok (feed id)

/-- The id the halving ends at. -/
def floorOf (feed : Feed) (latest closeTime : Nat) : Nat :=
  Bisection.boundary (fun id => Keeper.early (feed id) closeTime) 0 latest

def closeRound (feed : Feed) (latest closeTime : Nat) : Option Nat :=
  if Keeper.early (feed latest) closeTime ∨ floorOf feed latest closeTime = 0 then none
  else (feed (floorOf feed latest closeTime)).map fun _ => floorOf feed latest closeTime

/-- No middle asked about on the way to `id` lies above it and holds no data. -/
def ClearAbove (feed : Feed) (latest id : Nat) : Prop :=
  ∀ probe ∈ Bisection.probes id 0 latest, id < probe → feed probe ≠ none

theorem late_of_early (late : ¬Keeper.early (feed id) closeTime = true) :
    ∃ round, feed id = some round ∧ closeTime < round.updatedAt := by
  cases held : feed id with
  | none => simp [held, Keeper.early] at late
  | some round =>
      refine ⟨round, rfl, ?_⟩
      simpa [held, Keeper.early] using late

theorem early_at (held : feed id = some newest) :
    Keeper.early (feed id) closeTime = true ↔ newest.updatedAt ≤ closeTime := by
  simp [held, Keeper.early]

theorem loop_of_feed (feed : Feed) (latest closeTime : Nat) :
    Bisection.search (Keeper.holds (read feed) closeTime) 0 latest =
      .ok (floorOf feed latest closeTime) :=
  Bisection.search_of_answers _ 0 latest

theorem floor_of_nothing (feed : Feed) (closeTime : Nat) : floorOf feed 0 closeTime = 0 := by
  unfold floorOf
  rw [Bisection.boundary, dif_neg (by omega)]

theorem keeper_finds_from (feed : Feed) (latest closeTime : Nat) :
    Keeper.findCloseRoundFrom (read feed) (some latest) (feed latest) closeTime =
      .ok (closeRound feed latest closeTime) := by
  unfold Keeper.findCloseRoundFrom closeRound
  by_cases nothing : latest = 0
  · subst nothing
    simp [floor_of_nothing]
  · by_cases early : Keeper.early (feed latest) closeTime = true
    · simp [nothing, early]
    · simp only [if_neg nothing, early, loop_of_feed, Keeper.wrap_ok, ok_bind]
      by_cases bottom : floorOf feed latest closeTime = 0
      · simp [bottom, Keeper.confirmed]
      · simp [bottom, Keeper.confirmed, read, ok_bind]

/-- The keeper's search over a feed that answers returns, with this. -/
theorem keeper_finds (feed : Feed) (latest closeTime : Nat) :
    Keeper.findCloseRound (read feed) (some latest) closeTime =
      .ok (closeRound feed latest closeTime) := by
  unfold Keeper.findCloseRound
  by_cases nothing : latest = 0
  · subst nothing
    simp [closeRound, floor_of_nothing]
  · simp only [if_neg nothing, ← keeper_finds_from]
    rfl

theorem console_finds (feed : Feed) (latest closeTime : Nat) :
    Console.findCloseRound (read feed) latest closeTime =
      .ok (closeRound feed latest closeTime) := by
  unfold Console.findCloseRound closeRound
  rw [loop_of_feed]
  cases held : feed latest with
  | none => simp [read, held, ok_bind, Keeper.early]
  | some newest =>
      by_cases early : newest.updatedAt ≤ closeTime
      · simp [read, held, ok_bind, Keeper.early, early]
      · simp only [read, held, ok_bind, Keeper.early, early, if_false, Console.confirmed,
          decide_false, false_or, Bool.false_eq_true]
        by_cases bottom : floorOf feed latest closeTime = 0
        · simp [bottom]
        · simp only [if_neg bottom]
          cases feed (floorOf feed latest closeTime) with
          | none => rfl
          | some answer => rfl

/-- A search some of whose reads may fail returns this or nothing. -/
theorem keeper_found {read : Keeper.RoundReader} {result : Option Nat}
    (truthful : ∀ id round, read id = .ok round → round = feed id)
    (ran : Keeper.findCloseRoundFrom read (some latest) (feed latest) closeTime = .ok result) :
    result = closeRound feed latest closeTime := by
  have answers : ∀ id answer, Keeper.holds read closeTime id = .ok answer →
      answer = Keeper.early (feed id) closeTime := by
    intro id answer asked
    unfold Keeper.holds at asked
    cases told : read id with
    | error error =>
        rw [told] at asked
        cases asked
    | ok round =>
        rw [told] at asked
        rw [← truthful id round told]
        exact (Except.ok.inj asked).symm
  unfold Keeper.findCloseRoundFrom at ran
  unfold closeRound
  by_cases nothing : latest = 0
  · subst nothing
    simp only [if_true, Except.ok.injEq] at ran
    simp [floor_of_nothing, ran]
  · by_cases early : Keeper.early (feed latest) closeTime = true
    · simp only [if_neg nothing, early, if_true, Except.ok.injEq] at ran
      simp [early, ran]
    · simp only [if_neg nothing, if_neg early, bind_ok_iff, Keeper.wrap_ok_iff] at ran
      obtain ⟨lo, searched, confirmed⟩ := ran
      have floor : lo = floorOf feed latest closeTime := Bisection.search_ok answers searched
      rw [floor] at confirmed
      unfold Keeper.confirmed at confirmed
      by_cases bottom : floorOf feed latest closeTime = 0
      · rw [if_pos bottom] at confirmed
        rw [if_pos (Or.inr bottom)]
        exact (Except.ok.inj confirmed).symm
      · rw [if_neg bottom, bind_ok_iff] at confirmed
        obtain ⟨answer, told, given⟩ := confirmed
        rw [Keeper.wrap_ok_iff] at told
        rw [if_neg (by simp [early, bottom]), ← truthful _ _ told]
        exact (Except.ok.inj given).symm

/-- What is found can settle the round, whatever the feed looks like. -/
theorem close_round_brackets (found : closeRound feed latest closeTime = some id) :
    Brackets feed closeTime id := by
  unfold closeRound at found
  split at found
  · cases found
  · rename_i late
    rw [not_or] at late
    obtain ⟨late, above⟩ := late
    cases held : feed (floorOf feed latest closeTime) with
    | none => simp [held] at found
    | some round =>
        have same : floorOf feed latest closeTime = id := by simpa [held] using found
        have something : 0 < latest := by
          apply Nat.pos_of_ne_zero
          intro none_yet
          apply above
          rw [none_yet]
          exact floor_of_nothing feed closeTime
        rw [Bool.not_eq_true] at late
        obtain ⟨start, change⟩ := @Bisection.boundary_changes
          (fun id => Keeper.early (feed id) closeTime) 0 latest something late
        have reached : Keeper.early (feed (floorOf feed latest closeTime)) closeTime = true :=
          start.resolve_left above
        obtain ⟨next, held_next, after⟩ := late_of_early (Bool.not_eq_true _ ▸ change)
        rw [same] at held reached
        exact ⟨⟨round, held, (early_at held).mp reached⟩, next, same ▸ held_next, after⟩

section Ordered

variable (ordered : Ordered feed)

include ordered

theorem early_below (brackets : Brackets feed closeTime id) {probe : Nat} (below : probe ≤ id) :
    Keeper.early (feed probe) closeTime = true := by
  obtain ⟨⟨round, held, before⟩, _⟩ := brackets
  cases probed : feed probe with
  | none => rfl
  | some other =>
      have sorted := ordered probe id other round below probed held
      simp only [Keeper.early, decide_eq_true_eq]
      omega

theorem late_above (brackets : Brackets feed closeTime id) {probe : Nat} (above : id < probe) :
    Keeper.early (feed probe) closeTime = true ↔ feed probe = none := by
  obtain ⟨_, next, held, after⟩ := brackets
  cases probed : feed probe with
  | none => simp [Keeper.early]
  | some other =>
      have sorted := ordered (id + 1) probe next other above held probed
      simp only [Keeper.early, decide_eq_true_eq, reduceCtorEq, iff_false]
      omega

/-- A round that could settle is found exactly when the halving meets no hole
above it. -/
theorem close_round_eq_iff (brackets : Brackets feed closeTime id)
    (some_data : feed latest = some newest) (below : id < latest) :
    closeRound feed latest closeTime = some id ↔ id ≠ 0 ∧ ClearAbove feed latest id := by
  have published : ¬Keeper.early (feed latest) closeTime = true := by
    rw [late_above ordered brackets below, some_data]
    simp
  have reached : floorOf feed latest closeTime = id ↔ ClearAbove feed latest id := by
    unfold floorOf ClearAbove
    rw [Bisection.boundary_eq_iff (Nat.zero_le id) below]
    constructor
    · intro answers probe asked above empty
      have told := (answers probe asked).mp ((late_above ordered brackets above).mpr empty)
      omega
    · intro clear probe asked
      by_cases side : probe ≤ id
      · exact iff_of_true (early_below ordered brackets side) side
      · rw [late_above ordered brackets (by omega)]
        exact iff_of_false (clear probe asked (by omega)) side
  rw [← reached]
  constructor
  · intro found
    unfold closeRound at found
    split at found
    · cases found
    · rename_i above
      rw [not_or] at above
      cases held : feed (floorOf feed latest closeTime) with
      | none => simp [held] at found
      | some round =>
          have same : floorOf feed latest closeTime = id := by simpa [held] using found
          exact ⟨same ▸ above.2, same⟩
  · intro exact_floor
    obtain ⟨positive, same⟩ := exact_floor
    obtain ⟨⟨round, held, _⟩, _⟩ := brackets
    unfold closeRound
    rw [same, if_neg (by simp [published, positive]), held]
    rfl

end Ordered

theorem brackets_unique (ordered : Ordered feed) {other : Nat}
    (first : Brackets feed closeTime id) (second : Brackets feed closeTime other) :
    id = other := by
  apply Nat.le_antisymm
  · apply Nat.not_lt.mp
    intro below
    obtain ⟨⟨round, held, before⟩, _⟩ := first
    obtain ⟨_, next, held_next, after⟩ := second
    have sorted := ordered (other + 1) id next round below held_next held
    omega
  · apply Nat.not_lt.mp
    intro below
    obtain ⟨⟨round, held, before⟩, _⟩ := second
    obtain ⟨_, next, held_next, after⟩ := first
    have sorted := ordered (id + 1) other next round below held_next held
    omega

/-- Only ids up to the latest are asked about. -/
theorem close_round_congr {other : Feed} (same : ∀ id, id ≤ latest → feed id = other id) :
    closeRound feed latest closeTime = closeRound other latest closeTime := by
  have floors : floorOf feed latest closeTime = floorOf other latest closeTime := by
    apply Bisection.boundary_congr
    intro id _ below
    simp only [same id (by omega)]
  have reached : floorOf other latest closeTime ≤ latest := by
    by_cases nothing : latest = 0
    · rw [nothing, floor_of_nothing]
    · exact Nat.le_of_lt (Bisection.boundary_bounds (by omega)).2
  unfold closeRound
  rw [floors, same latest (Nat.le_refl _), same _ reached]

end Feed

end Ghoststake
