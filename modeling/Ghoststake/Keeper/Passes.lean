import Ghoststake.Keeper.Settlement
import Ghoststake.Library.Faulty

/-!
# The keeper's passes over a market

What one tick does for one market: read its rounds from the cursor up, move
the cursor over the settled ones at the front, and drive the others. Any call
can fail, and a failed read ends the pass where it is.
-/

namespace Ghoststake

set_option autoImplicit false

open Calls

namespace Keeper

def statusResolved : Status := 3

def statusVoid : Status := 4

def Round.Terminal (round : Round) : Prop :=
  round.status = statusResolved ∨ round.status = statusVoid

instance (round : Round) : Decidable round.Terminal :=
  inferInstanceAs (Decidable (_ ∨ _))

def Round.zero : Round where
  lockTime := 0
  closeTime := 0
  status := 0
  upPool := none
  downPool := none

structure Attempt where
  failures : Nat
  next : Nat

/-- The keeper's entries for one market; the last two fields note what its
passes have read and what they have called `driveRound` on. -/
structure Books where
  /-- Zero when there is none. -/
  cursor : Nat
  pending : Option Bool
  retry : Nat → Action → Option Attempt
  searched : Nat → Option SearchResult
  examined : List (Nat × Round)
  driven : List (Nat × Round)

/-- What is fixed about a market and the keeper that drives it. -/
structure Market (Address : Type) where
  timing : Timing
  event : Bool
  openRounds : Bool
  signer : Address
  pollInterval : Nat
  maxBackoff : Nat

/-- The market's rounds at a moment, and what calls made at it are answered. -/
structure Moment (Address : Type) where
  count : Nat
  rounds : Nat → Round
  roundCount : Except Failure Nat
  roundAt : Nat → Except Failure Round
  view : Nat → View Address
  send : Except Failure Unit
  openRound : Except Failure Unit
  wall : Nat

variable {Address : Type}

abbrev Steps (Address Value : Type) := Calls (Moment Address) Books Failure Value

/-! ## Backoff -/

def Books.setRetry (books : Books) (id : Nat) (action : Action) (attempt : Option Attempt) :
    Books :=
  { books with
    retry := Function.update books.retry id
      (Function.update (books.retry id) action attempt) }

def Books.ready (books : Books) (wall id : Nat) (action : Action) : Bool :=
  match books.retry id action with
  | none => true
  | some attempt => attempt.next ≤ wall

/-- `failed`: the wait doubles, up to the ninth failure and the cap. -/
def Books.failed (books : Books) (m : Market Address) (wall id : Nat) (action : Action) : Books :=
  let failures := match books.retry id action with
    | none => 1
    | some attempt => attempt.failures + 1
  let delay := m.pollInterval * 2 ^ min (failures - 1) 8
  books.setRetry id action (some ⟨failures, wall + min delay m.maxBackoff⟩)

def Books.setSearched (books : Books) (id : Nat) (memo : Option SearchResult) : Books :=
  { books with searched := Function.update books.searched id memo }

def Books.forget (books : Books) (id : Nat) : Books :=
  ((((books.setRetry id .lock none).setRetry id .resolve none).setRetry id .voidUnlocked
    none).setRetry id .voidUnsettled none).setSearched id none

/-! ## One round -/

def send (m : Market Address) (id : Nat) (action : Action) (method : String)
    (world : Moment Address) (books : Books) : Except Failure Unit × Books :=
  match world.send with
  | .error cause => (.error (.within method cause), books.failed m world.wall id action)
  | .ok () => (.ok (), books.setRetry id action none)

def transact (m : Market Address) (id : Nat) (world : Moment Address) (books : Books) :
    Except Failure (Option Sent) → Except Failure Unit × Books
  | .error error => (.error error, books)
  | .ok none => (.ok (), books)
  | .ok (some (.resolveRound _)) => send m id .resolve "resolveRound" world books
  | .ok (some .voidUnsettledRound) => send m id .voidUnsettled "voidUnsettledRound" world books

/-- `settle`, with the transaction it ends in. -/
def settleRound [DecidableEq Address] (m : Market Address) (id : Nat) (round : Round)
    (action : Action) (world : Moment Address) (books : Books) : Except Failure Unit × Books :=
  let settled := settle m.signer (world.view id) (books.searched id) round.closeTime.val action
  transact m id world (books.setSearched id settled.2) settled.1

def act [DecidableEq Address] (m : Market Address) (id : Nat) (round : Round) (action : Action)
    (world : Moment Address) (books : Books) : Except Failure Unit × Books :=
  if ¬books.ready world.wall id action then (.ok (), books)
  else
    match action with
    | .none => (.ok (), books)
    | .lock => send m id action "lockRound" world books
    | .voidUnlocked => send m id action "voidUnlockedRound" world books
    | .resolve | .voidUnsettled => settleRound m id round action world books

def Books.note (books : Books) (id : Nat) (round : Round) : Books :=
  { books with driven := books.driven ++ [(id, round)] }

def driveRound [DecidableEq Address] (m : Market Address) (now : Uint64) (id : Nat)
    (round : Round) : Steps Address Unit :=
  call fun world books =>
    let action := actionFor round m.timing now
    if action = .none then (.ok (), books.note id round)
    else act m id round action world (books.note id round)

/-! ## One pass -/

def Books.see (books : Books) (id : Nat) (round : Round) : Books :=
  { books with examined := books.examined ++ [(id, round)] }

def readRound (id : Nat) : Steps Address Round :=
  call fun world books =>
    match world.roundAt id with
    | .error cause => (.error (.within s!"read round {id}" cause), books)
    | .ok round => (.ok round, books.see id round)

/-- The cursor moves over a terminal round while all before it were. -/
def Books.passOver (books : Books) (id : Nat) (advance : Bool) : Books :=
  if advance then { books.forget id with cursor := id + 1 } else books

/-- The loop of `driveMarket`: the last round read, and whether all were terminal. -/
def examine [DecidableEq Address] (m : Market Address) (now : Uint64) (count : Nat) :
    List Nat → Round → Bool → Steps Address (Round × Bool)
  | [], latest, advance => pure (latest, advance)
  | id :: rest, latest, advance => do
      let round ← readRound id
      let latest := if id = count then round else latest
      if round.Terminal then do
        modify fun books => books.passOver id advance
        examine m now count rest latest advance
      else do
        swallow (driveRound m now id round)
        examine m now count rest latest false

def idsFrom (cursor count : Nat) : List Nat :=
  let first := if cursor = 0 then 1 else cursor
  List.range' first (count + 1 - first)

/-- `driveMarket` as far as its reads: it ends early exactly when one fails. -/
def sweep [DecidableEq Address] (m : Market Address) (now : Uint64) :
    Steps Address (Round × Bool) := do
  let count ← ask fun world _ => world.roundCount
  let cursor ← ask fun _ books => .ok books.cursor
  examine m now count (idsFrom cursor count) Round.zero true

def shouldOpen (m : Market Address) (retiring : Bool) (latest : Round) (now : Uint64) : Bool :=
  if ¬m.openRounds ∨ retiring then false
  else if m.event then false
  else needsNewRound latest m.timing.entryCutoff now

def driveMarket [DecidableEq Address] (m : Market Address) (retiring : Bool) (now : Uint64) :
    Steps Address Unit := do
  let (latest, advance) ← sweep m now
  modify fun books => { books with pending := some (!advance) }
  if shouldOpen m retiring latest now then ask fun world _ => world.openRound else pure ()

def forgotten : Books where
  cursor := 0
  pending := none
  retry _ _ := none
  searched _ := none
  examined := []
  driven := []

end Keeper

end Ghoststake
