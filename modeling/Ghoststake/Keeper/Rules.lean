import Ghoststake.Market.Model

/-!
# The rules of a round, twice more

What the keeper does next for a round, and what the operator console offers to
do: two restatements of the guards of `ParimutuelRound`, one over 64-bit words
that wrap and one over integers that do not.
-/

namespace Ghoststake

set_option autoImplicit false

/-- The one thing a round needs next; both sides spell the five values alike. -/
inductive Keeper.Action where
  | none | lock | resolve | voidUnsettled | voidUnlocked
  deriving DecidableEq, Repr

/-! ## As the contract encodes them -/

def Market.Status.code : Market.Status → Fin 256
  | .none => 0
  | .open => 1
  | .locked => 2
  | .resolved => 3
  | .void => 4

/-! ## The keeper -/

namespace Keeper

/-- A `Status` is a `uint8`, and only these five values have names. -/
abbrev Status := Fin 256

def statusOpen : Status := 1

def statusLocked : Status := 2

/-- The fields of `Round` its rules read; a pool may be a nil pointer. -/
structure Round where
  lockTime : Uint64
  closeTime : Uint64
  status : Status
  upPool : Option Nat
  downPool : Option Nat

structure Timing where
  entryCutoff : Uint64
  lockWindow : Uint64
  resolveDeadline : Uint64
  minSidePool : Option Nat

structure Schedule where
  openTime : Uint64
  lockTime : Uint64
  closeTime : Uint64

def actionFor (r : Round) (t : Timing) (now : Uint64) : Action :=
  if r.status = statusOpen then
    if now < r.lockTime then .none
    else if r.lockTime + t.lockWindow < now then .voidUnlocked
    else .lock
  else if r.status = statusLocked then
    if now < r.closeTime then .none
    else if r.closeTime + t.resolveDeadline < now then .voidUnsettled
    else .resolve
  else .none

def thin (r : Round) (minSidePool : Option Nat) : Bool :=
  match minSidePool, r.upPool, r.downPool with
  | some least, some up, some down => up < least ∨ down < least
  | _, _, _ => false

def nextSchedule (now lead entryWindow observation : Uint64) : Schedule :=
  let openTime := now + lead
  let lockTime := openTime + entryWindow
  { openTime := openTime, lockTime := lockTime, closeTime := lockTime + observation }

def scheduleProblem (s : Schedule) (entryCutoff now : Uint64) : String :=
  if s.openTime < now then "open time is in the past"
  else if s.lockTime ≤ s.openTime + entryCutoff then
    "entry window is not longer than the entry cutoff, " ++
      "so the round would open with entry already closed"
  else if s.closeTime ≤ s.lockTime then "observation window is not longer than zero"
  else ""

def needsNewRound (latest : Round) (entryCutoff now : Uint64) : Bool :=
  if latest.status ≠ statusOpen then true else latest.lockTime ≤ now + entryCutoff

/-- The entry window a market is run with, when its operator names none. -/
def entryWindowOf (horizon entryWindow : Uint64) : Uint64 :=
  if entryWindow = 0 then horizon / 2 else entryWindow

def splitHorizon (horizon entryWindow entryCutoff : Uint64) : Except String (Uint64 × Uint64) :=
  let entryWindow := entryWindowOf horizon entryWindow
  if entryWindow ≤ entryCutoff then
    .error (s!"an entry window of {entryWindow}s is not longer than the " ++
      s!"{entryCutoff}s entry cutoff, so rounds would open with entry already closed")
  else if horizon ≤ entryWindow then
    .error (s!"an entry window of {entryWindow}s inside a {horizon}s horizon " ++
      "leaves no observation window")
  else .ok (entryWindow, horizon - entryWindow)

end Keeper

/-! ## The console -/

namespace Console

def statusOpen : Nat := 1

def statusLocked : Nat := 2

structure Round where
  lockTime : Int
  closeTime : Int
  status : Nat
  upPool : Int
  downPool : Int

structure Timing where
  entryCutoff : Int
  lockWindow : Int
  resolveDeadline : Int

structure Schedule where
  openTime : Int
  lockTime : Int
  closeTime : Int

/-- A text of the console's catalogue, with what is filled into it. -/
structure Message where
  key : String
  values : List (String × String)
  deriving DecidableEq

def actionFor (round : Round) (phase : Phase) (timing : Timing) (now : Int) : Keeper.Action :=
  if phase = .resolved ∨ phase = .void ∨ phase = .none then .none
  else if round.status = statusOpen then
    if now < round.lockTime then .none
    else if round.lockTime + timing.lockWindow < now then .voidUnlocked
    else .lock
  else if round.status = statusLocked then
    if now < round.closeTime then .none
    else if round.closeTime + timing.resolveDeadline < now then .voidUnsettled
    else .resolve
  else .none

def willVoidOnLock (round : Round) (minSidePool : Int) : Bool :=
  round.upPool < minSidePool ∨ round.downPool < minSidePool

def scheduleFrom (now leadSeconds entryWindow observation : Int) : Schedule :=
  let openTime := now + leadSeconds
  { openTime := openTime
    lockTime := openTime + entryWindow
    closeTime := openTime + entryWindow + observation }

def scheduleProblem (schedule : Schedule) (entryCutoff now : Int) : Option Message :=
  if schedule.openTime < now then some ⟨"operator.schedule.past", []⟩
  else if schedule.lockTime ≤ schedule.openTime + entryCutoff then
    some ⟨"operator.schedule.entryTooShort", [("cutoff", toString entryCutoff)]⟩
  else if schedule.closeTime ≤ schedule.lockTime then
    some ⟨"operator.schedule.noObservation", []⟩
  else none

end Console

end Ghoststake
