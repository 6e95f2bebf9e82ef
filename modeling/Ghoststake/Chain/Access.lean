import Ghoststake.Chain.Revert
import Ghoststake.Library.Checked

/-!
# Owner, treasury and pause guardian

`Ownable` with `Treasured`, and `EntryPausable`: the administrative half of
the contracts. Nothing here touches a balance.
-/

namespace Ghoststake

set_option autoImplicit false

open Checked

structure Ownable (Address : Type) where
  owner : Address

structure Treasured (Address : Type) where
  owner : Address
  treasury : Address

structure EntryPausable (Address : Type) where
  entriesPaused : Bool
  pauseGuardian : Address

inductive AccessEvent (Address : Type) where
  | treasurySet (source target : Address)
  | ownershipTransferred (previousOwner newOwner : Address)
  | entriesPaused (caller : Address)
  | entriesUnpaused (caller : Address)
  | pauseGuardianTransferred (source target : Address)

namespace Ownable

variable {Address : Type} [DecidableEq Address] [Zero Address]

def deploy (initialOwner : Address) : Outcome Address (Ownable Address) := do
  require (initialOwner ≠ 0) (.ownableInvalidOwner initialOwner)
  .ok { owner := initialOwner }

def onlyOwner (access : Ownable Address) (sender : Address) : Outcome Address Unit :=
  require (sender = access.owner) (.ownableUnauthorizedAccount sender)

inductive Call (Address : Type) where
  | transferOwnership (newOwner : Address)
  | renounceOwnership

def exec (access : Ownable Address) (sender : Address) :
    Call Address → Outcome Address (Ownable Address × AccessEvent Address)
  | .transferOwnership newOwner => do
      access.onlyOwner sender
      require (newOwner ≠ 0) (.ownableInvalidOwner newOwner)
      .ok ({ owner := newOwner }, .ownershipTransferred access.owner newOwner)
  | .renounceOwnership => do
      access.onlyOwner sender
      .ok ({ owner := 0 }, .ownershipTransferred access.owner 0)

end Ownable

namespace Treasured

variable {Address : Type} [DecidableEq Address] [Zero Address]

def deploy (initialOwner : Address) : Outcome Address (Treasured Address) := do
  require (initialOwner ≠ 0) (.ownableInvalidOwner initialOwner)
  .ok { owner := initialOwner, treasury := initialOwner }

def onlyOwner (access : Treasured Address) (sender : Address) : Outcome Address Unit :=
  require (sender = access.owner) (.ownableUnauthorizedAccount sender)

inductive Call (Address : Type) where
  | setTreasury (target : Address)
  | transferOwnership (newOwner : Address)
  | renounceOwnership

def exec (access : Treasured Address) (sender : Address) :
    Call Address → Outcome Address (Treasured Address × AccessEvent Address)
  | .setTreasury target => do
      access.onlyOwner sender
      require (target ≠ 0) .zeroTreasury
      .ok ({ access with treasury := target }, .treasurySet access.treasury target)
  | .transferOwnership newOwner => do
      access.onlyOwner sender
      require (newOwner ≠ 0) (.ownableInvalidOwner newOwner)
      .ok ({ access with owner := newOwner }, .ownershipTransferred access.owner newOwner)
  | .renounceOwnership => do
      access.onlyOwner sender
      .ok ({ access with owner := 0 }, .ownershipTransferred access.owner 0)

/-- The treasury starts as a live owner and `setTreasury` refuses zero. -/
theorem exec_keeps_treasury_live {access : Treasured Address} {sender : Address}
    {call : Call Address} {after : Treasured Address × AccessEvent Address}
    (live : access.treasury ≠ 0) (ran : access.exec sender call = .ok after) :
    after.1.treasury ≠ 0 := by
  cases call with
  | setTreasury target =>
      simp only [exec, bind_ok_iff, require_ok_iff, exists_const, Except.ok.injEq] at ran
      obtain ⟨_, _, targetLive, rfl⟩ := ran
      exact targetLive
  | transferOwnership newOwner =>
      simp only [exec, bind_ok_iff, require_ok_iff, exists_const, Except.ok.injEq] at ran
      obtain ⟨_, _, _, rfl⟩ := ran
      exact live
  | renounceOwnership =>
      simp only [exec, bind_ok_iff, Except.ok.injEq] at ran
      obtain ⟨_, _, rfl⟩ := ran
      exact live

end Treasured

namespace EntryPausable

variable {Address : Type} [DecidableEq Address] [Zero Address]

def whenEntriesOpen (access : EntryPausable Address) : Outcome Address Unit :=
  require (access.entriesPaused = false) .entriesArePaused

def onlyPauseGuardian (access : EntryPausable Address) (sender : Address) :
    Outcome Address Unit :=
  require (sender = access.pauseGuardian) (.notPauseGuardian sender)

inductive Call (Address : Type) where
  | pauseEntries
  | unpauseEntries
  | transferPauseGuardian (target : Address)

def exec (access : EntryPausable Address) (sender : Address) :
    Call Address → Outcome Address (EntryPausable Address × AccessEvent Address)
  | .pauseEntries => do
      access.onlyPauseGuardian sender
      .ok ({ access with entriesPaused := true }, .entriesPaused sender)
  | .unpauseEntries => do
      access.onlyPauseGuardian sender
      .ok ({ access with entriesPaused := false }, .entriesUnpaused sender)
  | .transferPauseGuardian target => do
      access.onlyPauseGuardian sender
      -- handing the role to nobody mid-pause would leave entries refused forever
      require (¬(target = 0 ∧ access.entriesPaused = true)) .cannotRenounceWhilePaused
      .ok ({ access with pauseGuardian := target },
        .pauseGuardianTransferred access.pauseGuardian target)

end EntryPausable

end Ghoststake
