import Ghoststake.Chain.Access
import Ghoststake.Chain.Uint
import Ghoststake.Library.Machine

/-!
# MarketRegistry

The list of markets a deployment offers: an array of listings and an index
from a market to its place in it, which only the owner writes.
-/

namespace Ghoststake

set_option autoImplicit false

open Checked

namespace Registry

structure Listing (Address : Type) where
  market : Address
  router : Address
  horizon : Uint64
  enabled : Bool

inductive Event (Address : Type) where
  | marketListed (id : Nat) (market router : Address) (horizon : Uint64)
  | marketEnabledSet (id : Nat) (enabled : Bool)
  | marketHorizonSet (id : Nat) (horizon : Uint64)
  | access (event : AccessEvent Address)

/-- The errors of the registry, those it shares with other contracts, and a
call it makes that reverts. -/
inductive Refusal (Address : Type) where
  | alreadyListed (market : Address)
  | unknownListing (id : Nat)
  | routerServesAnotherMarket (router itsMarket : Address)
  | routerNotWhitelisted (market router : Address)
  | zeroHorizon
  | shared (revert : Revert Address)
  | callee

structure State (Address : Type) extends Ownable Address where
  listings : List (Listing Address)
  indexPlusOne : Address → Nat
  logs : List (Event Address)

variable {Address : Type}

def deployed (initialOwner : Address) : State Address where
  owner := initialOwner
  listings := []
  indexPlusOne _ := 0
  logs := []

/-! ## Reads -/

def count (s : State Address) : Nat := s.listings.length

/-- `at` -/
def listingAt (s : State Address) (id : Nat) : Except (Refusal Address) (Listing Address) :=
  match s.listings[id]? with
  | none => .error (.unknownListing id)
  | some listing => .ok listing

def all (s : State Address) : List (Listing Address) := s.listings

def find (s : State Address) (market : Address) : Bool × Nat :=
  if s.indexPlusOne market = 0 then (false, 0) else (true, s.indexPlusOne market - 1)

/-! ## Writes -/

variable [DecidableEq Address] [Zero Address]

def onlyOwner (s : State Address) (sender : Address) : Except (Refusal Address) Unit :=
  (s.toOwnable.onlyOwner sender).mapError .shared

def asked {Value : Type} : Option Value → Except (Refusal Address) Value
  | none => .error .callee
  | some value => .ok value

/-- What is called answers `router.market()` and `market.isRouter(router)`;
nothing where the call reverts. -/
def list (sender market router : Address) (horizon : Uint64) (marketOf : Option Address)
    (isRouter : Option Bool) (s : State Address) :
    Except (Refusal Address) (Nat × State Address) := do
  onlyOwner s sender
  require (market ≠ 0 ∧ router ≠ 0) (.shared .zeroAddress)
  require (horizon.val ≠ 0) .zeroHorizon
  require (s.indexPlusOne market = 0) (.alreadyListed market)
  let itsMarket ← asked marketOf
  require (itsMarket = market) (.routerServesAnotherMarket router itsMarket)
  let whitelisted ← asked isRouter
  require (whitelisted = true) (.routerNotWhitelisted market router)
  let id := s.listings.length
  .ok (id, { s with
    listings := s.listings ++ [⟨market, router, horizon, true⟩]
    indexPlusOne := Function.update s.indexPlusOne market (id + 1)
    logs := s.logs ++ [.marketListed id market router horizon] })

def setEnabled (sender : Address) (id : Nat) (enabled : Bool) (s : State Address) :
    Except (Refusal Address) (State Address) := do
  onlyOwner s sender
  require (id < s.listings.length) (.unknownListing id)
  .ok { s with
    listings := s.listings.modify id fun listing => { listing with enabled := enabled }
    logs := s.logs ++ [.marketEnabledSet id enabled] }

def setHorizon (sender : Address) (id : Nat) (horizon : Uint64) (s : State Address) :
    Except (Refusal Address) (State Address) := do
  onlyOwner s sender
  require (id < s.listings.length) (.unknownListing id)
  require (horizon.val ≠ 0) .zeroHorizon
  .ok { s with
    listings := s.listings.modify id fun listing => { listing with horizon := horizon }
    logs := s.logs ++ [.marketHorizonSet id horizon] }

inductive Call (Address : Type) where
  | list (market router : Address) (horizon : Uint64)
  | setEnabled (id : Nat) (enabled : Bool)
  | setHorizon (id : Nat) (horizon : Uint64)
  | access (call : Ownable.Call Address)

/-- A call, with what the market is asked and answers at that moment. -/
structure Request (Address : Type) where
  sender : Address
  call : Call Address
  isRouter : Option Bool

/-- The market a router was built for never changes. -/
def exec (marketOf : Address → Option Address) (s : State Address) (request : Request Address) :
    Except (Refusal Address) (State Address) :=
  match request.call with
  | .list market router horizon =>
      (list request.sender market router horizon (marketOf router) request.isRouter s).map Prod.snd
  | .setEnabled id enabled => setEnabled request.sender id enabled s
  | .setHorizon id horizon => setHorizon request.sender id horizon s
  | .access call =>
      match s.toOwnable.exec request.sender call with
      | .error revert => .error (.shared revert)
      | .ok (access, event) =>
          .ok { s with toOwnable := access, logs := s.logs ++ [.access event] }

def machine (marketOf : Address → Option Address) : Machine (State Address) (Request Address) where
  initial s := ∃ initialOwner ≠ 0, s = deployed initialOwner
  step s request next := exec marketOf s request = .ok next

/-! ## The list as its logs tell it -/

omit [DecidableEq Address] [Zero Address] in
/-- One log, read by whoever keeps a copy of the list. -/
def relist (listings : List (Listing Address)) : Event Address → List (Listing Address)
  | .marketListed _ market router horizon => listings ++ [⟨market, router, horizon, true⟩]
  | .marketEnabledSet id enabled =>
      listings.modify id fun listing => { listing with enabled := enabled }
  | .marketHorizonSet id horizon =>
      listings.modify id fun listing => { listing with horizon := horizon }
  | .access _ => listings

omit [DecidableEq Address] [Zero Address] in
def relisted (logs : List (Event Address)) : List (Listing Address) := logs.foldl relist []

/-! ## Steps -/

/-- A listing may be hidden or shown and its horizon restated, no more. -/
structure Listing.Restated (listing after : Listing Address) : Prop where
  market : after.market = listing.market
  router : after.router = listing.router

/-- What every call leaves: the owner's word, a listing restated, or one more. -/
inductive Written (marketOf : Address → Option Address) (sender : Address)
    (s next : State Address) : Prop where
  | listed (listing : Listing Address) (owner : sender = s.owner) (market : listing.market ≠ 0)
      (router : listing.router ≠ 0) (horizon : listing.horizon.val ≠ 0)
      (new : s.indexPlusOne listing.market = 0)
      (serves : marketOf listing.router = some listing.market)
      (enabled : listing.enabled = true)
      (same : next = { s with
        listings := s.listings ++ [listing]
        indexPlusOne := Function.update s.indexPlusOne listing.market (s.listings.length + 1)
        logs := s.logs ++
          [.marketListed s.listings.length listing.market listing.router listing.horizon] })
  | restated (id : Nat) (change : Listing Address → Listing Address) (event : Event Address)
      (owner : sender = s.owner) (within : id < s.listings.length)
      (restates : ∀ listing : Listing Address, listing.Restated (change listing))
      (horizon : ∀ listing : Listing Address, listing.horizon.val ≠ 0 → (change listing).horizon.val ≠ 0)
      (told : ∀ listings, relist listings event = listings.modify id change)
      (same : next = { s with
        listings := s.listings.modify id change, logs := s.logs ++ [event] })
  | access (access : Ownable Address) (event : AccessEvent Address) (owner : sender = s.owner)
      (same : next = { s with toOwnable := access, logs := s.logs ++ [.access event] })

section Steps

variable {marketOf : Address → Option Address} {s next : State Address} {request : Request Address}

omit [Zero Address] in
theorem only_owner_ok_iff {sender : Address} (done : Unit) :
    onlyOwner s sender = .ok done ↔ sender = s.owner := by
  rw [onlyOwner, Ownable.onlyOwner, require]
  split_ifs with owner
  · exact iff_of_true rfl owner
  · exact iff_of_false (fun ran => by cases ran) owner

omit [DecidableEq Address] [Zero Address] in
theorem asked_ok_iff {Value : Type} {answer : Option Value} {value : Value} :
    (asked answer : Except (Refusal Address) Value) = .ok value ↔ answer = some value := by
  cases answer with
  | none => exact iff_of_false (fun ran => by cases ran) (fun same => by cases same)
  | some known => exact ⟨fun ran => congrArg some (Except.ok.inj ran),
      fun same => congrArg Except.ok (Option.some.inj same)⟩

theorem written_of_exec (ran : exec marketOf s request = .ok next) :
    Written marketOf request.sender s next := by
  obtain ⟨sender, call, isRouter⟩ := request
  cases call with
  | list market router horizon =>
      simp only [exec, list, map_ok_iff, bind_ok_iff, require_ok_iff, exists_const,
        only_owner_ok_iff, asked_ok_iff] at ran
      obtain ⟨_, ⟨owner, ⟨live, routed⟩, timed, new, itsMarket, asked, rfl, whitelisted, _, _, ran⟩,
        rfl⟩ := ran
      rw [← Except.ok.inj ran]
      exact .listed ⟨itsMarket, router, horizon, true⟩ owner live routed timed new asked rfl rfl
  | setEnabled id enabled =>
      simp only [exec, setEnabled, bind_ok_iff, require_ok_iff, exists_const, only_owner_ok_iff,
        Except.ok.injEq] at ran
      obtain ⟨owner, within, rfl⟩ := ran
      exact .restated id (fun listing => { listing with enabled := enabled }) _ owner within
        (fun _ => ⟨rfl, rfl⟩) (fun _ timed => timed) (fun _ => rfl) rfl
  | setHorizon id horizon =>
      simp only [exec, setHorizon, bind_ok_iff, require_ok_iff, exists_const, only_owner_ok_iff,
        Except.ok.injEq] at ran
      obtain ⟨owner, within, timed, rfl⟩ := ran
      exact .restated id (fun listing => { listing with horizon := horizon }) _ owner within
        (fun _ => ⟨rfl, rfl⟩) (fun _ _ => timed) (fun _ => rfl) rfl
  | access call =>
      simp only [exec] at ran
      cases changed : s.toOwnable.exec sender call with
      | error revert =>
          rw [changed] at ran
          cases ran
      | ok after =>
          rw [changed] at ran
          rw [← Except.ok.inj ran]
          refine .access after.1 after.2 ?_ rfl
          cases call with
          | transferOwnership newOwner =>
              simp only [Ownable.exec, bind_ok_iff, Ownable.onlyOwner, require_ok_iff,
                exists_const] at changed
              exact changed.1
          | renounceOwnership =>
              simp only [Ownable.exec, bind_ok_iff, Ownable.onlyOwner, require_ok_iff,
                exists_const] at changed
              exact changed.1

end Steps

end Registry

end Ghoststake
