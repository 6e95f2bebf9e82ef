import Ghoststake.Keeper.Passes
import Ghoststake.Registry.Runs

/-!
# Which markets the registry says to drive

The keeper reads the registry one call at a time while its owner goes on
writing to it. What it comes away with lists each market once, under what the
registry said when that listing was read.
-/

namespace Ghoststake

set_option autoImplicit false

open Calls

namespace Keeper

/-- What `LoadMarket` reads off the chain, once for a market. -/
structure Loaded where
  timing : Timing
  event : Bool

structure Driven (Address : Type) where
  address : Address
  timing : Timing
  event : Bool
  horizon : Uint64

/-- The registry at a moment, and which calls made at it get through. -/
structure Listings (Address : Type) where
  registry : Registry.State Address
  count : Except Failure Unit
  listing : Nat → Except Failure Unit
  loadMarket : Address → Except Failure Loaded

/-- The `loaded` of a `Source`. -/
abbrev Source (Address : Type) : Type := Address → Option (Driven Address)

abbrev Reading (Address Value : Type) : Type :=
  Calls (Listings Address) (Source Address) Failure Value

variable {Address : Type}

def readCount : Reading Address Nat :=
  ask fun world _ =>
    match world.count with
    | .error cause => .error (.within "read registry" cause)
    | .ok () => .ok (Registry.count world.registry)

/-- The call reverts where the registry knows no such listing. -/
def readListing (id : Nat) : Reading Address (Registry.Listing Address) :=
  ask fun world _ =>
    match world.listing id with
    | .error cause => .error (.within s!"read registry listing {id}" cause)
    | .ok () =>
        match Registry.listingAt world.registry id with
        | .error _ => .error (.within s!"read registry listing {id}" (.call "reverted"))
        | .ok listing => .ok listing

variable [DecidableEq Address]

/-- What is loaded keeps everything but its horizon. -/
def load (id : Nat) (address : Address) (horizon : Uint64) : Reading Address (Driven Address) :=
  call fun world source =>
    match source address with
    | some cached =>
        let m := { cached with horizon := horizon }
        (.ok m, Function.update source address (some m))
    | none =>
        match world.loadMarket address with
        | .error cause => (.error (.within s!"load listed market {id}" cause), source)
        | .ok read =>
            let m := ⟨address, read.timing, read.event, horizon⟩
            (.ok m, Function.update source address (some m))

def visit : List Nat → List (Driven Address) → Reading Address (List (Driven Address))
  | [], out => pure out
  | id :: rest, out => do
      let listing ← readListing id
      if listing.enabled then do
        let m ← load id listing.market listing.horizon
        visit rest (out ++ [m])
      else visit rest out

def fromRegistry : Reading Address (List (Driven Address)) := do
  let count ← readCount
  visit (List.range count) []

/-! ## What a reading has seen -/

section Readings

variable [Zero Address] {marketOf : Address → Option Address} {world : Nat → Listings Address}

/-- The registry's owner writes to it between the calls. -/
structure Moving (marketOf : Address → Option Address) (world : Nat → Listings Address) :
    Prop where
  reached : ∀ tick, (Registry.machine marketOf).Reachable (world tick).registry
  path : ∀ tick later, tick ≤ later →
    (Registry.machine marketOf).Path (world tick).registry (world later).registry

omit [DecidableEq Address] [Zero Address] in
def Enabled (registry : Registry.State Address) (address : Address) : Prop :=
  ∃ listing ∈ registry.listings, listing.market = address ∧ listing.enabled = true

/-- The cache of a source knows its markets by their addresses. -/
def Keyed (source : Source Address) : Prop :=
  ∀ address m, source address = some m → m.address = address

/-- The listing with this id, as it was read between two ticks. -/
def ReadAs (world : Nat → Listings Address) (start clock id : Nat)
    (listing : Registry.Listing Address) : Prop :=
  ∃ tick, start ≤ tick ∧ tick < clock ∧ (world tick).registry.listings[id]? = some listing

/-- The last call made went unanswered, and the failure is of that call: the first,
for the number of listings, or one for a listing below that number, or one for a
market whose listing was read and shown. -/
inductive Unanswered (world : Nat → Listings Address) (start : Nat) : Failure → Nat → Prop
  | count {cause : Failure} : (world start).count = .error cause →
      Unanswered world start (.within "read registry" cause) (start + 1)
  | listing {tick id : Nat} {cause : Failure} : start < tick →
      id < Registry.count (world start).registry → (world tick).listing id = .error cause →
      Unanswered world start (.within s!"read registry listing {id}" cause) (tick + 1)
  | market {tick id : Nat} {listing : Registry.Listing Address} {cause : Failure} :
      ReadAs world start tick id listing → listing.enabled = true →
      (world tick).loadMarket listing.market = .error cause →
      Unanswered world start (.within s!"load listed market {id}" cause) (tick + 1)

def Stopped (world : Nat → Listings Address) (start : Nat) (failure : Failure) (clock : Nat)
    (source : Source Address) : Prop :=
  Keyed source ∧ Unanswered world start failure clock

structure Visited (world : Nat → Listings Address) (start done : Nat) (out : List (Driven Address))
    (clock : Nat) (source : Source Address) : Prop where
  begun : start < clock
  listed : ∀ m ∈ out, ∃ id < done, ∃ listing, ReadAs world start clock id listing ∧
    listing.enabled = true ∧ listing.market = m.address ∧ listing.horizon = m.horizon
  complete : ∀ id < done, ∃ listing, ReadAs world start clock id listing ∧
    (listing.enabled = false ∨ listing.market ∈ out.map Driven.address)
  nodup : (out.map Driven.address).Nodup
  cached : ∀ m ∈ out, source m.address = some m
  keyed : Keyed source

omit [DecidableEq Address] [Zero Address] in
theorem Unanswered.begun {start clock : Nat} {failure : Failure}
    (unanswered : Unanswered world start failure clock) : start < clock := by
  cases unanswered with
  | count _ => exact Nat.lt_succ_self start
  | listing order _ _ => exact Nat.lt_succ_of_lt order
  | market read _ _ =>
      obtain ⟨_, since, before, _⟩ := read
      omega

omit [DecidableEq Address] [Zero Address] in
theorem ReadAs.later {start clock later id : Nat} {listing : Registry.Listing Address}
    (read : ReadAs world start clock id listing) (order : clock ≤ later) :
    ReadAs world start later id listing := by
  obtain ⟨tick, since, before, found⟩ := read
  exact ⟨tick, since, by omega, found⟩

omit [DecidableEq Address] [Zero Address] in
theorem Visited.later {start done clock later : Nat} {out : List (Driven Address)}
    {source : Source Address} (visited : Visited world start done out clock source)
    (order : clock ≤ later) : Visited world start done out later source where
  begun := by
    have began := visited.begun
    omega
  listed m member := by
    obtain ⟨id, below, listing, read, rest⟩ := visited.listed m member
    exact ⟨id, below, listing, read.later order, rest⟩
  complete id below := by
    obtain ⟨listing, read, rest⟩ := visited.complete id below
    exact ⟨listing, read.later order, rest⟩
  nodup := visited.nodup
  cached := visited.cached
  keyed := visited.keyed

/-- A listing is of one market for good, and the market's only one. -/
theorem id_of_read (moving : Moving marketOf world) {start clock id id' : Nat}
    {listing listing' : Registry.Listing Address} (read : ReadAs world start clock id listing)
    (read' : ReadAs world start clock id' listing') (same : listing.market = listing'.market) :
    id = id' := by
  have placed {id : Nat} {listing : Registry.Listing Address}
      (read : ReadAs world start clock id listing) :
      Registry.Places (world clock).registry listing.market id := by
    obtain ⟨tick, _, before, found⟩ := read
    have kept := Registry.extends_of_path (moving.path tick clock (Nat.le_of_lt before))
    obtain ⟨after, held, restated⟩ := kept id listing found
    exact ⟨after, held, restated.market⟩
  have indexed := Registry.indexed_of_reachable (moving.reached clock)
  have first := (indexed.placed _ _).2 (placed read)
  have second := (indexed.placed _ _).2 (placed read')
  rw [same] at first
  omega

/-! ## One listing -/

omit [DecidableEq Address] [Zero Address] in
theorem triple_read_listing {start done : Nat} {out : List (Driven Address)}
    (within : ∀ tick, start ≤ tick → done < (world tick).registry.listings.length) :
    Triple world (Visited world start done out) (readListing done)
      (fun listing clock source => Visited world start done out clock source ∧
        ReadAs world start clock done listing)
      (Stopped world start) := by
  apply triple_ask
  · intro clock source listing visited answered
    have since := Nat.le_of_lt visited.begun
    refine ⟨visited.later (Nat.le_succ clock), clock, since, Nat.lt_succ_self clock, ?_⟩
    cases through : (world clock).listing done with
    | error cause =>
        simp only [through] at answered
        cases answered
    | ok _ =>
        have known := List.getElem?_eq_getElem (within clock since)
        simp only [through, Registry.listingAt, known] at answered
        rw [known, Except.ok.inj answered]
  · intro clock source error visited answered
    refine ⟨visited.keyed, ?_⟩
    cases through : (world clock).listing done with
    | error cause =>
        simp only [through] at answered
        cases answered
        exact .listing visited.begun (within start (Nat.le_refl start)) through
    | ok _ =>
        have known := List.getElem?_eq_getElem (within clock (Nat.le_of_lt visited.begun))
        simp only [through, Registry.listingAt, known] at answered
        cases answered

omit [DecidableEq Address] [Zero Address] in
theorem visited_of_hidden {start done clock : Nat} {out : List (Driven Address)}
    {source : Source Address} {listing : Registry.Listing Address}
    (visited : Visited world start done out clock source)
    (read : ReadAs world start clock done listing) (hidden : listing.enabled = false) :
    Visited world start (done + 1) out clock source where
  begun := visited.begun
  listed m member := by
    obtain ⟨id, below, rest⟩ := visited.listed m member
    exact ⟨id, Nat.lt_succ_of_lt below, rest⟩
  complete id below := by
    rcases Nat.lt_succ_iff_lt_or_eq.1 below with earlier | rfl
    · exact visited.complete id earlier
    · exact ⟨listing, read, .inl hidden⟩
  nodup := visited.nodup
  cached := visited.cached
  keyed := visited.keyed

theorem visited_of_shown (moving : Moving marketOf world) {start done clock : Nat}
    {out : List (Driven Address)} {source : Source Address} {listing : Registry.Listing Address}
    {m : Driven Address} (visited : Visited world start done out clock source)
    (read : ReadAs world start clock done listing) (shown : listing.enabled = true)
    (named : m.address = listing.market) (horizon : m.horizon = listing.horizon) :
    Visited world start (done + 1) (out ++ [m]) clock
      (Function.update source listing.market (some m)) := by
  have new : listing.market ∉ out.map Driven.address := by
    intro twice
    obtain ⟨other, member, same⟩ := List.mem_map.1 twice
    obtain ⟨id, below, listing', read', _, market, _⟩ := visited.listed other member
    have one := id_of_read moving read read' (same.symm.trans market.symm)
    omega
  constructor
  · exact visited.begun
  · intro other member
    rcases List.mem_append.1 member with old | last
    · obtain ⟨id, below, rest⟩ := visited.listed other old
      exact ⟨id, Nat.lt_succ_of_lt below, rest⟩
    · rw [List.mem_singleton.1 last]
      exact ⟨done, Nat.lt_succ_self done, listing, read, shown, named.symm, horizon.symm⟩
  · intro id below
    rw [List.map_append]
    rcases Nat.lt_succ_iff_lt_or_eq.1 below with earlier | rfl
    · obtain ⟨other, seen, either⟩ := visited.complete id earlier
      exact ⟨other, seen, either.imp_right (List.mem_append_left _)⟩
    · refine ⟨listing, read, .inr (List.mem_append_right _ ?_)⟩
      rw [← named]
      exact List.mem_singleton_self _
  · rw [List.map_append, List.nodup_append]
    refine ⟨visited.nodup, List.nodup_singleton _, ?_⟩
    intro a left b right same
    rw [List.mem_singleton.1 right, named] at same
    exact new (same ▸ left)
  · intro other member
    rcases List.mem_append.1 member with old | last
    · have apart : other.address ≠ listing.market := fun same => new (same ▸ List.mem_map_of_mem old)
      rw [Function.update_of_ne apart]
      exact visited.cached other old
    · rw [List.mem_singleton.1 last, named, Function.update_self]
  · intro address other held
    by_cases here : address = listing.market
    · rw [here, Function.update_self] at held
      rw [← Option.some.inj held, named, here]
    · rw [Function.update_of_ne here] at held
      exact visited.keyed address other held

theorem triple_load (moving : Moving marketOf world) {start done : Nat}
    {out : List (Driven Address)} {listing : Registry.Listing Address}
    (shown : listing.enabled = true) :
    Triple world (fun clock source => Visited world start done out clock source ∧
        ReadAs world start clock done listing)
      (load done listing.market listing.horizon)
      (fun m => Visited world start (done + 1) (out ++ [m]))
      (Stopped world start) := by
  apply triple_call
  intro clock source holds
  obtain ⟨visited, read⟩ := holds
  have later := visited.later (Nat.le_succ clock)
  have seen := read.later (Nat.le_succ clock)
  cases held : source listing.market with
  | some cached =>
      have named : cached.address = listing.market := visited.keyed _ _ held
      exact visited_of_shown moving later seen shown named rfl
  | none =>
      cases answered : (world clock).loadMarket listing.market with
      | error cause => exact ⟨visited.keyed, .market read shown answered⟩
      | ok loaded => exact visited_of_shown moving later seen shown rfl rfl

/-! ## The whole reading -/

theorem triple_visit (moving : Moving marketOf world) {start : Nat} (length : Nat)
    {done : Nat} {out : List (Driven Address)}
    (within : ∀ tick, start ≤ tick → done + length ≤ (world tick).registry.listings.length) :
    Triple world (Visited world start done out) (visit (List.range' done length) out)
      (fun found => Visited world start (done + length) found)
      (Stopped world start) := by
  induction length generalizing done out with
  | zero =>
      apply triple_pure
      intro clock source visited
      exact visited
  | succ length induction =>
      have rest : done + (length + 1) = done + 1 + length := by omega
      have next {out : List (Driven Address)} :
          Triple world (Visited world start (done + 1) out)
            (visit (List.range' (done + 1) length) out)
            (fun found => Visited world start (done + (length + 1)) found)
            (Stopped world start) := by
        rw [rest]
        apply induction
        intro tick since
        have enough := within tick since
        omega
      rw [List.range'_succ]
      apply triple_bind (triple_read_listing fun tick since => by
        have enough := within tick since
        omega)
      intro listing
      cases shown : listing.enabled with
      | false =>
          simp only [Bool.false_eq_true, if_false]
          apply triple_weaken next
          · exact fun clock source holds => visited_of_hidden holds.1 holds.2 shown
          · exact fun _ _ _ found => found
          · exact fun _ _ _ stopped => stopped
      | true =>
          simp only [if_true]
          exact triple_bind (triple_load moving shown) fun m => next

theorem triple_from_registry (moving : Moving marketOf world) (start : Nat) :
    Triple world (fun clock source => clock = start ∧ Keyed source) fromRegistry
      (fun out => Visited world start (Registry.count (world start).registry) out)
      (Stopped world start) := by
  have counts : Triple world (fun clock source => clock = start ∧ Keyed source)
      (readCount : Reading Address Nat)
      (fun count clock source =>
        count = Registry.count (world start).registry ∧ start < clock ∧ Keyed source)
      (Stopped world start) := by
    apply triple_ask
    · intro clock source count begins answered
      obtain ⟨rfl, keyed⟩ := begins
      cases through : (world clock).count with
      | error cause =>
          simp only [through] at answered
          cases answered
      | ok _ =>
          simp only [through] at answered
          exact ⟨(Except.ok.inj answered).symm, Nat.lt_succ_self clock, keyed⟩
    · intro clock source error begins answered
      obtain ⟨rfl, keyed⟩ := begins
      refine ⟨keyed, ?_⟩
      cases through : (world clock).count with
      | error cause =>
          simp only [through] at answered
          cases answered
          exact .count through
      | ok _ =>
          simp only [through] at answered
          cases answered
  apply triple_bind counts
  intro count
  by_cases same : count = Registry.count (world start).registry
  · subst same
    rw [List.range_eq_range']
    have within (tick : Nat) (since : start ≤ tick) :
        0 + Registry.count (world start).registry ≤ (world tick).registry.listings.length := by
      rw [Nat.zero_add]
      exact (Registry.extends_of_path (moving.path start tick since)).count_le
    apply triple_weaken (triple_visit moving _ within)
    · intro clock source begins
      refine ⟨begins.2.1, ?_, ?_, List.nodup_nil, ?_, begins.2.2⟩
      · intro m member
        cases member
      · intro id below
        exact absurd below (Nat.not_lt_zero id)
      · intro m member
        cases member
    · intro out clock source visited
      rw [Nat.zero_add] at visited
      exact visited
    · exact fun _ _ _ stopped => stopped
  · intro clock source begins
    exact absurd begins.1 same

/-- What is not handed out was hidden, or not listed yet, at some moment. -/
theorem hidden_of_visited (moving : Moving marketOf world) {start clock : Nat}
    {out : List (Driven Address)} {source : Source Address} {address : Address}
    (visited : Visited world start (Registry.count (world start).registry) out clock source)
    (absent : address ∉ out.map Driven.address) :
    ∃ tick, start ≤ tick ∧ tick < clock ∧ ¬Enabled (world tick).registry address := by
  by_cases known : ∃ id, Registry.Places (world start).registry address id
  · obtain ⟨id, first, found, named⟩ := known
    have below : id < Registry.count (world start).registry :=
      (List.getElem?_eq_some_iff.1 found).1
    obtain ⟨listing, ⟨tick, since, before, held⟩, either⟩ := visited.complete id below
    have read : ReadAs world start clock id first := ⟨start, Nat.le_refl start, visited.begun, found⟩
    have kept := Registry.extends_of_path (moving.path start tick since)
    obtain ⟨after, there, restated⟩ := kept id first found
    have market : listing.market = address := by
      rw [there] at held
      rw [← Option.some.inj held, restated.market, named]
    have hidden := either.resolve_right fun handed => absent (market ▸ handed)
    refine ⟨tick, since, before, ?_⟩
    rintro ⟨other, member, same, shown⟩
    obtain ⟨place, elsewhere⟩ := List.getElem?_of_mem member
    have here : ReadAs world start clock place other := ⟨tick, since, before, elsewhere⟩
    have one := id_of_read moving here ⟨tick, since, before, held⟩ (same.trans market.symm)
    rw [one, held] at elsewhere
    rw [← Option.some.inj elsewhere, hidden] at shown
    cases shown
  · refine ⟨start, Nat.le_refl start, visited.begun, ?_⟩
    rintro ⟨listing, member, named, _⟩
    obtain ⟨id, found⟩ := List.getElem?_of_mem member
    exact known ⟨id, listing, found, named⟩

/-- A reading of a registry that is written to meanwhile hands out each market
once, as the registry showed it when its listing was read; what it leaves out
was hidden at some moment of it. It stops only at a call that went unanswered. -/
theorem source_of_registry (moving : Moving marketOf world) (start : Nat)
    {source : Source Address} (keyed : Keyed source) :
    (fromRegistry world start source).Satisfies
      (fun out clock _ => (out.map Driven.address).Nodup ∧
        (∀ m ∈ out, ∃ tick, start ≤ tick ∧ tick < clock ∧
          ∃ listing ∈ (world tick).registry.listings, listing.enabled = true ∧
            listing.market = m.address ∧ listing.horizon = m.horizon) ∧
        ∀ address ∉ out.map Driven.address, ∃ tick, start ≤ tick ∧ tick < clock ∧
          ¬Enabled (world tick).registry address)
      (fun failure clock _ => Unanswered world start failure clock) := by
  have read : Triple world (fun clock state => clock = start ∧ state = source) fromRegistry
      (fun out clock _ => (out.map Driven.address).Nodup ∧
        (∀ m ∈ out, ∃ tick, start ≤ tick ∧ tick < clock ∧
          ∃ listing ∈ (world tick).registry.listings, listing.enabled = true ∧
            listing.market = m.address ∧ listing.horizon = m.horizon) ∧
        ∀ address ∉ out.map Driven.address, ∃ tick, start ≤ tick ∧ tick < clock ∧
          ¬Enabled (world tick).registry address)
      (fun failure clock _ => Unanswered world start failure clock) := by
    apply triple_weaken (triple_from_registry moving start)
    · exact fun clock state begins => ⟨begins.1, begins.2 ▸ keyed⟩
    · intro out clock state visited
      refine ⟨visited.nodup, ?_, fun address => hidden_of_visited moving visited⟩
      intro m member
      obtain ⟨id, _, listing, ⟨tick, since, before, found⟩, rest⟩ := visited.listed m member
      exact ⟨tick, since, before, listing, List.mem_of_getElem? found, rest⟩
    · exact fun _ _ _ stopped => stopped.2
  exact read start source ⟨rfl, rfl⟩

end Readings

section Sample

/-- The owner hides the market between two of the keeper's calls. -/
def hidingListings (tick : Nat) : Listings (Fin 8) where
  registry := if tick ≤ 1 then Registry.showing else Registry.hidden
  count := .ok ()
  listing _ := .ok ()
  loadMarket _ := .ok ⟨⟨10, 60, 3600, none⟩, false⟩

theorem hiding_moves : Moving Registry.sampleMarketOf hidingListings where
  reached tick := by
    unfold hidingListings
    dsimp only
    split_ifs
    · exact Registry.showing_reachable
    · exact Registry.hidden_reachable
  path tick later order := by
    unfold hidingListings
    dsimp only
    split_ifs
    · exact .refl _
    · exact .single _ Registry.showing_hides
    · omega
    · exact .refl _

theorem source_of_hiding_registry :
    ∃ tick < 3, ∃ listing ∈ (hidingListings tick).registry.listings,
      listing.enabled = true ∧ listing.market = 2 := by
  have keyed : Keyed (fun _ : Fin 8 => none) := by
    intro address m held
    cases held
  have ended := source_of_registry hiding_moves 0 keyed
  have ran : (fromRegistry hidingListings 0 fun _ => none).result =
      .ok [⟨2, ⟨10, 60, 3600, none⟩, false, 300⟩] := rfl
  simp only [Ended.Satisfies, ran] at ended
  obtain ⟨tick, _, before, listing, member, shown, market, _⟩ :=
    ended.2.1 _ (List.mem_singleton_self _)
  exact ⟨tick, before, listing, member, shown, market⟩

end Sample

end Keeper

end Ghoststake
