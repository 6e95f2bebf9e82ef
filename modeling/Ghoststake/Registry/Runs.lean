import Ghoststake.Registry.Model

/-!
# The registry along a run

The index and the list agree, no market is listed twice, what a listing names
is never changed, and the logs say everything the list says.
-/

namespace Ghoststake

set_option autoImplicit false

open Checked

namespace Registry

variable {Address : Type} [DecidableEq Address] [Zero Address]
variable {marketOf : Address → Option Address} {s next : State Address}

/-! ## The invariant -/

def Places (s : State Address) (market : Address) (id : Nat) : Prop :=
  ∃ listing, s.listings[id]? = some listing ∧ listing.market = market

structure Indexed (marketOf : Address → Option Address) (s : State Address) : Prop where
  placed : ∀ market id, s.indexPlusOne market = id + 1 ↔ Places s market id
  fit : ∀ listing ∈ s.listings, listing.market ≠ 0 ∧ listing.router ≠ 0 ∧
    listing.horizon.val ≠ 0 ∧ marketOf listing.router = some listing.market
  told : relisted s.logs = s.listings

omit [DecidableEq Address] [Zero Address] in
theorem relisted_append (logs : List (Event Address)) (event : Event Address) :
    relisted (logs ++ [event]) = relist (relisted logs) event := by
  rw [relisted, List.foldl_append]
  rfl

omit [DecidableEq Address] [Zero Address] in
theorem places_append {listing : Listing Address} {market : Address} {id : Nat}
    (longer : next.listings = s.listings ++ [listing]) :
    Places next market id ↔
      Places s market id ∨ id = s.listings.length ∧ listing.market = market := by
  unfold Places
  rw [longer]
  rcases Nat.lt_trichotomy id s.listings.length with less | same | more
  · rw [List.getElem?_append_left less]
    exact ⟨.inl, fun either => either.resolve_right fun last => absurd last.1 (Nat.ne_of_lt less)⟩
  · rw [same, List.getElem?_concat_length, List.getElem?_eq_none (Nat.le_refl _)]
    constructor
    · rintro ⟨_, found, named⟩
      exact .inr ⟨rfl, Option.some.inj found ▸ named⟩
    · rintro (⟨_, none, _⟩ | ⟨_, named⟩)
      · cases none
      · exact ⟨listing, rfl, named⟩
  · rw [List.getElem?_eq_none (by rw [List.length_append, List.length_singleton]; omega),
      List.getElem?_eq_none (Nat.le_of_lt more)]
    constructor
    · rintro ⟨_, none, _⟩
      cases none
    · rintro (⟨_, none, _⟩ | ⟨last, _⟩)
      · cases none
      · omega

omit [DecidableEq Address] [Zero Address] in
theorem places_modify {change : Listing Address → Listing Address} {changed id : Nat}
    {market : Address} (restates : ∀ listing : Listing Address, listing.Restated (change listing))
    (same : next.listings = s.listings.modify changed change) :
    Places next market id ↔ Places s market id := by
  unfold Places
  rw [same, List.getElem?_modify]
  cases s.listings[id]? with
  | none => simp
  | some listing =>
      have kept := (restates listing).market
      by_cases here : changed = id
      · simp [here, kept]
      · simp [here]

omit [DecidableEq Address] in
theorem indexed_of_deployed (owner : Address) : Indexed marketOf (deployed owner) where
  placed market id := by
    constructor
    · intro impossible
      cases impossible
    · rintro ⟨_, none, _⟩
      cases none
  fit listing member := by cases member
  told := rfl

theorem indexed_of_exec {request : Request Address} (indexed : Indexed marketOf s)
    (ran : exec marketOf s request = .ok next) : Indexed marketOf next := by
  cases written_of_exec ran with
  | listed listing owner market router horizon new serves enabled same =>
      rw [same]
      constructor
      · intro other id
        rw [places_append rfl, ← indexed.placed]
        simp only [Function.update_apply]
        split_ifs with here
        · rw [here, new]
          constructor
          · intro last
            exact .inr ⟨(Nat.succ.inj last).symm, rfl⟩
          · rintro (impossible | ⟨last, _⟩)
            · cases impossible
            · rw [last]
        · exact ⟨.inl, fun either => either.resolve_right fun last => here last.2.symm⟩
      · intro other member
        rcases List.mem_append.1 member with old | last
        · exact indexed.fit other old
        · rw [List.mem_singleton.1 last]
          exact ⟨market, router, horizon, serves⟩
      · obtain ⟨_, _, _, _⟩ := listing
        cases enabled
        rw [relisted_append, indexed.told]
        rfl
  | restated id change event owner within restates horizon told same =>
      rw [same]
      constructor
      · intro market other
        exact (indexed.placed market other).trans (places_modify restates rfl).symm
      · intro listing member
        obtain ⟨place, found⟩ := List.getElem?_of_mem member
        rw [List.getElem?_modify] at found
        obtain ⟨before, old, changed⟩ := Option.map_eq_some_iff.1 found
        have fit := indexed.fit before (List.mem_of_getElem? old)
        split_ifs at changed
        · obtain ⟨kept, routed⟩ := restates before
          rw [← changed, kept, routed]
          exact ⟨fit.1, fit.2.1, horizon before fit.2.2.1, fit.2.2.2⟩
        · rw [← changed]
          exact fit
      · rw [relisted_append, indexed.told, told]
  | access access event owner same =>
      rw [same]
      exact ⟨indexed.placed, indexed.fit, (relisted_append _ _).trans indexed.told⟩

theorem indexed_of_reachable (reached : (machine marketOf).Reachable s) : Indexed marketOf s := by
  apply reached.invariant
  · rintro _ ⟨owner, _, rfl⟩
    exact indexed_of_deployed owner
  · exact fun _ _ _ _ indexed ran => indexed_of_exec indexed ran

/-! ## Nothing is taken off the list -/

/-- Every listing is still where it was, hidden or restated at most. -/
def Extends (s next : State Address) : Prop :=
  ∀ (id : Nat) (listing : Listing Address), s.listings[id]? = some listing →
    ∃ after, next.listings[id]? = some after ∧ listing.Restated after

omit [DecidableEq Address] [Zero Address] in
theorem Extends.refl (s : State Address) : Extends s s :=
  fun _ listing found => ⟨listing, found, rfl, rfl⟩

omit [DecidableEq Address] [Zero Address] in
theorem Extends.trans {mid : State Address} (first : Extends s mid) (second : Extends mid next) :
    Extends s next := by
  intro id listing found
  obtain ⟨between, held, restated⟩ := first id listing found
  obtain ⟨after, kept, again⟩ := second id between held
  exact ⟨after, kept, again.market.trans restated.market, again.router.trans restated.router⟩

omit [DecidableEq Address] [Zero Address] in
theorem Extends.count_le (kept : Extends s next) : count s ≤ count next := by
  by_contra fewer
  have within : next.listings.length < s.listings.length := Nat.lt_of_not_le fewer
  obtain ⟨_, beyond, _⟩ := kept _ _ (List.getElem?_eq_getElem within)
  rw [List.getElem?_eq_none (Nat.le_refl _)] at beyond
  cases beyond

theorem extends_of_exec {request : Request Address} (ran : exec marketOf s request = .ok next) :
    Extends s next := by
  intro id listing found
  have within : id < s.listings.length := (List.getElem?_eq_some_iff.1 found).1
  cases written_of_exec ran with
  | listed new owner market router horizon absent serves enabled same =>
      rw [same]
      refine ⟨listing, ?_, rfl, rfl⟩
      rw [List.getElem?_append_left within]
      exact found
  | restated changed change event owner within restates horizon told same =>
      rw [same, List.getElem?_modify, found]
      by_cases here : changed = id
      · exact ⟨change listing, by simp [here], restates listing⟩
      · exact ⟨listing, by simp [here], rfl, rfl⟩
  | access access event owner same =>
      rw [same]
      exact ⟨listing, found, rfl, rfl⟩

theorem extends_of_path (path : (machine marketOf).Path s next) : Extends s next := by
  induction path with
  | refl => exact .refl s
  | tail _ taken ih =>
      obtain ⟨_, ran⟩ := taken
      exact ih.trans (extends_of_exec ran)

/-! ## What the registry says -/

omit [DecidableEq Address] in
theorem find_eq_true_iff (indexed : Indexed marketOf s) (market : Address) (id : Nat) :
    find s market = (true, id) ↔ Places s market id := by
  rw [← indexed.placed, find]
  split_ifs with absent
  · rw [absent]
    exact iff_of_false (fun same => by cases same) (fun same => by cases same)
  · simp only [Prod.mk.injEq, true_and]
    omega

omit [Zero Address] [DecidableEq Address] in
theorem listing_at_ok_iff {id : Nat} {listing : Listing Address} :
    listingAt s id = .ok listing ↔ s.listings[id]? = some listing := by
  unfold listingAt
  cases s.listings[id]? with
  | none => exact iff_of_false (fun ran => by cases ran) (fun same => by cases same)
  | some known => rw [Except.ok.injEq, Option.some.injEq]

omit [DecidableEq Address] in
theorem nodup_markets (indexed : Indexed marketOf s) : (s.listings.map Listing.market).Nodup := by
  rw [List.Nodup, List.pairwise_iff_getElem]
  intro i j _ last less same
  rw [List.getElem_map, List.getElem_map] at same
  rw [List.length_map] at last
  have first := (indexed.placed s.listings[i].market i).2
    ⟨_, List.getElem?_eq_getElem (less.trans last), rfl⟩
  have second := (indexed.placed s.listings[i].market j).2
    ⟨_, List.getElem?_eq_getElem last, same.symm⟩
  omega

/-- In every reachable registry the index and the list agree and list no market
twice, every router serves its market, and the logs alone give the list; from
then on what is listed stays listed, for the same market and router. -/
theorem registry_of_reachable (reached : (machine marketOf).Reachable s) :
    (∀ market id, find s market = (true, id) ↔
      ∃ listing, listingAt s id = .ok listing ∧ listing.market = market) ∧
    ((all s).map Listing.market).Nodup ∧
    (∀ listing ∈ all s, listing.horizon.val ≠ 0 ∧
      marketOf listing.router = some listing.market) ∧
    relisted s.logs = all s ∧
    ∀ next, (machine marketOf).Path s next → count s ≤ count next ∧
      ∀ id listing, listingAt s id = .ok listing →
        ∃ after, listingAt next id = .ok after ∧ listing.Restated after := by
  have indexed := indexed_of_reachable reached
  refine ⟨?_, nodup_markets indexed, ?_, indexed.told, ?_⟩
  · intro market id
    simp only [listing_at_ok_iff]
    exact find_eq_true_iff indexed market id
  · intro listing member
    obtain ⟨_, _, horizon, serves⟩ := indexed.fit listing member
    exact ⟨horizon, serves⟩
  · intro next path
    have kept := extends_of_path path
    refine ⟨kept.count_le, ?_⟩
    intro id listing found
    obtain ⟨after, held, restated⟩ := kept id listing (listing_at_ok_iff.1 found)
    exact ⟨after, listing_at_ok_iff.2 held, restated⟩

section Sample

def sampleMarketOf (router : Fin 8) : Option (Fin 8) := if router = 3 then some 2 else none

def showing : State (Fin 8) where
  owner := 1
  listings := [⟨2, 3, 300, true⟩]
  indexPlusOne := Function.update (fun _ => 0) 2 1
  logs := [.marketListed 0 2 3 300]

def hidden : State (Fin 8) :=
  { showing with
    listings := [⟨2, 3, 300, false⟩]
    logs := [.marketListed 0 2 3 300, .marketEnabledSet 0 false] }

theorem showing_reachable : (machine sampleMarketOf).Reachable showing := by
  have start : (machine sampleMarketOf).Reachable (deployed 1) := .initial ⟨1, by decide, rfl⟩
  have listed : (machine sampleMarketOf).step (deployed 1) ⟨1, .list 2 3 300, some true⟩
      showing := rfl
  exact start.step listed

theorem showing_hides :
    (machine sampleMarketOf).step showing ⟨1, .setEnabled 0 false, none⟩ hidden := rfl

theorem hidden_reachable : (machine sampleMarketOf).Reachable hidden :=
  showing_reachable.step showing_hides

theorem registry_of_hidden :
    find hidden 2 = (true, 0) ∧ relisted hidden.logs = all hidden := by
  obtain ⟨found, _, _, told, _⟩ := registry_of_reachable hidden_reachable
  exact ⟨(found 2 0).2 ⟨_, rfl, rfl⟩, told⟩

end Sample

end Registry

end Ghoststake
