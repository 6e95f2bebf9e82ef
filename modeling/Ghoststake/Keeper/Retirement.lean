import Ghoststake.Keeper.Fleet

/-!
# A hidden market is driven to its last settled round

Whatever order ticks and refreshes come in, and whatever fails: a market is
forgotten only after the registry was read with it hidden, and only where its
last complete pass had found every round settled.
-/

namespace Ghoststake

set_option autoImplicit false

open Calls

namespace Keeper

variable {Address : Type} [DecidableEq Address] [Zero Address]
variable {cfg : Config Address} {marketOf : Address → Option Address}
variable {world : Nat → Scene Address} {startup : List Address} {fleet next : Fleet Address}
variable {address : Address} {clock time : Nat}

/-! ## The invariant -/

def roundsOf (world : Nat → Scene Address) (address : Address) (tick : Nat) : Moment Address :=
  (world tick).market address

/-- The registry moves on, and no market takes a settlement back. -/
structure Setting (marketOf : Address → Option Address) (world : Nat → Scene Address) : Prop where
  moving : Moving marketOf fun tick => (world tick).toListings
  history : ∀ address, History (roundsOf world address)

/-- The registry did not show the market at some moment. -/
def Hidden (world : Nat → Scene Address) (address : Address) (since time : Nat) : Prop :=
  ∃ tick, since ≤ tick ∧ tick < time ∧ ¬Enabled (world tick).registry address

structure Account (world : Nat → Scene Address) (startup : List Address) (clock : Nat)
    (fleet : Fleet Address) (address : Address) : Prop where
  swept : Swept (roundsOf world address) clock (fleet.books address)
  settled : (fleet.books address).pending = some false → ∃ start,
    fleet.lastPass address = some start ∧ start < clock ∧
      SettledSince (roundsOf world address) start clock
  unasked : (fleet.books address).pending = none →
    fleet.lastPass address = none ∧ (address ∈ fleet.markets → address ∈ startup)
  retires : fleet.retiring address = true → (fleet.books address).pending ≠ none ∧
    Hidden world address (fleet.seen address) clock
  seen : fleet.seen address ≤ clock
  idle : address ∉ fleet.markets → fleet.books address = forgotten ∧
    fleet.retiring address = false ∧ fleet.lastPass address = none

structure Farewell.Sound (world : Nat → Scene Address) (startup : List Address)
    (farewell : Farewell Address) : Prop where
  hidden : Hidden world farewell.address farewell.seen farewell.time
  settled : ∀ start, farewell.lastPass = some start → start < farewell.time ∧
    SettledSince (roundsOf world farewell.address) start farewell.time
  unasked : farewell.lastPass = none → farewell.address ∈ startup

structure Sound (world : Nat → Scene Address) (startup : List Address) (clock : Nat)
    (fleet : Fleet Address) : Prop where
  nodup : fleet.markets.Nodup
  keyed : Keyed fleet.source
  account : ∀ address, Account world startup clock fleet address
  told : ∀ farewell ∈ fleet.farewells, farewell.Sound world startup

/-! ## Steps -/

section Steps

variable (setting : Setting marketOf world)

include setting in
theorem Account.later (account : Account world startup clock fleet address)
    (order : clock ≤ time) : Account world startup time fleet address where
  swept := account.swept.later (setting.history address) order
  settled none := by
    obtain ⟨start, passed, before, settled⟩ := account.settled none
    exact ⟨start, passed, by omega, settled.later (setting.history address) order⟩
  unasked := account.unasked
  retires retiring := by
    obtain ⟨asked, tick, since, before, hidden⟩ := account.retires retiring
    exact ⟨asked, tick, since, by omega, hidden⟩
  seen := account.seen.trans order
  idle := account.idle

include setting in
theorem Sound.later (sound : Sound world startup clock fleet) (order : clock ≤ time) :
    Sound world startup time fleet :=
  ⟨sound.nodup, sound.keyed, fun address => (sound.account address).later setting order,
    sound.told⟩

omit [Zero Address] [DecidableEq Address] in
theorem Account.congr (account : Account world startup clock fleet address)
    (books : next.books address = fleet.books address)
    (retiring : next.retiring address = fleet.retiring address)
    (lastPass : next.lastPass address = fleet.lastPass address)
    (seen : next.seen address = fleet.seen address)
    (driven : address ∈ next.markets ↔ address ∈ fleet.markets) :
    Account world startup clock next address where
  swept := books ▸ account.swept
  settled none := by
    rw [lastPass]
    exact account.settled (books ▸ none)
  unasked none := by
    rw [lastPass, driven]
    exact account.unasked (books ▸ none)
  retires retires := by
    rw [books, seen]
    exact account.retires (retiring ▸ retires)
  seen := seen ▸ account.seen
  idle absent := by
    rw [books, retiring, lastPass]
    exact account.idle fun member => absent (driven.2 member)

/-! ### Passes -/

include setting in
theorem account_of_pass {complete : Bool} (account : Account world startup clock fleet address)
    (driven : address ∈ fleet.markets) {books : Books}
    (passed : Passed (roundsOf world address) clock (fleet.books address) complete time books) :
    Account world startup time (setBooks address books (fleet.passed complete address clock))
      address := by
  have before := account.later setting (Nat.le_of_lt passed.later)
  have mine : (setBooks address books (fleet.passed complete address clock)).books address =
      books := Function.update_self ..
  refine ⟨?_, ?_, ?_, ?_, before.seen, fun absent => absurd driven absent⟩
  · rw [mine]
    exact passed.swept
  · rw [mine]
    intro none
    cases complete with
    | true => exact ⟨clock, Function.update_self .., passed.later, passed.settles rfl none⟩
    | false => exact before.settled (passed.keeps rfl ▸ none)
  · rw [mine]
    intro none
    cases complete with
    | true => exact absurd none (passed.answers rfl)
    | false => exact before.unasked (passed.keeps rfl ▸ none)
  · rw [mine]
    intro retiring
    obtain ⟨asked, hidden⟩ := before.retires retiring
    cases complete with
    | true => exact ⟨passed.answers rfl, hidden⟩
    | false => exact ⟨passed.keeps rfl ▸ asked, hidden⟩

include setting in
theorem sound_of_drive (sound : Sound world startup clock fleet) (now : Uint64)
    (driven : address ∈ fleet.markets) :
    Sound world startup (drive cfg now address world clock fleet).clock
      (drive cfg now address world clock fleet).state ∧
      (drive cfg now address world clock fleet).state.markets = fleet.markets := by
  unfold drive
  cases held : fleet.source address with
  | none => exact ⟨sound, rfl⟩
  | some m =>
      have passed := passed_of_drive_market (fleet.marketOf cfg m) (setting.history address)
        (fleet.retiring address) now (sound.account address).swept
      have kept := sound.later setting (Nat.le_of_lt passed.later)
      refine ⟨⟨sound.nodup, sound.keyed, ?_, sound.told⟩, rfl⟩
      intro other
      by_cases here : other = address
      · rw [here]
        exact account_of_pass setting (sound.account address) driven passed
      · apply (kept.account other).congr
        · exact Function.update_of_ne here ..
        · rfl
        · simp only [setBooks, Fleet.passed]
          split_ifs
          · exact Function.update_of_ne here ..
          · rfl
        · rfl
        · exact Iff.rfl

include setting in
theorem triple_drive_all (now : Uint64) (addresses : List Address) :
    Triple world
      (fun clock fleet => Sound world startup clock fleet ∧ addresses ⊆ fleet.markets)
      (driveAll cfg now addresses)
      (fun _ clock fleet => Sound world startup clock fleet)
      (fun _ clock fleet => Sound world startup clock fleet) := by
  induction addresses with
  | nil =>
      apply triple_pure
      exact fun _ _ holds => holds.1
  | cons address rest induction =>
      have drives : Triple world
          (fun clock fleet =>
            Sound world startup clock fleet ∧ address :: rest ⊆ fleet.markets)
          (swallow (drive cfg now address))
          (fun _ clock fleet => Sound world startup clock fleet ∧ rest ⊆ fleet.markets)
          (fun _ clock fleet => Sound world startup clock fleet) := by
        intro clock fleet holds
        obtain ⟨sound, listed⟩ := holds
        obtain ⟨kept, same⟩ := sound_of_drive setting sound now (listed List.mem_cons_self)
        refine ⟨kept, ?_⟩
        change rest ⊆ (drive cfg now address world clock fleet).state.markets
        rw [same]
        exact fun other member => listed (List.mem_cons_of_mem _ member)
      exact triple_bind drives fun _ => induction

/-! ### Farewells -/

omit [DecidableEq Address] [Zero Address] in
theorem Account.farewell (account : Account world startup clock fleet address)
    (driven : address ∈ fleet.markets) (still : fleet.pending address = false)
    (hidden : Hidden world address (fleet.seen address) clock) :
    (⟨address, fleet.seen address, fleet.lastPass address, clock⟩ :
      Farewell Address).Sound world startup where
  hidden := hidden
  settled start passed := by
    cases pending : (fleet.books address).pending with
    | none =>
        rw [(account.unasked pending).1] at passed
        cases passed
    | some pending' =>
        have none : pending' = false := by simpa [Fleet.pending, pending] using still
        obtain ⟨start', passed', before, settled⟩ := account.settled (none ▸ pending)
        dsimp only at passed
        rw [passed'] at passed
        rw [← Option.some.inj passed]
        exact ⟨before, settled⟩
  unasked passed := by
    cases pending : (fleet.books address).pending with
    | none => exact (account.unasked pending).2 driven
    | some pending' =>
        have none : pending' = false := by simpa [Fleet.pending, pending] using still
        obtain ⟨_, passed', _⟩ := account.settled (none ▸ pending)
        dsimp only at passed
        rw [passed'] at passed
        cases passed

omit [Zero Address] in
theorem sound_of_forget (sound : Sound world startup clock fleet)
    (driven : address ∈ fleet.markets) (still : fleet.pending address = false)
    (hidden : Hidden world address (fleet.seen address) clock) :
    Sound world startup clock (fleet.forget address clock) := by
  refine ⟨sound.nodup.filter _, sound.keyed, ?_, ?_⟩
  · intro other
    by_cases here : other = address
    · subst here
      have gone : (fleet.forget other clock).books other = forgotten := Function.update_self ..
      have asleep : (fleet.forget other clock).retiring other = false := Function.update_self ..
      have unpassed : (fleet.forget other clock).lastPass other = none := Function.update_self ..
      have off : other ∉ (fleet.forget other clock).markets := by
        simp [Fleet.forget]
      refine ⟨?_, ?_, ?_, ?_, (sound.account other).seen, fun _ => ⟨gone, asleep, unpassed⟩⟩
      · rw [gone]
        exact swept_of_forgotten clock
      · rw [gone]
        intro none
        cases none
      · exact fun _ => ⟨unpassed, fun member => absurd member off⟩
      · rw [asleep]
        intro retiring
        cases retiring
    · apply (sound.account other).congr
      · exact Function.update_of_ne here ..
      · exact Function.update_of_ne here ..
      · exact Function.update_of_ne here ..
      · rfl
      · simp [Fleet.forget, here]
  · intro farewell member
    rcases List.mem_append.1 member with old | new
    · exact sound.told farewell old
    · rw [List.mem_singleton.1 new]
      exact (sound.account address).farewell driven still hidden

omit [Zero Address] in
theorem mem_forget {other : Address} (member : other ∈ fleet.markets) (apart : other ≠ address) :
    other ∈ (fleet.forget address time).markets :=
  List.mem_filter.2 ⟨member, decide_eq_true apart⟩

omit [Zero Address] in
/-- A market that has been hidden and has settled its last round goes. -/
theorem sound_of_retire (sound : Sound world startup clock fleet)
    (driven : address ∈ fleet.markets) : Sound world startup clock (retire clock fleet address) := by
  unfold retire
  split_ifs with done
  · have hidden := ((sound.account address).retires done.1).2
    exact sound_of_forget sound driven (by simpa using done.2) hidden
  · exact sound

omit [Zero Address] in
theorem sound_of_retired (addresses : List Address) (nodup : addresses.Nodup)
    (sound : Sound world startup clock fleet) (driven : addresses ⊆ fleet.markets) :
    Sound world startup clock (addresses.foldl (retire clock) fleet) := by
  induction addresses generalizing fleet with
  | nil => exact sound
  | cons address rest induction =>
      obtain ⟨new, others⟩ := List.nodup_cons.1 nodup
      rw [List.foldl_cons]
      apply induction others (sound_of_retire sound (driven List.mem_cons_self))
      intro other member
      have listed := driven (List.mem_cons_of_mem _ member)
      unfold retire
      split_ifs
      · exact mem_forget listed fun same => new (same ▸ member)
      · exact listed

variable (cfg) in
include setting in
theorem triple_tick :
    Triple world (fun clock fleet => Sound world startup clock fleet) (tick cfg)
      (fun _ clock fleet => Sound world startup clock fleet)
      (fun _ clock fleet => Sound world startup clock fleet) := by
  have asks : Triple world (fun clock fleet => Sound world startup clock fleet)
      (ask fun world _ => world.chainTime : Work Address Uint64)
      (fun _ clock fleet => Sound world startup clock fleet)
      (fun _ clock fleet => Sound world startup clock fleet) := by
    apply triple_ask
    · exact fun clock _ _ sound _ => sound.later setting (Nat.le_succ clock)
    · exact fun clock _ _ sound _ => sound.later setting (Nat.le_succ clock)
  apply triple_bind asks
  intro now
  have lists : Triple world (fun clock fleet => Sound world startup clock fleet)
      (ask fun _ fleet => .ok fleet.markets : Work Address (List Address))
      (fun markets clock fleet => Sound world startup clock fleet ∧ markets ⊆ fleet.markets)
      (fun _ clock fleet => Sound world startup clock fleet) := by
    apply triple_ask
    · intro clock fleet markets sound same
      rw [← Except.ok.inj same]
      exact ⟨sound.later setting (Nat.le_succ clock), List.Subset.refl _⟩
    · intro _ _ _ _ impossible
      cases impossible
  apply triple_bind lists
  intro markets
  apply triple_bind (triple_drive_all setting now markets)
  intro _
  apply triple_stamp
  intro clock fleet sound
  exact sound_of_retired fleet.markets sound.nodup sound (List.Subset.refl _)

/-! ### Readings -/

omit [DecidableEq Address] [Zero Address] in
theorem sound_of_source (sound : Sound world startup clock fleet) {source : Source Address}
    (keyed : Keyed source) : Sound world startup clock (setSource source fleet) := by
  refine ⟨sound.nodup, keyed, ?_, sound.told⟩
  exact fun address => (sound.account address).congr rfl rfl rfl rfl Iff.rfl

omit [Zero Address] in
theorem sound_of_review {listed : List Address} {start : Nat}
    (sound : Sound world startup clock fleet) (early : fleet.seen address ≤ start)
    (absent : address ∉ listed → Hidden world address start clock)
    (driven : address ∈ fleet.markets) :
    Sound world startup clock (review listed clock fleet address) := by
  have hidden (out : address ∉ listed) : Hidden world address (fleet.seen address) clock := by
    obtain ⟨tick, since, before, unseen⟩ := absent out
    exact ⟨tick, early.trans since, before, unseen⟩
  have resumes (retiring : Bool) (fits : retiring = true →
      (fleet.books address).pending ≠ none ∧ Hidden world address (fleet.seen address) clock) :
      Sound world startup clock
        { fleet with retiring := Function.update fleet.retiring address retiring } := by
    refine ⟨sound.nodup, sound.keyed, ?_, sound.told⟩
    intro other
    have account := sound.account other
    by_cases here : other = address
    · subst here
      refine ⟨account.swept, account.settled, account.unasked, ?_, account.seen,
        fun gone => absurd driven gone⟩
      intro retires
      dsimp only at retires
      rw [Function.update_self] at retires
      exact fits retires
    · exact account.congr rfl (Function.update_of_ne here ..) rfl rfl Iff.rfl
  unfold review
  split_ifs with shown pending
  · exact resumes false fun impossible => by cases impossible
  · apply resumes true
    intro _
    refine ⟨?_, hidden shown⟩
    intro none
    rw [Fleet.pending, none] at pending
    cases pending
  · exact sound_of_forget sound driven (Bool.eq_false_iff.2 pending) (hidden shown)

omit [Zero Address] in
theorem seen_of_review (listed : List Address) (fleet : Fleet Address) (address : Address) :
    (review listed time fleet address).seen = fleet.seen := by
  unfold review
  split_ifs
  · rfl
  · rfl
  · rfl

omit [Zero Address] in
theorem driven_of_review {listed : List Address} {other : Address}
    (driven : other ∈ fleet.markets) (apart : other ≠ address) :
    other ∈ (review listed time fleet address).markets := by
  unfold review
  split_ifs
  · exact driven
  · exact driven
  · exact mem_forget driven apart

omit [Zero Address] in
theorem retiring_of_review {listed : List Address} {other : Address} (shown : other ∈ listed) :
    (review listed time fleet address).retiring other =
      if other = address then false else fleet.retiring other := by
  by_cases here : other = address
  · subst here
    rw [review, if_pos shown, if_pos rfl]
    exact Function.update_self ..
  · rw [if_neg here]
    unfold review
    split_ifs
    · exact Function.update_of_ne here ..
    · exact Function.update_of_ne here ..
    · exact Function.update_of_ne here ..

omit [Zero Address] in
theorem sound_of_reviewed {listed : List Address} {start : Nat} (addresses : List Address)
    (nodup : addresses.Nodup) (sound : Sound world startup clock fleet)
    (early : ∀ address, fleet.seen address ≤ start)
    (absent : ∀ address ∉ listed, Hidden world address start clock)
    (driven : addresses ⊆ fleet.markets) :
    Sound world startup clock (addresses.foldl (review listed clock) fleet) ∧
      (addresses.foldl (review listed clock) fleet).seen = fleet.seen ∧
      ∀ other ∈ listed, (addresses.foldl (review listed clock) fleet).retiring other =
        if other ∈ addresses then false else fleet.retiring other := by
  induction addresses generalizing fleet with
  | nil => exact ⟨sound, rfl, fun other _ => (if_neg List.not_mem_nil).symm⟩
  | cons address rest induction =>
      obtain ⟨new, others⟩ := List.nodup_cons.1 nodup
      have first := sound_of_review sound (early address) (absent address)
        (driven List.mem_cons_self)
      have seen : (review listed clock fleet address).seen = fleet.seen :=
        seen_of_review listed fleet address
      have left : rest ⊆ (review listed clock fleet address).markets := by
        intro other member
        exact driven_of_review (driven (List.mem_cons_of_mem _ member))
          fun same => new (same ▸ member)
      obtain ⟨kept, same, retiring⟩ := induction others first (seen ▸ early) left
      rw [List.foldl_cons]
      refine ⟨kept, same.trans seen, ?_⟩
      intro other shown
      rw [retiring other shown, retiring_of_review shown]
      by_cases later : other ∈ rest
      · rw [if_pos later, if_pos (List.mem_cons_of_mem _ later)]
      · rw [if_neg later]
        by_cases here : other = address
        · rw [if_pos here, if_pos (here ▸ List.mem_cons_self)]
        · rw [if_neg here, if_neg (fun member => (List.mem_cons.1 member).elim here later)]

variable (cfg) in
omit [Zero Address] in
theorem sound_of_take_on {kept : List Address} {m : Driven Address}
    (sound : Sound world startup clock fleet) (apart : m.address ∉ kept → m.address ∉ fleet.markets) :
    Sound world startup clock (takeOn cfg kept fleet m) := by
  unfold takeOn
  split_ifs with driven
  · exact sound
  · have new := apart driven
    cases validateMarket cfg m with
    | error problem =>
        refine ⟨sound.nodup, sound.keyed, ?_, sound.told⟩
        exact fun address => (sound.account address).congr rfl rfl rfl rfl Iff.rfl
    | ok done =>
        refine ⟨?_, sound.keyed, ?_, sound.told⟩
        · exact List.nodup_append.2 ⟨sound.nodup, List.nodup_singleton _,
            fun a left b right same => new (List.mem_singleton.1 right ▸ same ▸ left)⟩
        · intro other
          have account := sound.account other
          by_cases here : other = m.address
          · subst here
            obtain ⟨books, asleep, _⟩ := account.idle new
            have mine : Function.update fleet.books m.address
                { fleet.books m.address with pending := some true } m.address =
                  { forgotten with pending := some true } := by
              rw [Function.update_self, books]
            refine ⟨?_, ?_, ?_, ?_, account.seen, ?_⟩
            · dsimp only
              rw [mine]
              exact swept_of_forgotten clock
            · dsimp only
              rw [mine]
              intro none
              cases none
            · dsimp only
              rw [mine]
              intro none
              cases none
            · dsimp only
              rw [asleep]
              intro retiring
              cases retiring
            · intro absent
              exact absurd (List.mem_append_right _ (List.mem_singleton_self _)) absent
          · apply account.congr
            · exact Function.update_of_ne here ..
            · rfl
            · rfl
            · rfl
            · simp [here]

variable (cfg fleet) in
omit [Zero Address] in
theorem take_on_keeps (kept : List Address) (m : Driven Address) :
    (takeOn cfg kept fleet m).seen = fleet.seen ∧
      (takeOn cfg kept fleet m).retiring = fleet.retiring ∧
      ∀ other ∈ (takeOn cfg kept fleet m).markets, other ∈ fleet.markets ∨ other = m.address := by
  unfold takeOn
  split_ifs
  · exact ⟨rfl, rfl, fun _ => .inl⟩
  · cases validateMarket cfg m with
    | error problem => exact ⟨rfl, rfl, fun _ => .inl⟩
    | ok done =>
        refine ⟨rfl, rfl, ?_⟩
        intro other member
        exact (List.mem_append.1 member).imp_right List.mem_singleton.1

variable (cfg) in
omit [Zero Address] in
theorem sound_of_taken_on {kept : List Address} (listed : List (Driven Address))
    (nodup : (listed.map Driven.address).Nodup) (sound : Sound world startup clock fleet)
    (apart : ∀ m ∈ listed, m.address ∉ kept → m.address ∉ fleet.markets) :
    Sound world startup clock (listed.foldl (takeOn cfg kept) fleet) ∧
      (listed.foldl (takeOn cfg kept) fleet).seen = fleet.seen ∧
      (listed.foldl (takeOn cfg kept) fleet).retiring = fleet.retiring := by
  induction listed generalizing fleet with
  | nil => exact ⟨sound, rfl, rfl⟩
  | cons m rest induction =>
      obtain ⟨new, others⟩ := List.nodup_cons.1 nodup
      obtain ⟨seen, retiring, driven⟩ := take_on_keeps cfg fleet kept m
      have first := sound_of_take_on cfg sound (apart m List.mem_cons_self)
      obtain ⟨after, sees, retires⟩ := induction others first (by
        intro other member absent twice
        rcases driven _ twice with old | same
        · exact apart other (List.mem_cons_of_mem _ member) absent old
        · exact new (same ▸ List.mem_map_of_mem member))
      rw [List.foldl_cons]
      exact ⟨after, sees.trans seen, retires.trans retiring⟩

omit [Zero Address] in
theorem sound_of_adjust {listed : List (Driven Address)} {start : Nat}
    (sound : Sound world startup clock fleet) (early : ∀ address, fleet.seen address ≤ start)
    (order : start ≤ clock) (nodup : (listed.map Driven.address).Nodup)
    (absent : ∀ address ∉ listed.map Driven.address, Hidden world address start clock) :
    Sound world startup clock (adjust cfg listed start clock fleet) := by
  obtain ⟨reviewed, seen, retiring⟩ := sound_of_reviewed fleet.markets sound.nodup sound early
    absent (List.Subset.refl _)
  obtain ⟨taken, seen', retiring'⟩ := sound_of_taken_on cfg listed nodup reviewed
    fun _ _ new => new
  refine ⟨taken.nodup, taken.keyed, ?_, taken.told⟩
  intro address
  have account := taken.account address
  refine ⟨account.swept, account.settled, account.unasked, ?_, ?_, account.idle⟩
  · intro retires
    refine ⟨(account.retires retires).1, ?_⟩
    simp only [adjust, Fleet.see]
    split_ifs with shown
    · have resumed : (adjust cfg listed start clock fleet).retiring address = false := by
        simp only [adjust, Fleet.see]
        rw [retiring', retiring address shown]
        split_ifs with driven
        · rfl
        · exact ((sound.account address).idle driven).2.1
      rw [resumed] at retires
      cases retires
    · exact (account.retires retires).2
  · simp only [adjust, Fleet.see]
    split_ifs
    · exact order
    · exact account.seen

include setting in
/-- What a refresh makes of the fleet, however its reading ends. -/
theorem sound_of_refresh (sound : Sound world startup clock fleet) :
    Sound world startup (refreshMarkets cfg world clock fleet).clock
      (refreshMarkets cfg world clock fleet).state := by
  have ended := triple_from_registry setting.moving clock clock fleet.source ⟨rfl, sound.keyed⟩
  simp only [Ended.Satisfies] at ended
  simp only [refreshMarkets, zoom]
  cases ran : (fromRegistry (fun tick => (world tick).toListings) clock fleet.source).result with
  | error failure =>
      rw [ran] at ended
      exact sound_of_source (sound.later setting (Nat.le_of_lt ended.2.begun)) ended.1
  | ok listed =>
      rw [ran] at ended
      have order := Nat.le_of_lt ended.begun
      apply sound_of_adjust (sound_of_source (sound.later setting order) ended.keyed)
      · exact fun address => (sound.account address).seen
      · exact order
      · exact ended.nodup
      · exact fun address absent => hidden_of_visited setting.moving ended absent

end Steps

/-! ## Along a run -/

section Runs

variable {state : Nat × Fleet Address}

theorem sound_of_reachable (setting : Setting marketOf world)
    (reached : (keeping cfg world startup).Reachable state) :
    Sound world startup state.1 state.2 := by
  apply reached.invariant fun state => Sound world startup state.1 state.2
  · rintro ⟨clock, fleet⟩ ⟨markets, nodup, keyed, books, retiring, lastPass, farewells, seen⟩
    refine ⟨markets ▸ nodup, keyed, ?_, ?_⟩
    · intro address
      dsimp only at markets books retiring lastPass
      refine ⟨?_, ?_, ?_, ?_, seen address, ?_⟩
      · rw [books]
        exact swept_of_forgotten clock
      · rw [books]
        intro none
        cases none
      · rw [lastPass, markets]
        exact fun _ => ⟨rfl, id⟩
      · rw [retiring]
        intro impossible
        cases impossible
      · rw [books, retiring, lastPass]
        exact fun _ => ⟨rfl, rfl, rfl⟩
    · intro farewell member
      dsimp only at farewells member
      rw [farewells] at member
      cases member
  · intro state beat after _ sound taken
    cases beat with
    | tick =>
        have ended := triple_tick cfg setting state.1 state.2 sound
        rw [taken]
        simp only [Ended.Satisfies] at ended
        split at ended
        · exact ended
        · exact ended
    | refresh =>
        rw [taken]
        exact sound_of_refresh setting sound
    | wait =>
        rw [taken]
        exact sound.later setting (Nat.le_succ state.1)

/-- A market is forgotten only once the registry hid it, and where every round
that its last complete pass found has settled, or where it was started on and
never had one. Nothing else is kept of a market that is not driven, and no
hidden market is given up on while something is pending. -/
theorem farewells_of_reachable (setting : Setting marketOf world)
    (reached : (keeping cfg world startup).Reachable state) :
    (∀ farewell ∈ state.2.farewells,
      (∃ tick, farewell.seen ≤ tick ∧ tick < farewell.time ∧
        ¬Enabled (world tick).registry farewell.address) ∧
      match farewell.lastPass with
      | some start => start < farewell.time ∧
          ∀ id, 0 < id → id ≤ ((world start).market farewell.address).count →
            (((world farewell.time).market farewell.address).rounds id).Terminal
      | none => farewell.address ∈ startup) ∧
    state.2.markets.Nodup ∧
    ∀ address, (address ∉ state.2.markets →
        state.2.books address = forgotten ∧ state.2.retiring address = false) ∧
      (state.2.retiring address = true → address ∈ state.2.markets ∧
        ∃ tick, state.2.seen address ≤ tick ∧ tick < state.1 ∧
          ¬Enabled (world tick).registry address) := by
  have sound := sound_of_reachable setting reached
  refine ⟨?_, sound.nodup, ?_⟩
  · intro farewell member
    have told := sound.told farewell member
    refine ⟨told.hidden, ?_⟩
    cases passed : farewell.lastPass with
    | none => exact told.unasked passed
    | some start => exact told.settled start passed
  · intro address
    have account := sound.account address
    refine ⟨fun absent => ⟨(account.idle absent).1, (account.idle absent).2.1⟩, ?_⟩
    intro retiring
    refine ⟨?_, (account.retires retiring).2⟩
    by_contra absent
    rw [(account.idle absent).2.1] at retiring
    cases retiring

end Runs

section Sample

/-- The keeper opens a round at the end of a pass that found none, and the
market is hidden at once. -/
def openingMoment (tick : Nat) : Moment (Fin 8) where
  count := if tick < 5 then 0 else 1
  rounds id := if tick < 5 ∨ id ≠ 1 then Round.zero else { Round.zero with status := statusOpen }
  roundCount := .ok (if tick < 5 then 0 else 1)
  roundAt id := .ok
    (if tick < 5 ∨ id ≠ 1 then Round.zero else { Round.zero with status := statusOpen })
  view _ := ⟨false, .error (.call "no answer"), fun _ => .error (.call "no answer"),
    fun _ _ => .error (.call "no answer"), .error (.call "no answer")⟩
  send := .ok ()
  openRound := .ok ()
  wall := 0

def openingScene (tick : Nat) : Scene (Fin 8) where
  registry := if tick < 5 then Registry.showing else Registry.hidden
  count := .ok ()
  listing _ := .ok ()
  loadMarket _ := .ok ⟨⟨10, 60, 3600, none⟩, false⟩
  market _ := openingMoment tick
  chainTime := .ok 100

def openingConfig : Config (Fin 8) := ⟨1, 10 ^ 10, true, 0, 300⟩

def openingFleet : Fleet (Fin 8) where
  markets := [2]
  source address := if address = 2 then some ⟨2, ⟨10, 60, 3600, none⟩, false, 300⟩ else none
  books _ := forgotten
  retiring _ := false
  rejected _ := none
  lastPass _ := none
  seen _ := 0
  farewells := []

theorem opening_setting : Setting Registry.sampleMarketOf openingScene where
  moving := by
    constructor
    · intro tick
      unfold openingScene
      dsimp only
      split_ifs
      · exact Registry.showing_reachable
      · exact Registry.hidden_reachable
    · intro tick later order
      unfold openingScene
      dsimp only
      split_ifs
      · exact .refl _
      · exact .single _ Registry.showing_hides
      · omega
      · exact .refl _
  history address := by
    constructor
    · intro tick later id order settled
      exfalso
      revert settled
      change ¬((openingMoment tick).rounds id).Terminal
      unfold openingMoment
      dsimp only
      split_ifs
      · decide
      · decide
    · exact fun _ _ answered => (Except.ok.inj answered).symm
    · exact fun _ _ _ answered => (Except.ok.inj answered).symm

def openedFleet : Fleet (Fin 8) := (tick openingConfig openingScene 0 openingFleet).state

def refreshedAt : Nat :=
  (refreshMarkets openingConfig openingScene
    (tick openingConfig openingScene 0 openingFleet).clock openedFleet).clock

def refreshedFleet : Fleet (Fin 8) :=
  (refreshMarkets openingConfig openingScene
    (tick openingConfig openingScene 0 openingFleet).clock openedFleet).state

/-- Forgotten with the keeper's own round in flight: its last pass began
before that round was there. -/
theorem farewell_to_opening_market :
    ∃ state, (keeping openingConfig openingScene [2]).Reachable state ∧
      ∃ farewell ∈ state.2.farewells, farewell.lastPass = some 2 ∧
        (∃ tick < farewell.time, ¬Enabled (openingScene tick).registry farewell.address) ∧
        ¬(((openingScene farewell.time).market 2).rounds 1).Terminal := by
  have start : (keeping openingConfig openingScene [2]).Reachable (0, openingFleet) := by
    refine .initial ⟨rfl, List.nodup_singleton _, ?_, rfl, rfl, rfl, rfl, fun _ => Nat.le_refl 0⟩
    intro address m held
    simp only [openingFleet] at held
    split_ifs at held with here
    rw [← Option.some.inj held, here]
  have ticks : (keeping openingConfig openingScene [2]).step (0, openingFleet) .tick
      ((tick openingConfig openingScene 0 openingFleet).clock, openedFleet) := rfl
  have refreshes : (keeping openingConfig openingScene [2]).step
      ((tick openingConfig openingScene 0 openingFleet).clock, openedFleet) .refresh
      (refreshedAt, refreshedFleet) := rfl
  have reached := (start.step ticks).step refreshes
  have told : refreshedFleet.farewells = [⟨2, 0, some 2, 7⟩] := rfl
  have member : (⟨2, 0, some 2, 7⟩ : Farewell (Fin 8)) ∈ refreshedFleet.farewells := by
    rw [told]
    exact List.mem_singleton_self _
  obtain ⟨⟨tick, _, before, hidden⟩, _⟩ :=
    (farewells_of_reachable opening_setting reached).1 _ member
  exact ⟨_, reached, _, member, rfl, ⟨tick, before, hidden⟩, by decide⟩

end Sample

end Keeper

end Ghoststake
