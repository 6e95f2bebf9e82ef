import Ghoststake.Keeper.Cursor
import Ghoststake.Keeper.Source

/-!
# The markets a keeper drives

A keeper passes over all of its markets at every tick and now and then reads
the registry again. A market that is hidden meanwhile is driven on until a
pass has found all of its rounds settled, and only then forgotten.
-/

namespace Ghoststake

set_option autoImplicit false

open Calls

namespace Keeper

variable {Address : Type}

/-! ## What can be driven -/

/-- What an operator chooses; the interval is in nanoseconds. -/
structure Config (Address : Type) where
  signer : Address
  pollInterval : Nat
  openRounds : Bool
  entryWindow : Uint64
  horizon : Uint64

inductive Problem (Address : Type) where
  | slowPoll (pollInterval : Nat) (market : Address) (window : Nat)
  | noHorizon (market : Address)
  | split (market : Address) (text : String)

def Driven.window (m : Driven Address) : Nat := m.timing.lockWindow.val * 10 ^ 9

def schedulePlan (cfg : Config Address) (m : Driven Address) :
    Except (Problem Address) (Uint64 × Uint64) :=
  let horizon := if m.horizon = 0 then cfg.horizon else m.horizon
  if horizon = 0 then .error (.noHorizon m.address)
  else
    match splitHorizon horizon cfg.entryWindow m.timing.entryCutoff with
    | .error text => .error (.split m.address text)
    | .ok plan => .ok plan

def validateMarket (cfg : Config Address) (m : Driven Address) : Except (Problem Address) Unit :=
  if m.window ≤ cfg.pollInterval then .error (.slowPoll cfg.pollInterval m.address m.window)
  else if cfg.openRounds ∧ ¬m.event then
    match schedulePlan cfg m with
    | .error problem => .error problem
    | .ok _ => .ok ()
  else .ok ()

def backoffCeiling : Nat := 30 * 10 ^ 9

def backoffLimit (markets : List (Driven Address)) : Nat :=
  max (10 ^ 9) (markets.foldl (fun limit m => min limit (m.window / 3)) backoffCeiling)

/-! ## The fleet -/

structure Scene (Address : Type) extends Listings Address where
  market : Address → Moment Address
  chainTime : Except Failure Uint64

/-- What is remembered of a market that is driven no more. -/
structure Farewell (Address : Type) where
  address : Address
  /-- When the registry was last read and showed it. -/
  seen : Nat
  /-- When its last complete pass began, if there was one. -/
  lastPass : Option Nat
  time : Nat

/-- The keeper's maps, with `lastPass`, `seen` and `farewells` to note what
its passes and its readings of the registry have found. -/
structure Fleet (Address : Type) where
  markets : List Address
  source : Source Address
  books : Address → Books
  retiring : Address → Bool
  rejected : Address → Option (Problem Address)
  lastPass : Address → Option Nat
  seen : Address → Nat
  farewells : List (Farewell Address)

abbrev Work (Address Value : Type) : Type :=
  Calls (Scene Address) (Fleet Address) Failure Value

variable [DecidableEq Address]

def Fleet.pending (fleet : Fleet Address) (address : Address) : Bool :=
  (fleet.books address).pending.getD false

def Fleet.driven (fleet : Fleet Address) : List (Driven Address) :=
  fleet.markets.filterMap fleet.source

def Fleet.marketOf (cfg : Config Address) (fleet : Fleet Address) (m : Driven Address) :
    Market Address where
  timing := m.timing
  event := m.event
  openRounds := cfg.openRounds
  signer := cfg.signer
  pollInterval := cfg.pollInterval
  maxBackoff := backoffLimit fleet.driven

/-! ## Ticks -/

def setBooks (address : Address) (books : Books) (fleet : Fleet Address) : Fleet Address :=
  { fleet with books := Function.update fleet.books address books }

def Fleet.passed (fleet : Fleet Address) (complete : Bool) (address : Address) (start : Nat) :
    Fleet Address :=
  { fleet with
    lastPass :=
      if complete then Function.update fleet.lastPass address (some start) else fleet.lastPass }

def completes (m : Market Address) (world : Nat → Moment Address) (now : Uint64) (start : Nat)
    (books : Books) : Bool :=
  match (sweep m now world start books).result with
  | .ok _ => true
  | .error _ => false

def drive (cfg : Config Address) (now : Uint64) (address : Address) : Work Address Unit :=
  fun world clock fleet =>
    match fleet.source address with
    | none => ⟨.ok (), clock, fleet⟩
    | some m =>
        let market := fleet.marketOf cfg m
        let rounds := fun tick => (world tick).market address
        let ended := driveMarket market (fleet.retiring address) now rounds clock
          (fleet.books address)
        let complete := completes market rounds now clock (fleet.books address)
        ⟨ended.result, ended.clock,
          setBooks address ended.state (fleet.passed complete address clock)⟩

def driveAll (cfg : Config Address) (now : Uint64) : List Address → Work Address Unit
  | [] => pure ()
  | address :: rest => do
      swallow (drive cfg now address)
      driveAll cfg now rest

def Fleet.forget (fleet : Fleet Address) (address : Address) (time : Nat) : Fleet Address where
  markets := fleet.markets.filter fun other => other ≠ address
  source := fleet.source
  books := Function.update fleet.books address forgotten
  retiring := Function.update fleet.retiring address false
  rejected := Function.update fleet.rejected address none
  lastPass := Function.update fleet.lastPass address none
  seen := fleet.seen
  farewells := fleet.farewells ++
    [⟨address, fleet.seen address, fleet.lastPass address, time⟩]

def retire (time : Nat) (fleet : Fleet Address) (address : Address) : Fleet Address :=
  if fleet.retiring address ∧ ¬fleet.pending address then fleet.forget address time else fleet

def retireFinished (time : Nat) (fleet : Fleet Address) : Fleet Address :=
  fleet.markets.foldl (retire time) fleet

def tick (cfg : Config Address) : Work Address Unit := do
  let now ← ask fun world _ => world.chainTime
  let markets ← ask fun _ fleet => .ok fleet.markets
  driveAll cfg now markets
  stamp retireFinished

/-! ## Refreshes -/

/-- A market that was driven, under what has just been read. -/
def review (listed : List Address) (time : Nat) (fleet : Fleet Address) (address : Address) :
    Fleet Address :=
  if address ∈ listed then
    { fleet with retiring := Function.update fleet.retiring address false }
  else if fleet.pending address then
    { fleet with retiring := Function.update fleet.retiring address true }
  else fleet.forget address time

/-- A market that was not; it counts as pending until a pass has shown otherwise. -/
def takeOn (cfg : Config Address) (kept : List Address) (fleet : Fleet Address)
    (m : Driven Address) : Fleet Address :=
  if m.address ∈ kept then fleet
  else
    match validateMarket cfg m with
    | .error problem =>
        { fleet with rejected := Function.update fleet.rejected m.address (some problem) }
    | .ok _ =>
        { fleet with
          markets := fleet.markets ++ [m.address]
          rejected := Function.update fleet.rejected m.address none
          books := Function.update fleet.books m.address
            { fleet.books m.address with pending := some true } }

def Fleet.see (fleet : Fleet Address) (listed : List Address) (start : Nat) : Fleet Address :=
  { fleet with seen := fun address => if address ∈ listed then start else fleet.seen address }

def adjust (cfg : Config Address) (listed : List (Driven Address)) (start time : Nat)
    (fleet : Fleet Address) : Fleet Address :=
  let addresses := listed.map Driven.address
  let reviewed := (fleet.markets.foldl (review addresses time) fleet)
  (listed.foldl (takeOn cfg reviewed.markets) reviewed).see addresses start

def setSource (source : Source Address) (fleet : Fleet Address) : Fleet Address :=
  { fleet with source := source }

/-- What could not be read changes nothing about what is driven. -/
def refreshMarkets (cfg : Config Address) : Work Address Unit := fun world clock fleet =>
  let read := zoom Scene.toListings Fleet.source setSource fromRegistry world clock fleet
  match read.result with
  | .error failure => ⟨.error failure, read.clock, read.state⟩
  | .ok listed => ⟨.ok (), read.clock, adjust cfg listed clock read.clock read.state⟩

inductive Beat where
  | tick | refresh | wait

def keeping (cfg : Config Address) (world : Nat → Scene Address) (startup : List Address) :
    Machine (Nat × Fleet Address) Beat where
  initial state := state.2.markets = startup ∧ startup.Nodup ∧ Keyed state.2.source ∧
    state.2.books = (fun _ => forgotten) ∧ state.2.retiring = (fun _ => false) ∧
    state.2.lastPass = (fun _ => none) ∧ state.2.farewells = [] ∧
    ∀ address, state.2.seen address ≤ state.1
  step state beat after :=
    match beat with
    | .tick => after = ((tick cfg world state.1 state.2).clock,
        (tick cfg world state.1 state.2).state)
    | .refresh => after = ((refreshMarkets cfg world state.1 state.2).clock,
        (refreshMarkets cfg world state.1 state.2).state)
    | .wait => after = (state.1 + 1, state.2)

/-! ## What a pass says of what is pending -/

section Passes

variable {m : Market Address} {world : Nat → Moment Address}

omit [DecidableEq Address] in
theorem pending_send (m : Market Address) (id : Nat) (action : Action) (method : String)
    (moment : Moment Address) (books : Books) :
    (send m id action method moment books).2.pending = books.pending := by
  unfold send
  cases moment.send with
  | error cause => rfl
  | ok sent => rfl

omit [DecidableEq Address] in
theorem pending_transact (m : Market Address) (id : Nat) (moment : Moment Address) (books : Books)
    (sent : Except Failure (Option Sent)) :
    (transact m id moment books sent).2.pending = books.pending := by
  cases sent with
  | error error => rfl
  | ok sent =>
      cases sent with
      | none => rfl
      | some transaction =>
          cases transaction with
          | resolveRound feedRoundId => exact pending_send ..
          | voidUnsettledRound => exact pending_send ..

theorem pending_act (m : Market Address) (id : Nat) (round : Round) (action : Action)
    (moment : Moment Address) (books : Books) :
    (act m id round action moment books).2.pending = books.pending := by
  unfold act
  split
  · rfl
  · cases action with
    | none => rfl
    | lock => exact pending_send ..
    | voidUnlocked => exact pending_send ..
    | resolve => exact pending_transact ..
    | voidUnsettled => exact pending_transact ..

/-- Reading and driving rounds writes nothing down about what is pending. -/
theorem triple_examine_pending (m : Market Address) (now : Uint64) (count : Nat)
    (pending : Option Bool) (ids : List Nat) {latest : Round} {advance : Bool} :
    Triple world (fun _ books => books.pending = pending) (examine m now count ids latest advance)
      (fun _ _ books => books.pending = pending) (fun _ _ books => books.pending = pending) := by
  induction ids generalizing latest advance with
  | nil =>
      apply triple_pure
      exact fun _ _ same => same
  | cons id rest induction =>
      have reads : Triple world (fun _ books => books.pending = pending) (readRound id)
          (fun _ _ books => books.pending = pending) (fun _ _ books => books.pending = pending) := by
        apply triple_call
        intro clock books same
        cases (world clock).roundAt id with
        | error cause => exact same
        | ok round => exact same
      apply triple_bind reads
      intro round
      by_cases settled : round.Terminal
      · simp only [if_pos settled]
        have passes : Triple world (fun _ books => books.pending = pending)
            (modify fun books => books.passOver id advance : Steps Address Unit)
            (fun _ _ books => books.pending = pending)
            (fun _ _ books => books.pending = pending) := by
          apply triple_modify
          intro clock books same
          cases advance with
          | false => exact same
          | true => exact same
        exact triple_bind passes fun _ => induction
      · simp only [if_neg settled]
        have drives : Triple world (fun _ books => books.pending = pending)
            (swallow (driveRound m now id round)) (fun _ _ books => books.pending = pending)
            (fun _ _ books => books.pending = pending) := by
          apply triple_swallow
          apply triple_call
          intro clock books same
          have kept : (if actionFor round m.timing now = .none then
                ((.ok (), books.note id round) : Except Failure Unit × Books)
              else act m id round (actionFor round m.timing now) (world clock)
                (books.note id round)).2.pending = pending := by
            split
            · exact same
            · rw [pending_act]
              exact same
          split
          · exact kept
          · exact kept
        exact triple_bind drives fun _ => induction

/-- Where everything up to the count was found settled, the cursor is past it. -/
theorem triple_examine_standing (history : History world) {start : Nat} {base : Books}
    {now : Uint64} {count : Nat} (length : Nat) {id : Nat} {done : List Nat} {latest : Round}
    {advance : Bool} :
    Triple world (Standing world start base done advance id)
      (examine m now count (List.range' id length) latest advance)
      (fun read clock books =>
        ∃ done, Standing world start base done read.2 (id + length) clock books)
      (fun _ => Swept world) := by
  induction length generalizing id done latest advance with
  | zero =>
      apply triple_pure
      exact fun clock books standing => ⟨done, standing⟩
  | succ length induction =>
      have rest : id + (length + 1) = id + 1 + length := by omega
      rw [List.range'_succ, rest]
      apply triple_bind (triple_read_round history)
      intro round
      by_cases settled : round.Terminal
      · simp only [if_pos settled]
        exact triple_bind (triple_pass_over history settled) fun _ => induction
      · simp only [if_neg settled]
        exact triple_bind (triple_drive_round history) fun _ => induction

theorem onward_examine (m : Market Address) (now : Uint64) (count : Nat) (ids : List Nat)
    (latest : Round) (advance : Bool) : Onward (examine m now count ids latest advance) := by
  induction ids generalizing latest advance with
  | nil => exact onward_pure _
  | cons id rest induction =>
      apply onward_bind (onward_call _)
      intro round
      by_cases settled : round.Terminal
      · simp only [if_pos settled]
        exact onward_bind (onward_modify _) fun _ => induction _ _
      · simp only [if_neg settled]
        exact onward_bind (onward_swallow (onward_call _)) fun _ => induction _ _

def SettledSince (world : Nat → Moment Address) (start clock : Nat) : Prop :=
  ∀ id, 0 < id → id ≤ (world start).count → ((world clock).rounds id).Terminal

omit [DecidableEq Address] in
theorem SettledSince.later (history : History world) {start clock later : Nat}
    (settled : SettledSince world start clock) (order : clock ≤ later) :
    SettledSince world start later :=
  fun id positive within => history.lasting clock later id order (settled id positive within)

theorem triple_sweep_settles (m : Market Address) (history : History world) (start : Nat)
    (now : Uint64) (pending : Option Bool) :
    Triple world
      (fun clock books => clock = start ∧ Swept world start books ∧ books.pending = pending)
      (sweep m now)
      (fun read clock books => start < clock ∧ Swept world clock books ∧ books.pending = pending ∧
        (read.2 = true → SettledSince world start clock))
      (fun _ clock books => start < clock ∧ Swept world clock books ∧
        books.pending = pending) := by
  have counts : Triple world
      (fun clock books => clock = start ∧ Swept world start books ∧ books.pending = pending)
      (ask fun moment _ => moment.roundCount : Steps Address Nat)
      (fun count clock books => count = (world start).count ∧ start < clock ∧
        Swept world start books ∧ books.pending = pending)
      (fun _ clock books => start < clock ∧ Swept world clock books ∧
        books.pending = pending) := by
    apply triple_ask
    · intro clock books count begins answered
      obtain ⟨rfl, swept, same⟩ := begins
      exact ⟨history.counted clock count answered, Nat.lt_succ_self clock, swept, same⟩
    · intro clock books error begins _
      obtain ⟨rfl, swept, same⟩ := begins
      exact ⟨Nat.lt_succ_self clock, swept.later history (Nat.le_succ clock), same⟩
  apply triple_bind counts
  intro count
  have places : Triple world
      (fun clock books => count = (world start).count ∧ start < clock ∧
        Swept world start books ∧ books.pending = pending)
      (ask fun _ books => .ok books.cursor : Steps Address Nat)
      (fun cursor clock books => count = (world start).count ∧ cursor = books.cursor ∧
        start < clock ∧ Swept world start books ∧ books.pending = pending)
      (fun _ clock books => start < clock ∧ Swept world clock books ∧
        books.pending = pending) := by
    apply triple_ask
    · intro clock books cursor begins answered
      cases answered
      exact ⟨begins.1, rfl, Nat.lt_succ_of_lt begins.2.1, begins.2.2⟩
    · intro clock books error _ answered
      cases answered
  apply triple_bind places
  intro cursor
  apply triple_of_start
  intro begun initial begins
  obtain ⟨counted, placed, later, swept, same⟩ := begins
  have since := Nat.le_of_lt later
  obtain ⟨first, leads⟩ : ∃ first, first = if cursor = 0 then 1 else cursor := ⟨_, rfl⟩
  have ids : idsFrom cursor count = List.range' first (count + 1 - first) := by
    rw [leads]
    rfl
  have standing : Standing world start initial [] true first begun initial := by
    refine ⟨since, .refl initial, swept.later history since, ?_, ?_⟩
    · intro id member
      cases member
    · intro _
      rw [leads, ← placed]
      split
      · omega
      · omega
  have both : Triple world
      (fun clock books => start + 1 ≤ clock ∧ books.pending = pending ∧
        Standing world start initial [] true first clock books)
      (examine m now count (List.range' first (count + 1 - first)) Round.zero true)
      (fun read clock books => start + 1 ≤ clock ∧ books.pending = pending ∧
        ∃ done, Standing world start initial done read.2 (first + (count + 1 - first)) clock books)
      (fun _ clock books => start + 1 ≤ clock ∧ books.pending = pending ∧
        Swept world clock books) :=
    triple_and (triple_onward (onward_examine _ _ _ _ _ _) (start + 1))
      (triple_and (triple_examine_pending _ _ _ _ _) (triple_examine_standing history _))
  rw [ids]
  apply triple_weaken both
  · intro clock state here
    rw [here.1, here.2]
    exact ⟨later, same, standing⟩
  · intro read clock after ended
    obtain ⟨onward, kept, done, stands⟩ := ended
    refine ⟨onward, stands.swept, kept, ?_⟩
    intro all id positive within
    have past := stands.leading all
    apply stands.swept id positive
    rw [← counted] at within
    omega
  · exact fun error clock after ended => ⟨ended.1, ended.2.2, ended.2.1⟩

/-- A pass none of whose reads failed says that nothing is pending only where
all it found when it began is settled; any other leaves what was said before. -/
structure Passed (world : Nat → Moment Address) (start : Nat) (books : Books)
    (complete : Bool) (clock : Nat) (after : Books) : Prop where
  later : start < clock
  swept : Swept world clock after
  answers : complete = true → after.pending ≠ none
  settles : complete = true → after.pending = some false → SettledSince world start clock
  keeps : complete = false → after.pending = books.pending

theorem passed_of_drive_market (m : Market Address) (history : History world) {start : Nat}
    {books : Books} (retiring : Bool) (now : Uint64) (swept : Swept world start books) :
    Passed world start books (completes m world now start books)
      (driveMarket m retiring now world start books).clock
      (driveMarket m retiring now world start books).state := by
  have ended := triple_sweep_settles m history start now books.pending start books
    ⟨rfl, swept, rfl⟩
  simp only [Ended.Satisfies] at ended
  cases ran : (sweep m now world start books).result with
  | error failure =>
      rw [ran] at ended
      have stops : driveMarket m retiring now world start books =
          ⟨.error failure, (sweep m now world start books).clock,
            (sweep m now world start books).state⟩ := by
        unfold driveMarket
        simp only [bind, ran]
      rw [stops]
      have incomplete : completes m world now start books = false := by
        rw [completes, ran]
      rw [incomplete]
      exact ⟨ended.1, ended.2.1, (fun impossible => by cases impossible),
        (fun impossible => by cases impossible), fun _ => ended.2.2⟩
  | ok read =>
      rw [ran] at ended
      obtain ⟨later, reached, _, settles⟩ := ended
      have follows : driveMarket m retiring now world start books =
          (do
            modify fun books => { books with pending := some (!read.2) }
            if shouldOpen m retiring read.1 now then ask fun world _ => world.openRound
            else pure () : Steps Address Unit) world (sweep m now world start books).clock
              (sweep m now world start books).state := by
        unfold driveMarket
        simp only [bind, ran]
      have complete : completes m world now start books = true := by
        rw [completes, ran]
      have stands (clock : Nat) (order : (sweep m now world start books).clock ≤ clock) :
          Passed world start books true clock
            { (sweep m now world start books).state with pending := some (!read.2) } := by
        refine ⟨by omega, reached.later history order, ?_, ?_, ?_⟩
        · exact fun _ => Option.some_ne_none _
        · intro _ none
          have all : read.2 = true := by simpa using none
          exact (settles all).later history order
        · intro impossible
          cases impossible
      rw [follows, complete]
      by_cases opens : shouldOpen m retiring read.1 now = true
      · simp only [if_pos opens]
        exact stands _ (Nat.le_succ _)
      · simp only [if_neg opens]
        exact stands _ (Nat.le_refl _)

end Passes

end Keeper

end Ghoststake
