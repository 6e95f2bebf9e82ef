import Ghoststake.Keeper.Passes

/-!
# The cursor abandons no round

Below the cursor every round is settled, whatever fails and whenever; a pass
whose reads all come back has seen every round above it and driven those that
were not.
-/

namespace Ghoststake

set_option autoImplicit false

open Calls

namespace Keeper

variable {Address : Type} {m : Market Address} {world : Nat → Moment Address}

/-- A settled round stays settled, and what a read answers is so when it is read. -/
structure History (world : Nat → Moment Address) : Prop where
  lasting : ∀ tick later id, tick ≤ later → ((world tick).rounds id).Terminal →
    ((world later).rounds id).Terminal
  counted : ∀ tick count, (world tick).roundCount = .ok count → count = (world tick).count
  read : ∀ tick id round, (world tick).roundAt id = .ok round → round = (world tick).rounds id

def Swept (world : Nat → Moment Address) (clock : Nat) (books : Books) : Prop :=
  ∀ id, 0 < id → id < books.cursor → ((world clock).rounds id).Terminal

/-- The notes of `books` go on from those of `base`. -/
structure Books.Grown (base books : Books) : Prop where
  examined : base.examined <+: books.examined
  driven : base.driven <+: books.driven

def Books.examinedSince (base books : Books) : List (Nat × Round) :=
  books.examined.drop base.examined.length

/-- The rounds `driveRound` was called on since the notes stood at `base`. -/
def Books.drivenSince (base books : Books) : List (Nat × Round) :=
  books.driven.drop base.driven.length

/-- Each of the ids was read since `start`, where the notes stood at `base`, and
driven since then unless it was settled when read. -/
def Covered (world : Nat → Moment Address) (start : Nat) (base : Books) (ids : List Nat)
    (clock : Nat) (books : Books) : Prop :=
  ∀ id ∈ ids, ∃ tick, start ≤ tick ∧ tick < clock ∧
    (id, (world tick).rounds id) ∈ base.examinedSince books ∧
    (¬((world tick).rounds id).Terminal → (id, (world tick).rounds id) ∈ base.drivenSince books)

theorem Books.Grown.refl (books : Books) : books.Grown books :=
  ⟨List.prefix_refl _, List.prefix_refl _⟩

theorem Books.Grown.trans {base books after : Books} (first : base.Grown books)
    (second : books.Grown after) : base.Grown after :=
  ⟨first.examined.trans second.examined, first.driven.trans second.driven⟩

theorem grown_see (books : Books) (id : Nat) (round : Round) : books.Grown (books.see id round) :=
  ⟨List.prefix_append _ _, List.prefix_refl _⟩

theorem grown_note (books : Books) (id : Nat) (round : Round) :
    books.Grown (books.note id round) :=
  ⟨List.prefix_refl _, List.prefix_append _ _⟩

/-- What a list ends in is among what was added to any list it goes on from. -/
theorem mem_added {base notes : List (Nat × Round)} (goesOn : base <+: notes)
    (last : Nat × Round) : last ∈ (notes ++ [last]).drop base.length := by
  rw [List.drop_append_of_le_length goesOn.length_le]
  exact List.mem_append_right _ (List.mem_singleton_self last)

/-! ## What acting on a round leaves alone -/

structure Books.Kept (books after : Books) : Prop where
  cursor : after.cursor = books.cursor
  examined : after.examined = books.examined
  driven : after.driven = books.driven

section Frames

variable {books after : Books} {id : Nat}

theorem Books.Kept.trans {final : Books} (first : books.Kept after) (second : after.Kept final) :
    books.Kept final where
  cursor := second.cursor.trans first.cursor
  examined := second.examined.trans first.examined
  driven := second.driven.trans first.driven

theorem kept_set_retry (books : Books) (id : Nat) (action : Action) (attempt : Option Attempt) :
    books.Kept (books.setRetry id action attempt) := ⟨rfl, rfl, rfl⟩

theorem kept_set_searched (books : Books) (id : Nat) (memo : Option SearchResult) :
    books.Kept (books.setSearched id memo) := ⟨rfl, rfl, rfl⟩

theorem kept_send (m : Market Address) (id : Nat) (action : Action) (method : String)
    (moment : Moment Address) (books : Books) :
    books.Kept (send m id action method moment books).2 := by
  unfold send
  cases moment.send with
  | error cause => exact kept_set_retry ..
  | ok sent => exact kept_set_retry ..

theorem kept_transact (m : Market Address) (id : Nat) (moment : Moment Address) (books : Books)
    (sent : Except Failure (Option Sent)) :
    books.Kept (transact m id moment books sent).2 := by
  cases sent with
  | error error => exact ⟨rfl, rfl, rfl⟩
  | ok sent =>
      cases sent with
      | none => exact ⟨rfl, rfl, rfl⟩
      | some transaction =>
          cases transaction with
          | resolveRound feedRoundId => exact kept_send ..
          | voidUnsettledRound => exact kept_send ..

variable [DecidableEq Address]

theorem kept_settle_round (m : Market Address) (id : Nat) (round : Round) (action : Action)
    (moment : Moment Address) (books : Books) :
    books.Kept (settleRound m id round action moment books).2 :=
  (kept_set_searched ..).trans (kept_transact ..)

theorem kept_act (m : Market Address) (id : Nat) (round : Round) (action : Action)
    (moment : Moment Address) (books : Books) :
    books.Kept (act m id round action moment books).2 := by
  unfold act
  split
  · exact ⟨rfl, rfl, rfl⟩
  · cases action with
    | none => exact ⟨rfl, rfl, rfl⟩
    | lock => exact kept_send ..
    | voidUnlocked => exact kept_send ..
    | resolve => exact kept_settle_round ..
    | voidUnsettled => exact kept_settle_round ..

end Frames

/-! ## A pass -/

section Passes

theorem Books.Kept.grown {books after : Books} (kept : books.Kept after) : books.Grown after :=
  ⟨kept.examined ▸ List.prefix_refl _, kept.driven ▸ List.prefix_refl _⟩

theorem Swept.later (history : History world) {clock later : Nat} {books : Books}
    (swept : Swept world clock books) (order : clock ≤ later) : Swept world later books := by
  intro id positive below
  exact history.lasting clock later id order (swept id positive below)

theorem Covered.later {start clock later : Nat} {base books after : Books} {ids : List Nat}
    (covered : Covered world start base ids clock books) (order : clock ≤ later)
    (grown : books.Grown after) : Covered world start base ids later after := by
  intro id member
  obtain ⟨tick, since, before, seen, drove⟩ := covered id member
  refine ⟨tick, since, by omega, (grown.examined.drop _).subset seen, ?_⟩
  intro live
  exact (grown.driven.drop _).subset (drove live)

/-- Where a pass that began with the notes at `base` stands before it reads the
round with this id. -/
structure Standing (world : Nat → Moment Address) (start : Nat) (base : Books) (done : List Nat)
    (advance : Bool) (id clock : Nat) (books : Books) : Prop where
  begun : start ≤ clock
  grown : base.Grown books
  swept : Swept world clock books
  covered : Covered world start base done clock books
  leading : advance = true → max 1 books.cursor = id

/-- And once it has, at a tick since the start. -/
structure Seen (world : Nat → Moment Address) (start : Nat) (base : Books) (done : List Nat)
    (advance : Bool) (id : Nat) (round : Round) (clock : Nat) (books : Books) : Prop where
  standing : Standing world start base done advance id clock books
  read : ∃ tick, start ≤ tick ∧ tick < clock ∧ round = (world tick).rounds id ∧
    (id, round) ∈ base.examinedSince books

theorem triple_read_round (history : History world) {start id : Nat} {base : Books}
    {done : List Nat} {advance : Bool} :
    Triple world (Standing world start base done advance id) (readRound id)
      (Seen world start base done advance id) (fun _ => Swept world) := by
  apply triple_call
  intro clock books standing
  have began := standing.begun
  have swept := standing.swept.later history (Nat.le_succ clock)
  cases answered : (world clock).roundAt id with
  | error cause => exact swept
  | ok round =>
      have grown := grown_see books id round
      refine ⟨⟨by omega, standing.grown.trans grown, swept, ?_, standing.leading⟩, clock, began,
        Nat.lt_succ_self clock, history.read clock id round answered,
        mem_added standing.grown.examined _⟩
      exact standing.covered.later (Nat.le_succ clock) grown

/-- A settled round: the cursor moves over it when nothing before it is open. -/
theorem triple_pass_over (history : History world) {start id : Nat} {base : Books}
    {done : List Nat} {advance : Bool} {round : Round} (settled : round.Terminal) :
    Triple world (Seen world start base done advance id round)
      (modify fun books => books.passOver id advance : Steps Address Unit)
      (fun _ => Standing world start base (done ++ [id]) advance (id + 1))
      (fun _ => Swept world) := by
  apply triple_modify
  intro clock books seen
  obtain ⟨tick, since, before, same, member⟩ := seen.read
  have past : ((world clock).rounds id).Terminal := by
    rw [same] at settled
    exact history.lasting tick clock id (by omega) settled
  have kept : (books.passOver id advance).examined = books.examined ∧
      (books.passOver id advance).driven = books.driven := by
    unfold Books.passOver
    split
    · exact ⟨rfl, rfl⟩
    · exact ⟨rfl, rfl⟩
  refine ⟨seen.standing.begun, ?_, ?_, ?_, ?_⟩
  · exact ⟨kept.1 ▸ seen.standing.grown.examined, kept.2 ▸ seen.standing.grown.driven⟩
  · cases advance with
    | false => exact seen.standing.swept
    | true =>
        have leading := seen.standing.leading rfl
        intro other positive below
        have within : other < id + 1 := below
        by_cases last : other = id
        · rw [last]
          exact past
        · exact seen.standing.swept other positive (by omega)
  · intro other member_of
    rw [List.mem_append, List.mem_singleton] at member_of
    rw [Books.examinedSince, Books.drivenSince, kept.1, kept.2]
    cases member_of with
    | inl earlier => exact seen.standing.covered other earlier
    | inr this =>
        subst this
        refine ⟨tick, since, before, same ▸ member, ?_⟩
        intro live
        exact absurd (same ▸ settled) live
  · intro still
    subst still
    show max 1 (id + 1) = id + 1
    omega

variable [DecidableEq Address]

/-- An open round is driven, and the cursor moves no further in this pass. -/
theorem triple_drive_round (history : History world) {start id : Nat} {base : Books}
    {done : List Nat} {advance : Bool} {round : Round} {now : Uint64} :
    Triple world (Seen world start base done advance id round)
      (swallow (driveRound m now id round))
      (fun _ => Standing world start base (done ++ [id]) false (id + 1))
      (fun _ => Swept world) := by
  apply triple_swallow
  apply triple_call
  intro clock books seen
  obtain ⟨tick, since, before, same, member⟩ := seen.read
  have kept : (books.note id round).Kept
      (if actionFor round m.timing now = .none then
          ((.ok (), books.note id round) : Except Failure Unit × Books)
        else act m id round (actionFor round m.timing now) (world clock) (books.note id round)).2 := by
    split
    · exact ⟨rfl, rfl, rfl⟩
    · exact kept_act ..
  have noted := grown_note books id round
  have drove : (id, round) ∈ base.drivenSince (books.note id round) :=
    mem_added seen.standing.grown.driven _
  have stands : ∀ after : Books, (books.note id round).Kept after →
      Standing world start base (done ++ [id]) false (id + 1) (clock + 1) after := by
    intro after kept
    have began := seen.standing.begun
    refine ⟨by omega, (seen.standing.grown.trans noted).trans kept.grown, ?_, ?_,
      by intro impossible; cases impossible⟩
    · intro other positive below
      rw [kept.cursor] at below
      exact seen.standing.swept.later history (Nat.le_succ clock) other positive below
    · intro other member_of
      rw [List.mem_append, List.mem_singleton] at member_of
      cases member_of with
      | inl earlier =>
          exact seen.standing.covered.later (Nat.le_succ clock) (noted.trans kept.grown)
            other earlier
      | inr this =>
          subst this
          rw [Books.examinedSince, Books.drivenSince, kept.examined, kept.driven]
          refine ⟨tick, since, by omega, same ▸ member, ?_⟩
          intro _
          rw [← same]
          exact drove
  split
  · exact stands _ kept
  · exact stands _ kept

theorem triple_examine (history : History world) {start : Nat} {base : Books} {now : Uint64}
    {count : Nat} (length : Nat) {id : Nat} {done : List Nat} {latest : Round} {advance : Bool} :
    Triple world (Standing world start base done advance id)
      (examine m now count (List.range' id length) latest advance)
      (fun _ clock books => Swept world clock books ∧ base.Grown books ∧
        Covered world start base (done ++ List.range' id length) clock books)
      (fun _ => Swept world) := by
  induction length generalizing id done latest advance with
  | zero =>
      apply triple_pure
      intro clock books standing
      rw [List.range'_zero, List.append_nil]
      exact ⟨standing.swept, standing.grown, standing.covered⟩
  | succ length induction =>
      have split : done ++ List.range' id (length + 1) =
          (done ++ [id]) ++ List.range' (id + 1) length := by
        rw [List.range'_succ, List.append_assoc, List.singleton_append]
      rw [split, List.range'_succ]
      apply triple_bind (triple_read_round history)
      intro round
      by_cases settled : round.Terminal
      · simp only [if_pos settled]
        exact triple_bind (triple_pass_over history settled) fun _ => induction
      · simp only [if_neg settled]
        exact triple_bind (triple_drive_round history) fun _ => induction

/-- What a pass whose reads all came back has done, since its notes stood at
`base`, about the rounds there were when it began. -/
def Complete (world : Nat → Moment Address) (start : Nat) (base : Books) (clock : Nat)
    (books : Books) : Prop :=
  ∀ id, 0 < id → id ≤ (world start).count → ((world start).rounds id).Terminal ∨
    ∃ tick, start ≤ tick ∧ tick < clock ∧
      (id, (world tick).rounds id) ∈ base.examinedSince books ∧
      (¬((world tick).rounds id).Terminal → (id, (world tick).rounds id) ∈ base.drivenSince books)

theorem triple_sweep (m : Market Address) (history : History world) (start : Nat)
    (now : Uint64) {base : Books} (swept : Swept world start base) :
    Triple world (fun clock books => clock = start ∧ books = base) (sweep m now)
      (fun _ clock books => Swept world clock books ∧ base.Grown books ∧
        Complete world start base clock books)
      (fun _ => Swept world) := by
  have counts : Triple world (fun clock books => clock = start ∧ books = base)
      (ask fun moment _ => moment.roundCount : Steps Address Nat)
      (fun count clock books => count = (world start).count ∧ start ≤ clock ∧ books = base)
      (fun _ => Swept world) := by
    apply triple_ask
    · intro clock books count begins answered
      obtain ⟨rfl, rfl⟩ := begins
      exact ⟨history.counted clock count answered, Nat.le_succ clock, rfl⟩
    · intro clock books error begins _
      obtain ⟨rfl, rfl⟩ := begins
      exact swept.later history (Nat.le_succ clock)
  apply triple_bind counts
  intro count
  have places : Triple world
      (fun clock books => count = (world start).count ∧ start ≤ clock ∧ books = base)
      (ask fun _ books => .ok books.cursor : Steps Address Nat)
      (fun cursor clock books => count = (world start).count ∧ cursor = base.cursor ∧
        start ≤ clock ∧ books = base) (fun _ => Swept world) := by
    apply triple_ask
    · intro clock books cursor begins answered
      obtain ⟨counted, later, rfl⟩ := begins
      cases answered
      exact ⟨counted, rfl, Nat.le_succ_of_le later, rfl⟩
    · intro clock books error _ answered
      cases answered
  apply triple_bind places
  intro cursor
  apply triple_of_start
  intro begun books begins
  obtain ⟨counted, placed, later, rfl⟩ := begins
  have standing : Standing world start books [] true (if cursor = 0 then 1 else cursor) begun
      books := by
    refine ⟨later, .refl books, swept.later history later, ?_, ?_⟩
    · intro id member
      cases member
    · intro _
      rw [← placed]
      split
      · omega
      · omega
  apply triple_weaken (triple_examine history _)
  · intro clock state same
    rw [same.1, same.2]
    exact standing
  · intro _ clock after ended
    refine ⟨ended.1, ended.2.1, ?_⟩
    intro id positive within
    by_cases below : id < books.cursor
    · exact Or.inl (swept id positive below)
    · right
      apply ended.2.2 id
      rw [List.nil_append, List.mem_range'_1]
      split
      · omega
      · omega
  · intro error clock after swept
    exact swept

theorem triple_drive_market (m : Market Address) (history : History world) (start : Nat)
    (retiring : Bool) (now : Uint64) {base : Books} (swept : Swept world start base) :
    Triple world (fun clock books => clock = start ∧ books = base)
      (driveMarket m retiring now) (fun _ => Swept world) (fun _ => Swept world) := by
  apply triple_bind (triple_sweep m history start now swept)
  intro read
  have noted : Triple world
      (fun clock books => Swept world clock books ∧ base.Grown books ∧
        Complete world start base clock books)
      (modify fun books => { books with pending := some (!read.2) } : Steps Address Unit)
      (fun _ => Swept world) (fun _ => Swept world) := by
    apply triple_modify
    intro clock books ended
    exact ended.1
  apply triple_bind noted
  intro _
  split
  · apply triple_ask
    · intro clock books opened swept _
      exact swept.later history (Nat.le_succ clock)
    · intro clock books error swept _
      exact swept.later history (Nat.le_succ clock)
  · apply triple_pure
    intro clock books swept
    exact swept

/-- What follows the sweep of a pass adds nothing to its notes. -/
theorem notes_of_sweep (retiring : Bool) {now : Uint64} {clock : Nat} {books : Books}
    {read : Round × Bool} (ran : (sweep m now world clock books).result = .ok read) :
    (driveMarket m retiring now world clock books).state.examined =
        (sweep m now world clock books).state.examined ∧
      (driveMarket m retiring now world clock books).state.driven =
        (sweep m now world clock books).state.driven := by
  have follows : driveMarket m retiring now world clock books =
      (do
        modify fun books => { books with pending := some (!read.2) }
        if shouldOpen m retiring read.1 now then ask fun world _ => world.openRound
        else pure () : Steps Address Unit) world (sweep m now world clock books).clock
          (sweep m now world clock books).state := by
    unfold driveMarket
    simp only [bind, ran]
  rw [follows]
  by_cases opens : shouldOpen m retiring read.1 now = true
  · simp only [if_pos opens]
    exact ⟨rfl, rfl⟩
  · simp only [if_neg opens]
    exact ⟨rfl, rfl⟩

end Passes

/-! ## Along a run -/

section Runs

variable [DecidableEq Address]

inductive Tick where
  | pass (retiring : Bool) (now : Uint64)
  | forget
  | wait

/-- A market under a keeper: passes over it, the times it is forgotten, and
whatever goes on between. -/
def driving (m : Market Address) (world : Nat → Moment Address) :
    Machine (Nat × Books) Tick where
  initial state := state.2 = forgotten
  step state tick after :=
    match tick with
    | .pass retiring now => after = ((driveMarket m retiring now world state.1 state.2).clock,
        (driveMarket m retiring now world state.1 state.2).state)
    | .forget => after = (state.1, forgotten)
    | .wait => after = (state.1 + 1, state.2)

omit [DecidableEq Address] in
theorem swept_of_forgotten (clock : Nat) : Swept world clock forgotten := by
  intro id _ below
  exact absurd below (Nat.not_lt_zero id)

theorem swept_of_reachable (history : History world) {state : Nat × Books}
    (reached : (driving m world).Reachable state) : Swept world state.1 state.2 := by
  apply reached.invariant fun state => Swept world state.1 state.2
  · intro state start
    rw [start]
    exact swept_of_forgotten state.1
  · intro state tick after _ before taken
    cases tick with
    | pass retiring now =>
        have ended := triple_drive_market m history state.1 retiring now before state.1 state.2
          ⟨rfl, rfl⟩
        rw [taken]
        simp only [Ended.Satisfies] at ended
        split at ended
        · exact ended
        · exact ended
    | forget =>
        rw [taken]
        exact swept_of_forgotten state.1
    | wait =>
        rw [taken]
        exact before.later history (Nat.le_succ state.1)

/-- Below the cursor everything is settled, in every state a keeper reaches;
and a pass none of whose reads failed has itself read every round that was not
settled when it began, and called `driveRound` on each that was not settled when
read. -/
theorem cursor_abandons_no_round (m : Market Address) {world : Nat → Moment Address}
    (history : History world) {state : Nat × Books}
    (reached : (driving m world).Reachable state) :
    (∀ id, 0 < id → id < state.2.cursor → ((world state.1).rounds id).Terminal) ∧
      ∀ retiring now read, (sweep m now world state.1 state.2).result = .ok read →
        ∃ examined driven,
          (driveMarket m retiring now world state.1 state.2).state.examined =
            state.2.examined ++ examined ∧
          (driveMarket m retiring now world state.1 state.2).state.driven =
            state.2.driven ++ driven ∧
          ∀ id, 0 < id → id ≤ (world state.1).count → ((world state.1).rounds id).Terminal ∨
            ∃ tick, state.1 ≤ tick ∧ tick < (sweep m now world state.1 state.2).clock ∧
              (id, (world tick).rounds id) ∈ examined ∧
              (¬((world tick).rounds id).Terminal → (id, (world tick).rounds id) ∈ driven) := by
  have swept := swept_of_reachable history reached
  refine ⟨swept, ?_⟩
  intro retiring now read ran
  have ended := triple_sweep m history state.1 now swept state.1 state.2 ⟨rfl, rfl⟩
  simp only [Ended.Satisfies, ran] at ended
  obtain ⟨_, grown, complete⟩ := ended
  obtain ⟨seen, drove⟩ := notes_of_sweep retiring ran
  obtain ⟨examined, sees⟩ := grown.examined
  obtain ⟨driven, drives⟩ := grown.driven
  refine ⟨examined, driven, seen.trans sees.symm, drove.trans drives.symm, ?_⟩
  simpa only [Complete, Books.examinedSince, Books.drivenSince, ← sees, ← drives,
    List.drop_left] using complete

end Runs

section Sample

/-- The second round waits for its feed, the others are settled. -/
def waitingRounds (id : Nat) : Round :=
  { Round.zero with status := if id = 2 then statusLocked else statusResolved }

def waitingMarket : Market (Fin 8) where
  timing := ⟨10, 10, 10, none⟩
  event := false
  openRounds := false
  signer := 1
  pollInterval := 5
  maxBackoff := 60

def waitingMoment : Moment (Fin 8) where
  count := 3
  rounds := waitingRounds
  roundCount := .ok 3
  roundAt id := .ok (waitingRounds id)
  view _ := ⟨false, .error (.call "no answer"), fun _ => .error (.call "no answer"),
    fun _ _ => .error (.call "no answer"), .error (.call "no answer")⟩
  send := .error (.call "no answer")
  openRound := .ok ()
  wall := 0

theorem waiting_history : History fun _ => waitingMoment where
  lasting _ _ _ _ settled := settled
  counted _ _ answered := (Except.ok.inj answered).symm
  read _ _ _ answered := (Except.ok.inj answered).symm

/-- Every pass drives the round the cursor waits at: the second one too. -/
theorem cursor_waits_at_an_open_round :
    ∃ state : Nat × Books, (driving waitingMarket fun _ => waitingMoment).Reachable state ∧
      state.2.cursor = 2 ∧ (2, waitingRounds 2) ∈ state.2.driven ∧
      ∃ driven, (driveMarket waitingMarket false 0 (fun _ => waitingMoment) state.1
        state.2).state.driven = state.2.driven ++ driven ∧ (2, waitingRounds 2) ∈ driven := by
  have start : (driving waitingMarket fun _ => waitingMoment).Reachable (0, forgotten) :=
    .initial rfl
  let passed := driveMarket waitingMarket false 0 (fun _ => waitingMoment) 0 forgotten
  have taken : (driving waitingMarket fun _ => waitingMoment).step (0, forgotten)
      (.pass false 0) (passed.clock, passed.state) := rfl
  have reached := start.step taken
  have waiting : ¬(waitingRounds 2).Terminal := by decide
  obtain ⟨_, complete⟩ := cursor_abandons_no_round waitingMarket waiting_history reached
  obtain ⟨_, driven, _, drives, complete⟩ := complete false 0 _ rfl
  have first : passed.state.driven = [(2, waitingRounds 2)] := rfl
  refine ⟨_, reached, by decide, first ▸ List.mem_singleton_self _, driven, drives, ?_⟩
  obtain settled | ⟨_, _, _, _, drove⟩ := complete 2 (by decide) (by decide)
  · exact absurd settled waiting
  · exact drove waiting

end Sample

end Keeper

end Ghoststake
