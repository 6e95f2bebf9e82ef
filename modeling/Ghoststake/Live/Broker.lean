import Ghoststake.Ledger.Reads
import Ghoststake.Library.Machine
import Ghoststake.Library.Slices

/-!
# The live feed

A broker that fans what each committed range touched out to bounded channels,
dropping where one is full, and the websocket handlers at the other end. A
handler merges the updates it takes, then reads and pushes the rounds they
name; it may stall at any of its steps for as long as it likes. An update goes
to every handler with one slice of rounds, so they append to one array.
-/

namespace Ghoststake

set_option autoImplicit false

namespace Live

open Index Ledger Slices

/-! ## Updates -/

structure EntryBody where
  account : Option Address
  counterparty : Option Address
  deriving DecidableEq

instance : Inhabited RoundRef := ⟨⟨none, 0⟩⟩

structure Update where
  chainID : Int
  block : Nat
  rounds : Slice
  accounts : List Address
  deriving DecidableEq

def Update.touchedAccount (update : Update) : Option Address → Bool
  | none => false
  | some account => account ∈ update.accounts

def addNew {α : Type} [DecidableEq α] (into : List α) (a : α) : List α :=
  if a ∈ into then into else into ++ [a]

def addAccount (accounts : List Address) : Option Address → List Address
  | none => accounts
  | some account => addNew accounts account

section Summary

-- the cells the runtime makes room for when a slice outgrows its array
variable (capacity : Nat → Nat)

/-- `if !slices.Contains(into, ref) { into = append(into, ref) }`. -/
def addRound (made : Heap RoundRef × Slice) (ref : RoundRef) : Heap RoundRef × Slice :=
  if ref ∈ made.1.view made.2 then made
  else (made.1.append capacity made.2 ref, made.1.appended made.2)

def noRounds (heap : Heap RoundRef) : Heap RoundRef × Slice := (heap.alloc [], ⟨heap.next, 0⟩)

def summarise (heap : Heap RoundRef) (batch : Records EntryBody) (cursor : Cursor) :
    Heap RoundRef × Update :=
  let rounds := (batch.rounds.map refOf).foldl (addRound capacity) (noRounds heap)
  let ofRounds := batch.rounds.map fun e => e.body.account
  let ofEntries := batch.entries.flatMap fun e => [e.body.account, e.body.counterparty]
  (rounds.1, {
    chainID := cursor.chainID
    block := cursor.lastBlock
    rounds := rounds.2
    accounts := (ofRounds ++ ofEntries).foldl addAccount [] })

end Summary

section AddNew

variable {α : Type} [DecidableEq α] {into added : List α} {a : α}

theorem mem_foldl_addNew : a ∈ added.foldl addNew into ↔ a ∈ into ∨ a ∈ added := by
  induction added generalizing into with
  | nil => simp
  | cons b rest ih =>
      have first : a ∈ addNew into b ↔ a ∈ into ∨ a = b := by
        unfold addNew
        split
        · rename_i there
          constructor
          · exact Or.inl
          · rintro (old | rfl)
            · exact old
            · exact there
        · simp
      rw [List.foldl_cons, ih, first, List.mem_cons, or_assoc]

theorem nodup_foldl_addNew (distinct : into.Nodup) : (added.foldl addNew into).Nodup := by
  induction added generalizing into with
  | nil => exact distinct
  | cons b rest ih =>
      apply ih
      unfold addNew
      split
      · exact distinct
      · rename_i fresh
        rw [List.nodup_append]
        refine ⟨distinct, List.nodup_singleton b, ?_⟩
        intro c old d new same
        rw [List.mem_singleton.1 new] at same
        exact fresh (same ▸ old)

end AddNew

section Growing

variable {heap : Heap RoundRef} {s : Slice}
variable (capacity : Nat → Nat) (made : Heap RoundRef × Slice)

/-- Every slice of the one heap is a slice of the other, with the same rounds. -/
def Extends (heap later : Heap RoundRef) : Prop :=
  ∀ s, heap.Holds s → later.Holds s ∧ later.view s = heap.view s

theorem extends_alloc (cells : List RoundRef) : Extends heap (heap.alloc cells) :=
  fun _ holds => ⟨holds_alloc holds cells, view_alloc_of_lt holds.1 cells⟩

theorem view_add_round (holds : made.1.Holds made.2) (ref : RoundRef) :
    (addRound capacity made ref).1.view (addRound capacity made ref).2 =
      addNew (made.1.view made.2) ref := by
  unfold addRound addNew
  split_ifs
  · rfl
  · exact view_appended holds

theorem holds_add_round (holds : made.1.Holds made.2) (ref : RoundRef) :
    (addRound capacity made ref).1.Holds (addRound capacity made ref).2 := by
  unfold addRound
  split_ifs
  · exact holds
  · exact holds_appended holds

/-- Adding a round leaves a slice alone that is of another array, or that the
grown slice is no shorter than. -/
theorem kept_of_add_round (ref : RoundRef) (held : made.1.Holds s)
    (clear : s.array = made.2.array → s.length ≤ made.2.length) :
    (addRound capacity made ref).1.Holds s ∧
      (addRound capacity made ref).1.view s = made.1.view s := by
  unfold addRound
  split_ifs
  · exact ⟨held, rfl⟩
  · refine ⟨holds_append held, view_append held ?_⟩
    intro same longer
    have short := clear same
    omega

theorem next_le_add_round (ref : RoundRef) :
    made.1.next ≤ (addRound capacity made ref).1.next := by
  unfold addRound
  split_ifs
  · exact Nat.le_refl _
  · exact next_le_append

/-- The array a slice goes on in: its own or a new one. -/
theorem array_add_round (ref : RoundRef) :
    (addRound capacity made ref).2.array = made.2.array ∧
        made.2.length ≤ (addRound capacity made ref).2.length ∨
      (addRound capacity made ref).2.array = made.1.next := by
  unfold addRound
  split_ifs
  · exact .inl ⟨rfl, Nat.le_refl _⟩
  · unfold Heap.appended
    by_cases room : made.1.room made.2 = true
    · exact .inl ⟨if_pos room, Nat.le_succ _⟩
    · exact .inr (if_neg room)

/-- Adding rounds to a slice of a newer array changes no older slice. -/
theorem adding_rounds (added : List RoundRef) (holds : made.1.Holds made.2)
    (newer : heap.next ≤ made.2.array) (extended : Extends heap made.1)
    (grown : heap.next ≤ made.1.next) :
    let done := added.foldl (addRound capacity) made
    done.1.Holds done.2 ∧ done.1.view done.2 = added.foldl addNew (made.1.view made.2) ∧
      heap.next ≤ done.2.array ∧ Extends heap done.1 := by
  induction added generalizing made with
  | nil => exact ⟨holds, rfl, newer, extended⟩
  | cons ref rest ih =>
      rw [List.foldl_cons, List.foldl_cons, ← view_add_round capacity made holds ref]
      apply ih
      · exact holds_add_round capacity made holds ref
      · rcases array_add_round capacity made ref with own | fresh
        · rw [own.1]
          exact newer
        · rw [fresh]
          exact grown
      · intro s old
        obtain ⟨held, same⟩ := extended s old
        have apart : s.array = made.2.array → s.length ≤ made.2.length := by
          intro shares
          have older := old.1
          omega
        obtain ⟨still, view⟩ := kept_of_add_round capacity made ref held apart
        exact ⟨still, view.trans same⟩
      · exact grown.trans (next_le_add_round capacity made ref)

/-- An update names what its range touched, on an array of its own. -/
theorem summary (heap : Heap RoundRef) (batch : Records EntryBody) (cursor : Cursor) :
    let done := summarise capacity heap batch cursor
    done.1.Holds done.2.rounds ∧
      done.1.view done.2.rounds = (touchedBy batch).foldl addNew [] ∧
      heap.next ≤ done.2.rounds.array ∧ Extends heap done.1 := by
  have empty : (noRounds heap).1.view (noRounds heap).2 = [] := view_of_alloc [] 0
  have added := adding_rounds capacity (noRounds heap) (touchedBy batch)
    (holds_of_alloc (Nat.le_refl 0)) (Nat.le_refl _) (extends_alloc []) (Nat.le_succ _)
  rw [empty] at added
  exact added

end Growing

/-! ## Broker -/

structure Channel (α : Type) where
  capacity : Nat
  queue : List α
  fits : queue.length ≤ capacity

def Channel.make (α : Type) (capacity : Nat) : Channel α := ⟨capacity, [], Nat.zero_le _⟩

def Channel.full {α : Type} (ch : Channel α) : Bool := ch.capacity ≤ ch.queue.length

/-- `select { case ch <- a: default: }`. -/
def Channel.offer {α : Type} (ch : Channel α) (a : α) : Channel α :=
  if room : ch.queue.length < ch.capacity then
    { ch with
      queue := ch.queue ++ [a]
      fits := by
        rw [List.length_append]
        exact room }
  else ch

def Channel.rest {α : Type} (ch : Channel α) : Channel α :=
  { ch with
    queue := ch.queue.tail
    fits := by
      rw [List.length_tail]
      exact (Nat.sub_le _ _).trans ch.fits }

structure Broker where
  next : Nat
  subs : Nat → Option (Channel Update)
  dropped : Nat

def newBroker : Broker := ⟨0, fun _ => none, 0⟩

namespace Broker

variable (b : Broker)

def subscribe (buffer : Nat) : Broker :=
  { b with
    next := b.next + 1
    subs := Function.update b.subs b.next (some (Channel.make Update (max buffer 1))) }

def unsubscribe (id : Nat) : Broker := { b with subs := Function.update b.subs id none }

def fullOnes : Nat := (List.range b.next).countP fun id => (b.subs id).any Channel.full

/-- Notify every subscriber of an update, never blocking on any of them. -/
def publish (update : Update) : Broker :=
  if update.rounds.length = 0 ∧ update.accounts = [] then b
  else
    { b with
      subs := fun id => (b.subs id).map fun ch => ch.offer update
      dropped := b.dropped + b.fullOnes }

def queueOf (id : Nat) : List Update :=
  match b.subs id with
  | none => []
  | some ch => ch.queue

/-- `<-updates`. -/
def taken (id : Nat) : Broker :=
  { b with subs := Function.update b.subs id ((b.subs id).map Channel.rest) }

end Broker

/-! ## Subscribers -/

structure Server where
  chainID : Int
  /-- The stream whose cursor dates a push. -/
  stream : Text
  capital : Address → Nat → Bool
  collates : Option Address → Option Address → Bool
  /-- The cells the runtime makes room for when a slice outgrows its array. -/
  capacity : Nat → Nat

structure Frame where
  block : Nat
  rounds : List Round
  positions : List AccountPosition
  address : Option Address
  deriving DecidableEq

/-- The loop of `mergeRounds` over the rounds of an update, `done` of them through. -/
structure Merge where
  rounds : Slice
  done : Nat
  deriving DecidableEq

inductive Phase where
  /-- In `pushRounds` with nothing named, before it has picked the recent rounds. -/
  | selecting
  /-- Before it has read the events of these. -/
  | reading (refs : Slice)
  /-- Before it has read how far the index is. -/
  | stamping (frame : Frame)
  /-- In `WriteJSON`. -/
  | writing (frame : Frame)
  /-- Waiting for an update. -/
  | idle
  /-- Draining for a moment, and between two receives merging. -/
  | coalescing (touched : Slice) (named : Bool) (merging : Option Merge)
  | gone
  deriving DecidableEq

/-- A connection, with what it was sent and how many ranges had been committed
when its opening frame was read. -/
structure Client where
  address : Option Address
  phase : Phase
  frames : List Frame
  opened : Option Nat
  deriving DecidableEq

def defaultRoundLimit : Nat := 20

/-- The first lines of `pushRounds`. -/
def pushing (refs : Slice) : Phase := if refs.length = 0 then .selecting else .reading refs

def newClient (address : Option Address) : Client := ⟨address, .selecting, [], none⟩

def relevant (touched : Slice) (named : Bool) : Bool := 0 < touched.length || named

variable (server : Server)

/-- The positions a frame carries: those in a round it carries. -/
def positionsIn (events : List RoundEvent) (rounds : List Round) (address : Option Address) :
    List AccountPosition :=
  (projectPositions server.capital events address).filter fun p =>
    (shown rounds ⟨p.market, p.roundID⟩).isSome

def frameOf (events : List RoundEvent) (address : Option Address) : Frame where
  block := 0
  rounds := project events
  positions := if address = none then [] else positionsIn server events (project events) address
  address := address

/-- What the indexer has written: the tables, the ranges committed since the
broker was made, and the one whose publishing is still to come. -/
structure Indexed where
  db : Store EntryBody
  batches : List (Records EntryBody)
  unpublished : Option (Records EntryBody × Cursor)

def Client.query (index : Indexed) (heap : Heap RoundRef) (c : Client) : Heap RoundRef × Client :=
  match c.phase with
  | .selecting =>
      let recent := recentRounds server.collates index.db server.chainID none defaultRoundLimit
      (heap.alloc recent, { c with phase := .reading ⟨heap.next, recent.length⟩ })
  | .reading refs =>
      (heap, { c with
        phase := .stamping (frameOf server
          (roundEventsByRefs index.db server.chainID (heap.view refs)) c.address)
        opened := c.opened.or (some index.batches.length) })
  | .stamping frame =>
      let block := match index.db.loadCursor server.stream with
        | some cursor => cursor.lastBlock
        | none => 0
      (heap, { c with phase := .writing { frame with block := block } })
  | .writing _ | .idle | .coalescing _ _ _ | .gone => (heap, c)

def Client.wrote (c : Client) : Client :=
  match c.phase with
  | .writing frame => { c with phase := .idle, frames := c.frames ++ [frame] }
  | .selecting | .reading _ | .stamping _ | .idle | .coalescing _ _ _ | .gone => c

/-- `case <-deadline.C`, and what follows the loop. -/
def Client.deadline (c : Client) : Client :=
  match c.phase with
  | .coalescing touched named none =>
      if c.address ≠ none ∧ ¬relevant touched named then { c with phase := .idle }
      else { c with phase := pushing touched }
  | .coalescing _ _ (some _) | .selecting | .reading _ | .stamping _ | .writing _ | .idle | .gone =>
      c

/-- An update received, where the handler is at a receive. The first one's
rounds are what the others are merged into. -/
def Client.receive (c : Client) (update : Update) : Option Client :=
  match c.phase with
  | .idle =>
      some { c with phase := .coalescing update.rounds (update.touchedAccount c.address) none }
  | .coalescing touched named none =>
      some { c with
        phase := .coalescing touched (named || update.touchedAccount c.address)
          (some ⟨update.rounds, 0⟩) }
  | .coalescing _ _ (some _) | .selecting | .reading _ | .stamping _ | .writing _ | .gone => none

/-- One turn of the loop of `mergeRounds`. -/
def Client.merge (heap : Heap RoundRef) (c : Client) : Heap RoundRef × Client :=
  match c.phase with
  | .coalescing touched named (some m) =>
      match (heap.view m.rounds)[m.done]? with
      | none => (heap, { c with phase := .coalescing touched named none })
      | some ref =>
          let made := addRound server.capacity (heap, touched) ref
          (made.1, { c with
            phase := .coalescing made.2 named (some { m with done := m.done + 1 }) })
  | .coalescing _ _ none | .selecting | .reading _ | .stamping _ | .writing _ | .idle | .gone =>
      (heap, c)

/-- Whether a handler can return: at any failing call, or where it waits, but
not while it drains. -/
def Client.canLeave (c : Client) : Bool :=
  match c.phase with
  | .coalescing _ _ _ | .gone => false
  | .selecting | .reading _ | .stamping _ | .writing _ | .idle => true

/-! ## Runs -/

structure World where
  index : Indexed
  broker : Broker
  clients : Nat → Option Client
  heap : Heap RoundRef

inductive Happening where
  | connect (address : Option Address)
  | commit (batch : Records EntryBody) (stream : Text) (cursor : Cursor)
  | publish
  | query (id : Nat)
  | wrote (id : Nat)
  | take (id : Nat)
  | merge (id : Nat)
  | deadline (id : Nat)
  | leave (id : Nat)

/-- One range is committed after the one before was published. -/
def Indexed.commit (index : Indexed) (batch : Records EntryBody) (stream : Text)
    (cursor : Cursor) : Indexed :=
  match index.unpublished with
  | some _ => index
  | none =>
      { db := index.db.append batch stream cursor
        batches := index.batches ++ [batch]
        unpublished := some (batch, cursor) }

def World.publish (w : World) : World :=
  match w.index.unpublished with
  | none => w
  | some (batch, cursor) =>
      let made := summarise server.capacity w.heap batch cursor
      { w with
        index := { w.index with unpublished := none }
        broker := w.broker.publish made.2
        heap := made.1 }

def World.moved (w : World) (id : Nat) (move : Heap RoundRef → Client → Heap RoundRef × Client) :
    World :=
  match w.clients id with
  | none => w
  | some c =>
      let made := move w.heap c
      { w with
        heap := made.1
        clients := Function.update w.clients id (some made.2) }

def World.take (w : World) (id : Nat) : World :=
  match w.clients id, w.broker.queueOf id with
  | some c, update :: _ =>
      match c.receive update with
      | none => w
      | some c =>
          { w with
            broker := w.broker.taken id
            clients := Function.update w.clients id (some c) }
  | _, _ => w

def World.leave (w : World) (id : Nat) : World :=
  match w.clients id with
  | none => w
  | some c =>
      if c.canLeave then
        { w with
          broker := w.broker.unsubscribe id
          clients := Function.update w.clients id (some { c with phase := .gone }) }
      else w

def act (w : World) : Happening → World
  | .connect address =>
      { w with
        broker := w.broker.subscribe 4
        clients := Function.update w.clients w.broker.next (some (newClient address)) }
  | .commit batch stream cursor => { w with index := w.index.commit batch stream cursor }
  | .publish => w.publish server
  | .query id => w.moved id (Client.query server w.index)
  | .wrote id => w.moved id fun heap c => (heap, c.wrote)
  | .take id => w.take id
  | .merge id => w.moved id (Client.merge server)
  | .deadline id => w.moved id fun heap c => (heap, c.deadline)
  | .leave id => w.leave id

/-- The feed, from a new broker over whatever has been indexed. -/
def machine : Machine World Happening where
  initial w := w.index.batches = [] ∧ w.index.unpublished = none ∧ w.broker = newBroker ∧
    (w.clients = fun _ => none) ∧ w.heap = Heap.empty
  step w happening after := act server w happening = after

end Live

end Ghoststake
