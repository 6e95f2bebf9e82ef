import Ghoststake.Library.Checked
import Ghoststake.Live.Arrays

/-!
# Wake-ups

Whether a subscriber hears of every round that moved. An update is dropped
where a channel is full, and the read it would have asked for is then one that
nothing asks for, unless the round is named by what the subscriber has still
to take, or to read. And what a subscriber is to read lies in an array that
others append to: a round is lost too where one of them writes over it.
-/

namespace Ghoststake

set_option autoImplicit false

open Checked

namespace Live

open Index Ledger Slices

variable {server : Server} {index : Indexed} {queue : List Update} {c next : Client}
variable {heap later : Heap RoundRef} {ref : RoundRef}

/-! ## What a subscriber has been shown, and what it will read -/

def unmerged (heap : Heap RoundRef) : Option Merge → List RoundRef
  | none => []
  | some m => (heap.view m.rounds).drop m.done

/-- What the read a handler is heading for asks for so far. -/
def Phase.asked (heap : Heap RoundRef) : Phase → List RoundRef
  | .reading refs => heap.view refs
  | .coalescing touched _ m => (unmerged heap m).foldl addNew (heap.view touched)
  | .selecting | .stamping _ | .writing _ | .idle | .gone => []

def Phase.inHand : Phase → List Frame
  | .stamping frame | .writing frame => [frame]
  | .selecting | .reading _ | .idle | .coalescing _ _ _ | .gone => []

def lastShown (frames : List Frame) (ref : RoundRef) : Option Round :=
  (frames.filterMap fun frame => shown frame.rounds ref).getLast?

/-- Something happened to the round since the opening frame was read. -/
def Touched (index : Indexed) (c : Client) (ref : RoundRef) : Prop :=
  ∃ n, c.opened = some n ∧ ∃ batch ∈ index.batches.drop n, ref ∈ touchedBy batch

/-- The round is named by an update still to be taken, or asked for by the
read to come. -/
def Awaits (heap : Heap RoundRef) (queue : List Update) (c : Client) (ref : RoundRef) : Prop :=
  (∃ update ∈ queue, ref ∈ heap.view update.rounds) ∨ ref ∈ c.phase.asked heap

instance (heap : Heap RoundRef) (queue : List Update) (c : Client) (ref : RoundRef) :
    Decidable (Awaits heap queue c ref) :=
  inferInstanceAs (Decidable (_ ∨ _))

def Unannounced (index : Indexed) (ref : RoundRef) : Prop :=
  ∃ batch cursor, index.unpublished = some (batch, cursor) ∧ ref ∈ touchedBy batch

theorem last_shown_append (frames : List Frame) (frame : Frame) (ref : RoundRef) :
    lastShown (frames ++ [frame]) ref = (shown frame.rounds ref).or (lastShown frames ref) := by
  rw [lastShown, List.filterMap_append, List.getLast?_append]
  cases shows : shown frame.rounds ref with
  | none => simp [lastShown, shows]
  | some r => simp [shows]

/-! ## The invariant of a subscriber -/

/-- Every round that moved since the opening frame is as last shown, or a read
of it is still to come. -/
structure Informed (server : Server) (index : Indexed) (heap : Heap RoundRef)
    (queue : List Update) (c : Client) : Prop where
  once : (c.phase.asked heap).Nodup
  onceQueued : ∀ update ∈ queue, (heap.view update.rounds).Nodup
  nothing : ∀ ref, currentRound index.db server.chainID ref = none →
    lastShown (c.frames ++ c.phase.inHand) ref = none
  settled : ∀ ref, Touched index c ref → Unannounced index ref ∨ Awaits heap queue c ref ∨
    lastShown (c.frames ++ c.phase.inHand) ref = currentRound index.db server.chainID ref

theorem informed_of_new (server : Server) (index : Indexed) (heap : Heap RoundRef)
    (address : Option Address) : Informed server index heap [] (newClient address) where
  once := List.nodup_nil
  onceQueued := by nofun
  nothing _ _ := rfl
  settled ref touched := by
    obtain ⟨n, never, _⟩ := touched
    cases never

/-- Nothing read or sent, and every read to come still to come. -/
theorem Informed.moved (informed : Informed server index heap queue c) {queue' : List Update}
    (once : (next.phase.asked later).Nodup)
    (onceQueued : ∀ update ∈ queue', (later.view update.rounds).Nodup)
    (opened : next.opened = c.opened)
    (frames : ∀ ref, lastShown (next.frames ++ next.phase.inHand) ref =
      lastShown (c.frames ++ c.phase.inHand) ref)
    (awaits : ∀ ref, Awaits heap queue c ref → Awaits later queue' next ref) :
    Informed server index later queue' next where
  once := once
  onceQueued := onceQueued
  nothing ref absent := (frames ref).trans (informed.nothing ref absent)
  settled ref touched := by
    have before : Touched index c ref := by
      obtain ⟨n, since, batch⟩ := touched
      exact ⟨n, opened ▸ since, batch⟩
    rw [frames]
    exact (informed.settled ref before).imp_right (Or.imp_left (awaits ref))

/-- Whatever happens to the heap, as long as it leaves what this subscriber
has to take and to read. -/
theorem Informed.spared (informed : Informed server index heap queue c)
    (queued : ∀ update ∈ queue, later.view update.rounds = heap.view update.rounds)
    (asks : c.phase.asked later = c.phase.asked heap) :
    Informed server index later queue c := by
  apply informed.moved
  · rw [asks]
    exact informed.once
  · intro update member
    rw [queued update member]
    exact informed.onceQueued update member
  · rfl
  · exact fun _ => rfl
  · intro ref awaits
    rw [Awaits, asks]
    refine awaits.imp_left ?_
    intro ⟨update, member, names⟩
    exact ⟨update, member, (queued update member).symm ▸ names⟩

theorem Informed.commit (informed : Informed server index heap queue c)
    (batch : Records EntryBody) (stream : Text) (cursor : Cursor) :
    Informed server (index.commit batch stream cursor) heap queue c := by
  unfold Indexed.commit
  split
  · exact informed
  · rename_i published
    constructor
    · exact informed.once
    · exact informed.onceQueued
    · intro ref absent
      apply informed.nothing ref
      by_contra here
      exact current_round_append_ne_none here absent
    · intro ref touched
      by_cases moved : ref ∈ touchedBy batch
      · exact .inl ⟨batch, cursor, rfl, moved⟩
      · have before : Touched index c ref := by
          obtain ⟨n, opened, other, member, names⟩ := touched
          rw [List.drop_append] at member
          rcases List.mem_append.1 member with old | new
          · exact ⟨n, opened, other, old, names⟩
          · have same : other = batch := List.mem_singleton.1 (List.mem_of_mem_drop new)
            exact absurd (same ▸ names) moved
        rw [current_round_append_of_untouched moved]
        rcases informed.settled ref before with unannounced | rest
        · obtain ⟨_, _, pending, _⟩ := unannounced
          rw [published] at pending
          cases pending
        · exact .inr rest

theorem Informed.publish (informed : Informed server index heap queue c)
    {batch : Records EntryBody} {cursor : Cursor} {queue' : List Update}
    (pending : index.unpublished = some (batch, cursor))
    (onceQueued : ∀ update ∈ queue', (heap.view update.rounds).Nodup)
    (keeps : ∀ update ∈ queue, update ∈ queue')
    (hears : c.opened ≠ none → ∀ ref ∈ touchedBy batch, Awaits heap queue' c ref) :
    Informed server { index with unpublished := none } heap queue' c where
  once := informed.once
  onceQueued := onceQueued
  nothing := informed.nothing
  settled ref touched := by
    rcases informed.settled ref touched with unannounced | awaits | shows
    · obtain ⟨n, opened, _⟩ := touched
      obtain ⟨other, _, same, names⟩ := unannounced
      rw [pending] at same
      cases same
      exact .inr (.inl (hears (by rw [opened]; nofun) ref names))
    · refine .inr (.inl (awaits.imp_left ?_))
      intro ⟨update, member, names⟩
      exact ⟨update, keeps update member, names⟩
    · exact .inr (.inr shows)

/-! ## What the handler does -/

/-- The read of a push: what it asked for is shown as it stands. -/
theorem Informed.read (informed : Informed server index heap queue c) {slice : Slice}
    (heading : c.phase = .reading slice) :
    Informed server index heap queue (c.query server index heap).2 := by
  let refs := heap.view slice
  let frame := frameOf server (roundEventsByRefs index.db server.chainID refs) c.address
  have read : (c.query server index heap).2 = { c with
      phase := .stamping frame
      opened := c.opened.or (some index.batches.length) } := by
    simp only [Client.query, heading, frame, refs]
  have once : refs.Nodup := by
    have := informed.once
    rwa [heading] at this
  have held : c.frames ++ c.phase.inHand = c.frames := by
    rw [heading]
    exact List.append_nil _
  have asked (ref : RoundRef) (member : ref ∈ refs) :
      shown frame.rounds ref = currentRound index.db server.chainID ref :=
    shown_read once member index.db server.chainID
  have unasked (ref : RoundRef) (absent : ref ∉ refs) : shown frame.rounds ref = none :=
    shown_read_of_not_asked absent index.db server.chainID
  have nothing (ref : RoundRef) (absent : currentRound index.db server.chainID ref = none) :
      lastShown (c.frames ++ [frame]) ref = none := by
    have before := informed.nothing ref absent
    rw [held] at before
    have blank : shown frame.rounds ref = none := by
      by_cases member : ref ∈ refs
      · exact (asked ref member).trans absent
      · exact unasked ref member
    rw [last_shown_append, blank, before]
    rfl
  rw [read]
  constructor
  · exact List.nodup_nil
  · exact informed.onceQueued
  · exact nothing
  · intro ref touched
    by_cases member : ref ∈ refs
    · -- shown now, or there is nothing to show
      refine .inr (.inr ?_)
      cases here : currentRound index.db server.chainID ref with
      | none => exact nothing ref here
      | some r =>
          have shows : shown frame.rounds ref = some r := (asked ref member).trans here
          change lastShown (c.frames ++ [frame]) ref = some r
          rw [last_shown_append, shows]
          rfl
    · obtain ⟨n, opened, batch, later, names⟩ := touched
      cases already : c.opened with
      | none =>
          -- the opening frame: nothing has happened since
          have now : n = index.batches.length := by
            rw [already] at opened
            exact (Option.some.inj opened).symm
          rw [now, List.drop_length] at later
          exact absurd later List.not_mem_nil
      | some m =>
          have same : c.opened = some n := by
            rw [already] at opened
            exact already.trans opened
          have before := informed.settled ref ⟨n, same, batch, later, names⟩
          rw [held] at before
          rcases before with unannounced | (queued | asks) | shows
          · exact .inl unannounced
          · exact .inr (.inl (.inl queued))
          · rw [heading] at asks
            exact absurd asks member
          · refine .inr (.inr ?_)
            change lastShown (c.frames ++ [frame]) ref = _
            rw [last_shown_append, unasked ref member, shows]
            rfl

theorem Informed.query (informed : Informed server index heap queue c)
    (held : ∀ update ∈ queue, heap.Holds update.rounds) :
    Informed server index (c.query server index heap).1 queue (c.query server index heap).2 := by
  cases phase : c.phase with
  | reading refs =>
      have still : (c.query server index heap).1 = heap := by simp only [Client.query, phase]
      rw [still]
      exact informed.read phase
  | selecting =>
      let recent := recentRounds server.collates index.db server.chainID none defaultRoundLimit
      have picked : c.query server index heap =
          (heap.alloc recent, { c with phase := .reading ⟨heap.next, recent.length⟩ }) := by
        simp only [Client.query, phase, recent]
      have asks : (heap.alloc recent).view ⟨heap.next, recent.length⟩ = recent := by
        rw [view_of_alloc, List.take_length]
      rw [picked]
      apply informed.moved
      · rw [Phase.asked, asks]
        exact nodup_recent_rounds _ _ _ _ _
      · intro update member
        rw [view_alloc_of_lt (held update member).1]
        exact informed.onceQueued update member
      · rfl
      · intro ref
        rw [phase]
        rfl
      · intro ref awaits
        rw [Awaits, phase] at awaits
        rcases awaits with ⟨update, member, names⟩ | none
        · exact .inl ⟨update, member,
            (view_alloc_of_lt (held update member).1 _).symm ▸ names⟩
        · exact absurd none List.not_mem_nil
  | stamping frame =>
      have stamped : ∃ block, c.query server index heap =
          (heap, { c with phase := .writing { frame with block := block } }) := by
        simp only [Client.query, phase]
        exact ⟨_, rfl⟩
      obtain ⟨block, stamped⟩ := stamped
      rw [stamped]
      apply informed.moved
      · exact List.nodup_nil
      · exact informed.onceQueued
      · rfl
      · intro ref
        rw [phase, Phase.inHand, Phase.inHand, last_shown_append, last_shown_append]
      · intro ref awaits
        rwa [Awaits, phase] at awaits
  | writing _ | idle | coalescing _ _ _ | gone =>
      have still : c.query server index heap = (heap, c) := by simp only [Client.query, phase]
      rw [still]
      exact informed

theorem Informed.wrote (informed : Informed server index heap queue c) :
    Informed server index heap queue c.wrote := by
  cases phase : c.phase with
  | writing frame =>
      have sent : c.wrote = { c with phase := .idle, frames := c.frames ++ [frame] } := by
        simp only [Client.wrote, phase]
      rw [sent]
      apply informed.moved
      · exact List.nodup_nil
      · exact informed.onceQueued
      · rfl
      · intro ref
        rw [phase]
        exact congrArg (fun frames => lastShown frames ref) (List.append_nil _)
      · intro ref awaits
        rwa [Awaits, phase] at awaits
  | selecting | reading _ | stamping _ | idle | coalescing _ _ _ | gone =>
      have still : c.wrote = c := by simp only [Client.wrote, phase]
      rw [still]
      exact informed

theorem asked_pushing (refs : Slice) : (pushing refs).asked heap = heap.view refs := by
  unfold pushing
  split
  · rename_i empty
    rw [Heap.view, empty]
    rfl
  · rfl

theorem in_hand_pushing (refs : Slice) : (pushing refs).inHand = [] := by
  unfold pushing
  split <;> rfl

theorem Informed.deadline (informed : Informed server index heap queue c) :
    Informed server index heap queue c.deadline := by
  cases phase : c.phase with
  | coalescing touched named m =>
      cases m with
      | some m =>
          have still : c.deadline = c := by simp only [Client.deadline, phase]
          rw [still]
          exact informed
      | none =>
          by_cases passes : c.address ≠ none ∧ ¬relevant touched named
          · have passed : c.deadline = { c with phase := .idle } := by
              simp only [Client.deadline, phase, if_pos passes]
            have nothing : heap.view touched = [] := by
              have none := passes.2
              rw [relevant, Bool.or_eq_true, not_or, decide_eq_true_eq] at none
              rw [Heap.view, Nat.eq_zero_of_not_pos none.1]
              rfl
            rw [passed]
            apply informed.moved
            · exact List.nodup_nil
            · exact informed.onceQueued
            · rfl
            · intro ref
              rw [phase]
              rfl
            · intro ref awaits
              rw [Awaits, phase, Phase.asked, nothing] at awaits
              exact awaits
          · have pushed : c.deadline = { c with phase := pushing touched } := by
              simp only [Client.deadline, phase, if_neg passes]
            have once := informed.once
            rw [phase] at once
            rw [pushed]
            apply informed.moved
            · rw [asked_pushing]
              exact once
            · exact informed.onceQueued
            · rfl
            · intro ref
              rw [phase, in_hand_pushing]
              rfl
            · intro ref awaits
              rw [Awaits, phase] at awaits
              rw [Awaits, asked_pushing]
              exact awaits
  | selecting | reading _ | stamping _ | writing _ | idle | gone =>
      have still : c.deadline = c := by simp only [Client.deadline, phase]
      rw [still]
      exact informed

theorem Informed.receive {update : Update} {rest : List Update}
    (informed : Informed server index heap (update :: rest) c)
    (received : c.receive update = some next) : Informed server index heap rest next := by
  have onceQueued : ∀ other ∈ rest, (heap.view other.rounds).Nodup :=
    fun other member => informed.onceQueued other (List.mem_cons_of_mem _ member)
  have onceHere : (heap.view update.rounds).Nodup := informed.onceQueued update List.mem_cons_self
  cases phase : c.phase with
  | idle =>
      simp only [Client.receive, phase, Option.some.injEq] at received
      subst received
      apply informed.moved
      · exact onceHere
      · exact onceQueued
      · rfl
      · intro ref
        rw [phase]
        rfl
      · intro ref awaits
        rw [Awaits, phase] at awaits
        rcases awaits with ⟨other, member, names⟩ | none
        · rcases List.mem_cons.1 member with rfl | later
          · exact .inr names
          · exact .inl ⟨other, later, names⟩
        · nomatch none
  | coalescing touched named m =>
      cases m with
      | some m =>
          simp only [Client.receive, phase] at received
          cases received
      | none =>
          simp only [Client.receive, phase, Option.some.injEq] at received
          subst received
          have once := informed.once
          rw [phase] at once
          apply informed.moved
          · exact nodup_foldl_addNew once
          · exact onceQueued
          · rfl
          · intro ref
            rw [phase]
            rfl
          · intro ref awaits
            rw [Awaits, phase] at awaits
            rcases awaits with ⟨other, member, names⟩ | asks
            · rcases List.mem_cons.1 member with rfl | later
              · exact .inr (mem_foldl_addNew.2 (.inr names))
              · exact .inl ⟨other, later, names⟩
            · exact .inr (mem_foldl_addNew.2 (.inl asks))
  | selecting | reading _ | stamping _ | writing _ | gone =>
      simp only [Client.receive, phase] at received
      cases received

/-- The slice of an update that is still to be taken or being merged. -/
def Ahead (queue : List Update) (c : Client) (s : Slice) : Prop :=
  (∃ update ∈ queue, update.rounds = s) ∨ ∃ m, c.phase.merging = some m ∧ m.rounds = s

/-- Merging one round brings what was asked for no nearer and no further. -/
theorem Informed.merged_round (informed : Informed server index heap queue c) {touched : Slice}
    {named : Bool} {m : Merge} (phase : c.phase = .coalescing touched named (some m))
    (found : (heap.view m.rounds)[m.done]? = some ref) (holds : heap.Holds touched) :
    let made := addRound server.capacity (heap, touched) ref
    (∀ s, Ahead queue c s → made.1.view s = heap.view s) →
      Informed server index made.1 queue { c with
        phase := .coalescing made.2 named (some { m with done := m.done + 1 }) } := by
  intro made kept
  have added : made.1.view made.2 = addNew (heap.view touched) ref :=
    view_add_round _ (heap, touched) holds ref
  have whole : (heap.view m.rounds).drop m.done =
      ref :: (heap.view m.rounds).drop (m.done + 1) := by
    obtain ⟨inside, is⟩ := List.getElem?_eq_some_iff.1 found
    rw [List.drop_eq_getElem_cons inside, is]
  have asks : (Phase.coalescing made.2 named (some { m with done := m.done + 1 })).asked made.1 =
      c.phase.asked heap := by
    have still : made.1.view m.rounds = heap.view m.rounds := by
      apply kept
      rw [Ahead, phase]
      exact .inr ⟨m, rfl, rfl⟩
    rw [phase, Phase.asked, Phase.asked, unmerged, unmerged, still, added, whole, List.foldl_cons]
  have queued (update : Update) (member : update ∈ queue) :
      made.1.view update.rounds = heap.view update.rounds :=
    kept _ (.inl ⟨update, member, rfl⟩)
  apply informed.moved
  · rw [asks]
    exact informed.once
  · intro update member
    rw [queued update member]
    exact informed.onceQueued update member
  · rfl
  · intro ref
    rw [phase]
    rfl
  · intro ref awaits
    rw [Awaits, asks]
    refine awaits.imp_left ?_
    intro ⟨update, member, names⟩
    exact ⟨update, member, (queued update member).symm ▸ names⟩

theorem Informed.merge (informed : Informed server index heap queue c)
    (holds : ∀ s, c.phase.holding = some s → heap.Holds s)
    (kept : ∀ s, Ahead queue c s → (c.merge server heap).1.view s = heap.view s) :
    Informed server index (c.merge server heap).1 queue (c.merge server heap).2 := by
  have idles (still : c.merge server heap = (heap, c)) :
      Informed server index (c.merge server heap).1 queue (c.merge server heap).2 := by
    rw [still]
    exact informed
  cases phase : c.phase with
  | coalescing touched named m =>
      cases m with
      | none => exact idles (by simp only [Client.merge, phase])
      | some m =>
          cases found : (heap.view m.rounds)[m.done]? with
          | none =>
              have merged : c.merge server heap =
                  (heap, { c with phase := .coalescing touched named none }) := by
                simp only [Client.merge, phase, found]
              have through : (heap.view m.rounds).drop m.done = [] :=
                List.drop_eq_nil_of_le (List.getElem?_eq_none_iff.1 found)
              have once := informed.once
              rw [phase, Phase.asked, unmerged, through] at once
              rw [merged]
              apply informed.moved
              · exact once
              · exact informed.onceQueued
              · rfl
              · intro ref
                rw [phase]
                rfl
              · intro ref awaits
                rw [Awaits, phase, Phase.asked, unmerged, through] at awaits
                exact awaits
          | some ref =>
              have merged : c.merge server heap =
                  ((addRound server.capacity (heap, touched) ref).1, { c with
                    phase := .coalescing (addRound server.capacity (heap, touched) ref).2 named
                      (some { m with done := m.done + 1 }) }) := by
                simp only [Client.merge, phase, found]
              rw [merged] at kept ⊢
              exact informed.merged_round phase found (holds touched (by rw [phase]; rfl)) kept
  | selecting | reading _ | stamping _ | writing _ | idle | gone =>
      exact idles (by simp only [Client.merge, phase])

/-! ## Runs -/

variable {id : Nat} {w after : World}

/-- Every update that finds the channel of `id` full names only rounds that its
subscriber will read anyway, and nobody else's merge writes over a round that
it has merged. -/
def KeepsUp (id : Nat) (w : World) : Happening → Prop
  | .publish =>
      match w.index.unpublished, w.clients id, w.broker.subs id with
      | some (batch, _), some c, some ch =>
          c.opened ≠ none → ch.full = true → ∀ ref ∈ touchedBy batch, Awaits w.heap ch.queue c ref
      | _, _, _ => True
  | .merge other =>
      match w.clients id, w.clients other with
      | some mine, some theirs => other = id ∨ Spares w.heap mine.phase theirs.phase
      | _, _ => True
  | .connect _ | .commit _ _ _ | .query _ | .wrote _ | .take _ | .deadline _ | .leave _ => True

instance (id : Nat) (w : World) (happening : Happening) :
    Decidable (KeepsUp id w happening) := by
  cases happening with
  | publish =>
      simp only [KeepsUp]
      split <;> infer_instance
  | merge other =>
      simp only [KeepsUp]
      split <;> infer_instance
  | connect _ | commit _ _ _ | query _ | wrote _ | take _ | deadline _ | leave _ =>
      exact .isTrue trivial

/-- As long as a subscriber is there, it is subscribed and informed. -/
def Following (server : Server) (id : Nat) (w : World) : Prop :=
  ∀ c, w.clients id = some c → c.phase ≠ .gone →
    ∃ ch, w.broker.subs id = some ch ∧ Informed server w.index w.heap ch.queue c

theorem mem_offer_of_mem {α : Type} {ch : Channel α} {a b : α} (member : b ∈ ch.queue) :
    b ∈ (ch.offer a).queue := by
  unfold Channel.offer
  split
  · exact List.mem_append_left _ member
  · exact member

theorem mem_offer_of_room {α : Type} {ch : Channel α} (a : α) (room : ch.full = false) :
    a ∈ (ch.offer a).queue := by
  have less : ch.queue.length < ch.capacity := by
    rw [Channel.full, decide_eq_false_iff_not] at room
    exact Nat.lt_of_not_le room
  rw [Channel.offer, dif_pos less]
  exact List.mem_append_right _ List.mem_cons_self

theorem asked_congr {phase : Phase}
    (holding : ∀ s, phase.holding = some s → later.view s = heap.view s)
    (merging : ∀ m, phase.merging = some m → later.view m.rounds = heap.view m.rounds) :
    phase.asked later = phase.asked heap := by
  cases phase with
  | reading refs => exact holding refs rfl
  | coalescing touched named m =>
      have own := holding touched rfl
      cases m with
      | none => rw [Phase.asked, Phase.asked, own, unmerged, unmerged]
      | some m => rw [Phase.asked, Phase.asked, own, unmerged, unmerged, merging m rfl]
  | selecting | stamping _ | writing _ | idle | gone => rfl

theorem ahead_published (here : w.clients id = some c) {ch : Channel Update}
    (subscribed : w.broker.subs id = some ch) {s : Slice} (ahead : Ahead ch.queue c s) :
    w.Published s := by
  rcases ahead with ⟨update, member, same⟩ | ⟨m, found, same⟩
  · refine .inl ⟨id, update, ?_, same⟩
    rw [Broker.queueOf, subscribed]
    exact member
  · exact .inr ⟨id, c, m, here, found, same⟩

/-- A heap that keeps what is published and what this subscriber holds. -/
theorem Informed.kept (informed : Informed server index w.heap queue c)
    (ahead : ∀ s, Ahead queue c s → later.view s = w.heap.view s)
    (held : ∀ s, c.phase.holding = some s → later.view s = w.heap.view s) :
    Informed server index later queue c := by
  apply informed.spared
  · exact fun update member => ahead _ (.inl ⟨update, member, rfl⟩)
  · exact asked_congr held fun m found => ahead _ (.inr ⟨m, found, rfl⟩)

theorem Informed.extended (informed : Informed server index w.heap queue c) (shared : Shared w)
    (here : w.clients id = some c) (published : ∀ s, Ahead queue c s → w.Published s)
    (extends_ : Extends w.heap later) : Informed server index later queue c := by
  apply informed.kept
  · exact fun s ahead => (extends_ s (shared.published s (published s ahead))).2
  · exact fun s found => (extends_ s (shared.held id c s here found)).2

theorem Following.publish (following : Following server id w) (shared : Shared w)
    (keeps : KeepsUp id w .publish) : Following server id (w.publish server) := by
  unfold World.publish
  cases pending : w.index.unpublished with
  | none => exact following
  | some announced =>
      obtain ⟨batch, cursor⟩ := announced
      intro c here present
      obtain ⟨ch, subscribed, informed⟩ := following c here present
      have here : w.clients id = some c := here
      simp only [KeepsUp, pending, here, subscribed] at keeps
      obtain ⟨_, names_, _, extends_⟩ :=
        summary server.capacity w.heap batch cursor
      let told := (summarise server.capacity w.heap batch cursor).2
      let grown := (summarise server.capacity w.heap batch cursor).1
      have named (ref : RoundRef) : ref ∈ grown.view told.rounds ↔ ref ∈ touchedBy batch := by
        rw [names_, mem_foldl_addNew]
        simp
      have ahead {s : Slice} : Ahead ch.queue c s → w.Published s := ahead_published here subscribed
      have views := informed.extended shared here (fun _ => ahead) extends_
      have awaits (ref : RoundRef) (waits : Awaits w.heap ch.queue c ref) :
          Awaits grown ch.queue c ref := by
        have asks : c.phase.asked grown = c.phase.asked w.heap := by
          apply asked_congr
          · exact fun s found => (extends_ s (shared.held id c s here found)).2
          · exact fun m found =>
              (extends_ _ (shared.published _ (ahead (.inr ⟨m, found, rfl⟩)))).2
        rw [Awaits, asks]
        refine waits.imp_left ?_
        rintro ⟨update, member, names⟩
        have same := (extends_ _ (shared.published _ (ahead (.inl ⟨update, member, rfl⟩)))).2
        exact ⟨update, member, same.symm ▸ names⟩
      by_cases silent : told.rounds.length = 0 ∧ told.accounts = []
      · refine ⟨ch, ?_, views.publish pending views.onceQueued (fun _ member => member) ?_⟩
        · simp only [Broker.publish, told, if_pos silent]
          exact subscribed
        · intro _ ref names
          have none := (named ref).2 names
          rw [Heap.view, silent.1] at none
          exact absurd none List.not_mem_nil
      · refine ⟨ch.offer told, ?_, views.publish pending ?_ ?_ ?_⟩
        · simp only [Broker.publish, told, if_neg silent, subscribed, Option.map_some]
        · intro update member
          rcases mem_offer member with old | rfl
          · exact views.onceQueued update old
          · rw [names_]
            exact nodup_foldl_addNew List.nodup_nil
        · exact fun _ => mem_offer_of_mem
        · intro opened ref names
          cases full : ch.full with
          | true =>
              refine (awaits ref (keeps opened full ref names)).imp_left ?_
              rintro ⟨update, member, named⟩
              exact ⟨update, mem_offer_of_mem member, named⟩
          | false => exact .inl ⟨_, mem_offer_of_room _ full, (named ref).2 names⟩

theorem Following.replaced (following : Following server id w) (other : Nat) {broker : Broker}
    (untouched : ∀ i, i ≠ other → broker.subs i = w.broker.subs i)
    (spared : id ≠ other → ∀ c, w.clients id = some c → ∀ ch, w.broker.subs id = some ch →
      Informed server w.index w.heap ch.queue c → Informed server w.index later ch.queue c)
    (informed : id = other → next.phase ≠ .gone →
      ∃ ch, broker.subs other = some ch ∧ Informed server w.index later ch.queue next) :
    Following server id { w with
      broker := broker
      heap := later
      clients := Function.update w.clients other (some next) } := by
  intro c here present
  have here : Function.update w.clients other (some next) id = some c := here
  by_cases same : id = other
  · rw [same, Function.update_self, Option.some.injEq] at here
    subst here
    rw [same]
    exact informed same present
  · rw [Function.update_of_ne same] at here
    obtain ⟨ch, subscribed, informed⟩ := following c here present
    exact ⟨ch, (untouched id same).trans subscribed, spared same c here ch subscribed informed⟩

theorem Following.moved (following : Following server id w) (other : Nat)
    (move : Heap RoundRef → Client → Heap RoundRef × Client)
    (stays : ∀ heap c, (move heap c).2.phase ≠ .gone → c.phase ≠ .gone)
    (spared : id ≠ other → ∀ before, w.clients other = some before → ∀ c, w.clients id = some c →
      ∀ ch, w.broker.subs id = some ch → Informed server w.index w.heap ch.queue c →
        Informed server w.index (move w.heap before).1 ch.queue c)
    (own : ∀ c, w.clients other = some c → ∀ ch, w.broker.subs other = some ch →
      Informed server w.index w.heap ch.queue c →
        Informed server w.index (move w.heap c).1 ch.queue (move w.heap c).2) :
    Following server id (w.moved other move) := by
  cases there : w.clients other with
  | none =>
      simp only [World.moved, there]
      exact following
  | some before =>
      simp only [World.moved, there]
      apply following.replaced other
      · exact fun _ _ => rfl
      · exact fun apart c here => spared apart before there c here
      · intro same present
        subst same
        obtain ⟨ch, subscribed, informed⟩ := following before there (stays _ before present)
        exact ⟨ch, subscribed, own before there ch subscribed informed⟩

theorem present_of_query {c : Client} (present : (c.query server index heap).2.phase ≠ .gone) :
    c.phase ≠ .gone := by
  intro gone
  apply present
  simp only [Client.query, gone]

theorem present_of_wrote {c : Client} (present : c.wrote.phase ≠ .gone) : c.phase ≠ .gone := by
  intro gone
  apply present
  simp only [Client.wrote, gone]

theorem present_of_deadline {c : Client} (present : c.deadline.phase ≠ .gone) :
    c.phase ≠ .gone := by
  intro gone
  apply present
  simp only [Client.deadline, gone]

theorem present_of_merge {c : Client} (present : (c.merge server heap).2.phase ≠ .gone) :
    c.phase ≠ .gone := by
  intro gone
  apply present
  simp only [Client.merge, gone]

theorem present_of_receive {update : Update} (received : c.receive update = some next) :
    c.phase ≠ .gone := by
  intro gone
  simp only [Client.receive, gone] at received
  cases received

theorem Following.query (following : Following server id w) (shared : Shared w) (other : Nat) :
    Following server id (w.moved other (Client.query server w.index)) := by
  apply following.moved other
  · exact fun _ _ => present_of_query
  · intro _ before _ c here ch subscribed informed
    apply informed.extended shared here (fun _ => ahead_published here subscribed)
    unfold Client.query
    split
    · exact extends_alloc _
    all_goals exact fun _ holds => ⟨holds, rfl⟩
  · intro c here ch subscribed informed
    apply informed.query
    intro update member
    exact shared.published _ (ahead_published here subscribed (.inl ⟨update, member, rfl⟩))

theorem Following.merge (following : Following server id w) (shared : Shared w) (other : Nat)
    (keeps : KeepsUp id w (.merge other)) :
    Following server id (w.moved other (Client.merge server)) := by
  apply following.moved other
  · exact fun _ _ => present_of_merge
  · intro apart before there c here ch subscribed informed
    apply informed.kept
    · exact fun s ahead => shared.published_kept there (ahead_published here subscribed ahead)
    · intro s found
      simp only [KeepsUp, here, there] at keeps
      have spares := keeps.resolve_left fun same => apart same.symm
      exact held_kept found (shared.held id c s here found) spares
  · intro c here ch subscribed informed
    apply informed.merge
    · exact fun s found => shared.held other c s here found
    · exact fun s ahead => shared.published_kept here (ahead_published here subscribed ahead)

theorem Following.take (following : Following server id w) (other : Nat) :
    Following server id (w.take other) := by
  unfold World.take
  split
  · rename_i before update rest there queued
    cases received : before.receive update with
    | none => exact following
    | some next =>
        apply following.replaced other
        · exact fun i apart => Function.update_of_ne apart _ _
        · exact fun _ _ _ _ _ informed => informed
        · intro same _
          rw [← same] at there queued ⊢
          obtain ⟨ch, subscribed, informed⟩ := following before there (present_of_receive received)
          have front : ch.queue = update :: rest := by
            simp only [Broker.queueOf, subscribed] at queued
            exact queued
          have back : ch.rest.queue = rest := congrArg List.tail front
          refine ⟨ch.rest, ?_, ?_⟩
          · simp only [Broker.taken, Function.update_self, subscribed, Option.map_some]
          · rw [back]
            rw [front] at informed
            exact informed.receive received
  · exact following

theorem Following.leave (following : Following server id w) (other : Nat) :
    Following server id (w.leave other) := by
  unfold World.leave
  split
  · exact following
  · split
    · apply following.replaced other
      · exact fun i apart => Function.update_of_ne apart _ _
      · exact fun _ _ _ _ _ informed => informed
      · exact fun _ present => absurd rfl present
    · exact following

theorem Following.connect (following : Following server id w) (address : Option Address) :
    Following server id (act server w (.connect address)) := by
  apply following.replaced w.broker.next
  · exact fun i apart => Function.update_of_ne apart _ _
  · exact fun _ _ _ _ _ informed => informed
  · intro _ _
    exact ⟨Channel.make Update (max 4 1), Function.update_self _ _ _,
      informed_of_new server w.index w.heap address⟩

theorem Following.act (following : Following server id w) (shared : Shared w)
    {happening : Happening} (keeps : KeepsUp id w happening) :
    Following server id (act server w happening) := by
  cases happening with
  | connect address => exact following.connect address
  | commit batch stream cursor =>
      intro c here present
      obtain ⟨ch, subscribed, informed⟩ := following c here present
      exact ⟨ch, subscribed, informed.commit batch stream cursor⟩
  | publish => exact following.publish shared keeps
  | query other => exact following.query shared other
  | wrote other =>
      apply following.moved other fun heap c => (heap, c.wrote)
      · exact fun _ _ => present_of_wrote
      · exact fun _ _ _ _ _ _ _ informed => informed
      · exact fun _ _ _ _ informed => informed.wrote
  | take other => exact following.take other
  | merge other => exact following.merge shared other keeps
  | deadline other =>
      apply following.moved other fun heap c => (heap, c.deadline)
      · exact fun _ _ => present_of_deadline
      · exact fun _ _ _ _ _ _ _ informed => informed
      · exact fun _ _ _ _ informed => informed.deadline
  | leave other => exact following.leave other

theorem following_of_reachable
    (reached : ((machine server).restrict (KeepsUp id)).Reachable w) :
    Following server id w ∧ Shared w := by
  apply reached.invariant fun w => Following server id w ∧ Shared w
  · intro state start
    have start : (machine server).initial state := start
    refine ⟨?_, shared_of_start start⟩
    obtain ⟨_, _, _, nobody, _⟩ := start
    intro c here
    rw [nobody] at here
    cases here
  · rintro state happening next _ ⟨following, shared⟩ ⟨taken, keeps⟩
    rw [← taken]
    exact ⟨following.act shared keeps, shared.act happening⟩

/-- Publishing has stopped, and the subscriber has taken and sent everything. -/
def Drained (w : World) (id : Nat) (c : Client) : Prop :=
  w.index.unpublished = none ∧ w.broker.queueOf id = [] ∧ c.phase = .idle

/-- A subscriber whose channel is never full of other rounds, and whose merged
rounds nobody writes over, ends with every round that moved as it stands,
however far it lets its updates pile up. -/
theorem no_wakeup_is_lost (server : Server) (id : Nat) {w : World}
    (reached : ((machine server).restrict (KeepsUp id)).Reachable w) {c : Client}
    (here : w.clients id = some c) (drained : Drained w id c) :
    ∀ ref, Touched w.index c ref →
      lastShown c.frames ref = currentRound w.index.db server.chainID ref := by
  intro ref touched
  obtain ⟨published, empty, waiting⟩ := drained
  have present : c.phase ≠ .gone := by
    rw [waiting]
    nofun
  obtain ⟨ch, subscribed, informed⟩ := (following_of_reachable reached).1 c here present
  have settled := informed.settled ref touched
  rw [waiting] at settled
  have sent : c.frames ++ Phase.idle.inHand = c.frames := List.append_nil _
  rw [sent] at settled
  rcases settled with ⟨_, _, pending, _⟩ | (⟨update, queued, _⟩ | asked) | shows
  · rw [published] at pending
    cases pending
  · simp only [Broker.queueOf, subscribed] at empty
    rw [empty] at queued
    nomatch queued
  · rw [waiting] at asked
    nomatch asked
  · exact shows

/-! ## Subscribers that are not told -/

section Sample

def sampleServer : Server :=
  ⟨1, [], fun _ _ => false, fun _ _ => false, fun length => max 1 (2 * length)⟩

def sampleWorld : World :=
  ⟨⟨⟨[], [], fun _ => none⟩, [], none⟩, newBroker, fun _ => none, Heap.empty⟩

/-- Rounds of the sample market open, in a block of their own. -/
def opens (rounds : List Nat) (block : Nat) : Happening :=
  let zeros : Hash := ⟨List.replicate 64 0, Index.length_zeros⟩
  let market : Address := ⟨List.replicate 40 1, Index.length_ones⟩
  let row (roundID : Nat) : RoundEvent :=
    { provenance := ⟨1, block, zeros, block, zeros, block, 0, .parimutuelRound,
        "RoundOpened".toList⟩
      owner := some market
      body := ⟨roundID, none, [], none, []⟩ }
  .commit ⟨[], rounds.map row⟩ [] ⟨1, block, none, [], []⟩

def sampleRef (roundID : Nat) : RoundRef :=
  ⟨some ⟨List.replicate 40 1, Index.length_ones⟩, roundID⟩

def opening (id : Nat) : List Happening :=
  [.connect none, .query id, .query id, .query id, .wrote id]

def merging (id : Nat) : List Happening := [.take id, .merge id, .merge id]

def pushes (id : Nat) : List Happening := [.deadline id, .query id, .query id, .wrote id]

def stalling : List Happening :=
  opening 0 ++ [opens [1] 10, .publish, .take 0, .deadline 0, .query 0, .query 0]

def draining : List Happening :=
  [.wrote 0, .take 0] ++ merging 0 ++ merging 0 ++ merging 0 ++ pushes 0

/-- Round 2 moves five times, the last while its updates fill the channel. -/
def patientRun : List Happening :=
  stalling ++ [opens [2] 11, .publish, opens [2] 12, .publish, opens [2] 13, .publish,
    opens [2] 14, .publish, opens [2] 15, .publish] ++ draining

def busyRun : List Happening :=
  stalling ++ [opens [2] 11, .publish, opens [2] 12, .publish, opens [2] 13, .publish,
    opens [2] 14, .publish, opens [3] 15, .publish] ++ draining

/-- Two subscribers take an update of three rounds, with room for a fourth
beside them. The first goes on to merge round 4, which the second never hears
of; the second merges round 5. -/
def sharedRun : List Happening :=
  opening 0 ++ opening 1 ++ [opens [1, 2, 3] 10, .publish, .take 0, .take 1] ++
    [opens [1] 11, .publish] ++ merging 0 ++ [opens [1] 12, .publish] ++ merging 0 ++
    [opens [1] 13, .publish] ++ merging 0 ++ [opens [1] 14, .publish] ++ merging 0 ++
    [opens [4] 15, .publish] ++ merging 0 ++ merging 1 ++ [opens [5] 16, .publish] ++
    merging 1 ++ merging 1 ++ merging 1 ++ merging 1 ++ merging 0 ++ pushes 0

def attempt (allowed : World → Happening → Prop)
    [∀ w happening, Decidable (allowed w happening)] (w : World) (happening : Happening) :
    Except Unit World :=
  Machine.guarded allowed () (fun w happening => .ok (act sampleServer w happening)) w happening

/-- Subscriber 0, unfiltered, has drained its channel since the round moved. -/
def drainedSince (ref : RoundRef) (also : World → Client → Bool) (w : World) : Bool :=
  w.index.unpublished.isNone && (w.broker.queueOf 0).isEmpty && (w.clients 0).any fun c =>
    c.address.isNone && c.phase = .idle && c.opened = some 0 &&
      w.index.batches.any (fun batch => ref ∈ touchedBy batch) && also w c

theorem drained_since {also : World → Client → Bool}
    (checked : drainedSince ref also w = true) :
    ∃ c, w.clients 0 = some c ∧ c.address = none ∧ Drained w 0 c ∧ Touched w.index c ref ∧
      also w c = true := by
  simp only [drainedSince, Bool.and_eq_true, Option.any_eq_true, Option.isNone_iff_eq_none,
    List.isEmpty_iff, decide_eq_true_eq, List.any_eq_true] at checked
  obtain ⟨⟨published, empty⟩, c, here, ⟨⟨⟨unfiltered, idle⟩, opened⟩, batch, member, names⟩, rest⟩ :=
    checked
  exact ⟨c, here, unfiltered, ⟨published, empty, idle⟩, ⟨0, opened, batch, member, names⟩, rest⟩

/-- An update is dropped, and nothing is lost by it. -/
theorem patient_subscriber_is_told :
    ∃ (w : World) (c : Client), 0 < w.broker.dropped ∧ w.clients 0 = some c ∧ c.address = none ∧
      Touched w.index c (sampleRef 2) ∧
      lastShown c.frames (sampleRef 2) = currentRound w.index.db 1 (sampleRef 2) := by
  have ran : passes (Machine.replay (attempt (KeepsUp 0)) sampleWorld patientRun)
      (fun w => 0 < w.broker.dropped ∧
        drainedSince (sampleRef 2) (fun _ _ => true) w = true) = true := by
    decide +kernel
  obtain ⟨w, replayed, checked⟩ := exists_of_passes _ ran
  obtain ⟨dropped, drained⟩ := of_decide_eq_true checked
  obtain ⟨c, here, unfiltered, drained, touched, _⟩ := drained_since drained
  have start : ((machine sampleServer).restrict (KeepsUp 0)).Reachable sampleWorld :=
    .initial ⟨rfl, rfl, rfl, rfl, rfl⟩
  have reached : ((machine sampleServer).restrict (KeepsUp 0)).Reachable w := by
    apply start.replay _ replayed
    intro happening _ before after taken
    obtain ⟨step, keeps⟩ := Machine.guarded_ok taken
    exact ⟨Except.ok.inj step, keeps⟩
  exact ⟨w, c, dropped, here, unfiltered, touched,
    no_wakeup_is_lost sampleServer 0 reached here drained _ touched⟩

theorem reachable_of_run (run : List Happening) (ref : RoundRef) (also : World → Client → Bool)
    (ran : passes (Machine.replay (attempt fun _ _ => True) sampleWorld run)
      (drainedSince ref also) = true) :
    ∃ w c, (machine sampleServer).Reachable w ∧ w.clients 0 = some c ∧ c.address = none ∧
      Drained w 0 c ∧ Touched w.index c ref ∧ also w c = true := by
  obtain ⟨w, replayed, checked⟩ := exists_of_passes _ ran
  obtain ⟨c, here, unfiltered, drained, touched, rest⟩ := drained_since checked
  have start : (machine sampleServer).Reachable sampleWorld := .initial ⟨rfl, rfl, rfl, rfl, rfl⟩
  have reached : (machine sampleServer).Reachable w := by
    apply start.replay _ replayed
    intro happening _ before after taken
    exact Except.ok.inj (Machine.guarded_ok taken).1
  exact ⟨w, c, reached, here, unfiltered, drained, touched, rest⟩

/-- Round 3 is open, and its subscriber is never told that there is one. -/
theorem busy_subscriber_misses_a_round :
    ∃ (w : World) (c : Client), (machine sampleServer).Reachable w ∧ w.clients 0 = some c ∧
      c.address = none ∧ Drained w 0 c ∧ Touched w.index c (sampleRef 3) ∧
      lastShown c.frames (sampleRef 3) ≠ currentRound w.index.db 1 (sampleRef 3) := by
  obtain ⟨w, c, reached, here, unfiltered, drained, touched, differs⟩ :=
    reachable_of_run busyRun (sampleRef 3) (fun w c =>
      lastShown c.frames (sampleRef 3) ≠ currentRound w.index.db 1 (sampleRef 3))
      (by decide +kernel)
  exact ⟨w, c, reached, here, unfiltered, drained, touched, of_decide_eq_true differs⟩

/-- Round 4 is open, and a subscriber that took every update of it is never
told: its neighbour wrote round 5 over it. -/
theorem neighbour_overwrites_a_round :
    ∃ (w : World) (c : Client), (machine sampleServer).Reachable w ∧ w.clients 0 = some c ∧
      c.address = none ∧ Drained w 0 c ∧ Touched w.index c (sampleRef 4) ∧
      lastShown c.frames (sampleRef 4) ≠ currentRound w.index.db 1 (sampleRef 4) ∧
      lastShown c.frames (sampleRef 5) = currentRound w.index.db 1 (sampleRef 5) := by
  obtain ⟨w, c, reached, here, unfiltered, drained, touched, differs⟩ :=
    reachable_of_run sharedRun (sampleRef 4) (fun w c =>
      lastShown c.frames (sampleRef 4) ≠ currentRound w.index.db 1 (sampleRef 4) ∧
        lastShown c.frames (sampleRef 5) = currentRound w.index.db 1 (sampleRef 5))
      (by decide +kernel)
  obtain ⟨lost, told⟩ := of_decide_eq_true differs
  exact ⟨w, c, reached, here, unfiltered, drained, touched, lost, told⟩

end Sample

end Live

end Ghoststake
