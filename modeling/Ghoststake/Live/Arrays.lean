import Ghoststake.Live.Broker

/-!
# The arrays behind the updates

Which slices the updates on their way and the handlers hold, and where the
handlers append: never into the rounds an update was published with, but into
cells that another handler may have filled.
-/

namespace Ghoststake

set_option autoImplicit false

namespace Live

open Index Ledger Slices

/-- The slice of rounds a handler will read, as far as it is made. -/
def Phase.holding : Phase → Option Slice
  | .reading refs => some refs
  | .coalescing touched _ _ => some touched
  | .selecting | .stamping _ | .writing _ | .idle | .gone => none

def Phase.merging : Phase → Option Merge
  | .coalescing _ _ m => m
  | .selecting | .reading _ | .stamping _ | .writing _ | .idle | .gone => none

/-- What the next turn of a merge appends, and to what. -/
def Phase.appends (heap : Heap RoundRef) : Phase → Option (Slice × RoundRef)
  | .coalescing touched _ (some m) =>
      match (heap.view m.rounds)[m.done]? with
      | some ref => if ref ∈ heap.view touched then none else some (touched, ref)
      | none => none
  | .coalescing _ _ none | .selecting | .reading _ | .stamping _ | .writing _ | .idle | .gone =>
      none

/-- The turn to come writes over none of our rounds: where it falls on a cell
of ours, it writes what is there. -/
def Spares (heap : Heap RoundRef) (mine theirs : Phase) : Prop :=
  match mine.holding, theirs.appends heap with
  | some s, some (t, ref) =>
      s.array = t.array → t.length < s.length → (heap.view s)[t.length]? = some ref
  | _, _ => True

instance (heap : Heap RoundRef) (mine theirs : Phase) : Decidable (Spares heap mine theirs) := by
  unfold Spares
  split <;> infer_instance

/-- The rounds of an update that waits in a channel or is being merged. -/
def World.Published (w : World) (s : Slice) : Prop :=
  (∃ id, ∃ update ∈ w.broker.queueOf id, update.rounds = s) ∨
    ∃ id c m, w.clients id = some c ∧ c.phase.merging = some m ∧ m.rounds = s

/-- Every slice in use is there, an array is that of one update at most, and
what is held of it reaches at least as far as the update did. -/
structure Shared (w : World) : Prop where
  published : ∀ s, w.Published s → w.heap.Holds s
  held : ∀ id c s, w.clients id = some c → c.phase.holding = some s → w.heap.Holds s
  once : ∀ s t, w.Published s → w.Published t → s.array = t.array → s.length = t.length
  above : ∀ s, w.Published s → ∀ id c t, w.clients id = some c → c.phase.holding = some t →
    s.array = t.array → s.length ≤ t.length

section Moves

variable {server : Server} {index : Indexed} {heap later : Heap RoundRef} {c next : Client}
variable {w : World} {id : Nat}

/-- What a handler makes of its slices on its own: the heap keeps every slice,
the update it merges stays, and what it holds is new or no shorter. -/
structure Tidy (heap : Heap RoundRef) (c : Client) (later : Heap RoundRef) (next : Client) :
    Prop where
  grown : ∀ s, heap.Holds s → later.Holds s
  merging : ∀ m, next.phase.merging = some m →
    ∃ old, c.phase.merging = some old ∧ old.rounds = m.rounds
  holding : ∀ t, next.phase.holding = some t → later.Holds t ∧ (heap.next ≤ t.array ∨
    ∃ old, c.phase.holding = some old ∧ t.array = old.array ∧ old.length ≤ t.length)

theorem tidy_self (holds : ∀ s, c.phase.holding = some s → heap.Holds s) : Tidy heap c heap c where
  grown _ holds := holds
  merging m found := ⟨m, found, rfl⟩
  holding t found := ⟨holds t found, .inr ⟨t, found, rfl, Nat.le_refl _⟩⟩

theorem tidy_of_none (merging : next.phase.merging = none) (holding : next.phase.holding = none) :
    Tidy heap c heap next where
  grown _ holds := holds
  merging m found := by
    rw [merging] at found
    cases found
  holding t found := by
    rw [holding] at found
    cases found

theorem tidy_query (holds : ∀ s, c.phase.holding = some s → heap.Holds s) :
    Tidy heap c (c.query server index heap).1 (c.query server index heap).2 := by
  cases phase : c.phase with
  | selecting =>
      simp only [Client.query, phase]
      refine ⟨fun _ old => holds_alloc old _, nofun, ?_⟩
      intro t found
      cases found
      exact ⟨holds_of_alloc (Nat.le_refl _), .inl (Nat.le_refl _)⟩
  | reading refs =>
      simp only [Client.query, phase]
      exact tidy_of_none rfl rfl
  | stamping frame =>
      simp only [Client.query, phase]
      exact tidy_of_none rfl rfl
  | writing _ | idle | coalescing _ _ _ | gone =>
      simp only [Client.query, phase]
      exact tidy_self holds

theorem tidy_wrote (holds : ∀ s, c.phase.holding = some s → heap.Holds s) :
    Tidy heap c heap c.wrote := by
  unfold Client.wrote
  split
  · exact tidy_of_none rfl rfl
  all_goals exact tidy_self holds

theorem tidy_deadline (holds : ∀ s, c.phase.holding = some s → heap.Holds s) :
    Tidy heap c heap c.deadline := by
  unfold Client.deadline
  split
  · rename_i touched named phase
    split_ifs
    · exact tidy_of_none rfl rfl
    · unfold pushing
      split_ifs
      · exact tidy_of_none rfl rfl
      · refine ⟨fun _ old => old, nofun, ?_⟩
        intro t found
        cases found
        have mine : c.phase.holding = some touched := by rw [phase]; rfl
        exact ⟨holds touched mine, .inr ⟨touched, mine, rfl, Nat.le_refl _⟩⟩
  all_goals exact tidy_self holds

theorem tidy_merge (holds : ∀ s, c.phase.holding = some s → heap.Holds s) :
    Tidy heap c (c.merge server heap).1 (c.merge server heap).2 := by
  unfold Client.merge
  split
  · rename_i touched named m phase
    have mine : c.phase.holding = some touched := by rw [phase]; rfl
    split
    · refine ⟨fun _ old => old, nofun, ?_⟩
      intro t found
      cases found
      exact ⟨holds touched mine, .inr ⟨touched, mine, rfl, Nat.le_refl _⟩⟩
    · rename_i ref found
      refine ⟨?_, ?_, ?_⟩
      · intro s old
        unfold addRound
        split_ifs
        · exact old
        · exact holds_append old
      · intro m' found
        cases found
        exact ⟨m, by rw [phase]; rfl, rfl⟩
      · intro t found
        cases found
        refine ⟨holds_add_round _ (heap, touched) (holds touched mine) ref, ?_⟩
        rcases array_add_round server.capacity (heap, touched) ref with own | fresh
        · exact .inr ⟨touched, mine, own.1, own.2⟩
        · exact .inl (Nat.le_of_eq fresh.symm)
  all_goals exact tidy_self holds

theorem Shared.replaced (shared : Shared w) {broker : Broker}
    (grown : ∀ s, w.heap.Holds s → later.Holds s)
    (queues : ∀ i, ∀ update ∈ broker.queueOf i, w.Published update.rounds)
    (merging : ∀ m, next.phase.merging = some m → w.Published m.rounds)
    (holds : ∀ t, next.phase.holding = some t → later.Holds t)
    (above : ∀ s, w.Published s → ∀ t, next.phase.holding = some t → s.array = t.array →
      s.length ≤ t.length) :
    Shared { w with
      broker := broker
      heap := later
      clients := Function.update w.clients id (some next) } := by
  have before (s : Slice) (published : World.Published { w with
      broker := broker
      heap := later
      clients := Function.update w.clients id (some next) } s) : w.Published s := by
    rcases published with ⟨i, update, member, rfl⟩ | ⟨i, c, m, here, found, rfl⟩
    · exact queues i update member
    · have here : Function.update w.clients id (some next) i = some c := here
      by_cases same : i = id
      · rw [same, Function.update_self, Option.some.injEq] at here
        subst here
        exact merging m found
      · rw [Function.update_of_ne same] at here
        exact .inr ⟨i, c, m, here, found, rfl⟩
  constructor
  · exact fun s published => grown s (shared.published s (before s published))
  · intro i c s here found
    have here : Function.update w.clients id (some next) i = some c := here
    by_cases same : i = id
    · rw [same, Function.update_self, Option.some.injEq] at here
      subst here
      exact holds s found
    · rw [Function.update_of_ne same] at here
      exact grown s (shared.held i c s here found)
  · exact fun s t one two => shared.once s t (before s one) (before t two)
  · intro s published i c t here found
    have here : Function.update w.clients id (some next) i = some c := here
    by_cases same : i = id
    · rw [same, Function.update_self, Option.some.injEq] at here
      subst here
      exact above s (before s published) t found
    · rw [Function.update_of_ne same] at here
      exact shared.above s (before s published) i c t here found

theorem Shared.moved (shared : Shared w)
    (move : Heap RoundRef → Client → Heap RoundRef × Client)
    (tidy : ∀ c, (∀ s, c.phase.holding = some s → w.heap.Holds s) →
      Tidy w.heap c (move w.heap c).1 (move w.heap c).2) : Shared (w.moved id move) := by
  unfold World.moved
  cases here : w.clients id with
  | none => exact shared
  | some c =>
      have moved := tidy c fun s found => shared.held id c s here found
      apply shared.replaced
      · exact moved.grown
      · exact fun i update member => .inl ⟨i, update, member, rfl⟩
      · intro m found
        obtain ⟨old, before, same⟩ := moved.merging m found
        exact .inr ⟨id, c, old, here, before, same⟩
      · exact fun t found => (moved.holding t found).1
      · intro s published t found same
        rcases (moved.holding t found).2 with fresh | ⟨old, before, array, longer⟩
        · have older := (shared.published s published).1
          omega
        · exact (shared.above s published id c old here before (same.trans array)).trans longer

theorem queue_of_subscribe {b : Broker} {i : Nat} {update : Update}
    (member : update ∈ (b.subscribe 4).queueOf i) : update ∈ b.queueOf i := by
  unfold Broker.queueOf Broker.subscribe at member
  dsimp only at member
  by_cases same : i = b.next
  · rw [same] at member
    simp [Channel.make] at member
  · rw [Function.update_of_ne same] at member
    exact member

theorem queue_of_unsubscribe {b : Broker} {i : Nat} {update : Update}
    (member : update ∈ (b.unsubscribe id).queueOf i) : update ∈ b.queueOf i := by
  unfold Broker.queueOf Broker.unsubscribe at member
  dsimp only at member
  by_cases same : i = id
  · rw [same] at member
    simp at member
  · rw [Function.update_of_ne same] at member
    exact member

theorem queue_of_taken {b : Broker} {i : Nat} {update : Update}
    (member : update ∈ (b.taken id).queueOf i) : update ∈ b.queueOf i := by
  unfold Broker.queueOf Broker.taken at member
  dsimp only at member
  by_cases same : i = id
  · subst same
    simp only [Function.update_self] at member
    unfold Broker.queueOf
    cases there : b.subs i with
    | none =>
        rw [there] at member
        exact member
    | some ch =>
        rw [there] at member
        exact List.mem_of_mem_tail member
  · rw [Function.update_of_ne same] at member
    exact member

theorem mem_offer {α : Type} {ch : Channel α} {a b : α} (member : b ∈ (ch.offer a).queue) :
    b ∈ ch.queue ∨ b = a := by
  unfold Channel.offer at member
  split at member
  · exact (List.mem_append.1 member).imp_right List.mem_singleton.1
  · exact .inl member

theorem queue_of_publish {b : Broker} {i : Nat} {told update : Update}
    (member : update ∈ (b.publish told).queueOf i) : update ∈ b.queueOf i ∨ update = told := by
  unfold Broker.publish at member
  split at member
  · exact .inl member
  · unfold Broker.queueOf at member ⊢
    cases there : b.subs i with
    | none =>
        simp only [there, Option.map_none, List.not_mem_nil] at member
    | some ch =>
        simp only [there, Option.map_some] at member
        exact mem_offer member

theorem Shared.publish (shared : Shared w) : Shared (w.publish server) := by
  unfold World.publish
  split
  · exact shared
  · rename_i batch cursor _
    obtain ⟨holds, _, newer, extends_⟩ := summary server.capacity w.heap batch cursor
    let told := (summarise server.capacity w.heap batch cursor).2
    have split (s : Slice) (published : World.Published { w with
        index := { w.index with unpublished := none }
        broker := w.broker.publish told
        heap := (summarise server.capacity w.heap batch cursor).1 } s) :
        w.Published s ∨ s = told.rounds := by
      rcases published with ⟨i, update, member, rfl⟩ | merging
      · rcases queue_of_publish member with old | rfl
        · exact .inl (.inl ⟨i, update, old, rfl⟩)
        · exact .inr rfl
      · exact .inl (.inr merging)
    have apart {s : Slice} (old : w.heap.Holds s) : s.array ≠ told.rounds.array := by
      intro same
      have older := old.1
      have newer : w.heap.next ≤ told.rounds.array := newer
      omega
    constructor
    · intro s published
      rcases split s published with old | rfl
      · exact (extends_ s (shared.published s old)).1
      · exact holds
    · exact fun i c s here found => (extends_ s (shared.held i c s here found)).1
    · intro s t one two same
      rcases split s one with old | rfl
      · rcases split t two with other | rfl
        · exact shared.once s t old other same
        · exact absurd same (apart (shared.published s old))
      · rcases split t two with other | rfl
        · exact absurd same.symm (apart (shared.published t other))
        · rfl
    · intro s published i c t here found same
      rcases split s published with old | rfl
      · exact shared.above s old i c t here found same
      · exact absurd same.symm (apart (shared.held i c t here found))

theorem of_receive {update : Update} (received : c.receive update = some next) :
    (c.phase = .idle ∧ ∃ named, next.phase = .coalescing update.rounds named none) ∨
      ∃ touched before named, c.phase = .coalescing touched before none ∧
        next.phase = .coalescing touched named (some ⟨update.rounds, 0⟩) := by
  unfold Client.receive at received
  split at received
  · rename_i phase
    cases received
    exact .inl ⟨phase, _, rfl⟩
  · rename_i touched before phase
    cases received
    exact .inr ⟨touched, before, _, phase, rfl⟩
  all_goals cases received

theorem Shared.take (shared : Shared w) : Shared (w.take id) := by
  unfold World.take
  split
  · rename_i c update rest here queued
    have published : w.Published update.rounds :=
      .inl ⟨id, update, by rw [queued]; exact List.mem_cons_self, rfl⟩
    have queues (i : Nat) (other : Update) (member : other ∈ (w.broker.taken id).queueOf i) :
        w.Published other.rounds :=
      .inl ⟨i, other, queue_of_taken member, rfl⟩
    cases received : c.receive update with
    | none => exact shared
    | some next =>
        rcases of_receive received with ⟨_, named, phase⟩ | ⟨touched, _, named, before, phase⟩
        · apply shared.replaced (fun _ old => old) queues
          · rw [phase]
            nofun
          · intro t found
            rw [phase] at found
            cases found
            exact shared.published _ published
          · intro s other t found same
            rw [phase] at found
            cases found
            exact Nat.le_of_eq (shared.once s _ other published same)
        · have mine : c.phase.holding = some touched := by rw [before]; rfl
          apply shared.replaced (fun _ old => old) queues
          · intro m found
            rw [phase] at found
            cases found
            exact published
          · intro t found
            rw [phase] at found
            cases found
            exact shared.held id c touched here mine
          · intro s other t found same
            rw [phase] at found
            cases found
            exact shared.above s other id c touched here mine same
  · exact shared

theorem Shared.leave (shared : Shared w) : Shared (w.leave id) := by
  unfold World.leave
  split
  · exact shared
  · split
    · apply shared.replaced
      · exact fun _ old => old
      · exact fun i update member => .inl ⟨i, update, queue_of_unsubscribe member, rfl⟩
      · nofun
      · nofun
      · nofun
    · exact shared

theorem Shared.act (shared : Shared w) (happening : Happening) :
    Shared (act server w happening) := by
  cases happening with
  | connect address =>
      apply shared.replaced
      · exact fun _ old => old
      · exact fun i update member => .inl ⟨i, update, queue_of_subscribe member, rfl⟩
      · nofun
      · nofun
      · nofun
  | commit batch stream cursor =>
      exact ⟨shared.published, shared.held, shared.once, shared.above⟩
  | publish => exact shared.publish
  | query id => exact shared.moved _ fun _ => tidy_query
  | wrote id => exact shared.moved (fun heap c => (heap, c.wrote)) fun _ => tidy_wrote
  | take id => exact shared.take
  | merge id => exact shared.moved _ fun _ => tidy_merge
  | deadline id => exact shared.moved (fun heap c => (heap, c.deadline)) fun _ => tidy_deadline
  | leave id => exact shared.leave

theorem shared_of_start (start : (machine server).initial w) : Shared w := by
  obtain ⟨_, _, broker, nobody, _⟩ := start
  have nothing (s : Slice) : ¬w.Published s := by
    rintro (⟨i, update, member, _⟩ | ⟨i, c, m, here, _⟩)
    · rw [broker] at member
      nomatch member
    · rw [nobody] at here
      cases here
  constructor
  · exact fun s published => absurd published (nothing s)
  · intro i c s here
    rw [nobody] at here
    cases here
  · exact fun s _ published => absurd published (nothing s)
  · exact fun s published => absurd published (nothing s)

/-! ## What a merge leaves -/

/-- What was published is never written over. -/
theorem Shared.published_kept (shared : Shared w) (here : w.clients id = some c) {s : Slice}
    (published : w.Published s) : (c.merge server w.heap).1.view s = w.heap.view s := by
  unfold Client.merge
  split
  · rename_i touched named m phase
    split
    · rfl
    · refine (kept_of_add_round _ (w.heap, touched) _ (shared.published s published) ?_).2
      exact shared.above s published id c touched here (by rw [phase]; rfl)
  all_goals rfl

/-- Neither is what a handler holds, where the turn spares it. -/
theorem held_kept {mine : Phase} {s : Slice} (found : mine.holding = some s)
    (holds : heap.Holds s) (spares : Spares heap mine c.phase) :
    (c.merge server heap).1.view s = heap.view s := by
  unfold Client.merge
  split
  · rename_i touched named m phase
    split
    · rfl
    · rename_i ref next
      unfold addRound
      split_ifs with there
      · rfl
      · have appends : c.phase.appends heap = some (touched, ref) := by
          rw [phase, Phase.appends, next]
          exact if_neg there
        rw [Spares, found, appends] at spares
        exact view_append holds spares
  all_goals rfl

end Moves

end Live

end Ghoststake
