import Ghoststake.Ledger.Rounds
import Ghoststake.Library.Intransitive

/-!
# Listings, newest first

Two listings are sorted by a comparator that reads round ids within a market
and blocks across markets. A late claim on an old round can leave no order that
agrees with both, and a sort says nothing of it. What a sort promises is all
that can be relied on, and it promises nothing for such a comparator.
-/

namespace Ghoststake

set_option autoImplicit false

open KeyedFold StableSort

namespace Ledger

open Index

theorem ref_eq {a b : RoundRef} (same : a.market = b.market) (sameID : a.roundID = b.roundID) :
    a = b := by
  cases a
  cases b
  cases same
  cases sameID
  rfl

/-! ## The comparator -/

section Order

variable {Entry : Type} (ref : Entry → RoundRef) (lastBlock : Entry → Nat)

/-- The order both listings document. -/
def NewestFirst (out : List Entry) : Prop :=
  out.Pairwise fun a b =>
    ((ref a).market = (ref b).market → (ref b).roundID < (ref a).roundID) ∧
      ((ref a).market ≠ (ref b).market → lastBlock b ≤ lastBlock a)

instance (out : List Entry) : Decidable (NewestFirst ref lastBlock out) :=
  inferInstanceAs (Decidable (out.Pairwise _))

/-- The order both listings sort by. -/
def Ahead (a b : Entry) : Prop :=
  if (ref a).market ≠ (ref b).market then lastBlock b < lastBlock a
  else (ref b).roundID < (ref a).roundID

instance : DecidableRel (Ahead ref lastBlock) := fun a b => by
  unfold Ahead
  infer_instance

/-- Touched in a later block, or in the same one and listed first. -/
def TouchedAfter (l : List Entry) (a b : Entry) : Prop :=
  lastBlock b < lastBlock a ∨ lastBlock a = lastBlock b ∧ [a, b].Sublist l

/-- An entry of another market comes after the newer round of a market and
before an older one of it. -/
def Crossed (l : List Entry) : Prop :=
  ∃ a ∈ l, ∃ b ∈ l, ∃ c ∈ l, (ref a).market = (ref b).market ∧
    (ref b).roundID < (ref a).roundID ∧ (ref c).market ≠ (ref a).market ∧
      TouchedAfter lastBlock l b c ∧ TouchedAfter lastBlock l c a

/-- The same, where one block is as good as another. -/
def Overlapping (l : List Entry) : Prop :=
  ∃ a ∈ l, ∃ b ∈ l, ∃ c ∈ l, (ref a).market = (ref b).market ∧
    (ref b).roundID < (ref a).roundID ∧ (ref c).market ≠ (ref a).market ∧
      lastBlock c ≤ lastBlock b ∧ lastBlock a ≤ lastBlock c

/-- The same, with every block different. -/
def Tangled (l : List Entry) : Prop :=
  ∃ a ∈ l, ∃ b ∈ l, ∃ c ∈ l, (ref a).market = (ref b).market ∧
    (ref b).roundID < (ref a).roundID ∧ (ref c).market ≠ (ref a).market ∧
      lastBlock c < lastBlock b ∧ lastBlock a < lastBlock c

instance (l : List Entry) : Decidable (Tangled ref lastBlock l) :=
  inferInstanceAs (Decidable (∃ a ∈ l, _))

variable {ref lastBlock} {a b c : Entry} {l out : List Entry}

theorem ahead_of_same (same : (ref a).market = (ref b).market) :
    Ahead ref lastBlock a b ↔ (ref b).roundID < (ref a).roundID := by
  rw [Ahead, if_neg (not_not.2 same)]

theorem ahead_of_apart (apart : (ref a).market ≠ (ref b).market) :
    Ahead ref lastBlock a b ↔ lastBlock b < lastBlock a := by
  rw [Ahead, if_pos apart]

theorem not_ahead_of_ahead (a b : Entry) (first : Ahead ref lastBlock a b) :
    ¬Ahead ref lastBlock b a := by
  by_cases same : (ref a).market = (ref b).market
  · rw [ahead_of_same same] at first
    rw [ahead_of_same same.symm]
    omega
  · rw [ahead_of_apart same] at first
    rw [ahead_of_apart (Ne.symm same)]
    omega

/-- Entries of distinct rounds are in order when the comparator never objects. -/
theorem newest_first_iff (distinct : (out.map ref).Nodup) :
    NewestFirst ref lastBlock out ↔ out.Pairwise fun a b => ¬Ahead ref lastBlock b a := by
  have apart : out.Pairwise fun a b => ref a ≠ ref b := List.pairwise_map.1 distinct
  constructor
  · intro ordered
    apply ordered.imp
    intro a b ⟨within, across⟩
    by_cases same : (ref a).market = (ref b).market
    · rw [ahead_of_same same.symm]
      exact Nat.not_lt.2 (within same).le
    · rw [ahead_of_apart (Ne.symm same)]
      exact Nat.not_lt.2 (across same)
  · intro ordered
    apply (ordered.and apart).imp
    intro a b ⟨kept, other⟩
    constructor
    · intro same
      rw [ahead_of_same same.symm, Nat.not_lt] at kept
      apply Nat.lt_of_le_of_ne kept
      intro sameID
      exact other (ref_eq same sameID.symm)
    · intro across
      rwa [ahead_of_apart (Ne.symm across), Nat.not_lt] at kept

/-! ## When the comparator can be sorted by -/

theorem precedes_of_apart (apart : (ref a).market ≠ (ref b).market) :
    Precedes (Ahead ref lastBlock) l a b ↔ TouchedAfter lastBlock l a b := by
  rw [Precedes, ahead_of_apart apart, ahead_of_apart (Ne.symm apart), TouchedAfter]
  constructor
  · rintro ⟨kept, earlier | placed⟩
    · exact .inl earlier
    · rcases Nat.lt_or_eq_of_le (Nat.not_lt.1 kept) with earlier | tied
      · exact .inl earlier
      · exact .inr ⟨tied.symm, placed⟩
  · rintro (earlier | ⟨tied, placed⟩)
    · exact ⟨Nat.not_lt.2 earlier.le, .inl earlier⟩
    · exact ⟨Nat.not_lt.2 tied.ge, .inr placed⟩

theorem older_of_le (distinct : (l.map ref).Nodup) (left : a ∈ l) (right : b ∈ l)
    (same : (ref a).market = (ref b).market) (le : (ref a).roundID ≤ (ref b).roundID)
    (apart : lastBlock a ≠ lastBlock b) : (ref a).roundID < (ref b).roundID := by
  apply Nat.lt_of_le_of_ne le
  intro sameID
  apply apart
  rw [List.inj_on_of_nodup_map distinct left right (ref_eq same sameID)]

theorem precedes_of_same (distinct : (l.map ref).Nodup)
    (same : (ref a).market = (ref b).market) :
    Precedes (Ahead ref lastBlock) l a b → (ref b).roundID < (ref a).roundID := by
  rw [Precedes, ahead_of_same same, ahead_of_same same.symm]
  rintro ⟨kept, first | placed⟩
  · exact first
  · have apart : ref a ≠ ref b := by
      have pair := distinct.sublist (placed.map ref)
      simpa using pair
    apply Nat.lt_of_le_of_ne (Nat.not_lt.1 kept)
    intro sameID
    exact apart (ref_eq same sameID.symm)

/-- A cycle of three is two rounds of a market around one of another. -/
theorem crossed_of_cycle (distinct : (l.map ref).Nodup) (left : a ∈ l) (middle : b ∈ l)
    (right : c ∈ l) (first : Precedes (Ahead ref lastBlock) l a b)
    (second : Precedes (Ahead ref lastBlock) l b c)
    (third : Precedes (Ahead ref lastBlock) l c a) : Crossed ref lastBlock l := by
  by_cases ab : (ref a).market = (ref b).market
  · have older := precedes_of_same distinct ab first
    by_cases bc : (ref b).market = (ref c).market
    · have oldest := precedes_of_same distinct bc second
      have oldestYet := precedes_of_same distinct (ab.trans bc).symm third
      omega
    · have apart : (ref c).market ≠ (ref a).market := by
        intro same
        exact bc (ab.symm.trans same.symm)
      exact ⟨a, left, b, middle, c, right, ab, older, apart, (precedes_of_apart bc).1 second,
        (precedes_of_apart apart).1 third⟩
  · by_cases bc : (ref b).market = (ref c).market
    · have apart : (ref c).market ≠ (ref a).market := by
        intro same
        exact ab (same.symm.trans bc.symm)
      exact ⟨b, middle, c, right, a, left, bc, precedes_of_same distinct bc second, ab,
        (precedes_of_apart apart).1 third, (precedes_of_apart ab).1 first⟩
    · by_cases ca : (ref c).market = (ref a).market
      · exact ⟨c, right, a, left, b, middle, ca, precedes_of_same distinct ca third, bc,
          (precedes_of_apart ab).1 first, (precedes_of_apart bc).1 second⟩
      · have nodup : l.Nodup := List.Nodup.of_map ref distinct
        have ties := (precedes_of_apart ab).1 first
        have tiesToo := (precedes_of_apart bc).1 second
        have tiesAlso := (precedes_of_apart ca).1 third
        unfold TouchedAfter at ties tiesToo tiesAlso
        have ab_placed : [a, b].Sublist l := by
          apply And.right (ties.resolve_left _)
          omega
        have bc_placed : [b, c].Sublist l := by
          apply And.right (tiesToo.resolve_left _)
          omega
        have ca_placed : [c, a].Sublist l := by
          apply And.right (tiesAlso.resolve_left _)
          omega
        exact absurd ca_placed
          (not_sublist_swapped nodup (sublist_pair_trans nodup ab_placed bc_placed))

/-- What an insertion makes of distinct rounds is in the documented order
unless they are crossed. -/
theorem newest_first_insertion_iff (distinct : (l.map ref).Nodup) :
    NewestFirst ref lastBlock (insertion (Ahead ref lastBlock) l) ↔
      ¬Crossed ref lastBlock l := by
  have sorted := @perm_insertion _ (Ahead ref lastBlock) _ l
  have nodup : l.Nodup := List.Nodup.of_map ref distinct
  rw [newest_first_iff ((sorted.map ref).nodup_iff.2 distinct),
    pairwise_insertion_iff_no_cycle not_ahead_of_ahead nodup]
  constructor
  · rintro acyclic ⟨a, left, b, middle, c, right, same, older, apart, second, third⟩
    have first : Precedes (Ahead ref lastBlock) l a b := by
      rw [Precedes, ahead_of_same same, ahead_of_same same.symm]
      exact ⟨Nat.not_lt.2 older.le, .inl older⟩
    have across : (ref b).market ≠ (ref c).market := by
      intro again
      exact apart (again.symm.trans same.symm)
    exact acyclic a left b middle c right first ((precedes_of_apart across).2 second)
      ((precedes_of_apart apart).2 third)
  · intro straight a left b middle c right first second third
    exact straight (crossed_of_cycle distinct left middle right first second third)

/-! ## When any sort will do -/

theorem weak_on_iff (distinct : (l.map ref).Nodup) :
    WeakOn (Ahead ref lastBlock) l ↔ ¬Overlapping ref lastBlock l := by
  constructor
  · rintro weak ⟨a, left, b, middle, c, right, same, older, apart, later, earlier⟩
    have across : (ref b).market ≠ (ref c).market := by
      intro again
      exact apart (again.symm.trans same.symm)
    have first : ¬Ahead ref lastBlock c b := by
      rw [ahead_of_apart (Ne.symm across)]
      exact Nat.not_lt.2 later
    have second : ¬Ahead ref lastBlock a c := by
      rw [ahead_of_apart (Ne.symm apart)]
      exact Nat.not_lt.2 earlier
    exact weak b middle c right a left first second ((ahead_of_same same).2 older)
  · intro free a left b middle c right first second back
    by_cases ac : (ref c).market = (ref a).market
    · rw [ahead_of_same ac] at back
      by_cases ab : (ref b).market = (ref a).market
      · rw [ahead_of_same ab] at first
        rw [ahead_of_same (ac.trans ab.symm)] at second
        omega
      · rw [ahead_of_apart ab, Nat.not_lt] at first
        have cb : (ref c).market ≠ (ref b).market := fun same => ab (same.symm.trans ac)
        rw [ahead_of_apart cb, Nat.not_lt] at second
        exact free ⟨c, right, a, left, b, middle, ac, back, cb.symm, first, second⟩
    · rw [ahead_of_apart ac] at back
      by_cases ab : (ref b).market = (ref a).market
      · rw [ahead_of_same ab, Nat.not_lt] at first
        have cb : (ref c).market ≠ (ref b).market := fun same => ac (same.trans ab)
        rw [ahead_of_apart cb, Nat.not_lt] at second
        have moved : lastBlock b ≠ lastBlock a := by omega
        have older := older_of_le distinct middle left ab first moved
        exact free ⟨a, left, b, middle, c, right, ab.symm, older, ac, second, back.le⟩
      · rw [ahead_of_apart ab, Nat.not_lt] at first
        by_cases cb : (ref c).market = (ref b).market
        · rw [ahead_of_same cb, Nat.not_lt] at second
          have moved : lastBlock c ≠ lastBlock b := by omega
          have older := older_of_le distinct right middle cb second moved
          exact free ⟨b, middle, c, right, a, left, cb.symm, older, Ne.symm ab, back.le, first⟩
        · rw [ahead_of_apart cb, Nat.not_lt] at second
          omega

/-- Whatever a sort that promises no more makes of distinct rounds is in the
documented order unless they overlap. -/
theorem newest_first_slice_iff (distinct : (l.map ref).Nodup) :
    (∀ out, Slice (Ahead ref lastBlock) l out → NewestFirst ref lastBlock out) ↔
      ¬Overlapping ref lastBlock l := by
  constructor
  · intro always overlapping
    have unspecified : ¬WeakOn (Ahead ref lastBlock) l := by
      rw [weak_on_iff distinct]
      exact not_not.2 overlapping
    have asGiven := always l ⟨List.Perm.refl l, fun weak => absurd weak unspecified⟩
    have turned := always l.reverse ⟨List.reverse_perm l, fun weak => absurd weak unspecified⟩
    obtain ⟨a, left, b, middle, _, _, same, older, _⟩ := overlapping
    have apart : a ≠ b := by
      intro one
      rw [one] at older
      exact Nat.lt_irrefl _ older
    rcases sublist_or_sublist apart left middle with placed | placed
    · have reversed : [b, a].Sublist l.reverse := placed.reverse
      have pair := List.pairwise_pair.1 (turned.sublist reversed)
      exact Nat.lt_asymm older (pair.1 same.symm)
    · have pair := List.pairwise_pair.1 (asGiven.sublist placed)
      exact Nat.lt_asymm older (pair.1 same.symm)
  · intro free out ⟨order, sorted⟩
    rw [newest_first_iff ((order.map ref).nodup_iff.2 distinct)]
    exact sorted ((weak_on_iff distinct).2 free)

/-- A stable sort can do no better. -/
theorem newest_first_slice_stable_iff (distinct : (l.map ref).Nodup) :
    (∀ out, SliceStable (Ahead ref lastBlock) l out → NewestFirst ref lastBlock out) ↔
      ¬Overlapping ref lastBlock l := by
  rw [← newest_first_slice_iff distinct]
  constructor
  · intro always out ⟨order, sorted⟩
    by_cases weak : WeakOn (Ahead ref lastBlock) l
    · rw [newest_first_iff ((order.map ref).nodup_iff.2 distinct)]
      exact sorted weak
    · exact always out ⟨order, fun sortable => absurd sortable weak⟩
  · intro always out ⟨order, sorted⟩
    exact always out ⟨order, fun weak => (sorted weak).sorted⟩

/-- With a round touched strictly between, there is no order to find. -/
theorem not_newest_first (tangled : Tangled ref lastBlock l) (order : out.Perm l) :
    ¬NewestFirst ref lastBlock out := by
  obtain ⟨a, left, b, middle, c, right, same, older, apart, later, earlier⟩ := tangled
  rw [← order.mem_iff] at left middle right
  intro ordered
  have nodup : out.Nodup := by
    apply ordered.imp
    intro x y pair one
    rw [one] at pair
    exact Nat.lt_irrefl _ (pair.1 rfl)
  have pair {x y : Entry} (placed : [x, y].Sublist out) :=
    List.pairwise_pair.1 (ordered.sublist placed)
  have ab : [a, b].Sublist out := by
    apply (sublist_or_sublist _ left middle).resolve_right
    · intro placed
      exact Nat.lt_asymm older ((pair placed).1 same.symm)
    · intro one
      rw [one] at older
      exact Nat.lt_irrefl _ older
  have across : (ref b).market ≠ (ref c).market := by
    intro again
    exact apart (again.symm.trans same.symm)
  have bc : [b, c].Sublist out := by
    apply (sublist_or_sublist _ middle right).resolve_right
    · intro placed
      exact Nat.not_lt.2 ((pair placed).2 across.symm) later
    · intro one
      exact across (congrArg (fun entry => (ref entry).market) one)
  have ac : [a, c].Sublist out := sublist_pair_trans nodup ab bc
  exact Nat.not_lt.2 ((pair ac).2 apart.symm) earlier

end Order

/-! ## What the listings are of -/

section Names

variable {Entry : Type} {ref : Entry → RoundRef} {lastBlock : Entry → Nat}
  {newest : RoundRef → Nat} {a b : Entry} {l : List Entry}

theorem sublist_map_ref (distinct : (l.map ref).Nodup) (left : a ∈ l) (right : b ∈ l) :
    [ref a, ref b].Sublist (l.map ref) ↔ [a, b].Sublist l := by
  constructor
  · intro placed
    have apart : a ≠ b := by
      intro one
      rw [one] at placed
      exact not_sublist_swapped distinct placed placed
    apply (sublist_or_sublist apart left right).resolve_right
    intro swapped
    exact not_sublist_swapped distinct placed (swapped.map ref)
  · exact fun placed => placed.map ref

theorem crossed_map (distinct : (l.map ref).Nodup)
    (blocks : ∀ entry ∈ l, lastBlock entry = newest (ref entry)) :
    Crossed id newest (l.map ref) ↔ Crossed ref lastBlock l := by
  have after {a b : Entry} (left : a ∈ l) (right : b ∈ l) :
      TouchedAfter newest (l.map ref) (ref a) (ref b) ↔ TouchedAfter lastBlock l a b := by
    unfold TouchedAfter
    rw [sublist_map_ref distinct left right, blocks a left, blocks b right]
  constructor
  · rintro ⟨_, first, _, second, _, third, same, older, apart, later, earlier⟩
    obtain ⟨a, left, rfl⟩ := List.mem_map.1 first
    obtain ⟨b, middle, rfl⟩ := List.mem_map.1 second
    obtain ⟨c, right, rfl⟩ := List.mem_map.1 third
    exact ⟨a, left, b, middle, c, right, same, older, apart, (after middle right).1 later,
      (after right left).1 earlier⟩
  · rintro ⟨a, left, b, middle, c, right, same, older, apart, later, earlier⟩
    exact ⟨_, List.mem_map_of_mem left, _, List.mem_map_of_mem middle, _,
      List.mem_map_of_mem right, same, older, apart, (after middle right).2 later,
      (after right left).2 earlier⟩

theorem between_map {names : List RoundRef} (members : ∀ name, name ∈ names ↔ name ∈ l.map ref)
    (blocks : ∀ entry ∈ l, lastBlock entry = newest (ref entry)) (rel : Nat → Nat → Prop) :
    (∃ a ∈ names, ∃ b ∈ names, ∃ c ∈ names, a.market = b.market ∧ b.roundID < a.roundID ∧
        c.market ≠ a.market ∧ rel (newest c) (newest b) ∧ rel (newest a) (newest c)) ↔
      ∃ a ∈ l, ∃ b ∈ l, ∃ c ∈ l, (ref a).market = (ref b).market ∧
        (ref b).roundID < (ref a).roundID ∧ (ref c).market ≠ (ref a).market ∧
          rel (lastBlock c) (lastBlock b) ∧ rel (lastBlock a) (lastBlock c) := by
  constructor
  · rintro ⟨_, first, _, second, _, third, same, older, apart, later, earlier⟩
    obtain ⟨a, left, rfl⟩ := List.mem_map.1 ((members _).1 first)
    obtain ⟨b, middle, rfl⟩ := List.mem_map.1 ((members _).1 second)
    obtain ⟨c, right, rfl⟩ := List.mem_map.1 ((members _).1 third)
    refine ⟨a, left, b, middle, c, right, same, older, apart, ?_, ?_⟩
    · rw [blocks b middle, blocks c right]
      exact later
    · rw [blocks a left, blocks c right]
      exact earlier
  · rintro ⟨a, left, b, middle, c, right, same, older, apart, later, earlier⟩
    rw [blocks b middle, blocks c right] at later
    rw [blocks a left, blocks c right] at earlier
    exact ⟨_, (members _).2 (List.mem_map_of_mem left), _,
      (members _).2 (List.mem_map_of_mem middle), _, (members _).2 (List.mem_map_of_mem right),
      same, older, apart, later, earlier⟩

theorem overlapping_map {names : List RoundRef} (members : ∀ name, name ∈ names ↔ name ∈ l.map ref)
    (blocks : ∀ entry ∈ l, lastBlock entry = newest (ref entry)) :
    Overlapping id newest names ↔ Overlapping ref lastBlock l :=
  between_map members blocks (· ≤ ·)

theorem tangled_map (blocks : ∀ entry ∈ l, lastBlock entry = newest (ref entry)) :
    Tangled id newest (l.map ref) ↔ Tangled ref lastBlock l :=
  between_map (fun _ => Iff.rfl) blocks (· < ·)

end Names

def touched (events : List RoundEvent) (ref : RoundRef) : Nat :=
  ((events.filter fun e => refOf e = ref).map fun e => e.provenance.blockNumber).foldl max 0

/-- The rounds of some events, the last to be named first. -/
def opened (events : List RoundEvent) : List RoundRef :=
  ((sliceStable Earlier events).map refOf).reverse.dedup

theorem touched_perm {events others : List RoundEvent} (order : events.Perm others)
    (ref : RoundRef) : touched events ref = touched others ref := by
  unfold touched
  exact ((order.filter _).map _).foldl_eq 0

theorem mem_opened {events : List RoundEvent} {ref : RoundRef} :
    ref ∈ opened events ↔ ref ∈ events.map refOf := by
  rw [opened, List.mem_dedup, List.mem_reverse]
  exact ((perm_sliceStable events).map refOf).mem_iff

/-! ## Project and handleRounds -/

theorem last_block_apply_round_event (r : Round) (e : RoundEvent) :
    (applyRoundEvent r e).lastBlock = r.lastBlock := by
  unfold applyRoundEvent Round.staked Round.asking
  split
  all_goals first | rfl | skip
  split
  · rfl
  · split_ifs <;> rfl

theorem last_block_raised (r : Round) (e : RoundEvent) :
    (r.raised e).lastBlock = max r.lastBlock e.provenance.blockNumber := by
  unfold Round.raised
  split_ifs with later
  · exact (max_eq_right later.le).symm
  · exact (max_eq_left (not_lt.1 later)).symm

/-- A measure each event raises to its block is the newest block of them. -/
theorem measure_foldl {Value : Type} {measure : Value → Nat}
    {step : RoundEvent → Option Value → Value}
    (raises : ∀ e found,
      measure (step e found) = max (found.elim 0 measure) e.provenance.blockNumber)
    (events : List RoundEvent) :
    (events.foldl (fun value e => some (step e value)) none).elim 0 measure =
      (events.map fun e => e.provenance.blockNumber).foldl max 0 := by
  induction events using List.reverseRecOn with
  | nil => rfl
  | append_singleton rest last ih =>
      rw [List.foldl_append, List.map_append, List.foldl_append, ← ih]
      exact raises last _

/-- A folded value's measure is the newest block of its round's events. -/
theorem measure_of_mem {Value : Type} (measure : Value → Nat)
    {step : RoundEvent → Option Value → Value}
    (raises : ∀ e found,
      measure (step e found) = max (found.elim 0 measure) e.provenance.blockNumber)
    {events : List RoundEvent} {pair : RoundRef × Value}
    (member : pair ∈ foldBy refOf step (sliceStable Earlier events)) :
    measure pair.2 = touched events pair.1 := by
  have folded := measure_foldl raises
    ((sliceStable Earlier events).filter fun e => refOf e = pair.1)
  rw [← value_of_mem_foldBy refOf step _ member] at folded
  have order : (sliceStable Earlier events).Perm events := perm_sliceStable events
  rw [← touched_perm order]
  exact folded

theorem last_block_of_mem {events : List RoundEvent} {r : Round} (member : r ∈ project events) :
    r.lastBlock = touched events r.ref := by
  obtain ⟨pair, folded, rfl⟩ := List.mem_map.1 member
  rw [ref_of_mem folded]
  apply measure_of_mem Round.lastBlock _ folded
  intro e found
  rw [foldRound, last_block_apply_round_event, last_block_raised]
  cases found with
  | none => rfl
  | some r => rfl

theorem map_ref_project (events : List RoundEvent) :
    (project events).map Round.ref = (opened events).reverse := by
  rw [project, List.map_map, opened, ← map_fst_foldBy refOf foldRound]
  apply List.map_congr_left
  intro pair member
  exact ref_of_mem member

/-- What `handleRounds` sorts by. -/
def Round.Newer (a b : Round) : Prop :=
  if a.market ≠ b.market then b.lastBlock < a.lastBlock else b.roundID < a.roundID

def handleRounds (events : List RoundEvent) (out : List Round) : Prop :=
  Slice Round.Newer (project events) out

theorem newest_first_handle_rounds_iff (events : List RoundEvent) :
    (∀ out, handleRounds events out → NewestFirst Round.ref Round.lastBlock out) ↔
      ¬Overlapping id (touched events) (events.map refOf) := by
  have distinct : ((project events).map Round.ref).Nodup := by
    rw [map_ref_project]
    exact List.nodup_reverse.2 (List.nodup_dedup _)
  refine (newest_first_slice_iff distinct).trans (not_congr ?_)
  symm
  apply overlapping_map
  · intro name
    rw [map_ref_project, List.mem_reverse, mem_opened]
  · exact fun r member => last_block_of_mem member

/-! ## ProjectPositions -/

def AccountPosition.ref (p : AccountPosition) : RoundRef := ⟨p.market, p.roundID⟩

/-- A stake, which is what makes a position. -/
def staking (e : RoundEvent) : Prop :=
  eventNamed e.provenance.eventName = some .positionTaken ∧ e.body.amount ≠ none

instance : DecidablePred staking := fun e =>
  inferInstanceAs (Decidable (_ ∧ e.body.amount ≠ none))

/-- The rounds an account has staked in, the last it was named in first. -/
def heldRefs (events : List RoundEvent) (account : Option Address) : List RoundRef :=
  (opened (naming account events)).filter fun ref =>
    ∃ e ∈ naming account events, refOf e = ref ∧ staking e

section Positions

variable (capital : Address → Nat → Bool) (account : Option Address)

theorem position_raised (p : AccountPosition) (e : RoundEvent) :
    (p.raised e).ref = p.ref ∧ (p.raised e).lastBlock = max p.lastBlock e.provenance.blockNumber := by
  simp only [AccountPosition.raised]
  split_ifs with later
  · exact ⟨rfl, (max_eq_right later.le).symm⟩
  · exact ⟨rfl, (max_eq_left (not_lt.1 later)).symm⟩

theorem position_staked (p : AccountPosition) (side : Text) (amount : Int) :
    (p.staked side amount).ref = p.ref ∧ (p.staked side amount).lastBlock = p.lastBlock := by
  unfold AccountPosition.staked
  split_ifs <;> exact ⟨rfl, rfl⟩

theorem position_funded (p : AccountPosition) (funder : Text) :
    (p.funded capital funder).ref = p.ref ∧ (p.funded capital funder).lastBlock = p.lastBlock := by
  unfold AccountPosition.funded
  split_ifs <;> exact ⟨rfl, rfl⟩

theorem fold_position (e : RoundEvent) (found : Option (AccountPosition × Bool)) :
    (foldPosition capital account e found).1.ref =
        (found.getD (newPosition account e, false)).1.ref ∧
      (foldPosition capital account e found).1.lastBlock =
        max (found.getD (newPosition account e, false)).1.lastBlock e.provenance.blockNumber ∧
      ((foldPosition capital account e found).2 = true ↔
        staking e ∨ (found.getD (newPosition account e, false)).2 = true) := by
  unfold foldPosition staking
  generalize found.getD (newPosition account e, false) = entry
  obtain ⟨p, staked⟩ := entry
  obtain ⟨same, block⟩ := position_raised p e
  simp only
  split
  · rename_i stakes nothing
    exact ⟨same, block, by simp [nothing]⟩
  · rename_i amount stakes paid
    obtain ⟨stakedSame, stakedBlock⟩ := position_staked (p.raised e) e.body.side amount
    obtain ⟨fundedSame, fundedBlock⟩ := position_funded capital
      ((p.raised e).staked e.body.side amount) (field e.body.data "funder")
    exact ⟨fundedSame.trans (stakedSame.trans same), fundedBlock.trans (stakedBlock.trans block),
      by simp [stakes, paid]⟩
  · rename_i claims nothing
    exact ⟨same, block, by simp [nothing]⟩
  · rename_i amount claims paid
    exact ⟨same, block, by simp [claims]⟩
  · rename_i unpaid _ _
    refine ⟨same, block, Or.inr, ?_⟩
    rintro (⟨stakes, paid⟩ | kept)
    · obtain ⟨amount, paid⟩ := Option.ne_none_iff_exists'.1 paid
      exact (unpaid amount stakes paid).elim
    · exact kept

theorem measure_fold_position (e : RoundEvent) (found : Option (AccountPosition × Bool)) :
    (foldPosition capital account e found).1.lastBlock =
      max (found.elim 0 fun entry => entry.1.lastBlock) e.provenance.blockNumber := by
  rw [(fold_position capital account e found).2.1]
  cases found with
  | none => rfl
  | some entry => rfl

/-- What the account's events fold to, for every round they name. -/
def folded (events : List RoundEvent) : List (RoundRef × (AccountPosition × Bool)) :=
  foldBy refOf (foldPosition capital account) (sliceStable Earlier (naming account events))

theorem ref_of_mem_folded {events : List RoundEvent}
    {pair : RoundRef × (AccountPosition × Bool)} (member : pair ∈ folded capital account events) :
    pair.2.1.ref = pair.1 := by
  revert pair
  apply forall_foldBy fun ref (entry : AccountPosition × Bool) => entry.1.ref = ref
  intro e found carried
  rw [(fold_position capital account e found).1]
  cases found with
  | none => rfl
  | some entry => exact carried entry rfl

theorem staked_foldl (events : List RoundEvent) :
    (events.foldl (fun found e => some (foldPosition capital account e found)) none).elim False
        (fun entry => entry.2 = true) ↔ ∃ e ∈ events, staking e := by
  induction events using List.reverseRecOn with
  | nil => simp
  | append_singleton rest last ih =>
      rw [List.foldl_append]
      refine (fold_position capital account last _).2.2.trans ?_
      have before (found : Option (AccountPosition × Bool)) :
          (found.getD (newPosition account last, false)).2 = true ↔
            found.elim False fun entry => entry.2 = true := by
        cases found with
        | none => exact iff_of_false Bool.false_ne_true id
        | some entry => exact Iff.rfl
      rw [before, ih]
      simp only [List.mem_append, List.mem_singleton, or_and_right, exists_or, exists_eq_left]
      exact Or.comm

theorem staked_of_mem_folded {events : List RoundEvent}
    {pair : RoundRef × (AccountPosition × Bool)} (member : pair ∈ folded capital account events) :
    pair.2.2 = true ↔ ∃ e ∈ naming account events, refOf e = pair.1 ∧ staking e := by
  have told := staked_foldl capital account
    ((sliceStable Earlier (naming account events)).filter fun e => refOf e = pair.1)
  rw [← value_of_mem_foldBy refOf _ _ member] at told
  refine told.trans ?_
  constructor
  · rintro ⟨e, found, stakes⟩
    obtain ⟨found, named⟩ := List.mem_filter.1 found
    exact ⟨e, mem_sliceStable.1 found, of_decide_eq_true named, stakes⟩
  · rintro ⟨e, found, named, stakes⟩
    exact ⟨e, List.mem_filter.2 ⟨mem_sliceStable.2 found, decide_eq_true named⟩, stakes⟩

def held (events : List RoundEvent) : List AccountPosition :=
  (((folded capital account events).map Prod.snd).reverse.filter Prod.snd).map Prod.fst

theorem held_eq (events : List RoundEvent) :
    held capital account events =
      ((folded capital account events).reverse.filter fun pair => pair.2.2).map
        fun pair => pair.2.1 := by
  rw [held, ← List.map_reverse, List.filter_map, List.map_map]
  rfl

theorem map_ref_held (events : List RoundEvent) :
    (held capital account events).map AccountPosition.ref = heldRefs events account := by
  have names : (folded capital account events).reverse.map Prod.fst =
      opened (naming account events) := by
    rw [List.map_reverse, folded, map_fst_foldBy, List.reverse_reverse, opened]
  have stakes : (folded capital account events).reverse.filter (fun pair => pair.2.2) =
      (folded capital account events).reverse.filter
        ((fun ref => decide (∃ e ∈ naming account events, refOf e = ref ∧ staking e)) ∘
          Prod.fst) := by
    apply List.filter_congr
    intro pair member
    rw [Bool.eq_iff_iff, Function.comp_apply, decide_eq_true_iff]
    exact staked_of_mem_folded capital account (List.mem_reverse.1 member)
  rw [held_eq, heldRefs, ← names, List.filter_map, ← stakes, List.map_map]
  apply List.map_congr_left
  intro pair member
  exact ref_of_mem_folded capital account
    (List.mem_reverse.1 (List.mem_of_mem_filter member))

theorem last_block_of_mem_held {events : List RoundEvent} {p : AccountPosition}
    (member : p ∈ held capital account events) :
    p.lastBlock = touched (naming account events) p.ref := by
  rw [held_eq] at member
  obtain ⟨pair, kept, rfl⟩ := List.mem_map.1 member
  have found := List.mem_reverse.1 (List.mem_of_mem_filter kept)
  rw [ref_of_mem_folded capital account found]
  exact measure_of_mem (fun entry => entry.1.lastBlock) (measure_fold_position capital account)
    found

theorem nodup_ref_held (events : List RoundEvent) :
    ((held capital account events).map AccountPosition.ref).Nodup := by
  rw [map_ref_held]
  exact (List.nodup_dedup _).filter _

theorem project_positions_eq (events : List RoundEvent) :
    projectPositions capital events account =
      sliceStable (Ahead AccountPosition.ref AccountPosition.lastBlock)
        (held capital account events) := by
  unfold projectPositions held folded
  congr

theorem newest_first_few_positions_iff {events : List RoundEvent}
    (few : (heldRefs events account).length ≤ blockSize) :
    NewestFirst AccountPosition.ref AccountPosition.lastBlock
        (projectPositions capital events account) ↔
      ¬Crossed id (touched (naming account events)) (heldRefs events account) := by
  have distinct := nodup_ref_held capital account events
  rw [← map_ref_held capital, List.length_map] at few
  rw [project_positions_eq, sliceStable_eq_insertion few, newest_first_insertion_iff distinct,
    ← map_ref_held capital,
    crossed_map distinct fun p member => last_block_of_mem_held capital account member]

theorem newest_first_positions_iff (events : List RoundEvent) :
    (∀ out, SliceStable AccountPosition.Newer (held capital account events) out →
        NewestFirst AccountPosition.ref AccountPosition.lastBlock out) ↔
      ¬Overlapping id (touched (naming account events)) (heldRefs events account) := by
  refine (newest_first_slice_stable_iff (nodup_ref_held capital account events)).trans
    (not_congr ?_)
  symm
  apply overlapping_map
  · intro name
    rw [map_ref_held]
  · exact fun p member => last_block_of_mem_held capital account member

theorem project_positions_promised (events : List RoundEvent) :
    SliceStable AccountPosition.Newer (held capital account events)
      (projectPositions capital events account) := by
  rw [project_positions_eq]
  exact sliceStable_promised not_ahead_of_ahead (held capital account events)

end Positions

/-- Both sorts give the documented order, whatever they do with a comparator
they promise nothing for, exactly when no round was last touched between two of
another market, in their blocks included. The algorithm at hand gives it for the
positions of such events too; where one was touched strictly between, it does
not; and up to a block of positions it does exactly when none comes between two
of another market by the blocks and, within a block, by which the account was
first named in last. -/
theorem listings_newest_first_iff (capital : Address → Nat → Bool) (events : List RoundEvent)
    (account : Option Address) :
    ((∀ out, SliceStable AccountPosition.Newer (held capital account events) out →
        NewestFirst AccountPosition.ref AccountPosition.lastBlock out) ↔
      ¬Overlapping id (touched (naming account events)) (heldRefs events account)) ∧
    (¬Overlapping id (touched (naming account events)) (heldRefs events account) →
      NewestFirst AccountPosition.ref AccountPosition.lastBlock
        (projectPositions capital events account)) ∧
    (Tangled id (touched (naming account events)) (heldRefs events account) →
      ¬NewestFirst AccountPosition.ref AccountPosition.lastBlock
        (projectPositions capital events account)) ∧
    ((heldRefs events account).length ≤ blockSize →
      (NewestFirst AccountPosition.ref AccountPosition.lastBlock
          (projectPositions capital events account) ↔
        ¬Crossed id (touched (naming account events)) (heldRefs events account))) ∧
    ((∀ out, handleRounds events out → NewestFirst Round.ref Round.lastBlock out) ↔
      ¬Overlapping id (touched events) (events.map refOf)) := by
  refine ⟨newest_first_positions_iff capital account events, ?_, ?_,
    newest_first_few_positions_iff capital account, newest_first_handle_rounds_iff events⟩
  · intro free
    exact (newest_first_positions_iff capital account events).2 free _
      (project_positions_promised capital account events)
  · intro tangled
    rw [← map_ref_held capital] at tangled
    exact not_newest_first
      ((tangled_map fun p member => last_block_of_mem_held capital account member).1 tangled)
      (project_positions_promised capital account events).1

/-! ## A late claim -/

section Sample

def listingAccount : Address := ⟨List.replicate 40 3, List.length_replicate⟩

def listingEvent (name : EventName) (market : Fin 16) (roundID block : Nat) : RoundEvent where
  provenance := ⟨1, block, ⟨List.replicate 64 0, Index.length_zeros⟩, block,
    ⟨List.replicate 64 0, Index.length_zeros⟩, block, 0, .parimutuelRound, name.text.toList⟩
  owner := some ⟨List.replicate 40 market, List.length_replicate⟩
  body := ⟨roundID, some listingAccount, sideUp, some 5, []⟩

/-- Stakes in two rounds of one market and one of another, and then a claim on
the first. -/
def lateClaim : List RoundEvent :=
  [listingEvent .positionTaken 1 1 10, listingEvent .positionTaken 1 2 20,
    listingEvent .positionTaken 2 1 30, listingEvent .claimed 1 1 40]

/-- The claim puts the older round after the other market's and that after the
newer round, and no order of the three agrees. -/
theorem late_claim_has_no_order :
    (∀ out, out.Perm (projectPositions (fun _ _ => false) lateClaim (some listingAccount)) →
      ¬NewestFirst AccountPosition.ref AccountPosition.lastBlock out) ∧
    ∀ out, handleRounds lateClaim out → ¬NewestFirst Round.ref Round.lastBlock out := by
  have positions : Tangled AccountPosition.ref AccountPosition.lastBlock
      (projectPositions (fun _ _ => false) lateClaim (some listingAccount)) := by
    decide +kernel
  have rounds : Tangled Round.ref Round.lastBlock (project lateClaim) := by
    decide +kernel
  constructor
  · intro out order
    exact not_newest_first positions order
  · intro out listed
    exact not_newest_first rounds listed.1

end Sample

end Ledger

end Ghoststake
