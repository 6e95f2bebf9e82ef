import Mathlib

/-!
# Folding by key

A stream of events folded into one value for each key, in the order the keys
are first seen. What is found under a key is the fold of that key's events.
-/

set_option autoImplicit false

namespace KeyedFold

variable {Key Event Value : Type} [DecidableEq Key] {key k : Key}
variable {table : List (Key × Value)} {change : Option Value → Value}

/-- Change the value under a key, putting a new key last. -/
def upsert (key : Key) (change : Option Value → Value) :
    List (Key × Value) → List (Key × Value)
  | [] => [(key, change none)]
  | (other, value) :: rest =>
      if other = key then (other, change (some value)) :: rest
      else (other, value) :: upsert key change rest

def absorb (keyOf : Event → Key) (step : Event → Option Value → Value)
    (table : List (Key × Value)) (event : Event) : List (Key × Value) :=
  upsert (keyOf event) (step event) table

def foldBy (keyOf : Event → Key) (step : Event → Option Value → Value) (events : List Event) :
    List (Key × Value) :=
  events.foldl (absorb keyOf step) []

theorem lookup_upsert_self :
    (upsert key change table).lookup key = some (change (table.lookup key)) := by
  induction table with
  | nil => simp [upsert]
  | cons pair rest ih =>
      obtain ⟨other, value⟩ := pair
      by_cases same : other = key
      · simp [upsert, same]
      · have apart : (key == other) = false := beq_eq_false_iff_ne.2 (Ne.symm same)
        simp [upsert, same, List.lookup_cons, apart, ih]

theorem lookup_upsert_of_ne (apart : k ≠ key) :
    (upsert key change table).lookup k = table.lookup k := by
  induction table with
  | nil => simp [upsert, List.lookup_cons, beq_eq_false_iff_ne.2 apart]
  | cons pair rest ih =>
      obtain ⟨other, value⟩ := pair
      by_cases same : other = key
      · simp [upsert, same, List.lookup_cons, beq_eq_false_iff_ne.2 apart]
      · simp [upsert, same, List.lookup_cons, ih]

theorem lookup_foldl (keyOf : Event → Key) (step : Event → Option Value → Value)
    (events : List Event) (table : List (Key × Value)) (k : Key) :
    (events.foldl (absorb keyOf step) table).lookup k =
      (events.filter fun event => keyOf event = k).foldl
        (fun value event => some (step event value)) (table.lookup k) := by
  induction events generalizing table with
  | nil => rfl
  | cons event rest ih =>
      rw [List.foldl_cons, ih]
      by_cases same : keyOf event = k
      · have found : (absorb keyOf step table event).lookup k =
            some (step event (table.lookup k)) := by
          rw [absorb, same, lookup_upsert_self]
        rw [List.filter_cons_of_pos (by simp [same]), List.foldl_cons, found]
      · have found : (absorb keyOf step table event).lookup k = table.lookup k :=
          lookup_upsert_of_ne (Ne.symm same)
        rw [List.filter_cons_of_neg (by simp [same]), found]

theorem lookup_foldBy (keyOf : Event → Key) (step : Event → Option Value → Value)
    (events : List Event) (k : Key) :
    (foldBy keyOf step events).lookup k =
      (events.filter fun event => keyOf event = k).foldl
        (fun value event => some (step event value)) none :=
  lookup_foldl keyOf step events [] k

theorem forall_upsert {Holds : Key → Value → Prop} (held : ∀ pair ∈ table, Holds pair.1 pair.2)
    (changed : Holds key (change (table.lookup key))) :
    ∀ pair ∈ upsert key change table, Holds pair.1 pair.2 := by
  induction table with
  | nil =>
      intro pair member
      rw [List.mem_singleton.1 member]
      exact changed
  | cons first rest ih =>
      obtain ⟨other, value⟩ := first
      have later : ∀ pair ∈ rest, Holds pair.1 pair.2 :=
        fun pair member => held pair (List.mem_cons_of_mem _ member)
      by_cases same : other = key
      · subst same
        simp only [List.lookup_cons_self] at changed
        intro pair member
        rw [upsert, if_pos rfl] at member
        rcases List.mem_cons.1 member with rfl | member
        · exact changed
        · exact later pair member
      · have apart : (key == other) = false := beq_eq_false_iff_ne.2 (Ne.symm same)
        simp only [List.lookup_cons, apart] at changed
        intro pair member
        rw [upsert, if_neg same] at member
        rcases List.mem_cons.1 member with rfl | member
        · exact held _ List.mem_cons_self
        · exact ih later changed pair member

/-- What every event leaves of its key's value, every value of the fold has. -/
theorem forall_foldBy (Holds : Key → Value → Prop) {keyOf : Event → Key}
    {step : Event → Option Value → Value}
    (kept : ∀ event found, (∀ value, found = some value → Holds (keyOf event) value) →
      Holds (keyOf event) (step event found))
    (events : List Event) : ∀ pair ∈ foldBy keyOf step events, Holds pair.1 pair.2 := by
  unfold foldBy
  induction events using List.reverseRecOn with
  | nil => nofun
  | append_singleton rest last ih =>
      rw [List.foldl_append]
      apply forall_upsert ih
      apply kept
      intro value found
      obtain ⟨before, after, split, _⟩ := List.lookup_eq_some_iff.1 found
      have member : (keyOf last, value) ∈ rest.foldl (absorb keyOf step) [] := by
        rw [split]
        exact List.mem_append_right _ List.mem_cons_self
      exact ih _ member

theorem find_map_snd {keyed : Value → Key} (carried : ∀ pair ∈ table, keyed pair.2 = pair.1) :
    (table.map Prod.snd).find? (fun value => keyed value = k) = table.lookup k := by
  induction table with
  | nil => rfl
  | cons first rest ih =>
      obtain ⟨other, value⟩ := first
      have here : keyed value = other := carried _ List.mem_cons_self
      have later := ih fun pair member => carried pair (List.mem_cons_of_mem _ member)
      by_cases same : other = k
      · simp [here, same]
      · have apart : (k == other) = false := beq_eq_false_iff_ne.2 (Ne.symm same)
        simp [List.lookup_cons, here, same, apart, ← later]

/-- A fold from nothing finds nothing only when there was no event. -/
theorem foldl_some_eq_none {step : Event → Option Value → Value} {events : List Event} :
    events.foldl (fun value event => some (step event value)) none = none ↔ events = [] := by
  constructor
  · intro nothing
    cases events using List.reverseRecOn with
    | nil => rfl
    | append_singleton rest last =>
        rw [List.foldl_append] at nothing
        cases nothing
  · intro empty
    rw [empty]
    rfl

/-- A fold seen through an image of it: the events that move the image fold to
it, and the others can be left out. -/
theorem image_foldl {Image : Type} {step : Event → Option Value → Value}
    (image : Option Value → Image) (move : Image → Event → Image) (kept : Event → Bool)
    (Sound : Option Value → Prop)
    (sounds : ∀ event found, Sound found → Sound (some (step event found)))
    (moves : ∀ event found, Sound found → kept event = true →
      image (some (step event found)) = move (image found) event)
    (stays : ∀ event found, Sound found → kept event = false →
      image (some (step event found)) = image found)
    (events : List Event) {found : Option Value} (sound : Sound found) :
    image (events.foldl (fun value event => some (step event value)) found) =
      (events.filter kept).foldl move (image found) := by
  induction events generalizing found with
  | nil => rfl
  | cons event rest ih =>
      rw [List.foldl_cons, ih (sounds event found sound)]
      cases taken : kept event with
      | true => rw [List.filter_cons_of_pos taken, List.foldl_cons, moves event found sound taken]
      | false =>
          have left : ¬kept event = true := Bool.not_eq_true _ ▸ taken
          rw [List.filter_cons_of_neg left, stays event found sound taken]

/-! ## The order of the keys -/

theorem map_fst_upsert :
    (upsert key change table).map Prod.fst =
      if key ∈ table.map Prod.fst then table.map Prod.fst else table.map Prod.fst ++ [key] := by
  induction table with
  | nil => simp [upsert]
  | cons pair rest ih =>
      obtain ⟨other, value⟩ := pair
      by_cases same : other = key
      · simp [upsert, same]
      · simp only [upsert, if_neg same, List.map_cons, ih, List.mem_cons, Ne.symm same,
          false_or]
        split_ifs <;> rfl

/-- The keys of a fold stand in the order they were first seen. -/
theorem map_fst_foldBy (keyOf : Event → Key) (step : Event → Option Value → Value)
    (events : List Event) :
    (foldBy keyOf step events).map Prod.fst = (events.map keyOf).reverse.dedup.reverse := by
  unfold foldBy
  induction events using List.reverseRecOn with
  | nil => rfl
  | append_singleton rest last ih =>
      rw [List.foldl_append, List.foldl_cons, List.foldl_nil, absorb, map_fst_upsert, ih,
        List.map_append, List.reverse_append]
      simp only [List.map_cons, List.map_nil, List.reverse_cons, List.reverse_nil, List.nil_append,
        List.cons_append, List.mem_reverse, List.mem_dedup]
      by_cases seen : keyOf last ∈ rest.map keyOf
      · rw [if_pos seen, List.dedup_cons_of_mem (List.mem_reverse.2 seen)]
      · have fresh : keyOf last ∉ (rest.map keyOf).reverse := by
          rwa [List.mem_reverse]
        rw [if_neg seen, List.dedup_cons_of_notMem fresh, List.reverse_cons]

theorem nodup_map_fst_foldBy (keyOf : Event → Key) (step : Event → Option Value → Value)
    (events : List Event) : ((foldBy keyOf step events).map Prod.fst).Nodup := by
  rw [map_fst_foldBy]
  exact List.nodup_reverse.2 (List.nodup_dedup _)

/-- What stands under a key is the fold of its events. -/
theorem value_of_mem_foldBy (keyOf : Event → Key) (step : Event → Option Value → Value)
    (events : List Event) {pair : Key × Value} (member : pair ∈ foldBy keyOf step events) :
    some pair.2 = (events.filter fun event => keyOf event = pair.1).foldl
      (fun value event => some (step event value)) none := by
  rw [← lookup_foldBy]
  have distinct := nodup_map_fst_foldBy keyOf step events
  obtain ⟨before, after, split⟩ := List.append_of_mem member
  rw [split, List.map_append, List.map_cons, List.nodup_middle, List.nodup_cons] at distinct
  symm
  rw [List.lookup_eq_some_iff]
  refine ⟨before, after, split, ?_⟩
  intro other earlier
  rw [bne_iff_ne]
  intro same
  apply distinct.1
  rw [same]
  exact List.mem_append_left _ (List.mem_map_of_mem earlier)

theorem mem_foldBy_iff (keyOf : Event → Key) (step : Event → Option Value → Value)
    (events : List Event) {pair : Key × Value} :
    pair ∈ foldBy keyOf step events ↔
      (events.filter fun event => keyOf event = pair.1).foldl
        (fun value event => some (step event value)) none = some pair.2 := by
  constructor
  · exact fun member => (value_of_mem_foldBy keyOf step events member).symm
  · intro folded
    rw [← lookup_foldBy, List.lookup_eq_some_iff] at folded
    obtain ⟨before, after, split, _⟩ := folded
    rw [split]
    exact List.mem_append_right _ List.mem_cons_self

theorem foldBy_perm_append (keyOf : Event → Key) (step : Event → Option Value → Value)
    {mixed first second : List Event}
    (apart : ∀ a ∈ first, ∀ b ∈ second, keyOf a ≠ keyOf b)
    (parts : ∀ k, (mixed.filter fun event => keyOf event = k) =
      (first.filter fun event => keyOf event = k) ++ second.filter fun event => keyOf event = k) :
    (foldBy keyOf step mixed).Perm (foldBy keyOf step first ++ foldBy keyOf step second) := by
  have key_of_mem {events : List Event} {pair : Key × Value}
      (member : pair ∈ foldBy keyOf step events) : ∃ event ∈ events, keyOf event = pair.1 := by
    have listed : pair.1 ∈ (foldBy keyOf step events).map Prod.fst := List.mem_map_of_mem member
    rw [map_fst_foldBy, List.mem_reverse, List.mem_dedup, List.mem_reverse] at listed
    exact List.mem_map.1 listed
  have none_of {events : List Event} {k : Key} (free : ∀ event ∈ events, keyOf event ≠ k) :
      (events.filter fun event => keyOf event = k) = [] := by
    rw [List.filter_eq_nil_iff]
    intro event member
    rw [decide_eq_true_eq]
    exact free event member
  apply (List.perm_ext_iff_of_nodup _ _).2
  · intro pair
    rw [List.mem_append, mem_foldBy_iff, mem_foldBy_iff, mem_foldBy_iff, parts]
    by_cases left : ∃ a ∈ first, keyOf a = pair.1
    · obtain ⟨a, member, same⟩ := left
      have silent := none_of fun b inSecond => same ▸ (apart a member b inSecond).symm
      rw [silent, List.append_nil]
      simp
    · have silent : (first.filter fun event => keyOf event = pair.1) = [] := by
        apply none_of
        intro a member same
        exact left ⟨a, member, same⟩
      rw [silent, List.nil_append]
      simp
  · exact (nodup_map_fst_foldBy keyOf step mixed).of_map _
  · rw [List.nodup_append]
    refine ⟨(nodup_map_fst_foldBy keyOf step first).of_map _,
      (nodup_map_fst_foldBy keyOf step second).of_map _, ?_⟩
    intro left inFirst right inSecond same
    obtain ⟨a, member, named⟩ := key_of_mem inFirst
    obtain ⟨b, alsoMember, alsoNamed⟩ := key_of_mem inSecond
    apply apart a member b alsoMember
    rw [named, alsoNamed, same]

end KeyedFold
