import Ghoststake.Library.StableSort

/-!
# Insertion by a comparator that is no order

A comparator need not be transitive for an insertion to leave a list in its
order: it is enough that, with ties taken by place, no three members each go
before the next.
-/

set_option autoImplicit false

namespace StableSort

variable {α : Type} {less : α → α → Prop} [DecidableRel less]

section Ties

variable {r : α → α → Prop} [DecidableRel r] {a b c x : α} {l : List α}

/-- By `r`, and by the place in the list where `r` goes both ways. -/
def Leads (r : α → α → Prop) (l : List α) (a b : α) : Prop := r a b ∧ (r b a → [a, b].Sublist l)

omit [DecidableRel r] in
theorem leads_cons (apart : a ≠ x) : Leads r (x :: l) a b ↔ Leads r l a b := by
  have placed : [a, b].Sublist (x :: l) ↔ [a, b].Sublist l := by
    constructor
    · intro placed
      cases placed with
      | cons _ later => exact later
      | cons_cons _ later => exact absurd rfl apart
    · exact fun later => later.cons x
  unfold Leads
  rw [placed]

omit [DecidableRel r] in
theorem sublist_or_sublist (apart : a ≠ b) (left : a ∈ l) (right : b ∈ l) :
    [a, b].Sublist l ∨ [b, a].Sublist l := by
  induction l with
  | nil => exact absurd left List.not_mem_nil
  | cons x rest ih =>
      rcases List.mem_cons.1 left with rfl | leftLater
      · have later := (List.mem_cons.1 right).resolve_left (Ne.symm apart)
        exact .inl ((List.singleton_sublist.2 later).cons_cons a)
      · rcases List.mem_cons.1 right with rfl | rightLater
        · exact .inr ((List.singleton_sublist.2 leftLater).cons_cons b)
        · rcases ih leftLater rightLater with first | second
          · exact .inl (first.cons x)
          · exact .inr (second.cons x)

omit [DecidableRel r] in
theorem not_sublist_swapped (nodup : l.Nodup) (placed : [a, b].Sublist l) :
    ¬[b, a].Sublist l := by
  intro swapped
  induction l with
  | nil => exact absurd placed.length_le (by simp)
  | cons x rest ih =>
      have fresh := (List.nodup_cons.1 nodup).1
      have distinct := (List.nodup_cons.1 nodup).2
      cases placed with
      | cons _ placed =>
          cases swapped with
          | cons _ swapped => exact ih distinct placed swapped
          | cons_cons _ later =>
              exact fresh (placed.subset (List.mem_cons_of_mem _ List.mem_cons_self))
      | cons_cons _ placed =>
          cases swapped with
          | cons _ swapped =>
              exact fresh (swapped.subset (List.mem_cons_of_mem _ List.mem_cons_self))
          | cons_cons _ later => exact fresh (List.singleton_sublist.1 placed)

omit [DecidableRel r] in
theorem sublist_pair_trans (nodup : l.Nodup) (first : [a, b].Sublist l)
    (second : [b, c].Sublist l) : [a, c].Sublist l := by
  induction l with
  | nil => exact absurd first.length_le (by simp)
  | cons x rest ih =>
      have fresh := (List.nodup_cons.1 nodup).1
      have passed : b ∈ rest → [b, c].Sublist rest := by
        intro later
        cases second with
        | cons _ second => exact second
        | cons_cons _ _ => exact absurd later fresh
      cases first with
      | cons _ first =>
          have later : b ∈ rest := first.subset (List.mem_cons_of_mem _ List.mem_cons_self)
          exact (ih (List.nodup_cons.1 nodup).2 first (passed later)).cons x
      | cons_cons _ first =>
          have later : b ∈ rest := List.singleton_sublist.1 first
          have last : c ∈ rest := (passed later).subset (List.mem_cons_of_mem _ List.mem_cons_self)
          exact (List.singleton_sublist.2 last).cons_cons a

theorem pairwise_insertionSort_of_leads (total : ∀ a b, r a b ∨ r b a) (nodup : l.Nodup)
    (line : ∀ a ∈ l, ∀ b ∈ l, ∀ c ∈ l, Leads r l a b → Leads r l b c → Leads r l a c) :
    (l.insertionSort r).Pairwise (Leads r l) := by
  induction l with
  | nil => exact List.Pairwise.nil
  | cons x rest ih =>
      have fresh := (List.nodup_cons.1 nodup).1
      have apart : ∀ a ∈ rest, a ≠ x := fun a member same => fresh (same ▸ member)
      have inner : (rest.insertionSort r).Pairwise (Leads r rest) := by
        apply ih (List.nodup_cons.1 nodup).2
        intro a left b middle c right
        have outer := line a (List.mem_cons_of_mem _ left) b (List.mem_cons_of_mem _ middle) c
          (List.mem_cons_of_mem _ right)
        rw [leads_cons (apart a left), leads_cons (apart b middle),
          leads_cons (apart a left)] at outer
        exact outer
      have members : ∀ a ∈ rest.insertionSort r, a ∈ rest :=
        fun a member => (List.mem_insertionSort r).1 member
      have sorted : (rest.insertionSort r).Pairwise (Leads r (x :: rest)) := by
        apply inner.imp_of_mem
        intro a b left _ leads
        exact (leads_cons (apart a (members a left))).2 leads
      rw [List.insertionSort_cons]
      generalize rest.insertionSort r = done at sorted members
      induction sorted with
      | nil => exact List.pairwise_singleton _ x
      | @cons b after below sorted place =>
          have member := members b List.mem_cons_self
          by_cases first : r x b
          · rw [List.orderedInsert_cons_of_le r after first]
            have leads : Leads r (x :: rest) x b := by
              refine ⟨first, fun _ => ?_⟩
              exact (List.singleton_sublist.2 member).cons_cons x
            refine List.Pairwise.cons ?_ (List.Pairwise.cons below sorted)
            intro c later
            rcases List.mem_cons.1 later with rfl | later
            · exact leads
            · exact line x List.mem_cons_self b (List.mem_cons_of_mem _ member) c
                (List.mem_cons_of_mem _ (members c (List.mem_cons_of_mem _ later))) leads
                (below c later)
          · rw [List.orderedInsert_of_not_le r after first]
            refine List.Pairwise.cons ?_ (place fun c later => members c
              (List.mem_cons_of_mem _ later))
            intro c later
            rcases (List.mem_orderedInsert r).1 later with rfl | later
            · exact ⟨(total c b).resolve_left first, fun second => absurd second first⟩
            · exact below c later

/-- Insertion by a relation that need not be transitive sorts a list exactly
when the relation, with ties by place, is transitive on it. -/
theorem pairwise_insertionSort_iff (total : ∀ a b, r a b ∨ r b a) (nodup : l.Nodup) :
    (l.insertionSort r).Pairwise r ↔
      ∀ a ∈ l, ∀ b ∈ l, ∀ c ∈ l, Leads r l a b → Leads r l b c → Leads r l a c := by
  constructor
  · intro sorted
    have distinct : (l.insertionSort r).Nodup := (List.perm_insertionSort r l).nodup_iff.2 nodup
    have placed : ∀ a ∈ l, ∀ b ∈ l, Leads r l a b → a ≠ b →
        [a, b].Sublist (l.insertionSort r) := by
      intro a left b right leads apart
      rcases sublist_or_sublist apart ((List.mem_insertionSort r).2 left)
        ((List.mem_insertionSort r).2 right) with first | second
      · exact first
      · have back : r b a := List.pairwise_pair.1 (sorted.sublist second)
        exact List.pair_sublist_insertionSort leads.1 (leads.2 back)
    intro a left b middle c right ab bc
    by_cases same : a = b
    · rwa [same]
    by_cases again : b = c
    · rwa [← again]
    have line : [a, c].Sublist (l.insertionSort r) :=
      sublist_pair_trans distinct (placed a left b middle ab same)
        (placed b middle c right bc again)
    have apart : a ≠ c := by
      intro loop
      rw [loop] at line
      exact not_sublist_swapped distinct line line
    refine ⟨List.pairwise_pair.1 (sorted.sublist line), ?_⟩
    intro back
    rcases sublist_or_sublist apart left right with first | second
    · exact first
    · exact absurd (List.pair_sublist_insertionSort back second)
        (not_sublist_swapped distinct line)
  · intro line
    exact (pairwise_insertionSort_of_leads total nodup line).imp fun leads => leads.1

end Ties

/-- Before by `less`, and by place where `less` does not say. -/
def Precedes (less : α → α → Prop) (l : List α) (a b : α) : Prop :=
  ¬less b a ∧ (less a b ∨ [a, b].Sublist l)

omit [DecidableRel less] in
theorem leads_reverse {a b : α} {l : List α} :
    Leads (NotLess less) l.reverse b a ↔ Precedes less l a b := by
  have turned : [b, a].Sublist l.reverse ↔ [a, b].Sublist l := by
    rw [← List.reverse_sublist, List.reverse_reverse]
    rfl
  unfold Leads Precedes NotLess
  rw [turned]
  by_cases before : less a b
  · simp [before]
  · simp [before]

/-- An insertion by a comparator that need not be transitive sorts a list
exactly when the comparator, with ties by place, is transitive on it. -/
theorem pairwise_insertion_iff (asymm : ∀ a b, less a b → ¬less b a) {l : List α}
    (nodup : l.Nodup) :
    (insertion less l).Pairwise (fun a b => ¬less b a) ↔
      ∀ a ∈ l, ∀ b ∈ l, ∀ c ∈ l, Precedes less l a b → Precedes less l b c →
        Precedes less l a c := by
  have total : ∀ a b, NotLess less a b ∨ NotLess less b a := by
    intro a b
    by_cases before : less a b
    · exact .inr (asymm a b before)
    · exact .inl before
  rw [insertion, List.pairwise_reverse]
  refine (pairwise_insertionSort_iff total (List.nodup_reverse.2 nodup)).trans ?_
  simp only [List.mem_reverse, leads_reverse]
  constructor
  · intro line a left b middle c right first second
    exact line c right b middle a left second first
  · intro line c right b middle a left second first
    exact line a left b middle c right first second

omit [DecidableRel less] in
theorem precedes_or_precedes (asymm : ∀ a b, less a b → ¬less b a) {a b : α} {l : List α}
    (apart : a ≠ b) (left : a ∈ l) (right : b ∈ l) :
    Precedes less l a b ∨ Precedes less l b a := by
  by_cases before : less a b
  · exact .inl ⟨asymm a b before, .inl before⟩
  by_cases behind : less b a
  · exact .inr ⟨asymm b a behind, .inl behind⟩
  · rcases sublist_or_sublist apart left right with first | second
    · exact .inl ⟨behind, .inr first⟩
    · exact .inr ⟨before, .inr second⟩

omit [DecidableRel less] in
theorem not_precedes_of_precedes {a b : α} {l : List α} (nodup : l.Nodup)
    (first : Precedes less l a b) : ¬Precedes less l b a := by
  intro second
  have placed := first.2.resolve_left second.1
  exact not_sublist_swapped nodup placed (second.2.resolve_left first.1)

/-- All that can go wrong is three members each before the next. -/
theorem pairwise_insertion_iff_no_cycle (asymm : ∀ a b, less a b → ¬less b a) {l : List α}
    (nodup : l.Nodup) :
    (insertion less l).Pairwise (fun a b => ¬less b a) ↔
      ∀ a ∈ l, ∀ b ∈ l, ∀ c ∈ l, Precedes less l a b → Precedes less l b c →
        ¬Precedes less l c a := by
  rw [pairwise_insertion_iff asymm nodup]
  constructor
  · intro line a left b middle c right first second
    exact not_precedes_of_precedes nodup (line a left b middle c right first second)
  · intro acyclic a left b middle c right first second
    have apart : a ≠ c := by
      intro same
      rw [← same] at second
      exact not_precedes_of_precedes nodup first second
    rcases precedes_or_precedes asymm apart left right with before | behind
    · exact before
    · exact absurd behind (acyclic a left b middle c right first second)

end StableSort
