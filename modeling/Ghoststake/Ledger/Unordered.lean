import Ghoststake.Ledger.Listings

/-!
# Projections of a set of events

The rows of `round_events` come back in no order and for every market at once.
What the two projections make of them depends on neither.
-/

namespace Ghoststake

set_option autoImplicit false

open KeyedFold StableSort

namespace Ledger

open Index

def coordinates (e : RoundEvent) : Nat × Nat := (e.provenance.blockNumber, e.provenance.logIndex)

variable {events others : List RoundEvent} {mixed first second : List RoundEvent}

theorem eq_of_level {a b : RoundEvent} (notBefore : ¬Earlier a b) (notAfter : ¬Earlier b a) :
    coordinates a = coordinates b := by
  unfold Earlier at notBefore notAfter
  unfold coordinates
  split_ifs at notBefore notAfter with apart other other
  · omega
  · exact absurd (Ne.symm apart) other
  · exact absurd (Ne.symm other) apart
  · rw [not_not.1 apart, Nat.le_antisymm (Nat.not_lt.1 notAfter) (Nat.not_lt.1 notBefore)]

theorem strict_of_nodup (distinct : (events.map coordinates).Nodup) : Strict Earlier events := by
  intro a left b right notBefore notAfter
  have same := eq_of_level notBefore notAfter
  exact List.inj_on_of_nodup_map distinct left right same

theorem project_perm (distinct : (events.map coordinates).Nodup) (order : events.Perm others) :
    project events = project others := by
  rw [project, project, projectByRef, projectByRef,
    sliceStable_eq_of_perm (strict_of_nodup distinct) order]

theorem strict_naming (distinct : (events.map coordinates).Nodup) (account : Option Address) :
    Strict Earlier (naming account events) := by
  apply (strict_of_nodup distinct).subset
  intro e member
  exact List.mem_of_mem_filter member

theorem project_positions_perm (capital : Address → Nat → Bool)
    (distinct : (events.map coordinates).Nodup) (order : events.Perm others)
    (account : Option Address) :
    projectPositions capital events account = projectPositions capital others account := by
  have sorted : sliceStable Earlier (naming account events) =
      sliceStable Earlier (naming account others) :=
    sliceStable_eq_of_perm (strict_naming distinct account) (order.filter _)
  rw [projectPositions, projectPositions, sorted]

theorem parts_of_sorted (strict : Strict Earlier mixed) (order : mixed.Perm (first ++ second))
    (apart : ∀ a ∈ first, ∀ b ∈ second, refOf a ≠ refOf b) (ref : RoundRef) :
    ((sliceStable Earlier mixed).filter fun e => refOf e = ref) =
      ((sliceStable Earlier first).filter fun e => refOf e = ref) ++
        (sliceStable Earlier second).filter fun e => refOf e = ref := by
  have stays : (sliceStable Earlier mixed).filter (fun e => refOf e = ref) =
      sliceStable Earlier ((first ++ second).filter fun e => refOf e = ref) := by
    rw [filter_sliceStable]
    apply sliceStable_eq_of_perm _ (order.filter _)
    exact strict.subset fun e member => List.mem_of_mem_filter member
  rw [stays, filter_sliceStable, filter_sliceStable, List.filter_append]
  by_cases left : ∃ a ∈ first, refOf a = ref
  · obtain ⟨a, member, named⟩ := left
    have silent : (second.filter fun e => refOf e = ref) = [] := by
      rw [List.filter_eq_nil_iff]
      intro b inSecond same
      rw [decide_eq_true_eq] at same
      exact apart a member b inSecond (named.trans same.symm)
    rw [silent, List.append_nil, sliceStable_nil, List.append_nil]
  · have silent : (first.filter fun e => refOf e = ref) = [] := by
      rw [List.filter_eq_nil_iff]
      intro a inFirst same
      rw [decide_eq_true_eq] at same
      exact left ⟨a, inFirst, same⟩
    rw [silent, sliceStable_nil, List.nil_append, List.nil_append]

theorem project_union (distinct : (mixed.map coordinates).Nodup)
    (order : mixed.Perm (first ++ second))
    (apart : ∀ a ∈ first, ∀ b ∈ second, refOf a ≠ refOf b) :
    (project mixed).Perm (project first ++ project second) := by
  rw [project, project, project, ← List.map_append]
  apply List.Perm.map
  apply foldBy_perm_append
  · intro a left b right
    exact apart a (mem_sliceStable.1 left) b (mem_sliceStable.1 right)
  · exact parts_of_sorted (strict_of_nodup distinct) order apart

theorem project_positions_union (capital : Address → Nat → Bool)
    (distinct : (mixed.map coordinates).Nodup) (order : mixed.Perm (first ++ second))
    (apart : ∀ a ∈ first, ∀ b ∈ second, refOf a ≠ refOf b) (account : Option Address) :
    (projectPositions capital mixed account).Perm
      (projectPositions capital first account ++ projectPositions capital second account) := by
  have named : (naming account mixed).Perm (naming account first ++ naming account second) := by
    have filtered := order.filter fun e : RoundEvent => e.body.account = account ∧ account ≠ none
    rw [List.filter_append] at filtered
    exact filtered
  let folds (events : List RoundEvent) : List (RoundRef × (AccountPosition × Bool)) :=
    foldBy refOf (foldPosition capital account) (sliceStable Earlier (naming account events))
  have folded : (folds mixed).Perm (folds first ++ folds second) := by
    apply foldBy_perm_append
    · intro a left b right
      exact apart a (List.mem_of_mem_filter (mem_sliceStable.1 left)) b
        (List.mem_of_mem_filter (mem_sliceStable.1 right))
    · apply parts_of_sorted (strict_naming distinct account) named
      intro a left b right
      exact apart a (List.mem_of_mem_filter left) b (List.mem_of_mem_filter right)
  have held (table : List (RoundRef × (AccountPosition × Bool))) :
      (sliceStable AccountPosition.Newer
        (((table.map Prod.snd).reverse.filter Prod.snd).map Prod.fst)).Perm
          (((table.map Prod.snd).filter Prod.snd).map Prod.fst) := by
    apply (perm_sliceStable _).trans
    apply List.Perm.map
    exact (List.reverse_perm _).filter _
  have left := (held _).trans (((folded.map Prod.snd).filter Prod.snd).map Prod.fst)
  rw [List.map_append, List.filter_append, List.map_append] at left
  exact left.trans ((held _).symm.append (held _).symm)

/-- Rows in any order give the same rounds and the same positions, and those of
other rounds and markets mixed into them add their own and change nothing. -/
theorem projections_of_set (capital : Address → Nat → Bool) (mixed : List RoundEvent)
    (distinct : (mixed.map coordinates).Nodup) :
    (∀ others, mixed.Perm others → project mixed = project others ∧
      ∀ account, projectPositions capital mixed account =
        projectPositions capital others account) ∧
    ∀ first second, mixed.Perm (first ++ second) →
      (∀ a ∈ first, ∀ b ∈ second, refOf a ≠ refOf b) →
      (project mixed).Perm (project first ++ project second) ∧
        ∀ account, (projectPositions capital mixed account).Perm
          (projectPositions capital first account ++
            projectPositions capital second account) := by
  constructor
  · intro others order
    exact ⟨project_perm distinct order, project_positions_perm capital distinct order⟩
  · intro first second order apart
    exact ⟨project_union distinct order apart,
      project_positions_union capital distinct order apart⟩

/-- The stakes and the late claim read backwards, and the two markets apart. -/
theorem projections_of_late_claim :
    project lateClaim = project lateClaim.reverse ∧
      (projectPositions (fun _ _ => false) lateClaim (some listingAccount)).Perm
        (projectPositions (fun _ _ => false)
            (lateClaim.filter fun e => e.body.roundID = 1) (some listingAccount) ++
          projectPositions (fun _ _ => false)
            (lateClaim.filter fun e => ¬e.body.roundID = 1) (some listingAccount)) := by
  obtain ⟨anyOrder, anyParts⟩ :=
    projections_of_set (fun _ _ => false) lateClaim (by decide +kernel)
  have parts := (List.filter_append_perm (fun e : RoundEvent => e.body.roundID = 1) lateClaim).symm
  refine ⟨(anyOrder _ (List.reverse_perm _).symm).1, ?_⟩
  apply (anyParts _ _ _ ?_).2 (some listingAccount)
  · simpa using parts
  · decide +kernel

end Ledger

end Ghoststake
