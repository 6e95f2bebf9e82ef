import Mathlib

/-!
# Tables with a uniqueness key

Inserting into a table that keeps the row it already has for a key: when rows
of one key are one row, what a table holds after inserting is the union, and
inserting again changes nothing.
-/

set_option autoImplicit false

namespace KeyedTable

variable {Row Key : Type} [DecidableEq Key] {key : Row → Key} {table rows : List Row} {row : Row}

def insertNew (key : Row → Key) (table : List Row) (row : Row) : List Row :=
  if key row ∈ table.map key then table else table ++ [row]

def insertAll (key : Row → Key) (table rows : List Row) : List Row :=
  rows.foldl (insertNew key) table

def Agrees (key : Row → Key) (left right : List Row) : Prop :=
  ∀ row ∈ left, ∀ other ∈ right, key row = key other → row = other

theorem mem_of_mem_insertNew {other : Row} (member : other ∈ insertNew key table row) :
    other ∈ table ∨ other = row := by
  unfold insertNew at member
  split at member
  · exact .inl member
  · exact (List.mem_append.1 member).imp_right List.mem_singleton.1

theorem mem_insertNew_of_mem {other : Row} (member : other ∈ table) :
    other ∈ insertNew key table row := by
  unfold insertNew
  split
  · exact member
  · exact List.mem_append_left _ member

theorem mem_insertNew_self (agrees : Agrees key table [row]) : row ∈ insertNew key table row := by
  unfold insertNew
  split
  · rename_i taken
    obtain ⟨other, member, same⟩ := List.mem_map.1 taken
    exact agrees other member row List.mem_cons_self same ▸ member
  · exact List.mem_append_right _ List.mem_cons_self

theorem nodup_insertNew (distinct : (table.map key).Nodup) :
    ((insertNew key table row).map key).Nodup := by
  unfold insertNew
  split
  · exact distinct
  · rename_i fresh
    rw [List.map_append, List.nodup_append]
    refine ⟨distinct, List.pairwise_singleton _ _, ?_⟩
    intro left inLeft right inRight same
    have last : right = key row := List.mem_singleton.1 inRight
    apply fresh
    rw [← last, ← same]
    exact inLeft

theorem mem_of_mem_insertAll (member : row ∈ insertAll key table rows) :
    row ∈ table ∨ row ∈ rows := by
  induction rows generalizing table with
  | nil => exact .inl member
  | cons first rest ih =>
      rcases ih member with old | new
      · rcases mem_of_mem_insertNew old with old | rfl
        · exact .inl old
        · exact .inr List.mem_cons_self
      · exact .inr (List.mem_cons_of_mem _ new)

theorem mem_insertAll_of_mem (member : row ∈ table) : row ∈ insertAll key table rows := by
  induction rows generalizing table with
  | nil => exact member
  | cons first rest ih => exact ih (mem_insertNew_of_mem member)

theorem nodup_insertAll (distinct : (table.map key).Nodup) :
    ((insertAll key table rows).map key).Nodup := by
  induction rows generalizing table with
  | nil => exact distinct
  | cons first rest ih => exact ih (nodup_insertNew distinct)

theorem mem_insertAll_of_agrees (outer : Agrees key table rows) (inner : Agrees key rows rows)
    (member : row ∈ rows) : row ∈ insertAll key table rows := by
  induction rows generalizing table with
  | nil => nomatch member
  | cons first rest ih =>
      rcases List.mem_cons.1 member with rfl | later
      · have here : row ∈ insertNew key table row := by
          apply mem_insertNew_self
          intro other inTable same only
          rw [List.mem_singleton.1 only]
          exact outer other inTable row List.mem_cons_self
        have kept : row ∈ insertAll key (insertNew key table row) rest := mem_insertAll_of_mem here
        exact kept
      · apply ih _ _ later
        · intro other inTable another inRest
          rcases mem_of_mem_insertNew inTable with old | rfl
          · exact outer other old another (List.mem_cons_of_mem _ inRest)
          · exact inner other List.mem_cons_self another (List.mem_cons_of_mem _ inRest)
        · intro other inRest another alsoRest
          exact inner other (List.mem_cons_of_mem _ inRest) another
            (List.mem_cons_of_mem _ alsoRest)

theorem mem_insertAll_iff (outer : Agrees key table rows) (inner : Agrees key rows rows) :
    row ∈ insertAll key table rows ↔ row ∈ table ∨ row ∈ rows := by
  constructor
  · exact mem_of_mem_insertAll
  · rintro (old | new)
    · exact mem_insertAll_of_mem old
    · exact mem_insertAll_of_agrees outer inner new

theorem insertAll_eq_append (key : Row → Key) (table rows : List Row) :
    ∃ added, insertAll key table rows = table ++ added ∧ ∀ row ∈ added, row ∈ rows := by
  induction rows generalizing table with
  | nil => exact ⟨[], (List.append_nil table).symm, fun _ member => member⟩
  | cons first rest ih =>
      obtain ⟨added, split, within⟩ := ih (insertNew key table first)
      by_cases taken : key first ∈ table.map key
      · rw [insertNew, if_pos taken] at split
        refine ⟨added, ?_, fun row member => List.mem_cons_of_mem _ (within row member)⟩
        rw [insertAll, List.foldl_cons, insertNew, if_pos taken]
        exact split
      · rw [insertNew, if_neg taken, List.append_assoc] at split
        refine ⟨first :: added, ?_, fun row member => ?_⟩
        · rw [insertAll, List.foldl_cons, insertNew, if_neg taken]
          exact split
        · cases List.mem_cons.mp member with
          | inl same => exact same ▸ List.mem_cons_self
          | inr behind => exact List.mem_cons_of_mem _ (within row behind)

theorem filter_insertAll (kept : Row → Bool) (outside : ∀ row ∈ rows, kept row = false) :
    (insertAll key table rows).filter kept = table.filter kept := by
  induction rows generalizing table with
  | nil => rfl
  | cons first rest ih =>
      have later : (insertAll key (insertNew key table first) rest).filter kept =
          (insertNew key table first).filter kept :=
        ih fun row member => outside row (List.mem_cons_of_mem _ member)
      refine later.trans ?_
      unfold insertNew
      split
      · rfl
      · rw [List.filter_append, List.filter_cons_of_neg, List.filter_nil, List.append_nil]
        rw [outside first List.mem_cons_self]
        exact Bool.false_ne_true

end KeyedTable
