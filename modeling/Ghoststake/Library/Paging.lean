import Mathlib

/-!
# Pages of a list read from its greatest key down

Rows are listed with the greatest key first, a page is the first rows whose key
is below a mark, and the next mark is the key of the last row on the page.
While the keys are distinct a mark stands for exactly one place in the list, so
what lies below it is what the pages so far have not shown.
-/

set_option autoImplicit false

namespace Paging

variable {Row Key : Type} [LinearOrder Key] {key : Row → Key} {rows other shown rest : List Row}

abbrev NotNewer (key : Row → Key) (a b : Row) : Prop := key b ≤ key a

/-- The order of a list in which every key is less than the one before. -/
def Descends (key : Row → Key) (rows : List Row) : Prop := rows.Pairwise fun a b => key b < key a

def newestFirst (key : Row → Key) (rows : List Row) : List Row := rows.insertionSort (NotNewer key)

instance total_notNewer : Std.Total (NotNewer key) := ⟨fun a b => le_total (key b) (key a)⟩

instance isTrans_notNewer : IsTrans Row (NotNewer key) := ⟨fun _ _ _ ab bc => le_trans bc ab⟩

theorem perm_newestFirst : (newestFirst key rows).Perm rows := List.perm_insertionSort _ rows

theorem descends_newestFirst (distinct : (rows.map key).Nodup) :
    Descends key (newestFirst key rows) := by
  have sorted : (newestFirst key rows).Pairwise (NotNewer key) :=
    List.pairwise_insertionSort _ rows
  have keys : ((newestFirst key rows).map key).Nodup :=
    (perm_newestFirst.map key).nodup_iff.mpr distinct
  have apart : (newestFirst key rows).Pairwise fun a b => key a ≠ key b := List.pairwise_map.mp keys
  apply (sorted.and apart).imp
  intro a b both
  exact lt_of_le_of_ne both.1 both.2.symm

theorem eq_of_descends (same : rows.Perm other) (descends : Descends key rows)
    (also : Descends key other) : rows = other := by
  apply same.eq_of_pairwise _ descends also
  intro a b _ _ below above
  exact absurd below (lt_asymm above)

theorem newestFirst_eq (same : rows.Perm other) (distinct : (other.map key).Nodup) :
    newestFirst key rows = newestFirst key other := by
  have alike : (rows.map key).Nodup := (same.map key).nodup_iff.mpr distinct
  apply eq_of_descends _ (descends_newestFirst alike) (descends_newestFirst distinct)
  exact perm_newestFirst.trans (same.trans perm_newestFirst.symm)

theorem filter_newestFirst (distinct : (rows.map key).Nodup) (kept : Row → Bool) :
    (newestFirst key rows).filter kept = newestFirst key (rows.filter kept) := by
  have part : ((rows.filter kept).map key).Nodup := distinct.sublist (List.filter_sublist.map key)
  have same : ((newestFirst key rows).filter kept).Perm (newestFirst key (rows.filter kept)) :=
    (perm_newestFirst.filter kept).trans perm_newestFirst.symm
  have descends : Descends key ((newestFirst key rows).filter kept) :=
    (descends_newestFirst distinct).sublist List.filter_sublist
  exact eq_of_descends same descends (descends_newestFirst part)

/-- What lies below the last row shown is what was not shown. -/
theorem filter_below_last {last : Row} (descends : Descends key (shown ++ rest))
    (ends : shown.getLast? = some last) :
    ((shown ++ rest).filter fun row => decide (key row < key last)) = rest := by
  have parts := List.pairwise_append.mp descends
  have member : last ∈ shown := List.mem_of_getLast? ends
  have above : ∀ row ∈ shown, ¬key row < key last := by
    intro row inShown below
    obtain ⟨before, split⟩ := List.getLast?_eq_some_iff.mp ends
    have ordered := parts.1
    rw [split] at ordered inShown
    cases List.mem_append.mp inShown with
    | inl early =>
        have greater := (List.pairwise_append.mp ordered).2.2 row early last List.mem_cons_self
        exact lt_asymm below greater
    | inr single =>
        rw [List.mem_singleton.mp single] at below
        exact lt_irrefl _ below
  have none : shown.filter (fun row => decide (key row < key last)) = [] := by
    apply List.filter_eq_nil_iff.mpr
    intro row inShown below
    exact above row inShown (of_decide_eq_true below)
  have all : rest.filter (fun row => decide (key row < key last)) = rest := by
    apply List.filter_eq_self.mpr
    intro row inRest
    exact decide_eq_true (parts.2.2 last member row inRest)
  rw [List.filter_append, none, all, List.nil_append]

end Paging
