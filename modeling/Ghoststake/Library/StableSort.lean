import Ghoststake.Library.SymMerge

/-!
# Stable sorting by a comparator

Go's `sort.SliceStable`: blocks of twenty sorted by insertion, and neighbours
merged until one is left. By a strict weak order it makes of a list what any
stable sort does, so that sorting a part of a list is taking that part of the
sorted list. By a comparator that is none, something can still be said of what
one block comes to.
-/

set_option autoImplicit false

namespace StableSort

variable {α : Type} {less : α → α → Prop} [DecidableRel less] {kept : α → Bool}

/-- What a list sorted by `less` is sorted by, read from its end. -/
def NotLess (less : α → α → Prop) (a b : α) : Prop := ¬less a b

instance : DecidableRel (NotLess less) := fun a b => inferInstanceAs (Decidable ¬less a b)

def insertion (less : α → α → Prop) [DecidableRel less] (l : List α) : List α :=
  (l.reverse.insertionSort (NotLess less)).reverse

def blockSize : Nat := 20

def blocks (l : List α) : List (List α) :=
  if l.length ≤ blockSize then [l] else l.take blockSize :: blocks (l.drop blockSize)
termination_by l.length
decreasing_by
  simp only [List.length_drop, blockSize] at *
  omega

def mergePairs (less : α → α → Prop) [DecidableRel less] : List (List α) → List (List α)
  | [] => []
  | [part] => [part]
  | first :: second :: rest => symMerge less first second :: mergePairs less rest

theorem length_mergePairs (less : α → α → Prop) [DecidableRel less] (parts : List (List α)) :
    (mergePairs less parts).length = (parts.length + 1) / 2 := by
  induction parts using mergePairs.induct with
  | case1 => rw [mergePairs, List.length_nil]
  | case2 part => rw [mergePairs, List.length_singleton]
  | case3 first second rest ih =>
      rw [mergePairs, List.length_cons, ih, List.length_cons, List.length_cons]
      omega

def mergeAll (less : α → α → Prop) [DecidableRel less] : List (List α) → List α
  | [] => []
  | [part] => part
  | first :: second :: rest => mergeAll less (mergePairs less (first :: second :: rest))
termination_by parts => parts.length
decreasing_by
  rw [length_mergePairs]
  simp only [List.length_cons]
  omega

def sliceStable (less : α → α → Prop) [DecidableRel less] (l : List α) : List α :=
  mergeAll less ((blocks l).map (insertion less))

theorem sliceStable_eq_insertion {l : List α} (short : l.length ≤ blockSize) :
    sliceStable less l = insertion less l := by
  rw [sliceStable, blocks, if_pos short, List.map_singleton, mergeAll]

theorem flatten_blocks (l : List α) : (blocks l).flatten = l := by
  induction l using blocks.induct with
  | case1 l short => rw [blocks, if_pos short, List.flatten_singleton]
  | case2 l long ih => rw [blocks, if_neg long, List.flatten_cons, ih, List.take_append_drop]

theorem perm_insertion (l : List α) : (insertion less l).Perm l := by
  have sorted := List.perm_insertionSort (NotLess less) l.reverse
  exact (List.reverse_perm _).trans (sorted.trans (List.reverse_perm l))

theorem perm_mergePairs (parts : List (List α)) :
    (mergePairs less parts).flatten.Perm parts.flatten := by
  induction parts using mergePairs.induct with
  | case1 => rfl
  | case2 part => rfl
  | case3 first second rest ih =>
      rw [mergePairs, List.flatten_cons, List.flatten_cons, List.flatten_cons,
        ← List.append_assoc]
      exact (perm_symMerge first second).append ih

theorem perm_mergeAll (parts : List (List α)) : (mergeAll less parts).Perm parts.flatten := by
  induction parts using mergeAll.induct less with
  | case1 => rw [mergeAll, List.flatten_nil]
  | case2 part => rw [mergeAll, List.flatten_singleton]
  | case3 first second rest ih =>
      rw [mergeAll]
      exact ih.trans (perm_mergePairs _)

theorem perm_sliceStable (l : List α) : (sliceStable less l).Perm l := by
  have sorted : ((blocks l).map (insertion less)).flatten.Perm (blocks l).flatten := by
    induction blocks l with
    | nil => rfl
    | cons block rest ih =>
        rw [List.map_cons, List.flatten_cons, List.flatten_cons]
        exact (perm_insertion block).append ih
  rw [flatten_blocks] at sorted
  exact (perm_mergeAll _).trans sorted

theorem sliceStable_nil : sliceStable less [] = [] := List.perm_nil.1 (perm_sliceStable [])

theorem mem_sliceStable {a : α} {l : List α} : a ∈ sliceStable less l ↔ a ∈ l :=
  (perm_sliceStable l).mem_iff

/-! ## By a strict weak order -/

section Weak

variable {l other : List α}

theorem stablyMoved_insertion (l : List α) : StablyMoved less l (insertion less l) := by
  refine ⟨perm_insertion l, ?_⟩
  intro kept level
  have turned : ∀ m : List α, Levelled less m kept →
      (m.insertionSort (NotLess less)).filter kept = m.filter kept := by
    intro m
    induction m with
    | nil => exact fun _ => rfl
    | cons a rest ih =>
        intro level
        have inner := ih (level.subset fun b member => List.mem_cons_of_mem a member)
        have members : ∀ b ∈ rest.insertionSort (NotLess less), b ∈ rest :=
          fun b member => (List.mem_insertionSort _).1 member
        rw [List.insertionSort_cons, List.orderedInsert_eq_take_drop]
        generalize rest.insertionSort (NotLess less) = done at inner members
        have whole := congrArg (List.filter kept)
          (List.takeWhile_append_dropWhile (p := fun b => ¬NotLess less a b) (l := done))
        rw [List.filter_append, inner] at whole
        rw [List.filter_append, List.filter_cons, List.filter_cons]
        split
        · rename_i keeps
          -- what is inserted past is after it, so not level with it
          have none : (done.takeWhile fun b => ¬NotLess less a b).filter kept = [] := by
            rw [List.filter_eq_nil_iff]
            intro b passed keepsToo
            have behind := List.mem_takeWhile_imp passed
            simp only [NotLess, not_not, decide_eq_true_eq] at behind
            have later := members b ((List.takeWhile_prefix _).subset passed)
            exact level a List.mem_cons_self b (List.mem_cons_of_mem a later) keeps keepsToo behind
          rw [none, List.nil_append] at whole ⊢
          rw [whole]
        · exact whole
  rw [insertion, List.filter_reverse, turned l.reverse
    (level.subset fun a member => List.mem_reverse.1 member), List.filter_reverse,
    List.reverse_reverse]

theorem stablySorted_insertion (asymm : ∀ a b, less a b → ¬less b a) (weak : WeakOn less l) :
    StablySorted less l (insertion less l) := by
  refine ⟨stablyMoved_insertion l, ?_⟩
  rw [insertion, List.pairwise_reverse]
  have turned : ∀ m : List α, WeakOn less m →
      (m.insertionSort (NotLess less)).Pairwise (NotLess less) := by
    intro m
    induction m with
    | nil => exact fun _ => List.Pairwise.nil
    | cons a rest ih =>
        intro weak
        have inner := ih (weak.subset fun b member => List.mem_cons_of_mem a member)
        have members : ∀ b ∈ rest.insertionSort (NotLess less), b ∈ rest :=
          fun b member => (List.mem_insertionSort _).1 member
        rw [List.insertionSort_cons]
        generalize rest.insertionSort (NotLess less) = done at inner members
        induction inner with
        | nil => exact List.pairwise_singleton _ a
        | @cons b after below sorted place =>
            have member := members b List.mem_cons_self
            by_cases first : NotLess less a b
            · rw [List.orderedInsert_cons_of_le _ after first]
              refine List.Pairwise.cons ?_ (List.Pairwise.cons below sorted)
              intro c later
              rcases List.mem_cons.1 later with rfl | later
              · exact first
              · have inRest := members c (List.mem_cons_of_mem _ later)
                exact weak c (List.mem_cons_of_mem a inRest) b (List.mem_cons_of_mem a member) a
                  List.mem_cons_self (below c later) first
            · rw [List.orderedInsert_of_not_le _ after first]
              refine List.Pairwise.cons ?_ (place fun c later => members c
                (List.mem_cons_of_mem _ later))
              intro c later
              rcases (List.mem_orderedInsert _).1 later with rfl | later
              · exact asymm _ _ (not_not.1 first)
              · exact below c later
  exact turned l.reverse (weak.subset fun a member => List.mem_reverse.1 member)

theorem sorted_mergePairs (asymm : ∀ a b, less a b → ¬less b a) {parts : List (List α)}
    (weak : WeakOn less parts.flatten)
    (sorted : ∀ part ∈ parts, part.Pairwise fun a b => ¬less b a) :
    StablyMoved less parts.flatten (mergePairs less parts).flatten ∧
      ∀ part ∈ mergePairs less parts, part.Pairwise fun a b => ¬less b a := by
  induction parts using mergePairs.induct with
  | case1 => exact ⟨StablyMoved.refl _, sorted⟩
  | case2 part => exact ⟨StablyMoved.refl _, sorted⟩
  | case3 first second rest ih =>
      obtain ⟨moved, ordered⟩ := ih (weak.subset fun a member => by grind)
        fun part member => sorted part (by simp [member])
      have merged := stablySorted_symMerge asymm (weak.subset fun a member => by grind)
        (sorted first (by simp)) (sorted second (by simp))
      rw [mergePairs]
      constructor
      · rw [List.flatten_cons, List.flatten_cons, List.flatten_cons, ← List.append_assoc]
        exact merged.toStablyMoved.append moved
      · exact List.forall_mem_cons.2 ⟨merged.sorted, ordered⟩

theorem stablySorted_mergeAll (asymm : ∀ a b, less a b → ¬less b a) {parts : List (List α)}
    (weak : WeakOn less parts.flatten)
    (sorted : ∀ part ∈ parts, part.Pairwise fun a b => ¬less b a) :
    StablySorted less parts.flatten (mergeAll less parts) := by
  induction parts using mergeAll.induct less with
  | case1 =>
      rw [mergeAll]
      exact stablySorted_self List.Pairwise.nil
  | case2 part =>
      rw [mergeAll, List.flatten_singleton]
      exact stablySorted_self (sorted part List.mem_cons_self)
  | case3 first second rest ih =>
      obtain ⟨moved, ordered⟩ := sorted_mergePairs asymm weak sorted
      have done := ih (weak.subset fun a member => moved.perm.mem_iff.1 member) ordered
      rw [mergeAll]
      exact ⟨moved.trans done.toStablyMoved, done.sorted⟩

/-- By a weak order on the list the sort is a stable one. -/
theorem stablySorted_sliceStable (asymm : ∀ a b, less a b → ¬less b a) (weak : WeakOn less l) :
    StablySorted less l (sliceStable less l) := by
  have inserted : ∀ parts : List (List α), WeakOn less parts.flatten →
      StablyMoved less parts.flatten (parts.map (insertion less)).flatten ∧
        ∀ part ∈ parts.map (insertion less), part.Pairwise fun a b => ¬less b a := by
    intro parts
    induction parts with
    | nil => exact fun _ => ⟨StablyMoved.refl _, by simp⟩
    | cons part rest ih =>
        intro weak
        have done := stablySorted_insertion asymm
          (weak.subset fun a (member : a ∈ part) => by simp [member])
        obtain ⟨moved, ordered⟩ := ih (weak.subset fun a member => by grind)
        rw [List.map_cons, List.flatten_cons, List.flatten_cons]
        exact ⟨done.toStablyMoved.append moved, List.forall_mem_cons.2 ⟨done.sorted, ordered⟩⟩
  have parted := flatten_blocks l
  obtain ⟨moved, ordered⟩ := inserted (blocks l) (parted.symm ▸ weak)
  have merged := stablySorted_mergeAll asymm
    ((parted.symm ▸ weak).subset fun a member => moved.perm.mem_iff.1 member) ordered
  have whole := moved.trans merged.toStablyMoved
  rw [parted] at whole
  exact ⟨whole, merged.sorted⟩

end Weak

/-! ## By a weak order on everything -/

section Order

variable [Std.Total (NotLess less)] [IsTrans α (NotLess less)] {l other : List α}

omit [DecidableRel less] [IsTrans α (NotLess less)] in
theorem asymm_of_total (a b : α) (before : less a b) : ¬less b a :=
  (Std.Total.total (r := NotLess less) a b).resolve_left fun after => after before

omit [DecidableRel less] [Std.Total (NotLess less)] in
theorem weakOn_of_trans (l : List α) : WeakOn less l := by
  intro a _ b _ c _ first second
  exact IsTrans.trans (r := NotLess less) c b a second first

theorem filter_sliceStable (l : List α) :
    (sliceStable less l).filter kept = sliceStable less (l.filter kept) := by
  have whole : StablySorted less l (sliceStable less l) :=
    stablySorted_sliceStable asymm_of_total (weakOn_of_trans l)
  have part : StablySorted less (l.filter kept) (sliceStable less (l.filter kept)) :=
    stablySorted_sliceStable asymm_of_total (weakOn_of_trans (l.filter kept))
  exact (whole.filter kept).unique asymm_of_total (weakOn_of_trans _) part

theorem pairwise_sliceStable (l : List α) :
    (sliceStable less l).Pairwise fun a b => ¬less b a :=
  (stablySorted_sliceStable asymm_of_total (weakOn_of_trans l)).sorted

theorem sliceStable_eq_self (sorted : l.Pairwise fun a b => ¬less b a) :
    sliceStable less l = l :=
  (stablySorted_sliceStable asymm_of_total (weakOn_of_trans l)).unique asymm_of_total
    (weakOn_of_trans l) (stablySorted_self sorted)

def Strict (less : α → α → Prop) (l : List α) : Prop :=
  ∀ a ∈ l, ∀ b ∈ l, ¬less a b → ¬less b a → a = b

omit [DecidableRel less] [Std.Total (NotLess less)] [IsTrans α (NotLess less)] in
theorem Strict.subset (strict : Strict less l) (within : ∀ a ∈ other, a ∈ l) :
    Strict less other := by
  intro a left b right
  exact strict a (within a left) b (within b right)

/-- Such a list is sorted in one way only, whatever order it comes in. -/
theorem sliceStable_eq_of_perm (strict : Strict less l) (order : l.Perm other) :
    sliceStable less l = sliceStable less other := by
  have same : (sliceStable less l).Perm (sliceStable less other) :=
    (perm_sliceStable l).trans (order.trans (perm_sliceStable other).symm)
  apply same.eq_of_pairwise _ (pairwise_sliceStable l) (pairwise_sliceStable other)
  intro a b left right notAfter notBefore
  have inFirst : a ∈ l := mem_sliceStable.1 left
  have inSecond : b ∈ l := order.mem_iff.2 (mem_sliceStable.1 right)
  exact strict a inFirst b inSecond notBefore notAfter

end Order

/-- What `sort.SliceStable` promises: the list in some order, stably sorted
where the comparator is one to sort by. -/
def SliceStable (less : α → α → Prop) (l out : List α) : Prop :=
  out.Perm l ∧ (WeakOn less l → StablySorted less l out)

theorem sliceStable_promised (asymm : ∀ a b, less a b → ¬less b a) (l : List α) :
    SliceStable less l (sliceStable less l) :=
  ⟨perm_sliceStable l, stablySorted_sliceStable asymm⟩

/-- What `sort.Slice` promises, which is no more than the order. -/
def Slice (less : α → α → Prop) (l out : List α) : Prop :=
  out.Perm l ∧ (WeakOn less l → out.Pairwise fun a b => ¬less b a)

omit [DecidableRel less] in
theorem slice_self {l : List α} (short : l.length ≤ 1) : Slice less l l := by
  refine ⟨List.Perm.refl l, fun _ => ?_⟩
  cases l with
  | nil => exact List.Pairwise.nil
  | cons a rest =>
      have alone : rest = [] :=
        List.length_eq_zero_iff.1 (Nat.le_zero.1 (Nat.succ_le_succ_iff.1 short))
      rw [alone]
      exact List.pairwise_singleton _ a

end StableSort
