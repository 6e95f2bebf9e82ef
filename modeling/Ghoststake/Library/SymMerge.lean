import Mathlib

/-!
# Merging by bisection

Two sorted neighbours are merged by cutting each in two, where a bisection
about the middle of both finds the place, and merging first parts and second
parts by themselves. Nothing is ever moved past one of its own half.
-/

set_option autoImplicit false

namespace StableSort

variable {α : Type} {less : α → α → Prop}

/-! ## What a stable sort is -/

def WeakOn (less : α → α → Prop) (l : List α) : Prop :=
  ∀ a ∈ l, ∀ b ∈ l, ∀ c ∈ l, ¬less b a → ¬less c b → ¬less c a

/-- The members kept are all level. -/
def Levelled (less : α → α → Prop) (l : List α) (kept : α → Bool) : Prop :=
  ∀ a ∈ l, ∀ b ∈ l, kept a = true → kept b = true → ¬less a b

/-- The same members in some order, with those that are level as they stood. -/
structure StablyMoved (less : α → α → Prop) (l out : List α) : Prop where
  perm : out.Perm l
  level : ∀ kept, Levelled less l kept → out.filter kept = l.filter kept

structure StablySorted (less : α → α → Prop) (l out : List α) : Prop
    extends StablyMoved less l out where
  sorted : out.Pairwise fun a b => ¬less b a

theorem WeakOn.subset {l other : List α} (weak : WeakOn less l) (within : ∀ a ∈ other, a ∈ l) :
    WeakOn less other := by
  intro a first b second c third
  exact weak a (within a first) b (within b second) c (within c third)

theorem Levelled.subset {l other : List α} {kept : α → Bool} (level : Levelled less l kept)
    (within : ∀ a ∈ other, a ∈ l) : Levelled less other kept := by
  intro a first b second
  exact level a (within a first) b (within b second)

theorem StablyMoved.refl (l : List α) : StablyMoved less l l :=
  ⟨List.Perm.refl l, fun _ _ => rfl⟩

theorem StablyMoved.trans {l part out : List α} (first : StablyMoved less l part)
    (second : StablyMoved less part out) : StablyMoved less l out := by
  refine ⟨second.perm.trans first.perm, ?_⟩
  intro kept level
  rw [second.level kept (level.subset fun a member => first.perm.mem_iff.1 member),
    first.level kept level]

theorem StablyMoved.append {l m l' m' : List α} (first : StablyMoved less l l')
    (second : StablyMoved less m m') : StablyMoved less (l ++ m) (l' ++ m') := by
  refine ⟨first.perm.append second.perm, ?_⟩
  intro kept level
  rw [List.filter_append, List.filter_append,
    first.level kept (level.subset fun a member => List.mem_append_left m member),
    second.level kept (level.subset fun a member => List.mem_append_right l member)]

theorem stablySorted_self {l : List α} (sorted : l.Pairwise fun a b => ¬less b a) :
    StablySorted less l l :=
  ⟨StablyMoved.refl l, sorted⟩

theorem StablySorted.filter {l out : List α} (done : StablySorted less l out)
    (kept : α → Bool) : StablySorted less (l.filter kept) (out.filter kept) := by
  refine ⟨⟨done.perm.filter kept, ?_⟩, done.sorted.sublist List.filter_sublist⟩
  intro chosen level
  rw [List.filter_filter, List.filter_filter]
  apply done.level
  intro a first b second both bothToo
  rw [Bool.and_eq_true] at both bothToo
  exact level a (List.mem_filter.2 ⟨first, both.2⟩) b (List.mem_filter.2 ⟨second, bothToo.2⟩)
    both.1 bothToo.1

section Unique

variable [DecidableRel less] {l other : List α}

def Level (less : α → α → Prop) (a b : α) : Prop := ¬less a b ∧ ¬less b a

instance : DecidableRel (Level less) := fun a b => inferInstanceAs (Decidable (¬less a b ∧ _))

theorem levelled_level (weak : WeakOn less l) {a : α} (member : a ∈ l) :
    Levelled less l fun b => Level less a b := by
  intro x first y second levelFirst levelSecond
  exact weak y second a member x first (of_decide_eq_true levelSecond).1
    (of_decide_eq_true levelFirst).2

/-- Two lists in order, with their level members alike, are one. -/
theorem eq_of_sorted (asymm : ∀ a b, less a b → ¬less b a) (order : l.Perm other)
    (sorted : l.Pairwise fun a b => ¬less b a) (sortedToo : other.Pairwise fun a b => ¬less b a)
    (level : ∀ a ∈ l, (l.filter fun b => Level less a b) = other.filter fun b => Level less a b) :
    l = other := by
  induction l generalizing other with
  | nil => exact (List.nil_perm.1 order).symm
  | cons a rest ih =>
      cases other with
      | nil => exact absurd order.length_eq (Nat.succ_ne_zero _)
      | cons b after =>
          have left : a ∈ b :: after := order.mem_iff.1 List.mem_cons_self
          have right : b ∈ a :: rest := order.mem_iff.2 List.mem_cons_self
          have irrefl (x : α) : ¬less x x := fun before => asymm x x before before
          have notAfter : ¬less a b := by
            rcases List.mem_cons.1 left with same | later
            · rw [same]
              exact irrefl b
            · exact (List.pairwise_cons.1 sortedToo).1 a later
          have notBefore : ¬less b a := by
            rcases List.mem_cons.1 right with same | later
            · rw [same]
              exact irrefl a
            · exact (List.pairwise_cons.1 sorted).1 b later
          -- the heads are level, so each is the first of what is level with `a`
          have heads := level a List.mem_cons_self
          have self : decide (Level less a a) = true := decide_eq_true ⟨irrefl a, irrefl a⟩
          have both : decide (Level less a b) = true := decide_eq_true ⟨notAfter, notBefore⟩
          simp only [List.filter_cons, self, both, if_true] at heads
          obtain ⟨rfl, _⟩ := List.cons.inj heads
          congr 1
          apply ih order.cons_inv (List.pairwise_cons.1 sorted).2 (List.pairwise_cons.1 sortedToo).2
          intro x member
          have whole := level x (List.mem_cons_of_mem a member)
          simp only [List.filter_cons] at whole
          split at whole
          · exact (List.cons.inj whole).2
          · exact whole

/-- By a weak order a list is stably sorted in one way only. -/
theorem StablySorted.unique (asymm : ∀ a b, less a b → ¬less b a) (weak : WeakOn less l)
    {out : List α} (first : StablySorted less l out) (second : StablySorted less l other) :
    out = other := by
  apply eq_of_sorted asymm (first.perm.trans second.perm.symm) first.sorted second.sorted
  intro a member
  have level := levelled_level weak (first.perm.mem_iff.1 member)
  exact (first.level _ level).trans (second.level _ level).symm

end Unique

/-! ## Bisection and rotation -/

section Merge

variable [DecidableRel less]

/-- Halve `i .. j`, going right of what is passed. -/
def bisect (passed : Nat → Bool) (i j : Nat) : Nat :=
  if _ : i < j then
    if passed ((i + j) / 2) then bisect passed ((i + j) / 2 + 1) j
    else bisect passed i ((i + j) / 2)
  else i
termination_by j - i

theorem bisect_bounds {passed : Nat → Bool} {i j : Nat} (ordered : i ≤ j) :
    i ≤ bisect passed i j ∧ bisect passed i j ≤ j := by
  induction i, j using bisect.induct passed with
  | case1 i j wide yes ih =>
      rw [bisect, dif_pos wide, if_pos yes]
      obtain ⟨above, below⟩ := ih (by omega)
      exact ⟨by omega, below⟩
  | case2 i j wide no ih =>
      rw [bisect, dif_pos wide, if_neg no]
      obtain ⟨above, below⟩ := ih (by omega)
      exact ⟨above, by omega⟩
  | case3 i j narrow =>
      rw [bisect, dif_neg narrow]
      exact ⟨Nat.le_refl i, ordered⟩

/-- The halving ends right of what is passed and left of what is not. -/
theorem bisect_turns (passed : Nat → Bool) (i j : Nat) :
    (bisect passed i j = i ∨ passed (bisect passed i j - 1) = true) ∧
      (bisect passed i j = j ∨ j < i ∨ passed (bisect passed i j) = false) := by
  induction i, j using bisect.induct passed with
  | case1 i j wide yes ih =>
      rw [bisect, dif_pos wide, if_pos yes]
      obtain ⟨start, stop⟩ := ih
      refine ⟨.inr ?_, ?_⟩
      · rcases start with start | start
        · rw [start]
          exact yes
        · exact start
      · rcases stop with stop | stop | stop
        · exact .inl stop
        · omega
        · exact .inr (.inr stop)
  | case2 i j wide no ih =>
      rw [bisect, dif_pos wide, if_neg no]
      obtain ⟨start, stop⟩ := ih
      refine ⟨start, .inr (.inr ?_)⟩
      rcases stop with stop | stop | stop
      · rw [stop]
        exact Bool.eq_false_iff.2 no
      · omega
      · exact stop
  | case3 i j narrow =>
      rw [bisect, dif_neg narrow]
      refine ⟨.inl rfl, ?_⟩
      omega

/-- `less` on members read by their places. -/
def lessAt (less : α → α → Prop) [DecidableRel less] : Option α → Option α → Bool
  | some a, some b => less a b
  | _, _ => false

/-- Where the left half is cut: the bisection reads it against the right half
mirrored at the middle of both. -/
def cut (less : α → α → Prop) [DecidableRel less] (left right : List α) : Nat :=
  let mid := (left.length + right.length) / 2
  let passed c := !lessAt less right[mid - 1 - c]? left[c]?
  if mid < left.length then bisect passed (mid - right.length) mid
  else bisect passed 0 left.length

theorem cut_bounds (less : α → α → Prop) [DecidableRel less] (left right : List α) :
    cut less left right ≤ left.length ∧
      cut less left right ≤ (left.length + right.length) / 2 ∧
      (left.length + right.length) / 2 ≤ cut less left right + right.length := by
  simp only [cut]
  split
  · have bounds := @bisect_bounds (fun c => !lessAt less
      right[(left.length + right.length) / 2 - 1 - c]? left[c]?)
      ((left.length + right.length) / 2 - right.length) ((left.length + right.length) / 2)
      (Nat.sub_le _ _)
    omega
  · have bounds := @bisect_bounds (fun c => !lessAt less
      right[(left.length + right.length) / 2 - 1 - c]? left[c]?) 0 left.length (Nat.zero_le _)
    omega

def symMerge (less : α → α → Prop) [DecidableRel less] (left right : List α) : List α :=
  if _ : left.length = 0 ∨ right.length = 0 then left ++ right
  else if left.length = 1 then
    let i := bisect (fun h => lessAt less right[h]? left[0]?) 0 right.length
    right.take i ++ left ++ right.drop i
  else if right.length = 1 then
    let i := bisect (fun h => !lessAt less right[0]? left[h]?) 0 left.length
    left.take i ++ right ++ left.drop i
  else
    let i := cut less left right
    let j := (left.length + right.length) / 2 - i
    symMerge less (left.take i) (right.take j) ++ symMerge less (left.drop i) (right.drop j)
termination_by left.length + right.length
decreasing_by
  all_goals
    have bounds := cut_bounds less left right
    simp only [List.length_take, List.length_drop]
    omega

omit [DecidableRel less] in
theorem perm_cross (a b c d : List α) : (a ++ b ++ (c ++ d)).Perm (a ++ c ++ (b ++ d)) := by
  rw [List.append_assoc, List.append_assoc, ← List.append_assoc b, ← List.append_assoc c]
  exact (List.perm_append_comm.append_right d).append_left a

theorem perm_symMerge (left right : List α) :
    (symMerge less left right).Perm (left ++ right) := by
  induction left, right using symMerge.induct less with
  | case1 left right none =>
      rw [symMerge, dif_pos none]
  | case2 left right some one =>
      rw [symMerge, dif_neg some, if_pos one]
      generalize bisect _ 0 right.length = i
      have turned : (right.take i ++ left).Perm (left ++ right.take i) := List.perm_append_comm
      refine (turned.append_right (right.drop i)).trans ?_
      rw [List.append_assoc, List.take_append_drop]
  | case3 left right some many one =>
      rw [symMerge, dif_neg some, if_neg many, if_pos one]
      generalize bisect _ 0 left.length = i
      have turned : (right ++ left.drop i).Perm (left.drop i ++ right) := List.perm_append_comm
      rw [List.append_assoc]
      refine (turned.append_left (left.take i)).trans ?_
      rw [← List.append_assoc, List.take_append_drop]
  | case4 left right some many manyToo i j first second =>
      rw [symMerge, dif_neg some, if_neg many, if_neg manyToo]
      have crossed := perm_cross (left.take i) (right.take j) (left.drop i) (right.drop j)
      rw [List.take_append_drop, List.take_append_drop] at crossed
      exact (first.append second).trans crossed

/-! ## What a merge keeps -/

variable {left right : List α}

/-- Where the bisection may cut: what stands left of the left cut is not after
what stands right of the right one, -/
def CutBefore (less : α → α → Prop) [DecidableRel less] (left right : List α) (i j : Nat) : Prop :=
  i = 0 ∨ right.length ≤ j ∨ lessAt less right[j]? left[i - 1]? = false

/-- and what stands left of the right cut is before what stands right of the left one. -/
def CutAfter (less : α → α → Prop) [DecidableRel less] (left right : List α) (i j : Nat) : Prop :=
  left.length ≤ i ∨ j = 0 ∨ lessAt less right[j - 1]? left[i]? = true

omit [DecidableRel less] in
theorem not_less_of_le (asymm : ∀ a b, less a b → ¬less b a) {l : List α}
    (sorted : l.Pairwise fun a b => ¬less b a) {m n : Nat} (order : m ≤ n) (inside : n < l.length) :
    ¬less l[n] l[m] := by
  rcases Nat.eq_or_lt_of_le order with rfl | before
  · exact fun self => asymm _ _ self self
  · exact List.pairwise_iff_getElem.1 sorted m n (before.trans inside) inside before

theorem not_less_of_cut (asymm : ∀ a b, less a b → ¬less b a) (weak : WeakOn less (left ++ right))
    (sorted : left.Pairwise fun a b => ¬less b a) (sortedToo : right.Pairwise fun a b => ¬less b a)
    {i j : Nat} (within : i ≤ left.length) (turn : CutBefore less left right i j) :
    ∀ a ∈ left.take i, ∀ b ∈ right.drop j, ¬less b a := by
  intro a first b second
  obtain ⟨m, low, rfl⟩ := List.mem_take_iff_getElem.1 first
  obtain ⟨n, high, rfl⟩ := List.mem_drop_iff_getElem.1 second
  have lastIn : i - 1 < left.length := by omega
  have firstIn : j < right.length := by omega
  rcases turn with none | beyond | kept
  · omega
  · omega
  rw [List.getElem?_eq_getElem lastIn, List.getElem?_eq_getElem firstIn, lessAt,
    decide_eq_false_iff_not] at kept
  have toCut : ¬less left[i - 1] left[m] := not_less_of_le asymm sorted (by omega) lastIn
  have inside : j + n < right.length := by omega
  have fromCut : ¬less right[j + n] right[j] := not_less_of_le asymm sortedToo (by omega) inside
  have inLeft {k : Nat} (inside : k < left.length) : left[k] ∈ left ++ right :=
    List.mem_append_left right (List.getElem_mem inside)
  have inRight {k : Nat} (inside : k < right.length) : right[k] ∈ left ++ right :=
    List.mem_append_right left (List.getElem_mem inside)
  have across := weak _ (inLeft (by omega)) _ (inLeft lastIn) _ (inRight firstIn) toCut kept
  exact weak _ (inLeft (by omega)) _ (inRight firstIn) _ (inRight inside) across fromCut

theorem less_of_cut (asymm : ∀ a b, less a b → ¬less b a) (weak : WeakOn less (left ++ right))
    (sorted : left.Pairwise fun a b => ¬less b a) (sortedToo : right.Pairwise fun a b => ¬less b a)
    {i j : Nat} (within : j ≤ right.length) (turn : CutAfter less left right i j) :
    ∀ b ∈ right.take j, ∀ a ∈ left.drop i, less b a := by
  intro b second a first
  obtain ⟨n, low, rfl⟩ := List.mem_take_iff_getElem.1 second
  obtain ⟨m, high, rfl⟩ := List.mem_drop_iff_getElem.1 first
  have firstIn : i < left.length := by omega
  have lastIn : j - 1 < right.length := by omega
  rcases turn with beyond | none | passed
  · omega
  · omega
  rw [List.getElem?_eq_getElem firstIn, List.getElem?_eq_getElem lastIn, lessAt,
    decide_eq_true_iff] at passed
  have inside : i + m < left.length := by omega
  have fromCut : ¬less left[i + m] left[i] := not_less_of_le asymm sorted (by omega) inside
  have toCut : ¬less right[j - 1] right[n] := not_less_of_le asymm sortedToo (by omega) lastIn
  have inLeft {k : Nat} (inside : k < left.length) : left[k] ∈ left ++ right :=
    List.mem_append_left right (List.getElem_mem inside)
  have inRight {k : Nat} (inside : k < right.length) : right[k] ∈ left ++ right :=
    List.mem_append_right left (List.getElem_mem inside)
  by_contra behind
  have across := weak _ (inLeft firstIn) _ (inLeft inside) _ (inRight (by omega)) fromCut behind
  exact weak _ (inLeft firstIn) _ (inRight (by omega)) _ (inRight lastIn) across toCut passed

theorem cut_turns (less : α → α → Prop) [DecidableRel less] (left right : List α) :
    CutBefore less left right (cut less left right)
        ((left.length + right.length) / 2 - cut less left right) ∧
      CutAfter less left right (cut less left right)
        ((left.length + right.length) / 2 - cut less left right) := by
  have bounds := cut_bounds less left right
  have turns : (cut less left right = 0 ∨
        (left.length + right.length) / 2 = cut less left right + right.length ∨
        lessAt less right[(left.length + right.length) / 2 - 1 - (cut less left right - 1)]?
          left[cut less left right - 1]? = false) ∧
      (cut less left right = left.length ∨
        cut less left right = (left.length + right.length) / 2 ∨
        lessAt less right[(left.length + right.length) / 2 - 1 - cut less left right]?
          left[cut less left right]? = true) := by
    simp only [cut]
    split
    · have ends := bisect_turns (fun c => !lessAt less
        right[(left.length + right.length) / 2 - 1 - c]? left[c]?)
        ((left.length + right.length) / 2 - right.length) ((left.length + right.length) / 2)
      simp only [Bool.not_eq_true', Bool.not_eq_false'] at ends
      refine ⟨.inr (ends.1.imp_left fun start => ?_), .inr (ends.2.imp_right fun rest =>
        rest.resolve_left ?_)⟩
      · omega
      · omega
    · have ends := bisect_turns (fun c => !lessAt less
        right[(left.length + right.length) / 2 - 1 - c]? left[c]?) 0 left.length
      simp only [Bool.not_eq_true', Bool.not_eq_false'] at ends
      refine ⟨ends.1.imp_right .inr, ends.2.imp_right fun rest => .inr (rest.resolve_left ?_)⟩
      omega
  generalize cut less left right = i at bounds turns
  generalize (left.length + right.length) / 2 = mid at bounds turns
  constructor
  · rcases turns.1 with none | start | kept
    · exact .inl none
    · exact .inr (.inl (by omega))
    · by_cases none : i = 0
      · exact .inl none
      · have mirrored : mid - 1 - (i - 1) = mid - i := by omega
        rw [mirrored] at kept
        exact .inr (.inr kept)
  · rcases turns.2 with whole | stop | passed
    · exact .inl whole.ge
    · exact .inr (.inl (by omega))
    · have mirrored : mid - 1 - i = mid - i - 1 := by omega
      rw [mirrored] at passed
      exact .inr (.inr passed)

omit [DecidableRel less] in
/-- Lists cut with nothing out of place across the cuts are merged part by part. -/
theorem StablySorted.cross (asymm : ∀ a b, less a b → ¬less b a)
    {l₁ l₂ r₁ r₂ first second : List α}
    (sorted : (l₁ ++ l₂).Pairwise fun a b => ¬less b a)
    (sortedToo : (r₁ ++ r₂).Pairwise fun a b => ¬less b a)
    (before : ∀ a ∈ l₁, ∀ b ∈ r₂, ¬less b a) (after : ∀ b ∈ r₁, ∀ a ∈ l₂, less b a)
    (done : StablySorted less (l₁ ++ r₁) first) (doneToo : StablySorted less (l₂ ++ r₂) second) :
    StablySorted less (l₁ ++ l₂ ++ (r₁ ++ r₂)) (first ++ second) := by
  rw [List.pairwise_append] at sorted sortedToo
  refine ⟨⟨(done.perm.append doneToo.perm).trans (perm_cross l₁ r₁ l₂ r₂), ?_⟩, ?_⟩
  · intro kept level
    rw [List.filter_append, done.level kept (level.subset fun a member => by grind),
      doneToo.level kept (level.subset fun a member => by grind)]
    simp only [List.filter_append]
    -- of the two inner parts one keeps nothing
    rcases (l₂.filter kept).eq_nil_or_concat with none | ⟨_, a, some⟩
    · simp [none]
    · have none : r₁.filter kept = [] := by
        rw [List.filter_eq_nil_iff]
        intro b right keeps
        have left : a ∈ l₂.filter kept := by simp [some]
        obtain ⟨left, keepsToo⟩ := List.mem_filter.1 left
        exact level b (by simp [right]) a (by simp [left]) keeps keepsToo (after b right a left)
      simp [none]
  · refine List.pairwise_append.2 ⟨done.sorted, doneToo.sorted, ?_⟩
    intro a left b right
    rcases List.mem_append.1 (done.perm.mem_iff.1 left) with left | left
    · rcases List.mem_append.1 (doneToo.perm.mem_iff.1 right) with right | right
      · exact sorted.2.2 a left b right
      · exact before a left b right
    · rcases List.mem_append.1 (doneToo.perm.mem_iff.1 right) with right | right
      · exact asymm a b (after a left b right)
      · exact sortedToo.2.2 a left b right

/-- The merge of two sorted halves is sorted, and the left one's first where
they are level. -/
theorem stablySorted_symMerge (asymm : ∀ a b, less a b → ¬less b a)
    (weak : WeakOn less (left ++ right)) (sorted : left.Pairwise fun a b => ¬less b a)
    (sortedToo : right.Pairwise fun a b => ¬less b a) :
    StablySorted less (left ++ right) (symMerge less left right) := by
  induction left, right using symMerge.induct less with
  | case1 left right none =>
      rw [symMerge, dif_pos none]
      apply stablySorted_self
      rw [List.pairwise_append]
      refine ⟨sorted, sortedToo, ?_⟩
      rcases none with none | none
      · simp [List.length_eq_zero_iff.1 none]
      · simp [List.length_eq_zero_iff.1 none]
  | case2 left right some one =>
      rw [symMerge, dif_neg some, if_pos one]
      have bounds := @bisect_bounds (fun h => lessAt less right[h]? left[0]?) 0 right.length
        (Nat.zero_le _)
      have turns := bisect_turns (fun h => lessAt less right[h]? left[0]?) 0 right.length
      simp only
      generalize bisect _ 0 right.length = i at bounds turns ⊢
      have behind := not_less_of_cut asymm weak sorted sortedToo (i := 1) (j := i) one.ge (by
        rcases turns.2 with whole | none | kept
        · exact .inr (.inl whole.ge)
        · omega
        · exact .inr (.inr kept))
      have ahead := less_of_cut asymm weak sorted sortedToo (i := 0) (j := i) bounds.2 (by
        exact .inr turns.1)
      rw [List.take_of_length_le one.le] at behind
      have last : StablySorted less (left ++ right.drop i) (left ++ right.drop i) :=
        stablySorted_self (List.pairwise_append.2 ⟨sorted, sortedToo.drop, behind⟩)
      have none : ∀ a ∈ ([] : List α), ∀ b ∈ right.drop i, ¬less b a := by simp
      have whole : ([] ++ left).Pairwise fun a b => ¬less b a := sorted
      have crossed := StablySorted.cross asymm whole (by rwa [List.take_append_drop]) none ahead
        (stablySorted_self sortedToo.take) last
      rw [List.take_append_drop] at crossed
      rwa [List.append_assoc]
  | case3 left right some many one =>
      rw [symMerge, dif_neg some, if_neg many, if_pos one]
      have bounds := @bisect_bounds (fun h => !lessAt less right[0]? left[h]?) 0 left.length
        (Nat.zero_le _)
      have turns := bisect_turns (fun h => !lessAt less right[0]? left[h]?) 0 left.length
      simp only [Bool.not_eq_true', Bool.not_eq_false'] at turns
      simp only
      generalize bisect _ 0 left.length = i at bounds turns ⊢
      have behind := not_less_of_cut asymm weak sorted sortedToo (i := i) (j := 0) bounds.2 (by
        exact turns.1.imp_right .inr)
      have ahead := less_of_cut asymm weak sorted sortedToo (i := i) (j := 1) one.ge (by
        rcases turns.2 with whole | none | passed
        · exact .inl whole.ge
        · omega
        · exact .inr (.inr passed))
      rw [List.take_of_length_le one.le] at ahead
      have first : StablySorted less (left.take i ++ right) (left.take i ++ right) :=
        stablySorted_self (List.pairwise_append.2 ⟨sorted.take, sortedToo, behind⟩)
      have last : StablySorted less (left.drop i ++ []) (left.drop i) := by
        rw [List.append_nil]
        exact stablySorted_self sorted.drop
      have crossed := StablySorted.cross asymm (by rwa [List.take_append_drop])
        (by rwa [List.append_nil]) (by simp) ahead first last
      rwa [List.take_append_drop, List.append_nil] at crossed
  | case4 left right some many manyToo i j first second =>
      rw [symMerge, dif_neg some, if_neg many, if_neg manyToo]
      have bounds := cut_bounds less left right
      have turns := cut_turns less left right
      have before := not_less_of_cut asymm weak sorted sortedToo (by omega) turns.1
      have after := less_of_cut asymm weak sorted sortedToo (by omega) turns.2
      have crossed := StablySorted.cross asymm (by rwa [List.take_append_drop])
        (by rwa [List.take_append_drop]) before after
        (first (weak.subset fun a member => by grind) sorted.take sortedToo.take)
        (second (weak.subset fun a member => by grind) sorted.drop sortedToo.drop)
      rwa [List.take_append_drop, List.take_append_drop] at crossed

end Merge

end StableSort
