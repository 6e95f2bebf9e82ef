import Mathlib

/-!
# Reading an append-only log at an instant

A log whose entries are stamped in increasing order has at most one entry that
is the last of its past at an instant and has a successor after it; which entry
that is never changes as the log grows.
-/

namespace Timeline

set_option autoImplicit false

variable {Entry : Type} {time : Entry → Nat} {log : List Entry} {instant i j : Nat}

def Increasing (time : Entry → Nat) (log : List Entry) : Prop :=
  log.Pairwise fun earlier later => time earlier < time later

/-- The entry at `i` is of the past of `instant`, and the next one is not. -/
structure Pins (time : Entry → Nat) (log : List Entry) (instant i : Nat) (entry : Entry) :
    Prop where
  found : log[i]? = some entry
  past : time entry ≤ instant
  next : ∃ successor, log[i + 1]? = some successor ∧ instant < time successor

theorem Increasing.lt (increasing : Increasing time log) {earlier later : Entry} (order : i < j)
    (first : log[i]? = some earlier) (second : log[j]? = some later) :
    time earlier < time later := by
  obtain ⟨firstBound, rfl⟩ := List.getElem?_eq_some_iff.1 first
  obtain ⟨secondBound, rfl⟩ := List.getElem?_eq_some_iff.1 second
  exact List.pairwise_iff_getElem.1 increasing i j firstBound secondBound order

theorem Increasing.append (increasing : Increasing time log) {entry : Entry}
    (later : ∀ last ∈ log, time last < time entry) : Increasing time (log ++ [entry]) := by
  rw [Increasing, List.pairwise_append]
  refine ⟨increasing, List.pairwise_singleton _ _, ?_⟩
  intro last member other new
  rw [List.mem_singleton] at new
  subst new
  exact later last member

variable {entry other : Entry}

theorem Pins.future (pins : Pins time log instant i entry) (increasing : Increasing time log)
    {later : Entry} (order : i < j) (found : log[j]? = some later) : instant < time later := by
  obtain ⟨successor, next, future⟩ := pins.next
  rcases Nat.lt_or_eq_of_le (Nat.succ_le_of_lt order) with after | same
  · exact Nat.lt_trans future (increasing.lt after next found)
  · subst same
    rw [found] at next
    cases next
    exact future

theorem Pins.unique (increasing : Increasing time log) (left : Pins time log instant i entry)
    (right : Pins time log instant j other) : i = j := by
  rcases Nat.lt_trichotomy i j with before | same | after
  · exact absurd right.past (Nat.not_le_of_lt (left.future increasing before right.found))
  · exact same
  · exact absurd left.past (Nat.not_le_of_lt (right.future increasing after left.found))

theorem Pins.append (pins : Pins time log instant i entry) (more : List Entry) :
    Pins time (log ++ more) instant i entry := by
  obtain ⟨successor, next, future⟩ := pins.next
  have kept : ∀ {k : Nat} {kept : Entry}, log[k]? = some kept → (log ++ more)[k]? = some kept := by
    intro k kept found
    rw [List.getElem?_append_left (List.getElem?_eq_some_iff.1 found).1]
    exact found
  exact ⟨kept pins.found, pins.past, successor, kept next, future⟩

/-- The last entry of the past has a successor as soon as there is a later one. -/
theorem pins_of_last (increasing : Increasing time log) (found : log[i]? = some entry)
    (past : time entry ≤ instant)
    (last : ∀ j later, i < j → log[j]? = some later → instant < time later)
    {later : Entry} (member : later ∈ log) (future : instant < time later) :
    Pins time log instant i entry := by
  obtain ⟨k, bound, rfl⟩ := List.getElem_of_mem member
  have order : i < k := by
    by_contra notAfter
    rcases Nat.lt_or_eq_of_le (Nat.le_of_not_lt notAfter) with before | same
    · have earlier := increasing.lt before (List.getElem?_eq_getElem bound) found
      omega
    · subst same
      rw [List.getElem?_eq_getElem bound] at found
      cases found
      omega
  have nextBound : i + 1 < log.length := by omega
  refine ⟨found, past, log[i + 1], List.getElem?_eq_getElem nextBound, ?_⟩
  exact last (i + 1) _ (Nat.lt_succ_self i) (List.getElem?_eq_getElem nextBound)

/-! ## Copies that leave entries out -/

structure Last (time : Entry → Nat) (log : List Entry) (instant : Nat) (entry : Entry) :
    Prop where
  member : entry ∈ log
  past : time entry ≤ instant
  latest : ∀ other ∈ log, time other ≤ instant → time other ≤ time entry

theorem exists_last (member : entry ∈ log) (past : time entry ≤ instant) :
    ∃ last, Last time log instant last := by
  have finite : {other | other ∈ log ∧ time other ≤ instant}.Finite :=
    (List.finite_toSet log).subset fun _ belongs => belongs.1
  obtain ⟨last, belongs, latest⟩ := Set.exists_max_image _ time finite ⟨entry, member, past⟩
  exact ⟨last, belongs.1, belongs.2, fun other found before => latest other ⟨found, before⟩⟩

theorem Increasing.inj (increasing : Increasing time log) (first : entry ∈ log)
    (second : other ∈ log) (same : time entry = time other) : entry = other := by
  obtain ⟨i, foundFirst⟩ := List.mem_iff_getElem?.1 first
  obtain ⟨j, foundSecond⟩ := List.mem_iff_getElem?.1 second
  rcases Nat.lt_trichotomy i j with before | here | after
  · exact absurd same (increasing.lt before foundFirst foundSecond).ne
  · subst here
    rw [foundFirst] at foundSecond
    exact Option.some.inj foundSecond
  · exact absurd same (increasing.lt after foundSecond foundFirst).ne'

section Copies

variable {Value : Type} {value : Entry → Value} {Readable : Entry → Prop}
  {source copy : List Entry}

/-- Whatever the copy pins at an instant has the value that is last in the
source. -/
def Mirrors (time : Entry → Nat) (value : Entry → Value) (Readable : Entry → Prop)
    (source copy : List Entry) : Prop :=
  ∀ instant i entry, Pins time copy instant i entry → Readable entry →
    ∃ last, Last time source instant last ∧ value last = value entry

/-- Nothing of another value lies between two neighbours of the copy. -/
def Gapless (time : Entry → Nat) (value : Entry → Value) (Readable : Entry → Prop)
    (source copy : List Entry) : Prop :=
  ∀ i entry successor, copy[i]? = some entry → copy[i + 1]? = some successor → Readable entry →
    ∀ between ∈ source, time entry < time between → time between < time successor →
      value between = value entry

theorem mirrors_iff_gapless (increasing : Increasing time source)
    (copied : ∀ entry ∈ copy, entry ∈ source) :
    Mirrors time value Readable source copy ↔ Gapless time value Readable source copy := by
  constructor
  · intro mirrors i entry successor found next readable between member after before
    have pins : Pins time copy (time between) i entry :=
      ⟨found, after.le, successor, next, before⟩
    obtain ⟨last, ends, same⟩ := mirrors _ _ _ pins readable
    have latest := ends.latest between member (Nat.le_refl _)
    have here : last = between :=
      increasing.inj ends.member member (Nat.le_antisymm ends.past latest)
    exact here ▸ same
  · intro gapless instant i entry pins readable
    have member := copied entry (List.mem_of_getElem? pins.found)
    obtain ⟨last, ends⟩ := exists_last member pins.past
    refine ⟨last, ends, ?_⟩
    rcases Nat.eq_or_lt_of_le (ends.latest entry member pins.past) with same | after
    · rw [increasing.inj member ends.member same]
    · obtain ⟨successor, next, future⟩ := pins.next
      exact gapless i entry successor pins.found next readable last ends.member after
        (ends.past.trans_lt future)

theorem gapless_append_copy : Gapless time value Readable source (copy ++ [entry]) ↔
    Gapless time value Readable source copy ∧ ∀ last, copy.getLast? = some last →
      Readable last → ∀ between ∈ source, time last < time between →
        time between < time entry → value between = value last := by
  have inside {j : Nat} {found : Entry} (kept : copy[j]? = some found) :
      (copy ++ [entry])[j]? = some found := by
    rw [List.getElem?_append_left (List.getElem?_eq_some_iff.1 kept).1]
    exact kept
  constructor
  · intro gapless
    constructor
    · intro i first successor found next
      exact gapless i first successor (inside found) (inside next)
    · intro last ends
      rw [List.getLast?_eq_getElem?] at ends
      have bound := (List.getElem?_eq_some_iff.1 ends).1
      have next : (copy ++ [entry])[copy.length - 1 + 1]? = some entry := by
        rw [Nat.sub_add_cancel (by omega), List.getElem?_concat_length]
      exact gapless (copy.length - 1) last entry (inside ends) next
  · intro ⟨gapless, atEnd⟩ i first successor found next
    rcases Nat.lt_or_ge (i + 1) copy.length with within | beyond
    · rw [List.getElem?_append_left within] at next
      rw [List.getElem?_append_left (by omega)] at found
      exact gapless i first successor found next
    · have bound := (List.getElem?_eq_some_iff.1 next).1
      rw [List.length_append, List.length_singleton] at bound
      have last : i + 1 = copy.length := by omega
      rw [last, List.getElem?_concat_length] at next
      cases next
      rw [List.getElem?_append_left (by omega)] at found
      apply atEnd first
      rw [List.getLast?_eq_getElem?, ← last]
      exact found

/-- What is published after everything copied falls into no gap. -/
theorem gapless_append_source (later : ∀ copied ∈ copy, time copied < time entry) :
    Gapless time value Readable (source ++ [entry]) copy ↔
      Gapless time value Readable source copy := by
  constructor
  · intro gapless i first successor found next readable between member
    exact gapless i first successor found next readable between (List.mem_append_left _ member)
  · intro gapless i first successor found next readable between member after before
    rcases List.mem_append.1 member with old | new
    · exact gapless i first successor found next readable between old after before
    · rw [List.mem_singleton] at new
      subst new
      exact absurd before (Nat.lt_asymm (later successor (List.mem_of_getElem? next)))

end Copies

end Timeline
