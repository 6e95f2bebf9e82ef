import Mathlib

/-!
# Guards in `Except`

Inversion of a program that stops at the first failed guard: each lemma turns
a successful run into the guards it passed and the value it returned.
-/

namespace Checked

set_option autoImplicit false

variable {Error Value Result State Item : Type}

/-- Stop with `error` unless `condition` holds. -/
def require (condition : Prop) [Decidable condition] (error : Error) : Except Error Unit :=
  if condition then .ok () else .error error

@[simp] theorem bind_ok_iff (program : Except Error Value) (next : Value → Except Error Result)
    (result : Result) :
    (program >>= next) = .ok result ↔
      ∃ value, program = .ok value ∧ next value = .ok result := by
  cases program with
  | error error => simp [bind, Except.bind]
  | ok value => simp [bind, Except.bind]

@[simp] theorem map_ok_iff (program : Except Error Value) (f : Value → Result) (result : Result) :
    program.map f = .ok result ↔ ∃ value, program = .ok value ∧ f value = result := by
  cases program with
  | error error => simp [Except.map]
  | ok value => simp [Except.map]

@[simp] theorem pure_ok_iff (value result : Value) :
    (pure value : Except Error Value) = .ok result ↔ value = result := by
  simp [pure, Except.pure]

@[simp] theorem require_ok_iff (condition : Prop) [Decidable condition] (error : Error)
    (done : Unit) : require condition error = .ok done ↔ condition := by
  unfold require
  split_ifs with holds <;> simp [holds]

/-! ## Errors a program never raises -/

theorem bind_avoids {program : Except Error Value} {next : Value → Except Error Result}
    {error : Error} (first : program ≠ .error error)
    (rest : ∀ value, program = .ok value → next value ≠ .error error) :
    (program >>= next) ≠ .error error := by
  cases ran : program with
  | error other =>
      intro raised
      apply first
      rw [ran, Except.error.inj raised]
  | ok value => exact rest value ran

theorem guard_avoids {condition : Prop} [Decidable condition] {error other : Error}
    {next : Unit → Except Error Result} (distinct : error ≠ other)
    (rest : condition → next () ≠ .error other) :
    (require condition error >>= next) ≠ .error other := by
  apply bind_avoids
  · unfold require
    split_ifs
    · nofun
    · intro raised
      exact distinct (Except.error.inj raised)
  · intro done passed
    exact rest ((require_ok_iff condition error done).1 passed)

theorem met_guard_avoids {condition : Prop} [Decidable condition] {error other : Error}
    {next : Unit → Except Error Result} (holds : condition)
    (rest : next () ≠ .error other) : (require condition error >>= next) ≠ .error other := by
  rw [require, if_pos holds]
  exact rest

/-! ## Running a program whose guards are known to hold -/

theorem ok_bind (value : Value) (next : Value → Except Error Result) :
    ((.ok value : Except Error Value) >>= next) = next value := rfl

theorem bind_succeeds {program : Except Error Value} {next : Value → Except Error Result}
    {value : Value} (first : program = .ok value) (rest : ∃ result, next value = .ok result) :
    ∃ result, (program >>= next) = .ok result := by
  rw [first]
  exact rest

theorem require_of {condition : Prop} [Decidable condition] (error : Error)
    (holds : condition) : require condition error = .ok () := if_pos holds

theorem require_of_not {condition : Prop} [Decidable condition] (error : Error)
    (fails : ¬condition) : require condition error = .error error := if_neg fails

/-! ## Loops -/

section Loops

variable {turn : State → Item → Except Error State} {items : List Item} {start final : State}

theorem loop_invariant (Holds : State → Prop)
    (preserved : ∀ state item next, item ∈ items → Holds state → turn state item = .ok next →
      Holds next)
    (atStart : Holds start) (ran : items.foldlM turn start = .ok final) : Holds final := by
  induction items generalizing start with
  | nil =>
      simp only [List.foldlM_nil, pure_ok_iff] at ran
      exact ran ▸ atStart
  | cons item rest ih =>
      simp only [List.foldlM_cons, bind_ok_iff] at ran
      obtain ⟨next, turned, ran⟩ := ran
      have later := preserved start item next List.mem_cons_self atStart turned
      apply ih _ later ran
      intro state other after member holds
      exact preserved state other after (List.mem_cons_of_mem _ member) holds

/-- A loop whose turns succeed from what the turns before them keep. -/
theorem loop_succeeds (Holds : State → Prop)
    (turned : ∀ state item, item ∈ items → Holds state →
      ∃ next, turn state item = .ok next ∧ Holds next)
    (atStart : Holds start) : ∃ final, items.foldlM turn start = .ok final := by
  induction items generalizing start with
  | nil => exact ⟨start, rfl⟩
  | cons item rest ih =>
      obtain ⟨next, first, later⟩ := turned start item List.mem_cons_self atStart
      rw [List.foldlM_cons]
      apply bind_succeeds first
      apply ih _ later
      intro state other member holds
      exact turned state other (List.mem_cons_of_mem _ member) holds

/-- What each turn does for its own item and no turn undoes, the loop does for all. -/
theorem loop_reaches (Done : Item → State → Prop)
    (does : ∀ state item next, turn state item = .ok next → Done item next)
    (keeps : ∀ state item next other, turn state item = .ok next → Done other state →
      Done other next)
    (ran : items.foldlM turn start = .ok final) : ∀ item ∈ items, Done item final := by
  induction items generalizing start with
  | nil =>
      intro item member
      cases member
  | cons item rest ih =>
      simp only [List.foldlM_cons, bind_ok_iff] at ran
      obtain ⟨next, turned, ran⟩ := ran
      intro other member
      rcases List.mem_cons.1 member with rfl | later
      · apply loop_invariant (Done other) _ (does start other next turned) ran
        intro state item after _ holds turned
        exact keeps state item after other turned holds
      · exact ih ran other later

/-- A loop raises no error that none of its turns raises. -/
theorem loop_avoids (Holds : State → Prop) {error : Error}
    (preserved : ∀ state item next, item ∈ items → Holds state → turn state item = .ok next →
      Holds next)
    (avoided : ∀ state item, item ∈ items → Holds state → turn state item ≠ .error error)
    (atStart : Holds start) : items.foldlM turn start ≠ .error error := by
  induction items generalizing start with
  | nil => nofun
  | cons item rest ih =>
      rw [List.foldlM_cons]
      apply bind_avoids
      · exact avoided start item List.mem_cons_self atStart
      · intro next turned
        apply ih
        · intro state other after member holds
          exact preserved state other after (List.mem_cons_of_mem _ member) holds
        · intro state other member holds
          exact avoided state other (List.mem_cons_of_mem _ member) holds
        · exact preserved start item next List.mem_cons_self atStart turned

/-- A loop that only checks passed its check on every item. -/
theorem each_of_forM {check : Item → Except Error Unit} {done : Unit}
    (ran : items.forM check = .ok done) : ∀ item ∈ items, check item = .ok () := by
  induction items with
  | nil => nofun
  | cons item rest ih =>
      rw [List.forM_eq_forM, List.forM_cons, bind_ok_iff] at ran
      obtain ⟨_, first, ran⟩ := ran
      intro other member
      rcases List.mem_cons.1 member with rfl | later
      · exact first
      · exact ih ran other later

end Loops

/-! ## Reading a result off a concrete run -/

def passes (program : Except Error Value) (check : Value → Bool) : Bool :=
  match program with
  | .ok value => check value
  | .error _ => false

theorem exists_of_passes {program : Except Error Value} (check : Value → Bool)
    (passed : passes program check = true) :
    ∃ value, program = .ok value ∧ check value = true := by
  cases program with
  | error error => cases passed
  | ok value => exact ⟨value, rfl, passed⟩

theorem exists_error_of_refused {program : Except Error Value}
    (refused : (!passes program fun _ => true) = true) : ∃ error, program = .error error := by
  cases program with
  | error error => exact ⟨error, rfl⟩
  | ok value => cases refused

end Checked
