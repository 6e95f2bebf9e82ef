import Mathlib

/-!
# Programs of calls that may fail

A program makes one call at each tick of a clock, and what a call meets is up
to the world at that tick. A triple says what holds where the program returns
and what any failure leaves behind.
-/

set_option autoImplicit false

/-- Where a program stopped: its result, the tick and the state. -/
structure Ended (State Error Value : Type) where
  result : Except Error Value
  clock : Nat
  state : State

def Ended.Satisfies {State Error Value : Type} (ended : Ended State Error Value)
    (returns : Value → Nat → State → Prop) (stops : Error → Nat → State → Prop) : Prop :=
  match ended.result with
  | .ok value => returns value ended.clock ended.state
  | .error error => stops error ended.clock ended.state

def Calls (World State Error Value : Type) : Type :=
  (Nat → World) → Nat → State → Ended State Error Value

namespace Calls

variable {World State Error Value Result Item : Type}

instance : Monad (Calls World State Error) where
  pure value := fun _ clock state => ⟨.ok value, clock, state⟩
  bind program next := fun world clock state =>
    match (program world clock state).result with
    | .ok value =>
        next value world (program world clock state).clock (program world clock state).state
    | .error error =>
        ⟨.error error, (program world clock state).clock, (program world clock state).state⟩

def fail (error : Error) : Calls World State Error Value :=
  fun _ clock state => ⟨.error error, clock, state⟩

def call (answer : World → State → Except Error Value × State) :
    Calls World State Error Value :=
  fun world clock state =>
    ⟨(answer (world clock) state).1, clock + 1, (answer (world clock) state).2⟩

def ask (answer : World → State → Except Error Value) : Calls World State Error Value :=
  call fun world state => (answer world state, state)

def ensure (condition : Prop) [Decidable condition] (error : Error) :
    Calls World State Error Unit :=
  if condition then pure () else fail error

/-- A write of the program's own, which no call goes with. -/
def modify (write : State → State) : Calls World State Error Unit :=
  fun _ clock state => ⟨.ok (), clock, write state⟩

/-- A program whose failure is noted and passed over. -/
def swallow (program : Calls World State Error Unit) : Calls World State Error Unit :=
  fun world clock state =>
    ⟨.ok (), (program world clock state).clock, (program world clock state).state⟩

/-- A program that sees a part of the world and keeps a part of the state. -/
def zoom {World' State' : Type} (sees : World → World') (get : State → State')
    (put : State' → State → State) (program : Calls World' State' Error Value) :
    Calls World State Error Value :=
  fun world clock state =>
    let ended := program (fun tick => sees (world tick)) clock (get state)
    ⟨ended.result, ended.clock, put ended.state state⟩

/-- A write of the program's own that notes the time. -/
def stamp (write : Nat → State → State) : Calls World State Error Unit :=
  fun _ clock state => ⟨.ok (), clock, write clock state⟩

/-! ## Triples -/

section Triples

variable {world : Nat → World} {before : Nat → State → Prop}
variable {returns : Value → Nat → State → Prop} {stops : Error → Nat → State → Prop}

/-- From `before`, `program` returns with `returns` or stops with `stops`. -/
def Triple (world : Nat → World) (before : Nat → State → Prop)
    (program : Calls World State Error Value) (returns : Value → Nat → State → Prop)
    (stops : Error → Nat → State → Prop) : Prop :=
  ∀ clock state, before clock state → (program world clock state).Satisfies returns stops

theorem triple_pure {value : Value} (holds : ∀ clock state, before clock state →
    returns value clock state) : Triple world before (pure value) returns stops :=
  holds

theorem triple_fail {error : Error} (holds : ∀ clock state, before clock state →
    stops error clock state) : Triple world before (fail error) returns stops :=
  holds

theorem triple_bind {program : Calls World State Error Value}
    {next : Value → Calls World State Error Result} {between : Value → Nat → State → Prop}
    {returns : Result → Nat → State → Prop} (first : Triple world before program between stops)
    (rest : ∀ value, Triple world (between value) (next value) returns stops) :
    Triple world before (program >>= next) returns stops := by
  intro clock state holds
  have ended := first clock state holds
  simp only [Ended.Satisfies] at ended
  simp only [Ended.Satisfies, bind]
  cases stopped : (program world clock state).result with
  | ok value =>
      rw [stopped] at ended
      exact rest value _ _ ended
  | error error =>
      rw [stopped] at ended
      exact ended

theorem triple_weaken {program : Calls World State Error Value} {before' : Nat → State → Prop}
    {returns' : Value → Nat → State → Prop} {stops' : Error → Nat → State → Prop}
    (strong : Triple world before program returns stops)
    (needs : ∀ clock state, before' clock state → before clock state)
    (gives : ∀ value clock state, returns value clock state → returns' value clock state)
    (leaves : ∀ error clock state, stops error clock state → stops' error clock state) :
    Triple world before' program returns' stops' := by
  intro clock state holds
  have ended := strong clock state (needs clock state holds)
  simp only [Ended.Satisfies] at ended ⊢
  cases stopped : (program world clock state).result with
  | ok value =>
      rw [stopped] at ended
      exact gives _ _ _ ended
  | error error =>
      rw [stopped] at ended
      exact leaves _ _ _ ended

theorem triple_call {answer : World → State → Except Error Value × State}
    (holds : ∀ clock state, before clock state →
      match (answer (world clock) state).1 with
      | .ok value => returns value (clock + 1) (answer (world clock) state).2
      | .error error => stops error (clock + 1) (answer (world clock) state).2) :
    Triple world before (call answer) returns stops :=
  holds

theorem triple_ask {answer : World → State → Except Error Value}
    (answers : ∀ clock state value, before clock state → answer (world clock) state = .ok value →
      returns value (clock + 1) state)
    (refuses : ∀ clock state error, before clock state →
      answer (world clock) state = .error error → stops error (clock + 1) state) :
    Triple world before (ask answer) returns stops := by
  apply triple_call
  intro clock state holds
  cases answered : answer (world clock) state with
  | ok value => exact answers clock state value holds answered
  | error error => exact refuses clock state error holds answered

theorem triple_modify {write : State → State} {returns : Unit → Nat → State → Prop}
    (holds : ∀ clock state, before clock state → returns () clock (write state)) :
    Triple world before (modify write) returns stops :=
  holds

theorem triple_stamp {write : Nat → State → State} {returns : Unit → Nat → State → Prop}
    (holds : ∀ clock state, before clock state → returns () clock (write clock state)) :
    Triple world before (stamp write) returns stops :=
  holds

theorem triple_swallow {program : Calls World State Error Unit} {after : Nat → State → Prop}
    (ends : Triple world before program (fun _ => after) (fun _ => after)) :
    Triple world before (swallow program) (fun _ => after) stops := by
  intro clock state holds
  have ended := ends clock state holds
  simp only [Ended.Satisfies] at ended
  cases stopped : (program world clock state).result with
  | ok value =>
      rw [stopped] at ended
      exact ended
  | error error =>
      rw [stopped] at ended
      exact ended

theorem triple_and {program : Calls World State Error Value} {before' : Nat → State → Prop}
    {returns' : Value → Nat → State → Prop} {stops' : Error → Nat → State → Prop}
    (first : Triple world before program returns stops)
    (second : Triple world before' program returns' stops') :
    Triple world (fun clock state => before clock state ∧ before' clock state) program
      (fun value clock state => returns value clock state ∧ returns' value clock state)
      (fun error clock state => stops error clock state ∧ stops' error clock state) := by
  intro clock state holds
  have one := first clock state holds.1
  have two := second clock state holds.2
  simp only [Ended.Satisfies] at one two ⊢
  cases stopped : (program world clock state).result with
  | ok value =>
      rw [stopped] at one two
      exact ⟨one, two⟩
  | error error =>
      rw [stopped] at one two
      exact ⟨one, two⟩

theorem triple_ensure {condition : Prop} [Decidable condition] {error : Error}
    {next : Unit → Calls World State Error Value}
    (passes : condition → Triple world before (next ()) returns stops)
    (fails : ¬condition → ∀ clock state, before clock state → stops error clock state) :
    Triple world before (ensure condition error >>= next) returns stops := by
  unfold ensure
  split_ifs with met
  · exact passes met
  · exact fails met

/-- What the state has to do with the triple may be settled beforehand. -/
theorem triple_of_start {program : Calls World State Error Value}
    (each : ∀ clock state, before clock state →
      Triple world (fun c s => c = clock ∧ s = state) program returns stops) :
    Triple world before program returns stops :=
  fun clock state holds => each clock state holds clock state ⟨rfl, rfl⟩

end Triples

/-! ## Programs that only read -/

def Reads (program : Calls World State Error Value) : Prop :=
  ∀ world clock state, (program world clock state).state = state ∧
    clock ≤ (program world clock state).clock

theorem reads_pure (value : Value) : Reads (pure value : Calls World State Error Value) :=
  fun _ _ _ => ⟨rfl, Nat.le_refl _⟩

theorem reads_fail (error : Error) : Reads (fail error : Calls World State Error Value) :=
  fun _ _ _ => ⟨rfl, Nat.le_refl _⟩

theorem reads_ask (answer : World → State → Except Error Value) : Reads (ask answer) :=
  fun _ clock _ => ⟨rfl, Nat.le_succ clock⟩

theorem reads_ensure (condition : Prop) [Decidable condition] (error : Error) :
    Reads (ensure condition error : Calls World State Error Unit) := by
  unfold ensure
  split_ifs
  · exact reads_pure ()
  · exact reads_fail error

theorem reads_bind {program : Calls World State Error Value}
    {next : Value → Calls World State Error Result} (first : Reads program)
    (rest : ∀ value, Reads (next value)) : Reads (program >>= next) := by
  intro world clock state
  have one := first world clock state
  simp only [bind]
  cases (program world clock state).result with
  | ok value =>
      have two := rest value world (program world clock state).clock
        (program world clock state).state
      exact ⟨two.1.trans one.1, Nat.le_trans one.2 two.2⟩
  | error error => exact one

theorem triple_of_reads {world : Nat → World} {before : Nat → State → Prop}
    {program : Calls World State Error Value} (reads : Reads program)
    (lasts : ∀ clock later state, clock ≤ later → before clock state → before later state) :
    Triple world before program (fun _ => before) (fun _ => before) := by
  intro clock state holds
  have ⟨same, later⟩ := reads world clock state
  simp only [Ended.Satisfies]
  rw [same]
  cases (program world clock state).result with
  | ok value => exact lasts _ _ _ later holds
  | error error => exact lasts _ _ _ later holds

/-! ## The clock -/

def Onward (program : Calls World State Error Value) : Prop :=
  ∀ world clock state, clock ≤ (program world clock state).clock

theorem onward_pure (value : Value) : Onward (pure value : Calls World State Error Value) :=
  fun _ clock _ => Nat.le_refl clock

theorem onward_call (answer : World → State → Except Error Value × State) :
    Onward (call answer) :=
  fun _ clock _ => Nat.le_succ clock

theorem onward_modify (write : State → State) :
    Onward (modify write : Calls World State Error Unit) :=
  fun _ clock _ => Nat.le_refl clock

theorem onward_swallow {program : Calls World State Error Unit} (onward : Onward program) :
    Onward (swallow program) :=
  onward

theorem onward_bind {program : Calls World State Error Value}
    {next : Value → Calls World State Error Result} (first : Onward program)
    (rest : ∀ value, Onward (next value)) : Onward (program >>= next) := by
  intro world clock state
  have one := first world clock state
  simp only [bind]
  cases (program world clock state).result with
  | ok value => exact one.trans (rest value world _ _)
  | error error => exact one

theorem triple_onward {world : Nat → World} {program : Calls World State Error Value}
    (onward : Onward program) (start : Nat) :
    Triple world (fun clock _ => start ≤ clock) program (fun _ clock _ => start ≤ clock)
      (fun _ clock _ => start ≤ clock) := by
  intro clock state since
  have later := since.trans (onward world clock state)
  simp only [Ended.Satisfies]
  cases (program world clock state).result with
  | ok value => exact later
  | error error => exact later

/-! ## Programs whose end is known -/

section Ends

variable {world : Nat → World} {lo : Nat} {state mid after : State}

/-- Begun at tick `lo` or later in `state`, the program ends with `result` and leaves `after`. -/
def Ends (world : Nat → World) (lo : Nat) (state : State)
    (program : Calls World State Error Value) (result : Except Error Value)
    (after : State) : Prop :=
  ∀ clock, lo ≤ clock → ∃ later, clock ≤ later ∧ program world clock state = ⟨result, later, after⟩

theorem ends_pure (value : Value) :
    Ends world lo state (pure value : Calls World State Error Value) (.ok value) state :=
  fun clock _ => ⟨clock, Nat.le_refl clock, rfl⟩

theorem ends_fail (error : Error) :
    Ends world lo state (fail error : Calls World State Error Value) (.error error) state :=
  fun clock _ => ⟨clock, Nat.le_refl clock, rfl⟩

theorem ends_call {answer : World → State → Except Error Value × State}
    {result : Except Error Value}
    (answers : ∀ tick, lo ≤ tick → answer (world tick) state = (result, after)) :
    Ends world lo state (call answer) result after := by
  intro clock later
  refine ⟨clock + 1, Nat.le_succ clock, ?_⟩
  unfold call
  rw [answers clock later]

theorem ends_ask {answer : World → State → Except Error Value} {result : Except Error Value}
    (answers : ∀ tick, lo ≤ tick → answer (world tick) state = result) :
    Ends world lo state (ask answer) result state := by
  apply ends_call
  intro tick later
  rw [answers tick later]

theorem ends_ensure {condition : Prop} [Decidable condition] {error : Error} :
    Ends world lo state (ensure condition error : Calls World State Error Unit)
      (if condition then .ok () else .error error) state := by
  unfold ensure
  split_ifs
  · exact ends_pure ()
  · exact ends_fail error

theorem ends_bind {program : Calls World State Error Value}
    {next : Value → Calls World State Error Result} {value : Value} {result : Except Error Result}
    (first : Ends world lo state program (.ok value) mid)
    (rest : Ends world lo mid (next value) result after) :
    Ends world lo state (program >>= next) result after := by
  intro clock began
  obtain ⟨between, later, ran⟩ := first clock began
  obtain ⟨last, later', ran'⟩ := rest between (began.trans later)
  refine ⟨last, later.trans later', ?_⟩
  simp only [bind, ran, ran']

theorem ends_bind_error {program : Calls World State Error Value}
    {next : Value → Calls World State Error Result} {error : Error}
    (first : Ends world lo state program (.error error) after) :
    Ends world lo state (program >>= next) (.error error) after := by
  intro clock began
  obtain ⟨between, later, ran⟩ := first clock began
  refine ⟨between, later, ?_⟩
  simp only [bind, ran]

/-- A program whose end is known, in front of one whose end is not. -/
theorem triple_bind_of_ends {program : Calls World State Error Value}
    {next : Value → Calls World State Error Result} {value : Value}
    {returns : Result → Nat → State → Prop} {stops : Error → Nat → State → Prop}
    (first : Ends world lo state program (.ok value) mid)
    (rest : Triple world (fun clock s => lo ≤ clock ∧ s = mid) (next value) returns stops) :
    Triple world (fun clock s => lo ≤ clock ∧ s = state) (program >>= next) returns stops := by
  rintro clock s ⟨began, rfl⟩
  obtain ⟨between, later, ran⟩ := first clock began
  have ended := rest between mid ⟨began.trans later, rfl⟩
  simp only [bind, ran]
  exact ended

theorem result_of_ends {program : Calls World State Error Value} {result : Except Error Value}
    (ends : Ends world lo state program result after) :
    (program world lo state).result = result ∧ (program world lo state).state = after := by
  obtain ⟨later, _, ran⟩ := ends lo (Nat.le_refl lo)
  rw [ran]
  exact ⟨rfl, rfl⟩

end Ends

end Calls
