import Mathlib

/-!
# Runs of a labelled machine

Reachable states, the invariant rule, and two ways to talk about a run rather
than a state: restricting the steps it may take, and carrying a tally that
each step charges.
-/

set_option autoImplicit false

structure Machine (State Label : Type) where
  initial : State → Prop
  step : State → Label → State → Prop

namespace Machine

variable {State Label Tally : Type} {machine : Machine State Label}

inductive Reachable (machine : Machine State Label) : State → Prop
  | initial {state : State} (start : machine.initial state) : Reachable machine state
  | step {state next : State} {label : Label} (before : Reachable machine state)
      (taken : machine.step state label next) : Reachable machine next

/-- What holds at the start and survives every step from a reachable state
holds in every reachable state. -/
theorem Reachable.invariant (Holds : State → Prop)
    (atStart : ∀ state, machine.initial state → Holds state)
    (preserved : ∀ state label next, machine.Reachable state → Holds state →
      machine.step state label next → Holds next)
    {state : State} (reached : machine.Reachable state) : Holds state := by
  induction reached with
  | initial start => exact atStart _ start
  | step before taken ih => exact preserved _ _ _ before ih taken

/-- The runs of `machine` all of whose steps meet `guard`, a condition on the
state before the step and on the label. -/
def restrict (machine : Machine State Label) (guard : State → Label → Prop) :
    Machine State Label where
  initial := machine.initial
  step state label next := machine.step state label next ∧ guard state label

theorem Reachable.mono {other : Machine State Label}
    (starts : ∀ state, machine.initial state → other.initial state)
    (steps : ∀ state label next, machine.step state label next → other.step state label next)
    {state : State} (reached : machine.Reachable state) : other.Reachable state :=
  reached.invariant other.Reachable (fun _ start => .initial (starts _ start))
    (fun _ _ _ _ before taken => .step before (steps _ _ _ taken))

theorem Reachable.of_restrict {guard : State → Label → Prop} {state : State}
    (reached : (machine.restrict guard).Reachable state) : machine.Reachable state := by
  refine mono ?_ ?_ reached
  · exact fun _ start => start
  · exact fun _ _ _ taken => taken.1

/-- The same machine beside a running tally, which each step charges as a
function of the state it starts from. -/
def tallied (machine : Machine State Label) (zero : Tally)
    (charge : Tally → State → Label → Tally) : Machine (Tally × State) Label where
  initial pair := pair.1 = zero ∧ machine.initial pair.2
  step pair label next :=
    next.1 = charge pair.1 pair.2 label ∧ machine.step pair.2 label next.2

theorem Reachable.of_tallied {zero : Tally} {charge : Tally → State → Label → Tally}
    {pair : Tally × State} (reached : (machine.tallied zero charge).Reachable pair) :
    machine.Reachable pair.2 := by
  induction reached with
  | initial start => exact .initial start.2
  | step before taken ih => exact .step ih taken.2

/-- Where no step that is allowed charges anything, the tally stays as it started. -/
theorem Reachable.tallied_still {zero : Tally} {charge : Tally → State → Label → Tally}
    {guard : State → Label → Prop}
    (still : ∀ state label, guard state label → charge zero state label = zero)
    {state : State} (reached : (machine.restrict guard).Reachable state) :
    (machine.tallied zero charge).Reachable (zero, state) := by
  induction reached with
  | initial start => exact .initial ⟨rfl, start⟩
  | step before taken ih => exact .step ih ⟨(still _ _ taken.2).symm, taken.1⟩

/-! ## Paths -/

def Path (machine : Machine State Label) : State → State → Prop :=
  Relation.ReflTransGen fun state next => ∃ label, machine.step state label next

theorem Path.refl (state : State) : machine.Path state state := Relation.ReflTransGen.refl

theorem Path.single {state next : State} (label : Label)
    (taken : machine.step state label next) : machine.Path state next :=
  Relation.ReflTransGen.single ⟨label, taken⟩

theorem Path.trans {state mid final : State} (left : machine.Path state mid)
    (right : machine.Path mid final) : machine.Path state final :=
  Relation.ReflTransGen.trans left right

theorem Reachable.path {state final : State} (reached : machine.Reachable state)
    (path : machine.Path state final) : machine.Reachable final := by
  induction path with
  | refl => exact reached
  | tail _ taken ih =>
      obtain ⟨_, taken⟩ := taken
      exact .step ih taken

/-! ## Executing a list of labels -/

/-- An executable step function that refuses the labels its guard refuses. -/
def guarded {Error : Type} (guard : State → Label → Prop)
    [∀ state label, Decidable (guard state label)] (error : Error)
    (act : State → Label → Except Error State) (state : State) (label : Label) :
    Except Error State :=
  if guard state label then act state label else .error error

theorem guarded_ok {Error : Type} {guard : State → Label → Prop}
    [∀ state label, Decidable (guard state label)] {error : Error}
    {act : State → Label → Except Error State} {state next : State} {label : Label}
    (ran : guarded guard error act state label = .ok next) :
    act state label = .ok next ∧ guard state label := by
  unfold guarded at ran
  split at ran
  · rename_i holds
    exact ⟨ran, holds⟩
  · cases ran

def replay {Error : Type} (act : State → Label → Except Error State) :
    State → List Label → Except Error State
  | state, [] => .ok state
  | state, label :: rest =>
      match act state label with
      | .ok next => replay act next rest
      | .error error => .error error

theorem replay_cons_ok_iff {Error : Type} {act : State → Label → Except Error State}
    {state final : State} {label : Label} {rest : List Label} :
    replay act state (label :: rest) = .ok final ↔
      ∃ next, act state label = .ok next ∧ replay act next rest = .ok final := by
  cases taken : act state label with
  | error error => simp [replay, taken]
  | ok next => simp [replay, taken]

def beside {Error : Type} (charge : Tally → State → Label → Tally)
    (act : State → Label → Except Error State) (pair : Tally × State) (label : Label) :
    Except Error (Tally × State) :=
  (act pair.2 label).map fun next => (charge pair.1 pair.2 label, next)

theorem beside_ok {Error : Type} {charge : Tally → State → Label → Tally}
    {act : State → Label → Except Error State} {pair next : Tally × State} {label : Label}
    (ran : beside charge act pair label = .ok next) :
    next.1 = charge pair.1 pair.2 label ∧ act pair.2 label = .ok next.2 := by
  unfold beside at ran
  cases taken : act pair.2 label with
  | error error =>
      rw [taken] at ran
      cases ran
  | ok after =>
      rw [taken] at ran
      cases ran
      exact ⟨rfl, rfl⟩

/-- What a replay reaches is reachable, when the labels it uses are steps. -/
theorem Reachable.replay {Error : Type} {act : State → Label → Except Error State}
    {labels : List Label} {state final : State}
    (steps : ∀ label ∈ labels, ∀ before after, act before label = .ok after →
      machine.step before label after)
    (reached : machine.Reachable state) (ran : replay act state labels = .ok final) :
    machine.Reachable final := by
  induction labels generalizing state with
  | nil =>
      cases ran
      exact reached
  | cons label rest ih =>
      obtain ⟨next, taken, ran⟩ := replay_cons_ok_iff.1 ran
      have first := steps label List.mem_cons_self state next taken
      exact ih (fun other member => steps other (List.mem_cons_of_mem _ member))
        (.step reached first) ran

end Machine
