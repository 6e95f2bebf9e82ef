import Ghoststake.Library.Machine

/-!
# Programs that ignore a change

A change rewrites part of the state. A program ignores it when running after
the change is the same as changing after the run: it fails in the same way, and
what it leaves differs by the change and nothing else.
-/

set_option autoImplicit false

namespace Indifference

variable {Error State Other Value Result Label : Type}

def Ignores (change : State → State) (program : State → Except Error State) : Prop :=
  ∀ state, program (change state) = (program state).map change

theorem map_bind (program : Except Error Value) (next : Value → Except Error Result)
    (f : Result → Other) :
    (program >>= next).map f = program >>= fun value => (next value).map f := by
  cases program with
  | error error => rfl
  | ok value => rfl

theorem bind_of_map (program : Except Error Value) (f : Value → Other)
    (next : Other → Except Error Result) :
    (program.map f >>= next) = program >>= fun value => next (f value) := by
  cases program with
  | error error => rfl
  | ok value => rfl

theorem map_ok (value : Value) (f : Value → Other) :
    (Except.ok value : Except Error Value).map f = .ok (f value) := rfl

variable {change : State → State}

theorem ignores_ok : Ignores change (Except.ok : State → Except Error State) := fun _ => rfl

/-- A step whose only effect is a change of the state that commutes with `change`. -/
theorem ignores_pure {f : State → State}
    (commutes : ∀ state, f (change state) = change (f state)) :
    Ignores change (fun state => (Except.ok (f state) : Except Error State)) := by
  intro state
  dsimp only
  rw [commutes, map_ok]

theorem replay_ignores {act : State → Label → Except Error State} {labels : List Label}
    (steps : ∀ label ∈ labels, Ignores change fun state => act state label) :
    Ignores change fun state => Machine.replay act state labels := by
  induction labels with
  | nil => exact ignores_ok
  | cons label rest induction =>
      intro state
      have here : act (change state) label = (act state label).map change :=
        steps label List.mem_cons_self state
      have later := induction fun other member => steps other (List.mem_cons_of_mem _ member)
      unfold Machine.replay
      dsimp only
      rw [here]
      cases act state label with
      | error error => rfl
      | ok next => exact later next

theorem fold_ignores {turn : State → Label → Except Error State} {items : List Label}
    (turns : ∀ item, Ignores change fun state => turn state item) :
    Ignores change fun state => items.foldlM turn state := by
  induction items with
  | nil => exact ignores_ok
  | cons item rest induction =>
      intro state
      have here : turn (change state) item = (turn state item).map change := turns item state
      dsimp only
      rw [List.foldlM_cons, List.foldlM_cons, here, bind_of_map, map_bind]
      exact bind_congr fun next => induction next

end Indifference
