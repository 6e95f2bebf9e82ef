import Ghoststake.Index.Steps
import Ghoststake.Library.Machine

/-!
# The process around the indexer

It boots through `Preflight`, then polls with `Step`, and may be restarted at
any call: a crash is the failure of the call it dies in.
-/

namespace Ghoststake

set_option autoImplicit false

open Calls

namespace Index

variable {Entry RoundEvent Payload : Type}

structure Process (Entry RoundEvent : Type) where
  clock : Nat
  db : Database Entry RoundEvent
  /-- `Preflight` returned since the last start. -/
  booted : Bool

inductive Act where
  | restart
  | pass (ticks : Nat)
  | preflight
  | step
deriving DecidableEq

section Acts

variable (decode : Decoder Entry RoundEvent Payload) (ix : Indexer)
variable (world : Nat → Moment Payload)

def succeeded {Value : Type} : Except Failure Value → Bool
  | .ok _ => true
  | .error _ => false

/-- The polling loop runs only where `Preflight` let the process boot. -/
def act (p : Process Entry RoundEvent) : Act → Except Unit (Process Entry RoundEvent)
  | .restart => .ok { p with booted := false }
  | .pass ticks => .ok { p with clock := p.clock + ticks }
  | .preflight =>
      let ended := preflight ix world p.clock p.db
      .ok { clock := ended.clock, db := ended.state, booted := succeeded ended.result }
  | .step =>
      if p.booted then
        let ended := step decode ix world p.clock p.db
        .ok { p with clock := ended.clock, db := ended.state }
      else .error ()

def process (start : Nat → Database Entry RoundEvent → Prop) :
    Machine (Process Entry RoundEvent) Act where
  initial p := start p.clock p.db ∧ p.booted = false
  step p label next := act decode ix world p label = .ok next

end Acts

variable {decode : Decoder Entry RoundEvent Payload} {ix : Indexer}
variable {world : Nat → Moment Payload} {p next : Process Entry RoundEvent}

/-- What a `Preflight` has done, and that it boots only where nothing is left to do. -/
theorem of_act_preflight (ran : act decode ix world p .preflight = .ok next) :
    Repairs ix p.clock p.db next.clock next.db ∧
      (next.booted = true → Ready ix next.db) := by
  cases ran
  have ended : (preflight ix world p.clock p.db).Satisfies _ _ :=
    repairing_preflight p.clock p.db p.clock p.db ⟨Nat.le_refl _, rfl⟩
  simp only [Ended.Satisfies] at ended
  cases result : (preflight ix world p.clock p.db).result with
  | ok value =>
      rw [result] at ended
      exact ⟨ended.1, fun _ => ended.2⟩
  | error failure =>
      rw [result] at ended
      refine ⟨ended, ?_⟩
      intro booted
      cases booted

theorem of_act_step (ran : act decode ix world p .step = .ok next) :
    p.booted = true ∧ next.booted = true ∧
      Stepped decode ix world p.clock p.db
        (succeeded (step decode ix world p.clock p.db).result) next.clock next.db := by
  have triple : Triple world (fun clock state => clock = p.clock ∧ state = p.db)
    (step decode ix) _ _ := triple_step
  have ended := triple p.clock p.db ⟨rfl, rfl⟩
  simp only [Ended.Satisfies] at ended
  simp only [act] at ran
  split at ran
  · rename_i booted
    cases ran
    refine ⟨booted, booted, ?_⟩
    show Stepped decode ix world p.clock p.db _ (step decode ix world p.clock p.db).clock
      (step decode ix world p.clock p.db).state
    cases result : (step decode ix world p.clock p.db).result with
    | ok value =>
        rw [result] at ended
        exact ended
    | error failure =>
        rw [result] at ended
        exact ended
  · cases ran

end Index

end Ghoststake
