import Mathlib

/-!
# Bonded claims

A claim stands unless somebody bets as much against it; a claim that is bet
against is judged, or dropped when nobody judges. The bonds are the only
money in it, and this says where every one of them goes.
-/

set_option autoImplicit false

/-- Money that goes into a pot or comes out of it. -/
inductive Movement (Party : Type) where
  | posted (party : Party) (amount : Nat)
  | released (party : Party) (amount : Nat)
  deriving DecidableEq

namespace Movement

variable {Party : Type}

def amountPosted : Movement Party → Nat
  | .posted _ amount => amount
  | .released _ _ => 0

def amountReleased : Movement Party → Nat
  | .posted _ _ => 0
  | .released _ amount => amount

end Movement

namespace BondedClaim

variable {Party Verdict : Type}

inductive Stage (Party Verdict : Type) where
  | vacant
  | pledged (proposer : Party) (claim : Verdict)
  | contested (proposer challenger : Party) (claim : Verdict)
  | decided (proposer : Party) (challenger : Option Party) (claim verdict : Verdict)
  | dropped (proposer challenger : Party)

def posted (moves : List (Movement Party)) : Nat := (moves.map Movement.amountPosted).sum

def released (moves : List (Movement Party)) : Nat := (moves.map Movement.amountReleased).sum

def stakeIn (bond : Nat) : Stage Party Verdict → Nat
  | .vacant | .decided _ _ _ _ | .dropped _ _ => 0
  | .pledged _ _ => bond
  | .contested _ _ _ => 2 * bond

variable [DecidableEq Verdict]

def upheld (proposer challenger : Party) (claim verdict : Verdict) : Party :=
  if verdict = claim then proposer else challenger

inductive Turn (bond : Nat) :
    Stage Party Verdict → List (Movement Party) → Stage Party Verdict → Prop
  | pledges (proposer : Party) (claim : Verdict) :
      Turn bond .vacant [.posted proposer bond] (.pledged proposer claim)
  | contests (proposer challenger : Party) (claim : Verdict) :
      Turn bond (.pledged proposer claim) [.posted challenger bond]
        (.contested proposer challenger claim)
  | stands (proposer : Party) (claim : Verdict) :
      Turn bond (.pledged proposer claim) [.released proposer bond]
        (.decided proposer none claim claim)
  | judges (proposer challenger : Party) (claim verdict : Verdict) :
      Turn bond (.contested proposer challenger claim)
        [.released (upheld proposer challenger claim verdict) (bond * 2)]
        (.decided proposer (some challenger) claim verdict)
  | drops (proposer challenger : Party) (claim : Verdict) :
      Turn bond (.contested proposer challenger claim)
        [.released proposer bond, .released challenger bond] (.dropped proposer challenger)

/-- A stage some turns lead to, with all the money they moved. -/
inductive Course (bond : Nat) : Stage Party Verdict → List (Movement Party) → Prop
  | start : Course bond .vacant []
  | turn {stage next : Stage Party Verdict} {moves more : List (Movement Party)}
      (before : Course bond stage moves) (turn : Turn bond stage more next) :
      Course bond next (moves ++ more)

/-- Where every bond of a stage came from and went. -/
def Accounted (bond : Nat) (stage : Stage Party Verdict) (moves : List (Movement Party)) : Prop :=
  match stage with
  | .vacant => moves = []
  | .pledged proposer _ => moves = [.posted proposer bond]
  | .contested proposer challenger _ =>
      moves = [.posted proposer bond, .posted challenger bond]
  | .decided proposer none claim verdict =>
      verdict = claim ∧ moves = [.posted proposer bond, .released proposer bond]
  | .decided proposer (some challenger) claim verdict =>
      moves = [.posted proposer bond, .posted challenger bond,
        .released (upheld proposer challenger claim verdict) (bond * 2)]
  | .dropped proposer challenger =>
      moves = [.posted proposer bond, .posted challenger bond,
        .released proposer bond, .released challenger bond]

variable {bond : Nat} {stage next : Stage Party Verdict} {moves more : List (Movement Party)}

theorem Accounted.turn (accounted : Accounted bond stage moves) (turn : Turn bond stage more next) :
    Accounted bond next (moves ++ more) := by
  cases turn with
  | pledges proposer claim =>
      cases accounted
      rfl
  | contests proposer challenger claim =>
      cases accounted
      rfl
  | stands proposer claim =>
      cases accounted
      exact ⟨rfl, rfl⟩
  | judges proposer challenger claim verdict =>
      cases accounted
      rfl
  | drops proposer challenger claim =>
      cases accounted
      rfl

theorem Course.accounted (course : Course bond stage moves) : Accounted bond stage moves := by
  induction course with
  | start => rfl
  | turn before turn ih => exact ih.turn turn

theorem posted_append (moves more : List (Movement Party)) :
    posted (moves ++ more) = posted moves + posted more := by
  simp [posted]

theorem released_append (moves more : List (Movement Party)) :
    released (moves ++ more) = released moves + released more := by
  simp [released]

/-- One turn takes in or pays out the difference between two stages. -/
theorem Turn.balanced (turn : Turn bond stage more next) :
    stakeIn bond stage + posted more = stakeIn bond next + released more := by
  cases turn with
  | pledges proposer claim =>
      simp [stakeIn, posted, released, Movement.amountPosted, Movement.amountReleased]
  | contests proposer challenger claim =>
      simp [stakeIn, posted, released, Movement.amountPosted, Movement.amountReleased]
      omega
  | stands proposer claim =>
      simp [stakeIn, posted, released, Movement.amountPosted, Movement.amountReleased]
  | judges proposer challenger claim verdict =>
      simp [stakeIn, posted, released, Movement.amountPosted, Movement.amountReleased]
      omega
  | drops proposer challenger claim =>
      simp [stakeIn, posted, released, Movement.amountPosted, Movement.amountReleased]
      omega

/-- What was posted and not released is what the stage holds. -/
theorem Course.conserved (course : Course bond stage moves) :
    posted moves = released moves + stakeIn bond stage := by
  induction course with
  | start => rfl
  | turn before turn ih =>
      have balanced := turn.balanced
      rw [posted_append, released_append]
      omega

end BondedClaim
