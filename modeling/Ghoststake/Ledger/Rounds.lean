import Ghoststake.Index.Store
import Ghoststake.Library.KeyedFold
import Ghoststake.Library.StableSort

/-!
# Rounds and positions, folded from their events

A round's state is never stored. It is folded from the rows of `round_events`
each time it is read, and so is an account's position in it.
-/

namespace Ghoststake

set_option autoImplicit false

open KeyedFold StableSort

namespace Ledger

open Index

/-! ## Events -/

inductive EventName where
  | roundOpened | roundStrikeSet | positionTaken | roundLocked | roundResolved | roundVoided
  | claimed | proposed | challenged | ruled | finalised | abandoned | marketSet
  deriving DecidableEq, Repr

def EventName.text : EventName → String
  | .roundOpened => "RoundOpened"
  | .roundStrikeSet => "RoundStrikeSet"
  | .positionTaken => "PositionTaken"
  | .roundLocked => "RoundLocked"
  | .roundResolved => "RoundResolved"
  | .roundVoided => "RoundVoided"
  | .claimed => "Claimed"
  | .proposed => "Proposed"
  | .challenged => "Challenged"
  | .ruled => "Ruled"
  | .finalised => "Finalised"
  | .abandoned => "Abandoned"
  | .marketSet => "MarketSet"

def EventName.all : List EventName :=
  [.roundOpened, .roundStrikeSet, .positionTaken, .roundLocked, .roundResolved, .roundVoided,
    .claimed, .proposed, .challenged, .ruled, .finalised, .abandoned, .marketSet]

/-- The event a row's `event_name` names, if it is one a projection knows. -/
def eventNamed (name : Text) : Option EventName :=
  EventName.all.find? fun event => event.text.toList = name

theorem event_named_text (event : EventName) :
    eventNamed event.text.toList = some event := by
  cases event <;> decide +kernel

def sideUp : Text := "up".toList

def sideDown : Text := "down".toList

/-- What a row of `round_events` holds besides its provenance and its market. -/
structure RoundBody where
  roundID : Nat
  /-- None for round-level events. -/
  account : Option Address
  side : Text
  amount : Option Int
  data : List (Text × Text)
  deriving DecidableEq

abbrev RoundEvent := Row RoundBody

/-- Round ids restart at 1 in every market, so a round is named by both. -/
structure RoundRef where
  market : Option Address
  roundID : Nat
  deriving DecidableEq

def refOf (e : RoundEvent) : RoundRef := ⟨e.owner, e.body.roundID⟩

/-! ## Fields of the data column -/

/-- `data[key]`: a missing key reads as the empty string. -/
def field (data : List (Text × Text)) (key : String) : Text :=
  (data.lookup key.toList).getD []

def digits : Nat → Text → Option Nat
  | n, [] => some n
  | n, c :: rest => if c.isDigit then digits (10 * n + (c.toNat - '0'.toNat)) rest else none

def natural (text : Text) : Option Nat := if text = [] then none else digits 0 text

/-- `new(big.Int).SetString(text, 10)`. -/
def setString : Text → Option Int
  | '-' :: rest => (natural rest).map fun n => -(n : Int)
  | '+' :: rest => (natural rest).map Int.ofNat
  | text => (natural text).map Int.ofNat

def bigField (data : List (Text × Text)) (key : String) : Option Int := setString (field data key)

/-- A time is its Unix second. This is `time.Time{}`, the start of the year 1. -/
def zeroTime : Int := -62135596800

/-- `v.Int64()` keeps the low 64 bits. -/
def unixField (data : List (Text × Text)) (key : String) : Int :=
  match bigField data key with
  | none => zeroTime
  | some v => v.bmod (2 ^ 64)

/-! ## The state of a round -/

inductive RoundStatus where
  /-- The empty string, before any event that sets one. -/
  | unset
  | «open» | locked | resolved | void
  deriving DecidableEq, Repr

inductive QuestionLifecycle where
  | «open» | proposed | challenged | final | abandoned
  deriving DecidableEq, Repr

structure QuestionState where
  oracle : Text
  state : QuestionLifecycle
  outcome : Text
  proposer : Option Address
  proposedAt : Int
  evidenceURI : Text
  evidenceDigest : Text
  proposerStake : Option Int
  challengeClosesAt : Int
  challenger : Option Address
  challengedAt : Int
  rulingDueAt : Int
  arbiter : Option Address
  ruledAt : Int
  reasonURI : Text
  paidTo : Text
  abandonedAt : Int
  deriving DecidableEq

structure Round where
  chainID : Int
  market : Option Address
  roundID : Nat
  status : RoundStatus
  openTime : Int
  lockTime : Int
  closeTime : Int
  upPool : Int
  downPool : Int
  lockPrice : Option Int
  closePrice : Option Int
  winner : Text
  rakeTaken : Option Int
  voidReason : Text
  question : Option QuestionState
  lastBlock : Nat
  deriving DecidableEq

def newQuestion : QuestionState where
  oracle := []
  state := .open
  outcome := []
  proposer := none
  proposedAt := zeroTime
  evidenceURI := []
  evidenceDigest := []
  proposerStake := none
  challengeClosesAt := zeroTime
  challenger := none
  challengedAt := zeroTime
  rulingDueAt := zeroTime
  arbiter := none
  ruledAt := zeroTime
  reasonURI := []
  paidTo := []
  abandonedAt := zeroTime

def newRound (e : RoundEvent) : Round where
  chainID := e.provenance.chainID
  market := e.owner
  roundID := e.body.roundID
  status := .unset
  openTime := zeroTime
  lockTime := zeroTime
  closeTime := zeroTime
  upPool := 0
  downPool := 0
  lockPrice := none
  closePrice := none
  winner := []
  rakeTaken := none
  voidReason := []
  question := none
  lastBlock := 0

/-- `r.question()`, and what the caller does to it. -/
def Round.asking (r : Round) (change : QuestionState → QuestionState) : Round :=
  { r with question := some (change (r.question.getD newQuestion)) }

def Round.staked (r : Round) (side : Text) (amount : Int) : Round :=
  if side = sideUp then { r with upPool := r.upPool + amount }
  else if side = sideDown then { r with downPool := r.downPool + amount }
  else r

def applyRoundEvent (r : Round) (e : RoundEvent) : Round :=
  let data := e.body.data
  let blockTime : Int := e.provenance.blockTime
  match eventNamed e.provenance.eventName with
  | some .roundOpened =>
      { r with
        status := .open
        openTime := unixField data "openTime"
        lockTime := unixField data "lockTime"
        closeTime := unixField data "closeTime" }
  | some .positionTaken =>
      match e.body.amount with
      | none => r
      | some amount => r.staked e.body.side amount
  | some .roundStrikeSet => { r with lockPrice := bigField data "strikePrice" }
  | some .roundLocked => { r with status := .locked, lockPrice := bigField data "lockPrice" }
  | some .roundResolved =>
      { r with
        status := .resolved
        closePrice := bigField data "closePrice"
        winner := field data "winner"
        rakeTaken := bigField data "rakeTaken" }
  | some .roundVoided => { r with status := .void, voidReason := field data "reason" }
  | some .marketSet => r.asking fun q => { q with oracle := field data "oracle" }
  | some .proposed =>
      r.asking fun q =>
        { q with
          state := .proposed
          proposer := e.body.account
          outcome := field data "outcome"
          evidenceURI := field data "evidenceURI"
          evidenceDigest := field data "evidenceDigest"
          proposerStake := bigField data "proposerStake"
          challengeClosesAt := unixField data "challengeClosesAt"
          proposedAt := blockTime }
  | some .challenged =>
      r.asking fun q =>
        { q with
          state := .challenged
          challenger := e.body.account
          rulingDueAt := unixField data "rulingDueAt"
          challengedAt := blockTime }
  | some .ruled =>
      r.asking fun q =>
        { q with
          arbiter := e.body.account
          outcome := field data "outcome"
          reasonURI := field data "reasonURI"
          paidTo := field data "paid"
          ruledAt := blockTime }
  | some .finalised =>
      r.asking fun q => { q with state := .final, outcome := field data "outcome" }
  | some .abandoned =>
      r.asking fun q => { q with state := .abandoned, abandonedAt := unixField data "at" }
  | some .claimed | none => r

/-! ## Project -/

/-- The comparator both projections sort by. -/
def Earlier (a b : RoundEvent) : Prop :=
  if a.provenance.blockNumber ≠ b.provenance.blockNumber then
    a.provenance.blockNumber < b.provenance.blockNumber
  else a.provenance.logIndex < b.provenance.logIndex

instance : DecidableRel Earlier := fun a b => by
  unfold Earlier
  infer_instance

instance : Std.Total (NotLess Earlier) where
  total a b := by
    simp only [NotLess, Earlier]
    split_ifs <;> omega

instance : IsTrans RoundEvent (NotLess Earlier) where
  trans a b c := by
    simp only [NotLess, Earlier]
    split_ifs <;> omega

def Round.raised (r : Round) (e : RoundEvent) : Round :=
  if r.lastBlock < e.provenance.blockNumber then
    { r with lastBlock := e.provenance.blockNumber }
  else r

def foldRound (e : RoundEvent) (found : Option Round) : Round :=
  applyRoundEvent ((found.getD (newRound e)).raised e) e

def projectByRef (events : List RoundEvent) : List (RoundRef × Round) :=
  foldBy refOf foldRound (sliceStable Earlier events)

def project (events : List RoundEvent) : List Round := (projectByRef events).map Prod.snd

def Round.ref (r : Round) : RoundRef := ⟨r.market, r.roundID⟩

/-- What a list of rounds says of one. -/
def shown (rounds : List Round) (ref : RoundRef) : Option Round :=
  rounds.find? fun r => r.ref = ref

theorem ref_apply_round_event (r : Round) (e : RoundEvent) :
    (applyRoundEvent r e).ref = r.ref := by
  unfold applyRoundEvent Round.staked Round.asking
  split
  all_goals first | rfl | skip
  split
  · rfl
  · split_ifs <;> rfl

theorem ref_raised (r : Round) (e : RoundEvent) : (r.raised e).ref = r.ref := by
  unfold Round.raised
  split <;> rfl

theorem ref_of_mem {events : List RoundEvent} {pair : RoundRef × Round}
    (member : pair ∈ projectByRef events) : pair.2.ref = pair.1 := by
  revert pair
  apply forall_foldBy fun ref r => Round.ref r = ref
  intro e found carried
  rw [foldRound, ref_apply_round_event, ref_raised]
  cases found with
  | none => rfl
  | some r => exact carried r rfl

theorem shown_project_eq_lookup (events : List RoundEvent) (ref : RoundRef) :
    shown (project events) ref = (projectByRef events).lookup ref := by
  apply find_map_snd
  intro pair member
  exact ref_of_mem member

/-- What the events of one round fold to does not depend on the others'. -/
theorem shown_project (events : List RoundEvent) (ref : RoundRef) :
    shown (project events) ref =
      (sliceStable Earlier (events.filter fun e => refOf e = ref)).foldl
        (fun found e => some (foldRound e found)) none := by
  rw [shown_project_eq_lookup, projectByRef, lookup_foldBy, filter_sliceStable]

theorem shown_project_eq_none {events : List RoundEvent} {ref : RoundRef} :
    shown (project events) ref = none ↔ ∀ e ∈ events, refOf e ≠ ref := by
  rw [shown_project, foldl_some_eq_none, ← List.length_eq_zero_iff,
    (perm_sliceStable _).length_eq, List.length_eq_zero_iff, List.filter_eq_nil_iff]
  simp

/-! ## ProjectPositions -/

structure AccountPosition where
  market : Option Address
  roundID : Nat
  account : Option Address
  upStake : Int
  downStake : Int
  claimed : Bool
  claimedAmount : Int
  leveraged : Bool
  openedAt : Int
  lastTime : Int
  lastBlock : Nat
  deriving DecidableEq

def newPosition (account : Option Address) (e : RoundEvent) : AccountPosition where
  market := e.owner
  roundID := e.body.roundID
  account := account
  upStake := 0
  downStake := 0
  claimed := false
  claimedAmount := 0
  leveraged := false
  openedAt := e.provenance.blockTime
  lastTime := zeroTime
  lastBlock := 0

def AccountPosition.raised (p : AccountPosition) (e : RoundEvent) : AccountPosition :=
  let p := { p with lastTime := e.provenance.blockTime }
  if p.lastBlock < e.provenance.blockNumber then
    { p with lastBlock := e.provenance.blockNumber }
  else p

def AccountPosition.staked (p : AccountPosition) (side : Text) (amount : Int) : AccountPosition :=
  if side = sideUp then { p with upStake := p.upStake + amount }
  else if side = sideDown then { p with downStake := p.downStake + amount }
  else p

-- which digits a printed address has in upper case
variable (capital : Address → Nat → Bool)

def printed : Option Address → Text
  | none => []
  | some address => hex capital address

def AccountPosition.funded (p : AccountPosition) (funder : Text) : AccountPosition :=
  if funder ≠ [] ∧ funder ≠ printed capital p.account then { p with leveraged := true } else p

/-- One event, beside whether the account has staked in the round. -/
def foldPosition (account : Option Address) (e : RoundEvent)
    (found : Option (AccountPosition × Bool)) : AccountPosition × Bool :=
  let (opened, staked) := found.getD (newPosition account e, false)
  let p := opened.raised e
  match eventNamed e.provenance.eventName, e.body.amount with
  | some .positionTaken, none => (p, staked)
  | some .positionTaken, some amount =>
      ((p.staked e.body.side amount).funded capital (field e.body.data "funder"), true)
  | some .claimed, none => ({ p with claimed := true }, staked)
  | some .claimed, some amount =>
      ({ p with claimed := true, claimedAmount := p.claimedAmount + amount }, staked)
  | _, _ => (p, staked)

/-- The comparator the positions are listed by. -/
def AccountPosition.Newer (a b : AccountPosition) : Prop :=
  if a.market ≠ b.market then b.lastBlock < a.lastBlock else b.roundID < a.roundID

instance : DecidableRel AccountPosition.Newer := fun a b => by
  unfold AccountPosition.Newer
  infer_instance

def naming (account : Option Address) (events : List RoundEvent) : List RoundEvent :=
  events.filter fun e => e.body.account = account ∧ account ≠ none

def projectPositions (events : List RoundEvent) (account : Option Address) :
    List AccountPosition :=
  let folded := foldBy refOf (foldPosition capital account)
    (sliceStable Earlier (naming account events))
  let held := (folded.map Prod.snd).reverse.filter Prod.snd
  sliceStable AccountPosition.Newer (held.map Prod.fst)

end Ledger

end Ghoststake
