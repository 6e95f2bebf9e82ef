import Ghoststake.Ledger.Chronicle
import Ghoststake.Ledger.Listings

/-!
# Positions read from their rows

What the projection says of an account's positions in a market: the stakes, the
claim and what it paid, where the proceeds go, and what is left to collect.
-/

namespace Ghoststake

set_option autoImplicit false

open Checked KeyedFold StableSort

namespace Ledger

open Index Finance

variable {capital : Address → Nat → Bool} {account : Option Address}

/-! ## A position without its name and its times -/

structure Holding where
  upStake : Int
  downStake : Int
  claimed : Bool
  claimedAmount : Int
  leveraged : Bool
  staked : Bool

def Holding.none : Holding where
  upStake := 0
  downStake := 0
  claimed := false
  claimedAmount := 0
  leveraged := false
  staked := false

def holdingOf (found : Option (AccountPosition × Bool)) : Holding :=
  found.elim .none fun (p, staked) =>
    { upStake := p.upStake, downStake := p.downStake, claimed := p.claimed
      claimedAmount := p.claimedAmount, leveraged := p.leveraged, staked := staked }

def Holding.joined (h : Holding) (side : Text) (amount : Int) (borrowed : Bool) : Holding :=
  { h with
    upStake := if side = sideUp then h.upStake + amount else h.upStake
    downStake :=
      if side ≠ sideUp ∧ side = sideDown then h.downStake + amount else h.downStake
    leveraged := h.leveraged || borrowed
    staked := true }

def Holding.paid (h : Holding) (amount : Int) : Holding :=
  { h with claimed := true, claimedAmount := h.claimedAmount + amount }

variable (capital) in
def elsewhere (account : Option Address) (funder : Text) : Bool :=
  funder ≠ [] ∧ funder ≠ printed capital account

variable (capital account) in
def applyHolding (h : Holding) (e : RoundEvent) : Holding :=
  match eventNamed e.provenance.eventName, e.body.amount with
  | some .positionTaken, some amount =>
      h.joined e.body.side amount (elsewhere capital account (field e.body.data "funder"))
  | some .claimed, amount => h.paid (amount.getD 0)
  | _, _ => h

/-- What is folded for an account is folded under its name. -/
def Owned (account : Option Address) (found : Option (AccountPosition × Bool)) : Prop :=
  ∀ entry ∈ found, entry.1.account = account

theorem account_raised (p : AccountPosition) (e : RoundEvent) :
    (p.raised e).account = p.account := by
  unfold AccountPosition.raised
  simp only
  split_ifs
  · rfl
  · rfl

theorem account_staked (p : AccountPosition) (side : Text) (amount : Int) :
    (p.staked side amount).account = p.account := by
  unfold AccountPosition.staked
  split_ifs
  · rfl
  · rfl
  · rfl

theorem account_funded (p : AccountPosition) (funder : Text) :
    (p.funded capital funder).account = p.account := by
  unfold AccountPosition.funded
  split_ifs
  · rfl
  · rfl

theorem owned_fold (e : RoundEvent) (found : Option (AccountPosition × Bool))
    (owned : Owned account found) : Owned account (some (foldPosition capital account e found)) := by
  have before : (found.getD (newPosition account e, false)).1.account = account := by
    cases found with
    | none => rfl
    | some entry => exact owned entry rfl
  intro entry folded
  rw [← Option.mem_some.1 folded]
  unfold foldPosition
  simp only
  split
  · exact (account_raised _ e).trans before
  · exact (account_funded _ _).trans ((account_staked _ _ _).trans
      ((account_raised _ e).trans before))
  · exact (account_raised _ e).trans before
  · exact (account_raised _ e).trans before
  · exact (account_raised _ e).trans before

theorem holding_raised (p : AccountPosition) (e : RoundEvent) (staked : Bool) :
    holdingOf (some (p.raised e, staked)) = holdingOf (some (p, staked)) := by
  unfold AccountPosition.raised
  simp only
  split_ifs
  · rfl
  · rfl

theorem holding_staked (p : AccountPosition) (side : Text) (amount : Int) :
    holdingOf (some (p.staked side amount, true)) =
      (holdingOf (some (p, true))).joined side amount false := by
  unfold AccountPosition.staked Holding.joined
  by_cases up : side = sideUp
  · simp [up, holdingOf]
  · by_cases down : side = sideDown
    · rw [if_neg up, if_pos down]
      simp [down ▸ up, down, holdingOf]
    · simp [up, down, holdingOf]

theorem holding_funded (p : AccountPosition) (funder : Text) :
    holdingOf (some (p.funded capital funder, true)) =
      { holdingOf (some (p, true)) with
        leveraged := p.leveraged || elsewhere capital p.account funder } := by
  unfold AccountPosition.funded elsewhere
  by_cases other : funder ≠ [] ∧ funder ≠ printed capital p.account
  · rw [if_pos other, decide_eq_true other, Bool.or_true]
    rfl
  · rw [if_neg other, decide_eq_false other, Bool.or_false]
    rfl

theorem leveraged_staked (p : AccountPosition) (side : Text) (amount : Int) :
    (p.staked side amount).leveraged = p.leveraged := by
  unfold AccountPosition.staked
  split_ifs
  · rfl
  · rfl
  · rfl

variable (capital) in
theorem holding_joined (p : AccountPosition) (e : RoundEvent) (staked : Bool) (side : Text)
    (amount : Int) (funder : Text) :
    holdingOf (some (((p.raised e).staked side amount).funded capital funder, true)) =
      (holdingOf (some (p, staked))).joined side amount (elsewhere capital p.account funder) := by
  rw [holding_funded, holding_staked, leveraged_staked, account_staked, account_raised]
  have raised := holding_raised p e staked
  have leveraged : (p.raised e).leveraged = p.leveraged := congrArg Holding.leveraged raised
  have up : (p.raised e).upStake = p.upStake := congrArg Holding.upStake raised
  have down : (p.raised e).downStake = p.downStake := congrArg Holding.downStake raised
  have claimed : (p.raised e).claimed = p.claimed := congrArg Holding.claimed raised
  have paid : (p.raised e).claimedAmount = p.claimedAmount :=
    congrArg Holding.claimedAmount raised
  simp only [Holding.joined, holdingOf, Option.elim_some, leveraged, up, down, claimed, paid]

theorem holding_paid_nothing (p : AccountPosition) (e : RoundEvent) (staked : Bool) :
    holdingOf (some ({ p.raised e with claimed := true }, staked)) =
      (holdingOf (some (p, staked))).paid 0 := by
  rw [← holding_raised p e staked, Holding.paid, Int.add_zero]
  rfl

theorem holding_paid (p : AccountPosition) (e : RoundEvent) (staked : Bool) (amount : Int) :
    holdingOf (some ({ p.raised e with
      claimed := true, claimedAmount := (p.raised e).claimedAmount + amount }, staked)) =
        (holdingOf (some (p, staked))).paid amount := by
  rw [← holding_raised p e staked]
  rfl

theorem holding_of_fold (e : RoundEvent) (found : Option (AccountPosition × Bool))
    (owned : Owned account found) :
    holdingOf (some (foldPosition capital account e found)) =
      applyHolding capital account (holdingOf found) e := by
  have before : (found.getD (newPosition account e, false)).1.account = account := by
    cases found with
    | none => rfl
    | some entry => exact owned entry rfl
  have opened : holdingOf (some (found.getD (newPosition account e, false))) =
      holdingOf found := by
    cases found with
    | none => rfl
    | some entry => rfl
  rw [← opened, foldPosition]
  generalize found.getD (newPosition account e, false) = entry at before ⊢
  obtain ⟨p, staked⟩ := entry
  simp only [applyHolding]
  cases name : eventNamed e.provenance.eventName with
  | none => exact holding_raised p e staked
  | some known =>
      cases known with
      | positionTaken =>
          cases amount : e.body.amount with
          | none => exact holding_raised p e staked
          | some staking =>
              have joined := holding_joined capital p e staked e.body.side staking
                (field e.body.data "funder")
              rw [← before]
              exact joined
      | claimed =>
          cases e.body.amount with
          | none => exact holding_paid_nothing p e staked
          | some amount => exact holding_paid p e staked amount
      | _ => exact holding_raised p e staked

theorem holding_foldl (events : List RoundEvent) :
    holdingOf (events.foldl (fun found e => some (foldPosition capital account e found)) none) =
      (events.filter fun e => ¬Beside e).foldl (applyHolding capital account) .none := by
  apply image_foldl holdingOf (applyHolding capital account) _ (Owned account)
  · exact owned_fold
  · exact fun e found owned _ => holding_of_fold e found owned
  · intro e found owned beside
    rw [holding_of_fold e found owned]
    have aside : Beside e := by simpa using beside
    unfold Beside at aside
    unfold applyHolding
    cases name : eventNamed e.provenance.eventName with
    | none => rfl
    | some known =>
        rw [name] at aside
        cases known with
        | positionTaken => exact aside.elim
        | claimed => exact aside.elim
        | _ => rfl
  · intro entry nothing
    cases nothing

theorem hex_injective (capital : Address → Nat → Bool) : Function.Injective (hex capital) := by
  intro a b same
  apply lower_hex_injective
  rw [← to_lower_hex capital a, ← to_lower_hex capital b, same]

/-! ## One log -/

section Logs

variable {Account : Type} [Zero Account] [DecidableEq Account] {naming : Naming Account}
  {market : Address} {ledger : Market.Ledger Account} {roundId : Nat} {user : Account}
  {announced : List (Market.Event Account)} {h : Holding}

def stakesIn (announced : List (Market.Event Account)) (roundId : Nat) (user : Account) :
    List (Market.Position Account) :=
  (announced.filterMap Market.Event.position).filter fun p => p.roundId = roundId ∧ p.user = user

/-- What the projection of a position says of the market's accounts. -/
structure Keeps (announced : List (Market.Event Account)) (ledger : Market.Ledger Account)
    (roundId : Nat) (user : Account) (h : Holding) : Prop where
  upStake : h.upStake = ledger.stakeOf roundId user .up
  downStake : h.downStake = ledger.stakeOf roundId user .down
  claimed : h.claimed = ledger.claimed roundId user
  claimedAmount : h.claimedAmount =
    ((Market.paidTo (announced.filterMap Market.Event.payout) roundId user).sum : Nat)
  leveraged : h.leveraged = true ↔ ∃ p ∈ stakesIn announced roundId user, p.funder ≠ user
  staked : h.staked = true ↔ stakesIn announced roundId user ≠ []

variable (naming market roundId user) in
def mine (e : RoundEvent) : Bool :=
  e.body.account = some (naming.name user) ∧ refOf e = ⟨some market, roundId⟩

def aboutUser : Market.Event Account → Option Account
  | .positionTaken _ user _ _ _ | .claimed _ user _ _ => some user
  | .roundOpened _ _ _ _ | .roundStrikeSet _ _ | .roundLocked _ _ _ | .roundResolved _ _ _ _
  | .roundVoided _ _ | .routerSet _ _ | .feesWithdrawn _ _ | .access _ => none

theorem keeps_blank : Keeps [] (Market.Ledger.rebuilt []) roundId user .none where
  upStake := rfl
  downStake := rfl
  claimed := rfl
  claimedAmount := rfl
  leveraged := by simp [Holding.none, stakesIn]
  staked := by simp [Holding.none, stakesIn]

omit [Zero Account] in
/-- What is not about the user and the round says nothing of either. -/
theorem keeps_other {event : Market.Event Account}
    (keeps : Keeps announced ledger roundId user h)
    (other : aboutRound event ≠ some roundId ∨ aboutUser event ≠ some user) :
    Keeps (announced ++ [event]) (ledger.replay event) roundId user h := by
  have stakes : stakesIn (announced ++ [event]) roundId user = stakesIn announced roundId user := by
    cases event with
    | positionTaken id holder side amount funder =>
        have apart : ¬(id = roundId ∧ holder = user) := by
          rintro ⟨rfl, rfl⟩
          rcases other with other | other
          · exact other rfl
          · exact other rfl
        simp [stakesIn, Market.Event.position, apart]
    | _ => simp [stakesIn, Market.Event.position]
  have payouts : Market.paidTo ((announced ++ [event]).filterMap Market.Event.payout) roundId user =
      Market.paidTo (announced.filterMap Market.Event.payout) roundId user := by
    cases event with
    | claimed id holder amount recipient =>
        have apart : ¬(id = roundId ∧ holder = user) := by
          rintro ⟨rfl, rfl⟩
          rcases other with other | other
          · exact other rfl
          · exact other rfl
        simp [Market.paidTo, Market.Event.payout, apart]
    | _ => simp [Market.paidTo, Market.Event.payout]
  have held : (ledger.replay event).stakeOf roundId user = ledger.stakeOf roundId user ∧
      (ledger.replay event).claimed roundId user = ledger.claimed roundId user := by
    by_cases round : aboutRound event = some roundId
    · have holder := other.resolve_left (not_not.2 round)
      cases event with
      | positionTaken id holder' side amount funder =>
          cases round
          have apart : user ≠ holder' := fun same => holder (congrArg some same.symm)
          refine ⟨?_, rfl⟩
          simp [Market.Ledger.replay, Market.Ledger.addStake, Market.Ledger.setRound, apart]
      | claimed id holder' amount recipient =>
          cases round
          have apart : user ≠ holder' := fun same => holder (congrArg some same.symm)
          refine ⟨rfl, ?_⟩
          simp [Market.Ledger.replay, Market.Ledger.markClaimed, apart]
      | roundVoided id reason =>
          simp only [Market.Ledger.replay, Market.Ledger.voided]
          split_ifs
          · exact ⟨rfl, rfl⟩
          · exact ⟨rfl, rfl⟩
      | _ => exact ⟨rfl, rfl⟩
    · have still : (ledger.replay event).rounds roundId = ledger.rounds roundId ∧
          (ledger.replay event).stakeOf roundId = ledger.stakeOf roundId ∧
          (ledger.replay event).claimed roundId = ledger.claimed roundId := replay_other round
      exact ⟨congrFun still.2.1 user, congrFun still.2.2 user⟩
  constructor
  · rw [held.1]
    exact keeps.upStake
  · rw [held.1]
    exact keeps.downStake
  · rw [held.2]
    exact keeps.claimed
  · rw [payouts]
    exact keeps.claimedAmount
  · rw [stakes]
    exact keeps.leveraged
  · rw [stakes]
    exact keeps.staked

omit [DecidableEq Account] in
theorem account_of_decoded {event : Market.Event Account} {bodies : List RoundBody}
    {body : RoundBody} (decoded : decodeRound naming capital event = some bodies)
    (member : body ∈ bodies) : (aboutUser event).map naming.name = body.account := by
  have filed {id : Nat} {owner : Option Address} {side : Text} {amount : Option Int}
      {fields : List (String × Text)}
      (batch : roundBatch id owner side amount fields = some bodies) : owner = body.account := by
    obtain ⟨_, only⟩ := round_batch_eq_some_iff.1 batch
    rw [only] at member
    rw [List.mem_singleton.1 member]
  have silent (nothing : some [] = some bodies) : False := by
    rw [← Option.some.inj nothing] at member
    cases member
  cases event with
  | routerSet router allowed => exact (silent decoded).elim
  | feesWithdrawn target amount => exact (silent decoded).elim
  | access access => exact (silent decoded).elim
  | _ => exact filed decoded

omit [DecidableEq Account] in
theorem rows_of_others {log : MarketLog naming capital}
    (other : aboutRound log.event ≠ some roundId ∨ aboutUser log.event ≠ some user) :
    (log.rows market).filter (mine naming market roundId user) = [] := by
  rw [List.filter_eq_nil_iff]
  intro e member taken
  obtain ⟨i, body, derived, rfl⟩ := mem_rows member
  obtain ⟨named, ref⟩ := of_decide_eq_true taken
  rcases other with other | other
  · apply other
    rw [about_of_decoded log.decoded derived]
    exact congrArg some (congrArg RoundRef.roundID ref)
  · apply other
    have owner := account_of_decoded log.decoded derived
    change body.account = some (naming.name user) at named
    rw [named] at owner
    obtain ⟨holder, about, same⟩ := Option.map_eq_some_iff.1 owner
    rw [about, naming.injective same]

omit [DecidableEq Account] in
/-- The funder's text names somebody else just when it is somebody else. -/
theorem elsewhere_iff (capital : Address → Nat → Bool) (user funder : Account) :
    elsewhere capital (some (naming.name user)) (hex capital (naming.name funder)) = true ↔
      funder ≠ user := by
  have written : hex capital (naming.name funder) ≠ [] := by
    unfold hex
    simp
  have same : hex capital (naming.name funder) = hex capital (naming.name user) ↔
      funder = user := by
    constructor
    · exact fun same => naming.injective (hex_injective capital same)
    · intro same
      rw [same]
  rw [elsewhere, decide_eq_true_eq, printed, Ne, Ne, same]
  exact and_iff_right written

theorem keeps_of_stake {side : Market.Side} {amount : Nat} {funder : Account}
    (keeps : Keeps announced ledger roundId user h) :
    Keeps (announced ++ [.positionTaken roundId user side amount funder])
      (ledger.replay (.positionTaken roundId user side amount funder)) roundId user
      (h.joined (sideText side) amount
        (elsewhere capital (some (naming.name user)) (hex capital (naming.name funder)))) := by
  have stakes : stakesIn (announced ++ [.positionTaken roundId user side amount funder]) roundId
      user = stakesIn announced roundId user ++ [⟨roundId, user, side, amount, funder⟩] := by
    simp [stakesIn, Market.Event.position]
  have payouts : Market.paidTo ((announced ++ [Market.Event.positionTaken roundId user side amount
      funder]).filterMap Market.Event.payout) roundId user =
        Market.paidTo (announced.filterMap Market.Event.payout) roundId user := by
    simp [Market.paidTo, Market.Event.payout]
  have stake (which : Market.Side) : (ledger.replay (.positionTaken roundId user side amount
      funder)).stakeOf roundId user which =
        ledger.stakeOf roundId user which + if which = side then amount else 0 := by
    by_cases same : which = side
    · simp [Market.Ledger.replay, Market.Ledger.addStake, Market.Ledger.setRound, same]
    · simp [Market.Ledger.replay, Market.Ledger.addStake, Market.Ledger.setRound, same]
  have apart : sideDown ≠ sideUp := by decide
  constructor
  · rw [stake, Nat.cast_add, ← keeps.upStake]
    cases side with
    | up => simp [Holding.joined, sideText]
    | down => simp [Holding.joined, sideText, apart]
  · rw [stake, Nat.cast_add, ← keeps.downStake]
    cases side with
    | up => simp [Holding.joined, sideText]
    | down => simp [Holding.joined, sideText, apart]
  · exact keeps.claimed
  · rw [payouts]
    exact keeps.claimedAmount
  · rw [stakes, Holding.joined, Bool.or_eq_true, keeps.leveraged, elsewhere_iff]
    simp [or_and_right, exists_or]
  · rw [stakes]
    simp [Holding.joined]

omit [Zero Account] in
theorem keeps_of_claim {amount : Nat} {recipient : Account}
    (keeps : Keeps announced ledger roundId user h) :
    Keeps (announced ++ [.claimed roundId user amount recipient])
      (ledger.replay (.claimed roundId user amount recipient)) roundId user (h.paid amount) := by
  have stakes : stakesIn (announced ++ [.claimed roundId user amount recipient]) roundId user =
      stakesIn announced roundId user := by
    simp [stakesIn, Market.Event.position]
  have payouts : Market.paidTo ((announced ++ [Market.Event.claimed roundId user amount
      recipient]).filterMap Market.Event.payout) roundId user =
        Market.paidTo (announced.filterMap Market.Event.payout) roundId user ++ [amount] := by
    simp [Market.paidTo, Market.Event.payout]
  constructor
  · exact keeps.upStake
  · exact keeps.downStake
  · rw [Market.Ledger.replay, Market.Ledger.mark_claimed_same]
    simp [Holding.paid]
  · rw [payouts, List.sum_append, List.sum_singleton, Nat.cast_add, ← keeps.claimedAmount]
    rfl
  · rw [stakes]
    exact keeps.leveraged
  · rw [stakes]
    exact keeps.staked

/-- One record moves the position as its event moves the market's accounts. -/
theorem keeps_of_event {event : Market.Event Account} {e : RoundEvent}
    (decoded : decodeRound naming capital event = some [e.body])
    (named : eventNamed e.provenance.eventName = marketEventName event)
    (about : aboutRound event = some roundId) (whose : aboutUser event = some user)
    (keeps : Keeps announced ledger roundId user h) :
    Keeps (announced ++ [event]) (ledger.replay event) roundId user
      (applyHolding capital (some (naming.name user)) h e) := by
  unfold applyHolding
  rw [named]
  cases event with
  | positionTaken id holder side amount funder =>
      cases about
      cases whose
      have body := body_of_batch decoded
      have funded : field e.body.data "funder" = hex capital (naming.name funder) := by
        simp [body]
      rw [funded, body]
      exact keeps_of_stake keeps
  | claimed id holder amount recipient =>
      cases about
      cases whose
      rw [body_of_batch decoded]
      exact keeps_of_claim keeps
  | roundOpened => cases whose
  | roundStrikeSet => cases whose
  | roundLocked => cases whose
  | roundResolved => cases whose
  | roundVoided => cases whose
  | routerSet => cases whose
  | feesWithdrawn => cases whose
  | access => cases whose

theorem keeps_of_log (log : MarketLog naming capital)
    (keeps : Keeps announced ledger roundId user h) :
    Keeps (announced ++ [log.event]) (ledger.replay log.event) roundId user
      (((log.rows market).filter (mine naming market roundId user)).foldl
        (applyHolding capital (some (naming.name user))) h) := by
  by_cases about : aboutRound log.event = some roundId ∧ aboutUser log.event = some user
  · rcases single_round naming capital log.event log.bodies log.decoded with none | ⟨body, one⟩
    · have decoded := log.decoded
      rw [none] at decoded
      exact absurd decoded (decoded_of_about about.1)
    · have member : body ∈ log.bodies := by
        rw [one]
        exact List.mem_singleton_self body
      have round := about_of_decoded log.decoded member
      have account := account_of_decoded log.decoded member
      rw [about.1] at round
      rw [about.2] at account
      have taken : mine naming market roundId user (rowOf market log body) = true :=
        decide_eq_true ⟨account.symm,
          congrArg (RoundRef.mk (some market)) (Option.some.inj round).symm⟩
      rw [filter_rows_one one taken]
      exact keeps_of_event (one ▸ log.decoded) (event_named_row log body) about.1 about.2 keeps
  · have other := not_and_or.1 about
    rw [rows_of_others other]
    exact keeps_other keeps other

variable (market) in
theorem keeps_of_logs (logs : List (MarketLog naming capital)) (roundId : Nat) (user : Account) :
    Keeps (logs.map (·.event)) (Market.Ledger.rebuilt (logs.map (·.event))) roundId user
      (((rowsFiled market logs).filter (mine naming market roundId user)).foldl
        (applyHolding capital (some (naming.name user))) .none) := by
  induction logs using List.reverseRecOn with
  | nil => exact keeps_blank
  | append_singleton rest log ih =>
      rw [rows_filed_append, List.filter_append, List.foldl_append, List.map_append]
      have replayed : Market.Ledger.rebuilt (rest.map (·.event) ++ [log].map (·.event)) =
          (Market.Ledger.rebuilt (rest.map (·.event))).replay log.event :=
        List.foldl_append
      rw [replayed]
      exact keeps_of_log log ih

end Logs

/-! ## A page of positions -/

def pageOf (refs : List RoundRef) (events : List RoundEvent) : List RoundEvent :=
  events.filter fun e => refOf e ∈ refs

theorem mem_project_positions {events : List RoundEvent} {p : AccountPosition} :
    p ∈ projectPositions capital events account ↔
      ((sliceStable Earlier (naming account events)).filter fun e => refOf e = p.ref).foldl
        (fun found e => some (foldPosition capital account e found)) none = some (p, true) := by
  have listed : p ∈ projectPositions capital events account ↔ p ∈ held capital account events :=
    mem_sliceStable
  rw [listed, held_eq, List.mem_map]
  constructor
  · rintro ⟨pair, member, rfl⟩
    obtain ⟨member, staked⟩ := List.mem_filter.1 member
    have found := List.mem_reverse.1 member
    rw [ref_of_mem_folded capital account found, (mem_foldBy_iff _ _ _).1 found]
    exact congrArg some (Prod.ext rfl staked)
  · intro folds
    refine ⟨(p.ref, (p, true)), ?_, rfl⟩
    rw [List.mem_filter, List.mem_reverse]
    exact ⟨(mem_foldBy_iff _ _ _).2 folds, rfl⟩

theorem shown_page {refs : List RoundRef} {ref : RoundRef} (events : List RoundEvent)
    (asked : ref ∈ refs) :
    shown (project (pageOf refs events)) ref = shown (project events) ref := by
  have same : ((pageOf refs events).filter fun e => refOf e = ref) =
      events.filter fun e => refOf e = ref := by
    rw [pageOf, List.filter_filter]
    apply List.filter_congr
    intro e _
    by_cases here : refOf e = ref
    · simp [here, asked]
    · simp [here]
  rw [shown_project, shown_project, same]

/-- A position is of a round the page was asked for, and has events there. -/
theorem ref_of_position {refs : List RoundRef} {events : List RoundEvent} {p : AccountPosition}
    (member : p ∈ projectPositions capital (pageOf refs events) account) :
    p.ref ∈ refs ∧ ∃ e ∈ pageOf refs events, refOf e = p.ref := by
  have folds := mem_project_positions.1 member
  have some_event : (sliceStable Earlier (naming account (pageOf refs events))).filter
      (fun e => refOf e = p.ref) ≠ [] := by
    intro none
    rw [none] at folds
    cases folds
  obtain ⟨e, listed⟩ := List.exists_mem_of_ne_nil _ some_event
  obtain ⟨sorted, named⟩ := List.mem_filter.1 listed
  have paged : e ∈ pageOf refs events := List.mem_of_mem_filter (mem_sliceStable.1 sorted)
  have asked : refOf e ∈ refs := of_decide_eq_true (List.mem_filter.1 paged).2
  rw [of_decide_eq_true named] at asked
  exact ⟨asked, e, paged, of_decide_eq_true named⟩

theorem nodup_map_ref (events : List RoundEvent) :
    ((projectPositions capital events account).map AccountPosition.ref).Nodup := by
  have order : (projectPositions capital events account).Perm (held capital account events) :=
    perm_sliceStable _
  rw [(order.map AccountPosition.ref).nodup_iff, map_ref_held]
  exact (List.nodup_dedup _).filter _

/-- What folds to a stake in a round is a position there. -/
theorem staked_of_holding {events : List RoundEvent} {ref : RoundRef}
    (staked : (holdingOf (((sliceStable Earlier (naming account events)).filter
      fun e => refOf e = ref).foldl
        (fun found e => some (foldPosition capital account e found)) none)).staked = true) :
    ∃ p : AccountPosition, p.ref = ref ∧
      ((sliceStable Earlier (naming account events)).filter fun e => refOf e = ref).foldl
        (fun found e => some (foldPosition capital account e found)) none = some (p, true) := by
  cases folds : ((sliceStable Earlier (naming account events)).filter fun e => refOf e = ref).foldl
      (fun found e => some (foldPosition capital account e found)) none with
  | none =>
      rw [folds] at staked
      cases staked
  | some entry =>
      rw [folds] at staked
      have found : (ref, entry) ∈ folded capital account events := (mem_foldBy_iff _ _ _).2 folds
      exact ⟨entry.1, ref_of_mem_folded capital account found,
        congrArg some (Prod.ext rfl staked)⟩

/-- A position as it is rendered, beside the round it is in. -/
structure HeldAsOnChain {Account Rest : Type} [Zero Account] [DecidableEq Account]
    (x : Exchange Account Rest) (roundId : Nat) (user : Account) (p : AccountPosition)
    (round : Round) : Prop where
  upStake : p.upStake = x.market.stakeOf roundId user .up
  downStake : p.downStake = x.market.stakeOf roundId user .down
  claimed : p.claimed = x.market.claimed roundId user
  claimedAmount : p.claimedAmount = if x.market.claimed roundId user
    then (Market.entitlementOf x.market.toLedger roundId user : Int) else 0
  leveraged : p.leveraged = true ↔ Market.recipientOf x.market.toLedger roundId user ≠ user
  claimable : Finance.claimable ⟨p.upStake, p.downStake, p.claimed⟩ round.status round.winner
    round.upPool round.downPool round.rakeTaken =
      Market.claimableOf x.market.toLedger roundId user

section Runs

variable {Account Rest : Type} [Zero Account] [DecidableEq Account] {naming : Naming Account}
  {market : Address} {cfg : Market.Config Account Rest} {x : Exchange Account Rest}
  {logs : List (MarketLog naming capital)} {events : List RoundEvent} {refs : List RoundRef}
  {roundId : Nat} {user : Account}

omit [DecidableEq Account] in
/-- What a page folds for a round it was asked for. -/
theorem stream_of_page (asked : ⟨some market, roundId⟩ ∈ refs) :
    ((sliceStable Earlier (Ledger.naming (some (naming.name user)) (pageOf refs events))).filter
        fun e => refOf e = ⟨some market, roundId⟩) =
      sliceStable Earlier (events.filter (mine naming market roundId user)) := by
  have same : ((Ledger.naming (some (naming.name user)) (pageOf refs events)).filter
      fun e => refOf e = ⟨some market, roundId⟩) =
        events.filter (mine naming market roundId user) := by
    rw [Ledger.naming, pageOf, List.filter_filter, List.filter_filter]
    apply List.filter_congr
    intro e _
    by_cases here : refOf e = ⟨some market, roundId⟩
    · simp [mine, here, asked]
    · simp [mine, here]
  rw [filter_sliceStable, same]

theorem keeps_of_recorded (reached : (Market.machine cfg).Reachable x)
    (recorded : Recorded market x.market.logs logs events) (roundId : Nat) (user : Account) :
    Keeps x.market.logs x.market.toLedger roundId user
      (holdingOf ((sliceStable Earlier (events.filter (mine naming market roundId user))).foldl
        (fun found e => some (foldPosition capital (some (naming.name user)) e found)) none)) := by
  have history := history_of_recorded recorded (mine naming market roundId user)
    (fun e named => congrArg RoundRef.market (of_decide_eq_true named).2)
  have kept := keeps_of_logs market logs roundId user
  rw [recorded.announced, ← Market.rebuilt_of_reachable reached, ← history] at kept
  rw [holding_foldl]
  exact ⟨kept.upStake, kept.downStake, kept.claimed, kept.claimedAmount, kept.leveraged,
    kept.staked⟩

theorem stakes_announced [Fintype Account] (reached : (Market.machine cfg).Reachable x)
    (roundId : Nat) (user : Account) :
    stakesIn x.market.logs roundId user ≠ [] ↔
      Market.stakesOf x.market.toLedger roundId user ≠ 0 := by
  obtain ⟨kept, _⟩ := Market.kept_of_reachable reached
  constructor
  · intro listed
    obtain ⟨p, member⟩ := List.exists_mem_of_ne_nil _ listed
    obtain ⟨announced, named⟩ := List.mem_filter.1 member
    obtain ⟨sameRound, sameUser⟩ := of_decide_eq_true named
    rw [← sameRound, ← sameUser]
    exact (kept.sourced.positions p announced).1
  · intro staked unlisted
    apply staked
    have none (side : Market.Side) : x.market.stakeOf roundId user side = 0 := by
      have summed : x.market.stakeOf roundId user side =
          Market.stakedIn (x.market.logs.filterMap Market.Event.position) roundId user side :=
        kept.announced roundId user side
      have silent : ((x.market.logs.filterMap Market.Event.position).filter fun p =>
          p.roundId = roundId ∧ p.user = user ∧ p.side = side) = [] := by
        rw [List.filter_eq_nil_iff]
        intro p announced named
        obtain ⟨sameRound, sameUser, _⟩ := of_decide_eq_true named
        have member : p ∈ stakesIn x.market.logs roundId user :=
          List.mem_filter.2 ⟨announced, decide_eq_true ⟨sameRound, sameUser⟩⟩
        rw [unlisted] at member
        cases member
      rw [summed, Market.stakedIn, silent]
      rfl
    rw [Market.stakesOf, none, none]

/-- Whoever funds one stake of a user's in a round funds them all. -/
theorem funder_of_announced [Fintype Account] (reached : (Market.machine cfg).Reachable x)
    (staked : Market.stakesOf x.market.toLedger roundId user ≠ 0) :
    (∃ p ∈ stakesIn x.market.logs roundId user, p.funder ≠ user) ↔
      Market.recipientOf x.market.toLedger roundId user ≠ user := by
  have funded {p : Market.Position Account} (member : p ∈ stakesIn x.market.logs roundId user) :
      p.funder = Market.recipientOf x.market.toLedger roundId user := by
    obtain ⟨announced, named⟩ := List.mem_filter.1 member
    obtain ⟨sameRound, sameUser⟩ := of_decide_eq_true named
    rw [← sameRound, ← sameUser]
    exact ((Market.kept_of_reachable reached).1.sourced.positions p announced).2
  constructor
  · rintro ⟨p, member, other⟩
    rwa [funded member] at other
  · intro other
    obtain ⟨p, member⟩ :=
      List.exists_mem_of_ne_nil _ ((stakes_announced reached roundId user).2 staked)
    exact ⟨p, member, by rwa [funded member]⟩

theorem paid_announced [Fintype Account] (reached : (Market.machine cfg).Reachable x) :
    ((Market.paidTo (x.market.logs.filterMap Market.Event.payout) roundId user).sum : Nat) =
      if x.market.claimed roundId user
        then Market.entitlementOf x.market.toLedger roundId user else 0 := by
  have paid := (Market.kept_of_reachable reached).1.settled roundId user
  change Market.paidTo (x.market.logs.filterMap Market.Event.payout) roundId user =
    if x.market.claimed roundId user
      then [Market.entitlementOf x.market.toLedger roundId user] else [] at paid
  rw [paid]
  split_ifs
  · exact List.sum_singleton
  · rfl

/-- Only a resolved round is read for its winner and its rake. -/
theorem claimable_of_tells [Fintype Account] (reached : (Market.machine cfg).Reachable x)
    {round : Round} (tells : Tells round (x.market.rounds roundId)) :
    Finance.claimable ⟨x.market.stakeOf roundId user .up, x.market.stakeOf roundId user .down,
        x.market.claimed roundId user⟩ round.status round.winner round.upPool round.downPool
        round.rakeTaken = Market.claimableOf x.market.toLedger roundId user := by
  have sound := (Market.kept_of_reachable reached).1.sound.rounds roundId
  have equal := claimable_eq x.market.toLedger user sound
  rw [tells.status, tells.upPool, tells.downPool, ← equal]
  cases status : (x.market.rounds roundId).status with
  | resolved =>
      obtain ⟨_, winner, rakeTaken⟩ := tells.settled status
      rw [winner, rakeTaken]
  | none => rfl
  | «open» => rfl
  | locked => rfl
  | void => rfl

theorem held_as_on_chain [Fintype Account] (reached : (Market.machine cfg).Reachable x)
    (recorded : Recorded market x.market.logs logs events) {p : AccountPosition} {round : Round}
    (member : p ∈ projectPositions capital (pageOf refs events) (some (naming.name user)))
    (here : p.ref = ⟨some market, roundId⟩) (asked : p.ref ∈ refs)
    (told : shown (project (pageOf refs events)) p.ref = some round) :
    HeldAsOnChain x roundId user p round := by
  have folds := mem_project_positions.1 member
  rw [here] at folds asked told
  rw [stream_of_page asked] at folds
  have keeps := keeps_of_recorded reached recorded roundId user
  rw [folds] at keeps
  have staked := (stakes_announced reached roundId user).1 (keeps.staked.1 rfl)
  have tells := tells_of_recorded reached recorded roundId
  rw [← shown_page events asked, told] at tells
  have upStake : p.upStake = x.market.stakeOf roundId user .up := keeps.upStake
  have downStake : p.downStake = x.market.stakeOf roundId user .down := keeps.downStake
  have claimed : p.claimed = x.market.claimed roundId user := keeps.claimed
  refine ⟨upStake, downStake, claimed, ?_, ?_, ?_⟩
  · have paid : p.claimedAmount = _ := keeps.claimedAmount
    rw [paid, paid_announced reached]
    split_ifs
    · rfl
    · rfl
  · exact keeps.leveraged.trans (funder_of_announced reached staked)
  · rw [upStake, downStake, claimed]
    have owed : Finance.claimable _ _ _ _ _ _ =
        (Market.claimableOf x.market.toLedger roundId user : Int) :=
      claimable_of_tells reached tells
    exact owed

/-- A page of an account's positions has the rounds it was asked for in which
the account has staked, once each, and says of each what the market does. -/
theorem positions_as_on_chain [Fintype Account] (cfg : Market.Config Account Rest)
    (x : Exchange Account Rest) (reached : (Market.machine cfg).Reachable x)
    (logs : List (MarketLog naming capital)) (events : List RoundEvent)
    (recorded : Recorded market x.market.logs logs events) (refs : List RoundRef)
    (user : Account) :
    ((projectPositions capital (pageOf refs events) (some (naming.name user))).map
        AccountPosition.ref).Nodup ∧
      (∀ roundId, (∃ p ∈ projectPositions capital (pageOf refs events) (some (naming.name user)),
        p.ref = ⟨some market, roundId⟩) ↔
          ⟨some market, roundId⟩ ∈ refs ∧
            Market.stakesOf x.market.toLedger roundId user ≠ 0) ∧
      ∀ p ∈ projectPositions capital (pageOf refs events) (some (naming.name user)),
        p.market = some market →
          ∃ round, shown (project (pageOf refs events)) p.ref = some round ∧
            HeldAsOnChain x p.roundID user p round := by
  refine ⟨nodup_map_ref _, ?_, ?_⟩
  · intro roundId
    have keeps := keeps_of_recorded reached recorded roundId user
    rw [← stakes_announced reached, ← keeps.staked]
    constructor
    · rintro ⟨p, member, here⟩
      have asked := ref_of_position member
      have folds := mem_project_positions.1 member
      rw [here] at asked folds
      rw [stream_of_page asked.1] at folds
      rw [folds]
      exact ⟨asked.1, rfl⟩
    · rintro ⟨asked, staked⟩
      rw [← stream_of_page asked] at staked
      obtain ⟨p, here, folds⟩ := staked_of_holding staked
      refine ⟨p, mem_project_positions.2 ?_, here⟩
      rw [here]
      exact folds
  · intro p member owner
    have here : p.ref = ⟨some market, p.roundID⟩ := congrArg (RoundRef.mk · p.roundID) owner
    obtain ⟨asked, e, listed, named⟩ := ref_of_position member
    cases told : shown (project (pageOf refs events)) p.ref with
    | none => exact absurd named (shown_project_eq_none.1 told e listed)
    | some round => exact ⟨round, rfl, held_as_on_chain reached recorded member here asked told⟩

end Runs

/-- The winner of a round is shown what is left to collect. -/
theorem winning_position_as_on_chain :
    ∃ x p round, (Market.machine Market.smallMarket).Reachable x ∧
      Market.claimableOf x.market.toLedger 1 1 ≠ 0 ∧ HeldAsOnChain x 1 (1 : Fin 8) p round := by
  obtain ⟨x, reached, ⟨logs, recorded⟩, _, _, owed⟩ := settled_run_recorded
  obtain ⟨_, listed, agrees⟩ := positions_as_on_chain Market.smallMarket x reached logs _ recorded
    [⟨some (sampleName 7), 1⟩] 1
  have staked := Market.stakes_of_claimable owed
  obtain ⟨p, member, here⟩ := (listed 1).2 ⟨List.mem_singleton_self _, staked⟩
  obtain ⟨round, _, held⟩ := agrees p member (congrArg RoundRef.market here)
  have named : p.roundID = 1 := congrArg RoundRef.roundID here
  rw [named] at held
  exact ⟨x, p, round, reached, owed, held⟩

end Ledger

end Ghoststake
