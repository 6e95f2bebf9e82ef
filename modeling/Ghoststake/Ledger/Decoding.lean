import Ghoststake.Finance.Rounds
import Ghoststake.Ledger.Books
import Ghoststake.Ledger.Filing

/-!
# Rows of a market's logs

What the indexer derives from each log of a market, and the table of rows that
it keeps of one market among others.
-/

namespace Ghoststake

set_option autoImplicit false

open Checked StableSort

namespace Ledger

open Index

/-! ## The market's decoder -/

section Decoder

variable {Account : Type} [Zero Account] (naming : Naming Account)
  (capital : Address → Nat → Bool)

def accessEventText : AccessEvent Account → Text
  | .treasurySet _ _ => "TreasurySet".toList
  | .ownershipTransferred _ _ => "OwnershipTransferred".toList
  | .entriesPaused _ => "EntriesPaused".toList
  | .entriesUnpaused _ => "EntriesUnpaused".toList
  | .pauseGuardianTransferred _ _ => "PauseGuardianTransferred".toList

def marketEventText : Market.Event Account → Text
  | .roundOpened _ _ _ _ => EventName.roundOpened.text.toList
  | .roundStrikeSet _ _ => EventName.roundStrikeSet.text.toList
  | .positionTaken _ _ _ _ _ => EventName.positionTaken.text.toList
  | .roundLocked _ _ _ => EventName.roundLocked.text.toList
  | .roundResolved _ _ _ _ => EventName.roundResolved.text.toList
  | .roundVoided _ _ => EventName.roundVoided.text.toList
  | .claimed _ _ _ _ => EventName.claimed.text.toList
  | .routerSet _ _ => "RouterSet".toList
  | .feesWithdrawn _ _ => "FeesWithdrawn".toList
  | .access event => accessEventText event

def marketEventName : Market.Event Account → Option EventName
  | .roundOpened _ _ _ _ => some .roundOpened
  | .roundStrikeSet _ _ => some .roundStrikeSet
  | .positionTaken _ _ _ _ _ => some .positionTaken
  | .roundLocked _ _ _ => some .roundLocked
  | .roundResolved _ _ _ _ => some .roundResolved
  | .roundVoided _ _ => some .roundVoided
  | .claimed _ _ _ _ => some .claimed
  | .routerSet _ _ | .feesWithdrawn _ _ | .access _ => none

omit [Zero Account] in
/-- A projection knows no event of ownership or of pauses. -/
theorem event_named_access (event : AccessEvent Account) :
    eventNamed (accessEventText event) = none := by
  cases event with
  | treasurySet source target =>
      change eventNamed "TreasurySet".toList = none
      decide +kernel
  | ownershipTransferred previousOwner newOwner =>
      change eventNamed "OwnershipTransferred".toList = none
      decide +kernel
  | entriesPaused caller =>
      change eventNamed "EntriesPaused".toList = none
      decide +kernel
  | entriesUnpaused caller =>
      change eventNamed "EntriesUnpaused".toList = none
      decide +kernel
  | pauseGuardianTransferred source target =>
      change eventNamed "PauseGuardianTransferred".toList = none
      decide +kernel

omit [Zero Account] in
theorem event_named_market (event : Market.Event Account) :
    eventNamed (marketEventText event) = marketEventName event := by
  cases event with
  | routerSet router allowed =>
      change eventNamed "RouterSet".toList = none
      decide +kernel
  | feesWithdrawn target amount =>
      change eventNamed "FeesWithdrawn".toList = none
      decide +kernel
  | access event => exact event_named_access event
  | _ => exact event_named_text _

/-- Nothing where a field is missing or does not fit. -/
def decodeRound : Market.Event Account → Option (List RoundBody)
  | .roundOpened roundId openTime lockTime closeTime =>
      roundBatch roundId none [] none
        [("openTime", decimal openTime.val), ("lockTime", decimal lockTime.val),
          ("closeTime", decimal closeTime.val)]
  | .roundStrikeSet roundId strikePrice =>
      roundBatch roundId none [] none [("strikePrice", decimal strikePrice)]
  | .positionTaken roundId user side amount funder =>
      roundBatch roundId (some (naming.name user)) (Finance.sideText side) (some amount)
        [("funder", hex capital (naming.name funder))]
  | .roundLocked roundId lockPrice oracleRoundId =>
      roundBatch roundId none [] none
        [("lockPrice", decimal lockPrice), ("oracleRoundId", decimal oracleRoundId.val)]
  | .roundResolved roundId closePrice winner rakeTaken =>
      roundBatch roundId none [] none
        [("closePrice", decimal closePrice), ("winner", Finance.sideText winner),
          ("rakeTaken", decimal rakeTaken)]
  | .roundVoided roundId reason =>
      roundBatch roundId none [] none [("reason", reason.toList)]
  | .claimed roundId user amount recipient =>
      roundBatch roundId (some (naming.name user)) [] (some amount)
        [("recipient", hex capital (naming.name recipient))]
  | .routerSet _ _ | .feesWithdrawn _ _ | .access _ => some []

abbrev MarketLog : Type := SourceLog (decodeRound naming capital) (@marketEventText Account)

variable {naming capital}

/-- A record of a question, or of nothing a projection knows. -/
def Beside (e : RoundEvent) : Prop :=
  match eventNamed e.provenance.eventName with
  | some .roundOpened | some .roundStrikeSet | some .positionTaken | some .roundLocked
  | some .roundResolved | some .roundVoided | some .claimed => False
  | some .proposed | some .challenged | some .ruled | some .finalised | some .abandoned
  | some .marketSet | none => True

/-- The rows of the market are those of all of its logs, in any order and among
rows of other markets and of questions. -/
abbrev Recorded (market : Address) (announced : List (Market.Event Account))
    (logs : List (MarketLog naming capital)) (events : List RoundEvent) : Prop :=
  Tabled market (fun e => e.owner ≠ some market ∨ Beside e) announced logs events

/-! ## Rows in order -/

variable (naming capital) in
theorem single_round : Single (decodeRound naming capital) := by
  intro event bodies decoded
  cases event with
  | routerSet router allowed => exact .inl (Option.some.inj decoded).symm
  | feesWithdrawn target amount => exact .inl (Option.some.inj decoded).symm
  | access event => exact .inl (Option.some.inj decoded).symm
  | _ => exact .inr ⟨_, (round_batch_eq_some_iff.1 decoded).2⟩

instance : DecidablePred Beside := fun e => by
  unfold Beside
  split <;> infer_instance

theorem not_beside_of_mem_rows {market : Address} {logs : List (MarketLog naming capital)}
    {e : RoundEvent} (member : e ∈ rowsFiled market logs) : ¬Beside e := by
  obtain ⟨log, _, listed⟩ := List.mem_flatMap.1 member
  obtain ⟨i, body, derived, rfl⟩ := mem_rows listed
  have decoded := log.decoded
  have name : eventNamed log.provenance.eventName = marketEventName log.event := by
    rw [log.named, event_named_market]
  have silent (nothing : some [] = some log.bodies) : False := by
    rw [← Option.some.inj nothing] at derived
    cases derived
  simp only [Beside, name]
  cases event : log.event with
  | routerSet router allowed =>
      rw [event] at decoded
      exact (silent decoded).elim
  | feesWithdrawn target amount =>
      rw [event] at decoded
      exact (silent decoded).elim
  | access access =>
      rw [event] at decoded
      exact (silent decoded).elim
  | _ => exact id

/-- What the table holds of the market, in order and without the questions, is
what its logs say. -/
theorem history_of_recorded {market : Address} {announced : List (Market.Event Account)}
    {logs : List (MarketLog naming capital)} {events : List RoundEvent}
    (recorded : Recorded market announced logs events) (kept : RoundEvent → Bool)
    (own : ∀ e, kept e = true → e.owner = some market) :
    (sliceStable Earlier (events.filter kept)).filter (fun e => ¬Beside e) =
      (rowsFiled market logs).filter kept := by
  apply history_of_tabled recorded Beside kept
  · intro e member
    exact not_beside_of_mem_rows member
  · intro e taken apart
    exact apart.resolve_left (not_not.2 (own e taken))

end Decoder

end Ledger

end Ghoststake
