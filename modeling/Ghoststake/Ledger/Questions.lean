import Ghoststake.Index.Spelling
import Ghoststake.Ledger.Chronicle
import Ghoststake.Oracle.Finality
import Ghoststake.Oracle.Minutes

/-!
# Questions read from their rows

What the indexer derives from each event of a question's oracle, and that the
projection of the round it settles says of the question what its contract does.
-/

namespace Ghoststake

set_option autoImplicit false

open KeyedFold StableSort

namespace Ledger

open Index

/-! ## The oracle's decoder -/

/-- `common.BytesToHash(v[:]).Hex()`. -/
def digestText (digest : Nat) : Text :=
  '0' :: 'x' :: List.ofFn fun i : Fin 64 => lowerDigit (Fin.ofNat 16 (digest / 16 ^ (63 - i.val)))

/-- `OutcomeFromEnum`, of the values the enum has. -/
def outcomeText : EventOracle.EventOutcome → Text
  | .none => "none".toList
  | .yes => "yes".toList
  | .no => "no".toList

def lifecycleOf : EventState → QuestionLifecycle
  | .open => .open
  | .proposed => .proposed
  | .challenged => .challenged
  | .final => .final
  | .abandoned => .abandoned

section Decoder

variable {Account : Type} [Zero Account]

def questionEventName : EventOracle.Event Account → Option EventName
  | .proposed _ _ _ _ _ _ => some .proposed
  | .challenged _ _ => some .challenged
  | .ruled _ _ _ _ => some .ruled
  | .finalised _ => some .finalised
  | .abandoned _ => some .abandoned
  | .marketSet _ _ => some .marketSet
  | .arbiterSet _ _ | .access _ => none

def questionEventText : EventOracle.Event Account → Text
  | .proposed _ _ _ _ _ _ => EventName.proposed.text.toList
  | .challenged _ _ => EventName.challenged.text.toList
  | .ruled _ _ _ _ => EventName.ruled.text.toList
  | .finalised _ => EventName.finalised.text.toList
  | .abandoned _ => EventName.abandoned.text.toList
  | .marketSet _ _ => EventName.marketSet.text.toList
  | .arbiterSet _ _ => "ArbiterSet".toList
  | .access event => accessEventText event

omit [Zero Account] in
theorem event_named_question (event : EventOracle.Event Account) :
    eventNamed (questionEventText event) = questionEventName event := by
  cases event with
  | arbiterSet previous next =>
      change eventNamed "ArbiterSet".toList = none
      decide +kernel
  | access event => exact event_named_access event
  | _ => exact event_named_text _

def questionBatch (o : Index.EventOracle) (account : Option Address)
    (fields : List (String × Text)) : List RoundBody :=
  [{ roundID := o.roundID, account, side := [], amount := none, data := dataOf fields }]

variable (naming : Naming Account) (capital : Address → Nat → Bool) (o : Index.EventOracle)

/-- Nothing where the oracle names another round than the configured one. -/
def decodeEventOracle : EventOracle.Event Account → Option (List RoundBody)
  | .marketSet market roundId =>
      if equalFold (hex capital (naming.name market)) o.market = false ∨
          roundIDField roundId ≠ some o.roundID then none
      else some (questionBatch o none [("oracle", o.oracle)])
  | .proposed proposer outcome evidenceURI evidenceDigest proposerStake challengeClosesAt =>
      some (questionBatch o (some (naming.name proposer))
        [("outcome", outcomeText outcome), ("evidenceURI", evidenceURI.toList),
          ("evidenceDigest", digestText evidenceDigest), ("proposerStake", decimal proposerStake),
          ("challengeClosesAt", decimal challengeClosesAt.val)])
  | .challenged challenger rulingDueAt =>
      some (questionBatch o (some (naming.name challenger))
        [("rulingDueAt", decimal rulingDueAt.val)])
  | .ruled arbiter outcome paid reasonURI =>
      some (questionBatch o (some (naming.name arbiter))
        [("outcome", outcomeText outcome), ("paid", hex capital (naming.name paid)),
          ("reasonURI", reasonURI.toList)])
  | .finalised outcome => some (questionBatch o none [("outcome", outcomeText outcome)])
  | .abandoned time => some (questionBatch o none [("at", decimal time.val)])
  | .arbiterSet _ _ | .access _ => some []

variable {naming capital o}

theorem decode_market_set_iff {market : Account} {roundId : Nat} {bodies : List RoundBody} :
    decodeEventOracle naming capital o (.marketSet market roundId) = some bodies ↔
      (equalFold (hex capital (naming.name market)) o.market = true ∧
        roundIDField roundId = some o.roundID) ∧
          bodies = questionBatch o none [("oracle", o.oracle)] := by
  simp only [decodeEventOracle]
  split_ifs with mismatch
  · refine iff_of_false (by simp) ?_
    rintro ⟨⟨same, sameRound⟩, _⟩
    rcases mismatch with other | other
    · rw [same] at other
      cases other
    · exact other sameRound
  · rw [not_or, not_not, Bool.not_eq_false] at mismatch
    rw [Option.some.injEq, and_iff_right mismatch, eq_comm]

abbrev QuestionLog (naming : Naming Account) (capital : Address → Nat → Bool)
    (o : Index.EventOracle) : Type :=
  SourceLog (decodeEventOracle naming capital o) (@questionEventText Account)

/-- A record of a market, or of nothing a projection knows. -/
def Plain (e : RoundEvent) : Prop :=
  match eventNamed e.provenance.eventName with
  | some .proposed | some .challenged | some .ruled | some .finalised | some .abandoned
  | some .marketSet => False
  | some .roundOpened | some .roundStrikeSet | some .positionTaken | some .roundLocked
  | some .roundResolved | some .roundVoided | some .claimed | none => True

instance : DecidablePred Plain := fun e =>
  match name : eventNamed e.provenance.eventName with
  | some .proposed | some .challenged | some .ruled | some .finalised | some .abandoned
  | some .marketSet => isFalse fun plain => by simp only [Plain, name] at plain
  | some .roundOpened | some .roundStrikeSet | some .positionTaken | some .roundLocked
  | some .roundResolved | some .roundVoided | some .claimed | none =>
      isTrue (by simp only [Plain, name])

def refOfOracle (o : Index.EventOracle) : RoundRef := ⟨some (hexToAddress o.market), o.roundID⟩

/-- The rows of the question are those of all of its logs, in any order and
among rows of markets and of other questions. -/
abbrev Heard (announced : List (EventOracle.Event Account))
    (logs : List (QuestionLog naming capital o)) (events : List RoundEvent) : Prop :=
  Tabled (hexToAddress o.market) (fun e => refOf e ≠ refOfOracle o ∨ Plain e) announced logs events

variable (naming capital o) in
theorem single_question : Single (decodeEventOracle naming capital o) := by
  intro event bodies decoded
  cases event with
  | marketSet market roundId =>
      exact .inr ⟨_, (decode_market_set_iff.1 decoded).2⟩
  | arbiterSet previous next => exact .inl (Option.some.inj decoded).symm
  | access event => exact .inl (Option.some.inj decoded).symm
  | _ => exact .inr ⟨_, (Option.some.inj decoded).symm⟩

theorem round_of_question {event : EventOracle.Event Account} {bodies : List RoundBody}
    {body : RoundBody} (decoded : decodeEventOracle naming capital o event = some bodies)
    (member : body ∈ bodies) :
    body.roundID = o.roundID ∧ questionEventName event ≠ none := by
  have filed {account : Option Address} {fields : List (String × Text)}
      (batch : some (questionBatch o account fields) = some bodies) : body.roundID = o.roundID := by
    rw [← Option.some.inj batch] at member
    rw [List.mem_singleton.1 member]
  have silent (nothing : some [] = some bodies) : False := by
    rw [← Option.some.inj nothing] at member
    cases member
  cases event with
  | marketSet market roundId =>
      exact ⟨filed (congrArg some (decode_market_set_iff.1 decoded).2.symm), Option.some_ne_none _⟩
  | arbiterSet previous next => exact (silent decoded).elim
  | access event => exact (silent decoded).elim
  | _ => exact ⟨filed decoded, Option.some_ne_none _⟩

theorem not_plain_of_mem_rows {logs : List (QuestionLog naming capital o)} {e : RoundEvent}
    (member : e ∈ rowsFiled (hexToAddress o.market) logs) :
    ¬Plain e ∧ refOf e = refOfOracle o := by
  obtain ⟨log, _, listed⟩ := List.mem_flatMap.1 member
  obtain ⟨i, body, derived, rfl⟩ := mem_rows listed
  obtain ⟨filed, known⟩ := round_of_question log.decoded derived
  have name : eventNamed log.provenance.eventName = questionEventName log.event := by
    rw [log.named, event_named_question]
  refine ⟨?_, congrArg (RoundRef.mk _) filed⟩
  simp only [Plain, name]
  cases event : log.event with
  | arbiterSet previous next =>
      rw [event] at known
      exact absurd rfl known
  | access event' =>
      rw [event] at known
      exact absurd rfl known
  | _ => exact id

/-! ## A round's question -/

def questionOf (found : Option Round) : Option QuestionState := found.bind Round.question

def applyQuestion (q : Option QuestionState) (e : RoundEvent) : Option QuestionState :=
  (applyRoundEvent { blank with question := q } e).question

theorem question_apply (r : Round) (e : RoundEvent) :
    (applyRoundEvent r e).question = applyQuestion r.question e := by
  unfold applyQuestion applyRoundEvent
  cases eventNamed e.provenance.eventName with
  | none => rfl
  | some name =>
      cases name with
      | positionTaken =>
          cases e.body.amount with
          | none => rfl
          | some amount =>
              simp only [Round.staked]
              split_ifs
              · rfl
              · rfl
              · rfl
      | _ => rfl

theorem question_fold_round (e : RoundEvent) (found : Option Round) :
    questionOf (some (foldRound e found)) = applyQuestion (questionOf found) e := by
  have raised (r : Round) : (r.raised e).question = r.question := by
    unfold Round.raised
    split_ifs
    · rfl
    · rfl
  rw [questionOf, Option.bind_some, foldRound, question_apply, raised]
  cases found with
  | none => rfl
  | some r => rfl

theorem apply_question_plain {e : RoundEvent} (plain : Plain e) (q : Option QuestionState) :
    applyQuestion q e = q := by
  unfold applyQuestion applyRoundEvent
  unfold Plain at plain
  cases name : eventNamed e.provenance.eventName with
  | none => rfl
  | some known =>
      rw [name] at plain
      cases known with
      | positionTaken =>
          cases e.body.amount with
          | none => rfl
          | some amount =>
              simp only [Round.staked]
              split_ifs
              · rfl
              · rfl
              · rfl
      | proposed => exact plain.elim
      | challenged => exact plain.elim
      | ruled => exact plain.elim
      | finalised => exact plain.elim
      | abandoned => exact plain.elim
      | marketSet => exact plain.elim
      | _ => rfl

theorem question_foldl (events : List RoundEvent) :
    questionOf (events.foldl (fun found e => some (foldRound e found)) none) =
      (events.filter fun e => ¬Plain e).foldl applyQuestion none := by
  apply image_foldl questionOf applyQuestion _ fun _ => True
  · exact fun _ _ _ => trivial
  · exact fun e found _ _ => question_fold_round e found
  · intro e found _ plain
    rw [question_fold_round, apply_question_plain (by simpa using plain)]
  · trivial

/-! ## One log -/

open EventOracle in
structure Recounts (naming : Naming Account) (capital : Address → Nat → Bool)
    (o : Index.EventOracle) (minutes : Minutes Account) (asked : Option QuestionState)
    (q : QuestionState) : Prop where
  unasked : asked = none ↔
    minutes.state = .open ∧ minutes.outcome = none ∧ minutes.market = none
  oracle : q.oracle = minutes.market.elim [] fun _ => o.oracle
  state : q.state = lifecycleOf minutes.state
  outcome : q.outcome = minutes.outcome.elim [] outcomeText
  proposer : q.proposer = minutes.claim.map fun claim => naming.name claim.proposer
  evidenceURI : q.evidenceURI = minutes.claim.elim [] (·.evidenceURI.toList)
  evidenceDigest : q.evidenceDigest = minutes.claim.elim [] fun c => digestText c.evidenceDigest
  proposerStake : q.proposerStake = minutes.claim.map fun claim => (claim.proposerStake : Int)
  challengeClosesAt : q.challengeClosesAt =
    minutes.claim.elim zeroTime fun claim => unixOf claim.challengeClosesAt
  challenger : q.challenger = minutes.contest.map fun contest => naming.name contest.challenger
  rulingDueAt : q.rulingDueAt =
    minutes.contest.elim zeroTime fun contest => unixOf contest.rulingDueAt
  arbiter : q.arbiter = minutes.ruling.map fun ruling => naming.name ruling.arbiter
  paidTo : q.paidTo = minutes.ruling.elim [] fun ruling => hex capital (naming.name ruling.paid)
  reasonURI : q.reasonURI = minutes.ruling.elim [] (·.reasonURI.toList)
  /-- The oracle's own copy of the round is the configured one. -/
  market : ∀ named ∈ minutes.market, refOfOracle o = ⟨some (naming.name named.1), named.2⟩

def Recalls (naming : Naming Account) (capital : Address → Nat → Bool) (o : Index.EventOracle)
    (minutes : EventOracle.Minutes Account) (asked : Option QuestionState) : Prop :=
  Recounts naming capital o minutes asked (asked.getD newQuestion)

theorem recalls_blank : Recalls naming capital o .blank none := by
  constructor
  · exact iff_of_true rfl ⟨rfl, rfl, rfl⟩
  all_goals first | rfl | skip
  intro named told
  cases told

theorem body_of_question {body : RoundBody} {account : Option Address}
    {fields : List (String × Text)}
    (batch : some (questionBatch o account fields) = some [body]) :
    body.account = account ∧ body.data = dataOf fields := by
  have only := (List.cons.inj (Option.some.inj batch)).1
  rw [← only]
  exact ⟨rfl, rfl⟩

theorem apply_question_asking {e : RoundEvent} {change : QuestionState → QuestionState}
    (asks : ∀ r, applyRoundEvent r e = r.asking change) (asked : Option QuestionState) :
    applyQuestion asked e = some (change (asked.getD newQuestion)) := by
  rw [applyQuestion, asks]
  rfl

theorem recalls_of_proposed {e : RoundEvent} {minutes : EventOracle.Minutes Account}
    {asked : Option QuestionState} {proposer : Account} {outcome : EventOracle.EventOutcome}
    {evidenceURI : String} {evidenceDigest proposerStake : Nat} {challengeClosesAt : Uint64}
    (decoded : decodeEventOracle naming capital o (.proposed proposer outcome evidenceURI
      evidenceDigest proposerStake challengeClosesAt) = some [e.body])
    (named : eventNamed e.provenance.eventName = some .proposed)
    (recalls : Recalls naming capital o minutes asked) :
    Recalls naming capital o (minutes.note (.proposed proposer outcome evidenceURI
      evidenceDigest proposerStake challengeClosesAt)) (applyQuestion asked e) := by
  obtain ⟨account, data⟩ := body_of_question decoded
  have told : field e.body.data "outcome" = outcomeText outcome := by simp [data]
  have evidence : field e.body.data "evidenceURI" = evidenceURI.toList := by
    simp [data, field_next]
  have digest : field e.body.data "evidenceDigest" = digestText evidenceDigest := by
    simp [data, field_next]
  have stake : bigField e.body.data "proposerStake" = some (proposerStake : Int) := by
    apply big_field_of_decimal
    simp [data, field_next]
  have closes : unixField e.body.data "challengeClosesAt" = unixOf challengeClosesAt := by
    apply unix_field_of_decimal
    simp [data, field_next]
  have asks (r : Round) : applyRoundEvent r e = r.asking fun q =>
      { q with
        state := .proposed
        proposer := e.body.account
        outcome := field e.body.data "outcome"
        evidenceURI := field e.body.data "evidenceURI"
        evidenceDigest := field e.body.data "evidenceDigest"
        proposerStake := bigField e.body.data "proposerStake"
        challengeClosesAt := unixField e.body.data "challengeClosesAt"
        proposedAt := e.provenance.blockTime } := by
    rw [applyRoundEvent, named]
  rw [Recalls, apply_question_asking asks, Option.getD_some, closes]
  refine ⟨iff_of_false (Option.some_ne_none _) (fun both => by cases both.1), recalls.oracle, rfl,
    told, account, evidence, digest, stake, ?_, recalls.challenger, recalls.rulingDueAt,
    recalls.arbiter, recalls.paidTo, recalls.reasonURI, recalls.market⟩
  change _ = Option.elim (some _) _ _
  rw [Option.elim_some]

/-- One record moves the projected question as its event moves the minutes. -/
theorem recalls_of_event {event : EventOracle.Event Account} {e : RoundEvent}
    {minutes : EventOracle.Minutes Account} {asked : Option QuestionState}
    (decoded : decodeEventOracle naming capital o event = some [e.body])
    (named : eventNamed e.provenance.eventName = questionEventName event)
    (recalls : Recalls naming capital o minutes asked) :
    Recalls naming capital o (minutes.note event) (applyQuestion asked e) := by
  cases event with
  | proposed => exact recalls_of_proposed decoded named recalls
  | challenged challenger rulingDueAt =>
      obtain ⟨account, data⟩ := body_of_question decoded
      have due : unixField e.body.data "rulingDueAt" = unixOf rulingDueAt := by
        apply unix_field_of_decimal
        simp [data]
      have asks (r : Round) : applyRoundEvent r e = r.asking fun q =>
          { q with
            state := .challenged
            challenger := e.body.account
            rulingDueAt := unixField e.body.data "rulingDueAt"
            challengedAt := e.provenance.blockTime } := by
        rw [applyRoundEvent, named]
        rfl
      rw [Recalls, apply_question_asking asks, Option.getD_some, due]
      refine ⟨iff_of_false (Option.some_ne_none _) (fun both => by cases both.1), recalls.oracle,
        rfl, recalls.outcome, recalls.proposer, recalls.evidenceURI, recalls.evidenceDigest,
        recalls.proposerStake, recalls.challengeClosesAt, account, ?_, recalls.arbiter,
        recalls.paidTo, recalls.reasonURI, recalls.market⟩
      change _ = Option.elim (some _) _ _
      rw [Option.elim_some]
  | ruled arbiter outcome paid reasonURI =>
      obtain ⟨account, data⟩ := body_of_question decoded
      have told : field e.body.data "outcome" = outcomeText outcome := by simp [data]
      have pays : field e.body.data "paid" = hex capital (naming.name paid) := by
        simp [data, field_next]
      have reason : field e.body.data "reasonURI" = reasonURI.toList := by
        simp [data, field_next]
      unfold applyQuestion applyRoundEvent
      rw [named]
      exact ⟨iff_of_false (Option.some_ne_none _) (fun both => by cases both.2.1), recalls.oracle,
        recalls.state, told, recalls.proposer, recalls.evidenceURI, recalls.evidenceDigest,
        recalls.proposerStake, recalls.challengeClosesAt, recalls.challenger,
        recalls.rulingDueAt, account, pays, reason, recalls.market⟩
  | finalised outcome =>
      obtain ⟨account, data⟩ := body_of_question decoded
      have told : field e.body.data "outcome" = outcomeText outcome := by simp [data]
      unfold applyQuestion applyRoundEvent
      rw [named]
      exact ⟨iff_of_false (Option.some_ne_none _) (fun both => by cases both.1), recalls.oracle, rfl,
        told, recalls.proposer, recalls.evidenceURI, recalls.evidenceDigest,
        recalls.proposerStake, recalls.challengeClosesAt, recalls.challenger,
        recalls.rulingDueAt, recalls.arbiter, recalls.paidTo, recalls.reasonURI, recalls.market⟩
  | abandoned time =>
      unfold applyQuestion applyRoundEvent
      rw [named]
      exact ⟨iff_of_false (Option.some_ne_none _) (fun both => by cases both.1), recalls.oracle, rfl,
        recalls.outcome, recalls.proposer, recalls.evidenceURI, recalls.evidenceDigest,
        recalls.proposerStake, recalls.challengeClosesAt, recalls.challenger,
        recalls.rulingDueAt, recalls.arbiter, recalls.paidTo, recalls.reasonURI, recalls.market⟩
  | marketSet market roundId =>
      obtain ⟨⟨sameMarket, sameRound⟩, batch⟩ := decode_market_set_iff.1 decoded
      obtain ⟨_, data⟩ := body_of_question (congrArg some batch.symm)
      have told : field e.body.data "oracle" = o.oracle := by simp [data]
      unfold applyQuestion applyRoundEvent
      rw [named]
      refine ⟨iff_of_false (Option.some_ne_none _) (fun both => by cases both.2.2), told,
        recalls.state, recalls.outcome, recalls.proposer, recalls.evidenceURI,
        recalls.evidenceDigest, recalls.proposerStake, recalls.challengeClosesAt,
        recalls.challenger, recalls.rulingDueAt, recalls.arbiter, recalls.paidTo,
        recalls.reasonURI, ?_⟩
      intro pair told
      rw [← Option.mem_some.1 told, refOfOracle, hex_to_address_of_fold sameMarket]
      unfold roundIDField at sameRound
      split_ifs at sameRound
      rw [← Option.some.inj sameRound]
  | arbiterSet previous next => cases decoded
  | access event => cases decoded

/-- One log moves the projected question as it moves the minutes. -/
theorem recalls_of_log (log : QuestionLog naming capital o)
    {minutes : EventOracle.Minutes Account} {asked : Option QuestionState}
    (recalls : Recalls naming capital o minutes asked) :
    Recalls naming capital o (minutes.note log.event)
      ((log.rows (hexToAddress o.market)).foldl applyQuestion asked) := by
  have decoded := log.decoded
  rcases single_question naming capital o log.event log.bodies log.decoded with none | ⟨body, one⟩
  · have still : minutes.note log.event = minutes := by
      rw [none] at decoded
      cases event : log.event with
      | arbiterSet previous next => rfl
      | access access => rfl
      | marketSet market roundId =>
          rw [event] at decoded
          cases (decode_market_set_iff.1 decoded).2
      | _ =>
          rw [event] at decoded
          cases decoded
    rw [SourceLog.rows, none, still]
    exact recalls
  · rw [rows_one one]
    have named : eventNamed (rowOf (hexToAddress o.market) log body).provenance.eventName =
        questionEventName log.event := by
      rw [← event_named_question, ← log.named]
      rfl
    rw [one] at decoded
    exact recalls_of_event decoded named recalls

theorem recalls_of_logs (logs : List (QuestionLog naming capital o)) :
    Recalls naming capital o (EventOracle.minutesOf (logs.map (·.event)))
      ((rowsFiled (hexToAddress o.market) logs).foldl applyQuestion none) := by
  induction logs using List.reverseRecOn with
  | nil => exact recalls_blank
  | append_singleton rest log ih =>
      rw [rows_filed_append, List.foldl_append, List.map_append]
      have noted : EventOracle.minutesOf (rest.map (·.event) ++ [log].map (·.event)) =
          (EventOracle.minutesOf (rest.map (·.event))).note log.event :=
        EventOracle.minutes_of_append _ _
      rw [noted]
      exact recalls_of_log log ih

theorem recalls_of_heard {announced : List (EventOracle.Event Account)}
    {logs : List (QuestionLog naming capital o)} {events : List RoundEvent}
    (heard : Heard announced logs events) :
    Recalls naming capital o (EventOracle.minutesOf announced)
      (questionOf (shown (project events) (refOfOracle o))) := by
  have history := history_of_tabled heard Plain (fun e => refOf e = refOfOracle o)
    (fun e member => (not_plain_of_mem_rows member).1)
    (fun e named apart => apart.resolve_left (not_not.2 (of_decide_eq_true named)))
  have whole : (rowsFiled (hexToAddress o.market) logs).filter (fun e => refOf e = refOfOracle o) =
      rowsFiled (hexToAddress o.market) logs := by
    rw [List.filter_eq_self]
    exact fun e member => decide_eq_true (not_plain_of_mem_rows member).2
  rw [shown_project, question_foldl, history, whole, ← heard.announced]
  exact recalls_of_logs logs

/-! ## The question itself -/

open EventOracle in
structure QuestionAsOnChain [DecidableEq Account] (naming : Naming Account)
    (capital : Address → Nat → Bool) (o : Index.EventOracle) (cfg : EventOracle.Config Account)
    (oracle : State Account) (q : QuestionState) : Prop where
  named : q.oracle = if oracle.market = 0 then [] else o.oracle
  state : q.state = lifecycleOf oracle.state
  outcome : q.outcome = if oracle.state = .open then [] else outcomeText (standing oracle)
  proposer : q.proposer =
    if oracle.state = .open then none else some (naming.name oracle.proposer)
  evidenceURI : q.evidenceURI = if oracle.state = .open then [] else oracle.evidenceURI.toList
  evidenceDigest : q.evidenceDigest =
    if oracle.state = .open then [] else digestText oracle.evidenceDigest
  proposerStake : q.proposerStake =
    if oracle.state = .open then none else some (oracle.proposerStake : Int)
  challengeClosesAt : q.challengeClosesAt = if oracle.state = .open then zeroTime
    else (oracle.proposedAt.val + cfg.challengeWindow.val : Nat)
  challenger : q.challenger =
    if oracle.challenger = 0 then none else some (naming.name oracle.challenger)
  rulingDueAt : q.rulingDueAt = if oracle.challenger = 0 then zeroTime
    else (oracle.challengedAt.val + cfg.rulingDeadline.val : Nat)
  arbiter : q.arbiter = if oracle.state = .final ∧ oracle.challenger ≠ 0
    then some (naming.name oracle.arbiter) else none
  paidTo : q.paidTo = if oracle.state = .final ∧ oracle.challenger ≠ 0
    then hex capital (naming.name (paidBy oracle oracle.outcome)) else []

section Runs

variable [DecidableEq Account] {cfg : EventOracle.Config Account} {h : Hearing Account}

section Storage

variable {minutes : EventOracle.Minutes Account} (minuted : EventOracle.Minuted cfg minutes h.oracle)
include minuted

theorem claim_of_minuted (fits : h.oracle.state ≠ .open →
    h.oracle.proposedAt.val + cfg.challengeWindow.val < 2 ^ 63) :
    ∃ closesAt : Uint64, (h.oracle.state ≠ .open →
      unixOf closesAt = (h.oracle.proposedAt.val + cfg.challengeWindow.val : Nat)) ∧
        minutes.claim = if h.oracle.state = .open then none
          else some ⟨h.oracle.proposer, h.oracle.evidenceURI, h.oracle.evidenceDigest,
            h.oracle.proposerStake, closesAt⟩ := by
  by_cases fresh : h.oracle.state = .open
  · refine ⟨Uint64.zero, fun began => absurd fresh began, ?_⟩
    rw [if_pos fresh]
    exact minuted.unclaimed fresh
  · obtain ⟨closesAt, sum, told⟩ := minuted.claimed fresh
    refine ⟨closesAt, fun _ => ?_, ?_⟩
    · rw [unix_of_fits (sum ▸ fits fresh), sum]
    · rw [if_neg fresh]
      exact told

theorem contest_of_minuted (fits : h.oracle.challenger ≠ 0 →
    h.oracle.challengedAt.val + cfg.rulingDeadline.val < 2 ^ 63) :
    ∃ dueAt : Uint64, (h.oracle.challenger ≠ 0 →
      unixOf dueAt = (h.oracle.challengedAt.val + cfg.rulingDeadline.val : Nat)) ∧
        minutes.contest =
          if h.oracle.challenger = 0 then none else some ⟨h.oracle.challenger, dueAt⟩ := by
  by_cases nobody : h.oracle.challenger = 0
  · refine ⟨Uint64.zero, fun live => absurd nobody live, ?_⟩
    rw [if_pos nobody]
    exact minuted.uncontested nobody
  · obtain ⟨dueAt, sum, told⟩ := minuted.contested nobody
    refine ⟨dueAt, fun _ => ?_, ?_⟩
    · rw [unix_of_fits (sum ▸ fits nobody), sum]
    · rw [if_neg nobody]
      exact told

theorem ruling_of_minuted :
    ∃ reasonURI, minutes.ruling = if h.oracle.state = .final ∧ h.oracle.challenger ≠ 0
      then some ⟨h.oracle.arbiter, EventOracle.paidBy h.oracle h.oracle.outcome, reasonURI⟩
      else none := by
  by_cases closed : h.oracle.state = .final ∧ h.oracle.challenger ≠ 0
  · obtain ⟨reasonURI, told⟩ := minuted.ruled closed.1 closed.2
    exact ⟨reasonURI, told.trans (if_pos closed).symm⟩
  · have unruled : minutes.ruling = none := by
      apply minuted.unruled
      rwa [not_and_or, not_not] at closed
    exact ⟨"", unruled.trans (if_neg closed).symm⟩

theorem question_of_recalls {q : QuestionState}
    (recalls : Recalls naming capital o minutes (some q))
    (closesFits : h.oracle.state ≠ .open →
      h.oracle.proposedAt.val + cfg.challengeWindow.val < 2 ^ 63)
    (dueFits : h.oracle.challenger ≠ 0 →
      h.oracle.challengedAt.val + cfg.rulingDeadline.val < 2 ^ 63) :
    QuestionAsOnChain naming capital o cfg h.oracle q := by
  have recounts : Recounts naming capital o minutes (some q) q := recalls
  obtain ⟨closesAt, closes, claim⟩ := claim_of_minuted minuted closesFits
  obtain ⟨dueAt, due, contest⟩ := contest_of_minuted minuted dueFits
  obtain ⟨reasonURI, ruling⟩ := ruling_of_minuted minuted
  constructor
  · rw [recounts.oracle, minuted.market]
    split_ifs
    · rfl
    · rfl
  · rw [recounts.state, minuted.state]
  · rw [recounts.outcome, minuted.outcome]
    split_ifs
    · rfl
    · rfl
  · rw [recounts.proposer, claim]
    split_ifs
    · rfl
    · rfl
  · rw [recounts.evidenceURI, claim]
    split_ifs
    · rfl
    · rfl
  · rw [recounts.evidenceDigest, claim]
    split_ifs
    · rfl
    · rfl
  · rw [recounts.proposerStake, claim]
    split_ifs
    · rfl
    · rfl
  · rw [recounts.challengeClosesAt, claim]
    split_ifs with fresh
    · rw [Option.elim_none]
    · rw [Option.elim_some, closes fresh]
  · rw [recounts.challenger, contest]
    split_ifs
    · rfl
    · rfl
  · rw [recounts.rulingDueAt, contest]
    split_ifs with nobody
    · rw [Option.elim_none]
    · rw [Option.elim_some, due nobody]
  · rw [recounts.arbiter, ruling]
    split_ifs
    · rfl
    · rfl
  · rw [recounts.paidTo, ruling]
    split_ifs
    · rfl
    · rfl

end Storage

/-- In every run of a question's oracle, the question projected for the round it
is configured for is the contract's: there is one as soon as anything was
claimed or the round was named, the round named is the configured one, and
where it stands, what it answers, who claimed and who challenged and the two
deadlines are those of the contract. -/
theorem question_as_on_chain (cfg : EventOracle.Config Account) (h : Hearing Account)
    (reached : (EventOracle.machine cfg).Reachable h) (logs : List (QuestionLog naming capital o))
    (events : List RoundEvent) (heard : Heard h.oracle.logs logs events)
    (closesFits : h.oracle.state ≠ .open →
      h.oracle.proposedAt.val + cfg.challengeWindow.val < 2 ^ 63)
    (dueFits : h.oracle.challenger ≠ 0 →
      h.oracle.challengedAt.val + cfg.rulingDeadline.val < 2 ^ 63) :
    (questionOf (shown (project events) (refOfOracle o)) = none ↔
      h.oracle.state = .open ∧ h.oracle.market = 0) ∧
    (h.oracle.market ≠ 0 →
      refOfOracle o = ⟨some (naming.name h.oracle.market), h.oracle.marketRoundId⟩) ∧
    ∀ q, questionOf (shown (project events) (refOfOracle o)) = some q →
      QuestionAsOnChain naming capital o cfg h.oracle q := by
  have minuted := EventOracle.minuted_of_reachable reached
  have recalls := recalls_of_heard heard
  refine ⟨?_, ?_, ?_⟩
  · have unasked := recalls.unasked
    rw [minuted.state, minuted.outcome, minuted.market] at unasked
    rw [unasked]
    by_cases fresh : h.oracle.state = .open
    · by_cases unnamed : h.oracle.market = 0
      · simp [fresh, unnamed]
      · simp [unnamed]
    · simp [fresh]
  · intro live
    have told : (h.oracle.market, h.oracle.marketRoundId) ∈
        (EventOracle.minutesOf h.oracle.logs).market := by
      rw [minuted.market, if_neg live]
      rfl
    exact recalls.market _ told
  · intro q asked
    rw [asked] at recalls
    exact question_of_recalls minuted recalls closesFits dueFits

end Runs

end Decoder

/-! ## A disputed question -/

section Sample

open EventOracle

/-- An entry of the configuration for the first round of a market. -/
def sampleOracle : Index.EventOracle where
  oracle := lowerHex (sampleName 7)
  market := lowerHex (sampleName 4)
  roundID := 1
  raw := []
  malformed := []

/-- One says yes, two disagrees, and the arbiter rules for two. -/
def ruledRun : List (Action (Fin 8)) :=
  [.question 6 (.setMarket 4 1), .question 1 (.propose .yes "" 1 none none),
    .question 2 .challenge, .question 5 (.rule .no "")]

theorem ruled_question_as_on_chain :
    ∃ h q, (machine smallQuestion).Reachable h ∧ h.oracle.state = .final ∧
      h.oracle.challenger = 2 ∧ q.outcome = outcomeText .no ∧
      QuestionAsOnChain sampleNaming (fun _ _ => false) sampleOracle smallQuestion h.oracle q := by
  obtain ⟨h, reached, checked⟩ := reachable_of_actions ruledRun
    (fun h => decide (∀ event ∈ h.oracle.logs,
        (decodeEventOracle sampleNaming (fun _ _ => false) sampleOracle event).isSome = true) &&
      decide (h.oracle.state = .final ∧ h.oracle.outcome = .no ∧ h.oracle.challenger = 2 ∧
        h.oracle.proposedAt.val + smallQuestion.challengeWindow.val < 2 ^ 63 ∧
          h.oracle.challengedAt.val + smallQuestion.rulingDeadline.val < 2 ^ 63))
    (by simp [ruledRun, Action.External, smallQuestion]) (by decide +kernel)
  obtain ⟨decodes, stands⟩ := (Bool.and_eq_true _ _).mp checked
  obtain ⟨closed, answer, challenger, closesFits, dueFits⟩ := of_decide_eq_true stands
  obtain ⟨logs, heard⟩ : ∃ logs : List (QuestionLog sampleNaming (fun _ _ => false) sampleOracle),
      Heard h.oracle.logs logs (rowsFiled (hexToAddress sampleOracle.market) logs) :=
    exists_tabled (single_question _ _ _) _ _ h.oracle.logs (of_decide_eq_true decodes)
  obtain ⟨asked, _, agrees⟩ := question_as_on_chain smallQuestion h reached logs _ heard
    (fun _ => closesFits) (fun _ => dueFits)
  cases projected : questionOf (shown (project (rowsFiled (hexToAddress sampleOracle.market) logs))
      (refOfOracle sampleOracle)) with
  | none =>
      have fresh := (asked.1 projected).1
      rw [closed] at fresh
      cases fresh
  | some q =>
      have held := agrees q projected
      refine ⟨h, q, reached, closed, challenger, ?_, held⟩
      rw [held.outcome, closed, if_neg (by decide), standing, if_pos closed, answer]

end Sample

end Ledger

end Ghoststake
