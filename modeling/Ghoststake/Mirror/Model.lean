import Ghoststake.Oracle.DemoFeed

/-!
# The mirror

A process that reads the newest answer of a feed on one chain and pushes it,
with its timestamp, onto a `DemoPriceFeed` it owns on another. It polls on its
own clock, its reads and sends can fail, a send it gave up on can still be
mined, and it can be restarted at any moment.
-/

namespace Ghoststake

set_option autoImplicit false

open Checked

namespace Mirror

def demoMarker : String := "GHOSTSTAKE DEMO FEED"

/-- One feed mirrored onto another, with what `verifyPair` reads of the two. -/
structure Pair where
  source : String
  dest : String
  sourceDecimals : Fin 256
  destDecimals : Fin 256
  destDescription : String

structure Reading where
  answer : Int
  updatedAt : Nat
  deriving DecidableEq

def Reading.round (reading : Reading) : DemoFeed.Round := ⟨reading.answer, reading.updatedAt⟩

/-! ## Starting -/

def absDiff (a b : Fin 256) : Nat := if b < a then a.val - b.val else b.val - a.val

/-- A `uint64`, so it wraps. -/
def pow10 (n : Nat) : Nat := 10 ^ n % 2 ^ 64

/-- `strings.Contains(description, demoMarker)`. -/
def marked (description : String) : Prop := demoMarker.toList <:+: description.toList

instance (description : String) : Decidable (marked description) :=
  inferInstanceAs (Decidable (_ <:+: _))

/-- `ReadLatest`, of what the call returned. -/
def readLatest (told : Except String DemoFeed.Round) : Except String Reading := do
  let round ← told
  let updatedAt := round.updatedAt
  require (updatedAt < 2 ^ 64)
    s!"latestRoundData updatedAt is {updatedAt}, which is not a timestamp"
  .ok ⟨round.answer, updatedAt⟩

variable {Address : Type}

def destLatest (feed : DemoFeed.State Address) : Except String DemoFeed.Round :=
  match DemoFeed.latestRoundData feed with
  | .ok data => .ok ⟨data.answer, data.updatedAt⟩
  | .error _ => .error "chain: DemoPriceFeed.latestRoundData reverted"

def alreadyAt (pair : Pair) (feed : DemoFeed.State Address) : Except String Nat :=
  let latest := feed.latestRoundId.val
  if 0 < latest then
    match readLatest (destLatest feed) with
    | .ok reading => .ok reading.updatedAt
    | .error error =>
        let dest := pair.dest
        .error s!"mirror: destination {dest} has {latest} rounds but none readable: {error}"
  else .ok 0

/-- `verifyPair`, past its reads, and the timestamp it starts from. -/
def verifyPair (pair : Pair) (feed : DemoFeed.State Address) : Except String Nat := do
  let source := pair.source
  let dest := pair.dest
  let publishes := pair.sourceDecimals.val
  let expects := pair.destDecimals.val
  let factor := pow10 (absDiff pair.sourceDecimals pair.destDecimals)
  let description := pair.destDescription.quote
  let marker := demoMarker.quote
  require (pair.sourceDecimals = pair.destDecimals)
    (s!"mirror: {source} publishes {publishes} decimals but {dest} expects {expects} — " ++
      s!"the mirrored price would be wrong by a factor of {factor}")
  require (marked pair.destDescription)
    (s!"mirror: destination {dest} describes itself as {description}, which does not contain " ++
      s!"{marker} — the app would not mark this price as operator-set, and a price we sign " ++
      "must never look like one Chainlink secured")
  alreadyAt pair feed

/-! ## One tick -/

def advances (reading : Reading) (lastPushed : Nat) : Bool := lastPushed < reading.updatedAt

/-- `mirrorOne` as far as the send: what it would push, if anything. -/
def toPush (told : Except String DemoFeed.Round) (lastPushed : Nat) :
    Except String (Option Reading) := do
  let reading ← readLatest told
  if ¬advances reading lastPushed then .ok none
  else do
    let answer := reading.answer
    require (0 < answer) s!"source answered {answer}, which is not a price"
    .ok (some reading)

inductive Process where
  | down
  /-- Between ticks, with the newest timestamp it knows to be written. -/
  | idle (lastPushed : Nat)
  /-- With a reading in hand and its `pushAt` not yet decided. -/
  | sending (lastPushed : Nat) (reading : Reading)

/-- Both feeds, the process, and what it submitted and lost track of. -/
structure World (Address : Type) where
  source : List DemoFeed.Round
  feed : DemoFeed.State Address
  process : Process
  inFlight : List Reading

inductive Sending where
  /-- Refused, or never submitted. -/
  | failed
  /-- Submitted, and given up on before it was mined. -/
  | lost
  /-- Mined and successful. -/
  | landed

inductive Happening where
  /-- The source publishes. -/
  | publish (round : DemoFeed.Round)
  | start
  /-- Killed, perhaps with a transaction submitted already. -/
  | crash (submitted : Bool)
  /-- The clock ticks; the read of the source fails with a message, if any. -/
  | tick (failure : Option String)
  | send (sending : Sending)
  /-- A lost transaction is mined after all. -/
  | mined (index : Nat)

def sourceTold (source : List DemoFeed.Round) (failure : Option String) :
    Except String DemoFeed.Round :=
  match failure, source.getLast? with
  | some error, _ => .error error
  | none, some round => .ok round
  | none, none => .error "chain: AggregatorV3Interface.latestRoundData reverted"

variable [DecidableEq Address]

def execute (signer : Address) (feed : DemoFeed.State Address) (reading : Reading) :
    Outcome Address (DemoFeed.State Address) :=
  DemoFeed.pushAt signer reading.answer reading.updatedAt feed

/-- The end of `mirrorOne`: the reading is pushed, or an error is logged. -/
def settle (signer : Address) (w : World Address) (lastPushed : Nat) (reading : Reading) :
    Sending → World Address
  | .failed => { w with process := .idle lastPushed }
  | .lost => { w with process := .idle lastPushed, inFlight := w.inFlight ++ [reading] }
  | .landed =>
      match execute signer w.feed reading with
      | .ok feed => { w with feed := feed, process := .idle reading.updatedAt }
      | .error _ => { w with process := .idle lastPushed }

def startUp (pair : Pair) (w : World Address) : World Address :=
  match verifyPair pair w.feed with
  | .ok lastPushed => { w with process := .idle lastPushed }
  | .error _ => w

/-- A killed process forgets everything; what it submitted is still out there. -/
def kill (w : World Address) (submitted : Bool) : World Address :=
  match w.process, submitted with
  | .sending _ reading, true =>
      { w with process := .down, inFlight := w.inFlight ++ [reading] }
  | _, _ => { w with process := .down }

def pollOnce (w : World Address) (failure : Option String) : World Address :=
  match w.process with
  | .idle lastPushed =>
      match toPush (sourceTold w.source failure) lastPushed with
      | .ok (some reading) => { w with process := .sending lastPushed reading }
      | .ok none | .error _ => w
  | .down | .sending _ _ => w

def mine (signer : Address) (w : World Address) (index : Nat) : World Address :=
  match w.inFlight[index]? with
  | none => w
  | some reading =>
      match execute signer w.feed reading with
      | .ok feed => { w with feed := feed, inFlight := w.inFlight.eraseIdx index }
      | .error _ => { w with inFlight := w.inFlight.eraseIdx index }

def act (pair : Pair) (signer : Address) (w : World Address) : Happening → World Address
  | .publish round => { w with source := w.source ++ [round] }
  | .start =>
      match w.process with
      | .down => startUp pair w
      | .idle _ | .sending _ _ => w
  | .crash submitted => kill w submitted
  | .tick failure => pollOnce w failure
  | .send sending =>
      match w.process with
      | .sending lastPushed reading => settle signer w lastPushed reading sending
      | .down | .idle _ => w
  | .mined index => mine signer w index

/-- A source feed publishes positive `int256` answers under increasing timestamps. -/
def Happening.Sane (w : World Address) : Happening → Prop
  | .publish round => 0 < round.answer ∧ round.answer < 2 ^ 255 ∧
      ∀ last ∈ w.source, last.updatedAt < round.updatedAt
  | .start | .crash _ | .tick _ | .send _ | .mined _ => True

/-- The mirror of one pair, from a destination only it has the key of. -/
def machine (pair : Pair) (signer : Address) : Machine (World Address) Happening where
  initial w := w = ⟨[], DemoFeed.deployed signer, .down, []⟩
  step w happening after := happening.Sane w ∧ act pair signer w happening = after

end Mirror

end Ghoststake
