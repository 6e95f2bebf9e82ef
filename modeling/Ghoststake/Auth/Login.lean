import Ghoststake.Auth.Siwe
import Ghoststake.Library.Machine

/-!
# Signing in

Challenges are issued, signed and claimed by handlers that run side by side and
may stop at any point, over one table of challenges and one of users. Whoever
is given a token has signed the very message the server rendered for it, and no
challenge gives two.
-/

namespace Ghoststake

set_option autoImplicit false

open Checked

namespace Auth

open Index

/-! ## Tables -/

structure Nonce where
  nonce : Text
  address : Text
  message : Text
  expiresAt : Int
  consumedAt : Option Int

structure User where
  address : Text
  createdAt : Int
  lastLoginAt : Option Int

def hour : Int := 3600 * 10 ^ 9

/-- Whether the `UPDATE` finds the row. -/
def Nonce.Usable (row : Nonce) (nonce : Text) (now : Int) : Prop :=
  row.nonce = nonce ∧ row.consumedAt = none ∧ now < row.expiresAt

instance (row : Nonce) (nonce : Text) (now : Int) : Decidable (row.Usable nonce now) :=
  inferInstanceAs (Decidable (_ ∧ _ ∧ _))

/-- Nothing where the primary key is taken. -/
def createNonce (row : Nonce) (nonces : List Nonce) : Option (List Nonce) :=
  if row.nonce ∈ nonces.map Nonce.nonce then none else some (nonces ++ [row])

def consumeNonce (now : Int) (nonce : Text) (nonces : List Nonce) :
    Option (Nonce × List Nonce) :=
  (nonces.find? fun row => row.Usable nonce now).map fun row =>
    (row, nonces.map fun other =>
      if other.Usable nonce now then { other with consumedAt := some now } else other)

def deleteExpiredNonces (now : Int) (nonces : List Nonce) : List Nonce :=
  nonces.filter fun row => ¬row.expiresAt < now - hour

def upsertUserOnLogin (now : Int) (address : Text) (users : List User) : List User :=
  if address ∈ users.map User.address then
    users.map fun user =>
      if user.address = address then { user with lastLoginAt := some now } else user
  else users ++ [⟨address, now, some now⟩]

def userByAddress (address : Text) (users : List User) : Option User :=
  users.find? fun user => user.address = address

/-! ## The service -/

structure Claims where
  address : Text
  subject : Text
  issuedAt : Int
  notBefore : Int
  expiresAt : Int

structure Service where
  site : Site
  nonceTTL : Int
  jwtTTL : Int
  rfc3339 : Int → Text
  capital : Address → Nat → Bool
  recover : Text → List Nat → Option Address

structure Failure where
  code : Nat
  text : String
  deriving DecidableEq

def Failure.invalidAddress : Failure := ⟨400, "invalid ethereum address"⟩

def Failure.incomplete : Failure := ⟨400, "nonce and signature are required"⟩

def Failure.unauthenticated : Failure := ⟨401, "authentication failed"⟩

def Failure.internal : Failure := ⟨500, "internal error"⟩

def Failure.missingToken : Failure := ⟨401, "missing bearer token"⟩

def Failure.invalidToken : Failure := ⟨401, "invalid token"⟩

def Failure.userNotFound : Failure := ⟨404, "user not found"⟩

inductive Handler where
  /-- `handleNonce`, with a message that is not stored yet. -/
  | issuing (row : Nonce)
  /-- `handleVerify`, from the challenge it claimed on. -/
  | claimed (row : Nonce) (signature : Text)
  | proved (row : Nonce)
  | known (row : Nonce)

inductive Event where
  | issued (row : Nonce)
  | consumed (row : Nonce) (time : Int)
  | login (row : Nonce) (claims : Claims)

structure State where
  apiNow : Int
  dbNow : Int
  nonces : List Nonce
  users : List User
  inFlight : List Handler
  /-- What the keys of accounts have signed. -/
  signed : List (Address × Text)
  history : List Event

variable (cfg : Service)

def challenge (apiNow : Int) (bytes : Nibbles 64) (address : Text) : Nonce where
  nonce := encodeToString bytes
  address := address
  message := buildMessage cfg.rfc3339 cfg.site address (encodeToString bytes) apiNow
  expiresAt := apiNow + cfg.nonceTTL
  consumedAt := none

/-- `handleNonce`, up to what it stores. -/
def handleNonce (bytes : Nibbles 64) (address : Text) (s : State) : Except Failure State :=
  match normalizeAddress cfg.capital address with
  | none => .error .invalidAddress
  | some address =>
      .ok { s with inFlight := s.inFlight ++ [.issuing (challenge cfg s.apiNow bytes address)] }

/-- `handleVerify`, up to the challenge it claims. -/
def handleVerify (nonce signature : Text) (s : State) : Except Failure State :=
  if nonce = [] ∨ signature = [] then .error .incomplete
  else
    match consumeNonce s.dbNow nonce s.nonces with
    | none => .error .unauthenticated
    | some (row, nonces) =>
        .ok { s with
          nonces := nonces
          inFlight := s.inFlight ++ [.claimed row signature]
          history := s.history ++ [.consumed row s.dbNow] }

def numericDate (time : Int) : Int := time / 10 ^ 9

def issue (now : Int) (address : Text) : Claims where
  address := address
  subject := address
  issuedAt := numericDate now
  notBefore := numericDate now
  expiresAt := numericDate (now + cfg.jwtTTL)

/-- The next step of a handler, and where it is then. -/
def advance (s : State) : Handler → Except Failure (State × Option Handler)
  | .issuing row =>
      match createNonce row s.nonces with
      | none => .error .internal
      | some nonces =>
          .ok ({ s with nonces := nonces, history := s.history ++ [.issued row] }, none)
  | .claimed row signature =>
      match verifySignature cfg.recover cfg.capital row.message signature row.address with
      | .error _ => .error .unauthenticated
      | .ok () => .ok (s, some (.proved row))
  | .proved row =>
      .ok ({ s with users := upsertUserOnLogin s.dbNow row.address s.users }, some (.known row))
  | .known row =>
      .ok ({ s with history := s.history ++ [.login row (issue cfg s.apiNow row.address)] }, none)

inductive Action where
  | nonce (bytes : Nibbles 64) (address : Text)
  | verify (nonce signature : Text)
  /-- A handler in flight takes its next step. -/
  | resume (handler : Nat)
  /-- A handler in flight stops for good. -/
  | abort (handler : Nat)
  | sweep
  /-- A wallet signs some text for one of its accounts. -/
  | sign (account : Address) (text : Text)
  /-- Either clock is set to anything. -/
  | clocks (api db : Int)

def State.finish (s : State) (handler : Nat) : State :=
  { s with inFlight := s.inFlight.eraseIdx handler }

/-- Nothing changes where a request is refused. -/
def orSame (s : State) : Except Failure State → State × Option Failure
  | .ok next => (next, none)
  | .error failure => (s, some failure)

def resume (s : State) (handler : Nat) : State × Option Failure :=
  match s.inFlight[handler]? with
  | none => (s, none)
  | some now =>
      match advance cfg s now with
      | .error failure => (s.finish handler, some failure)
      | .ok (next, none) => (next.finish handler, none)
      | .ok (next, some later) => ({ next with inFlight := next.inFlight.set handler later }, none)

def act (s : State) : Action → State × Option Failure
  | .nonce bytes address => orSame s (handleNonce cfg bytes address s)
  | .verify nonce signature => orSame s (handleVerify nonce signature s)
  | .resume handler => resume cfg s handler
  | .abort handler => (s.finish handler, none)
  | .sweep => ({ s with nonces := deleteExpiredNonces s.dbNow s.nonces }, none)
  | .sign account text => ({ s with signed := s.signed ++ [(account, text)] }, none)
  | .clocks api db => ({ s with apiNow := api, dbNow := db }, none)

/-- What is asked of the curve: no bytes brought to a handler recover, on the text
of its challenge, to the account of that challenge, unless the account's key has
signed that text. -/
def Action.Unforged (s : State) : Action → Prop
  | .resume handler => ∀ row signature sig v,
      s.inFlight[handler]? = some (.claimed row signature) → hexutilDecode signature = some sig →
        cfg.recover (accountsText row.message) (sig.set 64 v) = some (hexToAddress row.address) →
          (hexToAddress row.address, accountsText row.message) ∈ s.signed
  | .nonce _ _ | .verify _ _ | .abort _ | .sweep | .sign _ _ | .clocks _ _ => True

def Fresh (s : State) : Prop :=
  s.nonces = [] ∧ s.users = [] ∧ s.inFlight = [] ∧ s.signed = [] ∧ s.history = []

def machine : Machine State Action where
  initial := Fresh
  step s action next := action.Unforged cfg s ∧ (act cfg s action).1 = next

/-! ## A request with a token -/

section Session

-- what `Parse` makes of a token at the time of the request
variable (parse : Text → Option Claims)

def bearer : Text := "Bearer ".toList

def bearerToken (header : Text) : Text := trimSpace (header.drop bearer.length)

def requireAuth (header : Text) : Except Failure Text :=
  if header.length ≤ bearer.length ∨ ¬equalFold (header.take bearer.length) bearer then
    .error .missingToken
  else
    match parse (bearerToken header) with
    | none => .error .invalidToken
    | some claims =>
        match normalizeAddress cfg.capital claims.address with
        | none => .error .invalidToken
        | some address => .ok address

def handleMe (users : List User) (address : Text) : Except Failure User :=
  match userByAddress address users with
  | none => .error .userNotFound
  | some user => .ok user

def me (s : State) (header : Text) : Except Failure User :=
  match requireAuth cfg parse header with
  | .error failure => .error failure
  | .ok address => handleMe s.users address

end Session

/-! ## What is known of a challenge -/

def Rendered (row : Nonce) : Prop :=
  row.consumedAt = none ∧ ∃ account bytes apiNow,
    row = challenge cfg apiNow bytes (hex cfg.capital account)

def Posted (s : State) (row : Nonce) : Prop := Rendered cfg row ∧ .issued row ∈ s.history

def Claimed (s : State) (row : Nonce) : Prop :=
  Posted cfg s row ∧ ∃ time, .consumed row time ∈ s.history ∧ time < row.expiresAt

def Proved (s : State) (row : Nonce) : Prop :=
  Claimed cfg s row ∧ (hexToAddress row.address, accountsText row.message) ∈ s.signed

def Registered (users : List User) (address : Text) : Prop :=
  ∃ user ∈ users, user.address = address ∧ user.lastLoginAt ≠ none

def Known (s : State) (row : Nonce) : Prop := Proved cfg s row ∧ Registered s.users row.address

def Handler.Sound (s : State) : Handler → Prop
  | .issuing row => Rendered cfg row
  | .claimed row _ => Claimed cfg s row
  | .proved row => Proved cfg s row
  | .known row => Known cfg s row

def Event.Sound (s : State) : Event → Prop
  | .issued row => Rendered cfg row
  | .consumed row time => Posted cfg s row ∧ time < row.expiresAt
  | .login row claims => Known cfg s row ∧ claims.address = row.address

section Evidence

variable {cfg} {s next : State} {row : Nonce} {now : Int}

structure Grows (s next : State) : Prop where
  history : s.history ⊆ next.history
  signed : s.signed ⊆ next.signed
  users : ∀ address, Registered s.users address → Registered next.users address

theorem Posted.grows (posted : Posted cfg s row) (grows : Grows s next) : Posted cfg next row :=
  ⟨posted.1, grows.history posted.2⟩

theorem Claimed.grows (claimed : Claimed cfg s row) (grows : Grows s next) :
    Claimed cfg next row := by
  obtain ⟨posted, time, consumed, early⟩ := claimed
  exact ⟨posted.grows grows, time, grows.history consumed, early⟩

theorem Proved.grows (proved : Proved cfg s row) (grows : Grows s next) : Proved cfg next row :=
  ⟨proved.1.grows grows, grows.signed proved.2⟩

theorem Known.grows (known : Known cfg s row) (grows : Grows s next) : Known cfg next row :=
  ⟨known.1.grows grows, grows.users _ known.2⟩

theorem Handler.Sound.grows {handler : Handler} (sound : handler.Sound cfg s)
    (grows : Grows s next) : handler.Sound cfg next := by
  cases handler with
  | issuing row => exact sound
  | claimed row signature => exact Claimed.grows sound grows
  | proved row => exact Proved.grows sound grows
  | known row => exact Known.grows sound grows

theorem Event.Sound.grows {event : Event} (sound : event.Sound cfg s) (grows : Grows s next) :
    event.Sound cfg next := by
  cases event with
  | issued row => exact sound
  | consumed row time => exact ⟨sound.1.grows grows, sound.2⟩
  | login row claims => exact ⟨sound.1.grows grows, sound.2⟩

theorem registered_upsert (address : Text) (users : List User) (now : Int) :
    Registered (upsertUserOnLogin now address users) address := by
  unfold upsertUserOnLogin
  split_ifs with there
  · obtain ⟨user, member, same⟩ := List.mem_map.1 there
    refine ⟨{ user with lastLoginAt := some now }, ?_, same, Option.some_ne_none _⟩
    rw [List.mem_map]
    exact ⟨user, member, if_pos same⟩
  · exact ⟨_, List.mem_append_right _ (List.mem_singleton_self _), rfl, Option.some_ne_none _⟩

theorem registered_of_upsert {address other : Text} {users : List User}
    (registered : Registered users other) :
    Registered (upsertUserOnLogin now address users) other := by
  obtain ⟨user, member, same, logged⟩ := registered
  unfold upsertUserOnLogin
  split_ifs
  · refine ⟨_, List.mem_map_of_mem member, ?_, ?_⟩
    · split_ifs
      · exact same
      · exact same
    · split_ifs
      · exact Option.some_ne_none _
      · exact logged
  · exact ⟨user, List.mem_append_left _ member, same, logged⟩

theorem addresses_upsert (address : Text) (users : List User) (now : Int) :
    (upsertUserOnLogin now address users).map User.address =
      if address ∈ users.map User.address then users.map User.address
      else users.map User.address ++ [address] := by
  unfold upsertUserOnLogin
  split_ifs
  · rw [List.map_map]
    apply List.map_congr_left
    intro user _
    rw [Function.comp_apply]
    split_ifs <;> rfl
  · rw [List.map_append]
    rfl

end Evidence

/-! ## Counting -/

section Counting

variable {s next : State} {row : Nonce} {nonces : List Nonce} {nonce : Text} {now : Int}

def Event.issues (nonce : Text) : Event → Bool
  | .issued row => row.nonce = nonce
  | .consumed _ _ | .login _ _ => false

def Event.consumes (nonce : Text) : Event → Bool
  | .consumed row _ => row.nonce = nonce
  | .issued _ | .login _ _ => false

def Event.logsIn (nonce : Text) : Event → Bool
  | .login row _ => row.nonce = nonce
  | .issued _ | .consumed _ _ => false

def Handler.verifies (nonce : Text) : Handler → Bool
  | .claimed row _ | .proved row | .known row => row.nonce = nonce
  | .issuing _ => false

def Nonce.unspent (nonce : Text) (row : Nonce) : Bool :=
  row.nonce = nonce ∧ row.consumedAt = none

theorem countP_lt {Entry : Type} {p q : Entry → Bool} {l : List Entry} {entry : Entry}
    (weaker : ∀ entry ∈ l, p entry = true → q entry = true) (member : entry ∈ l)
    (counted : q entry = true) (left : p entry = false) : l.countP p < l.countP q := by
  obtain ⟨before, after, rfl⟩ := List.append_of_mem member
  have first : before.countP p ≤ before.countP q :=
    List.countP_mono_left fun other listed => weaker other (List.mem_append_left _ listed)
  have last : after.countP p ≤ after.countP q := by
    apply List.countP_mono_left
    intro other listed
    exact weaker other (List.mem_append_right _ (List.mem_cons_of_mem _ listed))
  rw [List.countP_append, List.countP_append, List.countP_cons_of_pos counted,
    List.countP_cons_of_neg (Bool.not_eq_true _ ▸ left)]
  omega

theorem consume_nonce_spends {after : List Nonce}
    (claims : consumeNonce now nonce nonces = some (row, after)) :
    row ∈ nonces ∧ row.Usable nonce now ∧
      after.countP (Nonce.unspent nonce) + 1 ≤ nonces.countP (Nonce.unspent nonce) ∧
      (∀ other ≠ nonce, after.countP (Nonce.unspent other) = nonces.countP (Nonce.unspent other)) ∧
      ∀ left ∈ after, left.consumedAt = none → left ∈ nonces := by
  obtain ⟨found, usable, pair⟩ := Option.map_eq_some_iff.1 claims
  obtain ⟨rfl, rfl⟩ := Prod.mk.inj pair
  have member := List.mem_of_find?_eq_some usable
  have fits : found.Usable nonce now := by simpa using List.find?_some usable
  refine ⟨member, fits, ?_, ?_, ?_⟩
  · rw [List.countP_map]
    apply countP_lt _ member
    · exact decide_eq_true ⟨fits.1, fits.2.1⟩
    · simp [Nonce.unspent, fits]
    · intro left _ unspent
      simp only [Function.comp_apply] at unspent
      split_ifs at unspent
      · simp [Nonce.unspent] at unspent
      · exact unspent
  · intro other apart
    rw [List.countP_map]
    apply List.countP_congr
    intro left _
    simp only [Function.comp_apply]
    split_ifs with touched
    · have unnamed : left.nonce ≠ other := fun same => apart (same.symm.trans touched.1)
      simp [Nonce.unspent, unnamed]
    · exact Iff.rfl
  · intro left listed unspent
    obtain ⟨before, kept, rfl⟩ := List.mem_map.1 listed
    split_ifs at unspent ⊢
    · exact kept

end Counting

/-! ## The invariant -/

/-- Only who has signed has a row, and one row. -/
structure Accounts (s : State) : Prop where
  enrolled : ∀ address ∈ s.users.map User.address, ∃ row, Proved cfg s row ∧ row.address = address
  unique : (s.users.map User.address).Nodup

structure Sound (s : State) : Prop where
  stored : ∀ row ∈ s.nonces, row.consumedAt = none → Posted cfg s row
  flying : ∀ handler ∈ s.inFlight, handler.Sound cfg s
  told : ∀ event ∈ s.history, event.Sound cfg s
  accounts : Accounts cfg s
  spent : ∀ nonce, s.history.countP (Event.consumes nonce) +
    s.nonces.countP (Nonce.unspent nonce) ≤ s.history.countP (Event.issues nonce)
  used : ∀ nonce, s.history.countP (Event.logsIn nonce) +
    s.inFlight.countP (Handler.verifies nonce) ≤ s.history.countP (Event.consumes nonce)

section Steps

variable {cfg} {s next : State} {row : Nonce}

theorem exists_around {Entry : Type} {l : List Entry} {i : Nat} {entry : Entry}
    (there : l[i]? = some entry) :
    ∃ before after, l = before ++ entry :: after ∧ l.eraseIdx i = before ++ after ∧
      ∀ other, l.set i other = before ++ other :: after := by
  obtain ⟨bound, rfl⟩ := List.getElem?_eq_some_iff.1 there
  refine ⟨l.take i, l.drop (i + 1), ?_, List.eraseIdx_eq_take_drop_succ _ _, ?_⟩
  · rw [List.getElem_cons_drop, List.take_append_drop]
  · intro other
    rw [List.set_eq_take_append_cons_drop, if_pos bound]

theorem Accounts.grows (accounts : Accounts cfg s) (grows : Grows s next)
    (users : next.users = s.users) : Accounts cfg next where
  enrolled address member := by
    rw [users] at member
    obtain ⟨row, proved, named⟩ := accounts.enrolled address member
    exact ⟨row, proved.grows grows, named⟩
  unique := users ▸ accounts.unique

theorem Accounts.enrols {s : State} (accounts : Accounts cfg s) (proved : Proved cfg s row)
    (now : Int) : Accounts cfg { s with users := upsertUserOnLogin now row.address s.users } := by
  constructor
  · intro address member
    rw [addresses_upsert] at member
    split_ifs at member
    · exact accounts.enrolled address member
    · rcases List.mem_append.1 member with old | new
      · exact accounts.enrolled address old
      · exact ⟨row, proved, (List.mem_singleton.1 new).symm⟩
  · rw [addresses_upsert]
    split_ifs with there
    · exact accounts.unique
    · exact List.nodup_append.2 ⟨accounts.unique, List.nodup_singleton _, fun a left b right same =>
        there (List.mem_singleton.1 right ▸ same ▸ left)⟩

theorem sound_of_fresh (fresh : Fresh s) : Sound cfg s := by
  obtain ⟨nonces, users, inFlight, signed, history⟩ := fresh
  constructor
  · intro row member
    rw [nonces] at member
    cases member
  · intro handler member
    rw [inFlight] at member
    cases member
  · intro event member
    rw [history] at member
    cases member
  · rw [← List.map_eq_nil_iff (f := User.address)] at users
    exact ⟨fun address member => absurd (users ▸ member) List.not_mem_nil, users ▸ List.nodup_nil⟩
  · intro nonce
    rw [history, nonces]
    exact Nat.le_refl 0
  · intro nonce
    rw [history, inFlight]
    exact Nat.le_refl 0

theorem Sound.less (sound : Sound cfg s) (grows : Grows s next)
    (nonces : next.nonces.Sublist s.nonces) (inFlight : next.inFlight.Sublist s.inFlight)
    (history : next.history = s.history) (users : next.users = s.users) : Sound cfg next where
  stored row member unspent := (sound.stored row (nonces.subset member) unspent).grows grows
  flying handler member := (sound.flying handler (inFlight.subset member)).grows grows
  told event member := by
    rw [history] at member
    exact (sound.told event member).grows grows
  accounts := sound.accounts.grows grows users
  spent nonce := by
    rw [history]
    have fewer : next.nonces.countP (Nonce.unspent nonce) ≤
        s.nonces.countP (Nonce.unspent nonce) := nonces.countP_le
    have before := sound.spent nonce
    omega
  used nonce := by
    rw [history]
    have fewer : next.inFlight.countP (Handler.verifies nonce) ≤
        s.inFlight.countP (Handler.verifies nonce) := inFlight.countP_le
    have before := sound.used nonce
    omega

theorem sound_of_nonce {bytes : Nibbles 64} {address : Text} (sound : Sound cfg s)
    (ran : handleNonce cfg bytes address s = .ok next) : Sound cfg next := by
  unfold handleNonce at ran
  cases normal : normalizeAddress cfg.capital address with
  | none =>
      rw [normal] at ran
      cases ran
  | some text =>
      rw [normal] at ran
      cases ran
      have rendered : Rendered cfg (challenge cfg s.apiNow bytes text) := by
        unfold normalizeAddress at normal
        split_ifs at normal
        exact ⟨rfl, hexToAddress (trimSpace address), bytes, s.apiNow, by
          rw [Option.some.inj normal]⟩
      have grows : Grows s { s with
          inFlight := s.inFlight ++ [.issuing (challenge cfg s.apiNow bytes text)] } :=
        ⟨List.Subset.refl _, List.Subset.refl _, fun _ => id⟩
      constructor
      · exact fun row member unspent => (sound.stored row member unspent).grows grows
      · intro handler member
        rcases List.mem_append.1 member with old | new
        · exact (sound.flying handler old).grows grows
        · rw [List.mem_singleton.1 new]
          exact rendered
      · exact fun event member => (sound.told event member).grows grows
      · exact sound.accounts.grows grows rfl
      · exact sound.spent
      · intro nonce
        rw [List.countP_append]
        exact sound.used nonce

theorem sound_of_verify {nonce signature : Text} (sound : Sound cfg s)
    (ran : handleVerify nonce signature s = .ok next) : Sound cfg next := by
  unfold handleVerify at ran
  split_ifs at ran
  cases claims : consumeNonce s.dbNow nonce s.nonces with
  | none =>
      rw [claims] at ran
      cases ran
  | some pair =>
      obtain ⟨row, nonces⟩ := pair
      rw [claims] at ran
      cases ran
      obtain ⟨member, usable, spends, others, left⟩ := consume_nonce_spends claims
      have posted := sound.stored row member usable.2.1
      have grows : Grows s { s with
          nonces := nonces
          inFlight := s.inFlight ++ [.claimed row signature]
          history := s.history ++ [.consumed row s.dbNow] } :=
        ⟨List.subset_append_left _ _, List.Subset.refl _, fun _ => id⟩
      have counted (other : Text) : Event.consumes other (.consumed row s.dbNow) =
          decide (nonce = other) := by
        rw [Event.consumes, usable.1]
      constructor
      · intro other listed unspent
        exact (sound.stored other (left other listed unspent) unspent).grows grows
      · intro handler flying
        rcases List.mem_append.1 flying with old | new
        · exact (sound.flying handler old).grows grows
        · rw [List.mem_singleton.1 new]
          exact ⟨posted.grows grows, s.dbNow,
            List.mem_append_right _ (List.mem_singleton_self _), usable.2.2⟩
      · intro event listed
        rcases List.mem_append.1 listed with old | new
        · exact (sound.told event old).grows grows
        · rw [List.mem_singleton.1 new]
          exact ⟨posted.grows grows, usable.2.2⟩
      · exact sound.accounts.grows grows rfl
      · intro other
        have before := sound.spent other
        rw [List.countP_append, List.countP_append, List.countP_singleton, List.countP_singleton,
          counted]
        by_cases same : nonce = other
        · rw [← same] at before ⊢
          simp only [Event.issues, decide_true, if_true, Bool.false_eq_true, if_false]
          omega
        · rw [others other (Ne.symm same)]
          simp only [Event.issues, same, decide_false, Bool.false_eq_true, if_false]
          omega
      · intro other
        have before := sound.used other
        rw [List.countP_append, List.countP_append, List.countP_append, List.countP_singleton,
          List.countP_singleton, List.countP_singleton, counted]
        simp only [Event.logsIn, Handler.verifies, usable.1, Bool.false_eq_true, if_false]
        omega

/-- A handler moves on to another step of the same challenge. -/
theorem Sound.moves {handler : Nat} {now later : Handler} (sound : Sound cfg s)
    (there : s.inFlight[handler]? = some now) (grows : Grows s next)
    (nonces : next.nonces = s.nonces) (history : next.history = s.history)
    (inFlight : next.inFlight = s.inFlight.set handler later) (fits : later.Sound cfg next)
    (accounts : Accounts cfg next)
    (counted : ∀ nonce, later.verifies nonce = now.verifies nonce) : Sound cfg next := by
  obtain ⟨before, after, around, _, moved⟩ := exists_around there
  rw [moved] at inFlight
  constructor
  · intro row member unspent
    rw [nonces] at member
    exact (sound.stored row member unspent).grows grows
  · intro other member
    rw [inFlight] at member
    rcases List.mem_append.1 member with old | rest
    · exact (sound.flying other (around ▸ List.mem_append_left _ old)).grows grows
    · rcases List.mem_cons.1 rest with same | old
      · rw [same]
        exact fits
      · have listed := List.mem_append_right before (List.mem_cons_of_mem now old)
        exact (sound.flying other (around ▸ listed)).grows grows
  · intro event member
    rw [history] at member
    exact (sound.told event member).grows grows
  · exact accounts
  · intro nonce
    rw [nonces, history]
    exact sound.spent nonce
  · intro nonce
    have kept := sound.used nonce
    rw [around] at kept
    rw [history, inFlight]
    simpa only [List.countP_append, List.countP_cons, counted] using kept

theorem sound_of_created {nonces : List Nonce} (sound : Sound cfg s) (rendered : Rendered cfg row)
    (created : createNonce row s.nonces = some nonces) :
    Sound cfg { s with nonces := nonces, history := s.history ++ [.issued row] } := by
  unfold createNonce at created
  split_ifs at created
  cases created
  have grows : Grows s { s with
      nonces := s.nonces ++ [row], history := s.history ++ [.issued row] } :=
    ⟨List.subset_append_left _ _, List.Subset.refl _, fun _ => id⟩
  have here : Event.issued row ∈ s.history ++ [.issued row] :=
    List.mem_append_right _ (List.mem_singleton_self _)
  constructor
  · intro other member unspent
    rcases List.mem_append.1 member with old | new
    · exact (sound.stored other old unspent).grows grows
    · rw [List.mem_singleton.1 new]
      exact ⟨rendered, here⟩
  · exact fun handler member => (sound.flying handler member).grows grows
  · intro event member
    rcases List.mem_append.1 member with old | new
    · exact (sound.told event old).grows grows
    · rw [List.mem_singleton.1 new]
      exact rendered
  · exact sound.accounts.grows grows rfl
  · intro nonce
    have before := sound.spent nonce
    rw [List.countP_append, List.countP_append, List.countP_append, List.countP_singleton,
      List.countP_singleton, List.countP_singleton]
    simp only [Event.consumes, Event.issues, Nonce.unspent, rendered.1, and_true,
      decide_eq_true_eq, Bool.false_eq_true, if_false]
    omega
  · intro nonce
    rw [List.countP_append, List.countP_append, List.countP_singleton, List.countP_singleton]
    exact sound.used nonce

theorem sound_of_login {handler : Nat} {claims : Claims} (sound : Sound cfg s)
    (there : s.inFlight[handler]? = some (.known row)) (named : claims.address = row.address) :
    Sound cfg { s with
      inFlight := s.inFlight.eraseIdx handler, history := s.history ++ [.login row claims] } := by
  obtain ⟨before, after, around, erased, _⟩ := exists_around there
  have grows : Grows s { s with
      inFlight := s.inFlight.eraseIdx handler, history := s.history ++ [.login row claims] } :=
    ⟨List.subset_append_left _ _, List.Subset.refl _, fun _ => id⟩
  have known : Known cfg s row := sound.flying _ (List.mem_of_getElem? there)
  constructor
  · exact fun other member unspent => (sound.stored other member unspent).grows grows
  · intro other member
    exact (sound.flying other ((List.eraseIdx_sublist _ _).subset member)).grows grows
  · intro event member
    rcases List.mem_append.1 member with old | new
    · exact (sound.told event old).grows grows
    · rw [List.mem_singleton.1 new]
      exact ⟨known.grows grows, named⟩
  · exact sound.accounts.grows grows rfl
  · intro nonce
    rw [List.countP_append, List.countP_append, List.countP_singleton, List.countP_singleton]
    exact sound.spent nonce
  · intro nonce
    have kept := sound.used nonce
    rw [around, List.countP_append, List.countP_cons] at kept
    rw [erased]
    simp only [List.countP_append, List.countP_singleton, Event.logsIn, Event.consumes,
      Handler.verifies, decide_eq_true_eq, Bool.false_eq_true, if_false] at kept ⊢
    omega

theorem sound_of_resume {handler : Nat} (sound : Sound cfg s)
    (unforged : Action.Unforged cfg s (.resume handler)) :
    Sound cfg (resume cfg s handler).1 := by
  have finished {s : State} (sound : Sound cfg s) : Sound cfg (s.finish handler) :=
    sound.less ⟨List.Subset.refl _, List.Subset.refl _, fun _ => id⟩ (List.Sublist.refl _)
      (List.eraseIdx_sublist _ _) rfl rfl
  unfold resume
  cases there : s.inFlight[handler]? with
  | none => exact sound
  | some now =>
      have fits := sound.flying now (List.mem_of_getElem? there)
      cases now with
      | issuing row =>
          cases created : createNonce row s.nonces with
          | none =>
              simp only [advance, created]
              exact finished sound
          | some nonces =>
              simp only [advance, created]
              exact finished (sound_of_created sound fits created)
      | claimed row signature =>
          cases checked : verifySignature cfg.recover cfg.capital row.message signature
              row.address with
          | error failure =>
              simp only [advance, checked]
              exact finished sound
          | ok _ =>
              simp only [advance, checked]
              obtain ⟨sig, v, decoded, _, _, recovered⟩ := recovered_of_verified checked
              have signed := unforged row signature sig v there decoded recovered
              have grows : Grows s { s with inFlight := s.inFlight.set handler (.proved row) } :=
                ⟨List.Subset.refl _, List.Subset.refl _, fun _ => id⟩
              exact sound.moves there grows rfl rfl rfl ⟨Claimed.grows fits grows, signed⟩
                (sound.accounts.grows grows rfl) fun nonce => rfl
      | proved row =>
          have grows : Grows s { s with
              users := upsertUserOnLogin s.dbNow row.address s.users
              inFlight := s.inFlight.set handler (.known row) } :=
            ⟨List.Subset.refl _, List.Subset.refl _, fun _ => registered_of_upsert⟩
          exact sound.moves there grows rfl rfl rfl
            ⟨Proved.grows fits grows, registered_upsert _ _ _⟩
            ⟨(sound.accounts.enrols fits s.dbNow).enrolled,
              (sound.accounts.enrols fits s.dbNow).unique⟩ fun nonce => rfl
      | known row => exact sound_of_login sound there rfl

theorem sound_of_step {action : Action} (sound : Sound cfg s)
    (step : (machine cfg).step s action next) : Sound cfg next := by
  obtain ⟨unforged, rfl⟩ := step
  cases action with
  | nonce bytes address =>
      cases ran : handleNonce cfg bytes address s with
      | error failure =>
          rw [act, ran]
          exact sound
      | ok next =>
          rw [act, ran]
          exact sound_of_nonce sound ran
  | verify nonce signature =>
      cases ran : handleVerify nonce signature s with
      | error failure =>
          rw [act, ran]
          exact sound
      | ok next =>
          rw [act, ran]
          exact sound_of_verify sound ran
  | resume handler => exact sound_of_resume sound unforged
  | abort handler =>
      exact sound.less ⟨List.Subset.refl _, List.Subset.refl _, fun _ => id⟩
        (List.Sublist.refl _) (List.eraseIdx_sublist _ _) rfl rfl
  | sweep =>
      exact sound.less ⟨List.Subset.refl _, List.Subset.refl _, fun _ => id⟩
        List.filter_sublist (List.Sublist.refl _) rfl rfl
  | sign account text =>
      exact sound.less ⟨List.Subset.refl _, List.subset_append_left _ _, fun _ => id⟩
        (List.Sublist.refl _) (List.Sublist.refl _) rfl rfl
  | clocks api db =>
      exact sound.less ⟨List.Subset.refl _, List.Subset.refl _, fun _ => id⟩
        (List.Sublist.refl _) (List.Sublist.refl _) rfl rfl

theorem sound_of_reachable (reachable : (machine cfg).Reachable s) : Sound cfg s :=
  reachable.invariant (Sound cfg) (fun _ => sound_of_fresh) fun _ _ _ _ => sound_of_step

end Steps

/-! ## What a login stands for -/

section Results

variable {cfg} {s : State}

/-- An account has signed the very message of an issued challenge, which was
claimed in time and can sign nobody else in. -/
structure Witnessed (cfg : Service) (s : State) (row : Nonce) (account : Address) : Prop where
  address : row.address = hex cfg.capital account
  rendered : ∃ bytes apiNow, row = challenge cfg apiNow bytes row.address
  issued : .issued row ∈ s.history
  consumed : ∃ time, .consumed row time ∈ s.history ∧ time < row.expiresAt
  signed : (account, accountsText row.message) ∈ s.signed
  alone : ∀ other, .issued other ∈ s.history →
    accountsText other.message = accountsText row.message →
      other.address = row.address ∧ other.nonce = row.nonce

theorem length_encode_to_string (bytes : Nibbles 64) : (encodeToString bytes).length = 64 := by
  rw [encodeToString, List.length_map, bytes.sized]

theorem length_hex (address : Address) : (hex cfg.capital address).length = 42 := by
  simp only [hex, List.length_cons, List.length_mapIdx, address.sized]

theorem witnessed_of_proved {row : Nonce} (sound : Sound cfg s) (proved : Proved cfg s row) :
    ∃ account, Witnessed cfg s row account := by
  obtain ⟨⟨⟨⟨unspent, account, bytes, apiNow, rendered⟩, issued⟩, consumed⟩, signed⟩ := proved
  have named : row.address = hex cfg.capital account := by rw [rendered]; rfl
  rw [named, hex_to_address_hex] at signed
  refine ⟨account, named, ⟨bytes, apiNow, named ▸ rendered⟩, issued, consumed, signed, ?_⟩
  intro other told same
  obtain ⟨_, account', bytes', apiNow', rendered'⟩ : Rendered cfg other := sound.told _ told
  have messages := accounts_text_injective same
  rw [rendered, rendered'] at messages ⊢
  apply challenge_of_message _ _ messages
  · rw [length_hex, length_hex]
  · rw [length_encode_to_string, length_encode_to_string]

theorem handle_me_of_registered {users : List User} {address : Text}
    (registered : Registered users address) :
    ∃ user ∈ users, user.address = address ∧ handleMe users address = .ok user := by
  obtain ⟨user, member, named, _⟩ := registered
  cases found : userByAddress address users with
  | none =>
      unfold userByAddress at found
      exact absurd (List.find?_eq_none.1 found user member) (by simp [named])
  | some first =>
      have same : first.address = address := by simpa using List.find?_some found
      refine ⟨first, List.mem_of_find?_eq_some found, same, ?_⟩
      rw [handleMe, found]

def actAll (cfg : Service) (s : State) (actions : List Action) : State :=
  actions.foldl (fun s action => (act cfg s action).1) s

theorem consume_nonce_of_new (row : Nonce) {now : Int} {nonces : List Nonce}
    (new : row.nonce ∉ nonces.map Nonce.nonce) (unspent : row.consumedAt = none)
    (early : now < row.expiresAt) :
    consumeNonce now row.nonce (nonces ++ [row]) =
      some (row, nonces ++ [{ row with consumedAt := some now }]) := by
  have usable : row.Usable row.nonce now := ⟨rfl, unspent, early⟩
  have others (other : Nonce) (member : other ∈ nonces) : ¬other.Usable row.nonce now := by
    rintro ⟨same, _⟩
    exact new (same ▸ List.mem_map_of_mem member)
  have found : (nonces ++ [row]).find? (fun other => other.Usable row.nonce now) = some row := by
    rw [List.find?_append, List.find?_eq_none.2]
    · simp [usable]
    · intro other member
      simpa using others other member
  have kept : (nonces.map fun other =>
      if other.Usable row.nonce now then { other with consumedAt := some now } else other) =
        nonces := by
    rw [List.map_congr_left (g := id)]
    · exact List.map_id _
    · intro other member
      exact if_neg (others other member)
  rw [consumeNonce, found, Option.map_some, List.map_append, kept, List.map_singleton,
    if_pos usable]

theorem verify_signature_of_recovered {account : Address} {message signature : Text}
    {sig : List Nat} {v : Nat} (decoded : hexutilDecode signature = some sig)
    (sized : sig.length = 65) (value : normalizeV (sig.getD 64 0) = some v)
    (recovered : cfg.recover (accountsText message) (sig.set 64 v) = some account) :
    verifySignature cfg.recover cfg.capital message signature (hex cfg.capital account) =
      .ok () := by
  have folds : equalFold (hex cfg.capital account) (hex cfg.capital account) = true :=
    decide_eq_true rfl
  simp only [verifySignature, decoded, sized, value, recovered, folds, ne_eq, not_true_eq_false,
    if_false, if_true]

theorem resume_last {now : Handler} {others : List Handler} (last : s.inFlight = others ++ [now]) :
    resume cfg s others.length =
      match advance cfg s now with
      | .error failure => ({ s with inFlight := others }, some failure)
      | .ok (next, none) => (next.finish others.length, none)
      | .ok (next, some later) =>
          ({ next with inFlight := next.inFlight.set others.length later }, none) := by
  have there : s.inFlight[others.length]? = some now := by
    rw [last, List.getElem?_concat_length]
  have erased : s.inFlight.eraseIdx others.length = others := by
    rw [last, List.eraseIdx_append_of_length_le (Nat.le_refl _), Nat.sub_self]
    exact List.append_nil _
  simp only [resume, there, State.finish, erased]

theorem last_login_of_upsert {address : Text} {users : List User} {now : Int} {user : User}
    (member : user ∈ upsertUserOnLogin now address users) (named : user.address = address) :
    user.lastLoginAt = some now := by
  unfold upsertUserOnLogin at member
  split_ifs at member with there
  · obtain ⟨before, _, rfl⟩ := List.mem_map.1 member
    split_ifs at named ⊢ with same
    · rfl
    · exact absurd named same
  · rcases List.mem_append.1 member with old | new
    · exact absurd (named ▸ List.mem_map_of_mem old) there
    · rw [List.mem_singleton.1 new]

/-! ## The steps of a sign-in -/

section Signed

variable {address signature : Text} {bytes : Nibbles 64} {sig : List Nat} {v : Nat}
  {others : List Handler} {row : Nonce} {next : State}

theorem unforged_of_last {now : Handler} (last : s.inFlight = others ++ [now])
    (other : ∀ row signature, now ≠ .claimed row signature) :
    Action.Unforged cfg s (.resume others.length) := by
  intro row signature _ _ found
  rw [last, List.getElem?_concat_length] at found
  exact absurd (Option.some.inj found) (other row signature)

theorem set_last (now later : Handler) :
    (others ++ [now]).set others.length later = others ++ [later] := by
  rw [List.set_append_right _ _ (Nat.le_refl _), Nat.sub_self]
  rfl

theorem erase_last (now : Handler) : (others ++ [now]).eraseIdx others.length = others := by
  rw [List.eraseIdx_append_of_length_le (Nat.le_refl _), Nat.sub_self]
  exact List.append_nil _

theorem step_render (valid : matchesAddress (trimSpace address) = true) :
    (machine cfg).step s (.nonce bytes address)
      { s with inFlight := s.inFlight ++ [.issuing
          (challenge cfg s.apiNow bytes (hex cfg.capital (hexToAddress (trimSpace address))))] } := by
  refine ⟨trivial, ?_⟩
  have normal : normalizeAddress cfg.capital address =
      some (hex cfg.capital (hexToAddress (trimSpace address))) := by
    rw [normalizeAddress, valid, if_pos rfl]
  simp only [act, handleNonce, normal, orSame]

theorem step_store (last : s.inFlight = others ++ [.issuing row])
    (new : row.nonce ∉ s.nonces.map Nonce.nonce) :
    (machine cfg).step s (.resume others.length)
      { s with
        nonces := s.nonces ++ [row], inFlight := others
        history := s.history ++ [.issued row] } := by
  refine ⟨unforged_of_last last fun _ _ other => (by cases other), ?_⟩
  have created : createNonce row s.nonces = some (s.nonces ++ [row]) := if_neg new
  rw [act, resume_last last]
  simp only [advance, created, State.finish, last, erase_last]

/-- Of the rows, the claim finds the newest and marks no other. -/
theorem step_claim {nonces : List Nonce} (stored : s.nonces = nonces ++ [row])
    (new : row.nonce ∉ nonces.map Nonce.nonce) (unspent : row.consumedAt = none)
    (early : s.dbNow < row.expiresAt) (named : row.nonce ≠ []) (written : signature ≠ []) :
    (machine cfg).step s (.verify row.nonce signature)
      { s with
        nonces := nonces ++ [{ row with consumedAt := some s.dbNow }]
        inFlight := s.inFlight ++ [.claimed row signature]
        history := s.history ++ [.consumed row s.dbNow] } := by
  refine ⟨trivial, ?_⟩
  have consumed := consume_nonce_of_new row new unspent early
  simp only [act, handleVerify, named, written, or_self, if_false, stored, consumed, orSame]

theorem step_prove (last : s.inFlight = others ++ [.claimed row signature])
    (verified : verifySignature cfg.recover cfg.capital row.message signature row.address = .ok ())
    (signed : (hexToAddress row.address, accountsText row.message) ∈ s.signed) :
    (machine cfg).step s (.resume others.length)
      { s with inFlight := others ++ [.proved row] } := by
  constructor
  · intro other _ _ _ found _ _
    rw [last, List.getElem?_concat_length] at found
    cases found
    exact signed
  · rw [act, resume_last last]
    simp only [advance, verified, last, set_last]

theorem step_enrol (last : s.inFlight = others ++ [.proved row]) :
    (machine cfg).step s (.resume others.length)
      { s with
        users := upsertUserOnLogin s.dbNow row.address s.users
        inFlight := others ++ [.known row] } := by
  refine ⟨unforged_of_last last fun _ _ other => (by cases other), ?_⟩
  rw [act, resume_last last]
  simp only [advance, last, set_last]

theorem step_login (last : s.inFlight = others ++ [.known row]) :
    (machine cfg).step s (.resume others.length)
      { s with
        inFlight := others
        history := s.history ++ [.login row (issue cfg s.apiNow row.address)] } := by
  refine ⟨unforged_of_last last fun _ _ other => (by cases other), ?_⟩
  rw [act, resume_last last]
  simp only [advance, State.finish, last, erase_last]

theorem act_all_cons {action : Action} (step : (machine cfg).step s action next)
    (actions : List Action) : actAll cfg s (action :: actions) = actAll cfg next actions := by
  rw [actAll, List.foldl_cons, step.2]
  rfl

/-- A wallet signs the challenge of its account and sends it back. -/
def signIn (cfg : Service) (s : State) (bytes : Nibbles 64) (address signature : Text) :
    List Action :=
  let account := hexToAddress (trimSpace address)
  let row := challenge cfg s.apiNow bytes (hex cfg.capital account)
  let here := s.inFlight.length
  [.nonce bytes address, .resume here, .sign account (accountsText row.message),
    .verify row.nonce signature, .resume here, .resume here, .resume here]

theorem act_all_sign_in (valid : matchesAddress (trimSpace address) = true)
    (new : encodeToString bytes ∉ s.nonces.map Nonce.nonce)
    (early : s.dbNow < s.apiNow + cfg.nonceTTL)
    (decoded : hexutilDecode signature = some sig) (sized : sig.length = 65)
    (value : normalizeV (sig.getD 64 0) = some v)
    (recovered : cfg.recover (accountsText (buildMessage cfg.rfc3339 cfg.site
      (hex cfg.capital (hexToAddress (trimSpace address))) (encodeToString bytes) s.apiNow))
        (sig.set 64 v) = some (hexToAddress (trimSpace address))) :
    let account := hexToAddress (trimSpace address)
    let row := challenge cfg s.apiNow bytes (hex cfg.capital account)
    let final := actAll cfg s (signIn cfg s bytes address signature)
    ((machine cfg).Reachable s → (machine cfg).Reachable final) ∧
      final = { s with
        nonces := s.nonces ++ [{ row with consumedAt := some s.dbNow }]
        users := upsertUserOnLogin s.dbNow row.address s.users
        signed := s.signed ++ [(account, accountsText row.message)]
        history := s.history ++ [.issued row, .consumed row s.dbNow,
          .login row (issue cfg s.apiNow row.address)] } := by
  intro account row final
  have named : row.nonce ≠ [] := by
    intro empty
    have sixtyFour := length_encode_to_string bytes
    rw [show encodeToString bytes = [] from empty] at sixtyFour
    cases sixtyFour
  have written : signature ≠ [] := by
    rintro rfl
    cases decoded
  have own : hexToAddress row.address = account := hex_to_address_hex cfg.capital account
  let rendered : State := { s with inFlight := s.inFlight ++ [.issuing row] }
  let stored : State := { s with
    nonces := s.nonces ++ [row], history := s.history ++ [.issued row] }
  let signed : State := { stored with
    signed := s.signed ++ [(account, accountsText row.message)] }
  let claimed : State := { signed with
    nonces := s.nonces ++ [{ row with consumedAt := some s.dbNow }]
    inFlight := s.inFlight ++ [.claimed row signature]
    history := s.history ++ [.issued row] ++ [.consumed row s.dbNow] }
  let proved : State := { claimed with inFlight := s.inFlight ++ [.proved row] }
  let known : State := { proved with
    users := upsertUserOnLogin s.dbNow row.address s.users
    inFlight := s.inFlight ++ [.known row] }
  let told : State := { known with
    inFlight := s.inFlight
    history := claimed.history ++ [.login row (issue cfg s.apiNow row.address)] }
  have one : (machine cfg).step s (.nonce bytes address) rendered := step_render valid
  have two : (machine cfg).step rendered (.resume s.inFlight.length) stored := step_store rfl new
  have three : (machine cfg).step stored (.sign account (accountsText row.message)) signed :=
    ⟨trivial, rfl⟩
  have four : (machine cfg).step signed (.verify row.nonce signature) claimed :=
    step_claim rfl new rfl early named written
  have verified : verifySignature cfg.recover cfg.capital row.message signature row.address =
      .ok () := verify_signature_of_recovered decoded sized value recovered
  have evidence : (hexToAddress row.address, accountsText row.message) ∈ claimed.signed := by
    rw [own]
    exact List.mem_append_right _ (List.mem_singleton_self _)
  have waiting : claimed.inFlight = s.inFlight ++ [.claimed row signature] := rfl
  have five : (machine cfg).step claimed (.resume s.inFlight.length) proved :=
    step_prove waiting verified evidence
  have six : (machine cfg).step proved (.resume s.inFlight.length) known := step_enrol rfl
  have seven : (machine cfg).step known (.resume s.inFlight.length) told := step_login rfl
  have ends : final = told := by
    change actAll cfg s [_, _, _, _, _, _, _] = told
    rw [act_all_cons one, act_all_cons two, act_all_cons three, act_all_cons four,
      act_all_cons five, act_all_cons six, act_all_cons seven]
    rfl
  rw [ends]
  constructor
  · intro reachable
    exact ((((((reachable.step one).step two).step three).step four).step five).step six).step
      seven
  · simp only [told, known, proved, claimed, signed, stored, List.append_assoc,
      List.cons_append, List.nil_append]

theorem require_auth_of_parsed {parse : Text → Option Claims} {token text : Text}
    {claims : Claims} (filled : token ≠ []) (clean : ∀ c ∈ token, isSpace c = false)
    (parsed : parse token = some claims)
    (normal : normalizeAddress cfg.capital claims.address = some text) :
    requireAuth cfg parse (bearer ++ token) = .ok text := by
  have long : ¬(bearer ++ token).length ≤ bearer.length := by
    have positive := List.length_pos_of_ne_nil filled
    rw [List.length_append]
    omega
  have folds : equalFold bearer bearer = true := decide_eq_true rfl
  have rest : bearerToken (bearer ++ token) = token := by
    rw [bearerToken, List.drop_left, trim_space_of_clean clean]
  rw [requireAuth, List.take_left, rest, parsed, if_neg (not_or.2 ⟨long, not_not.2 folds⟩)]
  simp only [normal]

end Signed

/-! ## A wallet that signs in -/

def sampleAccount : Address := ⟨List.replicate 40 1, List.length_replicate⟩

def sampleBytes : Nibbles 64 := ⟨List.replicate 64 0, List.length_replicate⟩

def sampleSignature : Text := '0' :: 'x' :: ((List.replicate 64 ['0', '1']).flatten ++ ['1', 'b'])

def sampleSite : Site := ⟨"ghoststake".toList, "https://ghoststake".toList, 46630⟩

def epoch : Text := "1970-01-01T00:00:00Z".toList

def sampleSigned : Text :=
  accountsText (buildMessage (fun _ => epoch) sampleSite (hex (fun _ _ => false) sampleAccount)
    (encodeToString sampleBytes) 0)

def sampleService : Service where
  site := sampleSite
  nonceTTL := 300 * 10 ^ 9
  jwtTTL := 24 * hour
  rfc3339 _ := epoch
  capital _ _ := false
  recover text sig :=
    if text = sampleSigned ∧ sig = List.replicate 64 1 ++ [0] then some sampleAccount else none

def sampleText : Text := hex sampleService.capital sampleAccount

def closedDoors : State := ⟨0, 0, [], [], [], [], []⟩

def signedIn : State :=
  actAll sampleService closedDoors
    (signIn sampleService closedDoors sampleBytes sampleText sampleSignature)

theorem hex_to_address_sample : hexToAddress (trimSpace sampleText) = sampleAccount := by
  rw [sampleText, trim_space_hex, hex_to_address_hex]

theorem matches_sample : matchesAddress (trimSpace sampleText) = true := by
  rw [sampleText, trim_space_hex, matches_address_hex]

theorem hexutil_decode_sample :
    hexutilDecode sampleSignature = some (List.replicate 64 1 ++ [27]) := by decide +kernel

theorem recover_sample :
    sampleService.recover (accountsText (buildMessage sampleService.rfc3339 sampleService.site
        (hex sampleService.capital (hexToAddress (trimSpace sampleText)))
        (encodeToString sampleBytes) closedDoors.apiNow))
      ((List.replicate 64 1 ++ [27]).set 64 0) = some (hexToAddress (trimSpace sampleText)) := by
  have normal : (List.replicate 64 1 ++ [27]).set 64 0 = List.replicate 64 1 ++ [0] := rfl
  rw [hex_to_address_sample, normal]
  simp only [sampleService, closedDoors, sampleSigned, and_self, if_true]

theorem reachable_closed_doors : (machine sampleService).Reachable closedDoors :=
  .initial ⟨rfl, rfl, rfl, rfl, rfl⟩

def sampleChallenge : Nonce :=
  challenge sampleService 0 sampleBytes
    (hex sampleService.capital (hexToAddress (trimSpace sampleText)))

def sampleClaims : Claims := issue sampleService 0 sampleChallenge.address

theorem signed_in_told :
    (machine sampleService).Reachable signedIn ∧
      .login sampleChallenge sampleClaims ∈ signedIn.history := by
  obtain ⟨reached, told⟩ : (_ → (machine sampleService).Reachable signedIn) ∧ signedIn = _ :=
    act_all_sign_in matches_sample List.not_mem_nil (by decide) hexutil_decode_sample rfl rfl
      recover_sample
  have history : signedIn.history = [.issued sampleChallenge, .consumed sampleChallenge 0,
      .login sampleChallenge sampleClaims] := congrArg State.history told
  refine ⟨reached reachable_closed_doors, ?_⟩
  rw [history]
  exact List.mem_cons_of_mem _ (List.mem_cons_of_mem _ List.mem_cons_self)

/-! ## What a token is worth -/

/-- However handlers interleave and stop, whoever is given a token has signed
the message of a challenge of this server, and no challenge gives more tokens
than it was issued times. -/
theorem login_of_reachable (reachable : (machine cfg).Reachable s) :
    (∀ nonce, s.history.countP (Event.logsIn nonce) ≤ s.history.countP (Event.consumes nonce) ∧
      s.history.countP (Event.consumes nonce) ≤ s.history.countP (Event.issues nonce)) ∧
    (∀ row claims, .login row claims ∈ s.history →
      ∃ account, Witnessed cfg s row account ∧ claims.address = hex cfg.capital account) ∧
    (∀ user ∈ s.users,
      ∃ row account, Witnessed cfg s row account ∧ user.address = hex cfg.capital account) ∧
    (s.users.map User.address).Nodup := by
  have sound := sound_of_reachable reachable
  refine ⟨?_, ?_, ?_, sound.accounts.unique⟩
  · intro nonce
    have used := sound.used nonce
    have spent := sound.spent nonce
    omega
  · intro row claims login
    obtain ⟨⟨proved, _⟩, named⟩ := sound.told _ login
    obtain ⟨account, witnessed⟩ := witnessed_of_proved sound proved
    exact ⟨account, witnessed, named.trans witnessed.address⟩
  · intro user member
    obtain ⟨row, proved, named⟩ := sound.accounts.enrolled _ (List.mem_map_of_mem member)
    obtain ⟨account, witnessed⟩ := witnessed_of_proved sound proved
    exact ⟨row, account, witnessed, named.symm.trans witnessed.address⟩

theorem login_of_signed_in :
    ∃ account, Witnessed sampleService signedIn sampleChallenge account ∧
      sampleClaims.address = hex sampleService.capital account :=
  (login_of_reachable signed_in_told.1).2.1 _ _ signed_in_told.2

/-- Whoever is answered by `/me` has signed a challenge, and is told of the
one row of the account; no genuine token is of an unknown user. -/
theorem session_of_reachable (reachable : (machine cfg).Reachable s)
    {parse : Text → Option Claims}
    (genuine : ∀ token claims, parse token = some claims → ∃ row, .login row claims ∈ s.history)
    (header : Text) :
    me cfg parse s header = .error .missingToken ∨
      (parse (bearerToken header) = none ∧ me cfg parse s header = .error .invalidToken) ∨
      ∃ claims row account user, parse (bearerToken header) = some claims ∧
        .login row claims ∈ s.history ∧ Witnessed cfg s row account ∧
        user ∈ s.users ∧ user.address = hex cfg.capital account ∧
        (∀ other ∈ s.users, other.address = user.address → other = user) ∧
        me cfg parse s header = .ok user := by
  have sound := sound_of_reachable reachable
  unfold me requireAuth
  split_ifs with malformed
  · exact .inl rfl
  · right
    cases parsed : parse (bearerToken header) with
    | none => exact .inl ⟨rfl, rfl⟩
    | some claims =>
        right
        obtain ⟨row, login⟩ := genuine _ _ parsed
        obtain ⟨⟨proved, registered⟩, named⟩ := sound.told _ login
        obtain ⟨account, witnessed⟩ := witnessed_of_proved sound proved
        obtain ⟨user, member, same, answered⟩ := handle_me_of_registered registered
        refine ⟨claims, row, account, user, rfl, login, witnessed, member,
          same.trans witnessed.address, ?_, ?_⟩
        · intro other listed twin
          exact List.inj_on_of_nodup_map sound.accounts.unique listed member twin
        · have normal : normalizeAddress cfg.capital claims.address = some row.address := by
            rw [named, witnessed.address, normalize_address_hex]
          simp only [normal]
          exact answered

def sampleParse (token : Text) : Option Claims :=
  if token = ['t'] then some sampleClaims else none

theorem sample_parsed : sampleParse ['t'] = some sampleClaims := if_pos rfl

theorem sample_clean : ∀ c ∈ ['t'], isSpace c = false := by
  intro c member
  rw [List.mem_singleton.1 member]
  decide

theorem session_of_signed_in :
    ∃ account user, me sampleService sampleParse signedIn (bearer ++ ['t']) = .ok user ∧
      user.address = hex sampleService.capital account ∧
      ∃ row, Witnessed sampleService signedIn row account := by
  have genuine (token : Text) (claims : Claims) (parsed : sampleParse token = some claims) :
      ∃ row, .login row claims ∈ signedIn.history := by
    simp only [sampleParse] at parsed
    split_ifs at parsed
    cases parsed
    exact ⟨_, signed_in_told.2⟩
  have admitted : requireAuth sampleService sampleParse (bearer ++ ['t']) =
      .ok sampleClaims.address :=
    require_auth_of_parsed (List.cons_ne_nil _ _) sample_clean sample_parsed
      (normalize_address_hex sampleService.capital _)
  rcases session_of_reachable signed_in_told.1 genuine (bearer ++ ['t']) with
    missing | ⟨unparsed, _⟩ | ⟨_, row, account, user, _, _, witnessed, _, named, _, answered⟩
  · rw [me, admitted] at missing
    simp only [handleMe] at missing
    split at missing
    · cases missing
    · cases missing
  · rw [bearerToken, List.drop_left] at unparsed
    cases unparsed
  · exact ⟨account, user, answered, named, row, witnessed⟩

section Signed

variable {address signature : Text} {bytes : Nibbles 64} {sig : List Nat} {v : Nat}

variable (bytes) in
/-- A challenge that its account signs is worth a token, with which `/me`
answers for the account. -/
theorem session_of_signed (reachable : (machine cfg).Reachable s)
    (valid : matchesAddress (trimSpace address) = true)
    (new : encodeToString bytes ∉ s.nonces.map Nonce.nonce)
    (early : s.dbNow < s.apiNow + cfg.nonceTTL)
    (decoded : hexutilDecode signature = some sig) (sized : sig.length = 65)
    (value : normalizeV (sig.getD 64 0) = some v)
    (recovered : cfg.recover (accountsText (buildMessage cfg.rfc3339 cfg.site
      (hex cfg.capital (hexToAddress (trimSpace address))) (encodeToString bytes) s.apiNow))
        (sig.set 64 v) = some (hexToAddress (trimSpace address))) :
    let account := hexToAddress (trimSpace address)
    let row := challenge cfg s.apiNow bytes (hex cfg.capital account)
    let claims := issue cfg s.apiNow row.address
    let final := actAll cfg s (signIn cfg s bytes address signature)
    (machine cfg).Reachable final ∧ final.inFlight = s.inFlight ∧
      .login row claims ∈ final.history ∧
      ∀ parse token, parse token = some claims → token ≠ [] → (∀ c ∈ token, isSpace c = false) →
        ∃ user, me cfg parse final (bearer ++ token) = .ok user ∧
          user.address = hex cfg.capital account ∧ user.lastLoginAt = some s.dbNow := by
  intro account row claims final
  obtain ⟨reached, told⟩ : (_ → (machine cfg).Reachable final) ∧ final = _ :=
    act_all_sign_in valid new early decoded sized value recovered
  clear_value final
  subst told
  have last {a b c : Event} : c ∈ s.history ++ [a, b, c] :=
    List.mem_append_right _ (List.mem_cons_of_mem _ (List.mem_cons_of_mem _ List.mem_cons_self))
  refine ⟨reached reachable, rfl, last, ?_⟩
  intro parse token parsed filled clean
  have normal := normalize_address_hex cfg.capital account
  obtain ⟨user, member, named, answered⟩ :=
    handle_me_of_registered (registered_upsert (hex cfg.capital account) s.users s.dbNow)
  refine ⟨user, ?_, named, last_login_of_upsert member named⟩
  rw [me, require_auth_of_parsed filled clean parsed normal]
  exact answered

end Signed

theorem session_of_signed_sample :
    ∃ user, me sampleService sampleParse signedIn (bearer ++ ['t']) = .ok user ∧
      user.lastLoginAt = some 0 := by
  obtain ⟨_, _, _, answers⟩ := session_of_signed sampleBytes reachable_closed_doors matches_sample
    List.not_mem_nil (by decide) hexutil_decode_sample rfl rfl recover_sample
  obtain ⟨user, answered, _, logged⟩ :=
    answers sampleParse ['t'] sample_parsed (List.cons_ne_nil _ _) sample_clean
  exact ⟨user, answered, logged⟩

end Results

end Auth

end Ghoststake
