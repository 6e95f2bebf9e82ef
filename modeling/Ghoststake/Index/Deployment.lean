import Mathlib
import Ghoststake.Chain.Uint
import Ghoststake.Library.Checked

/-!
# Deployments and their streams

How a configuration names the cursor its position is kept under: addresses as
they are typed, parsed and printed, the fingerprint of an address set, and the
two places that build one, `New` in the indexer and `DeploymentOf` in the API.
-/

namespace Ghoststake

set_option autoImplicit false

open Checked

namespace Index

/-! ## Texts -/

/-- A Go string. Every text a configuration is accepted with is ASCII. -/
abbrev Text := List Char

def isSpace (c : Char) : Bool :=
  (9 ≤ c.toNat && c.toNat ≤ 13) || c == ' ' || c.toNat == 0x85 || c.toNat == 0xA0 ||
    c.toNat == 0x1680 || (0x2000 ≤ c.toNat && c.toNat ≤ 0x200A) || c.toNat == 0x2028 ||
    c.toNat == 0x2029 || c.toNat == 0x202F || c.toNat == 0x205F || c.toNat == 0x3000

def trimSpace (text : Text) : Text :=
  ((text.dropWhile isSpace).reverse.dropWhile isSpace).reverse

def toLower (text : Text) : Text := text.map Char.toLower

def sortStrings (texts : List Text) : List Text :=
  texts.insertionSort fun left right => left ≤ right

def join (texts : List Text) : Text := [','].intercalate texts

/-- `%d` of an `int64`. -/
def decimal : Int → Text
  | .ofNat n => Nat.toDigits 10 n
  | .negSucc n => '-' :: Nat.toDigits 10 (n + 1)

theorem trim_space_of_clean {text : Text} (clean : ∀ c ∈ text, isSpace c = false) :
    trimSpace text = text := by
  have front : text.dropWhile isSpace = text := by
    cases text with
    | nil => rfl
    | cons c rest => exact List.dropWhile_cons_of_neg (by simp [clean c List.mem_cons_self])
  have back : text.reverse.dropWhile isSpace = text.reverse := by
    cases reversed : text.reverse with
    | nil => rfl
    | cons c rest =>
        have member : c ∈ text := by
          rw [← List.mem_reverse, reversed]
          exact List.mem_cons_self
        exact List.dropWhile_cons_of_neg (by simp [clean c member])
  rw [trimSpace, front, back, List.reverse_reverse]

/-- What was joined can be read back, as long as no part holds the separator. -/
theorem join_injective {left right : List Text} (leftSome : left ≠ []) (rightSome : right ≠ [])
    (leftClean : ∀ text ∈ left, ',' ∉ text) (rightClean : ∀ text ∈ right, ',' ∉ text)
    (same : join left = join right) : left = right := by
  rw [← List.splitOn_intercalate ',' leftClean leftSome,
    ← List.splitOn_intercalate ',' rightClean rightSome]
  exact congrArg (List.splitOn ',') same

theorem colon_not_mem_decimal (n : Int) : ':' ∉ decimal n := by
  have digits (k : Nat) : ':' ∉ Nat.toDigits 10 k := by
    intro member
    have := Nat.isDigit_of_mem_toDigits (by decide) (by decide) member
    exact absurd this (by decide)
  cases n with
  | ofNat k => exact digits k
  | negSucc k =>
      intro member
      cases member with
      | tail _ member => exact digits (k + 1) member

/-- Two texts that agree up to and past a separator neither head holds. -/
theorem append_cons_injective {c : Char} {left right tail tail' : Text} (leftClean : c ∉ left)
    (rightClean : c ∉ right) (same : left ++ c :: tail = right ++ c :: tail') :
    left = right ∧ tail = tail' := by
  induction left generalizing right with
  | nil =>
      cases right with
      | nil => exact ⟨rfl, List.tail_eq_of_cons_eq same⟩
      | cons d rest =>
          have first : c = d := List.head_eq_of_cons_eq same
          exact absurd (first ▸ List.mem_cons_self) rightClean
  | cons d rest ih =>
      cases right with
      | nil =>
          have first : d = c := List.head_eq_of_cons_eq same
          exact absurd (first ▸ List.mem_cons_self) leftClean
      | cons e others =>
          have first : d = e := List.head_eq_of_cons_eq same
          have rest := ih (fun member => leftClean (List.mem_cons_of_mem _ member))
            (fun member => rightClean (List.mem_cons_of_mem _ member))
            (List.tail_eq_of_cons_eq same)
          exact ⟨by rw [first, rest.1], rest.2⟩

/-! ## Addresses -/

structure Nibbles (width : Nat) where
  digits : List (Fin 16)
  sized : digits.length = width
deriving DecidableEq

/-- `common.Address`: twenty bytes. -/
abbrev Address := Nibbles 40

/-- `sum[:8]`: the eight bytes a fingerprint keeps of a digest. -/
abbrev Digest := Nibbles 16

instance lawfulBEqAddress : LawfulBEq Address := inferInstance

theorem length_ones : (List.replicate 40 (1 : Fin 16)).length = 40 := List.length_replicate

theorem length_zeros : (List.replicate 64 (0 : Fin 16)).length = 64 := List.length_replicate

@[ext]
theorem Nibbles.ext {width : Nat} {left right : Nibbles width}
    (same : left.digits = right.digits) : left = right := by
  cases left
  cases right
  cases same
  rfl

def lowerDigit (d : Fin 16) : Char := "0123456789abcdef".toList.getD d.val '0'

def upperDigit (d : Fin 16) : Char := "0123456789ABCDEF".toList.getD d.val '0'

def fromHexChar (c : Char) : Option (Fin 16) :=
  (List.finRange 16).find? fun d => lowerDigit d == c || upperDigit d == c

def encodeToString {width : Nat} (bytes : Nibbles width) : Text := bytes.digits.map lowerDigit

/-- `hex.DecodeString`, which stops at the first byte it cannot read. -/
def decodeString : Text → List (Fin 16)
  | high :: low :: rest =>
      match fromHexChar high, fromHexChar low with
      | some high, some low => high :: low :: decodeString rest
      | _, _ => []
  | _ => []

def fromHex (text : Text) : List (Fin 16) :=
  let body := match text with
    | '0' :: 'x' :: rest => rest
    | '0' :: 'X' :: rest => rest
    | text => text
  decodeString (if body.length % 2 = 1 then '0' :: body else body)

/-- `common.HexToAddress`: the last twenty bytes, padded on the left. -/
def hexToAddress (text : Text) : Address where
  digits :=
    let padded := List.replicate 40 0 ++ fromHex text
    padded.drop (padded.length - 40)
  sized := by
    simp only [List.length_drop, List.length_append, List.length_replicate]
    omega

section Printing

-- which digits EIP-55 prints in upper case, by the Keccak digest
variable (capital : Address → Nat → Bool)

def hex (address : Address) : Text :=
  '0' :: 'x' :: address.digits.mapIdx fun i d =>
    if capital address i then upperDigit d else lowerDigit d

/-- Addresses as a fingerprint sees them. -/
def lowerHex (address : Address) : Text := '0' :: 'x' :: encodeToString address

theorem to_lower_hex (address : Address) : toLower (hex capital address) = lowerHex address := by
  have digit (d : Fin 16) (up : Bool) :
      (if up then upperDigit d else lowerDigit d).toLower = lowerDigit d := by
    revert d up
    decide
  have drops : (address.digits.mapIdx fun i d =>
      if capital address i then upperDigit d else lowerDigit d).map Char.toLower =
        address.digits.map lowerDigit := by
    apply List.ext_getElem
    · simp
    · intro i _ _
      simp [digit]
  simp only [toLower, hex, lowerHex, encodeToString, List.map_cons, drops]
  rfl

theorem hex_clean (address : Address) : ∀ c ∈ hex capital address, isSpace c = false := by
  have digit (d : Fin 16) (up : Bool) :
      isSpace (if up then upperDigit d else lowerDigit d) = false := by
    revert d up
    decide
  intro c member
  simp only [hex, List.mem_cons] at member
  rcases member with rfl | rfl | member
  · decide
  · decide
  · obtain ⟨i, inside, rfl⟩ := List.mem_mapIdx.1 member
    exact digit _ _

end Printing

theorem lower_digit_injective : Function.Injective lowerDigit := by
  intro left right
  revert left right
  decide

theorem encode_to_string_injective {width : Nat} :
    Function.Injective (@encodeToString width) := by
  intro left right same
  exact Nibbles.ext (List.map_injective_iff.2 lower_digit_injective same)

theorem lower_hex_injective : Function.Injective lowerHex := by
  intro left right same
  exact encode_to_string_injective (List.tail_eq_of_cons_eq (List.tail_eq_of_cons_eq same))

theorem comma_not_mem_lower_hex (address : Address) : ',' ∉ lowerHex address := by
  have digit (d : Fin 16) : lowerDigit d ≠ ',' := by
    revert d
    decide
  intro member
  simp only [lowerHex, encodeToString, List.mem_cons, List.mem_map] at member
  rcases member with zero | ex | ⟨d, _, is⟩
  · exact absurd zero (by decide)
  · exact absurd ex (by decide)
  · exact digit d is

/-! ## Fingerprints and stream names -/

/-- The digests the code takes: Keccak for the casing of a printed address,
SHA-256 for a fingerprint. -/
structure Hashing where
  capital : Address → Nat → Bool
  /-- `sha256.Sum256(text)[:8]`. -/
  sum : Text → Digest

/-- What `Fingerprint` hashes. -/
def canonical (addresses : List Text) : Text :=
  join (sortStrings ((addresses.map fun a => toLower (trimSpace a)).filter fun a => a ≠ []))

def fingerprint (hashing : Hashing) (addresses : List Text) : Text :=
  encodeToString (hashing.sum (canonical addresses))

/-- The addresses `DeploymentOf` hashes. -/
def deploymentAddresses (hashing : Hashing) (vault pool : Text) (markets : List Text) :
    List Text :=
  (((vault :: pool :: markets).map trimSpace).filter fun a => a ≠ []).map fun a =>
    hex hashing.capital (hexToAddress a)

def deploymentOf (hashing : Hashing) (vault pool : Text) (markets : List Text) : Text :=
  fingerprint hashing (deploymentAddresses hashing vault pool markets)

def streamName (chainID : Int) (contracts : Text) : Text :=
  if contracts = [] then "ghoststake:".toList ++ decimal chainID
  else "ghoststake:".toList ++ (decimal chainID ++ ':' :: contracts)

theorem canonical_hex (capital : Address → Nat → Bool) (addresses : List Address) :
    canonical (addresses.map (hex capital)) = join (sortStrings (addresses.map lowerHex)) := by
  have kept : ((addresses.map (hex capital)).map fun a => toLower (trimSpace a)) =
      addresses.map lowerHex := by
    rw [List.map_map]
    apply List.map_congr_left
    intro address _
    rw [Function.comp_apply, trim_space_of_clean (hex_clean capital address), to_lower_hex]
  have some : ((addresses.map lowerHex).filter fun a => a ≠ []) = addresses.map lowerHex := by
    apply List.filter_eq_self.2
    intro text member
    obtain ⟨address, _, rfl⟩ := List.mem_map.1 member
    rfl
  rw [canonical, kept, some]

/-- Two address lists hashed from one text list the same addresses. -/
theorem perm_of_canonical {capital : Address → Nat → Bool} {left right : List Address}
    (leftSome : left ≠ []) (rightSome : right ≠ [])
    (same : canonical (left.map (hex capital)) = canonical (right.map (hex capital))) :
    left.Perm right := by
  have sorted (addresses : List Address) :
      (sortStrings (addresses.map lowerHex)).Perm (addresses.map lowerHex) :=
    List.perm_insertionSort _ _
  have clean (addresses : List Address) :
      ∀ text ∈ sortStrings (addresses.map lowerHex), ',' ∉ text := by
    intro text member
    obtain ⟨address, _, rfl⟩ := List.mem_map.1 ((sorted addresses).mem_iff.1 member)
    exact comma_not_mem_lower_hex address
  have some {addresses : List Address} (nonempty : addresses ≠ []) :
      sortStrings (addresses.map lowerHex) ≠ [] := by
    intro empty
    have none := sorted addresses
    rw [empty] at none
    exact nonempty (List.map_eq_nil_iff.1 none.nil_eq.symm)
  rw [canonical_hex, canonical_hex] at same
  have texts := join_injective (some leftSome) (some rightSome) (clean left) (clean right) same
  have perm := (sorted left).symm.trans (texts ▸ sorted right)
  exact (List.map_perm_map_iff lower_hex_injective).1 perm

theorem fingerprint_ne_nil (hashing : Hashing) (addresses : List Text) :
    fingerprint hashing addresses ≠ [] := by
  intro empty
  have width := (hashing.sum (canonical addresses)).sized
  rw [List.map_eq_nil_iff.1 empty] at width
  cases width

/-- A stream name tells its chain and its contracts. -/
theorem stream_name_injective {chain chain' : Int} {contracts contracts' : Text}
    (some : contracts ≠ []) (some' : contracts' ≠ [])
    (same : streamName chain contracts = streamName chain' contracts') :
    decimal chain = decimal chain' ∧ contracts = contracts' := by
  rw [streamName, streamName, if_neg some, if_neg some'] at same
  exact append_cons_injective (colon_not_mem_decimal chain) (colon_not_mem_decimal chain')
    (List.append_cancel_left same)

theorem legacy_ne_stream_name {chain chain' : Int} {contracts : Text} (some : contracts ≠ []) :
    streamName chain [] ≠ streamName chain' contracts := by
  intro same
  rw [streamName, streamName, if_pos rfl, if_neg some] at same
  have rest := List.append_cancel_left same
  apply colon_not_mem_decimal chain
  rw [rest]
  exact List.mem_append_right _ List.mem_cons_self

/-! ## Configurations -/

structure EventOracle where
  oracle : Text
  market : Text
  roundID : Nat
  raw : Text
  /-- Set to `raw` where the entry is not three parts. -/
  malformed : Text
deriving DecidableEq

structure Config where
  chainID : Int
  vaultAddress : Text
  poolAddress : Text
  marketAddresses : List Text
  eventOracles : List EventOracle
  startBlock : Nat
  skipDecoderReplay : Bool
  confirmations : Nat
  batchSize : Nat
deriving DecidableEq

inductive Setting where
  | vaultAddress
  | poolAddress
  | marketAddresses (i : Nat)
  | eventOracle (i : Nat)
  | eventOracleMarket (i : Nat)
deriving DecidableEq

inductive Refusal where
  | contractsRequired
  | startBlockRequired
  | notAnAddress (setting : Setting) (value : Text)
  | zeroAddress (setting : Setting)
  | malformedOracle (i : Nat) (value : Text)
  | noRoundID (i : Nat) (value : Text)
  | listedMoreThanOnce (address : Address)
deriving DecidableEq

/-- `^0x[0-9a-fA-F]{40}$`. -/
def matchesAddress : Text → Bool
  | '0' :: 'x' :: rest => rest.length == 40 && rest.all fun c => (fromHexChar c).isSome
  | _ => false

def validateAddress (setting : Setting) (value : Text) : Except Refusal Unit := do
  require (matchesAddress value) (.notAnAddress setting value)
  require (toLower value ≠ '0' :: 'x' :: List.replicate 40 '0') (.zeroAddress setting)

def validateOracle (entry : EventOracle × Nat) : Except Refusal Unit := do
  require (entry.1.malformed = []) (.malformedOracle entry.2 entry.1.malformed)
  validateAddress (.eventOracle entry.2) entry.1.oracle
  validateAddress (.eventOracleMarket entry.2) entry.1.market
  require (entry.1.roundID ≠ 0) (.noRoundID entry.2 entry.1.raw)

/-- The checks `config.Load` makes when the indexer is enabled. -/
def Config.load (cfg : Config) : Except Refusal Config := do
  require (cfg.vaultAddress ≠ [] ∧ cfg.poolAddress ≠ [] ∧ cfg.marketAddresses ≠ [])
    .contractsRequired
  validateAddress .vaultAddress cfg.vaultAddress
  validateAddress .poolAddress cfg.poolAddress
  cfg.marketAddresses.zipIdx.forM fun entry => validateAddress (.marketAddresses entry.2) entry.1
  cfg.eventOracles.zipIdx.forM validateOracle
  require (cfg.startBlock ≠ 0) .startBlockRequired
  return cfg

/-! ## The indexer of a configuration -/

inductive ContractName where
  | collateralVault
  | borrowLiquidityPool
  | parimutuelRound
  | eventRoundOracle
deriving DecidableEq

structure Spec where
  name : ContractName
  address : Text
  /-- The entry `decodeEventOracle` is closed over. -/
  oracle : Option EventOracle
deriving DecidableEq

structure ContractSpec where
  name : ContractName
  address : Address
  oracle : Option EventOracle
  /-- The market its round events are filed under. -/
  market : Option Address
deriving DecidableEq

structure Indexer where
  cfg : Config
  contracts : List ContractSpec
  addresses : List Address
  stream : Text
  fingerprint : Text
deriving DecidableEq

def specs (cfg : Config) : List Spec :=
  [⟨.collateralVault, cfg.vaultAddress, none⟩, ⟨.borrowLiquidityPool, cfg.poolAddress, none⟩] ++
    (cfg.marketAddresses.map fun market => ⟨.parimutuelRound, market, none⟩) ++
    cfg.eventOracles.map fun o => ⟨.eventRoundOracle, o.oracle, some o⟩

def marketOf (name : ContractName) (override : Option Address) (address : Address) :
    Option Address :=
  match override with
  | some market => some market
  | none => if name = .parimutuelRound then some address else none

def Spec.parse (spec : Spec) : ContractSpec where
  name := spec.name
  address := hexToAddress spec.address
  oracle := spec.oracle
  market := marketOf spec.name (spec.oracle.map fun o => hexToAddress o.market)
    (hexToAddress spec.address)

/-- One turn of the loop over `specs`, which refuses an address listed before. -/
def enlist (contracts : List ContractSpec) (spec : Spec) : Except Refusal (List ContractSpec) := do
  require (hexToAddress spec.address ∉ contracts.map (·.address))
    (.listedMoreThanOnce (hexToAddress spec.address))
  return contracts ++ [spec.parse]

def Indexer.new (hashing : Hashing) (cfg : Config) : Except Refusal Indexer := do
  require (cfg.vaultAddress ≠ [] ∧ cfg.poolAddress ≠ [] ∧ cfg.marketAddresses ≠ [])
    .contractsRequired
  require (cfg.startBlock ≠ 0) .startBlockRequired
  let contracts ← (specs cfg).foldlM enlist []
  let hexes := contracts.map fun c => hex hashing.capital c.address
  return {
    cfg := { cfg with batchSize := if cfg.batchSize = 0 then 2000 else cfg.batchSize }
    contracts := contracts
    addresses := contracts.map (·.address)
    stream := streamName cfg.chainID (Index.fingerprint hashing hexes)
    fingerprint := Index.fingerprint hashing hexes }

theorem mem_enlist {contracts after : List ContractSpec} {spec : Spec}
    (ran : enlist contracts spec = .ok after) :
    spec.parse.address ∉ contracts.map (·.address) ∧ after = contracts ++ [spec.parse] := by
  simp only [enlist, bind_ok_iff, require_ok_iff, pure_ok_iff] at ran
  obtain ⟨_, fresh, rfl⟩ := ran
  exact ⟨fresh, rfl⟩

/-- The loop lists every contract it is given, none of them twice. -/
theorem contracts_of_enlisted {contracts after : List ContractSpec} {listed : List Spec}
    (distinct : (contracts.map (·.address)).Nodup)
    (ran : listed.foldlM enlist contracts = .ok after) :
    after = contracts ++ listed.map Spec.parse ∧ (after.map (·.address)).Nodup := by
  induction listed generalizing contracts with
  | nil =>
      simp only [List.foldlM_nil, pure_ok_iff] at ran
      subst ran
      exact ⟨(List.append_nil _).symm, distinct⟩
  | cons spec rest ih =>
      simp only [List.foldlM_cons, bind_ok_iff] at ran
      obtain ⟨mid, first, ran⟩ := ran
      obtain ⟨fresh, rfl⟩ := mem_enlist first
      have longer : ((contracts ++ [spec.parse]).map (·.address)).Nodup := by
        rw [List.map_append, List.nodup_append]
        refine ⟨distinct, List.pairwise_singleton _ _, ?_⟩
        intro left inLeft right inRight same
        have last : right = spec.parse.address := List.mem_singleton.1 inRight
        apply fresh
        rw [← last, ← same]
        exact inLeft
      obtain ⟨whole, nodup⟩ := ih longer ran
      refine ⟨?_, nodup⟩
      rw [whole, List.append_assoc]
      rfl

theorem Indexer.of_new {hashing : Hashing} {cfg : Config} {ix : Indexer}
    (built : Indexer.new hashing cfg = .ok ix) :
    ix.contracts = (specs cfg).map Spec.parse ∧ ix.addresses = ix.contracts.map (·.address) ∧
      ix.addresses.Nodup ∧
      ix.fingerprint = Index.fingerprint hashing (ix.addresses.map (hex hashing.capital)) ∧
      ix.stream = streamName cfg.chainID ix.fingerprint := by
  simp only [Indexer.new, bind_ok_iff, require_ok_iff, pure_ok_iff] at built
  obtain ⟨_, _, _, _, contracts, enlisted, rfl⟩ := built
  have none : (([] : List ContractSpec).map (·.address)).Nodup := List.nodup_nil
  obtain ⟨whole, nodup⟩ := contracts_of_enlisted none enlisted
  refine ⟨whole, rfl, nodup, ?_, rfl⟩
  simp only [List.map_map]
  rfl

theorem Indexer.nonzero_of_new {hashing : Hashing} {cfg : Config} {ix : Indexer}
    (built : Indexer.new hashing cfg = .ok ix) :
    ix.cfg.startBlock ≠ 0 ∧ ix.cfg.batchSize ≠ 0 ∧ ix.cfg.chainID = cfg.chainID := by
  simp only [Indexer.new, bind_ok_iff, require_ok_iff, pure_ok_iff] at built
  obtain ⟨_, _, _, started, contracts, _, rfl⟩ := built
  refine ⟨started, ?_, rfl⟩
  show (if cfg.batchSize = 0 then 2000 else cfg.batchSize) ≠ 0
  split_ifs with zero
  · decide
  · exact zero

theorem Indexer.stream_ne_legacy {hashing : Hashing} {cfg : Config} {ix : Indexer}
    (built : Indexer.new hashing cfg = .ok ix) (chainID : Int) :
    streamName chainID [] ≠ ix.stream := by
  obtain ⟨_, _, _, print, stream⟩ := Indexer.of_new built
  rw [stream]
  apply legacy_ne_stream_name
  rw [print]
  exact fingerprint_ne_nil hashing _

/-- The stream the API's `indexedBlock` looks up. -/
def indexedStream (hashing : Hashing) (cfg : Config) : Text :=
  streamName cfg.chainID (deploymentOf hashing cfg.vaultAddress cfg.poolAddress cfg.marketAddresses)

end Index

end Ghoststake
