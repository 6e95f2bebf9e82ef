import Ghoststake.Index.Deployment

/-!
# One stream for each deployment

Both processes hash the addresses of one configuration, and the cursor is found
again exactly where the two hash the same addresses.
-/

namespace Ghoststake

set_option autoImplicit false

open Checked

namespace Index

variable {hashing : Hashing} {cfg other : Config} {ix otherIx : Indexer}

theorem valid_of_validate {setting : Setting} {value : Text} {done : Unit}
    (passed : validateAddress setting value = .ok done) : matchesAddress value = true := by
  simp only [validateAddress, bind_ok_iff, require_ok_iff] at passed
  obtain ⟨_, shaped, _⟩ := passed
  exact shaped

/-- An accepted address has no space to trim and is not empty. -/
theorem clean_of_valid {value : Text} (shaped : matchesAddress value = true) :
    trimSpace value = value ∧ value ≠ [] := by
  unfold matchesAddress at shaped
  split at shaped
  · rename_i rest
    rw [Bool.and_eq_true, List.all_eq_true] at shaped
    have digit (c : Char) (isDigit : (fromHexChar c).isSome = true) : isSpace c = false := by
      unfold fromHexChar at isDigit
      rw [List.find?_isSome] at isDigit
      obtain ⟨d, _, printed⟩ := isDigit
      have lower : ∀ d, isSpace (lowerDigit d) = false := by
        decide
      have upper : ∀ d, isSpace (upperDigit d) = false := by
        decide
      rcases Bool.or_eq_true_iff.1 printed with same | same
      · exact (eq_of_beq same) ▸ lower d
      · exact (eq_of_beq same) ▸ upper d
    constructor
    · apply trim_space_of_clean
      intro c member
      simp only [List.mem_cons] at member
      rcases member with rfl | rfl | member
      · decide
      · decide
      · exact digit c (shaped.2 c member)
    · nofun
  · cases shaped

/-- The vault, the pool and every market of a configuration `Load` accepts. -/
theorem valid_of_load (loaded : cfg.load = .ok cfg) :
    ∀ value ∈ cfg.vaultAddress :: cfg.poolAddress :: cfg.marketAddresses,
      matchesAddress value = true := by
  simp only [Config.load, bind_ok_iff, require_ok_iff] at loaded
  obtain ⟨_, _, _, vault, _, pool, _, markets, _⟩ := loaded
  intro value member
  simp only [List.mem_cons] at member
  rcases member with rfl | rfl | member
  · exact valid_of_validate vault
  · exact valid_of_validate pool
  · obtain ⟨i, inside, rfl⟩ := List.getElem_of_mem member
    have listed : (cfg.marketAddresses[i], i) ∈ cfg.marketAddresses.zipIdx := by
      rw [List.mem_zipIdx_iff_getElem?]
      exact List.getElem?_eq_getElem inside
    exact valid_of_validate (each_of_forM markets _ listed)

def lendingAddresses (cfg : Config) : List Address :=
  (cfg.vaultAddress :: cfg.poolAddress :: cfg.marketAddresses).map hexToAddress

theorem addresses_of_new (built : Indexer.new hashing cfg = .ok ix) :
    ix.addresses = lendingAddresses cfg ++ cfg.eventOracles.map fun o => hexToAddress o.oracle := by
  obtain ⟨contracts, addresses, _⟩ := Indexer.of_new built
  rw [addresses, contracts, specs, lendingAddresses]
  simp only [List.map_append, List.map_map, List.map_cons, List.cons_append, List.nil_append]
  rfl

theorem lending_ne_nil (cfg : Config) : lendingAddresses cfg ≠ [] := nofun

theorem deployment_addresses_of_load (loaded : cfg.load = .ok cfg) :
    deploymentAddresses hashing cfg.vaultAddress cfg.poolAddress cfg.marketAddresses =
      (lendingAddresses cfg).map (hex hashing.capital) := by
  have clean := fun value member => clean_of_valid (valid_of_load loaded value member)
  have trimmed : (cfg.vaultAddress :: cfg.poolAddress :: cfg.marketAddresses).map trimSpace =
      cfg.vaultAddress :: cfg.poolAddress :: cfg.marketAddresses := by
    have each := List.map_congr_left fun value member => (clean value member).1
    rw [each, List.map_id']
  have kept : ((cfg.vaultAddress :: cfg.poolAddress :: cfg.marketAddresses).filter
      fun a => a ≠ []) = cfg.vaultAddress :: cfg.poolAddress :: cfg.marketAddresses := by
    apply List.filter_eq_self.2
    intro value member
    exact decide_eq_true (clean value member).2
  rw [deploymentAddresses, trimmed, kept, lendingAddresses, List.map_map]
  rfl

def apiText (hashing : Hashing) (cfg : Config) : Text :=
  canonical ((lendingAddresses cfg).map (hex hashing.capital))

def watchedText (hashing : Hashing) (ix : Indexer) : Text :=
  canonical (ix.addresses.map (hex hashing.capital))

/-- The truncated digest tells the two texts apart. -/
def Hashing.Separates (hashing : Hashing) (left right : Text) : Prop :=
  hashing.sum left = hashing.sum right → left = right

theorem indexed_stream_of_load (loaded : cfg.load = .ok cfg) :
    indexedStream hashing cfg =
      streamName cfg.chainID (encodeToString (hashing.sum (apiText hashing cfg))) := by
  rw [indexedStream, deploymentOf, deployment_addresses_of_load loaded]
  rfl

theorem stream_of_new (built : Indexer.new hashing cfg = .ok ix) :
    ix.stream = streamName cfg.chainID (encodeToString (hashing.sum (watchedText hashing ix))) := by
  obtain ⟨_, _, _, print, stream⟩ := Indexer.of_new built
  rw [stream, print]
  rfl

theorem encode_ne_nil (digest : Digest) : encodeToString digest ≠ [] := by
  intro empty
  have width := digest.sized
  rw [List.map_eq_nil_iff.1 empty] at width
  cases width

/-- Streams are the same exactly where the hashed texts are. -/
theorem text_of_stream {chain chain' : Int} {left right : Text}
    (separates : hashing.Separates left right)
    (same : streamName chain (encodeToString (hashing.sum left)) =
      streamName chain' (encodeToString (hashing.sum right))) : left = right := by
  have contracts := (stream_name_injective (encode_ne_nil _) (encode_ne_nil _) same).2
  exact separates (encode_to_string_injective contracts)

/-- The API finds the indexer's cursor exactly where no event oracle is watched. -/
theorem api_finds_cursor_iff (loaded : cfg.load = .ok cfg)
    (built : Indexer.new hashing cfg = .ok ix)
    (separates : hashing.Separates (apiText hashing cfg) (watchedText hashing ix)) :
    indexedStream hashing cfg = ix.stream ↔ cfg.eventOracles = [] := by
  have addresses := addresses_of_new built
  rw [indexed_stream_of_load loaded, stream_of_new built]
  constructor
  · intro same
    have texts := text_of_stream separates same
    have someWatched : ix.addresses ≠ [] := by
      rw [addresses]
      nofun
    have perm := perm_of_canonical (lending_ne_nil cfg) someWatched texts
    have lengths := perm.length_eq
    rw [addresses, List.length_append, List.length_map] at lengths
    exact List.length_eq_zero_iff.1 (by omega)
  · intro none
    have watched : ix.addresses = lendingAddresses cfg := by
      rw [addresses, none, List.map_nil, List.append_nil]
    rw [watchedText, watched]
    rfl

theorem perm_of_shared_stream (built : Indexer.new hashing cfg = .ok ix)
    (otherBuilt : Indexer.new hashing other = .ok otherIx)
    (separates : hashing.Separates (watchedText hashing ix) (watchedText hashing otherIx))
    (shared : ix.stream = otherIx.stream) : ix.addresses.Perm otherIx.addresses := by
  have watched {cfg : Config} {ix : Indexer} (built : Indexer.new hashing cfg = .ok ix) :
      ix.addresses ≠ [] := by
    rw [addresses_of_new built]
    nofun
  rw [stream_of_new built, stream_of_new otherBuilt] at shared
  exact perm_of_canonical (watched built) (watched otherBuilt) (text_of_stream separates shared)

/-- The API reads the cursor the indexer writes exactly where the configuration
lists no event oracle, and no two sets of watched contracts share a stream. -/
theorem api_reads_cursor_iff (loaded : cfg.load = .ok cfg)
    (built : Indexer.new hashing cfg = .ok ix)
    (separates : hashing.Separates (apiText hashing cfg) (watchedText hashing ix)) :
    (indexedStream hashing cfg = ix.stream ↔ cfg.eventOracles = []) ∧
      ∀ other otherIx, other.load = .ok other → Indexer.new hashing other = .ok otherIx →
        hashing.Separates (watchedText hashing ix) (watchedText hashing otherIx) →
        (¬∀ address, address ∈ ix.addresses ↔ address ∈ otherIx.addresses) →
        ix.stream ≠ otherIx.stream := by
  constructor
  · exact api_finds_cursor_iff loaded built separates
  · intro other otherIx _ otherBuilt apart differ shared
    apply differ
    intro address
    exact (perm_of_shared_stream built otherBuilt apart shared).mem_iff

section Sample

def sampleAddress (digit : Char) : Text := '0' :: 'x' :: List.replicate 40 digit

def sampleText (digits : List Char) : Text := join (digits.map sampleAddress)

/-- SHA-256 on the address lists of the samples, none of which has a letter for
EIP-55 to capitalise, and on the empty text. -/
def sampleHashing : Hashing where
  capital _ _ := false
  sum text :=
    if text = sampleText ['1', '2', '3'] then
      ⟨[0, 5, 15, 15, 8, 9, 4, 8, 15, 13, 12, 0, 6, 11, 9, 12], rfl⟩
    else if text = sampleText ['1', '2', '3', '4'] then
      ⟨[14, 4, 12, 15, 11, 0, 7, 1, 10, 14, 14, 0, 0, 11, 13, 15], rfl⟩
    else if text = sampleText ['1', '2', '5'] then
      ⟨[1, 1, 8, 11, 9, 3, 2, 15, 9, 5, 7, 5, 14, 1, 15, 14], rfl⟩
    else if text = sampleText ['6', '7', '8'] then
      ⟨[4, 8, 9, 10, 14, 1, 15, 6, 12, 11, 4, 10, 11, 15, 14, 0], rfl⟩
    else
      ⟨[14, 3, 11, 0, 12, 4, 4, 2, 9, 8, 15, 12, 1, 12, 1, 4], rfl⟩

def sampleOracle : EventOracle where
  oracle := sampleAddress '4'
  market := sampleAddress '3'
  roundID := 1
  raw := sampleAddress '4' ++ ':' :: sampleAddress '3' ++ [':', '1']
  malformed := []

def sampleConfig : Config where
  chainID := 11155111
  vaultAddress := sampleAddress '1'
  poolAddress := sampleAddress '2'
  marketAddresses := [sampleAddress '3']
  eventOracles := [sampleOracle]
  startBlock := 1
  skipDecoderReplay := false
  confirmations := 5
  batchSize := 2000

def otherConfig : Config :=
  { sampleConfig with marketAddresses := [sampleAddress '5'], eventOracles := [] }

def built (hashing : Hashing) (cfg : Config) : Indexer :=
  match Indexer.new hashing cfg with
  | .ok ix => ix
  | .error _ => ⟨cfg, [], [], [], []⟩

/-- With an event oracle configured, the API looks for a cursor nobody writes. -/
theorem oracle_hides_cursor :
    sampleConfig.load = .ok sampleConfig ∧
      Indexer.new sampleHashing sampleConfig = .ok (built sampleHashing sampleConfig) ∧
      sampleHashing.Separates (apiText sampleHashing sampleConfig)
        (watchedText sampleHashing (built sampleHashing sampleConfig)) ∧
      indexedStream sampleHashing sampleConfig ≠ (built sampleHashing sampleConfig).stream := by
  refine ⟨by decide +kernel, by decide +kernel, ?_, by decide +kernel⟩
  exact fun same => absurd same (by decide +kernel)

theorem api_reads_cursor_sample :
    (indexedStream sampleHashing sampleConfig = (built sampleHashing sampleConfig).stream ↔
        sampleConfig.eventOracles = []) ∧
      (built sampleHashing sampleConfig).stream ≠ (built sampleHashing otherConfig).stream := by
  have loaded : sampleConfig.load = .ok sampleConfig := by decide +kernel
  have made : Indexer.new sampleHashing sampleConfig =
      .ok (built sampleHashing sampleConfig) := by decide +kernel
  have results := api_reads_cursor_iff loaded made (fun same => absurd same (by decide +kernel))
  refine ⟨results.1, results.2 otherConfig _ (by decide +kernel) (by decide +kernel)
    (fun same => absurd same (by decide +kernel)) ?_⟩
  intro shared
  exact absurd ((shared (hexToAddress (sampleAddress '4'))).1 (by decide +kernel))
    (by decide +kernel)

end Sample

end Index

end Ghoststake
