import Ghoststake.Index.Spelling
import Ghoststake.Ledger.Activity

/-!
# Sign-In With Ethereum

The message a wallet signs to sign in, and the check of its signature. The
curve is a parameter; what is signed for one challenge is signed for no other.
-/

namespace Ghoststake

set_option autoImplicit false

open Checked

namespace Auth

open Index Ledger

/-! ## Addresses -/

/-- `NormalizeAddress`: nothing where the text is no address. -/
def normalizeAddress (capital : Address → Nat → Bool) (text : Text) : Option Text :=
  if matchesAddress (trimSpace text) then some (hex capital (hexToAddress (trimSpace text)))
  else none

theorem hex_to_address_hex (capital : Address → Nat → Bool) (address : Address) :
    hexToAddress (hex capital address) = address :=
  hex_to_address_of_fold (decide_eq_true rfl)

theorem trim_space_hex (capital : Address → Nat → Bool) (address : Address) :
    trimSpace (hex capital address) = hex capital address :=
  trim_space_of_clean (hex_clean capital address)

theorem matches_address_hex (capital : Address → Nat → Bool) (address : Address) :
    matchesAddress (hex capital address) = true := by
  have digit (d : Fin 16) (up : Bool) :
      (fromHexChar (if up then upperDigit d else lowerDigit d)).isSome = true := by
    revert d up
    decide
  simp only [matchesAddress, hex, Bool.and_eq_true, beq_iff_eq, List.length_mapIdx, address.sized,
    List.all_eq_true, true_and]
  intro c member
  obtain ⟨i, _, rfl⟩ := List.mem_mapIdx.1 member
  exact digit _ _

/-- What was normalised once stays as it is. -/
theorem normalize_address_hex (capital : Address → Nat → Bool) (address : Address) :
    normalizeAddress capital (hex capital address) = some (hex capital address) := by
  rw [normalizeAddress, trim_space_hex, matches_address_hex, if_pos rfl, hex_to_address_hex]

/-! ## The message -/

structure Site where
  domain : Text
  uri : Text
  chainID : Int

def statement : Text :=
  ("Sign in to GhostStake. This request will not trigger a blockchain transaction or " ++
    "cost any gas fees.\n\n").toList

section Message

-- how a time is written, in UTC and by `time.RFC3339`
variable (rfc3339 : Int → Text)

def buildMessage (site : Site) (address nonce : Text) (issuedAt : Int) : Text :=
  site.domain ++ " wants you to sign in with your Ethereum account:\n".toList ++
    (address ++ "\n\n".toList ++
      (statement ++
        ("URI: ".toList ++ site.uri ++ "\n".toList ++ "Version: 1\n".toList ++
          "Chain ID: ".toList ++ decimal site.chainID ++ "\n".toList ++ "Nonce: ".toList) ++
        (nonce ++ "\n".toList ++ ("Issued At: ".toList ++ rfc3339 issuedAt))))

variable {rfc3339}

theorem challenge_of_message {site : Site} {address other nonce otherNonce : Text}
    {issuedAt otherIssuedAt : Int} (sized : address.length = other.length)
    (nonceSized : nonce.length = otherNonce.length)
    (same : buildMessage rfc3339 site address nonce issuedAt =
      buildMessage rfc3339 site other otherNonce otherIssuedAt) :
    address = other ∧ nonce = otherNonce := by
  unfold buildMessage at same
  have rest := (List.append_inj same rfl).2
  obtain ⟨first, later⟩ := List.append_inj rest (by rw [List.length_append, List.length_append, sized])
  have named := (List.append_inj first sized).1
  have body := (List.append_inj later rfl).2
  obtain ⟨second, _⟩ :=
    List.append_inj body (by rw [List.length_append, List.length_append, nonceSized])
  exact ⟨named, (List.append_inj second nonceSized).1⟩

end Message

/-! ## What is signed -/

/-- `len(data)`: the bytes of the text. -/
def byteLength (text : Text) : Nat := (text.map fun c => c.utf8Size).sum

def accountsText (message : Text) : Text :=
  Char.ofNat 0x19 :: "Ethereum Signed Message:\n".toList ++
    (decimal (byteLength message) ++ message)

theorem byte_length_append (a b : Text) : byteLength (a ++ b) = byteLength a + byteLength b := by
  rw [byteLength, byteLength, byteLength, List.map_append, List.sum_append]

theorem byte_length_decimal (n : Nat) : byteLength (decimal n) = (decimal n).length := by
  have single : ∀ c ∈ decimal n, c.utf8Size = 1 := by
    intro c member
    have digit : 48 ≤ c.toNat ∧ c.toNat ≤ 57 := by
      simpa [Char.isDigit, UInt32.le_iff_toNat_le] using digit_of_mem_decimal member
    rw [Char.utf8Size_eq_one_iff]
    exact UInt32.le_iff_toNat_le.2 (show c.toNat ≤ 127 by omega)
  rw [byteLength, List.map_congr_left single, List.map_const', List.sum_replicate_nat, Nat.mul_one]

theorem length_decimal_mono {m n : Nat} (le : m ≤ n) :
    (decimal m).length ≤ (decimal n).length := by
  have some_digit : 0 < (Nat.toDigits 10 n).length := Nat.length_toDigits_pos
  apply (Nat.length_toDigits_le_iff (by decide) some_digit).2
  exact le.trans_lt ((Nat.length_toDigits_le_iff (by decide) some_digit).1 (Nat.le_refl _))

/-- What is signed for one message is signed for no other: a message that were
longer would have no shorter a length written before it. -/
theorem accounts_text_injective : Function.Injective accountsText := by
  intro a b same
  have tails := (List.append_inj (List.tail_eq_of_cons_eq same) rfl).2
  have total := congrArg byteLength tails
  rw [byte_length_append, byte_length_append, byte_length_decimal, byte_length_decimal] at total
  have sized : byteLength a = byteLength b := by
    rcases Nat.le_total (byteLength a) (byteLength b) with le | le
    · have digits := length_decimal_mono le
      omega
    · have digits := length_decimal_mono le
      omega
  rw [sized] at tails
  exact List.append_cancel_left tails

/-! ## One text for one challenge -/

section Layout

variable {rfc3339 : Int → Text}

theorem decimal_injective : Function.Injective decimal := by
  intro a b same
  have unsigned (n : Nat) (rest : Text) : Nat.toDigits 10 n ≠ '-' :: rest := by
    intro signed
    have digit := Nat.isDigit_of_mem_toDigits (b := 10) (n := n) (by decide) (by decide)
      (signed ▸ List.mem_cons_self)
    exact absurd digit (by decide)
  have naturals (m n : Nat) (same : Nat.toDigits 10 m = Nat.toDigits 10 n) : m = n :=
    Option.some.inj ((natural_decimal m).symm.trans ((congrArg natural same).trans
      (natural_decimal n)))
  cases a with
  | ofNat m =>
      cases b with
      | ofNat n => exact congrArg Int.ofNat (naturals m n same)
      | negSucc n => exact absurd same (unsigned m _)
  | negSucc m =>
      cases b with
      | ofNat n => exact absurd same.symm (unsigned n _)
      | negSucc n =>
          have both := naturals _ _ (List.tail_eq_of_cons_eq same)
          rw [Nat.succ.inj both]

theorem not_mem_decimal {c : Char} (plain : c ≠ '-') (text : c.isDigit = false) (n : Int) :
    c ∉ decimal n := by
  have digits (k : Nat) : c ∉ Nat.toDigits 10 k := by
    intro member
    have digit := Nat.isDigit_of_mem_toDigits (by decide) (by decide) member
    rw [text] at digit
    cases digit
  cases n with
  | ofNat k => exact digits k
  | negSucc k =>
      intro member
      rcases List.mem_cons.1 member with sign | member
      · exact plain sign
      · exact digits (k + 1) member

theorem newline_not_mem_hex (capital : Address → Nat → Bool) (address : Address) :
    '\n' ∉ hex capital address := by
  intro member
  have clean := hex_clean capital address _ member
  exact absurd clean (by decide)

theorem newline_not_mem_nonce (bytes : Nibbles 64) : '\n' ∉ encodeToString bytes := by
  intro member
  obtain ⟨d, _, newline⟩ := List.mem_map.1 member
  have digits : ∀ d, lowerDigit d ≠ '\n' := by decide
  exact digits d newline

theorem build_message_lines (site : Site) (address nonce : Text) (issuedAt : Int) :
    buildMessage rfc3339 site address nonce issuedAt =
      (site.domain ++ " wants you to sign in with your Ethereum account:".toList) ++ '\n' ::
        (address ++ '\n' :: '\n' :: (statement ++
          (("URI: ".toList ++ site.uri) ++ '\n' :: ("Version: 1\n".toList ++
            (("Chain ID: ".toList ++ decimal site.chainID) ++ '\n' ::
              (("Nonce: ".toList ++ nonce) ++ '\n' ::
                ("Issued At: ".toList ++ rfc3339 issuedAt))))))) := by
  have header : " wants you to sign in with your Ethereum account:\n".toList =
      " wants you to sign in with your Ethereum account:".toList ++ ['\n'] := by decide +kernel
  have newline : "\n".toList = ['\n'] := rfl
  have gap : "\n\n".toList = ['\n', '\n'] := rfl
  rw [buildMessage, header, newline, gap]
  simp only [List.append_assoc, List.cons_append, List.nil_append]

/-- What is signed for a challenge of one site is signed for no other challenge
and for no other site. -/
theorem challenge_of_signed_text {capital : Address → Nat → Bool} {site other : Site}
    {account account' : Address} {bytes bytes' : Nibbles 64} {issuedAt issuedAt' : Int}
    (domain : '\n' ∉ site.domain) (domain' : '\n' ∉ other.domain)
    (uri : '\n' ∉ site.uri) (uri' : '\n' ∉ other.uri)
    (same : accountsText (buildMessage rfc3339 site (hex capital account) (encodeToString bytes)
        issuedAt) =
      accountsText (buildMessage rfc3339 other (hex capital account') (encodeToString bytes')
        issuedAt')) :
    site = other ∧ account = account' ∧ bytes = bytes' ∧ rfc3339 issuedAt = rfc3339 issuedAt' := by
  have messages := accounts_text_injective same
  rw [build_message_lines, build_message_lines] at messages
  have labelled {label text : Text} (none : '\n' ∉ label) (clean : '\n' ∉ text) :
      '\n' ∉ label ++ text := by
    rw [List.mem_append]
    exact not_or.2 ⟨none, clean⟩
  have chain (n : Int) : '\n' ∉ decimal n := not_mem_decimal (by decide) (by decide) n
  obtain ⟨domains, messages⟩ := append_cons_injective
    (labelled domain (by decide)) (labelled domain' (by decide)) messages
  obtain ⟨addresses, messages⟩ := append_cons_injective
    (newline_not_mem_hex _ _) (newline_not_mem_hex _ _) messages
  have messages := List.append_cancel_left (List.tail_eq_of_cons_eq messages)
  obtain ⟨uris, messages⟩ := append_cons_injective
    (labelled (by decide) uri) (labelled (by decide) uri') messages
  have messages := List.append_cancel_left messages
  obtain ⟨chains, messages⟩ := append_cons_injective
    (labelled (by decide) (chain _)) (labelled (by decide) (chain _)) messages
  obtain ⟨nonces, messages⟩ := append_cons_injective
    (labelled (by decide) (newline_not_mem_nonce bytes))
    (labelled (by decide) (newline_not_mem_nonce bytes')) messages
  have sites : site = other := by
    cases site
    cases other
    congr
    · exact List.append_cancel_right domains
    · exact List.append_cancel_left uris
    · exact decimal_injective (List.append_cancel_left chains)
  have accounts := congrArg hexToAddress addresses
  rw [hex_to_address_hex, hex_to_address_hex] at accounts
  exact ⟨sites, accounts,
    encode_to_string_injective (List.append_cancel_left nonces),
    List.append_cancel_left messages⟩

theorem signed_text_ne_of_bytes_ne :
    let site : Site := ⟨"ghoststake".toList, "https://ghoststake".toList, 46630⟩
    let message (bytes : Nibbles 64) : Text :=
      buildMessage (fun _ => []) site (hex (fun _ _ => false) ⟨List.replicate 40 1, rfl⟩)
        (encodeToString bytes) 0
    accountsText (message ⟨List.replicate 64 0, rfl⟩) ≠
      accountsText (message ⟨List.replicate 64 1, rfl⟩) := by
  intro site message same
  have bytes := (challenge_of_signed_text (by decide) (by decide) (by decide) (by decide) same).2.2.1
  exact absurd bytes (by decide)

end Layout

/-! ## The signature -/

inductive SignatureError where
  | decode
  | length (bytes : Nat)
  | value (v : Nat)
  | recover
  /-- `ErrBadSignature`. -/
  | mismatch
  deriving DecidableEq

/-- `hex.DecodeString`, of every byte. -/
def bytesOfHex : Text → Option (List Nat)
  | [] => some []
  | high :: low :: rest => do
      let high ← fromHexChar high
      let low ← fromHexChar low
      let bytes ← bytesOfHex rest
      some ((16 * high.val + low.val) :: bytes)
  | [_] => none

/-- `hexutil.Decode`, whose text has a prefix. -/
def hexutilDecode : Text → Option (List Nat)
  | '0' :: 'x' :: rest | '0' :: 'X' :: rest => bytesOfHex rest
  | _ => none

/-- `personal_sign` writes 27 or 28 where recovery wants 0 or 1. -/
def normalizeV : Nat → Option Nat
  | 27 => some 0
  | 28 => some 1
  | 0 => some 0
  | 1 => some 1
  | _ => none

section Signature

-- the address that `crypto.SigToPub` recovers from the hash of a text
variable (recover : Text → List Nat → Option Address) (capital : Address → Nat → Bool)

def verifySignature (message signatureHex expectedAddress : Text) :
    Except SignatureError Unit :=
  match hexutilDecode signatureHex with
  | none => .error .decode
  | some sig =>
      if sig.length ≠ 65 then .error (.length sig.length)
      else
        match normalizeV (sig.getD 64 0) with
        | none => .error (.value (sig.getD 64 0))
        | some v =>
            match recover (accountsText message) (sig.set 64 v) with
            | none => .error .recover
            | some recovered =>
                if equalFold (hex capital recovered) expectedAddress then .ok ()
                else .error .mismatch

variable {recover capital}

/-- A signature is accepted only where its bytes, with the last as recovery wants
it, recover to the expected account on the text of this message. -/
theorem recovered_of_verified {message signatureHex expected : Text}
    (verified : verifySignature recover capital message signatureHex expected = .ok ()) :
    ∃ sig v, hexutilDecode signatureHex = some sig ∧ sig.length = 65 ∧
      normalizeV (sig.getD 64 0) = some v ∧
      recover (accountsText message) (sig.set 64 v) = some (hexToAddress expected) := by
  unfold verifySignature at verified
  split at verified
  · cases verified
  · rename_i sig decoded
    split_ifs at verified with sized
    split at verified
    · cases verified
    · rename_i v normal
      split at verified
      · cases verified
      · rename_i recovered found
        split_ifs at verified with same
        rw [hex_to_address_of_fold same]
        exact ⟨sig, v, decoded, not_not.mp sized, normal, found⟩

end Signature

end Auth

end Ghoststake
