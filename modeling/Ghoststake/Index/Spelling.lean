import Ghoststake.Index.Deployment

/-!
# Spellings of an address

An address reads back from any text that spells it, whatever the case of its
digits.
-/

namespace Ghoststake

set_option autoImplicit false

namespace Index

/-- `strings.EqualFold`, of texts in ASCII. -/
def equalFold (a b : Text) : Bool := toLower a = toLower b

theorem lower_upper_or (c : Char) : c.toLower = c ∨ ∃ n ∈ List.range 26, c = Char.ofNat (65 + n) := by
  by_cases upper : c.val ≥ 'A'.val ∧ c.val ≤ 'Z'.val
  · right
    have least : 65 ≤ c.toNat := upper.1
    have most : c.toNat ≤ 90 := upper.2
    refine ⟨c.toNat - 65, List.mem_range.2 (by omega), ?_⟩
    rw [Nat.add_sub_cancel' least, Char.ofNat_toNat]
  · left
    unfold Char.toLower
    rw [dif_neg upper]

theorem from_hex_char_of_lower {c : Char} {d : Fin 16} (same : c.toLower = lowerDigit d) :
    fromHexChar c = some d := by
  have lower : ∀ d, fromHexChar (lowerDigit d) = some d := by decide
  have upper : ∀ n ∈ List.range 26, ∀ d, (Char.ofNat (65 + n)).toLower = lowerDigit d →
      fromHexChar (Char.ofNat (65 + n)) = some d := by decide
  rcases lower_upper_or c with kept | ⟨n, letter, rfl⟩
  · rw [← kept, same, lower]
  · exact upper n letter d same

theorem decode_string_of_lower {digits : List (Fin 16)} {text : Text}
    (same : text.map Char.toLower = digits.map lowerDigit) (even : digits.length % 2 = 0) :
    decodeString text = digits := by
  induction digits using List.twoStepInduction generalizing text with
  | nil =>
      rw [List.map_nil, List.map_eq_nil_iff] at same
      rw [same]
      rfl
  | singleton d => cases even
  | cons_cons d d' more ih =>
      obtain ⟨c, rest, rfl, first, others⟩ := List.map_eq_cons_iff.1 same
      obtain ⟨c', rest, rfl, second, others⟩ := List.map_eq_cons_iff.1 others
      have shorter : more.length % 2 = 0 := by
        simp only [List.length_cons] at even
        omega
      rw [decodeString, from_hex_char_of_lower first, from_hex_char_of_lower second]
      simp only
      rw [ih others shorter]

/-- Any spelling of an address reads as that address. -/
theorem hex_to_address_of_fold {capital : Address → Nat → Bool} {address : Address} {text : Text}
    (same : equalFold (hex capital address) text = true) : hexToAddress text = address := by
  have lower : toLower text = lowerHex address := by
    rw [← of_decide_eq_true same, to_lower_hex]
  obtain ⟨c, rest, rfl, zero, others⟩ := List.map_eq_cons_iff.1 lower
  obtain ⟨c', rest, rfl, ex, digits⟩ := List.map_eq_cons_iff.1 others
  have decoded : decodeString rest = address.digits := by
    apply decode_string_of_lower digits
    rw [address.sized]
  have sized : rest.length = 40 := by
    have lengths := congrArg List.length digits
    rwa [List.length_map, encodeToString, List.length_map, address.sized] at lengths
  have isZero : c = '0' := by
    have capitals : ∀ n ∈ List.range 26, (Char.ofNat (65 + n)).toLower = '0' →
        Char.ofNat (65 + n) = '0' := by decide
    rcases lower_upper_or c with kept | ⟨n, letter, rfl⟩
    · exact kept.symm.trans zero
    · exact capitals n letter zero
  have isX : c' = 'x' ∨ c' = 'X' := by
    have capitals : ∀ n ∈ List.range 26, (Char.ofNat (65 + n)).toLower = 'x' →
        Char.ofNat (65 + n) = 'X' := by decide
    rcases lower_upper_or c' with kept | ⟨n, letter, rfl⟩
    · exact .inl (kept.symm.trans ex)
    · exact .inr (capitals n letter ex)
  have read : fromHex (c :: c' :: rest) = address.digits := by
    rcases isX with rfl | rfl
    · rw [isZero, fromHex]
      simp [sized, decoded]
    · rw [isZero, fromHex]
      simp [sized, decoded]
  apply Nibbles.ext
  rw [hexToAddress]
  simp only [read]
  simp [address.sized]

end Index

end Ghoststake
