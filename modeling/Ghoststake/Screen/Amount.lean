import Ghoststake.Screen.Literal

/-!
# Reading a typed amount

What a field makes of the text in it: the text is split at its dots, the first
two pieces are read by `BigInt`, the second filled up with zeros, and whatever
follows a second dot is dropped.
-/

set_option autoImplicit false

namespace Ghoststake.Screen

open Text

/-- A sentence for the screen: which one, and the figures in it. -/
structure Message where
  key : String
  values : List (String × Nat)
deriving DecidableEq

def wholeOf (trimmed : Text) : Text :=
  (trimmed.splitOn dot).headD [zero]

def fractionOf (trimmed : Text) : Text :=
  (trimmed.splitOn dot)[1]?.getD []

/-- `fraction.padEnd(decimals, "0") || "0"` -/
def padded (fraction : Text) (decimals : Nat) : Text :=
  if padEnd fraction decimals = [] then [zero] else padEnd fraction decimals

/-- A field still being typed into. -/
def Unfinished (trimmed : Text) : Prop :=
  trimmed = [] ∨ trimmed = [dot]

instance (trimmed : Text) : Decidable (Unfinished trimmed) :=
  inferInstanceAs (Decidable (_ ∨ _))

def parseAmount (input : Text) (decimals : Nat) : Option Int :=
  let trimmed := trim input
  if Unfinished trimmed then none
  else if decimals < (fractionOf trimmed).length then none
  else do
    let whole ← bigInt (wholeOf trimmed)
    let fraction ← bigInt (padded (fractionOf trimmed) decimals)
    some (whole * 10 ^ decimals + fraction)

def amountProblem (input : Text) (decimals : Nat) : Option Message :=
  let trimmed := trim input
  let fraction := fractionOf trimmed
  if Unfinished trimmed then none
  else if decimals < fraction.length then
    if decimals = 0 then some ⟨"amount.noDecimals", []⟩
    else some ⟨"amount.tooPrecise", [("decimals", decimals), ("given", fraction.length)]⟩
  else if parseAmount trimmed decimals = none then some ⟨"amount.notAnAmount", []⟩
  else none

/-- What an amount looks like: digits, at most one dot, at least one digit, and
no more of them after the dot than the token has places. -/
structure Written (trimmed : Text) (decimals : Nat) (whole fraction : Text) : Prop where
  shape : trimmed = whole ∧ fraction = [] ∨ trimmed = whole ++ dot :: fraction
  whole_digits : Digits 10 whole
  fraction_digits : Digits 10 fraction
  some_digit : whole ++ fraction ≠ []
  places : fraction.length ≤ decimals

def decimalNumber (whole fraction : Text) : ℚ :=
  numeral 10 whole + numeral 10 fraction / 10 ^ fraction.length

/-- The parser accepts what is written as an amount and nothing else, reads it
exactly, and the field complains of just what it refuses. -/
structure ReadsExactly (input : Text) (decimals : Nat) : Prop where
  accepts : (parseAmount input decimals).isSome ↔
    ∃ whole fraction, Written (trim input) decimals whole fraction
  value : ∀ amount, parseAmount input decimals = some amount →
    ∃ whole fraction, Written (trim input) decimals whole fraction ∧
      (amount : ℚ) = decimalNumber whole fraction * 10 ^ decimals
  problem : amountProblem input decimals = none ↔
    (parseAmount input decimals).isSome ∨ Unfinished (trim input)

/-- A piece that is read before the dot. -/
def Whole (text : Text) : Prop := Digits 10 text ∨ Foreign false text

/-- A piece that is read after it: short enough, and filled up with zeros if shorter. -/
def Fraction (decimals : Nat) (text : Text) : Prop :=
  text.length ≤ decimals ∧ (Digits 10 text ∨ Foreign (text.length < decimals) text)

/-- The texts that are read without being written as an amount. -/
inductive Misread (decimals : Nat) : Text → Prop
  /-- A second dot, whatever follows it. -/
  | dots (whole fraction rest : Text) : Whole whole → Fraction decimals fraction →
      Misread decimals (whole ++ dot :: (fraction ++ dot :: rest))
  /-- A sign or a prefix, and no dot. -/
  | undotted (whole : Text) : Foreign false whole → Misread decimals whole
  /-- A sign, a prefix, or space before the dot. -/
  | before (whole fraction : Text) : Foreign false whole → Fraction decimals fraction →
      Misread decimals (whole ++ dot :: fraction)
  /-- The same after it. -/
  | after (whole fraction : Text) : Digits 10 whole → fraction.length ≤ decimals →
      Foreign (fraction.length < decimals) fraction → Misread decimals (whole ++ dot :: fraction)

theorem digits_padded {fraction : Text} (plain : Digits 10 fraction) (decimals : Nat) :
    Digits 10 (padded fraction decimals) := by
  unfold padded
  split
  · intro unit member
    rw [List.mem_singleton.mp member]
    decide
  · exact digits_pad_end plain decimals

theorem numeral_padded (fraction : Text) (decimals : Nat) :
    numeral 10 (padded fraction decimals) = numeral 10 (padEnd fraction decimals) := by
  unfold padded
  split
  · rename_i empty
    rw [empty]
    rfl
  · rfl

/-- The second piece is read as its own text, or with zeros behind it. -/
theorem big_int_of_padded_isSome_iff (fraction : Text) (decimals : Nat) :
    (bigInt (padded fraction decimals)).isSome ↔
      Digits 10 fraction ∨ Foreign (fraction.length < decimals) fraction := by
  by_cases short : fraction.length < decimals
  · obtain ⟨count, gap⟩ : ∃ count, decimals - fraction.length = count + 1 :=
      ⟨decimals - fraction.length - 1, by omega⟩
    have filled : padded fraction decimals = fraction ++ List.replicate (count + 1) zero := by
      rw [padded, padEnd, gap, if_neg (by simp)]
    rw [filled, big_int_isSome_iff, digits_append_iff, foreign_filled_iff, decide_eq_true short,
      and_iff_left (zeros_are_digits (by decide) _)]
  · have whole : padEnd fraction decimals = fraction := by
      rw [padEnd, Nat.sub_eq_zero_of_le (Nat.not_lt.mp short), List.replicate_zero,
        List.append_nil]
    rw [decide_eq_false short, padded, whole]
    split_ifs with empty
    · rw [empty]
      exact ⟨fun _ => .inl (fun _ member => absurd member List.not_mem_nil), fun _ => by decide⟩
    · exact big_int_isSome_iff fraction

theorem dot_not_mem_of_piece {filled : Bool} {text : Text}
    (piece : Digits 10 text ∨ Foreign filled text) : dot ∉ text := by
  rcases piece with inside | foreign
  · exact dot_not_mem (by decide) inside
  · exact dot_not_mem_of_foreign foreign

theorem pieces_of_undotted {whole : Text} (bare : dot ∉ whole) :
    whole.splitOn dot = [whole] ∧ wholeOf whole = whole ∧ fractionOf whole = [] := by
  have split := List.splitOn_eq_singleton bare
  refine ⟨split, ?_, ?_⟩
  · rw [wholeOf, split, List.headD_cons]
  · rw [fractionOf, split]
    rfl

theorem pieces_of_dotted {whole fraction : Text} (bare : dot ∉ whole) (after : dot ∉ fraction) :
    (whole ++ dot :: fraction).splitOn dot = [whole, fraction] ∧
      wholeOf (whole ++ dot :: fraction) = whole ∧
      fractionOf (whole ++ dot :: fraction) = fraction := by
  have split : (whole ++ dot :: fraction).splitOn dot = [whole, fraction] := by
    rw [List.splitOn_append_cons_self_of_not_mem bare, List.splitOn_eq_singleton after]
  refine ⟨split, ?_, ?_⟩
  · rw [wholeOf, split, List.headD_cons]
  · rw [fractionOf, split]
    rfl

/-- Whatever follows a second dot is in neither of the two. -/
theorem pieces_of_dots {whole fraction : Text} (rest : Text) (bare : dot ∉ whole)
    (after : dot ∉ fraction) :
    2 < ((whole ++ dot :: (fraction ++ dot :: rest)).splitOn dot).length ∧
      wholeOf (whole ++ dot :: (fraction ++ dot :: rest)) = whole ∧
      fractionOf (whole ++ dot :: (fraction ++ dot :: rest)) = fraction := by
  have split : (whole ++ dot :: (fraction ++ dot :: rest)).splitOn dot =
      whole :: fraction :: rest.splitOn dot := by
    rw [List.splitOn_append_cons_self_of_not_mem bare,
      List.splitOn_append_cons_self_of_not_mem after]
  have more := List.length_pos_of_ne_nil (List.splitOn_ne_nil dot rest)
  refine ⟨?_, ?_, ?_⟩
  · rw [split, List.length_cons, List.length_cons]
    omega
  · rw [wholeOf, split, List.headD_cons]
  · rw [fractionOf, split]
    rfl

theorem pieces_of_written {trimmed whole fraction : Text} {decimals : Nat}
    (written : Written trimmed decimals whole fraction) :
    (trimmed.splitOn dot).length ≤ 2 ∧ wholeOf trimmed = whole ∧ fractionOf trimmed = fraction := by
  have bare := dot_not_mem (by decide) written.whole_digits
  have after := dot_not_mem (by decide) written.fraction_digits
  rcases written.shape with ⟨rfl, rfl⟩ | rfl
  · obtain ⟨split, pieces⟩ := pieces_of_undotted bare
    rw [split]
    exact ⟨Nat.le_succ 1, pieces⟩
  · obtain ⟨split, pieces⟩ := pieces_of_dotted bare after
    rw [split]
    exact ⟨Nat.le_refl 2, pieces⟩

/-- The text is its first two pieces, and what a second dot drops. -/
theorem shape_of_pieces (trimmed : Text) :
    trimmed = wholeOf trimmed ∧ fractionOf trimmed = [] ∨
      trimmed = wholeOf trimmed ++ dot :: fractionOf trimmed ∨
      ∃ rest, trimmed = wholeOf trimmed ++ dot :: (fractionOf trimmed ++ dot :: rest) := by
  have joined : [dot].intercalate (trimmed.splitOn dot) = trimmed := List.intercalate_splitOn dot
  unfold wholeOf fractionOf
  cases pieces : trimmed.splitOn dot with
  | nil => exact absurd pieces (List.splitOn_ne_nil dot trimmed)
  | cons whole rest =>
      rw [pieces] at joined
      cases rest with
      | nil =>
          left
          simpa using joined.symm
      | cons fraction rest =>
          right
          cases rest with
          | nil =>
              left
              simpa [List.intercalate] using joined.symm
          | cons third rest =>
              right
              refine ⟨[dot].intercalate (third :: rest), ?_⟩
              simpa [List.intercalate] using joined.symm

theorem not_unfinished_of_written {trimmed whole fraction : Text} {decimals : Nat}
    (written : Written trimmed decimals whole fraction) : ¬Unfinished trimmed := by
  have parts := pieces_of_written written
  intro unfinished
  apply written.some_digit
  rw [← parts.2.1, ← parts.2.2]
  cases unfinished with
  | inl empty => rw [empty]; decide
  | inr single => rw [single]; decide

/-- What a misread text's first two pieces are, and what is wrong with it. -/
theorem pieces_of_misread {trimmed : Text} {decimals : Nat} (misread : Misread decimals trimmed) :
    Whole (wholeOf trimmed) ∧ Fraction decimals (fractionOf trimmed) ∧
      (2 < (trimmed.splitOn dot).length ∨ ¬Digits 10 (wholeOf trimmed) ∨
        ¬Digits 10 (fractionOf trimmed)) := by
  have none : Fraction decimals [] :=
    ⟨Nat.zero_le _, .inl fun _ member => absurd member List.not_mem_nil⟩
  cases misread with
  | dots whole fraction rest reads short =>
      obtain ⟨many, first, second⟩ := pieces_of_dots rest (dot_not_mem_of_piece reads)
        (dot_not_mem_of_piece short.2)
      rw [first, second]
      exact ⟨reads, short, .inl many⟩
  | undotted whole foreign =>
      obtain ⟨_, first, second⟩ := pieces_of_undotted (dot_not_mem_of_foreign foreign)
      rw [first, second]
      exact ⟨.inr foreign, none, .inr (.inl (not_digits_of_foreign foreign))⟩
  | before whole fraction foreign short =>
      obtain ⟨_, first, second⟩ := pieces_of_dotted (dot_not_mem_of_foreign foreign)
        (dot_not_mem_of_piece short.2)
      rw [first, second]
      exact ⟨.inr foreign, short, .inr (.inl (not_digits_of_foreign foreign))⟩
  | after whole fraction digits places foreign =>
      obtain ⟨_, first, second⟩ := pieces_of_dotted (dot_not_mem (by decide) digits)
        (dot_not_mem_of_foreign foreign)
      rw [first, second]
      exact ⟨.inl digits, ⟨places, .inr foreign⟩, .inr (.inr (not_digits_of_foreign foreign))⟩

theorem not_unfinished_of_misread {trimmed : Text} {decimals : Nat}
    (misread : Misread decimals trimmed) : ¬Unfinished trimmed := by
  intro unfinished
  have odd := (pieces_of_misread misread).2.2
  revert odd
  cases unfinished with
  | inl empty => rw [empty]; decide
  | inr single => rw [single]; decide

/-- What is written as an amount is read, and as the number it is. -/
theorem parse_amount_of_written {input whole fraction : Text} {decimals : Nat}
    (written : Written (trim input) decimals whole fraction) :
    parseAmount input decimals =
      some (numeral 10 whole * 10 ^ decimals + numeral 10 (padEnd fraction decimals) : Int) := by
  have parts := pieces_of_written written
  have finished := not_unfinished_of_written written
  have places : ¬decimals < fraction.length := Nat.not_lt.mpr written.places
  unfold parseAmount
  simp only [parts.2.1, parts.2.2, if_neg finished, if_neg places,
    big_int_of_digits written.whole_digits,
    big_int_of_digits (digits_padded written.fraction_digits decimals), numeral_padded]
  rfl

theorem value_of_written {trimmed whole fraction : Text} {decimals : Nat}
    (written : Written trimmed decimals whole fraction) :
    ((numeral 10 whole * 10 ^ decimals + numeral 10 (padEnd fraction decimals) : Int) : ℚ) =
      decimalNumber whole fraction * 10 ^ decimals := by
  have scaled : (numeral 10 (padEnd fraction decimals) : ℚ) * 10 ^ fraction.length =
      numeral 10 fraction * 10 ^ decimals := by
    exact_mod_cast numeral_pad_end written.places
  have share : (numeral 10 (padEnd fraction decimals) : ℚ) =
      numeral 10 fraction / 10 ^ fraction.length * 10 ^ decimals := by
    field_simp
    exact scaled
  unfold decimalNumber
  push_cast
  rw [share]
  ring

theorem parse_amount_isSome_iff (input : Text) (decimals : Nat) :
    (parseAmount input decimals).isSome ↔ ¬Unfinished (trim input) ∧
      Whole (wholeOf (trim input)) ∧ Fraction decimals (fractionOf (trim input)) := by
  unfold parseAmount
  by_cases unfinished : Unfinished (trim input)
  · simp [unfinished]
  · by_cases precise : decimals < (fractionOf (trim input)).length
    · simp [unfinished, precise, Fraction, Nat.not_le.mpr precise]
    · have places := Nat.not_lt.mp precise
      rw [Whole, ← big_int_isSome_iff, Fraction, ← big_int_of_padded_isSome_iff]
      simp only [if_neg unfinished, if_neg precise]
      cases bigInt (wholeOf (trim input)) with
      | none => simp
      | some whole =>
          cases bigInt (padded (fractionOf (trim input)) decimals) with
          | none => simp
          | some fraction => simpa [unfinished] using places

/-- Short of the misread texts, what is accepted is written as an amount. -/
theorem written_of_accepted {input : Text} {decimals : Nat}
    (accepted : (parseAmount input decimals).isSome)
    (sound : ¬Misread decimals (trim input)) :
    Written (trim input) decimals (wholeOf (trim input)) (fractionOf (trim input)) := by
  obtain ⟨finished, reads, short⟩ := (parse_amount_isSome_iff input decimals).mp accepted
  generalize trim input = trimmed at *
  have shape : trimmed = wholeOf trimmed ∧ fractionOf trimmed = [] ∨
      trimmed = wholeOf trimmed ++ dot :: fractionOf trimmed := by
    obtain undotted | dotted | ⟨rest, dots⟩ := shape_of_pieces trimmed
    · exact .inl undotted
    · exact .inr dotted
    · apply absurd (Misread.dots _ _ rest reads short)
      rwa [← dots]
  have whole_digits : Digits 10 (wholeOf trimmed) := by
    rcases reads with inside | foreign
    · exact inside
    · rcases shape with ⟨same, _⟩ | same
      · apply absurd (Misread.undotted _ foreign)
        rwa [← same]
      · apply absurd (Misread.before _ _ foreign short)
        rwa [← same]
  have fraction_digits : Digits 10 (fractionOf trimmed) := by
    rcases short.2 with inside | foreign
    · exact inside
    · rcases shape with ⟨_, none⟩ | same
      · rw [none]
        exact fun _ member => absurd member List.not_mem_nil
      · apply absurd (Misread.after _ _ whole_digits short.1 foreign)
        rwa [← same]
  refine ⟨shape, whole_digits, fraction_digits, ?_, short.1⟩
  intro empty
  rw [List.append_eq_nil_iff] at empty
  apply finished
  cases shape with
  | inl undotted =>
      left
      rw [undotted.1, empty.1]
  | inr dotted =>
      right
      rw [dotted, empty.1, empty.2, List.nil_append]

/-- The field's complaint and the parser's refusal are the same rule. -/
theorem amount_problem_eq_none_iff (input : Text) (decimals : Nat) :
    amountProblem input decimals = none ↔
      (parseAmount input decimals).isSome ∨ Unfinished (trim input) := by
  have same : parseAmount (trim input) decimals = parseAmount input decimals := by
    unfold parseAmount
    rw [trim_trim]
  have reads := parse_amount_isSome_iff input decimals
  unfold amountProblem
  simp only [same]
  by_cases unfinished : Unfinished (trim input)
  · simp [unfinished]
  · by_cases precise : decimals < (fractionOf (trim input)).length
    · have refused : ¬(parseAmount input decimals).isSome := by
        intro accepted
        exact absurd (reads.mp accepted).2.2.1 (Nat.not_le.mpr precise)
      simp only [unfinished, if_pos precise, refused]
      by_cases none_at_all : decimals = 0
      · simp [none_at_all]
      · simp [none_at_all]
    · simp only [if_neg precise, unfinished, or_false]
      cases parseAmount input decimals with
      | none => simp
      | some amount => simp

/-- Reading is exact but for the texts with a second dot, a sign, a prefix or inner
space. -/
theorem amount_is_read_exactly_unless_misread (input : Text) (decimals : Nat) :
    ReadsExactly input decimals ↔ ¬Misread decimals (trim input) := by
  constructor
  · intro exact_reading misread
    obtain ⟨reads, short, odd⟩ := pieces_of_misread misread
    have accepted := (parse_amount_isSome_iff input decimals).mpr
      ⟨not_unfinished_of_misread misread, reads, short⟩
    obtain ⟨whole, fraction, written⟩ := exact_reading.accepts.mp accepted
    have parts := pieces_of_written written
    rw [parts.2.1, parts.2.2] at odd
    rcases odd with many | before | after
    · omega
    · exact before written.whole_digits
    · exact after written.fraction_digits
  · intro sound
    constructor
    · constructor
      · intro accepted
        exact ⟨_, _, written_of_accepted accepted sound⟩
      · intro exists_written
        obtain ⟨whole, fraction, written⟩ := exists_written
        rw [parse_amount_of_written written]
        rfl
    · intro amount parsed
      have written := written_of_accepted (by rw [parsed]; rfl) sound
      have read := parse_amount_of_written written
      rw [parsed] at read
      refine ⟨_, _, written, ?_⟩
      rw [Option.some.inj read]
      exact value_of_written written
    · exact amount_problem_eq_none_iff input decimals

/-- `1.2.3`: the third piece is dropped, and the field is content with 1.2. -/
theorem second_dot_drops_the_rest :
    parseAmount [0x31, dot, 0x32, dot, 0x33] 6 = some 1200000 ∧
      amountProblem [0x31, dot, 0x32, dot, 0x33] 6 = none ∧
      ¬ReadsExactly [0x31, dot, 0x32, dot, 0x33] 6 := by
  refine ⟨by decide, by decide, ?_⟩
  intro reads
  obtain ⟨whole, fraction, written⟩ := reads.accepts.mp (by decide)
  have few := (pieces_of_written written).1
  revert few
  decide

end Ghoststake.Screen
