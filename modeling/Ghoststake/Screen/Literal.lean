import Mathlib

/-!
# What `BigInt` reads

A string is its sequence of 16-bit code units, and `trim`, `padEnd` and `BigInt`
are the language's own. The last reads more than digits: a sign, a radix prefix,
space around either and nothing at all. With zeros written after it a sign or a
prefix need not have a digit of its own.
-/

set_option autoImplicit false

namespace Ghoststake.Screen

abbrev CodeUnit := UInt16

abbrev Text := List CodeUnit

namespace Text

def dot : CodeUnit := 0x2E

def zero : CodeUnit := 0x30

def plus : CodeUnit := 0x2B

def minus : CodeUnit := 0x2D

/-- The language's white space and line terminators, which `trim` and `BigInt` share. -/
def isSpace (unit : CodeUnit) : Bool :=
  (0x09 ≤ unit.toNat && unit.toNat ≤ 0x0D) || (0x2000 ≤ unit.toNat && unit.toNat ≤ 0x200A) ||
    [0x20, 0xA0, 0x1680, 0x2028, 0x2029, 0x202F, 0x205F, 0x3000, 0xFEFF].contains unit.toNat

/-- The value of a digit of any radix up to 16; 16 for what is no digit. -/
def digitOf (unit : CodeUnit) : Nat :=
  if 0x30 ≤ unit.toNat ∧ unit.toNat ≤ 0x39 then unit.toNat - 0x30
  else if 0x61 ≤ unit.toNat ∧ unit.toNat ≤ 0x66 then unit.toNat - 0x61 + 10
  else if 0x41 ≤ unit.toNat ∧ unit.toNat ≤ 0x46 then unit.toNat - 0x41 + 10
  else 16

def numeral (radix : Nat) (text : Text) : Nat :=
  text.foldl (fun total unit => total * radix + digitOf unit) 0

/-- Digits of the radix and nothing else, perhaps none of them. -/
def Digits (radix : Nat) (text : Text) : Prop :=
  ∀ unit ∈ text, digitOf unit < radix

instance (radix : Nat) (text : Text) : Decidable (Digits radix text) :=
  List.decidableBAll (fun unit => digitOf unit < radix) text

def trim (text : Text) : Text :=
  (text.dropWhile isSpace).rdropWhile isSpace

def padEnd (text : Text) (width : Nat) : Text :=
  text ++ List.replicate (width - text.length) zero

def digits (radix : Nat) (text : Text) : Option Int :=
  if text ≠ [] ∧ Digits radix text then some (numeral radix text) else none

/-- The radix a literal with this second character names after its zero. -/
def radixOf (mark : CodeUnit) : Option Nat :=
  if mark.toNat = 0x62 ∨ mark.toNat = 0x42 then some 2
  else if mark.toNat = 0x6F ∨ mark.toNat = 0x4F then some 8
  else if mark.toNat = 0x78 ∨ mark.toNat = 0x58 then some 16
  else none

def unsigned : Text → Option Int
  | first :: mark :: rest =>
      match radixOf mark with
      | some radix => if first = zero then digits radix rest else none
      | none => digits 10 (first :: mark :: rest)
  | text => digits 10 text

def integerLiteral : Text → Option Int
  | [] => some 0
  | first :: rest =>
      if first = plus then digits 10 rest
      else if first = minus then (digits 10 rest).map (- ·)
      else unsigned (first :: rest)

/-- `BigInt(text)`, with `none` for the `SyntaxError` it throws. -/
def bigInt (text : Text) : Option Int :=
  integerLiteral (trim text)

theorem digit_range {unit : CodeUnit} (digit : digitOf unit < 16) :
    0x30 ≤ unit.toNat ∧ unit.toNat ≤ 0x66 := by
  unfold digitOf at digit
  grind

theorem space_is_no_digit {unit : CodeUnit} (digit : digitOf unit < 16) :
    isSpace unit = false := by
  have range := digit_range digit
  unfold isSpace
  simp
  omega

theorem digit_bounds {unit : CodeUnit} (digit : digitOf unit < 10) :
    0x30 ≤ unit.toNat ∧ unit.toNat ≤ 0x39 := by
  unfold digitOf at digit
  grind

theorem trim_of_digits {text : Text} (plain : Digits 10 text) : trim text = text := by
  have left : text.dropWhile isSpace = text := by
    apply List.dropWhile_eq_self_iff.mpr
    intro nonempty
    simpa using space_is_no_digit (Nat.lt_trans (plain _ (List.getElem_mem nonempty)) (by decide))
  unfold trim
  rw [left]
  apply List.rdropWhile_eq_self_iff.mpr
  intro nonempty
  simpa using space_is_no_digit (Nat.lt_trans (plain _ (List.getLast_mem nonempty)) (by decide))

theorem trim_trim (text : Text) : trim (trim text) = trim text := by
  have left : (trim text).dropWhile isSpace = trim text := by
    apply List.dropWhile_eq_self_iff.mpr
    intro nonempty
    have ends := List.rdropWhile_prefix isSpace (text.dropWhile isSpace)
    have started : 0 < (text.dropWhile isSpace).length :=
      Nat.lt_of_lt_of_le nonempty ends.length_le
    have first : (trim text)[0] = (text.dropWhile isSpace).get ⟨0, started⟩ :=
      ends.getElem nonempty
    rw [first]
    exact List.dropWhile_get_zero_not isSpace text started
  calc trim (trim text)
      = ((trim text).dropWhile isSpace).rdropWhile isSpace := rfl
    _ = (trim text).rdropWhile isSpace := by rw [left]
    _ = trim text := List.rdropWhile_idempotent isSpace (text.dropWhile isSpace)

theorem digits_of_plain {text : Text} (plain : Digits 10 text) (nonempty : text ≠ []) :
    digits 10 text = some (numeral 10 text : Int) := by
  unfold digits
  rw [if_pos ⟨nonempty, plain⟩]

theorem radix_of_digit {unit : CodeUnit} (digit : digitOf unit < 10) : radixOf unit = none := by
  have range := digit_bounds digit
  unfold radixOf
  rw [if_neg (by omega), if_neg (by omega), if_neg (by omega)]

/-- Digits alone read as what they say, and no digits as zero. -/
theorem big_int_of_digits {text : Text} (plain : Digits 10 text) :
    bigInt text = some (numeral 10 text : Int) := by
  unfold bigInt
  rw [trim_of_digits plain]
  cases text with
  | nil => rfl
  | cons first rest =>
      have range := digit_bounds (plain first (by simp))
      have not_plus : first ≠ plus := by
        intro same
        rw [same] at range
        simp [plus] at range
      have not_minus : first ≠ minus := by
        intro same
        rw [same] at range
        simp [minus] at range
      simp only [integerLiteral, if_neg not_plus, if_neg not_minus]
      cases rest with
      | nil => exact digits_of_plain plain (by simp)
      | cons mark rest =>
          have no_radix := radix_of_digit (plain mark (by simp))
          simp only [unsigned, no_radix]
          exact digits_of_plain plain (by simp)

theorem numeral_append (radix : Nat) (text more : Text) :
    numeral radix (text ++ more) = numeral radix text * radix ^ more.length + numeral radix more := by
  induction more using List.reverseRecOn with
  | nil => simp [numeral]
  | append_singleton more unit induction =>
      have left : numeral radix (text ++ (more ++ [unit])) =
          numeral radix (text ++ more) * radix + digitOf unit := by
        simp [numeral, List.foldl_append]
      have right : numeral radix (more ++ [unit]) = numeral radix more * radix + digitOf unit := by
        simp [numeral, List.foldl_append]
      rw [left, right, induction, List.length_append, List.length_singleton, pow_succ]
      ring

theorem numeral_zeros (count : Nat) : numeral 10 (List.replicate count zero) = 0 := by
  induction count with
  | zero => rfl
  | succ count induction =>
      rw [List.replicate_succ', numeral_append, induction]
      rfl

theorem numeral_pad_end {text : Text} {width : Nat} (fits : text.length ≤ width) :
    numeral 10 (padEnd text width) * 10 ^ text.length = numeral 10 text * 10 ^ width := by
  unfold padEnd
  rw [numeral_append, numeral_zeros, List.length_replicate, Nat.add_zero, Nat.mul_assoc,
    ← pow_add, Nat.sub_add_cancel fits]

theorem digits_pad_end {text : Text} (plain : Digits 10 text) (width : Nat) :
    Digits 10 (padEnd text width) := by
  intro unit member
  rw [padEnd, List.mem_append] at member
  cases member with
  | inl inside => exact plain unit inside
  | inr padding =>
      rw [List.eq_of_mem_replicate padding]
      decide

theorem dot_not_mem {radix : Nat} {text : Text} (small : radix ≤ 16)
    (inside : Digits radix text) : dot ∉ text := by
  intro member
  have digit := inside dot member
  have none : digitOf dot = 16 := by decide
  omega

/-! ## All that is read -/

def Spaces (text : Text) : Prop := ∀ unit ∈ text, isSpace unit = true

/-- A sign or a radix prefix with its digits, of which there need be none where
zeros are written after them. -/
inductive Marked (filled : Bool) : Text → Prop
  | signed (sign : CodeUnit) (rest : Text) : sign = plus ∨ sign = minus → Digits 10 rest →
      (rest = [] → filled) → Marked filled (sign :: rest)
  | prefixed (mark : CodeUnit) (radix : Nat) (rest : Text) : radixOf mark = some radix →
      Digits radix rest → (rest = [] → filled) → Marked filled (zero :: mark :: rest)

/-- What is read without being digits: a sign or a prefix, or space, perhaps around
nothing. Where zeros are written after it there is no space at the end. -/
def Foreign (filled : Bool) (text : Text) : Prop :=
  ∃ lead core trail, text = lead ++ core ++ trail ∧ Spaces lead ∧ Spaces trail ∧
    (filled → trail = []) ∧ (Marked filled core ∨ Digits 10 core ∧ lead ++ trail ≠ [])

theorem digits_isSome_iff {radix : Nat} {text : Text} :
    (digits radix text).isSome ↔ text ≠ [] ∧ Digits radix text := by
  unfold digits
  split_ifs with plain
  · simpa using plain
  · simpa using plain

theorem radix_le {mark : CodeUnit} {radix : Nat} (named : radixOf mark = some radix) :
    radix ≤ 16 := by
  unfold radixOf at named
  grind

theorem sign_is_no_digit {sign : CodeUnit} (signs : sign = plus ∨ sign = minus) :
    digitOf sign = 16 ∧ isSpace sign = false ∧ sign ≠ zero := by
  rcases signs with rfl | rfl
  · decide
  · decide

theorem mark_is_no_digit {mark : CodeUnit} {radix : Nat} (named : radixOf mark = some radix) :
    ¬digitOf mark < 10 := by
  intro digit
  rw [radix_of_digit digit] at named
  cases named

theorem unsigned_isSome_iff {text : Text} (some : text ≠ [])
    (unmarked : ∀ first ∈ text.head?, first ≠ plus ∧ first ≠ minus) :
    (unsigned text).isSome ↔ Digits 10 text ∨ Marked false text := by
  have plain (text : Text) (some : text ≠ []) (digitsOnly : ¬Marked false text) :
      (digits 10 text).isSome ↔ Digits 10 text ∨ Marked false text := by
    rw [digits_isSome_iff]
    tauto
  cases text with
  | nil => exact absurd rfl some
  | cons first rest =>
      have first_unmarked := unmarked first rfl
      cases rest with
      | nil =>
          apply plain _ some
          intro marked
          cases marked with
          | signed _ _ signs => tauto
      | cons mark rest =>
          simp only [unsigned]
          cases named : radixOf mark with
          | none =>
              apply plain _ some
              intro marked
              cases marked with
              | signed _ _ signs => tauto
              | prefixed _ radix _ other =>
                  rw [named] at other
                  cases other
          | some radix =>
              have not_plain : ¬Digits 10 (first :: mark :: rest) := fun digits =>
                mark_is_no_digit named (digits mark (by simp))
              by_cases zeroed : first = zero
              · simp only [if_pos zeroed, digits_isSome_iff]
                constructor
                · rintro ⟨nonempty, inside⟩
                  right
                  rw [zeroed]
                  exact .prefixed mark radix rest named inside fun empty => absurd empty nonempty
                · rintro (digits | marked)
                  · exact absurd digits not_plain
                  · cases marked with
                    | signed _ _ signs => tauto
                    | prefixed _ other _ again inside nonempty =>
                        rw [named] at again
                        cases again
                        exact ⟨fun empty => by simpa using nonempty empty, inside⟩
              · simp only [if_neg zeroed]
                constructor
                · intro reads
                  cases reads
                · rintro (digits | marked)
                  · exact absurd digits not_plain
                  · cases marked with
                    | signed _ _ signs => tauto
                    | prefixed => exact absurd rfl zeroed

theorem integer_literal_isSome_iff (text : Text) :
    (integerLiteral text).isSome ↔ Digits 10 text ∨ Marked false text := by
  cases text with
  | nil =>
      constructor
      · intro _
        left
        intro unit member
        cases member
      · intro _
        rfl
  | cons first rest =>
      by_cases signs : first = plus ∨ first = minus
      · have not_plain : ¬Digits 10 (first :: rest) := by
          intro digits
          have digit := digits first (by simp)
          have none := (sign_is_no_digit signs).1
          omega
        have reads : (integerLiteral (first :: rest)).isSome ↔ rest ≠ [] ∧ Digits 10 rest := by
          rw [← digits_isSome_iff]
          simp only [integerLiteral]
          split_ifs with isPlus isMinus
          · rfl
          · rw [Option.isSome_map]
          · tauto
        rw [reads]
        constructor
        · rintro ⟨nonempty, inside⟩
          right
          exact .signed first rest signs inside fun empty => absurd empty nonempty
        · rintro (digits | marked)
          · exact absurd digits not_plain
          · cases marked with
            | signed _ _ _ inside nonempty =>
                exact ⟨fun empty => by simpa using nonempty empty, inside⟩
            | prefixed => exact absurd rfl (sign_is_no_digit signs).2.2
      · push Not at signs
        have reads : integerLiteral (first :: rest) = unsigned (first :: rest) := by
          simp only [integerLiteral, if_neg signs.1, if_neg signs.2]
        rw [reads]
        apply unsigned_isSome_iff (List.cons_ne_nil first rest)
        intro other head
        cases head
        exact signs

/-! ## With the space around it -/

theorem exists_surrounded (text : Text) :
    ∃ lead trail, text = lead ++ trim text ++ trail ∧ Spaces lead ∧ Spaces trail := by
  refine ⟨text.takeWhile isSpace, (text.dropWhile isSpace).rtakeWhile isSpace, ?_, ?_, ?_⟩
  · rw [List.append_assoc, trim, List.rdropWhile_append_rtakeWhile,
      List.takeWhile_append_dropWhile]
  · exact fun unit member => List.mem_takeWhile_imp member
  · exact fun unit member => List.mem_rtakeWhile_imp member

structure Tight (core : Text) : Prop where
  starts : ∀ unit ∈ core.head?, isSpace unit = false
  ends : ∀ unit ∈ core.getLast?, isSpace unit = false

theorem rdrop_while_of_spaces (core : Text) {trail : Text} (after : Spaces trail) :
    (core ++ trail).rdropWhile isSpace = core.rdropWhile isSpace := by
  unfold List.rdropWhile
  rw [List.reverse_append, List.dropWhile_append_of_pos]
  intro unit member
  exact after unit (List.mem_reverse.mp member)

theorem trim_surrounded {lead core trail : Text} (before : Spaces lead) (after : Spaces trail)
    (tight : Tight core) : trim (lead ++ core ++ trail) = core := by
  rw [trim, List.append_assoc, List.dropWhile_append_of_pos before]
  cases core with
  | nil =>
      have gone : trail.dropWhile isSpace = [] := List.dropWhile_eq_nil_iff.mpr after
      rw [List.nil_append, gone, List.rdropWhile_nil]
  | cons first rest =>
      have kept : (first :: rest ++ trail).dropWhile isSpace = first :: rest ++ trail := by
        rw [List.cons_append, List.dropWhile_cons_of_neg]
        simpa using tight.starts first rfl
      rw [kept, rdrop_while_of_spaces _ after, List.rdropWhile_eq_self_iff]
      intro nonempty
      simpa using tight.ends _ (List.getLast?_eq_some_getLast nonempty)

theorem no_space_of_digits {radix : Nat} (small : radix ≤ 16) {text : Text}
    (inside : Digits radix text) {unit : CodeUnit} (member : unit ∈ text) :
    isSpace unit = false :=
  space_is_no_digit (Nat.lt_of_lt_of_le (inside unit member) small)

theorem tight_of_read {core : Text} (reads : Digits 10 core ∨ Marked false core) :
    Tight core := by
  rcases reads with inside | marked
  · constructor
    · exact fun unit head => no_space_of_digits (by decide) inside (List.mem_of_mem_head? head)
    · exact fun unit last => no_space_of_digits (by decide) inside (List.mem_of_getLast? last)
  · cases marked with
    | signed sign rest signs inside nonempty =>
        constructor
        · rintro unit head
          cases head
          exact (sign_is_no_digit signs).2.1
        · intro unit last
          have more : rest ≠ [] := fun empty => by simpa using nonempty empty
          rw [List.getLast?_cons_of_ne_nil more] at last
          exact no_space_of_digits (by decide) inside (List.mem_of_getLast? last)
    | prefixed mark radix rest named inside nonempty =>
        constructor
        · rintro unit head
          cases head
          decide
        · intro unit last
          have more : rest ≠ [] := fun empty => by simpa using nonempty empty
          rw [List.getLast?_cons_of_ne_nil (List.cons_ne_nil _ _),
            List.getLast?_cons_of_ne_nil more] at last
          exact no_space_of_digits (radix_le named) inside (List.mem_of_getLast? last)

theorem big_int_isSome_iff (text : Text) :
    (bigInt text).isSome ↔ Digits 10 text ∨ Foreign false text := by
  rw [bigInt, integer_literal_isSome_iff]
  constructor
  · intro reads
    obtain ⟨lead, trail, split, before, after⟩ := exists_surrounded text
    by_cases bare : lead ++ trail = []
    · obtain ⟨noLead, noTrail⟩ := List.append_eq_nil_iff.mp bare
      have same : trim text = text := by
        rw [noLead, noTrail, List.nil_append, List.append_nil] at split
        exact split.symm
      rw [same] at reads
      rcases reads with digits | marked
      · exact .inl digits
      · exact .inr ⟨[], text, [], by simp, by simp [Spaces], by simp [Spaces], by simp,
          .inl marked⟩
    · right
      refine ⟨lead, trim text, trail, split, before, after, by simp, ?_⟩
      rcases reads with digits | marked
      · exact .inr ⟨digits, bare⟩
      · exact .inl marked
  · rintro (digits | ⟨lead, core, trail, rfl, before, after, _, reads⟩)
    · rw [trim_of_digits digits]
      exact .inl digits
    · have within : Digits 10 core ∨ Marked false core := by tauto
      rw [trim_surrounded before after (tight_of_read within)]
      exact within

/-! ## With zeros written after it -/

theorem zeros_are_digits {radix : Nat} (positive : 0 < radix) (count : Nat) :
    Digits radix (List.replicate count zero) := by
  intro unit member
  rw [List.eq_of_mem_replicate member]
  exact positive

theorem digits_append_iff {radix : Nat} {text more : Text} :
    Digits radix (text ++ more) ↔ Digits radix text ∧ Digits radix more :=
  List.forall_mem_append

theorem radix_pos {mark : CodeUnit} {radix : Nat} (named : radixOf mark = some radix) :
    0 < radix := by
  unfold radixOf at named
  grind

/-- A mark with zeros after it is a mark that may lack digits of its own. -/
theorem marked_filled_iff {text : Text} (count : Nat) :
    Marked false (text ++ List.replicate (count + 1) zero) ↔ Marked true text := by
  constructor
  · intro marked
    generalize filling : text ++ List.replicate (count + 1) zero = filled at marked
    cases marked with
    | signed sign rest signs inside =>
        cases text with
        | nil =>
            have filler : sign = zero := (List.cons.inj filling).1.symm
            exact absurd filler (sign_is_no_digit signs).2.2
        | cons first own =>
            obtain ⟨rfl, rfl⟩ := List.cons.inj filling
            exact .signed first own signs (digits_append_iff.mp inside).1 fun _ => rfl
    | prefixed mark radix rest named inside =>
        have letter : mark ≠ zero := by
          intro filler
          rw [filler] at named
          cases named
        match text with
        | [] =>
            have filler : mark ∈ List.replicate (count + 1) zero := by
              rw [List.nil_append] at filling
              rw [filling]
              simp
            exact absurd (List.eq_of_mem_replicate filler) letter
        | [first] =>
            have filler : mark = zero := (List.cons.inj (List.cons.inj filling).2).1.symm
            exact absurd filler letter
        | first :: second :: own =>
            obtain ⟨rfl, more⟩ := List.cons.inj filling
            obtain ⟨rfl, rfl⟩ := List.cons.inj more
            exact .prefixed second radix own named (digits_append_iff.mp inside).1 fun _ => rfl
  · intro marked
    cases marked with
    | signed sign rest signs inside =>
        refine .signed sign (rest ++ _) signs ?_ ?_
        · exact digits_append_iff.mpr ⟨inside, zeros_are_digits (by decide) _⟩
        · intro empty
          simp at empty
    | prefixed mark radix rest named inside =>
        refine .prefixed mark radix (rest ++ _) named ?_ ?_
        · exact digits_append_iff.mpr ⟨inside, zeros_are_digits (radix_pos named) _⟩
        · intro empty
          simp at empty

theorem foreign_filled_iff {text : Text} (count : Nat) :
    Foreign false (text ++ List.replicate (count + 1) zero) ↔ Foreign true text := by
  have filler : isSpace zero = false := by decide
  constructor
  · rintro ⟨lead, core, trail, split, before, after, _, reads⟩
    -- what follows the zeros is no space, and what is before them no zero
    have noTrail : trail = [] := by
      by_contra more
      have last := congrArg List.getLast? split
      rw [List.replicate_succ', ← List.append_assoc, List.getLast?_concat,
        List.getLast?_append_of_ne_nil _ more] at last
      have space := after zero (List.mem_of_getLast? last.symm)
      rw [filler] at space
      cases space
    rw [noTrail, List.append_nil] at split reads
    obtain ⟨own, same, zeros⟩ : ∃ own, text = lead ++ own ∧
        core = own ++ List.replicate (count + 1) zero := by
      obtain ⟨more, spaces, zeros⟩ | whole := List.append_eq_append_iff.mp split
      · cases more with
        | nil => exact ⟨[], by simpa using spaces.symm, by simpa using zeros.symm⟩
        | cons unit rest =>
            have isZero : unit = zero := (List.cons.inj zeros).1.symm
            have space := before unit (by rw [spaces]; simp)
            rw [isZero, filler] at space
            cases space
      · exact whole
    refine ⟨lead, own, [], by simpa using same, before, by simp [Spaces], by simp, ?_⟩
    rw [zeros, marked_filled_iff, digits_append_iff] at reads
    rw [List.append_nil]
    tauto
  · rintro ⟨lead, core, trail, rfl, before, after, noTrail, reads⟩
    obtain rfl := noTrail rfl
    rw [List.append_nil] at reads ⊢
    refine ⟨lead, core ++ List.replicate (count + 1) zero, [], by simp, before, after, by simp, ?_⟩
    rw [List.append_nil]
    rcases reads with marked | ⟨inside, space⟩
    · exact .inl ((marked_filled_iff count).mpr marked)
    · exact .inr ⟨digits_append_iff.mpr ⟨inside, zeros_are_digits (by decide) _⟩, space⟩

theorem not_digits_of_foreign {filled : Bool} {text : Text} (foreign : Foreign filled text) :
    ¬Digits 10 text := by
  obtain ⟨lead, core, trail, rfl, before, after, _, reads⟩ := foreign
  intro inside
  obtain ⟨front, behind⟩ := digits_append_iff.mp inside
  obtain ⟨left, middle⟩ := digits_append_iff.mp front
  have spaceless (space : Text) (spaces : Spaces space) (digits : Digits 10 space) :
      space = [] := by
    apply List.eq_nil_iff_forall_not_mem.mpr
    intro unit member
    have apart := no_space_of_digits (by decide) digits member
    rw [spaces unit member] at apart
    cases apart
  rcases reads with marked | ⟨_, space⟩
  · cases marked with
    | signed sign rest signs =>
        have digit := middle sign List.mem_cons_self
        have none := (sign_is_no_digit signs).1
        omega
    | prefixed mark radix rest named => exact mark_is_no_digit named (middle mark (by simp))
  · apply space
    rw [spaceless lead before left, spaceless trail after behind, List.nil_append]

theorem dot_not_mem_of_foreign {filled : Bool} {text : Text} (foreign : Foreign filled text) :
    dot ∉ text := by
  obtain ⟨lead, core, trail, rfl, before, after, _, reads⟩ := foreign
  have spaceless {space : Text} (spaces : Spaces space) : dot ∉ space := by
    intro member
    exact absurd (spaces dot member) (by decide)
  have middle : dot ∉ core := by
    rcases reads with marked | ⟨inside, _⟩
    · cases marked with
      | signed sign rest signs inside =>
          rw [List.mem_cons, not_or]
          refine ⟨?_, dot_not_mem (by decide) inside⟩
          rcases signs with rfl | rfl
          · decide
          · decide
      | prefixed mark radix rest named inside =>
          rw [List.mem_cons, List.mem_cons, not_or, not_or]
          refine ⟨by decide, ?_, dot_not_mem (radix_le named) inside⟩
          intro same
          rw [← same] at named
          cases named
    · exact dot_not_mem (by decide) inside
  simp only [List.mem_append, not_or]
  exact ⟨⟨spaceless before, middle⟩, spaceless after⟩

end Text

end Ghoststake.Screen
