import Ghoststake.Index.Rows

/-!
# Rows without an owner

A row written before there was a column for its contract is given one at boot.
What the two attributions together leave of a database is named here, and each
write of theirs is a part of it.
-/

namespace Ghoststake

set_option autoImplicit false

namespace Index

variable {Entry RoundEvent Payload Body : Type}

section Definitions

variable (ix : Indexer)

/-- The address an entry without one is filed under: its contract's name says
whose it is, as there is one vault and one pool. -/
def entryOwner (row : Row Entry) : Option Address :=
  (ix.contracts.find? fun c =>
    (c.name == .collateralVault || c.name == .borrowLiquidityPool) &&
      c.name == row.provenance.contract).map (·.address)

/-- The market a round event without one is filed under, if there is only one. -/
def roundOwner : Option Address :=
  match marketAddresses ix with
  | [market] => some market
  | _ => none

def filed (chainID : Int) (ownerOf : Row Body → Option Address) (row : Row Body) : Row Body :=
  if row.unattributed chainID then { row with owner := ownerOf row } else row

def attributed (db : Database Entry RoundEvent) : Database Entry RoundEvent where
  entries := db.entries.map (filed ix.cfg.chainID (entryOwner ix))
  rounds := db.rounds.map (filed ix.cfg.chainID fun _ => roundOwner ix)
  cursors := db.cursors

structure Owned (db : Database Entry RoundEvent) : Prop where
  entries : ∀ row ∈ db.entries, row.unattributed ix.cfg.chainID = false
  rounds : RoundsFiled ix db

end Definitions

section Filing

variable {chainID : Int} {ownerOf : Row Body → Option Address} {row : Row Body}

theorem filed_of_owned (owned : row.unattributed chainID = false) :
    filed chainID ownerOf row = row := by
  rw [filed, owned]
  rfl

theorem filed_of_unowned (bare : row.unattributed chainID = true)
    (unknown : ownerOf row = none) : filed chainID ownerOf row = row := by
  rw [filed, if_pos bare, unknown]
  simp only [Row.unattributed, Bool.and_eq_true, Option.isNone_iff_eq_none] at bare
  rw [← bare.2]

/-- Filing a part of the rows first changes nothing of what filing all of them leaves. -/
theorem filed_withOwner {named : Row Body → Bool} {owner : Address} (rows : List (Row Body))
    (agrees : ∀ row ∈ rows, row.unattributed chainID = true → named row = true →
      ownerOf row = some owner) :
    (withOwner chainID named owner rows).map (filed chainID ownerOf) =
      rows.map (filed chainID ownerOf) := by
  rw [withOwner, List.map_map]
  apply List.map_congr_left
  intro row member
  show filed chainID ownerOf (if row.unattributed chainID && named row then _ else row) = _
  split_ifs with taken
  · obtain ⟨bare, picked⟩ := Bool.and_eq_true_iff.1 taken
    have owned : ({ row with owner := some owner } : Row Body).unattributed chainID = false := by
      simp [Row.unattributed]
    rw [filed_of_owned owned, filed, if_pos bare, agrees row member bare picked]
  · rfl

end Filing

variable {ix : Indexer} {db after : Database Entry RoundEvent}

theorem attributed_of_owned (owned : Owned ix db) : attributed ix db = db := by
  have entries : db.entries.map (filed ix.cfg.chainID (entryOwner ix)) = db.entries := by
    rw [List.map_congr_left fun row member => filed_of_owned (owned.entries row member)]
    exact List.map_id _
  have rounds : db.rounds.map (filed ix.cfg.chainID fun _ => roundOwner ix) = db.rounds := by
    rw [List.map_congr_left fun row member => filed_of_owned (owned.rounds row member)]
    exact List.map_id _
  rw [attributed, entries, rounds]

/-- There is one contract of each name that entries are of. -/
theorem entryOwner_of_listed {hashing : Hashing} {cfg : Config} {c : ContractSpec}
    (built : Indexer.new hashing cfg = .ok ix) (listed : c ∈ ix.contracts)
    (money : c.name = .collateralVault ∨ c.name = .borrowLiquidityPool) (row : Row Entry)
    (named : row.provenance.contract = c.name) : entryOwner ix row = some c.address := by
  have contracts := (Indexer.of_new built).1
  rw [contracts, List.mem_map] at listed
  obtain ⟨spec, listed, rfl⟩ := listed
  rw [entryOwner, contracts, named]
  simp only [specs, List.mem_append, List.mem_cons, List.not_mem_nil, or_false, List.mem_map]
    at listed
  rcases listed with ((rfl | rfl) | ⟨market, _, rfl⟩) | ⟨oracle, _, rfl⟩
  · rfl
  · rfl
  · simp [Spec.parse] at money
  · simp [Spec.parse] at money

theorem attributed_entries {hashing : Hashing} {cfg : Config} {c : ContractSpec}
    (built : Indexer.new hashing cfg = .ok ix) (listed : c ∈ ix.contracts)
    (money : c.name = .collateralVault ∨ c.name = .borrowLiquidityPool) :
    attributed ix (db.attributeEntries ix.cfg.chainID c.name c.address) = attributed ix db := by
  have entries : (db.attributeEntries ix.cfg.chainID c.name c.address).entries.map
      (filed ix.cfg.chainID (entryOwner ix)) =
        db.entries.map (filed ix.cfg.chainID (entryOwner ix)) := by
    apply filed_withOwner
    intro row _ _ named
    exact entryOwner_of_listed built listed money row (eq_of_beq named)
  rw [attributed, entries]
  rfl

theorem attributed_rounds {market : Address} (only : marketAddresses ix = [market]) :
    attributed ix (db.attributeRoundEvents ix.cfg.chainID market) = attributed ix db := by
  have rounds : (db.attributeRoundEvents ix.cfg.chainID market).rounds.map
      (filed ix.cfg.chainID fun _ => roundOwner ix) =
        db.rounds.map (filed ix.cfg.chainID fun _ => roundOwner ix) := by
    apply filed_withOwner
    intro _ _ _ _
    rw [roundOwner, only]
  rw [attributed, rounds]
  rfl

theorem attributed_adopt (legacy stream : Text) :
    attributed ix (db.adoptCursor legacy stream) = (attributed ix db).adoptCursor legacy stream := by
  have cursors : (attributed ix db).cursors = db.cursors := rfl
  unfold Database.adoptCursor
  rw [cursors]
  split
  · rfl
  · rfl

theorem owned_of_repair (repair : Repair ix db after) (owned : Owned ix db) :
    Owned ix after := by
  refine ⟨?_, roundsFiled_of_repair repair owned.rounds⟩
  cases repair with
  | adopt _ _ _ =>
      unfold Database.adoptCursor
      split
      · exact owned.entries
      · exact owned.entries
  | attributeEntries _ _ =>
      intro row member
      rw [Bool.eq_false_iff]
      intro bare
      rw [owned.entries row (mem_of_unattributed member bare).1] at bare
      cases bare
  | attributeRounds _ => exact owned.entries
  | replay _ _ => exact owned.entries

/-- Where the attributions leave no row without an owner and have nothing left
to do, there is no such row. -/
theorem owned_of_ready (ready : Ready ix db) (named : Owned ix (attributed ix db)) :
    Owned ix db := by
  refine ⟨?_, ready.rounds⟩
  intro row member
  rw [Bool.eq_false_iff]
  intro bare
  have unknown : entryOwner ix row = none := by
    rw [entryOwner, Option.map_eq_none_iff, List.find?_eq_none]
    intro c listed matched
    simp only [Bool.and_eq_true, Bool.or_eq_true, beq_iff_eq] at matched
    exact ready.entries row member bare c listed matched.1 matched.2.symm
  have still : row ∈ (attributed ix db).entries := by
    have mapped := List.mem_map_of_mem (f := filed ix.cfg.chainID (entryOwner ix)) member
    rw [filed_of_unowned bare unknown] at mapped
    exact mapped
  rw [named.entries row still] at bare
  cases bare

end Index

end Ghoststake
