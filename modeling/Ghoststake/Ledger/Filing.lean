import Ghoststake.Index.Model
import Ghoststake.Ledger.Activity
import Ghoststake.Ledger.Unordered

/-!
# Logs and their rows

What a decoder files of each log of a contract, and a table that has those rows
among others, in any order.
-/

namespace Ghoststake

set_option autoImplicit false

open StableSort

namespace Ledger

open Index

/-! ## Fields -/

/-- `f.roundID(key)`: nothing where the number does not fit. -/
def roundIDField (roundId : Nat) : Option Nat :=
  if roundId < 2 ^ 64 then some roundId else none

def dataOf (fields : List (String × Text)) : List (Text × Text) :=
  fields.map fun (key, value) => (key.toList, value)

def roundBatch (roundId : Nat) (account : Option Address) (side : Text) (amount : Option Int)
    (fields : List (String × Text)) : Option (List RoundBody) :=
  (roundIDField roundId).map fun roundID =>
    [{ roundID, account, side, amount, data := dataOf fields }]

theorem round_batch_eq_some_iff {roundId : Nat} {account : Option Address} {side : Text}
    {amount : Option Int} {fields : List (String × Text)} {bodies : List RoundBody} :
    roundBatch roundId account side amount fields = some bodies ↔
      roundId < 2 ^ 64 ∧
        bodies = [{ roundID := roundId, account, side, amount, data := dataOf fields }] := by
  unfold roundBatch roundIDField
  split_ifs with fits
  · rw [Option.map_some, Option.some.injEq, and_iff_right fits, eq_comm]
  · rw [Option.map_none]
    exact iff_of_false (by simp) fun both => fits both.1

/-! ## Reading the data column -/

section Fields

variable {key other : String} {value : Text} {rest : List (String × Text)}

@[simp] theorem field_self : field (dataOf ((key, value) :: rest)) key = value := by
  simp [field, dataOf]

theorem field_next (apart : key ≠ other) :
    field (dataOf ((other, value) :: rest)) key = field (dataOf rest) key := by
  have unequal : (key.toList == other.toList) = false := by
    rw [beq_eq_false_iff_ne]
    intro same
    exact apart (String.toList_inj.1 same)
  simp [field, dataOf, List.lookup_cons, unequal]

theorem big_field_of_decimal {data : List (Text × Text)} {n : Nat}
    (written : field data key = decimal n) : bigField data key = some (n : Int) := by
  rw [bigField, written, set_string_decimal]

def unixOf (time : Uint64) : Int := (time.val : Int).bmod (2 ^ 64)

theorem unix_field_of_decimal {data : List (Text × Text)} {time : Uint64}
    (written : field data key = decimal time.val) : unixField data key = unixOf time := by
  rw [unixField, big_field_of_decimal written]
  rfl

theorem unix_of_fits {time : Uint64} (fits : time.val < 2 ^ 63) : unixOf time = time.val := by
  apply Int.bmod_eq_of_le
  · omega
  · omega

end Fields

/-! ## The logs of one contract -/

section Logs

variable {Event : Type} {decode : Event → Option (List RoundBody)} {text : Event → Text}

/-- A log as it was found, and what was derived from it. -/
structure SourceLog (decode : Event → Option (List RoundBody)) (text : Event → Text) where
  event : Event
  provenance : Provenance
  bodies : List RoundBody
  named : provenance.eventName = text event
  decoded : decode event = some bodies

def SourceLog.rows (owner : Address) (log : SourceLog decode text) : List RoundEvent :=
  stamped (fun i => { log.provenance with recordIndex := i }) (some owner) log.bodies

def rowsFiled (owner : Address) (logs : List (SourceLog decode text)) : List RoundEvent :=
  logs.flatMap (SourceLog.rows owner)

def SourceLog.Above (a b : SourceLog decode text) : Prop :=
  a.provenance.blockNumber < b.provenance.blockNumber ∨
    a.provenance.blockNumber = b.provenance.blockNumber ∧
      a.provenance.logIndex < b.provenance.logIndex

/-- The rows of a table are those of all of the logs, in any order, and others
that are apart from them. -/
structure Tabled (owner : Address) (apart : RoundEvent → Prop) (announced : List Event)
    (logs : List (SourceLog decode text)) (events : List RoundEvent) : Prop where
  announced : logs.map (·.event) = announced
  inOrder : logs.Pairwise SourceLog.Above
  distinct : (events.map coordinates).Nodup
  others : ∃ others, events.Perm (rowsFiled owner logs ++ others) ∧ ∀ e ∈ others, apart e

variable {owner : Address} {apart : RoundEvent → Prop} {announced : List Event}
  {logs : List (SourceLog decode text)} {events : List RoundEvent}

/-! ## Rows in order -/

theorem mem_rows {log : SourceLog decode text} {e : RoundEvent} (member : e ∈ log.rows owner) :
    ∃ i body, body ∈ log.bodies ∧
      e = ⟨{ log.provenance with recordIndex := i }, some owner, body⟩ := by
  obtain ⟨i, _, rfl⟩ := List.mem_mapIdx.1 member
  exact ⟨i, _, List.getElem_mem _, rfl⟩

def rowOf (owner : Address) (log : SourceLog decode text) (body : RoundBody) : RoundEvent :=
  ⟨{ log.provenance with recordIndex := 0 }, some owner, body⟩

theorem rows_one {log : SourceLog decode text} {body : RoundBody} (one : log.bodies = [body]) :
    log.rows owner = [rowOf owner log body] := by
  rw [SourceLog.rows, one]
  rfl

theorem filter_rows_one {log : SourceLog decode text} {body : RoundBody}
    {kept : RoundEvent → Bool} (one : log.bodies = [body])
    (taken : kept (rowOf owner log body) = true) :
    (log.rows owner).filter kept = [rowOf owner log body] := by
  rw [rows_one one, List.filter_cons_of_pos taken]
  rfl

theorem rows_filed_append (owner : Address) (rest : List (SourceLog decode text))
    (log : SourceLog decode text) :
    rowsFiled owner (rest ++ [log]) = rowsFiled owner rest ++ log.rows owner := by
  simp [rowsFiled]

theorem pairwise_rows (owner : Address) (log : SourceLog decode text) :
    (log.rows owner).Pairwise fun a b => ¬Earlier b a := by
  rw [List.pairwise_iff_forall_sublist]
  intro a b placed
  obtain ⟨_, _, _, rfl⟩ := mem_rows (placed.subset List.mem_cons_self)
  obtain ⟨_, _, _, rfl⟩ :=
    mem_rows (placed.subset (List.mem_cons_of_mem _ (List.mem_singleton_self _)))
  unfold Earlier
  simp

theorem sorted_rows_filed (owner : Address) (inOrder : logs.Pairwise SourceLog.Above) :
    (rowsFiled owner logs).Pairwise fun a b => ¬Earlier b a := by
  unfold rowsFiled
  induction inOrder with
  | nil => exact List.Pairwise.nil
  | @cons log rest above _ ih =>
      rw [List.flatMap_cons, List.pairwise_append]
      refine ⟨pairwise_rows owner log, ih, ?_⟩
      intro a first b later
      obtain ⟨_, _, _, rfl⟩ := mem_rows first
      obtain ⟨next, member, listed⟩ := List.mem_flatMap.1 later
      obtain ⟨_, _, _, rfl⟩ := mem_rows listed
      have order := above next member
      unfold SourceLog.Above at order
      unfold Earlier
      simp only
      split_ifs <;> omega

/-- What the table holds of some records of the contract, in order and without
the rows set aside, is what the contract's logs say of them. -/
theorem history_of_tabled (tabled : Tabled owner apart announced logs events)
    (aside : RoundEvent → Prop) [DecidablePred aside] (kept : RoundEvent → Bool)
    (filed : ∀ e ∈ rowsFiled owner logs, ¬aside e)
    (strangers : ∀ e, kept e = true → apart e → aside e) :
    (sliceStable Earlier (events.filter kept)).filter (fun e => ¬aside e) =
      (rowsFiled owner logs).filter kept := by
  obtain ⟨others, order, away⟩ := tabled.others
  have mine : ((rowsFiled owner logs).filter kept).filter (fun e => ¬aside e) =
      (rowsFiled owner logs).filter kept := by
    rw [List.filter_eq_self]
    intro e member
    exact decide_eq_true (filed e (List.mem_of_mem_filter member))
  have silent : (others.filter kept).filter (fun e => ¬aside e) = [] := by
    rw [List.filter_eq_nil_iff]
    intro e member plain
    obtain ⟨listed, taken⟩ := List.mem_filter.1 member
    exact of_decide_eq_true plain (strangers e taken (away e listed))
  have split := (order.filter kept).filter fun e => ¬aside e
  rw [List.filter_append, List.filter_append, mine, silent, List.append_nil] at split
  rw [filter_sliceStable]
  have strict : Strict Earlier ((events.filter kept).filter fun e => ¬aside e) := by
    apply (strict_of_nodup tabled.distinct).subset
    intro e member
    exact List.mem_of_mem_filter (List.mem_of_mem_filter member)
  rw [sliceStable_eq_of_perm strict split]
  apply sliceStable_eq_self
  exact (sorted_rows_filed owner tabled.inOrder).filter _

/-! ## Logs of given events -/

def Single (decode : Event → Option (List RoundBody)) : Prop :=
  ∀ event bodies, decode event = some bodies → bodies = [] ∨ ∃ body, bodies = [body]

theorem nodup_rows_filed (single : Single decode) (owner : Address)
    (inOrder : logs.Pairwise SourceLog.Above) :
    ((rowsFiled owner logs).map coordinates).Nodup := by
  unfold rowsFiled
  induction inOrder with
  | nil => exact List.nodup_nil
  | @cons log rest above _ ih =>
      rw [List.flatMap_cons, List.map_append, List.nodup_append]
      refine ⟨?_, ih, ?_⟩
      · unfold SourceLog.rows stamped
        rcases single log.event log.bodies log.decoded with none | ⟨body, one⟩
        · rw [none]
          exact List.nodup_nil
        · rw [one]
          exact List.nodup_singleton _
      · intro _ left _ right same
        obtain ⟨a, first, rfl⟩ := List.mem_map.1 left
        obtain ⟨b, later, rfl⟩ := List.mem_map.1 right
        obtain ⟨_, _, _, rfl⟩ := mem_rows first
        obtain ⟨next, member, listed⟩ := List.mem_flatMap.1 later
        obtain ⟨_, _, _, rfl⟩ := mem_rows listed
        have order := above next member
        have sameBlock : log.provenance.blockNumber = next.provenance.blockNumber :=
          congrArg Prod.fst same
        have sameIndex : log.provenance.logIndex = next.provenance.logIndex :=
          congrArg Prod.snd same
        unfold SourceLog.Above at order
        omega

theorem exists_logs (announced : List Event)
    (decodes : ∀ event ∈ announced, (decode event).isSome = true) (block : Nat) :
    ∃ logs : List (SourceLog decode text), logs.map (·.event) = announced ∧
      (∀ log ∈ logs, block ≤ log.provenance.blockNumber) ∧ logs.Pairwise SourceLog.Above := by
  induction announced generalizing block with
  | nil =>
      refine ⟨[], rfl, ?_, List.Pairwise.nil⟩
      intro log member
      cases member
  | cons event rest ih =>
      obtain ⟨logs, events, later, inOrder⟩ :=
        ih (fun other member => decodes other (List.mem_cons_of_mem event member)) (block + 1)
      obtain ⟨bodies, decoded⟩ := Option.isSome_iff_exists.1 (decodes event List.mem_cons_self)
      let log : SourceLog decode text :=
        { event, bodies, decoded
          provenance := ⟨1, block, ⟨List.replicate 64 0, length_zeros⟩, block,
            ⟨List.replicate 64 0, length_zeros⟩, 0, 0, .parimutuelRound, text event⟩
          named := rfl }
      refine ⟨log :: logs, ?_, ?_, ?_⟩
      · rw [List.map_cons, events]
      · intro other member
        rcases List.mem_cons.1 member with rfl | member
        · exact Nat.le_refl block
        · exact (Nat.le_succ block).trans (later other member)
      · rw [List.pairwise_cons]
        exact ⟨fun other member => .inl (later other member), inOrder⟩

theorem exists_tabled (single : Single decode) (owner : Address) (apart : RoundEvent → Prop)
    (announced : List Event) (decodes : ∀ event ∈ announced, (decode event).isSome = true) :
    ∃ logs : List (SourceLog decode text),
      Tabled owner apart announced logs (rowsFiled owner logs) := by
  obtain ⟨logs, events, _, inOrder⟩ := exists_logs announced decodes 0
  refine ⟨logs, events, inOrder, nodup_rows_filed single owner inOrder, [], ?_, ?_⟩
  · rw [List.append_nil]
  · intro e member
    cases member

end Logs

end Ledger

end Ghoststake
