/-
Module: RockSolid.Engine.Records
Layer: Engine
Purpose: What the crate relies on about RocksDB's data: a map of records for
  each column family, ordered by the family's comparator, two keys being the
  same key exactly when the comparator returns `Equal`; `put`, `delete` and
  `merge` change one record; a read of a record with pending merge operands
  calls the full merge function.
Trusted boundary: documented behaviour of RocksDB, which is not part of the
  repository
Main exports: CfKey, WriteOp, Record, Db, Db.record, Db.apply, Db.applyAll,
  DbHandle, DbHandle.read, Db.record_apply
-/
import Mathlib.Logic.Function.Basic
import Std.Data.TreeMap
import RockSolid.Core.Error
import RockSolid.Foundation.KeyedStore

namespace RockSolid

open Foundation

/-- A key together with the column family it lives in. -/
structure CfKey where
  cf : String
  key : Bytes
deriving DecidableEq, Repr

/-- One record handed to RocksDB. -/
inductive WriteOp where
  | put (at_ : CfKey) (value : Bytes)
  | delete (at_ : CfKey)
  | merge (at_ : CfKey) (operand : Bytes)
deriving DecidableEq, Repr

/-- The key a record is written to. -/
def WriteOp.target : WriteOp → CfKey
  | .put at_ _ | .delete at_ | .merge at_ _ => at_

/-- What is stored for a key: a base value and the merge operands written since,
oldest first. -/
structure Record where
  base : Option Bytes
  operands : List Bytes
deriving DecidableEq, Repr

/-- Nothing was ever written, or a delete came last. -/
def Record.absent : Record := { base := none, operands := [] }

/-- The record after one write to its key. -/
def WriteOp.effect : WriteOp → Record → Record
  | .put _ value, _ => { base := some value, operands := [] }
  | .delete _, _ => Record.absent
  | .merge _ operand, record =>
      { record with operands := record.operands ++ [operand] }

/-- A byte comparator as RocksDB takes it. -/
abbrev Comparator := Bytes → Bytes → Ordering

/-- Contents of all column families, each ordered by its own comparator. -/
abbrev Db (cmps : String → Comparator) :=
  (cf : String) → Std.TreeMap Bytes Record (cmps cf)

/-- Contents under RocksDB's default byte-wise comparator. -/
abbrev ByteDb := Db fun _ => compare

variable {cmps : String → Comparator}

/-- A database without records. -/
def Db.empty : Db cmps := fun _ => ∅

/-- The record stored for a key. -/
def Db.record (data : Db cmps) (at_ : CfKey) : Record :=
  (data at_.cf).getD at_.key Record.absent

/-- The contents after one write. -/
def Db.apply (data : Db cmps) (op : WriteOp) : Db cmps :=
  Function.update data op.target.cf
    ((data op.target.cf).insert op.target.key
      (op.effect (data.record op.target)))

/-- The contents after a batch of writes, in order. -/
def Db.applyAll (data : Db cmps) (batch : List WriteOp) : Db cmps :=
  batch.foldl Db.apply data

theorem Db.applyAll_append (data : Db cmps) (first second : List WriteOp) :
    data.applyAll (first ++ second) = (data.applyAll first).applyAll second :=
  List.foldl_append

theorem Db.applyAll_cons (data : Db cmps) (op : WriteOp) (ops : List WriteOp) :
    data.applyAll (op :: ops) = (data.apply op).applyAll ops := rfl

/-- Two keys are the same key when the comparator of their family returns
`Equal`. -/
def SameKey (cmps : String → Comparator) (first second : CfKey) : Prop :=
  first.cf = second.cf ∧ cmps second.cf first.key second.key = .eq

instance (first second : CfKey) : Decidable (SameKey cmps first second) :=
  inferInstanceAs (Decidable (_ ∧ _))

@[simp] theorem Db.record_empty (at_ : CfKey) [Std.TransCmp (cmps at_.cf)] :
    (Db.empty : Db cmps).record at_ = Record.absent := by
  simp [Db.record, Db.empty]

/-- A write changes the record of its own key and of no other. -/
theorem Db.record_apply (data : Db cmps) (op : WriteOp) (at_ : CfKey)
    [Std.TransCmp (cmps at_.cf)] :
    (data.apply op).record at_ =
      if SameKey cmps op.target at_ then op.effect (data.record at_)
      else data.record at_ := by
  obtain ⟨cf, key⟩ := at_
  by_cases sameCf : op.target.cf = cf
  · subst sameCf
    have inFamily : (data.apply op) op.target.cf =
        (data op.target.cf).insert op.target.key
          (op.effect (data.record op.target)) := by
      simp [Db.apply]
    rw [Db.record, inFamily, Std.TreeMap.getD_insert]
    by_cases sameKey : cmps op.target.cf op.target.key key = .eq
    · have sameRecord : data.record op.target =
          data.record ⟨op.target.cf, key⟩ := Std.TreeMap.getD_congr sameKey
      rw [if_pos sameKey, if_pos ⟨rfl, sameKey⟩, sameRecord]
    · rw [if_neg sameKey, if_neg (fun same => sameKey same.2)]
      rfl
  · have otherFamily : (data.apply op) cf = data cf := by
      simp [Db.apply, Ne.symm sameCf]
    rw [Db.record, otherFamily, if_neg (fun same => sameCf same.1)]
    rfl

/-- Under the byte-wise comparator only identical keys are the same key. -/
theorem sameKey_compare {first second : CfKey} :
    SameKey (fun _ => compare) first second ↔ first = second := by
  rw [SameKey, Std.LawfulEqOrd.compare_eq_iff_eq]
  cases first
  cases second
  simp

instance : KeyedStore ByteDb CfKey Record WriteOp where
  cell := Db.record
  target := WriteOp.target
  effect := WriteOp.effect
  apply := Db.apply
  cell_apply_target data op := by
    rw [Db.record_apply, if_pos (sameKey_compare.mpr rfl)]
  cell_apply_of_ne data op at_ differs := by
    rw [Db.record_apply, if_neg (fun same => differs (sameKey_compare.mp same))]

/-- `MergeFn` applied to the operands RocksDB has collected for a key. -/
abbrev MergeFn := Bytes → Option Bytes → List Bytes → Option Bytes

/-- What an open database keeps for its whole life: the column families it has
opened and their merge operators. -/
structure DbHandle where
  columnFamilies : List String
  fullMerge : String → MergeFn

/-- Reads one record, merging pending operands. -/
def DbHandle.readRecord (db : DbHandle) (at_ : CfKey) (record : Record) :
    Except RocksError (Option Bytes) :=
  match record.operands with
  | [] => .ok record.base
  | operands =>
      match db.fullMerge at_.cf at_.key record.base operands with
      | some value => .ok (some value)
      | none => .error ⟨"Corruption: Merge operator failed"⟩

/-- `get_pinned` and `get_pinned_cf`. -/
def DbHandle.read (db : DbHandle) (data : Db cmps) (at_ : CfKey) :
    Except RocksError (Option Bytes) :=
  db.readRecord at_ (data.record at_)

/-- `cf_handle`: the family's handle when it is open. -/
def DbHandle.cfHandle (db : DbHandle) (name : String) : Option String :=
  if name ∈ db.columnFamilies then some name else none

end RockSolid
