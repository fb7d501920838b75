/-
Module: RockSolid.Engine.WriteBatch
Layer: Engine
Purpose: RocksDB's write batches.  A batch collects operations, each on one
  column family, range deletions among them; the engine applies a whole batch in
  order, or fails and applies none of it.
Trusted boundary: documented behaviour of RocksDB, which is not part of the
  repository
Main exports: BatchOp, WriteBatch, Db.deleteRange, Db.applyBatch, Db.write,
  Db.record_deleteRange, Db.applyBatch_writes, Db.applyBatch_other
-/
import RockSolid.Engine.NativeTxn

namespace RockSolid

open Foundation

/-- One operation of a batch. -/
inductive BatchOp where
  | write (op : WriteOp)
  | deleteRange (cf : String) (startKey endKey : Bytes)
deriving DecidableEq, Repr

/-- The column family an operation is about. -/
def BatchOp.family : BatchOp → String
  | .write op => op.target.cf
  | .deleteRange cf _ _ => cf

/-- The operations of a batch, in the order they were added. -/
abbrev WriteBatch := List BatchOp

/-- The keys of a range: from the first bound on, before the second. -/
def inRange (cmp : Comparator) (startKey endKey key : Bytes) : Bool :=
  cmp startKey key != .gt && cmp key endKey == .lt

namespace Db

variable {cmps : String → Comparator}

/-- The contents after a range deletion. -/
def deleteRange (data : Db cmps) (cf : String) (startKey endKey : Bytes) :
    Db cmps :=
  Function.update data cf
    ((data cf).filter fun key _ => !inRange (cmps cf) startKey endKey key)

/-- The contents after one operation of a batch. -/
def applyOp (data : Db cmps) : BatchOp → Db cmps
  | .write op => data.apply op
  | .deleteRange cf startKey endKey => data.deleteRange cf startKey endKey

/-- The contents after all operations of a batch, in order. -/
def applyBatch (data : Db cmps) (batch : WriteBatch) : Db cmps :=
  batch.foldl applyOp data

/-- `DB::write`: the whole batch or nothing. -/
def write (data : Db cmps) (batch : WriteBatch) (fault : Option Fault) :
    Except RocksError Unit × Db cmps :=
  match fault with
  | none => (.ok (), data.applyBatch batch)
  | some fault => (.error fault.error, data)

/-- A batch without range deletions applies its writes. -/
theorem applyBatch_writes (data : Db cmps) (ops : List WriteOp) :
    data.applyBatch (ops.map .write) = data.applyAll ops := by
  rw [applyBatch, List.foldl_map]
  rfl

/-- A write leaves the other families as they were. -/
theorem apply_other (data : Db cmps) (op : WriteOp) {cf : String}
    (other : cf ≠ op.target.cf) : data.apply op cf = data cf :=
  Function.update_of_ne other _ _

/-- So does every operation of a batch. -/
theorem applyOp_other (data : Db cmps) (op : BatchOp) {cf : String}
    (other : cf ≠ op.family) : data.applyOp op cf = data cf := by
  cases op with
  | write op => exact data.apply_other op other
  | deleteRange inCf startKey endKey => exact Function.update_of_ne other _ _

/-- A batch changes only the families its operations are about. -/
theorem applyBatch_other (data : Db cmps) {batch : WriteBatch} {cf : String}
    (others : ∀ op ∈ batch, cf ≠ op.family) :
    data.applyBatch batch cf = data cf := by
  induction batch generalizing data with
  | nil => rfl
  | cons op batch inductionHypothesis =>
      have tail := inductionHypothesis (data.applyOp op)
        (fun later member => others later (List.mem_cons_of_mem _ member))
      exact tail.trans (data.applyOp_other op (others op List.mem_cons_self))

section Comparators

variable [∀ cf, Std.TransCmp (cmps cf)]

omit [∀ cf, Std.TransCmp (cmps cf)] in
/-- Two spellings of one key lie in the same ranges. -/
theorem inRange_congr {cmp : Comparator} [Std.TransCmp cmp]
    (startKey endKey : Bytes) {key other : Bytes} (same : cmp key other = .eq) :
    inRange cmp startKey endKey key = inRange cmp startKey endKey other := by
  rw [inRange, inRange, Std.TransCmp.congr_right same,
    Std.TransCmp.congr_left same]

/-- A range deletion removes the records of the keys in the range, and no
other. -/
theorem record_deleteRange (data : Db cmps) (cf : String)
    (startKey endKey : Bytes) (at_ : CfKey) :
    (data.deleteRange cf startKey endKey).record at_ =
      if at_.cf = cf ∧ inRange (cmps cf) startKey endKey at_.key = true then
        Record.absent
      else data.record at_ := by
  obtain ⟨inCf, key⟩ := at_
  by_cases sameCf : inCf = cf
  · subst sameCf
    have inFamily : data.deleteRange inCf startKey endKey inCf =
        (data inCf).filter fun key _ =>
          !inRange (cmps inCf) startKey endKey key := by
      simp [deleteRange]
    have lookedUp : (data.deleteRange inCf startKey endKey inCf)[key]? =
        (data inCf)[key]?.filter fun _ =>
          !inRange (cmps inCf) startKey endKey key := by
      rw [inFamily]
      cases spelled : (data inCf).getKey? key with
      | none =>
          have missing : key ∉ data inCf := by
            rw [Std.TreeMap.mem_iff_isSome_getKey?, spelled]
            exact Bool.false_ne_true
          rw [Std.TreeMap.getElem?_eq_none missing,
            Std.TreeMap.getElem?_eq_none
              (fun kept => missing (Std.TreeMap.mem_of_mem_filter kept))]
          rfl
      | some stored =>
          have same : cmps inCf stored key = .eq := by
            have compared := Std.TreeMap.compare_getKey?_self (t := data inCf)
              (k := key)
            simpa [spelled] using compared
          rw [Std.TreeMap.getElem?_filter_of_getKey?_eq_some spelled,
            inRange_congr startKey endKey same]
    rw [record, record, Std.TreeMap.getD_eq_getD_getElem?, lookedUp,
      Std.TreeMap.getD_eq_getD_getElem?]
    cases inRange (cmps inCf) startKey endKey key <;>
      cases (data inCf)[key]? <;> simp [Option.filter]
  · have otherFamily : data.deleteRange cf startKey endKey inCf = data inCf :=
      Function.update_of_ne sameCf _ _
    rw [record, otherFamily, if_neg (fun both => sameCf both.1)]
    rfl

end Comparators

end Db

end RockSolid
