/-
Module: RockSolid.Engine.Compaction
Layer: Engine
Purpose: What the crate relies on about RocksDB's background work: a compaction
  may hand the value of a key to the compaction filter, merge the operands of a
  key into its value with the full merge function, or replace some consecutive
  operands by their partial merge.  It may do any of this to any key at any
  time, or not at all; operands are never handed to the filter.
Trusted boundary: documented behaviour of RocksDB, which is not part of the
  repository
Main exports: RecordWork, RecordWork.effect, EngineStep, CompactedDb,
  SameReads, DbHandle.iterator_eq_meets, DbHandle.iterator_of_sameReads
-/
import RockSolid.Engine.RawIterator
import RockSolid.Foundation.AscendingBindings
import RockSolid.Foundation.BackgroundRuns

namespace RockSolid

open Foundation

/-- What a compaction does to one record. -/
inductive RecordWork where
  | filterValue (decide : Bytes → Option Bytes)
  | fullMerge (mergeFn : MergeFn)
  | partialMerge (mergeFn : MergeFn) (start count : Nat)

/-- The operands with some consecutive ones replaced by their partial merge, if
there are at least two of them and the merge succeeds. -/
def partiallyMerged (mergeFn : MergeFn) (key : Bytes) (start count : Nat)
    (operands : List Bytes) : List Bytes :=
  let block := (operands.drop start).take count
  if block.length < 2 then operands
  else
    match mergeFn key none block with
    | some merged =>
        operands.take start ++ merged :: (operands.drop start).drop count
    | none => operands

/-- The record after the work on it. -/
def RecordWork.effect (key : Bytes) : RecordWork → Record → Record
  | .filterValue decide, record =>
      { record with base := record.base.bind decide }
  | .fullMerge mergeFn, record =>
      match record.operands with
      | [] => record
      | operands =>
          match mergeFn key record.base operands with
          | some value => { base := some value, operands := [] }
          | none => record
  | .partialMerge mergeFn start count, record =>
      { record with
        operands := partiallyMerged mergeFn key start count record.operands }

/-- Work on a record that is not there does nothing. -/
theorem RecordWork.effect_absent (key : Bytes) (work : RecordWork) :
    work.effect key Record.absent = Record.absent := by
  cases work with
  | filterValue decide => rfl
  | fullMerge mergeFn => rfl
  | partialMerge mergeFn start count =>
      simp [effect, partiallyMerged, Record.absent]

/-- One step of the engine: a write it was asked for, or work of its own. -/
inductive EngineStep where
  | write (op : WriteOp)
  | compact (at_ : CfKey) (work : RecordWork)

namespace EngineStep

/-- The key of the record the step changes. -/
def target : EngineStep → CfKey
  | .write op => op.target
  | .compact at_ _ => at_

/-- What the step makes of that record. -/
def effect : EngineStep → Record → Record
  | .write op, record => op.effect record
  | .compact at_ work, record => work.effect at_.key record

/-- The step is work of the engine's own. -/
def isCompaction : EngineStep → Bool
  | .write _ => false
  | .compact _ _ => true

end EngineStep

variable {cmps : String → Comparator}

/-- The contents after work on one record. -/
def Db.compact (data : Db cmps) (at_ : CfKey) (work : RecordWork) : Db cmps :=
  Function.update data at_.cf
    ((data at_.cf).modify at_.key (work.effect at_.key))

/-- Work on a record changes no other. -/
theorem Db.record_compact [∀ cf, Std.TransCmp (cmps cf)] (data : Db cmps)
    (at_ other : CfKey) (work : RecordWork) :
    (data.compact at_ work).record other =
      if SameKey cmps at_ other then work.effect at_.key (data.record other)
      else data.record other := by
  obtain ⟨cf, key⟩ := other
  by_cases sameCf : at_.cf = cf
  · subst sameCf
    have inFamily : (data.compact at_ work) at_.cf =
        (data at_.cf).modify at_.key (work.effect at_.key) := by
      simp [Db.compact]
    rw [Db.record, inFamily, Std.TreeMap.getD_modify]
    by_cases sameKey : cmps at_.cf at_.key key = .eq
    · rw [if_pos sameKey, if_pos ⟨rfl, sameKey⟩, Db.record,
        Std.TreeMap.getD_eq_getD_getElem?,
        Std.TreeMap.getElem?_congr sameKey]
      cases stored : (data at_.cf)[key]? with
      | none => exact (work.effect_absent at_.key).symm
      | some record => rfl
    · rw [if_neg sameKey, if_neg (fun same => sameKey same.2)]
      rfl
  · have otherFamily : (data.compact at_ work) cf = data cf := by
      simp [Db.compact, Ne.symm sameCf]
    rw [Db.record, otherFamily, if_neg (fun same => sameCf same.1)]
    rfl

/-- The contents of a database whose engine takes steps of its own. -/
structure CompactedDb where
  data : ByteDb

namespace CompactedDb

/-- The contents after one step. -/
def step (store : CompactedDb) : EngineStep → CompactedDb
  | .write op => ⟨store.data.apply op⟩
  | .compact at_ work => ⟨store.data.compact at_ work⟩

theorem record_step (store : CompactedDb) (step : EngineStep) (at_ : CfKey) :
    (store.step step).data.record at_ =
      if step.target = at_ then step.effect (store.data.record at_)
      else store.data.record at_ := by
  cases step with
  | write op =>
      change (store.data.apply op).record at_ = _
      rw [Db.record_apply]
      simp only [sameKey_compare]
      rfl
  | compact worked work =>
      change (store.data.compact worked work).record at_ = _
      rw [Db.record_compact]
      simp only [sameKey_compare]
      rfl

theorem record_compact_of_ne (store : CompactedDb) {worked at_ : CfKey}
    (differs : worked ≠ at_) (work : RecordWork) :
    (store.step (.compact worked work)).data.record at_ =
      store.data.record at_ :=
  (store.record_step _ at_).trans (if_neg differs)

theorem record_compact_self (store : CompactedDb) (at_ : CfKey)
    (work : RecordWork) :
    (store.step (.compact at_ work)).data.record at_ =
      work.effect at_.key (store.data.record at_) :=
  (store.record_step _ at_).trans (if_pos rfl)

end CompactedDb

instance instKeyedStoreCompactedDb :
    KeyedStore CompactedDb CfKey Record EngineStep where
  cell store := store.data.record
  target := EngineStep.target
  effect := EngineStep.effect
  apply := CompactedDb.step
  cell_apply_target store step := by
    rw [CompactedDb.record_step, if_pos rfl]
  cell_apply_of_ne store step at_ differs := by
    rw [CompactedDb.record_step, if_neg differs]

section Reads

variable {db : DbHandle} {cf : String}

/-- Every read of a key of the family answers the same. -/
def SameReads (db : DbHandle) (cf : String) (first second : ByteDb) : Prop :=
  ∀ key, db.read first ⟨cf, key⟩ = db.read second ⟨cf, key⟩

/-- What an iterator meets at a record: its value, or the error of the read. -/
def metBy : Except RocksError (Option Bytes) →
    Option (Except RocksError Bytes)
  | .ok (some value) => some (.ok value)
  | .ok none => none
  | .error e => some (.error e)

/-- What an iterator shows of what it meets: all up to the first error. -/
def showUpToError : List (Bytes × Except RocksError Bytes) → RawStream
  | [] => []
  | (key, .ok value) :: rest => .ok (key, value) :: showUpToError rest
  | (_, .error e) :: _ => [.error e]

/-- What an iterator meets along some records. -/
def DbHandle.meets (db : DbHandle) (cf : String) (entry : Bytes × Record) :
    Option (Bytes × Except RocksError Bytes) :=
  (metBy (db.readRecord ⟨cf, entry.1⟩ entry.2)).map (entry.1, ·)

theorem DbHandle.streamOf_eq_showUpToError (records : List (Bytes × Record)) :
    db.streamOf cf records =
      showUpToError (records.filterMap (db.meets cf)) := by
  induction records with
  | nil => rfl
  | cons entry records inductionHypothesis =>
      obtain ⟨key, record⟩ := entry
      rw [streamOf, inductionHypothesis]
      rcases read : db.readRecord ⟨cf, key⟩ record with e | _ | value
      · simp [meets, metBy, read, showUpToError]
      · simp [meets, metBy, read]
      · simp [meets, metBy, read, showUpToError]

theorem DbHandle.meets_key {entry : Bytes × Record}
    {met : Bytes × Except RocksError Bytes}
    (found : db.meets cf entry = some met) : met.1 = entry.1 := by
  obtain ⟨answer, _, rfl⟩ := Option.map_eq_some_iff.mp found
  rfl

/-- An iterator over a whole family meets what reads of its keys answer. -/
theorem DbHandle.mem_meets (data : ByteDb) (key : Bytes)
    (answer : Except RocksError Bytes) :
    (key, answer) ∈ (data cf).toList.filterMap (db.meets cf) ↔
      metBy (db.read data ⟨cf, key⟩) = some answer := by
  rw [List.mem_filterMap, DbHandle.read, Db.record,
    Std.TreeMap.getD_eq_getD_getElem?]
  constructor
  · intro walked
    obtain ⟨⟨stored, record⟩, member, found⟩ := walked
    have same : key = stored := meets_key found
    subst same
    rw [Std.TreeMap.mem_toList_iff_getElem?_eq_some.mp member]
    obtain ⟨_, answered, equal⟩ := Option.map_eq_some_iff.mp found
    cases equal
    exact answered
  · intro answered
    cases stored : (data cf)[key]? with
    | none =>
        rw [stored] at answered
        cases answered
    | some record =>
        rw [stored] at answered
        refine ⟨(key, record),
          Std.TreeMap.mem_toList_iff_getElem?_eq_some.mpr stored, ?_⟩
        exact Option.map_eq_some_iff.mpr ⟨answer, answered, rfl⟩

/-- What an iterator meets comes in ascending key order. -/
theorem DbHandle.meets_ascending (data : ByteDb) :
    Ascending ((data cf).toList.filterMap (db.meets cf)) := by
  refine List.Pairwise.filterMap _ ?_ Std.TreeMap.ordered_keys_toList
  intro entry other before shown found otherShown otherFound
  rw [meets_key found, meets_key otherFound]
  exact before

/-- Contents that answer every read in the same way let an iterator meet the
same. -/
theorem DbHandle.meets_of_sameReads {first second : ByteDb}
    (same : SameReads db cf first second) :
    (first cf).toList.filterMap (db.meets cf) =
      (second cf).toList.filterMap (db.meets cf) := by
  apply (db.meets_ascending first).eq_of_mem_iff (db.meets_ascending second)
  intro key answer
  rw [mem_meets, mem_meets, same key]

/-- Selecting records by key, and then what they let an iterator meet. -/
theorem DbHandle.filterMap_meets_filter (select : Bytes → Bool)
    (records : List (Bytes × Record)) :
    (records.filter fun entry => select entry.1).filterMap (db.meets cf) =
      (records.filterMap (db.meets cf)).filter fun met => select met.1 := by
  rw [List.filterMap_filter, List.filter_filterMap]
  apply List.filterMap_congr
  intro entry _
  cases found : db.meets cf entry with
  | none => simp
  | some met => simp [Option.filter, meets_key found]

/-- An iterator shows what it meets on the keys that its mode reaches, in the
order of its mode. -/
theorem DbHandle.iterator_eq_meets (db : DbHandle) (data : ByteDb) (cf : String)
    (mode : IteratorMode) :
    db.iterator data cf mode =
      showUpToError (mode.ordered
        (((data cf).toList.filterMap (db.meets cf)).filter fun met =>
          mode.reaches compare met.1)) := by
  rw [iterator, streamOf_eq_showUpToError,
    seek_eq Std.TreeMap.ordered_keys_toList mode,
    IteratorMode.filterMap_ordered,
    filterMap_meets_filter (mode.reaches compare)]

/-- Contents that answer every read in the same way show the same to every
iterator. -/
theorem DbHandle.iterator_of_sameReads {first second : ByteDb}
    (same : SameReads db cf first second) (mode : IteratorMode) :
    db.iterator first cf mode = db.iterator second cf mode := by
  rw [iterator_eq_meets, iterator_eq_meets, meets_of_sameReads same]

end Reads

end RockSolid
