/-
Module: RockSolid.Proofs.BatchWriter
Layer: Proofs
Purpose: A batch writer is atomic and confined to its column family.  A run
  accumulates exactly what the calls that returned `Ok` asked for, and only a
  commit that the engine accepts changes the contents.
Trusted boundary: none
Main exports: BatchWriter.stagingCall_eq, BatchWriter.collects,
  OpenFor.after_ending, BatchWriter.batch_atomic
-/
import RockSolid.Proofs.StoreReads
import RockSolid.Semantics.BatchRuns

namespace RockSolid

open Foundation

/-- The operation of a staging call lies in the family it is asked for. -/
theorem BatchCall.family_of_operation {call : BatchCall} {cf : String}
    {op : BatchOp} (named : call.operation cf = .ok op) : op.family = cf := by
  cases call with
  | deleteRange keys startKey endKey =>
      cases named
      rfl
  | write call =>
      obtain ⟨written, recorded, rfl⟩ := map_eq_ok_iff.mp named
      exact WriteCall.target_of_record recorded

namespace BatchWriter

variable {self : BatchWriter}

theorem afterCheck (isOpen : self.committedOrDiscarded = false)
    (rest : Unit → WriterMethod Unit) :
    (checkNotCommitted >>= rest) self = rest () self := by
  rw [Method.bind_apply, checkNotCommitted_of_open isOpen]

/-- The family a call finds is the one the writer was made for. -/
theorem addInFamily (build : String → BatchOp) :
    (do let cf ← family; add (build cf) : WriterMethod Unit) self =
      (do let _ ← family; add (build self.cfName) : WriterMethod Unit) self := by
  rw [Method.bind_apply, Method.bind_apply, family]
  cases found : self.store.access.family self.cfName with
  | error e => rfl
  | ok cf =>
      have same : cf = self.cfName :=
        CfAccess.family_ok (fun _ => RocksDbCFStore.getCfHandle_ok) found
      rw [same]

/-- A staging call on an open writer: the value is encoded, the family is looked
up, the operation is added. -/
theorem stagingCall_eq (isOpen : self.committedOrDiscarded = false)
    (call : BatchCall) :
    stagingCall call self =
      (do
        let op ← call.operation self.cfName
        let _ ← family
        add op : WriterMethod Unit) self := by
  cases call with
  | deleteRange keys startKey endKey =>
      exact (afterCheck isOpen _).trans (addInFamily _)
  | write call =>
      cases call with
      | put keys codec key val =>
          simp only [BatchCall.operation, WriteCall.record,
            Method.liftM_map_bind]
          exact (afterCheck isOpen _).trans
            (Method.liftM_bind_congr fun _ => addInFamily _)
      | putWithExpiry keys codec key val expireTime =>
          simp only [BatchCall.operation, WriteCall.record,
            Method.liftM_map_bind]
          rw [stagingCall, writeCall, setWithExpiry,
            ValueWithExpiry.fromValue_eq]
          simp only [Method.liftM_map_bind]
          exact (afterCheck isOpen _).trans
            (Method.liftM_bind_congr fun _ => addInFamily _)
      | merge keys codec key mergeValue =>
          simp only [BatchCall.operation, WriteCall.record,
            Method.liftM_map_bind]
          exact (afterCheck isOpen _).trans
            (Method.liftM_bind_congr fun _ => addInFamily _)
      | _ => exact (afterCheck isOpen _).trans (addInFamily _)

/-- The writer is open and made for the family. -/
structure OpenFor (cf : String) (writer : BatchWriter) : Prop where
  cfName : writer.cfName = cf
  isOpen : writer.committedOrDiscarded = false

variable {cf : String}

theorem OpenFor.fresh (store : RocksDbCFStore) (cf : String) :
    OpenFor cf (store.batchWriter cf) :=
  ⟨rfl, rfl⟩

/-- A staging call adds the operation it names and returns `Ok`, or returns an
error and leaves the writer as it was. -/
theorem OpenFor.staging (openFor : OpenFor cf self) (call : BatchCall) :
    (∃ op, call.operation cf = .ok op ∧ stagingCall call self =
        (.ok (), { self with batch := self.batch ++ [op] })) ∨
      ∃ e, stagingCall call self = (.error e, self) := by
  rw [stagingCall_eq openFor.isOpen, openFor.cfName]
  cases named : call.operation cf with
  | error e => exact .inr ⟨e, rfl⟩
  | ok op =>
      cases found : self.store.access.family self.cfName with
      | error e => exact .inr ⟨e, by simp [family, Method.bind_apply, found]⟩
      | ok handle =>
          have added : (do
              let op ← liftM (Except.ok op : StoreResult BatchOp)
              let _ ← family
              add op : WriterMethod Unit) self =
                (.ok (), { self with batch := self.batch ++ [op] }) := by
            simp [family, add, Method.bind_apply, found]
          exact .inl ⟨op, rfl, added.trans (by rw [openFor.cfName])⟩

/-- So an open writer collects what its calls ask for. -/
theorem collects (cf : String) :
    Collects stagingCall (BatchCall.operation cf) (OpenFor cf) batch := by
  intro self call openFor
  rcases openFor.staging call with ⟨op, named, added⟩ | ⟨e, refused⟩
  · rw [added]
    exact ⟨⟨openFor.cfName, openFor.isOpen⟩, .inl ⟨op, named, rfl, rfl⟩⟩
  · rw [refused]
    exact ⟨openFor, .inr ⟨e, rfl, rfl⟩⟩

variable {cmps : String → Comparator}

/-- What the three endings do to the contents. -/
theorem OpenFor.after_ending (openFor : OpenFor cf self) (data : Db cmps)
    (ending : BatchEnding) :
    let finished := self.finish data ending
    (CommittedOk finished.1 ↔ ending = .commit none) ∧
      (CommittedOk finished.1 → finished.2.2 = data.applyBatch self.batch) ∧
      (¬ CommittedOk finished.1 → finished.2.2 = data) := by
  have checked := checkNotCommitted_of_open openFor.isOpen
  cases ending with
  | commit fault =>
      cases fault <;> simp [finish, commit, checked, Db.write, CommittedOk]
  | discard => simp [finish, CommittedOk]
  | drop => simp [finish, CommittedOk]

/-- A batch writer is atomic and confined to its column family, open or not.
Whatever calls were made and whichever failed, the contents change exactly when a
commit returns `Ok`, and then by the operations of the calls that returned `Ok`,
in call order, all of them in the family; a call that returned an error left the
writer as it was. -/
theorem batch_atomic (store : RocksDbCFStore) (cf : String)
    (calls : List BatchCall) (data : Db cmps) (ending : BatchEnding) :
    let writer := store.batchWriter cf
    let accepted := acceptedOps cf writer calls
    let finished := (writer.run calls).finish data ending
    (CommittedOk finished.1 ↔ ending = .commit none) ∧
      (CommittedOk finished.1 → finished.2.2 = data.applyBatch accepted) ∧
      (¬ CommittedOk finished.1 → finished.2.2 = data) ∧
      (∀ op ∈ accepted, op.family = cf) ∧
      (∀ other, other ≠ cf → finished.2.2 other = data other) ∧
      ∀ before call after, calls = before ++ call :: after →
        ∀ e, (stagingCall call (writer.run before)).1 = .error e →
          (stagingCall call (writer.run before)).2 = writer.run before := by
  intro writer accepted finished
  obtain ⟨openFor, accumulated⟩ :=
    (collects cf).run (OpenFor.fresh store cf) calls
  obtain ⟨decided, committed, kept⟩ := openFor.after_ending data ending
  have confined : ∀ op ∈ accepted, op.family = cf := by
    intro op member
    obtain ⟨call, -, named⟩ := asked_of_mem_accepted member
    exact BatchCall.family_of_operation named
  have applied : CommittedOk finished.1 →
      finished.2.2 = data.applyBatch accepted :=
    fun ok => (committed ok).trans (congrArg data.applyBatch accumulated)
  refine ⟨decided, applied, kept, confined, ?_, ?_⟩
  · intro other different
    by_cases ok : CommittedOk finished.1
    · rw [applied ok]
      apply Db.applyBatch_other
      intro op member
      rw [confined op member]
      exact different
    · exact congrFun (kept ok) other
  · intro before call after _ e refused
    have earlier := ((collects cf).run (OpenFor.fresh store cf) before).1
    rcases earlier.staging call with ⟨op, _, added⟩ | ⟨e', failed⟩
    · cases refused.symm.trans (congrArg Prod.fst added)
    · exact congrArg Prod.snd failed

end BatchWriter

end RockSolid
