/-
Module: RockSolid.Proofs.WritePaths
Layer: Proofs
Purpose: Every path hands the engine the same record for the same write
  operation.  Each method encodes the value, finds the family and writes; the
  methods differ in the order of the first two and in what they write through.
Trusted boundary: none
Main exports: handOver, handOver_encoded, Store.writeCall_eq,
  RocksDbCFTxnStore.writeInTxn_eq, WritePath.request_hands
-/
import RockSolid.Proofs.BatchWriter
import RockSolid.Semantics.WritePaths

namespace RockSolid

open Foundation

variable {cmps : String → Comparator}

section HandingOver

variable {σ A : Type} {access : CfAccess} {cfName : String}

/-- Writes a record through the given call, once the family is known. -/
def handOver (access : CfAccess) (cfName : String)
    (write : WriteOp → Method StoreError σ Unit)
    (record : StoreResult WriteOp) : Method StoreError σ Unit := do
  let op ← record
  let _ ← access.family cfName
  write op

/-- A look-up finds the family it was given the name of. -/
def CfAccess.Faithful (access : CfAccess) (cfName : String) : Prop :=
  ∀ cf, access.family cfName = .ok cf → cf = cfName

variable (write : WriteOp → Method StoreError σ Unit)

theorem handOver_known (faithful : access.Faithful cfName)
    (build : String → WriteOp) :
    (do let cf ← access.family cfName; write (build cf)) =
      handOver access cfName write (.ok (build cfName)) := by
  cases found : access.family cfName with
  | error e =>
      rw [handOver, found]
      rfl
  | ok cf =>
      rw [handOver, found, faithful cf found]
      rfl

/-- Encoding, finding the family and writing hands over the encoded record. -/
theorem handOver_encoded (faithful : access.Faithful cfName)
    (encoded : StoreResult A) (build : String → A → WriteOp) :
    (do let a ← encoded; let cf ← access.family cfName; write (build cf a)) =
      handOver access cfName write (encoded.map (build cfName)) := by
  cases encoded with
  | error e => rfl
  | ok a => exact handOver_known write faithful fun cf => build cf a

/-- In an open family nothing but the encoding can fail before the write. -/
theorem handOver_of_open {cf : String} (found : access.family cfName = .ok cf)
    (record : StoreResult WriteOp) :
    handOver access cfName write record = (liftM record >>= write) := by
  rw [handOver, found]
  rfl

end HandingOver

section Stores

/-- A write operation through the shared method bodies. -/
def CFOperations.writeCall (access : CfAccess) (cfName : String)
    (fault : Option Fault) : WriteCall → Method StoreError (Db cmps) Unit
  | .put _ _ key val => CFOperations.put access cfName key val fault
  | .putRaw _ key rawVal => CFOperations.putRaw access cfName key rawVal fault
  | .putWithExpiry _ _ key val expireTime =>
      CFOperations.putWithExpiry access cfName key val expireTime fault
  | .merge _ _ key mergeValue =>
      CFOperations.merge access cfName key mergeValue fault
  | .mergeRaw _ key rawMergeOp =>
      CFOperations.mergeRaw access cfName key rawMergeOp fault
  | .delete _ key => CFOperations.delete access cfName key fault

/-- The shared method bodies hand over the record of the operation. -/
theorem CFOperations.writeCall_eq {access : CfAccess} {cfName : String}
    (faithful : access.Faithful cfName) (fault : Option Fault)
    (call : WriteCall) :
    (CFOperations.writeCall access cfName fault call :
        Method StoreError (Db cmps) Unit) =
      handOver access cfName (CFOperations.write · fault)
        (call.record cfName) := by
  cases call with
  | put keys codec key val =>
      exact handOver_encoded (CFOperations.write · fault) faithful (serializeValue val) fun cf bytes =>
        .put ⟨cf, AsBytes.asBytes key⟩ bytes
  | putRaw keys key rawVal =>
      exact handOver_known (CFOperations.write · fault) faithful fun cf =>
        .put ⟨cf, AsBytes.asBytes key⟩ rawVal
  | putWithExpiry keys codec key val expireTime =>
      rw [writeCall, putWithExpiry, ValueWithExpiry.fromValue_eq,
        Method.liftM_map_bind]
      exact handOver_encoded (CFOperations.write · fault) faithful (serializeValue val) fun cf bytes =>
        .put ⟨cf, AsBytes.asBytes key⟩ (toBeBytes expireTime ++ bytes)
  | merge keys codec key mergeValue =>
      exact handOver_encoded (CFOperations.write · fault) faithful (serializeValue mergeValue)
        fun cf bytes => .merge ⟨cf, AsBytes.asBytes key⟩ bytes
  | mergeRaw keys key rawMergeOp =>
      exact handOver_known (CFOperations.write · fault) faithful fun cf =>
        .merge ⟨cf, AsBytes.asBytes key⟩ rawMergeOp
  | delete keys key =>
      exact handOver_known (CFOperations.write · fault) faithful fun cf =>
        .delete ⟨cf, AsBytes.asBytes key⟩

/-- The bodies of the default-family pessimistic store hand over the same. -/
theorem RocksDbTxnStore.writeCall_eq (store : RocksDbTxnStore) (cfName : String)
    (fault : Option Fault) (call : WriteCall) :
    ((Store.defaultTxnStore store).writeCall cfName fault call :
        Method StoreError (Db cmps) Unit) =
      handOver store.cfStore.access defaultColumnFamilyName
        (CFOperations.write · fault) (call.record defaultColumnFamilyName) := by
  rw [handOver_of_open _ (CfAccess.family_default _)]
  cases call with
  | put keys codec key val =>
      rw [WriteCall.record, Method.liftM_map_bind]
      rfl
  | putWithExpiry keys codec key val expireTime =>
      rw [Store.writeCall, Store.putWithExpiry, putWithExpiry,
        ValueWithExpiry.fromValue_eq, Method.liftM_map_bind, WriteCall.record,
        Method.liftM_map_bind]
      rfl
  | merge keys codec key mergeValue =>
      rw [WriteCall.record, Method.liftM_map_bind]
      rfl
  | _ => rfl

theorem Store.faithful (store : Store) (cfName : String) :
    store.access.Faithful cfName :=
  fun _ found => store.family_ok found

/-- Every store hands over the record of the operation on the family it is asked
about. -/
theorem Store.writeCall_eq (store : Store) (cfName : String)
    (fault : Option Fault) (call : WriteCall) :
    (store.writeCall cfName fault call : Method StoreError (Db cmps) Unit) =
      handOver store.access (store.asked cfName) (CFOperations.write · fault)
        (call.record (store.asked cfName)) := by
  have shared : (_ : Method StoreError (Db cmps) Unit) = _ :=
    CFOperations.writeCall_eq (store.faithful (store.asked cfName)) fault call
  cases store with
  | defaultTxnStore store => exact store.writeCall_eq cfName fault call
  | _ => cases call <;> exact shared

/-- The methods on a borrowed transaction hand over the record as well. -/
theorem RocksDbCFTxnStore.writeInTxn_eq (store : RocksDbCFTxnStore)
    (cfName : String) (fault : Option Fault) (call : WriteCall) :
    store.writeInTxn cfName fault call =
      handOver store.access cfName
        (fun op => native (NativeTxn.stage op fault)) (call.record cfName) := by
  have faithful : store.access.Faithful cfName :=
    fun _ found => (Store.cfTxnStore store).family_ok found
  have encoded {A : Type} := handOver_encoded (A := A)
    (fun op => native (NativeTxn.stage op fault)) faithful
  have known := handOver_known
    (fun op => native (NativeTxn.stage op fault)) faithful
  cases call with
  | put keys codec key val =>
      exact encoded (serializeValue val) fun cf bytes =>
        .put ⟨cf, AsBytes.asBytes key⟩ bytes
  | putRaw keys key rawVal =>
      exact known fun cf => .put ⟨cf, AsBytes.asBytes key⟩ rawVal
  | putWithExpiry keys codec key val expireTime =>
      rw [writeInTxn, putWithExpiryInTxn, ValueWithExpiry.fromValue_eq,
        Method.liftM_map_bind]
      exact encoded (serializeValue val) fun cf bytes =>
        .put ⟨cf, AsBytes.asBytes key⟩ (toBeBytes expireTime ++ bytes)
  | merge keys codec key mergeValue =>
      exact encoded (serializeValue mergeValue) fun cf bytes =>
        .merge ⟨cf, AsBytes.asBytes key⟩ bytes
  | mergeRaw keys key rawMergeOp =>
      exact known fun cf => .merge ⟨cf, AsBytes.asBytes key⟩ rawMergeOp
  | delete keys key =>
      exact known fun cf => .delete ⟨cf, AsBytes.asBytes key⟩

end Stores

section Contexts

namespace TransactionContext

variable {self : TransactionContext}

theorem afterRunning {A : Type} (running : self.completed = false)
    (rest : Unit → CtxMethod A) :
    (checkCompleted >>= rest) self = rest () self := by
  rw [Method.bind_apply, checkCompleted_of_running running]

/-- A record handed over by the borrowed transaction is handed over by the
context. -/
theorem onTxn_hands {m : RocksDbCFTxnStore → TxnMethod Unit}
    {record : StoreResult WriteOp} {fault : Option Fault}
    (hands : m self.store =
      (liftM record >>= fun op => native (NativeTxn.stage op fault))) :
    onTxn m self =
      (liftM record >>= fun op =>
        onTxn fun _ => native (NativeTxn.stage op fault) : CtxMethod Unit)
        self := by
  rw [onTxn, hands]
  cases record <;> rfl

/-- The `_cf` methods go through the store's methods on the transaction. -/
theorem stagingCall_onCf (running : self.completed = false) {cf : String}
    (found : self.store.access.family cf = .ok cf) (fault : Option Fault)
    (call : WriteCall) :
    stagingCall fault (call.onCf cf) self =
      (liftM (call.record cf) >>= fun op =>
        onTxn fun _ => native (NativeTxn.stage op fault) : CtxMethod Unit)
        self := by
  have borrowed : stagingCall fault (call.onCf cf) self =
      onTxn (fun store => store.writeInTxn cf fault call) self := by
    cases call <;> exact afterRunning running _
  rw [borrowed]
  apply onTxn_hands
  rw [RocksDbCFTxnStore.writeInTxn_eq, handOver_of_open _ found]

/-- The default-family methods write through the transaction themselves, but for
`set`. -/
theorem stagingCall_onDefault (running : self.completed = false)
    (fault : Option Fault) (call : WriteCall) :
    stagingCall fault call.onDefault self =
      (liftM (call.record defaultColumnFamilyName) >>= fun op =>
        onTxn fun _ => native (NativeTxn.stage op fault) : CtxMethod Unit)
        self := by
  cases call with
  | put keys codec key val =>
      exact stagingCall_onCf running (CfAccess.family_default _) fault
        (.put keys codec key val)
  | putWithExpiry keys codec key val expireTime =>
      rw [WriteCall.onDefault, stagingCall, setWithExpiry, WriteCall.record,
        ValueWithExpiry.fromValue_eq, Method.liftM_map_bind]
      simp only [Method.liftM_map_bind]
      exact afterRunning running _
  | merge keys codec key mergeValue =>
      rw [WriteCall.record, Method.liftM_map_bind]
      exact afterRunning running _
  | _ => exact afterRunning running _

end TransactionContext

namespace OptimisticTransactionContext

variable {self : OptimisticTransactionContext}

theorem afterRunning {A : Type} (running : self.completed = false)
    (rest : Unit → CtxMethod A) :
    (checkCompleted >>= rest) self = rest () self := by
  rw [Method.bind_apply, checkCompleted_of_running running]

theorem afterFound {A : Type} {cf : String}
    (found : self.store.getCfHandle cf = .ok cf)
    (rest : String → CtxMethod A) :
    (getCfHandle cf >>= rest) self = rest cf self := by
  rw [Method.bind_apply, getCfHandle, found]

theorem stagingCall_onDefault (running : self.completed = false)
    (fault : Option Fault) (call : WriteCall) :
    stagingCall fault call.onDefault self =
      (liftM (call.record defaultColumnFamilyName) >>= (stage · fault)) self := by
  cases call with
  | put keys codec key val =>
      rw [WriteCall.record, Method.liftM_map_bind]
      exact afterRunning running _
  | putWithExpiry keys codec key val expireTime =>
      rw [WriteCall.onDefault, stagingCall, setWithExpiry, WriteCall.record,
        ValueWithExpiry.fromValue_eq, Method.liftM_map_bind]
      simp only [Method.liftM_map_bind]
      exact afterRunning running _
  | merge keys codec key mergeValue =>
      rw [WriteCall.record, Method.liftM_map_bind]
      exact afterRunning running _
  | _ => exact afterRunning running _

/-- The `_cf` methods look the family up first. -/
theorem stagingCall_onCf (running : self.completed = false) {cf : String}
    (found : self.store.getCfHandle cf = .ok cf) (fault : Option Fault)
    (call : WriteCall) :
    stagingCall fault (call.onCf cf) self =
      (liftM (call.record cf) >>= (stage · fault)) self := by
  cases call with
  | put keys codec key val =>
      rw [WriteCall.record, Method.liftM_map_bind]
      exact (afterRunning running _).trans (afterFound found _)
  | putWithExpiry keys codec key val expireTime =>
      rw [WriteCall.onCf, stagingCall, putCfWithExpiry, WriteCall.record,
        ValueWithExpiry.fromValue_eq, Method.liftM_map_bind]
      simp only [Method.liftM_map_bind]
      apply (afterRunning running _).trans
      exact Method.liftM_bind_congr fun _ =>
        (afterRunning running _).trans (afterFound found _)
  | merge keys codec key mergeValue =>
      rw [WriteCall.record, Method.liftM_map_bind]
      exact (afterRunning running _).trans (afterFound found _)
  | _ => exact (afterRunning running _).trans (afterFound found _)

end OptimisticTransactionContext

end Contexts

/-- A batch writer of an open family adds the record to its batch. -/
theorem BatchWriter.writeCall_hands {writer : BatchWriter} {cf : String}
    (named : writer.cfName = cf)
    (found : writer.store.access.family cf = .ok cf)
    (isOpen : writer.committedOrDiscarded = false) (call : WriteCall) :
    BatchWriter.writeCall call writer =
      (liftM (call.record cf) >>= fun op =>
        BatchWriter.add (.write op) : BatchWriter.WriterMethod Unit) writer := by
  subst named
  have staged := BatchWriter.stagingCall_eq isOpen (.write call)
  rw [BatchCall.operation, Method.liftM_map_bind] at staged
  apply staged.trans
  apply Method.liftM_bind_congr
  intro op
  rw [Method.bind_apply, BatchWriter.family, found]

/-- The free functions on a transaction hand over the record for the default
family. -/
theorem Tx.writeInTxn_hands {fault : Option Fault} {call : WriteCall}
    {m : TxnMethod Unit} (offered : Tx.writeInTxn fault call = some m) :
    m = (liftM (call.record defaultColumnFamilyName) >>= fun op =>
      native (NativeTxn.stage op fault)) := by
  cases call with
  | merge keys codec key mergeValue =>
      cases offered
      rw [WriteCall.record, Method.liftM_map_bind]
      rfl
  | delete keys key =>
      cases offered
      rfl
  | _ => cases offered

/-- Through whatever path a write operation goes, on a family the path accepts it
hands the engine the one record of the operation, or returns the encoder's error
and changes nothing. -/
theorem WritePath.request_hands (path : WritePath) {cf : String}
    {fault : Option Fault} {call : WriteCall}
    {m : Method StoreError (path.Receiver cmps) Unit}
    (offered : path.request cf fault call = some m)
    {receiver : path.Receiver cmps} (accepts : path.Accepts cf receiver) :
    m receiver =
      (liftM (call.record cf) >>= (path.hand fault ·)) receiver := by
  cases path with
  | store kind =>
      cases offered
      obtain ⟨asked, opens⟩ := accepts
      have found : kind.access.family (kind.asked cf) = .ok (kind.asked cf) :=
        opens
      have written : (kind.writeCall cf fault call :
          Method StoreError (Db cmps) Unit) =
            (liftM (call.record cf) >>= (CFOperations.write · fault)) := by
        rw [kind.writeCall_eq, handOver_of_open _ found, asked]
      exact congrFun written receiver
  | batchWriter =>
      cases offered
      obtain ⟨named, found, isOpen⟩ := accepts
      exact BatchWriter.writeCall_hands named found isOpen call
  | inTxn owner =>
      cases offered
      have written := owner.writeInTxn_eq cf fault call
      rw [handOver_of_open _ accepts] at written
      exact congrFun written receiver
  | txModule =>
      cases accepts
      exact congrFun (Tx.writeInTxn_hands offered) receiver
  | context =>
      cases offered
      obtain ⟨rfl, running⟩ := accepts
      exact TransactionContext.stagingCall_onDefault running fault call
  | contextCf =>
      cases offered
      exact TransactionContext.stagingCall_onCf accepts.2 accepts.1 fault call
  | optimisticContext =>
      cases offered
      obtain ⟨rfl, running⟩ := accepts
      exact OptimisticTransactionContext.stagingCall_onDefault running fault call
  | optimisticContextCf =>
      cases offered
      exact OptimisticTransactionContext.stagingCall_onCf accepts.2 accepts.1
        fault call

end RockSolid
