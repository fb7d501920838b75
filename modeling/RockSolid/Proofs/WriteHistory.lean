/-
Module: RockSolid.Proofs.WriteHistory
Layer: Proofs
Purpose: After any sequence of sessions the contents are those of the committed
  records applied in order, and every read path finds the value of the last write
  to the key, in the stores and inside a transaction.
Trusted boundary: none
Main exports: WriteSession.perform_eq, performAll_eq, Db.record_of_lastWrite,
  ReadPath.finds, everyPath_sameRecord
-/
import RockSolid.Proofs.ExpiryFormat
import RockSolid.Proofs.OptimisticCalls
import RockSolid.Proofs.PessimisticCalls
import RockSolid.Proofs.WritePaths
import RockSolid.Semantics.WriteHistory

namespace RockSolid

open Foundation

variable {cmps : String → Comparator}

section Sessions

/-- A call on a store applies the record it asks for, or returns an error and
changes nothing. -/
theorem Store.writeCall_cases (store : Store) (cfName : String)
    (fault : Option Fault) (call : WriteCall) (data : Db cmps) :
    (∃ op, call.record (store.asked cfName) = .ok op ∧
        store.writeCall cfName fault call data = (.ok (), data.apply op)) ∨
      ∃ e, store.writeCall cfName fault call data = (.error e, data) := by
  rw [store.writeCall_eq, handOver]
  cases recorded : call.record (store.asked cfName) with
  | error e => exact .inr ⟨e, rfl⟩
  | ok op =>
      cases found : store.access.family (store.asked cfName) with
      | error e => exact .inr ⟨e, rfl⟩
      | ok cf =>
          cases fault with
          | none => exact .inl ⟨op, rfl, rfl⟩
          | some fault => exact .inr ⟨_, rfl⟩

/-- A method on a borrowed transaction stages the record and returns `Ok`, or
returns an error and stages nothing. -/
def Stages (record : StoreResult WriteOp) (m : TxnMethod Unit) : Prop :=
  ∀ txn : NativeTxn,
    (∃ op, record = .ok op ∧ (m txn).1 = .ok () ∧
        (m txn).2.staged = txn.staged ++ [op]) ∨
      ∃ e, (m txn).1 = .error e ∧ (m txn).2.staged = txn.staged

theorem stages_native (op : WriteOp) (fault : Option Fault) :
    Stages (.ok op) (native (NativeTxn.stage op fault)) := by
  intro txn
  cases fault with
  | none => exact .inl ⟨op, rfl, rfl, rfl⟩
  | some fault => exact .inr ⟨_, rfl, rfl⟩

theorem stages_record (record : StoreResult WriteOp) (fault : Option Fault) :
    Stages record
      (liftM record >>= fun op => native (NativeTxn.stage op fault)) := by
  cases record with
  | error e => exact fun txn => .inr ⟨e, rfl, rfl⟩
  | ok op => exact stages_native op fault

theorem stages_handOver (access : CfAccess) (cfName : String)
    (record : StoreResult WriteOp) (fault : Option Fault) :
    Stages record (handOver access cfName
      (fun op => native (NativeTxn.stage op fault)) record) := by
  rw [handOver]
  cases access.family cfName with
  | ok cf => exact stages_record record fault
  | error e =>
      cases record with
      | error e => exact fun txn => .inr ⟨e, rfl, rfl⟩
      | ok op => exact fun txn => .inr ⟨e, rfl, rfl⟩

/-- A borrowed transaction collects what its calls ask for. -/
theorem TxnCall.collects :
    Collects TxnCall.perform TxnCall.record (fun _ => True)
      NativeTxn.staged := by
  intro txn call _
  constructor
  · trivial
  cases call with
  | inTxn owner cfName fault call =>
      rw [perform, owner.writeInTxn_eq]
      exact stages_handOver owner.access cfName (call.record cfName) fault txn
  | merge keys codec fault key mergeValue =>
      have offered : Tx.writeInTxn fault (.merge keys codec key mergeValue) =
        some (Tx.mergeInTxn key fault mergeValue) := rfl
      rw [perform, Tx.writeInTxn_hands offered]
      exact stages_record _ fault txn
  | remove keys fault key =>
      have offered : Tx.writeInTxn fault (.delete keys key) =
        some (Tx.removeInTxn key fault) := rfl
      rw [perform, Tx.writeInTxn_hands offered]
      exact stages_record _ fault txn

/-- The write a context is asked for is the record of the operation. -/
theorem ContextWrite.operation_staging (write : ContextWrite) :
    write.staging.operation = write.record.toOption := by
  obtain ⟨cfName, fault, call⟩ := write
  have encoded {V : Type} [Serialize V] (val : V) (build : Bytes → WriteOp) :
      (Serialize.serialize val).toOption.map build =
        ((serializeValue val).map build).toOption := by
    rw [serializeValue]
    cases (Serialize.serialize val : Except String Bytes) <;> rfl
  cases cfName <;> cases call <;> first | rfl | exact encoded _ _

/-- What a write on a context does is what one native write does. -/
theorem collects_of_writesOnly {σ : Type} {m : ContextWrite → Method StoreError σ Unit}
    {write : ContextWrite → WriteOp → Method StoreError σ Unit}
    {invariant : σ → Prop} {collected : σ → List WriteOp}
    (writes : ∀ w, WritesOnly (write w) w.staging.operation (m w))
    (native : ∀ w op self, invariant self → invariant (write w op self).2 ∧
      ((write w op self).1 = .ok () ∧
          collected (write w op self).2 = collected self ++ [op] ∨
        ∃ e, (write w op self).1 = .error e ∧
          collected (write w op self).2 = collected self)) :
    Collects m ContextWrite.record invariant collected := by
  intro self w holds
  rcases writes w self with ⟨e, failed⟩ | ⟨op, named, same⟩
  · rw [failed]
    exact ⟨holds, .inr ⟨e, rfl, rfl⟩⟩
  · rw [ContextWrite.operation_staging] at named
    have recorded : w.record = .ok op := by
      cases result : w.record with
      | error e =>
          rw [result] at named
          cases named
      | ok found =>
          rw [result] at named
          cases named
          rfl
    obtain ⟨kept, accepted | refused⟩ := native w op self holds
    · rw [same]
      exact ⟨kept, .inl ⟨op, recorded, accepted⟩⟩
    · rw [same]
      exact ⟨kept, .inr refused⟩

/-- One native write stages its record, or is refused and stages nothing. -/
theorem native_stage_cases (op : WriteOp) (fault : Option Fault)
    (txn : NativeTxn) :
    (native (NativeTxn.stage op fault) txn).1 = .ok () ∧
        (native (NativeTxn.stage op fault) txn).2.staged = txn.staged ++ [op] ∨
      ∃ e, (native (NativeTxn.stage op fault) txn).1 = .error e ∧
        (native (NativeTxn.stage op fault) txn).2.staged = txn.staged := by
  rcases stages_native op fault txn with ⟨_, ⟨⟩, accepted⟩ | refused
  · exact .inl accepted
  · exact .inr refused

/-- A running pessimistic context collects what its calls ask for. -/
theorem ContextWrite.collects_context :
    Collects ContextWrite.onContext ContextWrite.record
      (fun self => self.completed = false) (fun self => self.txn.staged) := by
  apply collects_of_writesOnly
    (fun w => TransactionContext.staging_writes w.staging w.fault)
  intro w op self running
  exact ⟨running, native_stage_cases op w.fault self.txn⟩

/-- So does an optimistic one. -/
theorem ContextWrite.collects_optimistic :
    Collects ContextWrite.onOptimistic ContextWrite.record
      (fun self => self.completed = false) (fun self => self.txn.staged) := by
  apply collects_of_writesOnly
    (fun w => OptimisticTransactionContext.staging_writes w.staging w.fault)
  intro w op self running
  exact ⟨running, native_stage_cases op w.fault self.txn⟩

namespace WriteSession

/-- A session ends with the records it asked for applied, or with an error and
nothing changed. -/
def Ends (data : Db cmps) (session : WriteSession) : Prop :=
  session.perform data = (.ok (), data.applyAll (session.asked data)) ∨
    ∃ e, session.perform data = (.error e, data)

theorem single_ends (store : Store) (cfName : String) (fault : Option Fault)
    (call : WriteCall) (data : Db cmps) :
    (single store cfName fault call).Ends data := by
  rcases store.writeCall_cases cfName fault call data with
    ⟨op, recorded, written⟩ | ⟨e, refused⟩
  · left
    rw [asked, perform]
    simp only [written, acceptedBy, recorded]
    rfl
  · exact .inr ⟨e, refused⟩

theorem batch_ends (store : RocksDbCFStore) (cfName : String)
    (calls : List WriteCall) (fault : Option Fault) (data : Db cmps) :
    (batch store cfName calls fault).Ends data := by
  have collects : Collects BatchWriter.writeCall
      (fun call => (WriteCall.record cfName call).map BatchOp.write)
      (BatchWriter.OpenFor cfName) BatchWriter.batch :=
    fun self call holds => BatchWriter.collects cfName self (.write call) holds
  obtain ⟨openFor, collected⟩ :=
    collects.run (BatchWriter.OpenFor.fresh store cfName) calls
  have checked := BatchWriter.checkNotCommitted_of_open openFor.isOpen
  rw [accepted_map] at collected
  rw [Ends, asked, perform]
  cases fault with
  | some fault =>
      right
      simp only [BatchWriter.commit, checked, Db.write]
      exact ⟨_, rfl⟩
  | none =>
      left
      simp only [BatchWriter.commit, checked, Db.write, collected]
      exact congrArg (Prod.mk _) (data.applyBatch_writes _)

theorem transaction_ends (calls : List TxnCall) (fault : Option Fault)
    (data : Db cmps) : (transaction calls fault).Ends data := by
  obtain ⟨-, collected⟩ : True ∧ (runCalls TxnCall.perform
      RocksDbCFTxnStore.beginTransaction calls).staged = _ :=
    TxnCall.collects.run trivial calls
  cases fault with
  | some fault => exact .inr ⟨_, rfl⟩
  | none => exact .inl (congrArg (Prod.mk _) (congrArg data.applyAll collected))

theorem context_ends (store : RocksDbCFTxnStore) (calls : List ContextWrite)
    (fault : Option Fault) (data : Db cmps) :
    (context store calls fault).Ends data := by
  have running : (TransactionContext.new store).completed = false := rfl
  obtain ⟨open_, collected⟩ := ContextWrite.collects_context.run running calls
  have checked := TransactionContext.checkCompleted_of_running open_
  rw [Ends, asked, perform]
  cases fault with
  | some fault =>
      right
      simp only [TransactionContext.commit, checked, NativeTxn.commit]
      exact ⟨_, rfl⟩
  | none =>
      left
      simp only [TransactionContext.commit, checked, NativeTxn.commit]
      exact congrArg (Prod.mk _) (congrArg data.applyAll collected)

theorem optimisticContext_ends (store : RocksDbCFOptimisticTxnStore)
    (withSnapshot : Bool) (position : Nat) (calls : List ContextWrite)
    (fault : Option Fault) (data : Db cmps) :
    (optimisticContext store withSnapshot position calls fault).Ends data := by
  have running : (OptimisticTransactionContext.new store withSnapshot
    position).completed = false := rfl
  obtain ⟨open_, collected⟩ := ContextWrite.collects_optimistic.run running calls
  have checked := OptimisticTransactionContext.checkCompleted_of_running open_
  rw [Ends, asked, perform]
  cases fault with
  | some fault =>
      right
      simp only [OptimisticTransactionContext.commit, checked, NativeTxn.commit]
      exact ⟨_, rfl⟩
  | none =>
      left
      simp only [OptimisticTransactionContext.commit, checked, NativeTxn.commit]
      exact congrArg (Prod.mk _) (congrArg data.applyAll collected)

theorem ends (session : WriteSession) (data : Db cmps) : session.Ends data := by
  cases session with
  | single store cfName fault call =>
      exact single_ends store cfName fault call data
  | batch store cfName calls fault =>
      exact batch_ends store cfName calls fault data
  | transaction calls fault => exact transaction_ends calls fault data
  | context store calls fault => exact context_ends store calls fault data
  | optimisticContext store withSnapshot position calls fault =>
      exact optimisticContext_ends store withSnapshot position calls fault data

/-- A session applies the records it commits, in order. -/
theorem perform_eq (session : WriteSession) (data : Db cmps) :
    (session.perform data).2 = data.applyAll (session.committed data) := by
  rw [committed]
  rcases session.ends data with applied | ⟨e, refused⟩
  · rw [applied]
  · rw [refused]
    rfl

end WriteSession

theorem performAll_eq (sessions : List WriteSession) (data : Db cmps) :
    performAll data sessions = data.applyAll (committedAll data sessions) := by
  induction sessions generalizing data with
  | nil => rfl
  | cons session sessions inductionHypothesis =>
      have tail := inductionHypothesis (session.perform data).2
      calc performAll data (session :: sessions)
          = performAll (session.perform data).2 sessions := rfl
        _ = (session.perform data).2.applyAll
              (committedAll (session.perform data).2 sessions) := tail
        _ = (data.applyAll (session.committed data)).applyAll
              (committedAll (session.perform data).2 sessions) := by
            rw [session.perform_eq]
        _ = data.applyAll (committedAll data (session :: sessions)) := by
            rw [committedAll, Db.applyAll_append]

/-- What a path sees after the sessions: what they committed, and above it the
writes of its own. -/
theorem performAll_staged (sessions : List WriteSession) (data : Db cmps)
    (staged : List WriteOp) :
    (performAll data sessions).applyAll staged =
      data.applyAll (committedAll data sessions ++ staged) := by
  rw [performAll_eq, Db.applyAll_append]

end Sessions

section Reads

variable [∀ cf, Std.TransCmp (cmps cf)]

/-- Writes to other keys leave the record of a key as it was. -/
theorem Db.record_applyAll_other (data : Db cmps) {ops : List WriteOp}
    {at_ : CfKey} (others : ∀ op ∈ ops, ¬ SameKey cmps op.target at_) :
    (data.applyAll ops).record at_ = data.record at_ := by
  induction ops generalizing data with
  | nil => rfl
  | cons op ops inductionHypothesis =>
      have tail := inductionHypothesis (data.apply op)
        (fun later member => others later (List.mem_cons_of_mem _ member))
      rw [Db.applyAll, List.foldl_cons]
      apply tail.trans
      rw [Db.record_apply, if_neg (others op List.mem_cons_self)]

/-- The last write to a key decides its record. -/
theorem Db.record_of_lastWrite (data : Db cmps) {ops : List WriteOp}
    {at_ : CfKey} {op : WriteOp} (last : LastWrite cmps ops at_ op) :
    ∃ earlier, (data.applyAll ops).record at_ = op.effect earlier := by
  obtain ⟨before, after, rfl, hits, others⟩ := last
  refine ⟨(data.applyAll before).record at_, ?_⟩
  rw [Db.applyAll_append, Db.applyAll_cons, Db.record_applyAll_other _ others,
    Db.record_apply, if_pos hits]

/-- So a key whose last write is a put or a delete reads as that write left
it. -/
theorem DbHandle.read_of_lastWrite (db : DbHandle) (data : Db cmps)
    {ops : List WriteOp} {at_ : CfKey} {op : WriteOp}
    (last : LastWrite cmps ops at_ op) {content : Option Bytes}
    (left : op.content = some content) :
    db.read (data.applyAll ops) at_ = .ok content := by
  obtain ⟨earlier, recorded⟩ := data.record_of_lastWrite last
  rw [DbHandle.read, recorded]
  cases op with
  | put at_ value =>
      cases left
      rfl
  | delete at_ =>
      cases left
      rfl
  | merge at_ operand => cases left

end Reads

section ReadPaths

/-- Decoding what a method has read, if anything. -/
theorem decode_after {σ A : Type} {m : Method StoreError σ (Option Bytes)}
    {f : Option Bytes → Method StoreError σ (Option A)} {self : σ}
    {content : Option Bytes} (read : (m self).1 = .ok content)
    {decode : Bytes → StoreResult A} (absent : f none = pure none)
    (found : ∀ bytes, f (some bytes) = some <$> liftM (decode bytes)) :
    ((m >>= f) self).1 = decodeOptional decode content := by
  rw [Method.bind_of_ok read]
  cases content with
  | none =>
      rw [absent]
      rfl
  | some bytes =>
      rw [found, decodeOptional]
      cases decode bytes <;> rfl

/-- Encoding a key does not fail. -/
theorem serializeKey_bind {σ A K : Type} [AsBytes K] (key : K)
    (f : Bytes → Method StoreError σ A) :
    (liftM (serializeKey key) >>= f : Method StoreError σ A) =
      f (AsBytes.asBytes key) := rfl

/-- Asking whether a method has read anything. -/
theorem present_after {σ : Type} {m : Method StoreError σ (Option Bytes)}
    {self : σ} {content : Option Bytes} (read : (m self).1 = .ok content) :
    ((do
      let found ← m
      return found.isSome : Method StoreError σ Bool) self).1 =
      .ok content.isSome := by
  rw [Method.bind_of_ok read]
  rfl

variable {K : Type} [AsBytes K] {cf : String} {key : K} {data : Db cmps}
  {content : Option Bytes}

theorem native_get_of_found {db : DbHandle} {at_ : CfKey} {txn : NativeTxn}
    (found : db.read (txn.view data) at_ = .ok content) :
    (native (NativeTxn.get db data at_ none) txn).1 = .ok content := by
  simp only [native_apply, NativeTxn.get, orFault, found]
  rfl

/-- The pinned read inside a transaction. -/
theorem RocksDbCFTxnStore.getPinnedInTxn_of_found {owner : RocksDbCFTxnStore}
    {txn : NativeTxn} (opens : owner.access.family cf = .ok cf)
    (found : owner.db.read (txn.view data) ⟨cf, AsBytes.asBytes key⟩ =
      .ok content) :
    (owner.getPinnedInTxn cf key data none txn).1 = .ok content := by
  have pinned : owner.getPinnedInTxn cf key data none =
      native (NativeTxn.get owner.db data ⟨cf, AsBytes.asBytes key⟩ none) := by
    rw [getPinnedInTxn, opens]
    rfl
  rw [pinned]
  exact native_get_of_found found

/-- A path finds the contents when every method that it has returns them. -/
theorem ReadPath.Finds.of_methods {path : ReadPath}
    (get : ∀ (V : Type) [DeserializeOwned V], path.get cf key data =
      decodeOptional (deserializeValue (V := V)) content)
    (getRaw : path.getRaw cf key data = some (.ok content))
    (getWithExpiry : ∀ V : Type, path.getWithExpiry cf key data V =
      some (decodeOptional ValueWithExpiry.fromSlice content))
    (present : path.exists cf key data = some (.ok content.isSome)) :
    path.Finds cf key data content where
  get := get
  getRaw := by
    intro result among
    rw [getRaw] at among
    exact (Option.mem_some.mp among).symm
  getWithExpiry := by
    intro V result among
    rw [getWithExpiry] at among
    exact (Option.mem_some.mp among).symm
  present := by
    intro result among
    rw [present] at among
    exact (Option.mem_some.mp among).symm

/-- The methods on a borrowed transaction. -/
theorem ReadPath.finds_inTxn {owner : RocksDbCFTxnStore} {txn : NativeTxn}
    (opens : owner.access.family cf = .ok cf)
    (found : owner.db.read (txn.view data) ⟨cf, AsBytes.asBytes key⟩ =
      .ok content) :
    (ReadPath.inTxn owner txn).Finds cf key data content := by
  have pinned := RocksDbCFTxnStore.getPinnedInTxn_of_found opens found
  apply Finds.of_methods
  · exact fun V codec => decode_after pinned rfl fun _ => rfl
  · apply congrArg some
    exact pinned
  · intro V
    apply congrArg some
    exact decode_after pinned rfl fun _ => rfl
  · apply congrArg some
    exact present_after pinned

/-- The `_cf` methods of a pessimistic context go through the methods on its
transaction. -/
theorem ReadPath.finds_contextCf {receiver : TransactionContext}
    (opens : receiver.store.access.family cf = .ok cf)
    (running : receiver.completed = false)
    (found : receiver.store.db.read (receiver.txn.view data)
      ⟨cf, AsBytes.asBytes key⟩ = .ok content) :
    (ReadPath.contextCf receiver).Finds cf key data content := by
  have borrowed := ReadPath.finds_inTxn opens found
  have checked {A : Type} (m : RocksDbCFTxnStore → TxnMethod A) :
      ((do
        TransactionContext.checkCompleted
        TransactionContext.onTxn m : TransactionContext.CtxMethod A)
          receiver).1 = (m receiver.store receiver.txn).1 := by
    rw [TransactionContext.afterRunning running]
    rfl
  apply Finds.of_methods
  · intro V codec
    exact (checked _).trans (borrowed.get V)
  · apply congrArg some
    exact (checked _).trans (borrowed.getRaw _ rfl)
  · intro V
    apply congrArg some
    exact (checked _).trans (borrowed.getWithExpiry V _ rfl)
  · apply congrArg some
    exact (checked _).trans (borrowed.present _ rfl)

/-- Its default-family methods read the transaction themselves, but for `get`. -/
theorem ReadPath.finds_context {receiver : TransactionContext}
    (running : receiver.completed = false)
    (found : receiver.store.db.read (receiver.txn.view data)
      ⟨defaultColumnFamilyName, AsBytes.asBytes key⟩ = .ok content) :
    (ReadPath.context receiver).Finds defaultColumnFamilyName key data
      content := by
  have cfMethods := ReadPath.finds_contextCf (CfAccess.family_default _) running
    found
  have raw : (TransactionContext.getRaw key data none receiver).1 =
      .ok content := by
    rw [TransactionContext.getRaw, TransactionContext.afterRunning running]
    exact native_get_of_found found
  apply Finds.of_methods
  · exact cfMethods.get
  · apply congrArg some
    exact raw
  · intro V
    apply congrArg some
    rw [TransactionContext.getWithExpiry,
      TransactionContext.afterRunning running]
    exact decode_after raw rfl fun _ => rfl
  · apply congrArg some
    have pinned : (TransactionContext.onTxn (fun store =>
        native (NativeTxn.get store.db data
          ⟨defaultColumnFamilyName, AsBytes.asBytes key⟩ none)) receiver).1 =
        .ok content := native_get_of_found found
    rw [TransactionContext.exists, TransactionContext.afterRunning running]
    apply (congrArg Prod.fst (Method.bind_of_ok pinned _)).trans
    cases content <;> rfl

/-- The reads of an optimistic context, once its family is known. -/
theorem OptimisticTransactionContext.read_of_found
    {receiver : OptimisticTransactionContext}
    (found : receiver.store.db.read (receiver.txn.view data)
      ⟨cf, AsBytes.asBytes key⟩ = .ok content) :
    (read data ⟨cf, AsBytes.asBytes key⟩ none receiver).1 = .ok content :=
  native_get_of_found found

theorem ReadPath.finds_optimisticContext {receiver : OptimisticTransactionContext}
    (running : receiver.completed = false)
    (found : receiver.store.db.read (receiver.txn.view data)
      ⟨defaultColumnFamilyName, AsBytes.asBytes key⟩ = .ok content) :
    (ReadPath.optimisticContext receiver).Finds defaultColumnFamilyName key data
      content := by
  have read := OptimisticTransactionContext.read_of_found found
  have raw : (OptimisticTransactionContext.getRaw key data none receiver).1 =
      .ok content := by
    rw [OptimisticTransactionContext.getRaw,
      OptimisticTransactionContext.afterRunning running]
    exact read
  apply Finds.of_methods
  · intro V codec
    rw [ReadPath.get, OptimisticTransactionContext.get,
      OptimisticTransactionContext.afterRunning running, serializeKey_bind]
    exact decode_after read rfl fun _ => rfl
  · apply congrArg some
    exact raw
  · intro V
    apply congrArg some
    exact decode_after raw rfl fun _ => rfl
  · apply congrArg some
    rw [OptimisticTransactionContext.exists,
      OptimisticTransactionContext.afterRunning running]
    exact present_after read

/-- The `_cf` methods look the family up first. -/
theorem ReadPath.finds_optimisticContextCf
    {receiver : OptimisticTransactionContext}
    (handle : receiver.store.getCfHandle cf = .ok cf)
    (running : receiver.completed = false)
    (found : receiver.store.db.read (receiver.txn.view data)
      ⟨cf, AsBytes.asBytes key⟩ = .ok content) :
    (ReadPath.optimisticContextCf receiver).Finds cf key data content := by
  have read := OptimisticTransactionContext.read_of_found found
  have raw : (OptimisticTransactionContext.getCfRaw key data none cf
      receiver).1 = .ok content := by
    rw [OptimisticTransactionContext.getCfRaw,
      OptimisticTransactionContext.afterRunning running,
      OptimisticTransactionContext.afterFound handle]
    exact read
  apply Finds.of_methods
  · intro V codec
    rw [ReadPath.get, OptimisticTransactionContext.getCf,
      OptimisticTransactionContext.afterRunning running,
      OptimisticTransactionContext.afterFound handle, serializeKey_bind]
    exact decode_after read rfl fun _ => rfl
  · apply congrArg some
    exact raw
  · intro V
    apply congrArg some
    exact decode_after raw rfl fun _ => rfl
  · apply congrArg some
    rw [OptimisticTransactionContext.existsCf,
      OptimisticTransactionContext.afterRunning running,
      OptimisticTransactionContext.afterFound handle]
    exact present_after read

/-- The reads of a store. -/
theorem ReadPath.finds_store {kind : Store} (asked : kind.asked cf = cf)
    (opens : kind.Opens cf)
    (found : kind.access.db.read data ⟨cf, AsBytes.asBytes key⟩ =
      .ok content) :
    (ReadPath.store kind).Finds cf key data content := by
  have read : kind.access.read (kind.asked cf) data none
      (AsBytes.asBytes key) = .ok content := by
    rw [Store.read_of_opens opens, Store.answer, asked, orFault, found]
    rfl
  apply Finds.of_methods
  · intro V codec
    rw [ReadPath.get, kind.get_eq_read, read]
    rfl
  · apply congrArg some
    rw [kind.getRaw_eq_read, read]
  · intro V
    apply congrArg some
    rw [kind.getWithExpiry_eq_read, read]
    rfl
  · apply congrArg some
    rw [kind.exists_eq_read, read]
    rfl

/-- Every read path returns what the engine finds under the writes of its
own. -/
theorem ReadPath.finds (path : ReadPath) (accepts : path.Accepts cf)
    (found : path.db.read (data.applyAll path.staged)
      ⟨cf, AsBytes.asBytes key⟩ = .ok content) :
    path.Finds cf key data content := by
  cases path with
  | store kind => exact finds_store accepts.1 accepts.2 found
  | inTxn owner txn => exact finds_inTxn accepts found
  | txModule db txn =>
      cases accepts
      constructor
      · intro V codec
        rw [ReadPath.get, Tx.getInTxn, serializeKey_bind]
        exact decode_after (native_get_of_found found) rfl fun _ => rfl
      · intro _ none
        cases none
      · intro V _ none
        cases none
      · intro _ none
        cases none
  | context receiver =>
      obtain ⟨rfl, running⟩ := accepts
      exact finds_context running found
  | contextCf receiver => exact finds_contextCf accepts.1 accepts.2 found
  | optimisticContext receiver =>
      obtain ⟨rfl, running⟩ := accepts
      exact finds_optimisticContext running found
  | optimisticContextCf receiver =>
      exact finds_optimisticContextCf accepts.1 accepts.2 found

end ReadPaths

section Values

variable {K V : Type} {keys : AsBytes K} [codec : Serialize V]
  [DeserializeOwned V] {cf : String} {key : K} {val : V} {op : WriteOp}

omit [DeserializeOwned V] in
theorem serialize_of_serializeValue {bytes : Bytes}
    (encoded : serializeValue val = .ok bytes) :
    Serialize.serialize val = .ok bytes := by
  rw [serializeValue, mapError_eq_ok_iff] at encoded
  exact encoded

theorem deserializeValue_of_serialized (roundTrips : RoundTrips V)
    {bytes : Bytes} (encoded : serializeValue val = .ok bytes) :
    deserializeValue bytes = .ok val := by
  rw [deserializeValue,
    roundTrips val bytes (serialize_of_serializeValue encoded)]
  rfl

/-- A put stores what decodes to its value. -/
theorem content_of_put (roundTrips : RoundTrips V)
    (recorded : (WriteCall.put keys codec key val).record cf = .ok op) :
    ∃ bytes, op.content = some (some bytes) ∧
      deserializeValue bytes = .ok val := by
  obtain ⟨bytes, encoded, rfl⟩ := map_eq_ok_iff.mp recorded
  exact ⟨bytes, rfl, deserializeValue_of_serialized roundTrips encoded⟩

/-- A put with expiry stores what splits into its time and what decodes to its
value. -/
theorem content_of_putWithExpiry (roundTrips : RoundTrips V)
    {expireTime : UInt64}
    (recorded : (WriteCall.putWithExpiry keys codec key val expireTime).record
      cf = .ok op) :
    ∃ bytes, op.content = some (some bytes) ∧
      ∃ stored : ValueWithExpiry V, ValueWithExpiry.fromSlice bytes = .ok stored ∧
        stored.expireTime = expireTime ∧ stored.get = .ok val := by
  obtain ⟨bytes, encoded, rfl⟩ := map_eq_ok_iff.mp recorded
  refine ⟨_, rfl, ⟨expireTime, bytes⟩, ?_, rfl, ?_⟩
  · exact ValueWithExpiry.fromSlice_serializeForStorage ⟨expireTime, bytes⟩
  · exact deserializeValue_of_serialized roundTrips encoded

end Values

/-- All write paths write the same record and all read paths read it back.  On a
family it accepts, every path hands the engine the one record of the operation;
after any sequence of sessions through any mix of paths, every read of a key
finds what the last write to it left, which decodes to the value that was put. -/
theorem everyPath_sameRecord [∀ cf, Std.TransCmp (cmps cf)] :
    (∀ (path : WritePath) (cf : String) (fault : Option Fault)
      (call : WriteCall) (m : Method StoreError (path.Receiver cmps) Unit),
      path.request cf fault call = some m →
        ∀ receiver, path.Accepts cf receiver →
          m receiver =
            (liftM (call.record cf) >>= (path.hand fault ·)) receiver) ∧
    (∀ (data : Db cmps) (sessions : List WriteSession) (path : ReadPath)
      (cf : String), path.Accepts cf →
        ∀ (K : Type) [AsBytes K] (key : K) (op : WriteOp),
          LastWrite cmps (committedAll data sessions ++ path.staged)
            ⟨cf, AsBytes.asBytes key⟩ op →
          ∀ content, op.content = some content →
            path.Finds cf key (performAll data sessions) content) ∧
    ∀ (K V : Type) (keys : AsBytes K) [codec : Serialize V]
      [DeserializeOwned V], RoundTrips V → ∀ (cf : String) (key : K) (val : V)
        (op : WriteOp),
      ((WriteCall.put keys codec key val).record cf = .ok op →
        ∃ bytes, op.content = some (some bytes) ∧
          deserializeValue bytes = .ok val) ∧
      ∀ expireTime,
        (WriteCall.putWithExpiry keys codec key val expireTime).record cf =
            .ok op →
          ∃ bytes, op.content = some (some bytes) ∧
            ∃ stored : ValueWithExpiry V,
              ValueWithExpiry.fromSlice bytes = .ok stored ∧
                stored.expireTime = expireTime ∧ stored.get = .ok val := by
  refine ⟨?_, ?_, ?_⟩
  · intro path cf fault call m offered receiver accepts
    exact path.request_hands offered accepts
  · intro data sessions path cf accepts K _ key op last content left
    apply path.finds accepts
    rw [performAll_staged]
    exact path.db.read_of_lastWrite data last left
  · intro K V keys codec _ roundTrips cf key val op
    constructor
    · exact content_of_put roundTrips
    · intro expireTime
      exact content_of_putWithExpiry roundTrips

/-- A put on a store, overwritten through a context, read through the store. -/
theorem everyPath_sameRecord_overwritten :
    let db : DbHandle := ⟨["default"], fun _ _ _ _ => none⟩
    let store : Store := .cfTxnStore ⟨db, ["default"]⟩
    let sessions : List WriteSession :=
      [.single store "default" none (.putRaw inferInstance ([97] : Bytes) [1]),
        .context ⟨db, ["default"]⟩
          [⟨none, none, .putRaw inferInstance ([97] : Bytes) [2]⟩] none]
    (ReadPath.store store).Finds "default" ([97] : Bytes)
      (performAll (Db.empty : ByteDb) sessions) (some [2]) := by
  intro db store sessions
  have committed : committedAll (Db.empty : ByteDb) sessions =
    [.put ⟨"default", [97]⟩ [1], .put ⟨"default", [97]⟩ [2]] := rfl
  apply everyPath_sameRecord.2.1 _ sessions (.store store) "default" ⟨rfl, rfl⟩
    Bytes [97] (.put ⟨"default", [97]⟩ [2])
  · exact ⟨[.put ⟨"default", [97]⟩ [1]], [], by rw [committed]; rfl, by decide,
      by simp⟩
  · rfl

end RockSolid
