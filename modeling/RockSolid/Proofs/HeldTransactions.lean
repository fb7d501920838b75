/-
Module: RockSolid.Proofs.HeldTransactions
Layer: Proofs
Purpose: One pessimistic transaction, held by a context or by a closure.  Both
  holders do the same to the native transaction; a read depends on the committed
  contents through its key only and a write stages one put; a commit that
  succeeds applies the staged writes and nothing else does.
Trusted boundary: none
Main exports: Handle.get_eq, Handle.put_cases, Handle.finish_cases,
  TxnState.advance_stages, TxnState.advances_readsOnly
-/
import RockSolid.Proofs.PessimisticCalls
import RockSolid.Semantics.PessimisticSystem

namespace RockSolid

open Foundation KeyedStore

section Reading

variable {K V : Type} [AsBytes K] [DeserializeOwned V]
  {store : RocksDbCFTxnStore} {cfName : String} {key : K} {data other : ByteDb}

/-- `get_in_txn` depends on the contents through the record it asks for. -/
theorem RocksDbCFTxnStore.getInTxn_congr
    (same : data.record ⟨cfName, AsBytes.asBytes key⟩ =
      other.record ⟨cfName, AsBytes.asBytes key⟩) (fault : Option Fault) :
    store.getInTxn (V := V) cfName key data fault =
      store.getInTxn (V := V) cfName key other fault := by
  have pinned : store.getPinnedInTxn cfName key data fault =
      store.getPinnedInTxn cfName key other fault := by
    funext txn
    simp only [getPinnedInTxn, Method.bind_apply, Method.liftM_apply,
      serializeKey]
    cases found : store.access.family cfName with
    | error e => rfl
    | ok cf =>
        have sameFamily : cf = cfName := family_ok found
        subst sameFamily
        simp only [native_apply, NativeTxn.get_congr same]
  rw [getInTxn, getInTxn, pinned]

end Reading

namespace Handle

variable {store : RocksDbCFTxnStore} {handle : Handle}

/-- The holder works on this store and its transaction has not ended. -/
def Ready (store : RocksDbCFTxnStore) : Handle → Prop
  | .context ctx => ctx.store = store ∧ ctx.completed = false
  | .closure _ => True

theorem ready_begin (store : RocksDbCFTxnStore) (kind : HandleKind) :
    (begin store kind).Ready store := by
  cases kind
  · exact ⟨rfl, rfl⟩
  · trivial

theorem begin_staged (store : RocksDbCFTxnStore) (kind : HandleKind) :
    (begin store kind).txn.staged = [] := by
  cases kind <;> rfl

/-- The same holder with another state of the native transaction. -/
def withTxn (txn : NativeTxn) : Handle → Handle
  | .context ctx => .context { ctx with txn }
  | .closure _ => .closure txn

@[simp] theorem withTxn_txn (handle : Handle) (txn : NativeTxn) :
    (handle.withTxn txn).txn = txn := by
  cases handle <;> rfl

theorem Ready.withTxn (ready : handle.Ready store) (txn : NativeTxn) :
    (handle.withTxn txn).Ready store := by
  cases handle with
  | context ctx => exact ready
  | closure _ => trivial

section Calls

variable {K V : Type} [AsBytes K] (cfName : String) (key : K)

/-- A read through a holder is `get_in_txn` on its native transaction. -/
theorem get_eq [DeserializeOwned V] (ready : handle.Ready store) (data : ByteDb)
    (fault : Option Fault) :
    handle.get (V := V) store cfName key data fault =
      ((store.getInTxn (V := V) cfName key data fault handle.txn).1,
        handle.withTxn (store.getInTxn (V := V) cfName key data fault
          handle.txn).2) := by
  cases handle with
  | closure txn => rfl
  | context ctx =>
      obtain ⟨rfl, running⟩ := ready
      have checked := TransactionContext.checkCompleted_of_running running
      have read : TransactionContext.getCf (V := V) key data fault cfName ctx =
          ((ctx.store.getInTxn (V := V) cfName key data fault ctx.txn).1,
            { ctx with
              txn := (ctx.store.getInTxn (V := V) cfName key data fault
                ctx.txn).2 }) := by
        rw [TransactionContext.getCf, Method.bind_apply, checked]
        rfl
      by_cases isDefault : cfName = defaultColumnFamilyName
      · subst isDefault
        rw [get, if_pos rfl]
        exact congrArg (fun result => (result.1, Handle.context result.2)) read
      · rw [get, if_neg isDefault, read]
        rfl

/-- A write through a holder is `put_in_txn_cf` on its native transaction. -/
theorem put_eq [Serialize V] (val : V) (ready : handle.Ready store)
    (fault : Option Fault) :
    handle.put store cfName key val fault =
      ((store.putInTxnCf cfName key val fault handle.txn).1,
        handle.withTxn (store.putInTxnCf cfName key val fault handle.txn).2) := by
  cases handle with
  | closure txn => rfl
  | context ctx =>
      obtain ⟨rfl, running⟩ := ready
      have checked := TransactionContext.checkCompleted_of_running running
      have written : TransactionContext.putCf key fault cfName val ctx =
          ((ctx.store.putInTxnCf cfName key val fault ctx.txn).1,
            { ctx with
              txn := (ctx.store.putInTxnCf cfName key val fault ctx.txn).2 }) := by
        rw [TransactionContext.putCf, Method.bind_apply, checked]
        rfl
      by_cases isDefault : cfName = defaultColumnFamilyName
      · subst isDefault
        rw [put, if_pos rfl]
        exact congrArg (fun result => (result.1, Handle.context result.2)) written
      · rw [put, if_neg isDefault, written]
        rfl

/-- A read depends on the contents through the record it asks for. -/
theorem get_congr [DeserializeOwned V] (handle : Handle)
    (store : RocksDbCFTxnStore) {cfName : String} {key : K}
    {data other : ByteDb}
    (same : data.record ⟨cfName, AsBytes.asBytes key⟩ =
      other.record ⟨cfName, AsBytes.asBytes key⟩) (fault : Option Fault) :
    handle.get (V := V) store cfName key data fault =
      handle.get (V := V) store cfName key other fault := by
  have sameRead : ∀ store : RocksDbCFTxnStore,
      store.getInTxn (V := V) cfName key data fault =
        store.getInTxn (V := V) cfName key other fault :=
    fun store => RocksDbCFTxnStore.getInTxn_congr same fault
  cases handle with
  | closure txn => rw [get, get, sameRead]
  | context ctx =>
      by_cases isDefault : cfName = defaultColumnFamilyName
      · subst isDefault
        simp only [get, if_true, TransactionContext.get, sameRead]
      · simp only [get, if_neg isDefault, TransactionContext.getCf, sameRead]

/-- A read keeps the holder ready and stages nothing. -/
theorem get_keeps [DeserializeOwned V] (ready : handle.Ready store)
    (data : ByteDb) (fault : Option Fault) :
    let after := (handle.get (V := V) store cfName key data fault).2
    after.Ready store ∧ after.txn.staged = handle.txn.staged := by
  have reads : Method.Leaves (NativeTxn.Reads store.db data)
      (store.getInTxn (V := V) cfName key data fault) :=
    TransactionContext.getInTxn_onlyReads cfName key fault store
  rw [get_eq cfName key ready data fault]
  refine ⟨ready.withTxn _, ?_⟩
  rw [withTxn_txn]
  exact (reads handle.txn).staged

/-- A write either stages one put of the encoded value, or fails and stages
nothing. -/
theorem put_cases [Serialize V] (val : V) (ready : handle.Ready store)
    (fault : Option Fault) :
    let result := handle.put store cfName key val fault
    result.2.Ready store ∧
      ((∃ bytes, Serialize.serialize val = .ok bytes ∧ result.1 = .ok () ∧
          result.2.txn.staged = handle.txn.staged ++
            [.put ⟨cfName, AsBytes.asBytes key⟩ bytes]) ∨
        (∃ e, result.1 = .error e) ∧
          result.2.txn.staged = handle.txn.staged) := by
  rw [put_eq cfName key val ready fault]
  refine ⟨ready.withTxn _, ?_⟩
  simp only [withTxn_txn]
  rcases TransactionContext.putInTxnCf_writes store cfName key val fault
    handle.txn with ⟨e, failed⟩ | ⟨op, named, same⟩
  · rw [failed]
    exact .inr ⟨⟨e, rfl⟩, rfl⟩
  · rw [same]
    cases fault with
    | some fault => exact .inr ⟨⟨_, rfl⟩, rfl⟩
    | none =>
        cases encoded : (Serialize.serialize val : Except String Bytes) with
        | error e =>
            rw [encoded] at named
            cases named
        | ok bytes =>
            rw [encoded] at named
            cases named
            exact .inl ⟨bytes, rfl, rfl, rfl⟩

end Calls

/-- A transaction returns a value only by a commit, and only then the contents
change: by its staged writes. -/
theorem finish_cases {R : Type} (handle : Handle) (data : ByteDb)
    (fault : Option Fault) (ending : TxnEnding R) :
    (∃ result, ending = .commit result ∧
      handle.finish data fault ending =
        (.ok result, data.applyAll handle.txn.staged)) ∨
    ∃ e, handle.finish data fault ending = (.error e, data) := by
  cases handle with
  | closure txn =>
      cases ending with
      | commit result =>
          cases fault with
          | none => exact .inl ⟨result, rfl, rfl⟩
          | some fault => exact .inr ⟨_, rfl⟩
      | rollback error => exact .inr ⟨error, rfl⟩
      | abandon error => exact .inr ⟨error, rfl⟩
  | context ctx =>
      cases ending with
      | commit result =>
          cases ended : ctx.completed with
          | true =>
              have checked := TransactionContext.checkCompleted_of_completed ended
              exact .inr ⟨_, by rw [finish, TransactionContext.commit, checked]; rfl⟩
          | false =>
              have checked := TransactionContext.checkCompleted_of_running ended
              cases fault with
              | none =>
                  refine .inl ⟨result, rfl, ?_⟩
                  rw [finish, TransactionContext.commit, checked]
                  rfl
              | some fault =>
                  refine .inr ⟨.rocksDb fault.error, ?_⟩
                  rw [finish, TransactionContext.commit, checked]
                  rfl
      | rollback error =>
          rw [finish]
          rcases TransactionContext.rollback fault ctx with ⟨e | -, after⟩
          · exact .inr ⟨e, rfl⟩
          · exact .inr ⟨error, rfl⟩
      | abandon error => exact .inr ⟨error, rfl⟩

end Handle

namespace TxnState

variable {Q R : Type} {store : RocksDbCFTxnStore} {program : Q → TxnAction Q R}
  {data : ByteDb} {fault : Option Fault} {t next : TxnState Q}
  {needed : Option CfKey}

/-- A call keeps the holder ready, and a write it stages needs the lock of its
key. -/
theorem advance_stages (ready : t.handle.Ready store)
    (advanced : t.advance store program data fault = some (next, needed)) :
    next.handle.Ready store ∧ ∀ op ∈ next.handle.txn.staged,
      op ∈ t.handle.txn.staged ∨ needed = some op.target := by
  rw [advance] at advanced
  split at advanced
  · next K V keys codec cfName key resume asked =>
      cases advanced
      have kept := Handle.get_keeps (V := V) cfName key ready data fault
      exact ⟨kept.1, fun op member => .inl (kept.2 ▸ member)⟩
  · next K V keys codec cfName key val resume asked =>
      cases advanced
      obtain ⟨stillReady, ⟨bytes, -, ok, staged⟩ | ⟨-, staged⟩⟩ :=
        Handle.put_cases cfName key val ready fault
      · refine ⟨stillReady, fun op member => ?_⟩
        rw [staged] at member
        rcases List.mem_append.mp member with before | new
        · exact .inl before
        · rw [List.mem_singleton.mp new, ok]
          exact .inr rfl
      · exact ⟨stillReady, fun op member => .inl (staged ▸ member)⟩
  · cases advanced

/-- A call reads one cell at most. -/
theorem advances_readsOnly :
    ReadsOnly (Advances store program) (readsKey program) := by
  intro d d' t next ⟨fault, needed, advanced⟩ sameCell
  refine ⟨fault, needed, ?_⟩
  rw [advance] at advanced ⊢
  split at advanced
  · next K V keys codec cfName key resume asked =>
      have sameRecord : d.record ⟨cfName, AsBytes.asBytes key⟩ =
          d'.record ⟨cfName, AsBytes.asBytes key⟩ :=
        sameCell _ (by rw [readsKey, asked])
      have sameAnswer := t.handle.get_congr (V := V) store sameRecord.symm fault
      rw [sameAnswer]
      exact advanced
  · exact advanced
  · cases advanced

end TxnState

end RockSolid
