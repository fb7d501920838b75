/-
Module: RockSolid.Proofs.PessimisticCalls
Layer: Proofs
Purpose: What one call of a pessimistic context can do.  A staging call is at
  most one native write; a reading call adds uses to the native trace.
Trusted boundary: none
Main exports: TransactionContext.staging_writes, reading_onlyReads
-/
import RockSolid.Proofs.StagingCalls

namespace RockSolid

open Foundation

/-- The family an operation of the store works on is the one it names. -/
theorem RocksDbCFTxnStore.family_ok {store : RocksDbCFTxnStore}
    {cfName cf : String} (found : store.access.family cfName = .ok cf) :
    cf = cfName := by
  rw [CfAccess.family] at found
  split at found
  · next isDefault =>
      cases found
      exact isDefault.symm
  · exact getConfiguredCfHandle_ok found

namespace TransactionContext

section Staging

variable {operation : Option WriteOp} {fault : Option Fault}

/-- The native write at the end of a staging call. -/
def stage (op : WriteOp) (fault : Option Fault) : CtxMethod Unit :=
  onTxn fun _ => native (NativeTxn.stage op fault)

theorem afterCheck {f : Unit → CtxMethod Unit}
    (rest : WritesOnly (stage · fault) operation (f ())) :
    WritesOnly (stage · fault) operation (checkCompleted >>= f) := by
  refine .after (fun self => ?_) fun _ _ _ => rest
  rw [checkCompleted]
  split <;> rfl

/-- A store method on the borrowed transaction. -/
theorem onTxn_writes {m : RocksDbCFTxnStore → TxnMethod Unit}
    (writes : ∀ store, WritesOnly (fun op => native (NativeTxn.stage op fault))
      operation (m store)) :
    WritesOnly (stage · fault) operation (onTxn m) := by
  intro self
  rcases writes self.store self.txn with ⟨e, failed⟩ | ⟨op, named, same⟩
  · exact .inl ⟨e, by rw [onTxn, Method.zoom, failed]⟩
  · refine .inr ⟨op, named, ?_⟩
    simp only [stage, onTxn, Method.zoom, same]

/-- The family test of the store methods. -/
theorem afterFamily {store : RocksDbCFTxnStore} {cfName : String}
    {f : String → TxnMethod Unit}
    (rest : WritesOnly (fun op => native (NativeTxn.stage op fault)) operation
      (f cfName)) :
    WritesOnly (fun op => native (NativeTxn.stage op fault)) operation
      (liftM (store.access.family cfName) >>= f) := by
  refine .afterLift fun cf found => ?_
  have same : cf = cfName := RocksDbCFTxnStore.family_ok found
  exact same ▸ rest

/-- `put_in_txn_cf` is at most one native write of the encoded value. -/
theorem putInTxnCf_writes {K V : Type} [AsBytes K] [Serialize V]
    (store : RocksDbCFTxnStore) (cfName : String) (key : K) (val : V)
    (fault : Option Fault) :
    WritesOnly (fun op => native (NativeTxn.stage op fault))
      ((Serialize.serialize val).toOption.map fun bytes =>
        .put ⟨cfName, AsBytes.asBytes key⟩ bytes)
      (store.putInTxnCf cfName key val fault) := by
  refine .afterLift fun serKey keyed => .afterLift fun serVal encoded =>
    afterFamily ?_
  cases keyed
  exact .done (operation_of_serialized encoded)

/-- A staging call fails and leaves the context as it was, or writes the
operation it names through the native transaction. -/
theorem staging_writes (call : StagingCall) (fault : Option Fault) :
    WritesOnly (stage · fault) call.operation (stagingCall fault call) := by
  cases call with
  | set keys codec key val =>
      exact afterCheck (onTxn_writes fun store =>
        putInTxnCf_writes store _ key val fault)
  | setRaw keys key rawVal =>
      refine afterCheck (.afterLift fun serKey keyed => ?_)
      cases keyed
      exact .done rfl
  | setWithExpiry keys codec key val expireTime =>
      refine afterCheck (.afterLift fun serKey keyed => ?_)
      cases keyed
      exact .afterLift fun vwe encoded => .done (operation_of_expiring encoded)
  | merge keys codec key mergeValue =>
      refine afterCheck (.afterLift fun serKey keyed => ?_)
      cases keyed
      exact .afterLift fun serOp encoded => .done (operation_of_serialized encoded)
  | mergeRaw keys key rawMergeOp =>
      refine afterCheck (.afterLift fun serKey keyed => ?_)
      cases keyed
      exact .done rfl
  | delete keys key =>
      refine afterCheck (.afterLift fun serKey keyed => ?_)
      cases keyed
      exact .done rfl
  | putCf keys codec cfName key val =>
      exact afterCheck (onTxn_writes fun store =>
        putInTxnCf_writes store cfName key val fault)
  | putCfRaw keys cfName key rawVal =>
      refine afterCheck (onTxn_writes fun store =>
        .afterLift fun serKey keyed => afterFamily ?_)
      cases keyed
      exact .done rfl
  | putCfWithExpiry keys codec cfName key val expireTime =>
      refine afterCheck (onTxn_writes fun store => .afterLift fun vwe encoded =>
        .afterLift fun serKey keyed => afterFamily ?_)
      cases keyed
      exact .done (operation_of_expiring encoded)
  | mergeCf keys codec cfName key mergeValue =>
      refine afterCheck (onTxn_writes fun store => .afterLift fun serKey keyed =>
        .afterLift fun serOp encoded => afterFamily ?_)
      cases keyed
      exact .done (operation_of_serialized encoded)
  | mergeCfRaw keys cfName key rawMergeOp =>
      refine afterCheck (onTxn_writes fun store =>
        .afterLift fun serKey keyed => afterFamily ?_)
      cases keyed
      exact .done rfl
  | deleteCf keys cfName key =>
      refine afterCheck (onTxn_writes fun store =>
        .afterLift fun serKey keyed => afterFamily ?_)
      cases keyed
      exact .done rfl

end Staging

/-- What a reading call may change: it may add answered reads to the native
trace. -/
structure OnlyReads {cmps : String → Comparator} (data : Db cmps)
    (before after : TransactionContext) : Prop where
  store : after.store = before.store
  completed : after.completed = before.completed
  txn : before.txn.Reads before.store.db data after.txn

instance {cmps : String → Comparator} (data : Db cmps) :
    IsPreorder TransactionContext (OnlyReads data) where
  refl self := ⟨rfl, rfl, refl_of _ self.txn⟩
  trans first second _ earlier later := by
    have sameDb : second.store.db = first.store.db := by rw [earlier.store]
    exact ⟨later.store.trans earlier.store,
      later.completed.trans earlier.completed,
      trans_of _ earlier.txn (sameDb ▸ later.txn)⟩

section Readings

variable {cmps : String → Comparator} {data : Db cmps} {A : Type}

theorem checkCompleted_onlyReads :
    Method.Leaves (OnlyReads data) checkCompleted := by
  intro self
  rw [checkCompleted]
  split <;> exact refl_of _ self

/-- A store method that only reads the borrowed transaction. -/
theorem onTxn_onlyReads {m : RocksDbCFTxnStore → TxnMethod A}
    (reads : ∀ store, Method.Leaves (NativeTxn.Reads store.db data) (m store)) :
    Method.Leaves (OnlyReads data) (onTxn m) :=
  fun self => ⟨rfl, rfl, reads self.store self.txn⟩

theorem native_get_onlyReads (db : DbHandle) (at_ : CfKey)
    (fault : Option Fault) :
    Method.Leaves (NativeTxn.Reads db data)
      (native (NativeTxn.get db data at_ fault)) :=
  fun txn => .get db data at_ fault txn

theorem getPinnedInTxn_onlyReads {K : Type} [AsBytes K] (cfName : String)
    (key : K) (fault : Option Fault) (store : RocksDbCFTxnStore) :
    Method.Leaves (NativeTxn.Reads store.db data)
      (store.getPinnedInTxn cfName key data fault) :=
  .bind (.lift _) fun _ => .bind (.lift _) fun _ => native_get_onlyReads _ _ _

theorem getInTxn_onlyReads {K V : Type} [AsBytes K] [DeserializeOwned V]
    (cfName : String) (key : K) (fault : Option Fault)
    (store : RocksDbCFTxnStore) :
    Method.Leaves (NativeTxn.Reads store.db data)
      (store.getInTxn (V := V) cfName key data fault) := by
  refine .bind (getPinnedInTxn_onlyReads cfName key fault store) fun found => ?_
  rcases found with _ | bytes
  · exact .lift (.ok none)
  · exact .mapLift some _

theorem iterate_onlyReads {K S T OutK OutV : Type} [AsBytes K]
    (config : IterConfig K S T OutK OutV) (fault : Option Fault)
    (self : TransactionContext) :
    OnlyReads data self (iterate data fault config self).2 := by
  cases ended : self.completed with
  | true =>
      rw [iterate, checkCompleted_of_completed ended]
      exact refl_of _ self
  | false =>
      rw [iterate, checkCompleted_of_running ended]
      exact ⟨rfl, rfl, .didAll self.txn
        (iteratorsOf_answered self.store.access config data fault self.txn)⟩

/-- Reading calls only read. -/
theorem reading_onlyReads (data : Db cmps) (call : ReadingCall A)
    (fault : Option Fault) (self : TransactionContext) :
    OnlyReads data self (readingCall data fault call self).2 := by
  cases call with
  | get keys codec key =>
      exact Method.Leaves.bind checkCompleted_onlyReads
        (fun _ => onTxn_onlyReads (getInTxn_onlyReads _ key fault)) self
  | getRaw keys key =>
      exact Method.Leaves.bind checkCompleted_onlyReads (fun _ =>
        .bind (.lift _) fun _ =>
          onTxn_onlyReads fun _ => native_get_onlyReads _ _ fault) self
  | getWithExpiry V keys key =>
      refine Method.Leaves.bind checkCompleted_onlyReads (fun _ =>
        .bind (.bind checkCompleted_onlyReads fun _ => .bind (.lift _) fun _ =>
          onTxn_onlyReads fun _ => native_get_onlyReads _ _ fault)
          fun found => ?_) self
      rcases found with _ | bytes
      · exact .lift (.ok none)
      · exact .mapLift some _
  | «exists» keys key =>
      refine Method.Leaves.bind checkCompleted_onlyReads (fun _ =>
        .bind (.lift _) fun _ =>
          .bind (onTxn_onlyReads fun _ => native_get_onlyReads _ _ fault)
            fun found => ?_) self
      rcases found with _ | bytes <;> exact .lift (.ok _)
  | getCf keys codec cfName key =>
      exact Method.Leaves.bind checkCompleted_onlyReads
        (fun _ => onTxn_onlyReads (getInTxn_onlyReads cfName key fault)) self
  | getCfRaw keys cfName key =>
      exact Method.Leaves.bind checkCompleted_onlyReads
        (fun _ => onTxn_onlyReads (getPinnedInTxn_onlyReads cfName key fault))
        self
  | getCfWithExpiry V keys cfName key =>
      refine Method.Leaves.bind checkCompleted_onlyReads (fun _ =>
        onTxn_onlyReads fun store =>
          .bind (getPinnedInTxn_onlyReads cfName key fault store)
            fun found => ?_) self
      rcases found with _ | bytes
      · exact .lift (.ok none)
      · exact .mapLift some _
  | existsCf keys cfName key =>
      exact Method.Leaves.bind checkCompleted_onlyReads (fun _ =>
        onTxn_onlyReads fun store =>
          .bind (getPinnedInTxn_onlyReads cfName key fault store)
            fun found => .lift (.ok _)) self
  | iterate keys config => exact iterate_onlyReads config fault self
  | findByPrefix keys decoder codec cfName prefixKey direction =>
      exact iterate_onlyReads _ fault self
  | findFrom keys decoder codec cfName startKey direction controlFn captured =>
      exact iterate_onlyReads _ fault self
  | findFromWithExpireVal V keys decoder cfName start reverse controlFn
      captured =>
      exact iterate_onlyReads _ fault self

end Readings

end TransactionContext

end RockSolid
