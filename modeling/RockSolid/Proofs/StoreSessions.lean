/-
Module: RockSolid.Proofs.StoreSessions
Layer: Proofs
Purpose: The whole interface of every store refines ordered maps: family calls,
  reads of many keys, range deletions, any number of batch writers at the same
  time, and transactions.  A batch is one change of the maps, made when its writer
  commits, and so is a transaction; until then, and if the engine refuses it, the
  maps are as they were.
Trusted boundary: none
Main exports: DbHandle.contents_applyBatch, Session.StandsFor,
  Store.sessions_simulate, stores_refine_maps
-/
import RockSolid.Proofs.BatchWriter
import RockSolid.Proofs.OrderedMaps
import RockSolid.Proofs.ProgramAgreement
import RockSolid.Semantics.StoreSessions

namespace RockSolid

open Foundation

namespace DbHandle

variable {db : DbHandle} {data : ByteDb}

/-- A range deletion takes the bindings of its range away. -/
theorem contents_deleteRange (cf : String) (startKey endKey : Bytes) :
    db.contents (data.deleteRange cf startKey endKey) =
      Function.update (db.contents data) cf
        (restrict (db.contents data cf) fun key =>
          !inRange compare startKey endKey key) := by
  funext other
  apply Finmap.ext_lookup
  intro key
  rw [lookup_contents, read, Db.record_deleteRange]
  by_cases sameCf : other = cf
  · subst sameCf
    rw [Function.update_self, lookup_restrict, lookup_contents, read]
    cases within : inRange compare startKey endKey key <;>
      simp [readRecord, Record.absent, metBy]
  · rw [Function.update_of_ne sameCf, lookup_contents, read,
      if_neg (fun both => sameCf both.1)]

theorem contents_applyOp
    (oneByOne : ∀ cf key, MergesOneByOne key (db.fullMerge cf)) (op : BatchOp) :
    db.contents (data.applyOp op) =
      (db.contents data).applyOp db.fullMerge op := by
  cases op with
  | write op => exact contents_apply oneByOne op
  | deleteRange cf startKey endKey =>
      exact contents_deleteRange cf startKey endKey

/-- A batch on the records is the batch on the maps. -/
theorem contents_applyBatch
    (oneByOne : ∀ cf key, MergesOneByOne key (db.fullMerge cf))
    (data : ByteDb) (batch : WriteBatch) :
    db.contents (data.applyBatch batch) =
      (db.contents data).applyBatch db.fullMerge batch := by
  induction batch generalizing data with
  | nil => rfl
  | cons op batch inductionHypothesis =>
      have later := inductionHypothesis (data.applyOp op)
      rw [contents_applyOp oneByOne] at later
      exact later

/-- So is one that the engine may refuse, with the result told. -/
theorem contents_write
    (oneByOne : ∀ cf key, MergesOneByOne key (db.fullMerge cf)) (data : ByteDb)
    (batch : WriteBatch) (fault : Option Fault) :
    (((data.write batch fault).1.mapError .rocksDb : StoreResult Unit),
        db.contents (data.write batch fault).2) =
      (db.contents data).commit db.fullMerge batch fault := by
  cases fault with
  | none => exact congrArg (Prod.mk _) (contents_applyBatch oneByOne data batch)
  | some fault => rfl

theorem readEach_contents {K : Type} [AsBytes K] (cfName : String) (ids : List K)
    (keyFaults : Bytes → Option Fault) :
    (db.contents data).readEach cfName ids keyFaults =
      ids.map fun key => orFault (keyFaults (AsBytes.asBytes key))
        (db.read data ⟨cfName, AsBytes.asBytes key⟩) := by
  simp only [FamilyMaps.readEach, read_contents]

end DbHandle

namespace Store

variable {store : Store} {cfName : String} {data : ByteDb}

section Calls

variable {K V S : Type} [AsBytes K] (asked : store.asked cfName = cfName)
  (served : store.access.family cfName = .ok cfName)

include asked served

theorem multiget_contents [DeserializeOwned V] (ids : List K)
    (keyFaults : Bytes → Option Fault) :
    store.multiget cfName ids data keyFaults =
      ((store.access.db.contents data).readEach cfName ids keyFaults).mapM
        (decodeMultiGetResult (V := V)) := by
  rw [multiget_eq, asked, multiRead_of_family served (by rfl),
    DbHandle.readEach_contents]

theorem multigetRaw_contents (ids : List K) (keyFaults : Bytes → Option Fault) :
    store.multigetRaw cfName ids data keyFaults =
      ((store.access.db.contents data).readEach cfName ids keyFaults).mapM
        (·.mapError .rocksDb) := by
  rw [multigetRaw_eq, asked, multiRead_of_family served (by rfl),
    collectRawResults_eq, DbHandle.readEach_contents]

/-- A merge with expiry merges the header and the encoded value. -/
theorem mergeWithExpiry_contents [Serialize V]
    (oneByOne : ∀ cf key,
      MergesOneByOne key (store.access.db.fullMerge cf))
    (data : ByteDb) (key : K) (value : V) (expireTime : UInt64)
    (fault : Option Fault) :
    let merged := store.mergeWithExpiry cfName key value expireTime fault data
    (merged.1, store.access.db.contents merged.2) =
      (store.access.db.contents data).writeRecord store.access.db.fullMerge
        (expiringMerge cfName key value expireTime) fault := by
  have shared : store.mergeWithExpiry cfName key value expireTime fault data =
      CFOperations.mergeWithExpiry store.access cfName key value expireTime fault
        data := by
    cases store <;> rfl
  have handed : store.mergeWithExpiry cfName key value expireTime fault data =
      (liftM (expiringMerge cfName key value expireTime) >>=
        (CFOperations.write · fault) : Method StoreError ByteDb Unit) data := by
    rw [shared, CFOperations.mergeWithExpiry, ValueWithExpiry.fromValue_eq,
      Method.liftM_map_bind, expiringMerge, Method.liftM_map_bind]
    simp only [CFOperations.mergeRaw, serializeKey, served]
    rfl
  intro merged
  rw [← DbHandle.contents_writeRecord oneByOne, ← handed]

theorem findByPrefixWithExpireVal_contents [ByteDecodable K] (prefixKey : K)
    (reverse : Bool) (controlFn : ControlFn S) (captured : S)
    (fault : Option Fault) :
    store.findByPrefixWithExpireVal (V := V) cfName prefixKey reverse controlFn
        captured data fault =
      collectItemsTextRest "Expected DeserializedItems"
        ((store.access.db.contents data).iterate fault
          (findByPrefixWithExpireValConfig cfName prefixKey reverse controlFn
            captured)) := by
  rw [findByPrefixWithExpireVal_eq, asked, CFOperations.findByPrefixWithExpireVal,
    iterate_served served, ← DbHandle.iterate_contents]

/-- A plain store deletes the range from the maps; the others refuse to. -/
theorem deleteRange_contents
    (oneByOne : ∀ cf key,
      MergesOneByOne key (store.access.db.fullMerge cf))
    (data : ByteDb) (startKey endKey : K) (fault : Option Fault) :
    let deleted := store.deleteRange cfName startKey endKey fault data
    (deleted.1, store.access.db.contents deleted.2) =
      if store.kind = .plain then
        (store.access.db.contents data).commit store.access.db.fullMerge
          [.deleteRange cfName (AsBytes.asBytes startKey)
            (AsBytes.asBytes endKey)] fault
      else
        (.error (.other
          "delete_range is not supported on a transactional store"),
          store.access.db.contents data) := by
  have onPlain (plain : RocksDbCFStore)
      (found : plain.access.family cfName = .ok cfName) :
      plain.deleteRange cfName startKey endKey fault data =
        writeBatch [.deleteRange cfName (AsBytes.asBytes startKey)
          (AsBytes.asBytes endKey)] fault data := by
    rw [RocksDbCFStore.deleteRange, found]
    rfl
  intro deleted
  cases store with
  | cfStore plain =>
      have written : deleted = _ := onPlain plain served
      rw [written, ← DbHandle.contents_write oneByOne]
      rfl
  | defaultStore wrapper =>
      change defaultColumnFamilyName = cfName at asked
      subst asked
      have written : deleted = _ := onPlain wrapper.cfStore served
      rw [written, ← DbHandle.contents_write oneByOne]
      rfl
  | _ => rfl

end Calls

end Store

section Transactions

variable {Q : Type}

theorem atomically_map {σ τ : Type} (f : σ → τ) (before after : σ)
    (result : StoreResult Q) (fault : Option Fault) :
    ((atomically before after result fault).1,
        f (atomically before after result fault).2) =
      atomically (f before) (f after) result fault := by
  cases result <;> cases fault <;> rfl

theorem ContextEnd.closes_map {σ τ : Type} (f : σ → τ) (before after : σ)
    (fault : Option Fault) (ending : ContextEnd) :
    ((ending.closes before after fault).1,
        f (ending.closes before after fault).2) =
      ending.closes (f before) (f after) fault := by
  cases ending <;> cases fault <;> rfl

/-- What the endings of a previewing pessimistic context return and leave. -/
theorem TransactionContext.Previews.close {cmps : String → Comparator}
    {owner : RocksDbCFTxnStore} {data seen : Db cmps} {ctx : TransactionContext}
    (previews : Previews owner data seen ctx) (ending : ContextEnd)
    (fault : Option Fault) :
    ctx.close data (ending.ending fault) = ending.closes data seen fault := by
  have checked := checkCompleted_of_running previews.running
  have view : data.applyAll ctx.txn.staged = seen := previews.txn.view
  cases ending <;> cases fault <;>
    simp [TransactionContext.close, ContextEnd.ending, ContextEnd.closes, commit,
      rollback, checked, NativeTxn.commit, NativeTxn.rollback, atomically, view]

/-- And of an optimistic one. -/
theorem OptimisticTransactionContext.Previews.close {cmps : String → Comparator}
    {owner : RocksDbCFOptimisticTxnStore} {data seen : Db cmps}
    {ctx : OptimisticTransactionContext}
    (previews : Previews owner data seen ctx) (ending : ContextEnd)
    (fault : Option Fault) :
    ctx.close data (ending.ending fault) = ending.closes data seen fault := by
  have checked := checkCompleted_of_running previews.running
  have view : data.applyAll ctx.txn.staged = seen := previews.txn.view
  cases ending <;> cases fault <;>
    simp [OptimisticTransactionContext.close, ContextEnd.ending,
      ContextEnd.closes, commit, rollback, checked, NativeTxn.commit,
      NativeTxn.rollback, atomically, view, Except.mapError]

/-- The open database does in a transaction what the maps do. -/
theorem DbHandle.contents_inContext {db : DbHandle}
    (oneByOne : ∀ cf key, MergesOneByOne key (db.fullMerge cf))
    (program : Program FamilyCall Q) (ending : ContextEnd) (met : Met)
    (data : ByteDb) :
    let ran := program.run db.receiver met.inside data
    let closed := ending.closes data ran.2 met.fault
    ((ran.1, closed.1), db.contents closed.2) =
      (db.contents data).inContext db.fullMerge program ending met := by
  intro ran closed
  obtain ⟨sameResult, after⟩ := (db.simulates_maps oneByOne fun _ _ => True).run
    (program.only_of_forall fun _ _ => trivial) met.inside
    (Eq.refl (db.contents data))
  have closes := ending.closes_map db.contents data ran.2 met.fault
  have returned := congrArg Prod.fst closes
  have left := congrArg Prod.snd closes
  simp only [FamilyMaps.inContext, ← sameResult, ← after]
  exact Prod.ext (Prod.ext rfl returned) left

/-- And so does a pessimistic context. -/
theorem TransactionContext.contents_inContext {owner : RocksDbCFTxnStore}
    (oneByOne : ∀ cf key, MergesOneByOne key (owner.db.fullMerge cf))
    {program : Program FamilyCall Q}
    (served : program.Only (FamilyCall.Served owner.access))
    (ending : ContextEnd) (met : Met) (data : ByteDb) :
    let ran := program.run (receiver data) met.inside (.new owner)
    let closed := ran.2.close data (ending.ending met.fault)
    ((ran.1, closed.1), owner.db.contents closed.2) =
      (owner.db.contents data).inContext owner.db.fullMerge program ending
        met := by
  intro ran closed
  obtain ⟨sameResult, previews⟩ :=
    (simulates owner data).run served met.inside (.begun owner data)
  have closes : closed = _ := previews.close ending met.fault
  rw [← DbHandle.contents_inContext oneByOne program ending met data]
  exact Prod.ext (Prod.ext sameResult (congrArg Prod.fst closes))
    (congrArg (fun left => owner.db.contents left.2) closes)

/-- And an optimistic one, blind or not. -/
theorem OptimisticTransactionContext.contents_inContext
    {owner : RocksDbCFOptimisticTxnStore}
    (oneByOne : ∀ cf key, MergesOneByOne key (owner.db.fullMerge cf))
    {program : Program FamilyCall Q}
    (served : program.Only (FamilyCall.Served owner.access))
    (withSnapshot : Bool) (ending : ContextEnd) (met : Met) (data : ByteDb) :
    let ran := program.run (receiver data) met.inside
      (.new owner withSnapshot met.position)
    let closed := ran.2.close data (ending.ending met.fault)
    ((ran.1, closed.1), owner.db.contents closed.2) =
      (owner.db.contents data).inContext owner.db.fullMerge program ending
        met := by
  intro ran closed
  obtain ⟨sameResult, previews⟩ := (simulates owner data).run served met.inside
    (.begun owner withSnapshot met.position data)
  have closes : closed = _ := previews.close ending met.fault
  rw [← DbHandle.contents_inContext oneByOne program ending met data]
  exact Prod.ext (Prod.ext sameResult (congrArg Prod.fst closes))
    (congrArg (fun left => owner.db.contents left.2) closes)

/-- A transaction of a pessimistic store on the maps. -/
theorem RocksDbCFTxnStore.contents_executeTransaction {owner : RocksDbCFTxnStore}
    (oneByOne : ∀ cf key, MergesOneByOne key (owner.db.fullMerge cf))
    {operation : Program KeyCall (StoreResult Q)}
    (served : operation.Only fun _ call =>
      FamilyCall.Served owner.access _ call.onFamily)
    (met : Met) (data : ByteDb) :
    let executed := executeTransaction data
      (operation.run (owner.inTxnReceiver data) met.inside) met.fault
    (executed.1, owner.db.contents executed.2.2) =
      (owner.db.contents data).executeTransaction owner.db.fullMerge operation
        met := by
  intro executed
  have begun : beginTransaction.Previews data data := .begun false 0
  obtain ⟨sameResult, previews⟩ :=
    (owner.inTxn_simulates data).run served met.inside begun
  obtain ⟨mappedResult, after⟩ :=
    ((owner.db.simulates_maps oneByOne fun _ _ => True).along
      fun _ => KeyCall.onFamily).run
      (operation.only_of_forall fun _ _ => trivial) met.inside
      (Eq.refl (owner.db.contents data))
  have finished := (previews.finishTransaction met.fault
    (operation.run (owner.inTxnReceiver data) met.inside beginTransaction).1).1
  rw [sameResult] at finished
  simp only [FamilyMaps.executeTransaction, ← mappedResult, ← after,
    ← atomically_map owner.db.contents, ← finished]
  simp only [executed, RocksDbCFTxnStore.executeTransaction, sameResult]

/-- A program in a transaction context is one on the maps, on every store that has
such contexts. -/
theorem Store.contents_inContext {store : Store}
    (oneByOne : ∀ cf key, MergesOneByOne key (store.access.db.fullMerge cf))
    {program : Program FamilyCall Q}
    (served : program.Only (FamilyCall.Served store.access)) (blind : Bool)
    (ending : ContextEnd) (met : Met) (data : ByteDb) :
    (store.inContext blind program ending met data).map
        (fun done => (done.1, store.access.db.contents done.2)) =
      if store.kind.hasContexts blind then
        some ((store.access.db.contents data).inContext store.access.db.fullMerge
          program ending met)
      else none := by
  cases store with
  | cfStore store => rfl
  | defaultStore store => rfl
  | cfTxnStore owner =>
      have inContext := TransactionContext.contents_inContext oneByOne served
        ending met data
      cases blind with
      | false => exact congrArg some inContext
      | true => rfl
  | defaultTxnStore store =>
      have inContext := TransactionContext.contents_inContext oneByOne served
        ending met data
      cases blind with
      | false => exact congrArg some inContext
      | true => rfl
  | cfOptimisticTxnStore owner =>
      have inContext := OptimisticTransactionContext.contents_inContext oneByOne
        served (!blind) ending met data
      cases blind <;> exact congrArg some inContext
  | defaultOptimisticTxnStore store =>
      have inContext := OptimisticTransactionContext.contents_inContext oneByOne
        served (!blind) ending met data
      cases blind <;> exact congrArg some inContext

/-- And `execute_transaction` is, on every store that has it. -/
theorem Store.contents_executeTransaction {store : Store}
    (oneByOne : ∀ cf key, MergesOneByOne key (store.access.db.fullMerge cf))
    {operation : Program KeyCall (StoreResult Q)}
    (served : operation.Only fun _ call =>
      FamilyCall.Served store.access _ call.onFamily)
    (met : Met) (data : ByteDb) :
    (store.executeTransaction operation met data).map
        (fun done => (done.1, store.access.db.contents done.2)) =
      if store.kind = .pessimistic then
        some ((store.access.db.contents data).executeTransaction
          store.access.db.fullMerge operation met)
      else none := by
  cases store with
  | cfTxnStore owner =>
      exact congrArg some
        (RocksDbCFTxnStore.contents_executeTransaction oneByOne served met data)
  | defaultTxnStore store =>
      exact congrArg some
        (RocksDbCFTxnStore.contents_executeTransaction oneByOne served met data)
  | _ => rfl

end Transactions

section Writers

/-- What a batch writer is for. -/
def BatchWriter.pending (writer : BatchWriter) : Pending :=
  ⟨writer.cfName, writer.batch⟩

/-- The writer takes staging calls, and finds its family. -/
structure BatchWriter.Usable (writer : BatchWriter) : Prop where
  isOpen : writer.committedOrDiscarded = false
  served : writer.store.access.family writer.cfName = .ok writer.cfName

namespace BatchWriter.Usable

variable {writer : BatchWriter} (usable : writer.Usable)

include usable

/-- A staging call on a usable writer adds what can be encoded. -/
theorem staging (call : BatchCall) :
    (∃ op, call.operation writer.cfName = .ok op ∧ stagingCall call writer =
        (.ok (), { writer with batch := writer.batch ++ [op] })) ∨
      ∃ e, call.operation writer.cfName = .error e ∧
        stagingCall call writer = (.error e, writer) := by
  rw [stagingCall_eq usable.isOpen]
  cases call.operation writer.cfName with
  | error e => exact .inr ⟨e, rfl, rfl⟩
  | ok op =>
      refine .inl ⟨op, rfl, ?_⟩
      simp only [Method.bind_apply, Method.liftM_apply, family, usable.served,
        add]

/-- A commit hands the batch to the engine. -/
theorem commit {cmps : String → Comparator} (data : Db cmps)
    (fault : Option Fault) :
    let finished := writer.finish data (.commit fault)
    let written := data.write writer.batch fault
    finished.1 = some (written.1.mapError .rocksDb) ∧
      finished.2.2 = written.2 := by
  have checked := checkNotCommitted_of_open usable.isOpen
  cases fault <;>
    simp [BatchWriter.finish, BatchWriter.commit, checked, Db.write,
      Except.mapError]

end BatchWriter.Usable

/-- The session stands for maps and for what its writers are for; every writer that
has not ended is usable. -/
structure Session.StandsFor (db : DbHandle) (session : Session fun _ => compare)
    (mapped : MapSession) : Prop where
  contents : db.contents session.data = mapped.maps
  writers : session.writers.map (·.map BatchWriter.pending) = mapped.writers
  usable : ∀ writer, some writer ∈ session.writers → writer.Usable

theorem Session.StandsFor.begun (db : DbHandle) (data : ByteDb) :
    Session.StandsFor db ⟨data, []⟩ ⟨db.contents data, []⟩ :=
  ⟨rfl, rfl, nofun⟩

variable {A B : Type} {table : List (Option A)} {number : Nat} {a : A}

/-- A number has the meaning of what it stood for. -/
theorem handle_map (table : List (Option A)) (number : Nat) (f : A → B) :
    (table.map (·.map f))[number]?.join = table[number]?.join.map f := by
  rw [List.getElem?_map]
  rcases table[number]? with _ | _ | a <;> rfl

/-- Putting back what a number stands for changes nothing. -/
theorem set_handle (found : table[number]?.join = some a) :
    table.set number (some a) = table := by
  obtain ⟨inRange, here⟩ :=
    List.getElem?_eq_some_iff.mp (Option.join_eq_some_iff.mp found)
  rw [← here, List.set_getElem_self]

theorem mem_of_handle (found : table[number]?.join = some a) :
    some a ∈ table :=
  List.mem_of_getElem? (Option.join_eq_some_iff.mp found)

/-- Only a plain store makes batch writers, and what it makes is usable. -/
theorem Store.batchWriter_usable {store : Store} {cfName : String}
    (asked : store.asked cfName = cfName)
    (served : store.access.family cfName = .ok cfName) :
    (store.kind = .plain ∧ ∃ writer, store.batchWriter cfName = some writer ∧
        writer.pending = ⟨cfName, []⟩ ∧ writer.Usable) ∨
      (store.kind ≠ .plain ∧ store.batchWriter cfName = none) := by
  cases store with
  | cfStore plain => exact .inl ⟨rfl, _, rfl, rfl, rfl, served⟩
  | defaultStore wrapper =>
      change defaultColumnFamilyName = cfName at asked
      subst asked
      exact .inl ⟨rfl, _, rfl, rfl, rfl, served⟩
  | _ => exact .inr ⟨nofun, rfl⟩

end Writers

/-- A store with its batch writers does on its records what the maps do. -/
theorem Store.sessions_simulate (store : Store)
    (oneByOne : ∀ cf key,
      MergesOneByOne key (store.access.db.fullMerge cf)) :
    (store.sessionReceiver :
      Receiver StoreCall Met (Session fun _ => compare)).Simulates
      (FamilyMaps.sessionReceiver store.access.db.fullMerge store.kind)
      store.ServesCall (Session.StandsFor store.access.db) := by
  intro A met call session mapped serves stands
  obtain ⟨data, writers⟩ := session
  obtain ⟨maps, pendings⟩ := mapped
  obtain ⟨rfl, rfl, usable⟩ := stands
  cases call with
  | family call =>
      have simulates :=
        store.simulates.trans (store.access.db.simulates_maps oneByOne store.Serves)
      rw [Relation.eq_comp] at simulates
      obtain ⟨sameAnswer, after⟩ :=
        simulates _ met.fault call data _ (serves _ rfl) rfl
      exact ⟨sameAnswer, after, rfl, usable⟩
  | multiget keys codec cfName ids =>
      obtain ⟨asked, served⟩ := serves cfName rfl
      exact ⟨multiget_contents asked served ids met.keyFaults, rfl, rfl, usable⟩
  | multigetRaw keys cfName ids =>
      obtain ⟨asked, served⟩ := serves cfName rfl
      exact ⟨multigetRaw_contents asked served ids met.keyFaults, rfl, rfl, usable⟩
  | multigetWithExpiry V keys cfName ids =>
      obtain ⟨asked, served⟩ := serves cfName rfl
      refine ⟨?_, rfl, rfl, usable⟩
      simp only [sessionReceiver, FamilyMaps.sessionReceiver]
      rw [multigetWithExpiry_eq, multigetRaw_contents asked served,
        decodeExpiryResult_eq]
  | findByPrefixWithExpireVal V keys decoder cfName prefixKey reverse controlFn
      captured =>
      obtain ⟨asked, served⟩ := serves cfName rfl
      exact ⟨findByPrefixWithExpireVal_contents asked served prefixKey reverse
        controlFn captured met.fault, rfl, rfl, usable⟩
  | mergeWithExpiry keys codec cfName key value expireTime =>
      obtain ⟨asked, served⟩ := serves cfName rfl
      have merged := mergeWithExpiry_contents asked served oneByOne data key value
        expireTime met.fault
      exact ⟨congrArg Prod.fst merged, congrArg Prod.snd merged, rfl, usable⟩
  | deleteRange keys cfName startKey endKey =>
      obtain ⟨asked, served⟩ := serves cfName rfl
      have deleted := deleteRange_contents asked served oneByOne data startKey
        endKey met.fault
      simp only [FamilyMaps.sessionReceiver]
      split at deleted
      · next plain =>
          rw [if_pos plain]
          exact ⟨congrArg Prod.fst deleted, congrArg Prod.snd deleted, rfl, usable⟩
      · next transactional =>
          rw [if_neg transactional]
          exact ⟨congrArg Prod.fst deleted, congrArg Prod.snd deleted, rfl, usable⟩
  | batchWriter cfName =>
      obtain ⟨asked, served⟩ := serves cfName rfl
      simp only [sessionReceiver, FamilyMaps.sessionReceiver]
      rcases batchWriter_usable asked served with
        ⟨plain, writer, made, pending, madeUsable⟩ | ⟨transactional, none⟩
      · rw [made, if_pos plain]
        refine ⟨by rw [List.length_map], rfl, ?_, ?_⟩
        · simp [pending]
        · intro other member
          rcases List.mem_append.mp member with earlier | last
          · exact usable other earlier
          · cases List.mem_singleton.mp last
            exact madeUsable
      · rw [none, if_neg transactional]
        exact ⟨rfl, rfl, rfl, usable⟩
  | stage number call =>
      simp only [sessionReceiver, FamilyMaps.sessionReceiver, handle_map]
      cases found : writers[number]?.join with
      | none => exact ⟨rfl, rfl, rfl, usable⟩
      | some writer =>
          have inUse := usable writer (mem_of_handle found)
          rcases inUse.staging call with ⟨op, named, staged⟩ | ⟨e, named, staged⟩
          · simp only [Option.map_some, BatchWriter.pending, named, staged]
            refine ⟨trivial, rfl, ?_, ?_⟩
            · rw [List.map_set]
              rfl
            · intro other member
              rcases List.mem_or_eq_of_mem_set member with earlier | same
              · exact usable other earlier
              · cases same
                exact ⟨inUse.isOpen, inUse.served⟩
          · simp only [Option.map_some, BatchWriter.pending, named, staged,
              set_handle found]
            exact ⟨trivial, rfl, rfl, usable⟩
  | inContext blind program ending =>
      have closed :=
        Store.contents_inContext oneByOne serves blind ending met data
      simp only [sessionReceiver, FamilyMaps.sessionReceiver]
      cases ran : store.inContext blind program ending met data with
      | none =>
          rw [ran] at closed
          split at closed
          · cases closed
          · next none =>
              rw [if_neg none]
              exact ⟨rfl, rfl, rfl, usable⟩
      | some done =>
          rw [ran] at closed
          split at closed
          · next offered =>
              have same := Option.some.inj closed
              rw [if_pos offered, ← same]
              exact ⟨rfl, rfl, rfl, usable⟩
          · cases closed
  | executeTransaction operation =>
      have executed :=
        Store.contents_executeTransaction oneByOne serves met data
      simp only [sessionReceiver, FamilyMaps.sessionReceiver]
      cases ran : store.executeTransaction operation met data with
      | none =>
          rw [ran] at executed
          split at executed
          · cases executed
          · next none =>
              rw [if_neg none]
              exact ⟨rfl, rfl, rfl, usable⟩
      | some done =>
          rw [ran] at executed
          split at executed
          · next offered =>
              have same := Option.some.inj executed
              rw [if_pos offered, ← same]
              exact ⟨rfl, rfl, rfl, usable⟩
          · cases executed
  | finish number ending =>
      simp only [sessionReceiver, FamilyMaps.sessionReceiver, handle_map]
      cases found : writers[number]?.join with
      | none => exact ⟨rfl, rfl, rfl, usable⟩
      | some writer =>
          have inUse := usable writer (mem_of_handle found)
          have others : ∀ other, some other ∈ writers.set number none →
              other.Usable := by
            intro other member
            rcases List.mem_or_eq_of_mem_set member with earlier | gone
            · exact usable other earlier
            · cases gone
          have ended : (writers.set number none).map (·.map BatchWriter.pending) =
              (writers.map (·.map BatchWriter.pending)).set number none := by
            rw [List.map_set]
            rfl
          cases ending with
          | commit =>
              obtain ⟨returned, left⟩ := inUse.commit data met.fault
              have committed :=
                DbHandle.contents_write oneByOne data writer.batch met.fault
              simp only [Option.map_some, WriterEnd.ending]
              refine ⟨?_, ?_, ended, others⟩
              · exact congrArg some (returned.trans
                  (congrArg (fun done => some done.1) committed))
              · exact (congrArg store.access.db.contents left).trans
                  (congrArg Prod.snd committed)
          | discard => exact ⟨rfl, rfl, ended, others⟩
          | drop => exact ⟨rfl, rfl, ended, others⟩

/-- What the engine merges between the calls is not noticed by a client. -/
theorem Store.interrupted_sessions_simulate (store : Store)
    {partialMerge : String → MergeFn}
    (inParts : ∀ cf key,
      MergesInParts key (store.access.db.fullMerge cf) (partialMerge cf)) :
    (store.sessionReceiver.interrupted
      (Session.mergedBetween store.access.db.fullMerge partialMerge)).Simulates
      ((FamilyMaps.sessionReceiver store.access.db.fullMerge
        store.kind).interrupted fun _ => id)
      store.ServesCall (Session.StandsFor store.access.db) := by
  have simulates :=
    store.sessions_simulate fun cf key => (inParts cf key).oneByOne
  apply simulates.interrupted
  intro work session mapped stands
  have merged := contents_mergedBetween inParts work session.data
  exact ⟨merged.trans stands.contents, stands.writers, stands.usable⟩

/-- A client program, on a store of any kind whose engine merges on its own between
the calls and refuses some of them, returns what it returns on one ordered map for
each family, and leaves records that stand for the maps it leaves there. -/
theorem stores_refine_maps {R : Type} (store : Store)
    (partialMerge : String → MergeFn)
    (inParts : ∀ cf key,
      MergesInParts key (store.access.db.fullMerge cf) (partialMerge cf))
    (program : Program StoreCall R) (served : program.Only store.ServesCall)
    (met : Stream' (List BackgroundMerge × Met)) (data : ByteDb) :
    let db := store.access.db
    let onStore := program.run
      (store.sessionReceiver.interrupted
        (Session.mergedBetween db.fullMerge partialMerge)) met ⟨data, []⟩
    let onMaps := program.run
      (FamilyMaps.sessionReceiver db.fullMerge store.kind)
      (met.map Prod.snd) ⟨db.contents data, []⟩
    onStore.1 = onMaps.1 ∧ db.contents onStore.2.data = onMaps.2.maps := by
  intro db onStore onMaps
  have ran := (store.interrupted_sessions_simulate inParts).run served met
    (Session.StandsFor.begun db data)
  rw [Receiver.run_interrupted_id] at ran
  exact ⟨ran.1, ran.2.contents⟩

/-- Two writers of the default family in use at the same time: one merges an operand
twice, the other deletes what lies from "b" on; then the keys are read. -/
def twoWriters : Program StoreCall (StoreResult (List (Option Bytes))) :=
  .call (.batchWriter "default") fun _ =>
    .call (.batchWriter "default") fun _ =>
      .call (.stage 0 (.write (.mergeRaw inferInstance "a" [1]))) fun _ =>
        .call (.stage 1 (.deleteRange inferInstance "b" "c")) fun _ =>
          .call (.stage 0 (.write (.mergeRaw inferInstance "a" [2]))) fun _ =>
            .call (.finish 1 .commit) fun _ =>
              .call (.finish 0 .commit) fun _ =>
                .call (.multigetRaw inferInstance "default" ["a", "b"]) .done

/-- `twoWriters` on a default-family store, the engine merging the operands of a key
before each call. -/
theorem stores_refine_maps_batches :
    let db : DbHandle := ⟨["default"], fun _ => defaultFullMerge⟩
    let store : Store := .defaultStore ⟨⟨db⟩⟩
    let at_ : CfKey := ⟨"default", AsBytes.asBytes "a"⟩
    let met : Stream' (List BackgroundMerge × Met) :=
      Stream'.const ([.mergeSome at_ 0 2, .mergeAll at_],
        ⟨none, fun _ => none, Stream'.const none, 0⟩)
    let data : ByteDb :=
      Db.empty.apply (.put ⟨"default", AsBytes.asBytes "b"⟩ [7])
    let onStore := twoWriters.run
      (store.sessionReceiver.interrupted (Session.mergedBetween db.fullMerge
        fun _ => defaultPartialMerge)) met ⟨data, []⟩
    let onMaps := twoWriters.run
      (FamilyMaps.sessionReceiver db.fullMerge store.kind)
      (met.map Prod.snd) ⟨db.contents data, []⟩
    onStore.1 = onMaps.1 ∧ db.contents onStore.2.data = onMaps.2.maps := by
  intro db store at_ met data
  have onDefault : ∀ {A : Type} (call : StoreCall A),
      call.cfName = some "default" → store.ServesCall A call := by
    intro A call named
    cases call with
    | inContext | executeTransaction => cases named
    | _ =>
        intro cfName asked
        cases named.symm.trans asked
        exact ⟨rfl, rfl⟩
  apply stores_refine_maps store (fun _ => defaultPartialMerge)
  · exact fun _ key => defaultMerges_inParts key
  · exact ⟨onDefault _ rfl, fun _ => ⟨onDefault _ rfl, fun _ => ⟨nofun, fun _ =>
      ⟨nofun, fun _ => ⟨nofun, fun _ => ⟨nofun, fun _ => ⟨nofun, fun _ =>
        ⟨onDefault _ rfl, fun _ => trivial⟩⟩⟩⟩⟩⟩⟩⟩

end RockSolid
