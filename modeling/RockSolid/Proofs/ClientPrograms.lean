/-
Module: RockSolid.Proofs.ClientPrograms
Layer: Proofs
Purpose: A client program returns the same wherever it is run.  Between the store
  and the transactions stands one open database that takes every call at its word;
  each receiver simulates it call by call, a transaction with the contents that
  it sees.
Trusted boundary: none
Main exports: DbHandle.receiver, Store.simulates, TransactionContext.simulates,
  OptimisticTransactionContext.simulates, RocksDbCFTxnStore.inTxn_simulates
-/
import RockSolid.Proofs.FamilyResolution
import RockSolid.Semantics.ClientPrograms
import RockSolid.Semantics.VisitedSearch

namespace RockSolid

open Foundation

variable {cmps : String → Comparator}

/-- A look-up that finds every family there is a name for. -/
def DbHandle.everyFamily (db : DbHandle) : CfAccess :=
  { db, getCfHandle := .ok }

/-- An open database that takes every call at its word: a write is its one record,
a read is one engine read and its decoding, a search is one engine iterator. -/
def DbHandle.receiver (db : DbHandle) :
    Receiver FamilyCall (Option Fault) (Db cmps) where
  answer fault call data :=
    match call with
    | .write cfName call =>
        (liftM (call.record cfName) >>= (CFOperations.write · fault)) data
    | .read cfName call =>
        (db.everyFamily.read cfName data fault call.keyBytes >>= call.decode,
          data)
    | .iterate _ config =>
        (CFOperations.iterate db.everyFamily data fault config, data)
    | .findByPrefix _ _ _ cfName prefixKey direction =>
        (CFOperations.findByPrefix db.everyFamily data fault cfName prefixKey
          direction, data)
    | .findFrom _ _ _ cfName startKey direction controlFn captured =>
        (CFOperations.findFrom db.everyFamily data fault cfName startKey direction
          controlFn captured, data)
    | .findFromWithExpireVal _ _ _ cfName start reverse controlFn captured =>
        (CFOperations.findFromWithExpireVal data fault db.everyFamily
          "Expected DeserializedItems" cfName start reverse controlFn captured,
          data)

theorem DbHandle.everyFamily_family (db : DbHandle) (cfName : String) :
    db.everyFamily.family cfName = .ok cfName := by
  rw [CfAccess.family]
  split
  · next isDefault => rw [isDefault]
  · rfl

section Searches

variable {access : CfAccess} {K S T OutK OutV : Type} [AsBytes K]

/-- In a family that is found an iteration depends on the iterator it is given. -/
theorem iterateWith_served {config : IterConfig K S T OutK OutV}
    (served : access.family config.cfName = .ok config.cfName)
    (source : String → IteratorMode → RawStream) (db : DbHandle) :
    iterateWith access source config =
      iterateWith db.everyFamily source config := by
  rw [iterateWith_eq, iterateWith_eq, served, db.everyFamily_family]

theorem iterate_served {config : IterConfig K S T OutK OutV}
    (served : access.family config.cfName = .ok config.cfName) (data : Db cmps)
    (fault : Option Fault) :
    CFOperations.iterate access data fault config =
      CFOperations.iterate access.db.everyFamily data fault config :=
  iterateWith_served served _ _

/-- An iteration that deserializes returns its items, so the text for other results
does not matter. -/
theorem findFromWithExpireVal_unexpected {V : Type} [ByteDecodable K]
    (access : CfAccess) (unexpected other : String) (data : Db cmps)
    (fault : Option Fault) (cfName : String) (start : K) (reverse : Bool)
    (controlFn : ControlFn S) (captured : S) :
    CFOperations.findFromWithExpireVal (V := V) data fault access unexpected
        cfName start reverse controlFn captured =
      CFOperations.findFromWithExpireVal data fault access other cfName start
        reverse controlFn captured := by
  simp only [CFOperations.findFromWithExpireVal, CFOperations.iterate,
    iterateWith_eq]
  cases access.family (findFromWithExpireValConfig (V := V) cfName start reverse
    controlFn captured).cfName <;> rfl

theorem findByPrefixWithExpireVal_unexpected {V : Type} [ByteDecodable K]
    (access : CfAccess) (unexpected other : String) (data : Db cmps)
    (fault : Option Fault) (cfName : String) (prefixKey : K) (reverse : Bool)
    (controlFn : ControlFn S) (captured : S) :
    CFOperations.findByPrefixWithExpireVal (V := V) data fault access unexpected
        cfName prefixKey reverse controlFn captured =
      CFOperations.findByPrefixWithExpireVal data fault access other cfName
        prefixKey reverse controlFn captured := by
  simp only [CFOperations.findByPrefixWithExpireVal, CFOperations.iterate,
    iterateWith_eq]
  cases access.family (findByPrefixWithExpireValConfig (V := V) cfName prefixKey
    reverse controlFn captured).cfName <;> rfl

end Searches

namespace Store

variable {store : Store}

section Searches

variable {K V S : Type} [AsBytes K] (data : Db cmps) (fault : Option Fault)

theorem iterate_eq {T OutK OutV : Type} (store : Store)
    (config : IterConfig K S T OutK OutV) :
    store.iterate data fault config =
      CFOperations.iterate store.access data fault config := by
  cases store <;> rfl

variable [ByteDecodable K]

theorem findByPrefix_eq [DeserializeOwned V] (store : Store) (cfName : String)
    (prefixKey : K) (direction : Direction) :
    store.findByPrefix (V := V) cfName data fault prefixKey direction =
      CFOperations.findByPrefix store.access data fault (store.asked cfName)
        prefixKey direction := by
  cases store <;> rfl

theorem findFrom_eq [DeserializeOwned V] (store : Store) (cfName : String)
    (startKey : K) (direction : Direction) (controlFn : ControlFn S)
    (captured : S) :
    store.findFrom (V := V) cfName data fault startKey direction controlFn
        captured =
      CFOperations.findFrom store.access data fault (store.asked cfName) startKey
        direction controlFn captured := by
  cases store <;> rfl

theorem findFromWithExpireVal_eq (store : Store) (cfName : String) (start : K)
    (reverse : Bool) (controlFn : ControlFn S) (captured : S) :
    store.findFromWithExpireVal (V := V) cfName data fault start reverse controlFn
        captured =
      CFOperations.findFromWithExpireVal data fault store.access
        "Expected DeserializedItems" (store.asked cfName) start reverse controlFn
        captured := by
  cases store with
  | cfStore store => exact findFromWithExpireVal_unexpected ..
  | cfTxnStore store => exact findFromWithExpireVal_unexpected ..
  | cfOptimisticTxnStore store => exact findFromWithExpireVal_unexpected ..
  | _ => rfl

theorem findByPrefixWithExpireVal_eq (store : Store) (cfName : String)
    (prefixKey : K) (reverse : Bool) (controlFn : ControlFn S) (captured : S) :
    store.findByPrefixWithExpireVal (V := V) cfName prefixKey reverse controlFn
        captured data fault =
      CFOperations.findByPrefixWithExpireVal data fault store.access
        "Expected DeserializedItems" (store.asked cfName) prefixKey reverse
        controlFn captured := by
  cases store with
  | cfStore store => exact findByPrefixWithExpireVal_unexpected ..
  | cfTxnStore store => exact findByPrefixWithExpireVal_unexpected ..
  | cfOptimisticTxnStore store => exact findByPrefixWithExpireVal_unexpected ..
  | _ => rfl

end Searches

/-- A store answers as the open database does. -/
theorem simulates (store : Store) :
    (store.receiver : Receiver FamilyCall (Option Fault) (Db cmps)).Simulates
      store.access.db.receiver store.Serves Eq := by
  intro A fault call data other ⟨asked, served⟩ same
  subst same
  have opened := store.access.db.everyFamily_family
  rw [FamilyCall.Served] at served
  cases call with
  | write cfName call =>
      change store.asked cfName = cfName at asked
      change store.access.family cfName = .ok cfName at served
      have written : (store.writeCall cfName fault call :
          Method StoreError (Db cmps) Unit) =
            (liftM (call.record cfName) >>= (CFOperations.write · fault)) := by
        rw [store.writeCall_eq, asked, handOver_of_open _ served]
      exact ⟨congrArg (fun write => (write data).1) written,
        congrArg (fun write => (write data).2) written⟩
  | read cfName call =>
      change store.asked cfName = cfName at asked
      change store.access.family cfName = .ok cfName at served
      have found : store.readCall cfName data fault call =
          (store.access.db.everyFamily.read cfName data fault call.keyBytes >>=
            call.decode) := by
        rw [store.readCall_eq, asked, CfAccess.read, CfAccess.read, served, opened]
        rfl
      exact ⟨found, rfl⟩
  | iterate keys config =>
      exact ⟨(store.iterate_eq data fault config).trans
        (iterate_served served data fault), rfl⟩
  | @findByPrefix K V keys decoder codec cfName prefixKey direction =>
      change store.asked cfName = cfName at asked
      have searched := store.findByPrefix_eq (V := V) data fault cfName prefixKey
        direction
      rw [asked, CFOperations.findByPrefix, iterate_served served] at searched
      exact ⟨searched, rfl⟩
  | @findFrom K V S keys decoder codec cfName startKey direction controlFn
      captured =>
      change store.asked cfName = cfName at asked
      have searched := store.findFrom_eq (V := V) data fault cfName startKey
        direction controlFn captured
      rw [asked, CFOperations.findFrom, iterate_served served] at searched
      exact ⟨searched, rfl⟩
  | findFromWithExpireVal V keys decoder cfName start reverse controlFn captured =>
      change store.asked cfName = cfName at asked
      have searched := store.findFromWithExpireVal_eq (V := V) data fault cfName
        start reverse controlFn captured
      rw [asked, CFOperations.findFromWithExpireVal, iterate_served served]
        at searched
      exact ⟨searched, rfl⟩

end Store

/-- The transaction is live, and what it sees over the committed contents is what
the database has. -/
structure NativeTxn.Previews (data seen : Db cmps) (txn : NativeTxn) : Prop where
  view : txn.view data = seen
  live : .free ∉ txn.events

namespace NativeTxn.Previews

variable {data seen : Db cmps} {txn after : NativeTxn}

theorem begun (withSnapshot : Bool) (position : Nat) :
    Previews data data (create withSnapshot position) where
  view := rfl
  live := List.not_mem_nil

/-- A staged write is seen as a committed one is. -/
theorem stage (previews : Previews data seen txn) (op : WriteOp)
    (fault : Option Fault) :
    (native (NativeTxn.stage op fault) txn).1 =
        (CFOperations.write op fault seen).1 ∧
      Previews data (CFOperations.write op fault seen).2
        (native (NativeTxn.stage op fault) txn).2 := by
  have live : .free ∉ (txn.stage op fault).2.events := by
    simpa using previews.live
  cases fault with
  | some fault => exact ⟨rfl, previews.view, live⟩
  | none =>
      refine ⟨rfl, ?_, live⟩
      have grown : data.applyAll (txn.staged ++ [op]) =
          (data.applyAll txn.staged).apply op :=
        Db.applyAll_append data txn.staged [op]
      exact grown.trans (congrArg (Db.apply · op) previews.view)

/-- Encoding a record and writing it. -/
theorem write (previews : Previews data seen txn) (record : StoreResult WriteOp)
    (fault : Option Fault) :
    let staged := (liftM record >>= fun op =>
      native (NativeTxn.stage op fault) : TxnMethod Unit) txn
    let written := (liftM record >>= fun op =>
      CFOperations.write op fault : Method StoreError (Db cmps) Unit) seen
    staged.1 = written.1 ∧ Previews data written.2 staged.2 := by
  cases record with
  | error e => exact ⟨rfl, previews⟩
  | ok op => exact previews.stage op fault

/-- Reads change nothing that is seen. -/
theorem reads (previews : Previews data seen txn) {db : DbHandle}
    (only : txn.Reads db data after) : Previews data seen after where
  view := (congrArg (data.applyAll ·) only.staged).trans previews.view
  live := only.held previews.live

/-- A read and its decoding find what they find in what is seen. -/
theorem read {B : Type} (previews : Previews data seen txn) (db : DbHandle)
    (at_ : CfKey) (fault : Option Fault) (decode : Option Bytes → StoreResult B) :
    let asked := (native (NativeTxn.get db data at_ fault) >>= fun found =>
      liftM (decode found) : TxnMethod B) txn
    asked.1 = ((orFault fault (db.read seen at_)).mapError .rocksDb >>= decode) ∧
      Previews data seen asked.2 := by
  have quiet : Previews data seen
      (native (NativeTxn.get db data at_ fault) txn).2 :=
    previews.reads (NativeTxn.Reads.get db data at_ fault txn)
  have answered : (native (NativeTxn.get db data at_ fault) txn).1 =
      (orFault fault (db.read seen at_)).mapError .rocksDb := by
    rw [← previews.view]
    rfl
  dsimp only
  rw [Method.bind_apply, ← answered]
  rcases result : native (NativeTxn.get db data at_ fault) txn with
    ⟨e | found, after⟩
  · rw [result] at quiet
    exact ⟨rfl, quiet⟩
  · rw [result] at quiet
    exact ⟨rfl, quiet⟩

end NativeTxn.Previews

section BorrowedReads

variable {σ A B : Type}

/-- Decoding what a method has read, if anything. -/
theorem decodeFound_bind (m : Method StoreError σ (Option Bytes))
    {f : Option Bytes → Method StoreError σ (Option B)}
    {decode : Bytes → StoreResult B} (absent : f none = pure none)
    (found : ∀ bytes, f (some bytes) = some <$> liftM (decode bytes)) :
    (m >>= f) = (m >>= fun found => liftM (decodeOptional decode found)) := by
  congr 1
  funext content
  cases content with
  | none => exact absent
  | some bytes =>
      rw [found, decodeOptional]
      cases decode bytes <;> rfl

/-- Returning what a method has read. -/
theorem rawFound_bind (m : Method StoreError σ B) :
    (m >>= fun found => liftM (.ok found : StoreResult B)) = m := by
  funext receiver
  rw [Method.bind_apply]
  rcases m receiver with ⟨e | found, after⟩ <;> rfl

/-- A read on a borrowed transaction is one native read and its decoding. -/
theorem RocksDbCFTxnStore.readInTxn_eq {store : RocksDbCFTxnStore}
    {cfName : String} (served : store.access.family cfName = .ok cfName)
    (data : Db cmps) (fault : Option Fault) (call : PairedRead A) :
    store.readInTxn cfName data fault call =
      (native (NativeTxn.get store.db data ⟨cfName, call.keyBytes⟩ fault) >>=
        fun found => liftM (call.decode found)) := by
  have pinned {K : Type} [AsBytes K] (key : K) :
      store.getPinnedInTxn cfName key data fault =
        native (NativeTxn.get store.db data ⟨cfName, AsBytes.asBytes key⟩
          fault) := by
    rw [getPinnedInTxn, served]
    rfl
  cases call with
  | get keys codec key =>
      rw [readInTxn, getInTxn, pinned]
      exact decodeFound_bind _ rfl fun _ => rfl
  | getRaw keys key =>
      rw [readInTxn, getRawInTxn, pinned]
      exact (rawFound_bind _).symm
  | getWithExpiry V keys key =>
      rw [readInTxn, getWithExpiryInTxn, getRawInTxn, pinned]
      exact decodeFound_bind _ rfl fun _ => rfl
  | «exists» keys key =>
      rw [readInTxn, existsInTxn, pinned]
      rfl

/-- The methods on a borrowed transaction answer as the open database does that
has the contents the transaction sees. -/
theorem RocksDbCFTxnStore.inTxn_simulates (store : RocksDbCFTxnStore)
    (data : Db cmps) :
    (store.inTxnReceiver data).Simulates
      (store.db.receiver.along fun _ => KeyCall.onFamily)
      (fun _ call => FamilyCall.Served store.access _ call.onFamily)
      fun txn seen => txn.Previews data seen := by
  intro A fault call txn seen served previews
  cases call with
  | write cfName call =>
      change store.access.family cfName = .ok cfName at served
      have written := previews.write (call.record cfName) fault
      have staged : store.writeInTxn cfName fault call =
          (liftM (call.record cfName) >>= fun op =>
            native (NativeTxn.stage op fault)) := by
        rw [store.writeInTxn_eq, handOver_of_open _ served]
      rw [← staged] at written
      exact written
  | read cfName call =>
      change store.access.family cfName = .ok cfName at served
      have found := previews.read store.db ⟨cfName, call.keyBytes⟩ fault
        call.decode
      rw [← RocksDbCFTxnStore.readInTxn_eq served data fault call] at found
      obtain ⟨answered, quiet⟩ := found
      refine ⟨answered.trans ?_, quiet⟩
      change _ = store.db.everyFamily.read cfName seen fault call.keyBytes >>=
        call.decode
      rw [CfAccess.read, DbHandle.everyFamily_family]
      rfl

end BorrowedReads

namespace TransactionContext

/-- The context is running on its store, and its transaction previews. -/
structure Previews (owner : RocksDbCFTxnStore) (data seen : Db cmps)
    (ctx : TransactionContext) : Prop where
  store : ctx.store = owner
  running : ctx.completed = false
  txn : ctx.txn.Previews data seen

variable {owner : RocksDbCFTxnStore} {data seen : Db cmps}
  {ctx : TransactionContext}

theorem Previews.begun (owner : RocksDbCFTxnStore) (data : Db cmps) :
    Previews owner data data (new owner) :=
  ⟨rfl, rfl, .begun false 0⟩

theorem Previews.reads {after : TransactionContext}
    (previews : Previews owner data seen ctx) (only : OnlyReads data ctx after) :
    Previews owner data seen after :=
  ⟨only.store.trans previews.store, only.completed.trans previews.running,
    previews.txn.reads only.txn⟩

/-- Encoding a record and staging it through the context. -/
theorem Previews.write (previews : Previews owner data seen ctx)
    (record : StoreResult WriteOp) (fault : Option Fault) :
    let staged := (liftM record >>= fun op =>
      onTxn fun _ => native (NativeTxn.stage op fault) : CtxMethod Unit) ctx
    let written := (liftM record >>= fun op =>
      CFOperations.write op fault : Method StoreError (Db cmps) Unit) seen
    staged.1 = written.1 ∧ Previews owner data written.2 staged.2 := by
  have native := previews.txn.write record fault
  cases record with
  | error e => exact ⟨rfl, previews⟩
  | ok op => exact ⟨native.1, previews.store, previews.running, native.2⟩

/-- The `_cf` reads are those on the borrowed transaction. -/
theorem readingCall_onCf {A : Type} (running : ctx.completed = false)
    (cfName : String) (data : Db cmps) (fault : Option Fault)
    (call : PairedRead A) :
    readingCall data fault (call.onCf cfName) ctx =
      onTxn (fun store => store.readInTxn cfName data fault call) ctx := by
  cases call <;> exact afterRunning running _

theorem iterate_served {K S T OutK OutV : Type} [AsBytes K]
    (previews : Previews owner data seen ctx)
    (config : IterConfig K S T OutK OutV)
    (served : owner.access.family config.cfName = .ok config.cfName)
    (fault : Option Fault) :
    (iterate data fault config ctx).1 =
      CFOperations.iterate owner.db.everyFamily seen fault config := by
  obtain ⟨rfl, running, txn⟩ := previews
  rw [iterate, checkCompleted_of_running running]
  apply (iterateWith_served served _ ctx.store.db).trans
  simp only [NativeTxn.iterator, txn.view]
  rfl

/-- A pessimistic context answers as the open database does that has the contents
its transaction sees. -/
theorem simulates (owner : RocksDbCFTxnStore) (data : Db cmps) :
    (receiver data).Simulates owner.db.receiver
      (FamilyCall.Served owner.access)
      fun ctx seen => Previews owner data seen ctx := by
  intro A fault call ctx seen served previews
  have running := previews.running
  cases call with
  | write cfName call =>
      change owner.access.family cfName = .ok cfName at served
      rw [← previews.store] at served
      have written := previews.write (call.record cfName) fault
      simp only [receiver]
      by_cases isDefault : cfName = defaultColumnFamilyName
      · subst isDefault
        rw [if_pos rfl, stagingCall_onDefault running]
        exact written
      · rw [if_neg isDefault, stagingCall_onCf running served]
        exact written
  | read cfName call =>
      change owner.access.family cfName = .ok cfName at served
      have answer : (receiver data).answer fault (.read cfName call) ctx =
          readingCall data fault (call.onCf cfName) ctx := by
        simp only [receiver]
        split
        · next isDefault =>
            rw [isDefault]
            exact (readingCall_onCf_default data fault running call).symm
        · rfl
      have found := (owner.inTxn_simulates data) _ fault (.read cfName call)
        ctx.txn seen served previews.txn
      have borrowed : (readingCall data fault (call.onCf cfName) ctx).1 =
          (owner.readInTxn cfName data fault call ctx.txn).1 := by
        rw [readingCall_onCf running, onTxn, previews.store]
        rfl
      rw [answer]
      exact ⟨borrowed.trans found.1,
        previews.reads (reading_onlyReads data _ fault ctx)⟩
  | iterate keys config =>
      exact ⟨iterate_served previews config served fault,
        previews.reads (iterate_onlyReads config fault ctx)⟩
  | @findByPrefix K V keys decoder codec cfName prefixKey direction =>
      have searched := iterate_served previews
        (findByPrefixConfig (V := V) cfName prefixKey direction) served fault
      refine ⟨?_, previews.reads (iterate_onlyReads _ fault ctx)⟩
      exact congrArg (fun result => collectItems
        (.other "find_by_prefix: Expected DeserializedItems") result.1) searched
  | @findFrom K V S keys decoder codec cfName startKey direction controlFn
      captured =>
      have searched := iterate_served previews
        (findFromConfig (V := V) cfName startKey direction controlFn captured)
        served fault
      refine ⟨?_, previews.reads (iterate_onlyReads _ fault ctx)⟩
      exact congrArg (fun result => collectItems
        (.other "find_from: Expected DeserializedItems") result.1) searched
  | findFromWithExpireVal V keys decoder cfName start reverse controlFn captured =>
      have searched := iterate_served previews
        (findFromWithExpireValConfig (V := V) cfName start reverse controlFn
          captured) served fault
      refine ⟨?_, previews.reads (iterate_onlyReads _ fault ctx)⟩
      exact congrArg (fun result => collectItemsText
        "Expected DeserializedItems" result.1) searched

end TransactionContext

namespace OptimisticTransactionContext

/-- The context is running on its store, and its transaction previews. -/
structure Previews (owner : RocksDbCFOptimisticTxnStore) (data seen : Db cmps)
    (ctx : OptimisticTransactionContext) : Prop where
  store : ctx.store = owner
  running : ctx.completed = false
  txn : ctx.txn.Previews data seen

variable {owner : RocksDbCFOptimisticTxnStore} {data seen : Db cmps}
  {ctx : OptimisticTransactionContext}

theorem Previews.begun (owner : RocksDbCFOptimisticTxnStore)
    (withSnapshot : Bool) (position : Nat) (data : Db cmps) :
    Previews owner data data (new owner withSnapshot position) :=
  ⟨rfl, rfl, .begun withSnapshot position⟩

theorem Previews.reads {after : OptimisticTransactionContext}
    (previews : Previews owner data seen ctx) (only : OnlyReads data ctx after) :
    Previews owner data seen after :=
  ⟨only.store.trans previews.store, only.completed.trans previews.running,
    previews.txn.reads only.txn⟩

/-- Encoding a record and staging it through the context. -/
theorem Previews.write (previews : Previews owner data seen ctx)
    (record : StoreResult WriteOp) (fault : Option Fault) :
    let staged := (liftM record >>= fun op => stage op fault : CtxMethod Unit) ctx
    let written := (liftM record >>= fun op =>
      CFOperations.write op fault : Method StoreError (Db cmps) Unit) seen
    staged.1 = written.1 ∧ Previews owner data written.2 staged.2 := by
  have native := previews.txn.write record fault
  cases record with
  | error e => exact ⟨rfl, previews⟩
  | ok op => exact ⟨native.1, previews.store, previews.running, native.2⟩

theorem readIn_served {A : Type} (previews : Previews owner data seen ctx)
    (cfName : String) (fault : Option Fault) (call : PairedRead A) :
    (readIn data fault cfName call ctx).1 =
      (owner.db.everyFamily.read cfName seen fault call.keyBytes >>=
        call.decode) := by
  have found := previews.txn.read owner.db ⟨cfName, call.keyBytes⟩ fault
    call.decode
  have borrowed : (readIn data fault cfName call ctx).1 =
      ((native (NativeTxn.get owner.db data ⟨cfName, call.keyBytes⟩ fault) >>=
        fun found => liftM (call.decode found) : TxnMethod A) ctx.txn).1 := by
    rw [readIn, Method.bind_apply, Method.bind_apply, read, onTxn, Method.zoom,
      previews.store]
    rcases native (NativeTxn.get owner.db data ⟨cfName, call.keyBytes⟩ fault)
      ctx.txn with ⟨e | found, after⟩ <;> rfl
  rw [borrowed, found.1, CfAccess.read, DbHandle.everyFamily_family]
  rfl

theorem iterate_served {K S T OutK OutV : Type} [AsBytes K]
    (previews : Previews owner data seen ctx)
    (config : IterConfig K S T OutK OutV)
    (served : owner.access.family config.cfName = .ok config.cfName)
    (fault : Option Fault) :
    (iterate data fault config ctx).1 =
      CFOperations.iterate owner.db.everyFamily seen fault config := by
  obtain ⟨rfl, running, txn⟩ := previews
  rw [iterate_of_running running]
  apply (iterateWith_served served _ ctx.store.db).trans
  simp only [NativeTxn.iterator, txn.view]
  rfl

/-- A family that is served and is not the default one has a handle. -/
theorem getCfHandle_served {cfName : String}
    (served : owner.access.family cfName = .ok cfName)
    (named : cfName ≠ defaultColumnFamilyName) :
    owner.getCfHandle cfName = .ok cfName := by
  rw [CfAccess.family, if_neg named] at served
  exact served

/-- An optimistic context answers as the open database does that has the contents
its transaction sees. -/
theorem simulates (owner : RocksDbCFOptimisticTxnStore) (data : Db cmps) :
    (receiver data).Simulates owner.db.receiver
      (FamilyCall.Served owner.access)
      fun ctx seen => Previews owner data seen ctx := by
  intro A fault call ctx seen served previews
  have running := previews.running
  cases call with
  | write cfName call =>
      change owner.access.family cfName = .ok cfName at served
      have written := previews.write (call.record cfName) fault
      simp only [receiver]
      by_cases isDefault : cfName = defaultColumnFamilyName
      · subst isDefault
        rw [if_pos rfl, stagingCall_onDefault running]
        exact written
      · have handle := getCfHandle_served served isDefault
        rw [← previews.store] at handle
        rw [if_neg isDefault, stagingCall_onCf running handle]
        exact written
  | read cfName call =>
      change owner.access.family cfName = .ok cfName at served
      simp only [receiver]
      by_cases isDefault : cfName = defaultColumnFamilyName
      · subst isDefault
        rw [if_pos rfl]
        refine ⟨?_, previews.reads (reading_onlyReads data _ fault ctx)⟩
        rw [readingCall_onDefault data fault running]
        exact readIn_served previews _ fault call
      · have handle := getCfHandle_served served isDefault
        rw [← previews.store] at handle
        rw [if_neg isDefault]
        refine ⟨?_, previews.reads (reading_onlyReads data _ fault ctx)⟩
        rw [readingCall_onCf data fault running handle]
        exact readIn_served previews _ fault call
  | iterate keys config =>
      exact ⟨iterate_served previews config served fault,
        previews.reads (iterate_onlyReads config fault ctx)⟩
  | @findByPrefix K V keys decoder codec cfName prefixKey direction =>
      have searched := iterate_served previews
        (findByPrefixConfig (V := V) cfName prefixKey direction) served fault
      refine ⟨?_, previews.reads (iterate_onlyReads _ fault ctx)⟩
      exact congrArg (fun result => collectItems
        (.other "find_by_prefix: Expected DeserializedItems") result.1) searched
  | @findFrom K V S keys decoder codec cfName startKey direction controlFn
      captured =>
      have searched := iterate_served previews
        (findFromConfig (V := V) cfName startKey direction controlFn captured)
        served fault
      refine ⟨?_, previews.reads (iterate_onlyReads _ fault ctx)⟩
      exact congrArg (fun result => collectItems
        (.other "find_from: Expected DeserializedItems") result.1) searched
  | findFromWithExpireVal V keys decoder cfName start reverse controlFn captured =>
      have searched := iterate_served previews
        (findFromWithExpireValConfig (V := V) cfName start reverse controlFn
          captured) served fault
      refine ⟨?_, previews.reads (iterate_onlyReads _ fault ctx)⟩
      exact congrArg (fun result => collectItemsText
        "Expected DeserializedItems" result.1) searched

end OptimisticTransactionContext

end RockSolid
