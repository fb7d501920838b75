/-
Module: RockSolid.Semantics.StoreSessions
Layer: Semantics
Purpose: Client programs over the whole interface of a store: its family calls,
  the reads of many keys, the search with expiry by prefix, merges with expiry,
  range deletions, any number of batch writers in use at the same time, and
  transactions (src/cf_store.rs, src/store.rs, src/tx/macros.rs, src/batch.rs,
  src/tx/context.rs, src/tx/optimistic_context.rs, src/tx/cf_tx_store.rs).  And the
  ordered maps that such programs are meant to work on.
Trusted boundary: a statement of intent
Main exports: StoreCall, StoreCall.cfName, WriterEnd, ContextEnd, Met, Session,
  Session.mergedBetween, Store.deleteRange, Store.batchWriter, Store.inContext,
  Store.executeTransaction, Store.sessionReceiver, StoreKind, Pending, MapSession,
  FamilyMaps.applyBatch, FamilyMaps.readEach, FamilyMaps.inContext,
  FamilyMaps.executeTransaction, FamilyMaps.sessionReceiver, Store.ServesCall
-/
import RockSolid.Core.DeleteRange
import RockSolid.Semantics.MergeOperands
import RockSolid.Semantics.OrderedMaps
import RockSolid.Semantics.VisitedSearch

namespace RockSolid

open Foundation

/-- How the owner of a batch writer ends it. -/
inductive WriterEnd where
  | commit
  | discard
  | drop
deriving DecidableEq, Repr

/-- The ending, when the engine refuses a commit with the fault. -/
def WriterEnd.ending (fault : Option Fault) : WriterEnd → BatchEnding
  | .commit => .commit fault
  | .discard => .discard
  | .drop => .drop

/-- How the owner of a transaction context ends it. -/
inductive ContextEnd where
  | commit
  | rollback
  | drop
deriving DecidableEq, Repr

namespace ContextEnd

/-- The ending, when the engine refuses it with the fault. -/
def ending (fault : Option Fault) : ContextEnd → Ending
  | .commit => .commit fault
  | .rollback => .rollback fault
  | .drop => .drop

/-- What the ending is meant to return and leave, when the calls before it would
leave `after`. -/
def closes {σ : Type} (before after : σ) (fault : Option Fault) :
    ContextEnd → Option (StoreResult Unit) × σ
  | .commit => (some (atomically before after (.ok ()) fault).1,
      (atomically before after (.ok ()) fault).2)
  | .rollback =>
      (some (fault.elim (.ok ()) fun fault => .error (.rocksDb fault.error)),
        before)
  | .drop => (none, before)

end ContextEnd

/-- A call of a client, indexed by what it returns.  Batch writers are numbered in
the order they were made; a transaction is one call, with all that is done in it. -/
inductive StoreCall : Type → Type 1 where
  | family {A : Type} (call : FamilyCall A) : StoreCall A
  | multiget {K V : Type} (keys : AsBytes K) (codec : DeserializeOwned V)
      (cfName : String) (ids : List K) : StoreCall (StoreResult (List (Option V)))
  | multigetRaw {K : Type} (keys : AsBytes K) (cfName : String) (ids : List K) :
      StoreCall (StoreResult (List (Option Bytes)))
  | multigetWithExpiry {K : Type} (V : Type) (keys : AsBytes K) (cfName : String)
      (ids : List K) : StoreCall (StoreResult (List (Option (ValueWithExpiry V))))
  | findByPrefixWithExpireVal {K S : Type} (V : Type) (keys : AsBytes K)
      (decoder : ByteDecodable K) (cfName : String) (prefixKey : K)
      (reverse : Bool) (controlFn : ControlFn S) (captured : S) :
      StoreCall (Except String (List (K × ValueWithExpiry V)) × S)
  | mergeWithExpiry {K V : Type} (keys : AsBytes K) (codec : Serialize V)
      (cfName : String) (key : K) (value : V) (expireTime : UInt64) :
      StoreCall (StoreResult Unit)
  | deleteRange {K : Type} (keys : AsBytes K) (cfName : String)
      (startKey endKey : K) : StoreCall (StoreResult Unit)
  | batchWriter (cfName : String) : StoreCall (Option Nat)
  | stage (writer : Nat) (call : BatchCall) : StoreCall (Option (StoreResult Unit))
  | finish (writer : Nat) (ending : WriterEnd) :
      StoreCall (Option (Option (StoreResult Unit)))
  | inContext {Q : Type} (blind : Bool) (program : Program FamilyCall Q)
      (ending : ContextEnd) : StoreCall (Option (Q × Option (StoreResult Unit)))
  | executeTransaction {Q : Type} (operation : Program KeyCall (StoreResult Q)) :
      StoreCall (Option (StoreResult Q))

/-- The family a call names, if it names one. -/
def StoreCall.cfName {A : Type} : StoreCall A → Option String
  | .family call => some call.cfName
  | .multiget _ _ cfName _ | .multigetRaw _ cfName _
  | .multigetWithExpiry _ _ cfName _
  | .findByPrefixWithExpireVal _ _ _ cfName _ _ _ _
  | .mergeWithExpiry _ _ cfName _ _ _ | .deleteRange _ cfName _ _
  | .batchWriter cfName => some cfName
  | .stage _ _ | .finish _ _ | .inContext _ _ _ | .executeTransaction _ => none

section Closing

variable {cmps : String → Comparator}

/-- What the ending of a context returns, and the contents after it; the `Drop` that
follows changes none. -/
def TransactionContext.close (data : Db cmps) (ending : Ending)
    (self : TransactionContext) : Option (StoreResult Unit) × Db cmps :=
  match ending with
  | .commit fault =>
      let (result, _, data) := self.commit data fault
      (some result, data)
  | .rollback fault => (some (rollback fault self).1, data)
  | .drop => (none, data)

/-- The same for an optimistic context. -/
def OptimisticTransactionContext.close (data : Db cmps) (ending : Ending)
    (self : OptimisticTransactionContext) :
    Option (StoreResult Unit) × Db cmps :=
  match ending with
  | .commit fault =>
      let (result, _, data) := self.commit data fault
      (some result, data)
  | .rollback fault => (some (rollback fault self).1, data)
  | .drop => (none, data)

end Closing

/-- What a call meets in the engine: a failure of the call, which for a transaction
is that of its ending; for a read of many keys a failure of each; for a transaction
what its calls meet, and the position of the commit history it begins at. -/
structure Met where
  fault : Option Fault
  keyFaults : Bytes → Option Fault
  inside : Stream' (Option Fault)
  position : Nat

/-- The contents and the writers made so far; a writer that has ended is gone. -/
structure Session (cmps : String → Comparator) where
  data : Db cmps
  writers : List (Option BatchWriter)

/-- What the engine may do before each call of a client leaves the writers alone. -/
def Session.mergedBetween (fullMerge partialMerge : String → MergeFn)
    (work : List BackgroundMerge) (session : Session fun _ => compare) :
    Session fun _ => compare :=
  { session with
    data := RockSolid.mergedBetween fullMerge partialMerge work session.data }

namespace Store

variable {cmps : String → Comparator} {K : Type} [AsBytes K]

/-- `delete_range`. -/
def deleteRange (store : Store) (cfName : String) (startKey endKey : K)
    (fault : Option Fault) : Method StoreError (Db cmps) Unit :=
  match store with
  | .cfStore store => store.deleteRange cfName startKey endKey fault
  | .cfTxnStore _ | .cfOptimisticTxnStore _ =>
      TransactionalStore.deleteRange cfName startKey endKey
  | .defaultStore store => store.deleteRange startKey endKey fault
  | .defaultTxnStore store => store.deleteRange startKey endKey
  | .defaultOptimisticTxnStore store => store.deleteRange startKey endKey

/-- `batch_writer`, which the transactional stores do not have. -/
def batchWriter (cfName : String) : Store → Option BatchWriter
  | .cfStore store => some (store.batchWriter cfName)
  | .defaultStore store => some store.batchWriter
  | _ => none

/-- A program in a fresh transaction context to its end, when the store has such
contexts.  Of the pessimistic stores only `RocksDbTxnStore` has a method
`transaction_context`; it calls `TransactionContext::new` on the
`RocksDbCFTxnStore` it wraps.  The case of `RocksDbCFTxnStore` is that constructor,
which is not public: it stands for a `RocksDbTxnStore` around the store. -/
def inContext {Q : Type} (store : Store) (blind : Bool)
    (program : Program FamilyCall Q) (ending : ContextEnd) (met : Met)
    (data : Db cmps) : Option ((Q × Option (StoreResult Unit)) × Db cmps) :=
  let pessimistic (owner : RocksDbCFTxnStore) :=
    let (result, ctx) :=
      program.run (TransactionContext.receiver data) met.inside (.new owner)
    let (returned, data) := ctx.close data (ending.ending met.fault)
    ((result, returned), data)
  let optimistic (owner : RocksDbCFOptimisticTxnStore) :=
    let ctx := if blind then owner.blindTransactionContext met.position
      else owner.transactionContext met.position
    let (result, ctx) :=
      program.run (OptimisticTransactionContext.receiver data) met.inside ctx
    let (returned, data) := ctx.close data (ending.ending met.fault)
    ((result, returned), data)
  match store with
  | .cfTxnStore owner => if blind then none else some (pessimistic owner)
  | .defaultTxnStore store =>
      if blind then none else some (pessimistic store.cfStore)
  | .cfOptimisticTxnStore owner => some (optimistic owner)
  | .defaultOptimisticTxnStore store => some (optimistic store.cfStore)
  | .cfStore _ | .defaultStore _ => none

/-- `execute_transaction`, which the pessimistic stores have. -/
def executeTransaction {Q : Type} (store : Store)
    (operation : Program KeyCall (StoreResult Q)) (met : Met) (data : Db cmps) :
    Option (StoreResult Q × Db cmps) :=
  let execute (owner : RocksDbCFTxnStore) :=
    let (result, _, data) := RocksDbCFTxnStore.executeTransaction data
      (operation.run (owner.inTxnReceiver data) met.inside) met.fault
    (result, data)
  match store with
  | .cfTxnStore owner => some (execute owner)
  | .defaultTxnStore store => some (execute store.cfStore)
  | _ => none

/-- A store with its batch writers and its transactions. -/
def sessionReceiver (store : Store) : Receiver StoreCall Met (Session cmps) where
  answer met call session :=
    match call with
    | .family call =>
        let (answer, data) := store.receiver.answer met.fault call session.data
        (answer, { session with data })
    | .multiget _ _ cfName ids =>
        (store.multiget cfName ids session.data met.keyFaults, session)
    | .multigetRaw _ cfName ids =>
        (store.multigetRaw cfName ids session.data met.keyFaults, session)
    | .multigetWithExpiry _ _ cfName ids =>
        (store.multigetWithExpiry cfName ids session.data met.keyFaults, session)
    | .findByPrefixWithExpireVal _ _ _ cfName prefixKey reverse controlFn
        captured =>
        (store.findByPrefixWithExpireVal cfName prefixKey reverse controlFn
          captured session.data met.fault, session)
    | .mergeWithExpiry _ _ cfName key value expireTime =>
        let (result, data) :=
          store.mergeWithExpiry cfName key value expireTime met.fault session.data
        (result, { session with data })
    | .deleteRange _ cfName startKey endKey =>
        let (result, data) :=
          store.deleteRange cfName startKey endKey met.fault session.data
        (result, { session with data })
    | .batchWriter cfName =>
        match store.batchWriter cfName with
        | some writer =>
            (some session.writers.length,
              { session with writers := session.writers ++ [some writer] })
        | none => (none, session)
    | .stage number call =>
        match session.writers[number]?.join with
        | some writer =>
            let (result, writer) := BatchWriter.stagingCall call writer
            (some result, { session with
              writers := session.writers.set number (some writer) })
        | none => (none, session)
    | .finish number ending =>
        match session.writers[number]?.join with
        | some writer =>
            let (returned, _, data) :=
              writer.finish session.data (ending.ending met.fault)
            (some returned, { data, writers := session.writers.set number none })
        | none => (none, session)
    | .inContext blind program ending =>
        match store.inContext blind program ending met session.data with
        | some (answer, data) => (some answer, { session with data })
        | none => (none, session)
    | .executeTransaction operation =>
        match store.executeTransaction operation met session.data with
        | some (result, data) => (some result, { session with data })
        | none => (none, session)

end Store

/-- What kind of transactions a store has. -/
inductive StoreKind where
  | plain
  | pessimistic
  | optimistic
deriving DecidableEq, Repr

def Store.kind : Store → StoreKind
  | .cfStore _ | .defaultStore _ => .plain
  | .cfTxnStore _ | .defaultTxnStore _ => .pessimistic
  | .cfOptimisticTxnStore _ | .defaultOptimisticTxnStore _ => .optimistic

/-- Whether a store has transaction contexts, blind ones or others. -/
def StoreKind.hasContexts (blind : Bool) : StoreKind → Bool
  | .plain => false
  | .pessimistic => !blind
  | .optimistic => true

/-- The operand that a merge with expiry asks for. -/
def expiringMerge {K V : Type} [AsBytes K] [Serialize V] (cfName : String)
    (key : K) (value : V) (expireTime : UInt64) : StoreResult WriteOp :=
  (serializeValue value).map fun bytes =>
    .merge ⟨cfName, AsBytes.asBytes key⟩ (toBeBytes expireTime ++ bytes)

/-- What a batch writer is for: a family, and the operations to be done to it. -/
structure Pending where
  cfName : String
  batch : WriteBatch

/-- Ordered maps, and the writers made so far. -/
structure MapSession where
  maps : FamilyMaps
  writers : List (Option Pending)

namespace FamilyMaps

/-- The maps after one operation of a batch. -/
def applyOp (maps : FamilyMaps) (fullMerge : String → MergeFn) :
    BatchOp → FamilyMaps
  | .write op => maps.write fullMerge op
  | .deleteRange cf startKey endKey =>
      Function.update maps cf
        (restrict (maps cf) fun key => !inRange compare startKey endKey key)

/-- The maps after all of them. -/
def applyBatch (maps : FamilyMaps) (fullMerge : String → MergeFn)
    (batch : WriteBatch) : FamilyMaps :=
  batch.foldl (applyOp · fullMerge) maps

/-- The maps after a batch that the engine may refuse. -/
def commit (maps : FamilyMaps) (fullMerge : String → MergeFn)
    (batch : WriteBatch) (fault : Option Fault) :
    StoreResult Unit × FamilyMaps :=
  match fault with
  | none => (.ok (), maps.applyBatch fullMerge batch)
  | some fault => (.error (.rocksDb fault.error), maps)

/-- What reads of many keys find, each of which may fail by itself. -/
def readEach (maps : FamilyMaps) (cfName : String) {K : Type} [AsBytes K]
    (ids : List K) (keyFaults : Bytes → Option Fault) :
    List (Except RocksError (Option Bytes)) :=
  ids.map fun key => orFault (keyFaults (AsBytes.asBytes key))
    (maps.read ⟨cfName, AsBytes.asBytes key⟩)

end FamilyMaps

section Transactions

variable {Q : Type}

/-- A transaction on ordered maps: its program, and then all of its changes or none
of them. -/
def FamilyMaps.inContext (maps : FamilyMaps) (fullMerge : String → MergeFn)
    (program : Program FamilyCall Q) (ending : ContextEnd) (met : Met) :
    (Q × Option (StoreResult Unit)) × FamilyMaps :=
  let ran := program.run (FamilyMaps.receiver fullMerge) met.inside maps
  let closed := ending.closes maps ran.2 met.fault
  ((ran.1, closed.1), closed.2)

/-- And one whose program decides by its result how it ends. -/
def FamilyMaps.executeTransaction (maps : FamilyMaps)
    (fullMerge : String → MergeFn) (operation : Program KeyCall (StoreResult Q))
    (met : Met) : StoreResult Q × FamilyMaps :=
  let ran := operation.run
    ((FamilyMaps.receiver fullMerge).along fun _ => KeyCall.onFamily) met.inside
    maps
  atomically maps ran.2 ran.1 met.fault

end Transactions

/-- Ordered maps with batch writers and range deletions, which only a plain store
has, or with transactions. -/
def FamilyMaps.sessionReceiver (fullMerge : String → MergeFn)
    (kind : StoreKind) : Receiver StoreCall Met MapSession where
  answer met call session :=
    let commit (batch : WriteBatch) : StoreResult Unit × MapSession :=
      let (result, maps) := session.maps.commit fullMerge batch met.fault
      (result, { session with maps })
    match call with
    | .family call =>
        let (answer, maps) :=
          (FamilyMaps.receiver fullMerge).answer met.fault call session.maps
        (answer, { session with maps })
    | .multiget (V := V) _ _ cfName ids =>
        ((session.maps.readEach cfName ids met.keyFaults).mapM
          (decodeMultiGetResult (V := V)), session)
    | .multigetRaw _ cfName ids =>
        ((session.maps.readEach cfName ids met.keyFaults).mapM
          (·.mapError .rocksDb), session)
    | .multigetWithExpiry V _ cfName ids =>
        ((session.maps.readEach cfName ids met.keyFaults).mapM
          (·.mapError .rocksDb) >>= fun found =>
            found.mapM (decodeOptional (ValueWithExpiry.fromSlice (V := V))),
          session)
    | .findByPrefixWithExpireVal _ _ _ cfName prefixKey reverse controlFn
        captured =>
        (collectItemsTextRest "Expected DeserializedItems"
          (session.maps.iterate met.fault
            (findByPrefixWithExpireValConfig cfName prefixKey reverse controlFn
              captured)), session)
    | .mergeWithExpiry _ _ cfName key value expireTime =>
        let (result, maps) := session.maps.writeRecord fullMerge
          (expiringMerge cfName key value expireTime) met.fault
        (result, { session with maps })
    | .deleteRange _ cfName startKey endKey =>
        if kind = .plain then
          commit [.deleteRange cfName (AsBytes.asBytes startKey)
            (AsBytes.asBytes endKey)]
        else
          (.error (.other
            "delete_range is not supported on a transactional store"), session)
    | .batchWriter cfName =>
        if kind = .plain then
          (some session.writers.length,
            { session with writers := session.writers ++ [some ⟨cfName, []⟩] })
        else (none, session)
    | .stage number call =>
        match session.writers[number]?.join with
        | some pending =>
            match call.operation pending.cfName with
            | .ok op => (some (.ok ()), { session with
                writers := session.writers.set number
                  (some { pending with batch := pending.batch ++ [op] }) })
            | .error e => (some (.error e), session)
        | none => (none, session)
    | .finish number ending =>
        match session.writers[number]?.join with
        | some pending =>
            let ended := { session with
              writers := session.writers.set number none }
            match ending with
            | .commit =>
                let (result, maps) :=
                  session.maps.commit fullMerge pending.batch met.fault
                (some (some result), { ended with maps })
            | .discard | .drop => (some none, ended)
        | none => (none, session)
    | .inContext blind program ending =>
        if kind.hasContexts blind then
          let (answer, maps) :=
            session.maps.inContext fullMerge program ending met
          (some answer, { session with maps })
        else (none, session)
    | .executeTransaction operation =>
        if kind = .pessimistic then
          let (result, maps) :=
            session.maps.executeTransaction fullMerge operation met
          (some result, { session with maps })
        else (none, session)

/-- The store serves the family a call names under that name, if it names one, and
the families that are named in a transaction. -/
def Store.ServesCall (store : Store) (A : Type) (call : StoreCall A) : Prop :=
  match call with
  | .inContext _ program _ => program.Only (FamilyCall.Served store.access)
  | .executeTransaction operation =>
      operation.Only fun _ call =>
        FamilyCall.Served store.access _ call.onFamily
  | call => ∀ cfName ∈ call.cfName,
      store.asked cfName = cfName ∧ store.access.family cfName = .ok cfName

end RockSolid
