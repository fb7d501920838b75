/-
Module: RockSolid.Semantics.WriteHistory
Layer: Semantics
Purpose: Sequences of write sessions through any mix of paths: single calls on a
  store, batches, transactions and contexts, each free to fail at every call and
  at its commit.  The paths through which a key can be read afterwards, in the
  stores and inside a transaction, and what a read finds.
Trusted boundary: a statement of intent
Main exports: WriteSession, WriteSession.perform, WriteSession.committed,
  performAll, committedAll, RoundTrips, LastWrite, ReadPath, ReadPath.Accepts,
  ReadPath.Finds
-/
import RockSolid.Semantics.WritePaths

namespace RockSolid

open Foundation

/-- A write inside a borrowed transaction: through the store's methods, or through
the free functions. -/
inductive TxnCall : Type 1 where
  | inTxn (owner : RocksDbCFTxnStore) (cfName : String) (fault : Option Fault)
      (call : WriteCall)
  | merge {K P : Type} (keys : AsBytes K) (codec : Serialize (MergeValue P))
      (fault : Option Fault) (key : K) (mergeValue : MergeValue P)
  | remove {K : Type} (keys : AsBytes K) (fault : Option Fault) (key : K)

namespace TxnCall

def perform : TxnCall → TxnMethod Unit
  | .inTxn owner cfName fault call => owner.writeInTxn cfName fault call
  | .merge _ _ fault key mergeValue => Tx.mergeInTxn key fault mergeValue
  | .remove _ fault key => Tx.removeInTxn key fault

def record : TxnCall → StoreResult WriteOp
  | .inTxn _ cfName _ call => call.record cfName
  | .merge keys codec _ key mergeValue =>
      (WriteCall.merge keys codec key mergeValue).record defaultColumnFamilyName
  | .remove keys _ key =>
      (WriteCall.delete keys key).record defaultColumnFamilyName

end TxnCall

/-- A write on a context: a default-family method, or a `_cf` method with its
family. -/
structure ContextWrite : Type 1 where
  cfName : Option String
  fault : Option Fault
  call : WriteCall

namespace ContextWrite

def staging (write : ContextWrite) : StagingCall :=
  match write.cfName with
  | none => write.call.onDefault
  | some cfName => write.call.onCf cfName

def record (write : ContextWrite) : StoreResult WriteOp :=
  write.call.record (write.cfName.getD defaultColumnFamilyName)

/-- On a pessimistic context. -/
def onContext (write : ContextWrite) : TransactionContext.CtxMethod Unit :=
  TransactionContext.stagingCall write.fault write.staging

/-- On an optimistic context. -/
def onOptimistic (write : ContextWrite) :
    OptimisticTransactionContext.CtxMethod Unit :=
  OptimisticTransactionContext.stagingCall write.fault write.staging

end ContextWrite

/-- One call on a store, or a sequence of staging calls with the commit after
it. -/
inductive WriteSession : Type 1 where
  | single (store : Store) (cfName : String) (fault : Option Fault)
      (call : WriteCall)
  | batch (store : RocksDbCFStore) (cfName : String) (calls : List WriteCall)
      (fault : Option Fault)
  | transaction (calls : List TxnCall) (fault : Option Fault)
  | context (store : RocksDbCFTxnStore) (calls : List ContextWrite)
      (fault : Option Fault)
  | optimisticContext (store : RocksDbCFOptimisticTxnStore)
      (withSnapshot : Bool) (position : Nat) (calls : List ContextWrite)
      (fault : Option Fault)

namespace WriteSession

variable {cmps : String → Comparator}

/-- What the call or the commit returns, and the contents after it. -/
def perform (data : Db cmps) : WriteSession → StoreResult Unit × Db cmps
  | .single store cfName fault call => store.writeCall cfName fault call data
  | .batch store cfName calls fault =>
      let writer :=
        runCalls BatchWriter.writeCall (store.batchWriter cfName) calls
      let (result, _, data) := writer.commit data fault
      (result, data)
  | .transaction calls fault =>
      let txn :=
        runCalls TxnCall.perform RocksDbCFTxnStore.beginTransaction calls
      let (result, _, data) := Tx.commitTransaction data fault txn
      (result, data)
  | .context store calls fault =>
      let context :=
        runCalls ContextWrite.onContext (TransactionContext.new store) calls
      let (result, _, data) := context.commit data fault
      (result, data)
  | .optimisticContext store withSnapshot position calls fault =>
      let context := runCalls ContextWrite.onOptimistic
        (OptimisticTransactionContext.new store withSnapshot position) calls
      let (result, _, data) := context.commit data fault
      (result, data)

/-- The records asked for by the calls of the session that return `Ok`. -/
def asked (data : Db cmps) : WriteSession → List WriteOp
  | .single store cfName fault call =>
      acceptedBy (store.writeCall cfName fault)
        (WriteCall.record (store.asked cfName)) data call
  | .batch store cfName calls _ =>
      accepted BatchWriter.writeCall (WriteCall.record cfName)
        (store.batchWriter cfName) calls
  | .transaction calls _ =>
      accepted TxnCall.perform TxnCall.record
        RocksDbCFTxnStore.beginTransaction calls
  | .context store calls _ =>
      accepted ContextWrite.onContext ContextWrite.record
        (TransactionContext.new store) calls
  | .optimisticContext store withSnapshot position calls _ =>
      accepted ContextWrite.onOptimistic ContextWrite.record
        (OptimisticTransactionContext.new store withSnapshot position) calls

/-- The same, when the session commits. -/
def committed (data : Db cmps) (session : WriteSession) : List WriteOp :=
  match (session.perform data).1 with
  | .ok _ => session.asked data
  | .error _ => []

end WriteSession

section Histories

variable {cmps : String → Comparator}

/-- The contents after a sequence of sessions. -/
def performAll (data : Db cmps) (sessions : List WriteSession) : Db cmps :=
  sessions.foldl (fun data session => (session.perform data).2) data

/-- The records committed by a sequence of sessions, in order. -/
def committedAll : Db cmps → List WriteSession → List WriteOp
  | _, [] => []
  | data, session :: rest =>
      session.committed data ++ committedAll (session.perform data).2 rest

end Histories

/-- What reads find under a key after a put or a delete of it. -/
def WriteOp.content : WriteOp → Option (Option Bytes)
  | .put _ value => some (some value)
  | .delete _ => some none
  | .merge _ _ => none

/-- The codec of a type decodes what it encodes. -/
def RoundTrips (V : Type) [Serialize V] [DeserializeOwned V] : Prop :=
  ∀ (val : V) (bytes : Bytes), Serialize.serialize val = .ok bytes →
    DeserializeOwned.deserialize bytes = .ok val

/-- The last write of a sequence to a key, as the comparator of its family
understands the key. -/
def LastWrite (cmps : String → Comparator) (ops : List WriteOp) (at_ : CfKey)
    (op : WriteOp) : Prop :=
  ∃ before after, ops = before ++ op :: after ∧ SameKey cmps op.target at_ ∧
    ∀ later ∈ after, ¬ SameKey cmps later.target at_

/-- A path of the crate to the engine's read calls. -/
inductive ReadPath where
  | store (kind : Store)
  | inTxn (owner : RocksDbCFTxnStore) (txn : NativeTxn)
  | txModule (db : DbHandle) (txn : NativeTxn)
  | context (receiver : TransactionContext)
  | contextCf (receiver : TransactionContext)
  | optimisticContext (receiver : OptimisticTransactionContext)
  | optimisticContextCf (receiver : OptimisticTransactionContext)

namespace ReadPath

/-- The writes of its own that a path sees above the committed contents. -/
def staged : ReadPath → List WriteOp
  | .store _ => []
  | .inTxn _ txn | .txModule _ txn => txn.staged
  | .context receiver | .contextCf receiver => receiver.txn.staged
  | .optimisticContext receiver | .optimisticContextCf receiver =>
      receiver.txn.staged

/-- The open database a path reads. -/
def db : ReadPath → DbHandle
  | .store kind => kind.access.db
  | .inTxn owner _ => owner.db
  | .txModule db _ => db
  | .context receiver | .contextCf receiver => receiver.store.db
  | .optimisticContext receiver | .optimisticContextCf receiver =>
      receiver.store.db

/-- A path accepts a family: it is open, or the default one where the path is
about no other, and a context has not ended. -/
def Accepts (cf : String) : ReadPath → Prop
  | .store kind => kind.asked cf = cf ∧ kind.Opens cf
  | .inTxn owner _ => owner.access.family cf = .ok cf
  | .txModule _ _ => cf = defaultColumnFamilyName
  | .context receiver =>
      cf = defaultColumnFamilyName ∧ receiver.completed = false
  | .contextCf receiver =>
      receiver.store.access.family cf = .ok cf ∧ receiver.completed = false
  | .optimisticContext receiver =>
      cf = defaultColumnFamilyName ∧ receiver.completed = false
  | .optimisticContextCf receiver =>
      receiver.store.getCfHandle cf = .ok cf ∧ receiver.completed = false

section Reads

variable {cmps : String → Comparator} {K V : Type} [AsBytes K]
  (cfName : String) (key : K) (data : Db cmps)

/-- `get`, `get_in_txn`, `get_cf`. -/
def get [DeserializeOwned V] : ReadPath → StoreResult (Option V)
  | .store kind => kind.get cfName key data none
  | .inTxn owner txn => (owner.getInTxn cfName key data none txn).1
  | .txModule db txn => (Tx.getInTxn key none db data txn).1
  | .context receiver => (TransactionContext.get key data none receiver).1
  | .contextCf receiver =>
      (TransactionContext.getCf key data none cfName receiver).1
  | .optimisticContext receiver =>
      (OptimisticTransactionContext.get key data none receiver).1
  | .optimisticContextCf receiver =>
      (OptimisticTransactionContext.getCf key data none cfName receiver).1

/-- `get_raw`, `get_raw_in_txn`, `get_cf_raw`. -/
def getRaw : ReadPath → Option (StoreResult (Option Bytes))
  | .store kind => some (kind.getRaw cfName key data none)
  | .inTxn owner txn => some (owner.getRawInTxn cfName key data none txn).1
  | .txModule _ _ => none
  | .context receiver =>
      some (TransactionContext.getRaw key data none receiver).1
  | .contextCf receiver =>
      some (TransactionContext.getCfRaw key data none cfName receiver).1
  | .optimisticContext receiver =>
      some (OptimisticTransactionContext.getRaw key data none receiver).1
  | .optimisticContextCf receiver =>
      some (OptimisticTransactionContext.getCfRaw key data none cfName receiver).1

/-- `get_with_expiry`, `get_with_expiry_in_txn`, `get_cf_with_expiry`. -/
def getWithExpiry (V : Type) :
    ReadPath → Option (StoreResult (Option (ValueWithExpiry V)))
  | .store kind => some (kind.getWithExpiry cfName key data none)
  | .inTxn owner txn =>
      some (owner.getWithExpiryInTxn cfName key data none txn).1
  | .txModule _ _ => none
  | .context receiver =>
      some (TransactionContext.getWithExpiry key data none receiver).1
  | .contextCf receiver =>
      some (TransactionContext.getCfWithExpiry key data none cfName receiver).1
  | .optimisticContext receiver =>
      some (OptimisticTransactionContext.getWithExpiry key data none receiver).1
  | .optimisticContextCf receiver =>
      some (OptimisticTransactionContext.getCfWithExpiry key data none cfName
        receiver).1

/-- `exists`, `exists_in_txn`, `exists_cf`. -/
def «exists» : ReadPath → Option (StoreResult Bool)
  | .store kind => some (kind.exists cfName key data none)
  | .inTxn owner txn => some (owner.existsInTxn cfName key data none txn).1
  | .txModule _ _ => none
  | .context receiver =>
      some (TransactionContext.exists key data none receiver).1
  | .contextCf receiver =>
      some (TransactionContext.existsCf key data none cfName receiver).1
  | .optimisticContext receiver =>
      some (OptimisticTransactionContext.exists key data none receiver).1
  | .optimisticContextCf receiver =>
      some (OptimisticTransactionContext.existsCf key data none cfName receiver).1

/-- Every read of a key that the path offers finds this content. -/
structure Finds (path : ReadPath) (content : Option Bytes) : Prop where
  get : ∀ (V : Type) [DeserializeOwned V],
    path.get cfName key data = decodeOptional (deserializeValue (V := V)) content
  getRaw : ∀ result ∈ path.getRaw cfName key data, result = .ok content
  getWithExpiry : ∀ (V : Type),
    ∀ result ∈ path.getWithExpiry cfName key data V,
      result = decodeOptional ValueWithExpiry.fromSlice content
  present : ∀ result ∈ path.exists cfName key data,
    result = .ok content.isSome

end Reads

end ReadPath

end RockSolid
