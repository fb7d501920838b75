/-
Module: RockSolid.Semantics.ClientPrograms
Layer: Semantics
Purpose: Client programs over column families: any number of writes, reads and
  searches, each chosen by the answers to those before.  The same program can be
  run on a store, call by call, inside a transaction context of either kind, or
  as the closure of `execute_transaction` (src/tx/cf_tx_store.rs).
Trusted boundary: a statement of intent, but for `executeTransaction`, which is a
  human-reviewed model of the source
Main exports: FamilyCall, FamilyCall.Served, KeyCall, Store.Serves,
  Store.receiver, TransactionContext.receiver,
  OptimisticTransactionContext.receiver, RocksDbCFTxnStore.inTxnReceiver,
  RocksDbCFTxnStore.executeTransaction, atomically
-/
import RockSolid.Core.ExpirySearch
import RockSolid.Foundation.CallProgram
import RockSolid.Semantics.FamilyResolution

namespace RockSolid

open Foundation

/-- A call that names a column family, indexed by what it returns. -/
inductive FamilyCall : Type → Type 1 where
  | write (cfName : String) (call : WriteCall) : FamilyCall (StoreResult Unit)
  | read {A : Type} (cfName : String) (call : PairedRead A) :
      FamilyCall (StoreResult A)
  | iterate {K S T OutK OutV : Type} (keys : AsBytes K)
      (config : IterConfig K S T OutK OutV) :
      FamilyCall (StoreResult (IterationResult S T OutK OutV) × S)
  | findByPrefix {K V : Type} (keys : AsBytes K) (decoder : ByteDecodable K)
      (codec : DeserializeOwned V) (cfName : String) (prefixKey : K)
      (direction : Direction) : FamilyCall (StoreResult (List (K × V)))
  | findFrom {K V S : Type} (keys : AsBytes K) (decoder : ByteDecodable K)
      (codec : DeserializeOwned V) (cfName : String) (startKey : K)
      (direction : Direction) (controlFn : ControlFn S) (captured : S) :
      FamilyCall (StoreResult (List (K × V)))
  | findFromWithExpireVal {K S : Type} (V : Type) (keys : AsBytes K)
      (decoder : ByteDecodable K) (cfName : String) (start : K) (reverse : Bool)
      (controlFn : ControlFn S) (captured : S) :
      FamilyCall (Except String (List (K × ValueWithExpiry V)))

namespace FamilyCall

variable {A : Type}

/-- The family a call names. -/
def cfName : FamilyCall A → String
  | .write cfName _ | .read cfName _ => cfName
  | .iterate _ config => config.cfName
  | .findByPrefix _ _ _ cfName _ _ => cfName
  | .findFrom _ _ _ cfName _ _ _ _ => cfName
  | .findFromWithExpireVal _ _ _ cfName _ _ _ _ => cfName

/-- The call names a family that is open. -/
def Served (access : CfAccess) (A : Type) (call : FamilyCall A) : Prop :=
  access.family call.cfName = .ok call.cfName

end FamilyCall

/-- The calls on single keys: those that the closure of `execute_transaction` has
for its borrowed transaction. -/
inductive KeyCall : Type → Type 1 where
  | write (cfName : String) (call : WriteCall) : KeyCall (StoreResult Unit)
  | read {A : Type} (cfName : String) (call : PairedRead A) :
      KeyCall (StoreResult A)

def KeyCall.onFamily {A : Type} : KeyCall A → FamilyCall A
  | .write cfName call => .write cfName call
  | .read cfName call => .read cfName call

section Stores

variable {cmps : String → Comparator} {K V S T OutK OutV : Type} [AsBytes K]

/-- `iterate`, which the default-family stores pass on as it is. -/
def Store.iterate (store : Store) (data : Db cmps) (fault : Option Fault)
    (config : IterConfig K S T OutK OutV) :
    StoreResult (IterationResult S T OutK OutV) × S :=
  match store with
  | .cfStore store => CFOperations.iterate store.access data fault config
  | .cfTxnStore store => CFOperations.iterate store.access data fault config
  | .cfOptimisticTxnStore store =>
      CFOperations.iterate store.access data fault config
  | .defaultStore store =>
      CFOperations.iterate store.cfStore.access data fault config
  | .defaultTxnStore store =>
      CFOperations.iterate store.cfStore.access data fault config
  | .defaultOptimisticTxnStore store =>
      CFOperations.iterate store.cfStore.access data fault config

/-- `find_from_with_expire_val`. -/
def Store.findFromWithExpireVal [ByteDecodable K] (store : Store)
    (cfName : String) (data : Db cmps) (fault : Option Fault) (start : K)
    (reverse : Bool) (controlFn : ControlFn S) (captured : S) :
    Except String (List (K × ValueWithExpiry V)) :=
  match store with
  | .cfStore store =>
      store.findFromWithExpireVal data fault start reverse controlFn captured
        cfName
  | .cfTxnStore store =>
      store.findFromWithExpireVal data fault start reverse controlFn captured
        cfName
  | .cfOptimisticTxnStore store =>
      store.findFromWithExpireVal data fault start reverse controlFn captured
        cfName
  | .defaultStore store =>
      store.findFromWithExpireVal data fault start reverse controlFn captured
  | .defaultTxnStore store =>
      store.findFromWithExpireVal data fault start reverse controlFn captured
  | .defaultOptimisticTxnStore store =>
      store.findFromWithExpireVal data fault start reverse controlFn captured

/-- The store serves a family under the name the call gives. -/
def Store.Serves (store : Store) (A : Type) (call : FamilyCall A) : Prop :=
  store.asked call.cfName = call.cfName ∧ FamilyCall.Served store.access A call

end Stores

section Receivers

variable {cmps : String → Comparator}

/-- A store: every write is committed at once. -/
def Store.receiver (store : Store) :
    Receiver FamilyCall (Option Fault) (Db cmps) where
  answer fault call data :=
    match call with
    | .write cfName call => store.writeCall cfName fault call data
    | .read cfName call => (store.readCall cfName data fault call, data)
    | .iterate _ config => (store.iterate data fault config, data)
    | .findByPrefix _ _ _ cfName prefixKey direction =>
        (store.findByPrefix cfName data fault prefixKey direction, data)
    | .findFrom _ _ _ cfName startKey direction controlFn captured =>
        (store.findFrom cfName data fault startKey direction controlFn captured,
          data)
    | .findFromWithExpireVal _ _ _ cfName start reverse controlFn captured =>
        (store.findFromWithExpireVal cfName data fault start reverse controlFn
          captured, data)

/-- A pessimistic context over committed contents: the default-family methods for
the default family, the `_cf` methods for the others. -/
def TransactionContext.receiver (data : Db cmps) :
    Receiver FamilyCall (Option Fault) TransactionContext where
  answer fault call ctx :=
    match call with
    | .write cfName call =>
        if cfName = defaultColumnFamilyName then
          stagingCall fault call.onDefault ctx
        else stagingCall fault (call.onCf cfName) ctx
    | .read cfName call =>
        if cfName = defaultColumnFamilyName then
          readingCall data fault call.onDefault ctx
        else readingCall data fault (call.onCf cfName) ctx
    | .iterate _ config => iterate data fault config ctx
    | .findByPrefix _ _ _ cfName prefixKey direction =>
        findByPrefix data fault cfName prefixKey direction ctx
    | .findFrom _ _ _ cfName startKey direction controlFn captured =>
        findFrom data fault cfName startKey direction controlFn captured ctx
    | .findFromWithExpireVal _ _ _ cfName start reverse controlFn captured =>
        findFromWithExpireVal data fault cfName start reverse controlFn captured
          ctx

/-- An optimistic context over committed contents, used in the same way. -/
def OptimisticTransactionContext.receiver (data : Db cmps) :
    Receiver FamilyCall (Option Fault) OptimisticTransactionContext where
  answer fault call ctx :=
    match call with
    | .write cfName call =>
        if cfName = defaultColumnFamilyName then
          stagingCall fault call.onDefault ctx
        else stagingCall fault (call.onCf cfName) ctx
    | .read cfName call =>
        if cfName = defaultColumnFamilyName then
          readingCall data fault call.onDefault ctx
        else readingCall data fault (call.onCf cfName) ctx
    | .iterate _ config => iterate data fault config ctx
    | .findByPrefix _ _ _ cfName prefixKey direction =>
        findByPrefix data fault cfName prefixKey direction ctx
    | .findFrom _ _ _ cfName startKey direction controlFn captured =>
        findFrom data fault cfName startKey direction controlFn captured ctx
    | .findFromWithExpireVal _ _ _ cfName start reverse controlFn captured =>
        findFromWithExpireVal data fault cfName start reverse controlFn captured
          ctx

/-- A read through the `_in_txn` methods of the pessimistic store. -/
def RocksDbCFTxnStore.readInTxn {A : Type} (store : RocksDbCFTxnStore)
    (cfName : String) (data : Db cmps) (fault : Option Fault) :
    PairedRead A → TxnMethod A
  | .get _ _ key => store.getInTxn cfName key data fault
  | .getRaw _ key => store.getRawInTxn cfName key data fault
  | .getWithExpiry _ _ key => store.getWithExpiryInTxn cfName key data fault
  | .exists _ key => store.existsInTxn cfName key data fault

/-- The closure of `execute_transaction`, over committed contents. -/
def RocksDbCFTxnStore.inTxnReceiver (store : RocksDbCFTxnStore) (data : Db cmps) :
    Receiver KeyCall (Option Fault) NativeTxn where
  answer fault call txn :=
    match call with
    | .write cfName call => store.writeInTxn cfName fault call txn
    | .read cfName call => store.readInTxn cfName data fault call txn

/-- `execute_transaction`: the closure borrows the transaction and returns.  The
last component is the committed contents. -/
def RocksDbCFTxnStore.executeTransaction {Q : Type} (data : Db cmps)
    (operation : NativeTxn → StoreResult Q × NativeTxn) (fault : Option Fault) :
    StoreResult Q × NativeTxn × Db cmps :=
  let (result, txn) := operation beginTransaction
  finishTransaction data fault result txn

/-- What a transaction is meant to return and leave, when its closure has returned
a result and what it has done would leave the contents `seen`. -/
def atomically {Q σ : Type} (data seen : σ) (result : StoreResult Q)
    (fault : Option Fault) : StoreResult Q × σ :=
  match result, fault with
  | .ok value, none => (.ok value, seen)
  | .ok _, some refusal => (.error (.rocksDb refusal.error), data)
  | .error e, _ => (.error e, data)

end Receivers

end RockSolid
