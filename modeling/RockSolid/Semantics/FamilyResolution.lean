/-
Module: RockSolid.Semantics.FamilyResolution
Layer: Semantics
Purpose: The operations that a context has in two forms, for the default column
  family and for a named one, and that a store has as well; and what it means that
  the `_cf` form finds families as the store does.
Trusted boundary: a statement of intent
Main exports: PairedRead, PairedRead.keyBytes, PairedRead.decode, PairedCall,
  failsUnknownCf, ResolvesAsStore, PairedCall.ResolvesWhen
-/
import RockSolid.Semantics.WritePaths

namespace RockSolid

open Foundation

/-- The reads that have both forms, indexed by what they return. -/
inductive PairedRead : Type → Type 1 where
  | get {K V : Type} (keys : AsBytes K) (codec : DeserializeOwned V) (key : K) :
      PairedRead (Option V)
  | getRaw {K : Type} (keys : AsBytes K) (key : K) : PairedRead (Option Bytes)
  | getWithExpiry {K : Type} (V : Type) (keys : AsBytes K) (key : K) :
      PairedRead (Option (ValueWithExpiry V))
  | exists {K : Type} (keys : AsBytes K) (key : K) : PairedRead Bool

namespace PairedRead

variable {A : Type}

def onDefault : PairedRead A → ReadingCall (StoreResult A)
  | .get keys codec key => .get keys codec key
  | .getRaw keys key => .getRaw keys key
  | .getWithExpiry V keys key => .getWithExpiry V keys key
  | .exists keys key => .exists keys key

def onCf (cfName : String) : PairedRead A → ReadingCall (StoreResult A)
  | .get keys codec key => .getCf keys codec cfName key
  | .getRaw keys key => .getCfRaw keys cfName key
  | .getWithExpiry V keys key => .getCfWithExpiry V keys cfName key
  | .exists keys key => .existsCf keys cfName key

/-- The key a read asks for. -/
def keyBytes : PairedRead A → Bytes
  | .get _ _ key => AsBytes.asBytes key
  | .getRaw _ key => AsBytes.asBytes key
  | .getWithExpiry _ _ key => AsBytes.asBytes key
  | .exists _ key => AsBytes.asBytes key

/-- What a read makes of the bytes that it has found. -/
def decode : PairedRead A → Option Bytes → StoreResult A
  | .get (V := V) _ _ _ => decodeOptional (deserializeValue (V := V))
  | .getRaw _ _ => .ok
  | .getWithExpiry V _ _ => decodeOptional (ValueWithExpiry.fromSlice (V := V))
  | .exists _ _ => fun found => .ok found.isSome

end PairedRead

/-- A write or a read that has both forms. -/
inductive PairedCall : Type → Type 1 where
  | write (call : WriteCall) : PairedCall Unit
  | read {A : Type} (call : PairedRead A) : PairedCall A

variable {cmps : String → Comparator} {A : Type}

/-- A read on a store. -/
def Store.readCall (store : Store) (cfName : String) (data : Db cmps)
    (fault : Option Fault) : PairedRead A → StoreResult A
  | .get _ _ key => store.get cfName key data fault
  | .getRaw _ key => store.getRaw cfName key data fault
  | .getWithExpiry _ _ key => store.getWithExpiry cfName key data fault
  | .exists _ key => store.exists cfName key data fault

namespace PairedCall

/-- What the method of a store returns. -/
def onStore (store : Store) (cfName : String) (data : Db cmps)
    (fault : Option Fault) : PairedCall A → StoreResult A
  | .write call => (store.writeCall cfName fault call data).1
  | .read call => store.readCall cfName data fault call

variable (data : Db cmps) (fault : Option Fault)

/-- The default-family method of an optimistic context. -/
def optimisticDefault : PairedCall A → OptimisticTransactionContext →
    StoreResult A × OptimisticTransactionContext
  | .write call => OptimisticTransactionContext.stagingCall fault call.onDefault
  | .read call =>
      OptimisticTransactionContext.readingCall data fault call.onDefault

/-- The `_cf` method of an optimistic context. -/
def optimisticCf (cfName : String) : PairedCall A →
    OptimisticTransactionContext → StoreResult A × OptimisticTransactionContext
  | .write call =>
      OptimisticTransactionContext.stagingCall fault (call.onCf cfName)
  | .read call =>
      OptimisticTransactionContext.readingCall data fault (call.onCf cfName)

/-- The default-family method of a pessimistic context. -/
def pessimisticDefault : PairedCall A → TransactionContext →
    StoreResult A × TransactionContext
  | .write call => TransactionContext.stagingCall fault call.onDefault
  | .read call => TransactionContext.readingCall data fault call.onDefault

/-- The `_cf` method of a pessimistic context. -/
def pessimisticCf (cfName : String) : PairedCall A → TransactionContext →
    StoreResult A × TransactionContext
  | .write call => TransactionContext.stagingCall fault (call.onCf cfName)
  | .read call => TransactionContext.readingCall data fault (call.onCf cfName)

/-- The value of the call can be encoded. -/
def encodes : PairedCall A → Bool
  | .write call => (call.record defaultColumnFamilyName).isOk
  | .read _ => true

/-- `put_cf_with_expiry` encodes its value before it looks the family up. -/
def encodesFirst : PairedCall A → Bool
  | .write (.putWithExpiry ..) => true
  | _ => false

/-- The family is in the configured list; or it is another one than the default
family, and the value can be encoded; or it is the default family, and the call
fails because its value cannot be encoded before the family is looked up. -/
def ResolvesWhen (names : List String) (cfName : String)
    (call : PairedCall A) : Prop :=
  cfName ∈ names ∨
    (cfName ≠ defaultColumnFamilyName ∧ call.encodes = true) ∨
    (cfName = defaultColumnFamilyName ∧ call.encodesFirst = true ∧
      call.encodes = false)

end PairedCall

/-- The result is the error `UnknownCf`. -/
def failsUnknownCf {A : Type} : StoreResult A → Bool
  | .error (.unknownCf _) => true
  | _ => false

/-- The `_cf` form of a call on an optimistic context fails with `UnknownCf`
exactly when the store's method and the context's `iterate` do, and on the default
family it does what the default-family form does. -/
structure ResolvesAsStore (cmps : String → Comparator)
    (ctx : OptimisticTransactionContext) (cfName : String)
    (call : PairedCall A) : Prop where
  asStore : ∀ (data storeData : Db cmps) (fault storeFault : Option Fault),
    failsUnknownCf (call.optimisticCf data fault cfName ctx).1 =
      failsUnknownCf
        (call.onStore (.cfOptimisticTxnStore ctx.store) cfName storeData
          storeFault)
  asIterate : ∀ (data iterateData : Db cmps) (fault iterateFault : Option Fault)
    {K S T OutK OutV : Type} [AsBytes K] (config : IterConfig K S T OutK OutV),
    config.cfName = cfName →
      failsUnknownCf (call.optimisticCf data fault cfName ctx).1 =
        failsUnknownCf (ctx.iterate iterateData iterateFault config).1.1
  asDefault : cfName = defaultColumnFamilyName →
    ∀ (data : Db cmps) (fault : Option Fault),
      call.optimisticCf data fault cfName ctx =
        call.optimisticDefault data fault ctx

end RockSolid
