/-
Module: RockSolid.Semantics.ContextRuns
Layer: Semantics
Purpose: Runs of a transaction context: any sequence of staging and reading
  calls, each against the committed contents of its moment and each free to fail
  in the engine, then one ending, then the `Drop` that always comes last.
Trusted boundary: human-reviewed model of how a context is used
Main exports: StagingCall, ReadingCall, ContextStep, Ending, acceptedOps, and
  for both contexts `stagingCall`, `readingCall`, `run`, `finish`
-/
import RockSolid.Core.TransactionContext
import RockSolid.Core.OptimisticContext

namespace RockSolid

open Foundation

/-- The staging methods of a context with their arguments. -/
inductive StagingCall : Type 1 where
  | set {K V : Type} (keys : AsBytes K) (codec : Serialize V) (key : K) (val : V)
  | setRaw {K : Type} (keys : AsBytes K) (key : K) (rawVal : Bytes)
  | setWithExpiry {K V : Type} (keys : AsBytes K) (codec : Serialize V) (key : K)
      (val : V) (expireTime : UInt64)
  | merge {K P : Type} (keys : AsBytes K) (codec : Serialize (MergeValue P))
      (key : K) (mergeValue : MergeValue P)
  | mergeRaw {K : Type} (keys : AsBytes K) (key : K) (rawMergeOp : Bytes)
  | delete {K : Type} (keys : AsBytes K) (key : K)
  | putCf {K V : Type} (keys : AsBytes K) (codec : Serialize V)
      (cfName : String) (key : K) (val : V)
  | putCfRaw {K : Type} (keys : AsBytes K) (cfName : String) (key : K)
      (rawVal : Bytes)
  | putCfWithExpiry {K V : Type} (keys : AsBytes K) (codec : Serialize V)
      (cfName : String) (key : K) (val : V) (expireTime : UInt64)
  | mergeCf {K P : Type} (keys : AsBytes K) (codec : Serialize (MergeValue P))
      (cfName : String) (key : K) (mergeValue : MergeValue P)
  | mergeCfRaw {K : Type} (keys : AsBytes K) (cfName : String) (key : K)
      (rawMergeOp : Bytes)
  | deleteCf {K : Type} (keys : AsBytes K) (cfName : String) (key : K)

/-- The reading methods of a context with their arguments, indexed by what they
return. -/
inductive ReadingCall : Type → Type 1 where
  | get {K V : Type} (keys : AsBytes K) (codec : DeserializeOwned V) (key : K) :
      ReadingCall (StoreResult (Option V))
  | getRaw {K : Type} (keys : AsBytes K) (key : K) :
      ReadingCall (StoreResult (Option Bytes))
  | getWithExpiry {K : Type} (V : Type) (keys : AsBytes K) (key : K) :
      ReadingCall (StoreResult (Option (ValueWithExpiry V)))
  | exists {K : Type} (keys : AsBytes K) (key : K) :
      ReadingCall (StoreResult Bool)
  | getCf {K V : Type} (keys : AsBytes K) (codec : DeserializeOwned V)
      (cfName : String) (key : K) : ReadingCall (StoreResult (Option V))
  | getCfRaw {K : Type} (keys : AsBytes K) (cfName : String) (key : K) :
      ReadingCall (StoreResult (Option Bytes))
  | getCfWithExpiry {K : Type} (V : Type) (keys : AsBytes K) (cfName : String)
      (key : K) : ReadingCall (StoreResult (Option (ValueWithExpiry V)))
  | existsCf {K : Type} (keys : AsBytes K) (cfName : String) (key : K) :
      ReadingCall (StoreResult Bool)
  | iterate {K S T OutK OutV : Type} (keys : AsBytes K)
      (config : IterConfig K S T OutK OutV) :
      ReadingCall (StoreResult (IterationResult S T OutK OutV) × S)
  | findByPrefix {K V : Type} (keys : AsBytes K) (decoder : ByteDecodable K)
      (codec : DeserializeOwned V) (cfName : String) (prefixKey : K)
      (direction : Direction) : ReadingCall (StoreResult (List (K × V)))
  | findFrom {K V S : Type} (keys : AsBytes K) (decoder : ByteDecodable K)
      (codec : DeserializeOwned V) (cfName : String) (startKey : K)
      (direction : Direction) (controlFn : ControlFn S) (captured : S) :
      ReadingCall (StoreResult (List (K × V)))
  | findFromWithExpireVal {K S : Type} (V : Type) (keys : AsBytes K)
      (decoder : ByteDecodable K) (cfName : String) (start : K) (reverse : Bool)
      (controlFn : ControlFn S) (captured : S) :
      ReadingCall (Except String (List (K × ValueWithExpiry V)))

/-- The write a staging call asks for, when its value can be encoded: on the key
it names, in the column family it names. -/
def StagingCall.operation : StagingCall → Option WriteOp
  | .set _ _ key val =>
      (Serialize.serialize val).toOption.map fun bytes =>
        .put ⟨defaultColumnFamilyName, AsBytes.asBytes key⟩ bytes
  | .setRaw _ key rawVal =>
      some (.put ⟨defaultColumnFamilyName, AsBytes.asBytes key⟩ rawVal)
  | .setWithExpiry _ _ key val expireTime =>
      (Serialize.serialize val).toOption.map fun bytes =>
        .put ⟨defaultColumnFamilyName, AsBytes.asBytes key⟩
          (toBeBytes expireTime ++ bytes)
  | .merge _ _ key mergeValue =>
      (Serialize.serialize mergeValue).toOption.map fun bytes =>
        .merge ⟨defaultColumnFamilyName, AsBytes.asBytes key⟩ bytes
  | .mergeRaw _ key rawMergeOp =>
      some (.merge ⟨defaultColumnFamilyName, AsBytes.asBytes key⟩ rawMergeOp)
  | .delete _ key =>
      some (.delete ⟨defaultColumnFamilyName, AsBytes.asBytes key⟩)
  | .putCf _ _ cfName key val =>
      (Serialize.serialize val).toOption.map fun bytes =>
        .put ⟨cfName, AsBytes.asBytes key⟩ bytes
  | .putCfRaw _ cfName key rawVal =>
      some (.put ⟨cfName, AsBytes.asBytes key⟩ rawVal)
  | .putCfWithExpiry _ _ cfName key val expireTime =>
      (Serialize.serialize val).toOption.map fun bytes =>
        .put ⟨cfName, AsBytes.asBytes key⟩ (toBeBytes expireTime ++ bytes)
  | .mergeCf _ _ cfName key mergeValue =>
      (Serialize.serialize mergeValue).toOption.map fun bytes =>
        .merge ⟨cfName, AsBytes.asBytes key⟩ bytes
  | .mergeCfRaw _ cfName key rawMergeOp =>
      some (.merge ⟨cfName, AsBytes.asBytes key⟩ rawMergeOp)
  | .deleteCf _ cfName key => some (.delete ⟨cfName, AsBytes.asBytes key⟩)

/-- A staging or a reading call. -/
inductive ContextCall : Type 1 where
  | staging (call : StagingCall)
  | reading {A : Type} (call : ReadingCall A)

/-- One call of a run: the committed contents when it is made, and how the
engine fails it, if it does. -/
structure ContextStep (cmps : String → Comparator) where
  data : Db cmps
  fault : Option Fault
  call : ContextCall

/-- How the owner of a context ends it. -/
inductive Ending where
  | commit (fault : Option Fault)
  | rollback (fault : Option Fault)
  | drop
deriving DecidableEq, Repr

/-- The ending was a commit and it returned `Ok`. -/
def CommitOk (ending : Ending) (returned : Option (StoreResult Unit)) : Prop :=
  (∃ fault, ending = .commit fault) ∧ returned = some (.ok ())

variable {cmps : String → Comparator}

namespace OptimisticTransactionContext

/-- A staging call on an optimistic context. -/
def stagingCall (fault : Option Fault) : StagingCall → CtxMethod Unit
  | .set _ _ key val => set key fault val
  | .setRaw _ key rawVal => setRaw key fault rawVal
  | .setWithExpiry _ _ key val expireTime => setWithExpiry key fault val expireTime
  | .merge _ _ key mergeValue => merge key fault mergeValue
  | .mergeRaw _ key rawMergeOp => mergeRaw key fault rawMergeOp
  | .delete _ key => delete key fault
  | .putCf _ _ cfName key val => putCf key fault cfName val
  | .putCfRaw _ cfName key rawVal => putCfRaw key fault cfName rawVal
  | .putCfWithExpiry _ _ cfName key val expireTime =>
      putCfWithExpiry key fault cfName val expireTime
  | .mergeCf _ _ cfName key mergeValue => mergeCf key fault cfName mergeValue
  | .mergeCfRaw _ cfName key rawMergeOp => mergeCfRaw key fault cfName rawMergeOp
  | .deleteCf _ cfName key => deleteCf key fault cfName

/-- A reading call on an optimistic context. -/
def readingCall {A : Type} (data : Db cmps) (fault : Option Fault) :
    ReadingCall A → OptimisticTransactionContext →
      A × OptimisticTransactionContext
  | .get _ _ key => get key data fault
  | .getRaw _ key => getRaw key data fault
  | .getWithExpiry _ _ key => getWithExpiry key data fault
  | .exists _ key => «exists» key data fault
  | .getCf _ _ cfName key => getCf key data fault cfName
  | .getCfRaw _ cfName key => getCfRaw key data fault cfName
  | .getCfWithExpiry _ _ cfName key => getCfWithExpiry key data fault cfName
  | .existsCf _ cfName key => existsCf key data fault cfName
  | .iterate _ config => iterate data fault config
  | .findByPrefix _ _ _ cfName prefixKey direction =>
      findByPrefix data fault cfName prefixKey direction
  | .findFrom _ _ _ cfName startKey direction controlFn captured =>
      findFrom data fault cfName startKey direction controlFn captured
  | .findFromWithExpireVal _ _ _ cfName start reverse controlFn captured =>
      findFromWithExpireVal data fault cfName start reverse controlFn captured

/-- The context after one call. -/
def after (self : OptimisticTransactionContext) (step : ContextStep cmps) :
    OptimisticTransactionContext :=
  match step.call with
  | .staging call => (stagingCall step.fault call self).2
  | .reading call => (readingCall step.data step.fault call self).2

/-- The context after a sequence of calls. -/
def run (self : OptimisticTransactionContext)
    (steps : List (ContextStep cmps)) : OptimisticTransactionContext :=
  steps.foldl after self

/-- The write asked for by a call, if it is a staging call that returns `Ok`. -/
def acceptedOp (self : OptimisticTransactionContext) (step : ContextStep cmps) :
    List WriteOp :=
  match step.call with
  | .staging call =>
      match (stagingCall step.fault call self).1 with
      | .ok _ => call.operation.toList
      | .error _ => []
  | .reading _ => []

/-- The writes asked for by the staging calls that returned `Ok`, in call
order. -/
def acceptedOps : OptimisticTransactionContext → List (ContextStep cmps) →
    List WriteOp
  | _, [] => []
  | self, step :: rest => self.acceptedOp step ++ acceptedOps (self.after step) rest

/-- The ending and the `Drop` after it: what the ending returned, the context,
and the committed contents. -/
def finish (data : Db cmps) (ending : Ending) (dropFault : Option Fault)
    (self : OptimisticTransactionContext) :
    Option (StoreResult Unit) × OptimisticTransactionContext × Db cmps :=
  match ending with
  | .commit fault =>
      let (result, self, data) := self.commit data fault
      (some result, self.drop dropFault, data)
  | .rollback fault =>
      let (result, self) := rollback fault self
      (some result, self.drop dropFault, data)
  | .drop => (none, self.drop dropFault, data)

end OptimisticTransactionContext

namespace TransactionContext

/-- A staging call on a pessimistic context. -/
def stagingCall (fault : Option Fault) : StagingCall → CtxMethod Unit
  | .set _ _ key val => set key fault val
  | .setRaw _ key rawVal => setRaw key fault rawVal
  | .setWithExpiry _ _ key val expireTime => setWithExpiry key fault val expireTime
  | .merge _ _ key mergeValue => merge key fault mergeValue
  | .mergeRaw _ key rawMergeOp => mergeRaw key fault rawMergeOp
  | .delete _ key => delete key fault
  | .putCf _ _ cfName key val => putCf key fault cfName val
  | .putCfRaw _ cfName key rawVal => putCfRaw key fault cfName rawVal
  | .putCfWithExpiry _ _ cfName key val expireTime =>
      putCfWithExpiry key fault cfName val expireTime
  | .mergeCf _ _ cfName key mergeValue => mergeCf key fault cfName mergeValue
  | .mergeCfRaw _ cfName key rawMergeOp => mergeCfRaw key fault cfName rawMergeOp
  | .deleteCf _ cfName key => deleteCf key fault cfName

/-- A reading call on a pessimistic context. -/
def readingCall {A : Type} (data : Db cmps) (fault : Option Fault) :
    ReadingCall A → TransactionContext → A × TransactionContext
  | .get _ _ key => get key data fault
  | .getRaw _ key => getRaw key data fault
  | .getWithExpiry _ _ key => getWithExpiry key data fault
  | .exists _ key => «exists» key data fault
  | .getCf _ _ cfName key => getCf key data fault cfName
  | .getCfRaw _ cfName key => getCfRaw key data fault cfName
  | .getCfWithExpiry _ _ cfName key => getCfWithExpiry key data fault cfName
  | .existsCf _ cfName key => existsCf key data fault cfName
  | .iterate _ config => iterate data fault config
  | .findByPrefix _ _ _ cfName prefixKey direction =>
      findByPrefix data fault cfName prefixKey direction
  | .findFrom _ _ _ cfName startKey direction controlFn captured =>
      findFrom data fault cfName startKey direction controlFn captured
  | .findFromWithExpireVal _ _ _ cfName start reverse controlFn captured =>
      findFromWithExpireVal data fault cfName start reverse controlFn captured

/-- The context after one call. -/
def after (self : TransactionContext) (step : ContextStep cmps) :
    TransactionContext :=
  match step.call with
  | .staging call => (stagingCall step.fault call self).2
  | .reading call => (readingCall step.data step.fault call self).2

/-- The context after a sequence of calls. -/
def run (self : TransactionContext) (steps : List (ContextStep cmps)) :
    TransactionContext :=
  steps.foldl after self

/-- The ending and the `Drop` after it. -/
def finish (data : Db cmps) (ending : Ending) (dropFault : Option Fault)
    (self : TransactionContext) : TransactionContext × Db cmps :=
  match ending with
  | .commit fault =>
      let (_, self, data) := self.commit data fault
      (self.drop dropFault, data)
  | .rollback fault => ((rollback fault self).2.drop dropFault, data)
  | .drop => (self.drop dropFault, data)

end TransactionContext

end RockSolid
