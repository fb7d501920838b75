/-
Module: RockSolid.Proofs.FamilyResolution
Layer: Proofs
Purpose: Where the `_cf` methods of an optimistic context find families as the
  store does.  They look up every name in the configured list, the default family
  not excepted, and most of them do so before they encode the value.
Trusted boundary: none
Main exports: FindsListed, PairedCall.optimisticCf_unlisted,
  PairedCall.pessimisticCf_default, FindsListed.resolvesAsStore_iff,
  contextFamilies_iff
-/
import RockSolid.Core.OpenOptimistic
import RockSolid.Proofs.OptimisticLifecycle
import RockSolid.Proofs.PessimisticLifecycle
import RockSolid.Proofs.WritePaths
import RockSolid.Semantics.FamilyResolution

namespace RockSolid

open Foundation

variable {cmps : String → Comparator} {A : Type}

/-- The store finds the listed families and no others, the default one apart. -/
structure FindsListed (store : RocksDbCFOptimisticTxnStore)
    (names : List String) : Prop where
  listed : ∀ cf ∈ names, store.getCfHandle cf = .ok cf
  unlisted : ∀ cf, cf ∉ names → store.getCfHandle cf = .error (.unknownCf cf)

/-- A store that was opened finds what its configuration lists. -/
theorem FindsListed.of_open {cfg : RocksDbCFOptimisticTxnStoreConfig}
    {fault : Option Fault} {disk after : OnDisk}
    {store : RocksDbCFOptimisticTxnStore}
    (opened : RocksDbCFOptimisticTxnStore.open cfg fault disk =
      (.ok store, after)) :
    FindsListed store cfg.columnFamiliesToOpen := by
  rw [RocksDbCFOptimisticTxnStore.open] at opened
  split at opened
  · next found succeeded =>
      cases opened
      cases OnDisk.openCfDescriptors_ok succeeded
      constructor
      · intro cf member
        have present : cf ∈ (disk.create cfg.columnFamiliesToOpen).columnFamilies :=
          OnDisk.mem_create_columnFamilies.mpr (.inr member)
        simp [RocksDbCFOptimisticTxnStore.getCfHandle, getConfiguredCfHandle,
          member, DbHandle.cfHandle, present]
      · intro cf outside
        simp [RocksDbCFOptimisticTxnStore.getCfHandle, getConfiguredCfHandle,
          outside]
  · cases opened

section Errors

variable {B : Type}

/-- Only the error counts, not the type of the value there is none of. -/
theorem failsUnknownCf_error (e : StoreError) :
    failsUnknownCf (.error e : StoreResult A) =
      failsUnknownCf (.error e : StoreResult B) := by
  cases e <;> rfl

theorem failsUnknownCf_map (f : A → B) (result : StoreResult A) :
    failsUnknownCf (result.map f) = failsUnknownCf result := by
  cases result with
  | error e => exact failsUnknownCf_error e
  | ok a => rfl

theorem failsUnknownCf_bind {result : StoreResult A} {f : A → StoreResult B}
    (first : failsUnknownCf result = false)
    (second : ∀ a, failsUnknownCf (f a) = false) :
    failsUnknownCf (result >>= f) = false := by
  cases result with
  | error e => exact (failsUnknownCf_error e).trans first
  | ok a => exact second a

/-- An error that is reported as another one than `UnknownCf`. -/
theorem failsUnknownCf_mapError {ε : Type} {report : ε → StoreError}
    (other : ∀ e, failsUnknownCf (.error (report e) : StoreResult A) = false)
    (answer : Except ε A) : failsUnknownCf (answer.mapError report) = false := by
  cases answer with
  | error e => exact other e
  | ok a => rfl

theorem failsUnknownCf_decodeOptional {decode : Bytes → StoreResult B}
    (known : ∀ bytes, failsUnknownCf (decode bytes) = false)
    (found : Option Bytes) :
    failsUnknownCf (decodeOptional decode found) = false := by
  cases found with
  | none => rfl
  | some bytes => exact (failsUnknownCf_map some (decode bytes)).trans (known bytes)

/-- The loop of the control-only mode fails in the engine only. -/
theorem failsUnknownCf_controlOnlyLoop {S : Type} (control : ControlFn S)
    (raw : RawStream) (captured : S) (count : Nat) :
    failsUnknownCf (controlOnlyLoop control raw captured count).1 = false := by
  induction raw generalizing captured count with
  | nil => rfl
  | cons entry raw inductionHypothesis =>
      rcases entry with e | ⟨key, val⟩
      · rfl
      · rw [controlOnlyLoop]
        split
        · rfl
        · exact inductionHypothesis _ _
        · exact inductionHypothesis _ _

theorem failsUnknownCf_processResult {S T OutK OutV : Type}
    (mode : IterationMode T OutK OutV) (raw : RawStream)
    (control : Option (ControlFn S)) (captured : S) :
    failsUnknownCf (processResult mode raw control captured).1 = false := by
  cases mode with
  | deserialize deserializer state => rfl
  | raw => rfl
  | controlOnly =>
      cases control with
      | none => rfl
      | some control =>
          have looped := failsUnknownCf_controlOnlyLoop control raw captured 0
          rw [processResult]
          exact (failsUnknownCf_map _ _).trans looped

end Errors

namespace WriteCall

/-- An encoder's error is not one of the families. -/
theorem failsUnknownCf_record (call : WriteCall) (cf : String) :
    failsUnknownCf (call.record cf) = false := by
  have encoder {V : Type} [Serialize V] (val : V) (build : Bytes → WriteOp) :
      failsUnknownCf ((serializeValue val).map build) = false :=
    (failsUnknownCf_map build _).trans
      (failsUnknownCf_mapError (fun _ => rfl) (Serialize.serialize val))
  cases call with
  | put keys codec key val => exact encoder val _
  | putWithExpiry keys codec key val expireTime => exact encoder val _
  | merge keys codec key mergeValue => exact encoder mergeValue _
  | _ => rfl

theorem failsUnknownCf_of_refused {call : WriteCall} {cf : String}
    {e : StoreError} (refused : call.record cf = .error e) :
    failsUnknownCf (.error e : StoreResult A) = false := by
  have encoder := call.failsUnknownCf_record cf
  rw [refused] at encoder
  exact (failsUnknownCf_error e).trans encoder

/-- Whether a value can be encoded does not depend on the family. -/
theorem isOk_record (call : WriteCall) (cf other : String) :
    (call.record cf).isOk = (call.record other).isOk := by
  have encoder (encoded : StoreResult Bytes) (build : String → Bytes → WriteOp) :
      (encoded.map (build cf)).isOk = (encoded.map (build other)).isOk := by
    cases encoded <;> rfl
  cases call with
  | put keys codec key val =>
      exact encoder (serializeValue val) fun cf bytes =>
        .put ⟨cf, AsBytes.asBytes key⟩ bytes
  | putWithExpiry keys codec key val expireTime =>
      exact encoder (serializeValue val) fun cf bytes =>
        .put ⟨cf, AsBytes.asBytes key⟩ (toBeBytes expireTime ++ bytes)
  | merge keys codec key mergeValue =>
      exact encoder (serializeValue mergeValue) fun cf bytes =>
        .merge ⟨cf, AsBytes.asBytes key⟩ bytes
  | _ => rfl

end WriteCall

namespace PairedRead

theorem failsUnknownCf_decode (call : PairedRead A) (found : Option Bytes) :
    failsUnknownCf (call.decode found) = false := by
  cases call with
  | get keys codec key =>
      apply failsUnknownCf_decodeOptional
      exact fun bytes => failsUnknownCf_mapError (fun _ => rfl) _
  | getRaw keys key => rfl
  | getWithExpiry V keys key =>
      apply failsUnknownCf_decodeOptional
      intro bytes
      rw [ValueWithExpiry.fromSlice]
      split
      · rfl
      · exact failsUnknownCf_bind
          (failsUnknownCf_mapError (fun _ => rfl) (ValueWithExpiry.rawDataRef bytes))
          fun _ => rfl
  | «exists» keys key => rfl

end PairedRead

section Stores

variable (store : Store) (cfName : String) (data : Db cmps)
  (fault : Option Fault)

/-- Every read of every store is one engine read, and then its decoding. -/
theorem Store.readCall_eq (call : PairedRead A) :
    store.readCall cfName data fault call =
      store.access.read (store.asked cfName) data fault call.keyBytes >>=
        call.decode := by
  cases call with
  | get keys codec key => exact store.get_eq_read cfName key data fault
  | getRaw keys key =>
      exact (store.getRaw_eq_read cfName key data fault).trans
        (bind_pure _).symm
  | getWithExpiry V keys key =>
      exact store.getWithExpiry_eq_read cfName key data fault
  | «exists» keys key => exact store.exists_eq_read cfName key data fault

variable {store cfName} (call : PairedCall A)

/-- In a family that is open no call fails with `UnknownCf`. -/
theorem PairedCall.onStore_found
    (found : store.access.family (store.asked cfName) =
      .ok (store.asked cfName)) :
    failsUnknownCf (call.onStore store cfName data fault) = false := by
  cases call with
  | write call =>
      rw [onStore, store.writeCall_eq, handOver_of_open _ found]
      cases recorded : call.record (store.asked cfName) with
      | error e => exact WriteCall.failsUnknownCf_of_refused recorded
      | ok op => cases fault <;> rfl
  | read call =>
      rw [onStore, store.readCall_eq, CfAccess.read, found]
      exact failsUnknownCf_bind (failsUnknownCf_mapError (fun _ => rfl) _)
        call.failsUnknownCf_decode

/-- In one that is not, every call does whose value can be encoded. -/
theorem PairedCall.onStore_unknown {name : String}
    (unknown : store.access.family (store.asked cfName) =
      .error (.unknownCf name)) :
    failsUnknownCf (call.onStore store cfName data fault) = call.encodes := by
  cases call with
  | write call =>
      have anyFamily := call.isOk_record (store.asked cfName)
        defaultColumnFamilyName
      rw [onStore, store.writeCall_eq, encodes, ← anyFamily, handOver, unknown]
      cases recorded : call.record (store.asked cfName) with
      | error e => exact WriteCall.failsUnknownCf_of_refused recorded
      | ok op => rfl
  | read call =>
      rw [onStore, store.readCall_eq, CfAccess.read, unknown]
      rfl

end Stores

namespace OptimisticTransactionContext

variable {self : OptimisticTransactionContext} (data : Db cmps)
  (fault : Option Fault)

/-- A read in the family, and then its decoding. -/
def readIn (cf : String) (call : PairedRead A) : CtxMethod A := do
  let found ← read data ⟨cf, call.keyBytes⟩ fault
  liftM (call.decode found)

/-- The getters decode what is found, if anything. -/
theorem readIn_optional {B : Type} (decode : Bytes → StoreResult B)
    {m : CtxMethod (Option Bytes)} {f : Option Bytes → CtxMethod (Option B)}
    (decodes : ∀ bytes, f (some bytes) = some <$> liftM (decode bytes))
    (absent : f none = pure none) :
    (m >>= f) = (m >>= fun found => liftM (decodeOptional decode found)) := by
  congr 1
  funext found
  cases found with
  | none => exact absent
  | some bytes =>
      rw [decodes, decodeOptional]
      cases decode bytes <;> rfl

/-- The raw getter returns what is found. -/
theorem readIn_raw {B : Type} (m : CtxMethod B) :
    (m >>= fun found => liftM (.ok found : StoreResult B)) = m := by
  funext self
  rw [Method.bind_apply]
  rcases m self with ⟨e | found, after⟩ <;> rfl

/-- What follows a method matters on what it returns. -/
theorem bind_of_eq {B C : Type} {m n : CtxMethod B} (same : m self = n self)
    (f : B → CtxMethod C) : (m >>= f) self = (n >>= f) self := by
  rw [Method.bind_apply, Method.bind_apply, same]

/-- The default-family reads. -/
theorem readingCall_onDefault (running : self.completed = false)
    (call : PairedRead A) :
    readingCall data fault call.onDefault self =
      readIn data fault defaultColumnFamilyName call self := by
  cases call with
  | @get K V keys codec key =>
      apply (afterRunning running _).trans
      exact congrFun
        (readIn_optional (deserializeValue (V := V)) (fun _ => rfl) rfl) self
  | getRaw keys key =>
      apply (afterRunning running _).trans
      exact (congrFun (readIn_raw _) self).symm
  | getWithExpiry V keys key =>
      have raw : getRaw key data fault self =
          read data ⟨defaultColumnFamilyName, AsBytes.asBytes key⟩ fault self :=
        afterRunning running _
      apply (bind_of_eq raw _).trans
      exact congrFun (readIn_optional (ValueWithExpiry.fromSlice (V := V))
        (fun _ => rfl) rfl) self
  | «exists» keys key => exact (afterRunning running _).trans rfl

/-- The `_cf` reads, in a family that is found. -/
theorem readingCall_onCf (running : self.completed = false) {cf : String}
    (found : self.store.getCfHandle cf = .ok cf) (call : PairedRead A) :
    readingCall data fault (call.onCf cf) self =
      readIn data fault cf call self := by
  have looked {B : Type} (rest : String → CtxMethod B) :
      (checkCompleted >>= fun _ => getCfHandle cf >>= rest) self =
        rest cf self :=
    (afterRunning running _).trans (afterFound found rest)
  cases call with
  | @get K V keys codec key =>
      apply (looked _).trans
      exact congrFun
        (readIn_optional (deserializeValue (V := V)) (fun _ => rfl) rfl) self
  | getRaw keys key =>
      apply (looked _).trans
      exact (congrFun (readIn_raw _) self).symm
  | getWithExpiry V keys key =>
      have raw : getCfRaw key data fault cf self =
          read data ⟨cf, AsBytes.asBytes key⟩ fault self := looked _
      apply (bind_of_eq raw _).trans
      exact congrFun (readIn_optional (ValueWithExpiry.fromSlice (V := V))
        (fun _ => rfl) rfl) self
  | «exists» keys key => exact (looked _).trans rfl

/-- A read in a family fails in the engine or in the decoder. -/
theorem failsUnknownCf_readIn (cf : String) (call : PairedRead A)
    (self : OptimisticTransactionContext) :
    failsUnknownCf (readIn data fault cf call self).1 = false := by
  have answered : failsUnknownCf
      (read data ⟨cf, call.keyBytes⟩ fault self).1 = false :=
    failsUnknownCf_mapError (fun _ => rfl) _
  rw [readIn, Method.bind_apply]
  rcases asked : read data ⟨cf, call.keyBytes⟩ fault self with
    ⟨e | found, after⟩
  · rw [asked] at answered
    exact (failsUnknownCf_error e).trans answered
  · exact call.failsUnknownCf_decode found

end OptimisticTransactionContext

namespace PairedCall

variable {self : OptimisticTransactionContext} {cf : String} (data : Db cmps)
  (fault : Option Fault) (call : PairedCall A)

/-- In a family that is found no `_cf` call fails with `UnknownCf`. -/
theorem optimisticCf_found (running : self.completed = false)
    (found : self.store.getCfHandle cf = .ok cf) :
    failsUnknownCf (call.optimisticCf data fault cf self).1 = false := by
  cases call with
  | write call =>
      rw [optimisticCf,
        OptimisticTransactionContext.stagingCall_onCf running found]
      cases recorded : call.record cf with
      | error e => exact WriteCall.failsUnknownCf_of_refused recorded
      | ok op => cases fault <;> rfl
  | read call =>
      rw [optimisticCf,
        OptimisticTransactionContext.readingCall_onCf data fault running found]
      exact OptimisticTransactionContext.failsUnknownCf_readIn data fault cf call
        self

/-- Where the default family is found, the `_cf` form is the default-family
form. -/
theorem optimisticCf_default (running : self.completed = false)
    (found : self.store.getCfHandle defaultColumnFamilyName =
      .ok defaultColumnFamilyName) :
    call.optimisticCf data fault defaultColumnFamilyName self =
      call.optimisticDefault data fault self := by
  cases call with
  | write call =>
      rw [optimisticCf, optimisticDefault,
        OptimisticTransactionContext.stagingCall_onCf running found,
        OptimisticTransactionContext.stagingCall_onDefault running]
  | read call =>
      rw [optimisticCf, optimisticDefault,
        OptimisticTransactionContext.readingCall_onCf data fault running found,
        OptimisticTransactionContext.readingCall_onDefault data fault running]

/-- The look-up of a family that is not found ends a `_cf` method. -/
theorem lookUp_fails {B : Type} (running : self.completed = false)
    (unknown : self.store.getCfHandle cf = .error (.unknownCf cf))
    (rest : String → OptimisticTransactionContext.CtxMethod B) :
    (OptimisticTransactionContext.checkCompleted >>= fun _ =>
      OptimisticTransactionContext.getCfHandle cf >>= rest) self =
        (.error (.unknownCf cf), self) := by
  rw [OptimisticTransactionContext.afterRunning running, Method.bind_apply,
    OptimisticTransactionContext.getCfHandle, unknown]

/-- `put_cf_with_expiry` with a value that cannot be encoded. -/
theorem putCfWithExpiry_refused {K V : Type} [AsBytes K] [Serialize V]
    (running : self.completed = false) (key : K) {val : V} {e : StoreError}
    (refused : serializeValue val = .error e) (expireTime : UInt64) :
    OptimisticTransactionContext.putCfWithExpiry key fault cf val expireTime
      self = (.error e, self) := by
  rw [OptimisticTransactionContext.putCfWithExpiry,
    OptimisticTransactionContext.afterRunning running,
    ValueWithExpiry.fromValue_eq, refused]
  rfl

/-- A read in a family that is not found. -/
theorem optimisticCf_read_unlisted (running : self.completed = false)
    (unknown : self.store.getCfHandle cf = .error (.unknownCf cf))
    (call : PairedRead A) :
    ((read call).optimisticCf data fault cf self).1 =
      .error (.unknownCf cf) := by
  have ends {B : Type}
      (rest : String → OptimisticTransactionContext.CtxMethod B) :=
    lookUp_fails running unknown rest
  cases call with
  | getWithExpiry V keys key =>
      have raw : OptimisticTransactionContext.getCfRaw key data fault cf self =
          (.error (.unknownCf cf), self) := ends _
      change (OptimisticTransactionContext.getCfWithExpiry key data fault cf
        self).1 = _
      rw [OptimisticTransactionContext.getCfWithExpiry, Method.bind_apply, raw]
  | _ => exact congrArg Prod.fst (ends _)

/-- In a family that is not found, a `_cf` call fails with `UnknownCf`, but for
one that fails to encode its value before. -/
theorem optimisticCf_unlisted (running : self.completed = false)
    (unknown : self.store.getCfHandle cf = .error (.unknownCf cf)) :
    failsUnknownCf (call.optimisticCf data fault cf self).1 =
      (call.encodes || !call.encodesFirst) := by
  have ends {B : Type}
      (rest : String → OptimisticTransactionContext.CtxMethod B) :=
    lookUp_fails running unknown rest
  cases call with
  | write call =>
      have lookedUpFirst (notExpiring : (write call).encodesFirst = false)
          (failed : (optimisticCf data fault cf (write call) self).1 =
            .error (.unknownCf cf)) :
          failsUnknownCf ((write call).optimisticCf data fault cf self).1 =
            ((write call).encodes || !(write call).encodesFirst) := by
        rw [failed, notExpiring, Bool.not_false, Bool.or_true]
        rfl
      cases call with
      | putWithExpiry keys codec key val expireTime =>
          rw [optimisticCf, WriteCall.onCf,
            OptimisticTransactionContext.stagingCall]
          cases encoded : serializeValue val with
          | error e =>
              have encoder : failsUnknownCf (serializeValue val) = false :=
                failsUnknownCf_mapError (fun _ => rfl) _
              rw [encoded] at encoder
              rw [putCfWithExpiry_refused fault running key encoded expireTime,
                encodes, WriteCall.record, encoded]
              exact (failsUnknownCf_error e).trans encoder
          | ok bytes =>
              have written := ends fun handle => do
                let serKey ← serializeKey key
                OptimisticTransactionContext.stage
                  (.put ⟨handle, serKey⟩ (toBeBytes expireTime ++ bytes)) fault
              rw [OptimisticTransactionContext.putCfWithExpiry,
                OptimisticTransactionContext.afterRunning running,
                ValueWithExpiry.fromValue_eq, encodes, WriteCall.record, encoded]
              exact congrArg failsUnknownCf (congrArg Prod.fst written)
      | _ => exact lookedUpFirst rfl (congrArg Prod.fst (ends _))
  | read call =>
      rw [optimisticCf_read_unlisted data fault running unknown]
      rfl

/-- A call that fails to encode its value first does so in both forms. -/
theorem optimisticCf_encodesFirst (running : self.completed = false)
    (first : call.encodesFirst = true) (refused : call.encodes = false) :
    call.optimisticCf data fault cf self =
      call.optimisticDefault data fault self := by
  cases call with
  | write call =>
      cases call with
      | putWithExpiry keys codec key val expireTime =>
          cases encoded : serializeValue val with
          | error e =>
              rw [optimisticDefault,
                OptimisticTransactionContext.stagingCall_onDefault running,
                WriteCall.record, encoded]
              exact putCfWithExpiry_refused fault running key encoded expireTime
          | ok bytes =>
              rw [encodes, WriteCall.record, encoded] at refused
              cases refused
      | _ => cases first
  | read call => cases first

end PairedCall

section Pessimistic

variable {self : TransactionContext} (data : Db cmps) (fault : Option Fault)

/-- The pinned read of the default family needs no handle. -/
theorem RocksDbCFTxnStore.getPinnedInTxn_default {K : Type} [AsBytes K]
    (store : RocksDbCFTxnStore) (key : K) :
    store.getPinnedInTxn defaultColumnFamilyName key data fault =
      native (NativeTxn.get store.db data
        ⟨defaultColumnFamilyName, AsBytes.asBytes key⟩ fault) := by
  rw [getPinnedInTxn, CfAccess.family_default]
  rfl

/-- The reads of the default family by its name are the default-family reads. -/
theorem TransactionContext.readingCall_onCf_default
    (running : self.completed = false) (call : PairedRead A) :
    readingCall data fault (call.onCf defaultColumnFamilyName) self =
      readingCall data fault call.onDefault self := by
  have checked {B : Type} (rest : Unit → CtxMethod B) :=
    afterRunning running rest
  cases call with
  | get keys codec key => rfl
  | getRaw keys key =>
      apply (checked _).trans
      apply Eq.trans _ (checked _).symm
      rw [onTxn, RocksDbCFTxnStore.getRawInTxn,
        RocksDbCFTxnStore.getPinnedInTxn_default]
      rfl
  | getWithExpiry V keys key =>
      have raw : getRaw key data fault self =
          onTxn (fun store =>
            native (NativeTxn.get store.db data
              ⟨defaultColumnFamilyName, AsBytes.asBytes key⟩ fault)) self :=
        checked _
      apply (checked _).trans
      apply Eq.trans _ (checked _).symm
      rw [Method.bind_apply, raw, onTxn,
        onTxn, RocksDbCFTxnStore.getWithExpiryInTxn,
        RocksDbCFTxnStore.getRawInTxn,
        RocksDbCFTxnStore.getPinnedInTxn_default]
      simp only [Method.zoom, Method.bind_apply]
      rcases native (NativeTxn.get self.store.db data
        ⟨defaultColumnFamilyName, AsBytes.asBytes key⟩ fault) self.txn with
        ⟨e | _ | bytes, after⟩
      · rfl
      · rfl
      · dsimp only
        cases ValueWithExpiry.fromSlice (V := V) bytes <;> rfl
  | «exists» keys key =>
      apply (checked _).trans
      apply Eq.trans _ (checked _).symm
      rw [onTxn, RocksDbCFTxnStore.existsInTxn,
        RocksDbCFTxnStore.getPinnedInTxn_default]
      simp only [Method.zoom, Method.bind_apply, Method.liftM_apply,
        serializeKey, onTxn]
      rcases native (NativeTxn.get self.store.db data
        ⟨defaultColumnFamilyName, AsBytes.asBytes key⟩ fault) self.txn with
        ⟨e | _ | bytes, after⟩ <;> rfl

/-- On a pessimistic context the `_cf` form on the default family is the
default-family form. -/
theorem PairedCall.pessimisticCf_default (call : PairedCall A)
    (running : self.completed = false) :
    call.pessimisticCf data fault defaultColumnFamilyName self =
      call.pessimisticDefault data fault self := by
  cases call with
  | write call =>
      rw [pessimisticCf, pessimisticDefault,
        TransactionContext.stagingCall_onCf running (CfAccess.family_default _),
        TransactionContext.stagingCall_onDefault running]
  | read call =>
      exact TransactionContext.readingCall_onCf_default data fault running call

end Pessimistic

/-- The context's `iterate` fails with `UnknownCf` where the store does not know
the family. -/
theorem OptimisticTransactionContext.failsUnknownCf_iterate
    {self : OptimisticTransactionContext} (running : self.completed = false)
    {K S T OutK OutV : Type} [AsBytes K] (config : IterConfig K S T OutK OutV)
    (data : Db cmps) (fault : Option Fault) :
    failsUnknownCf (self.iterate data fault config).1.1 =
      failsUnknownCf (self.store.access.family config.cfName) := by
  rw [iterate_of_running running, iterateWith_eq]
  cases family : self.store.access.family config.cfName with
  | error e => exact failsUnknownCf_error e
  | ok cf => exact failsUnknownCf_processResult _ _ _ _

section Resolution

variable {store : RocksDbCFOptimisticTxnStore} {names : List String}
  {self : OptimisticTransactionContext}

/-- A listed family is found wherever it is looked up. -/
theorem FindsListed.family_listed (finds : FindsListed store names) {cf : String}
    (listed : cf ∈ names) : store.access.family cf = .ok cf := by
  rw [CfAccess.family]
  split
  · next isDefault => rw [isDefault]
  · exact finds.listed cf listed

theorem FindsListed.family_unlisted (finds : FindsListed store names)
    {cf : String} (unlisted : cf ∉ names)
    (other : cf ≠ defaultColumnFamilyName) :
    store.access.family cf = .error (.unknownCf cf) :=
  (if_neg other).trans (finds.unlisted cf unlisted)

/-- Where each form answers the same on all contents, resolving a family alike is
to give one answer. -/
theorem resolvesAsStore_iff_answers (running : self.completed = false)
    {cf : String} {call : PairedCall A} {answer storeAnswer : Bool}
    (answers : ∀ (data : Db cmps) (fault : Option Fault),
      failsUnknownCf (call.optimisticCf data fault cf self).1 = answer)
    (storeAnswers : ∀ (data : Db cmps) (fault : Option Fault),
      failsUnknownCf (call.onStore (.cfOptimisticTxnStore self.store) cf data
        fault) = storeAnswer) :
    ResolvesAsStore cmps self cf call ↔
      answer = storeAnswer ∧
        answer = failsUnknownCf (self.store.access.family cf) ∧
        (cf = defaultColumnFamilyName →
          ∀ (data : Db cmps) (fault : Option Fault),
            call.optimisticCf data fault cf self =
              call.optimisticDefault data fault self) := by
  constructor
  · intro resolves
    have sameStore := resolves.asStore Db.empty Db.empty none none
    rw [answers, storeAnswers] at sameStore
    -- An iteration without any options shows whether the family is known.
    let probe : IterConfig Bytes Unit Unit Bytes Bytes :=
      .newRaw cf none none false none ()
    have named : probe.cfName = cf := rfl
    have sameIterate := resolves.asIterate Db.empty Db.empty none none probe named
    rw [answers, OptimisticTransactionContext.failsUnknownCf_iterate running,
      named] at sameIterate
    exact ⟨sameStore, sameIterate, resolves.asDefault⟩
  · intro same
    obtain ⟨sameStore, sameFamily, sameDefault⟩ := same
    refine ⟨?_, ?_, sameDefault⟩
    · intro data storeData fault storeFault
      rw [answers, storeAnswers, sameStore]
    · intro data iterateData fault iterateFault K S T OutK OutV keys config named
      rw [answers, OptimisticTransactionContext.failsUnknownCf_iterate running,
        named, sameFamily]

/-- The `_cf` form resolves the family as the store does exactly when the family
is listed, or the call fails in the same place in both. -/
theorem FindsListed.resolvesAsStore_iff (finds : FindsListed self.store names)
    (running : self.completed = false) (cf : String) (call : PairedCall A) :
    ResolvesAsStore cmps self cf call ↔ call.ResolvesWhen names cf := by
  let kind := Store.cfOptimisticTxnStore self.store
  by_cases listed : cf ∈ names
  · have found := finds.listed cf listed
    have family : kind.access.family (kind.asked cf) = .ok (kind.asked cf) :=
      finds.family_listed listed
    refine iff_of_true ?_ (.inl listed)
    rw [resolvesAsStore_iff_answers running
      (call.optimisticCf_found · · running found)
      (call.onStore_found · · family)]
    refine ⟨rfl, (congrArg failsUnknownCf family).symm, ?_⟩
    rintro rfl data fault
    exact call.optimisticCf_default data fault running found
  · have unlisted (data : Db cmps) (fault : Option Fault) :=
      call.optimisticCf_unlisted data fault running (finds.unlisted cf listed)
    rw [PairedCall.ResolvesWhen, or_iff_right listed]
    by_cases isDefault : cf = defaultColumnFamilyName
    · have family : kind.access.family (kind.asked cf) = .ok (kind.asked cf) := by
        subst isDefault
        exact CfAccess.family_default _
      rw [or_iff_right fun other => other.1 isDefault, and_iff_right isDefault,
        resolvesAsStore_iff_answers running unlisted
          (call.onStore_found · · family), Bool.or_eq_false_iff,
        Bool.not_eq_false']
      constructor
      · intro same
        exact same.1.symm
      · intro failsFirst
        obtain ⟨first, refused⟩ := failsFirst
        refine ⟨⟨refused, first⟩, ?_, ?_⟩
        · rw [refused, first]
          exact (congrArg failsUnknownCf family).symm
        · intro _ data fault
          exact call.optimisticCf_encodesFirst data fault running first refused
    · have family : kind.access.family (kind.asked cf) =
          .error (.unknownCf cf) := finds.family_unlisted listed isDefault
      rw [or_iff_left fun default => isDefault default.1,
        and_iff_right isDefault, resolvesAsStore_iff_answers running unlisted
          (call.onStore_unknown · · family)]
      constructor
      · intro same
        obtain ⟨sameStore, sameFamily, _⟩ := same
        rw [← sameStore, sameFamily]
        exact congrArg failsUnknownCf family
      · intro encodes
        rw [encodes]
        exact ⟨rfl, (congrArg failsUnknownCf family).symm,
          fun default => absurd default isDefault⟩

end Resolution

/-- A context on a store that was opened, after any calls, resolves a family as the
store does exactly when its list has the family, or the call fails in the same
place.  The pessimistic context needs no condition. -/
theorem contextFamilies_iff {cfg : RocksDbCFOptimisticTxnStoreConfig}
    {openFault : Option Fault} {disk after : OnDisk}
    {store : RocksDbCFOptimisticTxnStore}
    (opened : RocksDbCFOptimisticTxnStore.open cfg openFault disk =
      (.ok store, after)) (withSnapshot : Bool) (position : Nat)
    (steps : List (ContextStep cmps)) (cfName : String) (call : PairedCall A) :
    (ResolvesAsStore cmps
        ((OptimisticTransactionContext.new store withSnapshot position).run steps)
        cfName call ↔
      call.ResolvesWhen cfg.columnFamiliesToOpen cfName) ∧
    ∀ (pessimistic : RocksDbCFTxnStore) (data : Db cmps) (fault : Option Fault),
      let self := (TransactionContext.new pessimistic).run steps
      call.pessimisticCf data fault defaultColumnFamilyName self =
        call.pessimisticDefault data fault self := by
  have holds := (OptimisticTransactionContext.Holds.fresh store withSnapshot
    position).after_run steps
  have finds := FindsListed.of_open opened
  rw [← holds.store] at finds
  refine ⟨finds.resolvesAsStore_iff holds.running cfName call, ?_⟩
  intro pessimistic data fault
  have live := (TransactionContext.Live.new pessimistic).run steps
  exact call.pessimisticCf_default data fault live.running

/-- A list as in the guide, without the default family. -/
def ordersConfig : RocksDbCFOptimisticTxnStoreConfig where
  createIfMissing := true
  columnFamiliesToOpen := ["orders"]
  fullMerge := fun _ _ existing _ => existing

def newDisk : OnDisk where
  columnFamilies := ["default"]
  nodup := by decide
  default_mem := by decide
  data := Db.empty
  absent := fun _ _ => rfl

def ordersStore : RocksDbCFOptimisticTxnStore where
  db := ⟨["default", "orders"], ordersConfig.fullMerge⟩
  cfNames := ["orders"]

/-- In a fresh context on that store the listed family is found and the default one
is not. -/
theorem contextFamilies_iff_orders :
    let ctx := OptimisticTransactionContext.new ordersStore true 0
    let read : PairedCall (Option Bytes) := .read (.getRaw inferInstance ([107] : Bytes))
    ResolvesAsStore (fun _ => compare) ctx "orders" read ∧
      ¬ ResolvesAsStore (fun _ => compare) ctx "default" read := by
  intro ctx read
  have opened : RocksDbCFOptimisticTxnStore.open ordersConfig none newDisk =
      (.ok ordersStore, newDisk.create ["orders"]) := rfl
  have resolves := fun cfName =>
    (contextFamilies_iff opened true 0
      ([] : List (ContextStep fun _ => compare)) cfName read).1
  refine ⟨(resolves "orders").mpr (.inl (List.mem_singleton_self _)), ?_⟩
  intro asDefault
  rcases (resolves "default").mp asDefault with listed | other | ⟨_, first, _⟩
  · exact absurd listed (by decide)
  · exact other.1 rfl
  · cases first

/-- `put_cf_raw` on the default family fails there, while `set_raw`, the store and
the pessimistic context write. -/
theorem unlisted_default_not_found :
    let ctx := OptimisticTransactionContext.new ordersStore true 0
    let other := TransactionContext.new ⟨ordersStore.db, ordersStore.cfNames⟩
    let write : PairedCall Unit := .write (.putRaw inferInstance ([107] : Bytes) [1])
    RocksDbCFOptimisticTxnStore.open ordersConfig none newDisk =
        (.ok ordersStore, newDisk.create ["orders"]) ∧
      (write.optimisticCf newDisk.data none "default" ctx).1 =
        .error (.unknownCf "default") ∧
      (write.optimisticDefault newDisk.data none ctx).1 = .ok () ∧
      write.onStore (.cfOptimisticTxnStore ctx.store) "default" newDisk.data
        none = .ok () ∧
      (write.pessimisticCf newDisk.data none "default" other).1 = .ok () ∧
      ¬ ResolvesAsStore (fun _ => compare) ctx "default" write := by
  intro ctx other write
  have failed : (write.optimisticCf newDisk.data none "default" ctx).1 =
      .error (.unknownCf "default") := rfl
  have set : (write.optimisticDefault newDisk.data none ctx).1 = .ok () := rfl
  refine ⟨rfl, failed, set, rfl, rfl, ?_⟩
  intro resolves
  have same := resolves.asDefault rfl newDisk.data none
  rw [Prod.ext_iff, failed, set] at same
  cases same.1

end RockSolid
