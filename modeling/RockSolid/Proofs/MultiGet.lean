/-
Module: RockSolid.Proofs.MultiGet
Layer: Proofs
Purpose: The reads of many keys against the same reads one by one, for every
  outcome the engine can have for each key.  The raw reads and the reads with
  expiry agree.  The typed read drops the engine's errors, so it agrees exactly
  when there is none to drop or the call fails for another reason.
Trusted boundary: none
Main exports: Store.multiget_eq, Store.multigetRaw_agrees,
  Store.multigetWithExpiry_agrees, Store.multiget_agrees_iff_of_opens,
  Store.multiget_agreement
-/
import RockSolid.Foundation.FallibleList
import RockSolid.Proofs.StoreReads

namespace RockSolid

open Foundation

variable {cmps : String → Comparator} {K V : Type} [AsBytes K]

theorem mapM_serializeKey (keys : List K) :
    keys.mapM serializeKey = .ok (keys.map AsBytes.asBytes) := by
  rw [mapM_eq_ok_iff, List.map_map]
  rfl

/-- What a read of many keys does once the family is known. -/
def multiRead {α : Type} (access : CfAccess) (cfName : String) (keys : List K)
    (data : Db cmps) (faults : Bytes → Option Fault)
    (convert : List (Except RocksError (Option Bytes)) →
      StoreResult (List α)) : StoreResult (List α) :=
  if keys.isEmpty then .ok []
  else do
    let cf ← access.family cfName
    convert (access.db.multiGet data faults cf (keys.map AsBytes.asBytes))

theorem CFOperations.multiget_eq [DeserializeOwned V] (access : CfAccess)
    (cfName : String) (keys : List K) (data : Db cmps)
    (faults : Bytes → Option Fault) :
    CFOperations.multiget access cfName keys data faults =
      multiRead access cfName keys data faults fun results =>
        results.mapM (decodeMultiGetResult (V := V)) := by
  rw [multiget, multiRead, mapM_serializeKey]
  rfl

theorem CFOperations.multigetRaw_eq (access : CfAccess) (cfName : String)
    (keys : List K) (data : Db cmps) (faults : Bytes → Option Fault) :
    CFOperations.multigetRaw access cfName keys data faults =
      multiRead access cfName keys data faults collectRawResults := by
  rw [multigetRaw, multiRead, mapM_serializeKey]
  rfl

theorem RocksDbTxnStore.multiget_eq [DeserializeOwned V]
    (store : RocksDbTxnStore) (keys : List K) (data : Db cmps)
    (faults : Bytes → Option Fault) :
    store.multiget keys data faults =
      multiRead store.cfStore.access defaultColumnFamilyName keys data faults
        fun results => results.mapM (decodeMultiGetResult (V := V)) := by
  rw [multiget, multiRead, mapM_serializeKey, CfAccess.family_default]
  rfl

theorem RocksDbTxnStore.multigetRaw_eq (store : RocksDbTxnStore) (keys : List K)
    (data : Db cmps) (faults : Bytes → Option Fault) :
    store.multigetRaw keys data faults =
      multiRead store.cfStore.access defaultColumnFamilyName keys data faults
        collectRawResults := by
  rw [multigetRaw, multiRead, mapM_serializeKey, CfAccess.family_default]
  rfl

namespace Store

variable (store : Store) (cfName : String) (keys : List K) (data : Db cmps)
  (faults : Bytes → Option Fault)

theorem multiget_eq [DeserializeOwned V] :
    store.multiget cfName keys data faults =
      multiRead store.access (store.asked cfName) keys data faults
        fun results => results.mapM (decodeMultiGetResult (V := V)) := by
  cases store with
  | defaultTxnStore store => exact store.multiget_eq keys data faults
  | _ => exact CFOperations.multiget_eq _ _ keys data faults

theorem multigetRaw_eq :
    store.multigetRaw cfName keys data faults =
      multiRead store.access (store.asked cfName) keys data faults
        collectRawResults := by
  cases store with
  | defaultTxnStore store => exact store.multigetRaw_eq keys data faults
  | _ => exact CFOperations.multigetRaw_eq _ _ keys data faults

theorem multigetWithExpiry_eq :
    store.multigetWithExpiry (V := V) cfName keys data faults =
      store.multigetRaw cfName keys data faults >>= fun rawResults =>
        rawResults.mapM decodeExpiryResult := by
  cases store <;> rfl

end Store

theorem collectRawResults_eq (results : List (Except RocksError (Option Bytes))) :
    collectRawResults results = results.mapM (·.mapError .rocksDb) := by
  induction results with
  | nil => rfl
  | cons result results inductionHypothesis =>
      rw [List.mapM_cons, ← inductionHypothesis, collectRawResults,
        collectRawResults, List.mapM_cons]
      cases result with
      | error e => rfl
      | ok value => cases results.mapM id <;> rfl

theorem decodeExpiryResult_eq :
    decodeExpiryResult (V := V) = decodeOptional ValueWithExpiry.fromSlice := by
  funext optBytes
  cases optBytes <;> rfl

section Families

variable {α : Type} {access : CfAccess} {cfName : String} {keys : List K}
  {data : Db cmps} {faults : Bytes → Option Fault}
  {convert : List (Except RocksError (Option Bytes)) → StoreResult (List α)}

/-- In an open family the engine is asked for every key. -/
theorem multiRead_of_family {cf : String} (found : access.family cfName = .ok cf)
    (empty : convert [] = .ok []) :
    multiRead access cfName keys data faults convert =
      convert (keys.map fun key =>
        orFault (faults (AsBytes.asBytes key))
          (access.db.read data ⟨cf, AsBytes.asBytes key⟩)) := by
  cases keys with
  | nil => exact empty.symm
  | cons key keys =>
      simp only [multiRead, found, DbHandle.multiGet, List.map_map]
      rfl

/-- In a family that is not open every call with a key fails. -/
theorem multiRead_agrees_of_unknown {single : K → StoreResult α} {e : StoreError}
    (unknown : access.family cfName = .error e)
    (fails : ∀ key, ∃ e', single key = .error e') :
    AgreesWith (multiRead access cfName keys data faults convert)
      (keys.map single) := by
  cases keys with
  | nil => exact agreesWith_mapM single []
  | cons key keys =>
      rw [multiRead, unknown]
      obtain ⟨e', failed⟩ := fails key
      exact agreesWith_of_failures
        (List.mem_map.mpr ⟨key, List.mem_cons_self, rfl⟩) failed

end Families

namespace Store

variable (store : Store) (cfName : String) (keys : List K) (data : Db cmps)
  (faults : Bytes → Option Fault)

/-- A family that is not open makes every single read fail. -/
theorem read_of_not_opens {store : Store} {cfName : String} (data : Db cmps)
    (closed : ¬ store.Opens cfName) :
    ∃ e, store.access.family (store.asked cfName) = .error e ∧
      ∀ fault keyBytes,
        store.access.read (store.asked cfName) data fault keyBytes =
          .error e := by
  cases found : store.access.family (store.asked cfName) with
  | ok cf =>
      have same : cf = store.asked cfName := Store.family_ok found
      subst same
      exact absurd found closed
  | error e =>
      refine ⟨e, rfl, ?_⟩
      intro fault keyBytes
      rw [CfAccess.read, found]
      rfl

/-- `multiget_raw` agrees with `get_raw`. -/
theorem multigetRaw_agrees :
    AgreesWith (store.multigetRaw cfName keys data faults)
      (keys.map fun key =>
        store.getRaw cfName key data (faults (AsBytes.asBytes key))) := by
  simp only [getRaw_eq_read]
  rw [multigetRaw_eq]
  by_cases opens : store.Opens cfName
  · rw [multiRead_of_family opens (by rfl), collectRawResults_eq, List.mapM_map]
    simp only [read_of_opens opens]
    exact agreesWith_mapM _ keys
  · obtain ⟨e, unknown, fails⟩ := read_of_not_opens data opens
    exact multiRead_agrees_of_unknown unknown
      (fun key => ⟨e, fails _ _⟩)

/-- `multiget_with_expiry` agrees with `get_with_expiry`. -/
theorem multigetWithExpiry_agrees :
    AgreesWith (store.multigetWithExpiry (V := V) cfName keys data faults)
      (keys.map fun key =>
        store.getWithExpiry cfName key data (faults (AsBytes.asBytes key))) := by
  have decoded := (store.multigetRaw_agrees cfName keys data faults).bind_mapM
    (decodeExpiryResult (V := V))
  rw [List.map_map] at decoded
  simp only [getWithExpiry_eq_read, ← decodeExpiryResult_eq]
  rw [multigetWithExpiry_eq]
  simpa only [Function.comp_def, getRaw_eq_read] using decoded

section Typed

variable [DeserializeOwned V]

/-- What the typed single read makes of the engine's answer. -/
def decodeGetResult (result : Except RocksError (Option Bytes)) :
    StoreResult (Option V) :=
  result.mapError .rocksDb >>= decodeOptional deserializeValue

/-- Without an engine error the two typed reads decode alike. -/
theorem decodeMultiGetResult_of_answered
    {result : Except RocksError (Option Bytes)}
    (answered : ¬ ∃ e, result = .error e) :
    decodeMultiGetResult (V := V) result = decodeGetResult result := by
  rcases result with e | (_ | bytes)
  · exact absurd ⟨e, rfl⟩ answered
  · rfl
  · rfl

/-- The typed read of many keys fails only on bytes that do not decode. -/
theorem decodeMultiGetResult_eq_error
    {result : Except RocksError (Option Bytes)} :
    (∃ e, decodeMultiGetResult (V := V) result = .error e) ↔
      ∃ bytes, result = .ok (some bytes) ∧
        ∃ e, deserializeValue (V := V) bytes = .error e := by
  rcases result with e | (_ | bytes)
  · simp [decodeMultiGetResult]
  · simp [decodeMultiGetResult]
  · cases decoded : deserializeValue (V := V) bytes <;>
      simp [decodeMultiGetResult, decoded, Functor.map, Except.map]

/-- Typed decoding of many answers agrees with typed decoding of each exactly
when no answer is an error or the bytes of one do not decode. -/
theorem decodeMultiGetResult_agrees_iff
    (answers : List (Except RocksError (Option Bytes))) :
    AgreesWith (answers.mapM (decodeMultiGetResult (V := V)))
      (answers.map decodeGetResult) ↔
      (∀ result ∈ answers, ¬ ∃ e, result = .error e) ∨
        ∃ result ∈ answers, ∃ bytes, result = .ok (some bytes) ∧
          ∃ e, deserializeValue (V := V) bytes = .error e := by
  constructor
  · intro agrees
    by_contra neither
    push Not at neither
    obtain ⟨⟨result, member, e, rfl⟩, decodable⟩ := neither
    have runs :
        ∃ items, answers.mapM (decodeMultiGetResult (V := V)) = .ok items := by
      rw [exists_mapM_eq_ok_iff]
      intro other otherMember
      cases decoded : decodeMultiGetResult (V := V) other with
      | ok item => exact ⟨item, rfl⟩
      | error e' =>
          obtain ⟨bytes, found, e'', undecoded⟩ :=
            decodeMultiGetResult_eq_error.mp ⟨e', decoded⟩
          exact absurd undecoded (decodable other otherMember bytes found e'')
    obtain ⟨item, succeeded⟩ := agrees.ok_iff.mp runs _
      (List.mem_map.mpr ⟨_, member, rfl⟩)
    cases succeeded
  · rintro (answered | ⟨result, member, bytes, rfl, e, undecoded⟩)
    · have sameResults : answers.map (decodeMultiGetResult (V := V)) =
          answers.map decodeGetResult := by
        apply List.map_congr_left
        intro result member
        exact decodeMultiGetResult_of_answered (answered result member)
      exact sameResults ▸ agreesWith_mapM _ answers
    · obtain ⟨e', fails⟩ := decodeMultiGetResult_eq_error.mpr
        ⟨bytes, rfl, e, undecoded⟩
      obtain ⟨e'', failed⟩ := exists_mapM_eq_error member fails
      have singleFails :
          decodeGetResult (V := V) (.ok (some bytes)) = .error e := by
        simp [decodeGetResult, decodeOptional, undecoded, Except.mapError, bind,
          Except.bind, Functor.map, Except.map]
      rw [failed]
      exact agreesWith_of_failures (List.mem_map.mpr ⟨_, member, rfl⟩)
        singleFails

/-- In an open family `multiget` agrees with `get` exactly when the engine can
read every key, or the call fails on bytes that do not decode. -/
theorem multiget_agrees_iff_of_opens (opens : store.Opens cfName) :
    AgreesWith (store.multiget (V := V) cfName keys data faults)
      (keys.map fun key =>
        store.get cfName key data (faults (AsBytes.asBytes key))) ↔
      (∀ key ∈ keys, ¬ store.ReadFails cfName data faults key) ∨
        ∃ key ∈ keys, store.FindsUndecodable cfName data faults key V := by
  have answered := decodeMultiGetResult_agrees_iff (V := V)
    (keys.map fun key => store.answer cfName data
      (faults (AsBytes.asBytes key)) (AsBytes.asBytes key))
  rw [List.map_map, List.forall_mem_map] at answered
  simp only [List.mem_map, exists_exists_and_eq_and] at answered
  simp only [get_eq_read, read_of_opens opens]
  rw [multiget_eq, multiRead_of_family opens (by rfl)]
  exact answered

/-- `multiget` and `get` on every store, for every outcome of the engine: the
raw reads and the reads with expiry agree, the typed reads exactly when the
engine can read every key of an open family or some bytes do not decode. -/
theorem multiget_agreement :
    (AgreesWith (store.multiget (V := V) cfName keys data faults)
      (keys.map fun key =>
        store.get cfName key data (faults (AsBytes.asBytes key))) ↔
      (store.Opens cfName →
        (∀ key ∈ keys, ¬ store.ReadFails cfName data faults key) ∨
          ∃ key ∈ keys, store.FindsUndecodable cfName data faults key V)) ∧
    AgreesWith (store.multigetRaw cfName keys data faults)
      (keys.map fun key =>
        store.getRaw cfName key data (faults (AsBytes.asBytes key))) ∧
    AgreesWith (store.multigetWithExpiry (V := V) cfName keys data faults)
      (keys.map fun key => store.getWithExpiry cfName key data
        (faults (AsBytes.asBytes key))) := by
  apply And.intro
  · by_cases opens : store.Opens cfName
    · rw [multiget_agrees_iff_of_opens store cfName keys data faults opens]
      simp [opens]
    · obtain ⟨e, unknown, fails⟩ := read_of_not_opens data opens
      have agrees : AgreesWith (store.multiget (V := V) cfName keys data faults)
          (keys.map fun key =>
            store.get cfName key data (faults (AsBytes.asBytes key))) := by
        simp only [get_eq_read]
        rw [multiget_eq]
        apply multiRead_agrees_of_unknown unknown
        intro key
        exact ⟨e, by rw [fails]; rfl⟩
      exact iff_of_true agrees (fun opened => absurd opened opens)
  · exact ⟨store.multigetRaw_agrees cfName keys data faults,
      store.multigetWithExpiry_agrees cfName keys data faults⟩

/-- One stored key that the disk cannot read. -/
theorem multiget_hides_read_error :
    let _codec : DeserializeOwned Bytes := ⟨.ok⟩
    let store : Store := .cfStore ⟨⟨["default"], fun _ _ _ _ => none⟩⟩
    let data : ByteDb := Db.empty.applyAll [.put ⟨"default", [97]⟩ [1]]
    let faults : Bytes → Option Fault := fun _ => some ⟨⟨"IO error"⟩, 0⟩
    store.multiget (V := Bytes) "default" [([97] : Bytes)] data faults =
        .ok [none] ∧
      store.get (V := Bytes) "default" ([97] : Bytes) data (faults [97]) =
        .error (.rocksDb ⟨"IO error"⟩) ∧
      ¬ AgreesWith
        (store.multiget (V := Bytes) "default" [([97] : Bytes)] data faults)
        ([([97] : Bytes)].map fun key =>
          store.get (V := Bytes) "default" key data
            (faults (AsBytes.asBytes key))) := by
  intro _codec store data faults
  have hidden : store.multiget (V := Bytes) "default" [([97] : Bytes)] data
      faults = .ok [none] := rfl
  have reported : store.get (V := Bytes) "default" ([97] : Bytes) data
      (faults [97]) = .error (.rocksDb ⟨"IO error"⟩) := rfl
  refine ⟨hidden, reported, ?_⟩
  rw [hidden]
  exact AgreesWith.not_of_swallowed (List.mem_map.mpr
    ⟨[97], List.mem_singleton.mpr rfl, reported⟩)

end Typed

end Store

end RockSolid
