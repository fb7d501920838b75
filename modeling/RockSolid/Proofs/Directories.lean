/-
Module: RockSolid.Proofs.Directories
Layer: Proofs
Purpose: A database directory over its whole life.  Whether an opening succeeds
  depends on the families of the directory and not on their contents; an opened
  store merges as its configuration says; and whatever store the next session opens,
  it finds the maps that the last one left.
Trusted boundary: none
Main exports: OpenCall.uniform, OpenCall.Opens, OpenCall.opens,
  OnDisk.simulates_maps, directories_keep_maps
-/
import RockSolid.Proofs.ConfinedMaps
import RockSolid.Proofs.OpenStores
import RockSolid.Semantics.Directories

namespace RockSolid

open Foundation

section Uniform

variable {A B : Type}

/-- The method does not look at the records of a directory. -/
def Uniform (m : Method StoreError OnDisk A) : Prop :=
  ∀ disk, m disk.emptied = ((m disk).1, (m disk).2.emptied)

theorem Uniform.pure (a : A) : Uniform (pure a : Method StoreError OnDisk A) :=
  fun _ => rfl

theorem Uniform.bind {m : Method StoreError OnDisk A}
    {next : A → Method StoreError OnDisk B} (first : Uniform m)
    (then_ : ∀ a, Uniform (next a)) : Uniform (m >>= next) := by
  intro disk
  rw [Method.bind_apply, Method.bind_apply, first disk]
  rcases m disk with ⟨e | a, after⟩
  · rfl
  · exact then_ a after

/-- The engine opens a directory by its families. -/
theorem OnDisk.openCfDescriptors_emptied (createMissing : Bool)
    (names : List String) (fault : Option Fault) (disk : OnDisk) :
    disk.emptied.openCfDescriptors createMissing names fault =
      (disk.openCfDescriptors createMissing names fault).map emptied := by
  have sameUnopened : disk.emptied.unopened names = disk.unopened names := rfl
  have sameMissing : disk.emptied.missing names = disk.missing names := rfl
  simp only [openCfDescriptors.eq_def, sameUnopened, sameMissing]
  generalize disk.unopened names = unopened
  generalize disk.missing names = missing
  rcases fault with _ | fault
  · rcases unopened with _ | ⟨cf, others⟩
    · rcases missing with _ | ⟨cf, others⟩
      · rfl
      · cases createMissing <;> rfl
    · rfl
  · rfl

theorem openDescriptors_uniform (rawDbOpts : Options)
    (descriptors : List ColumnFamilyDescriptor) (fault : Option Fault) :
    Uniform (openDescriptors rawDbOpts descriptors fault) := by
  intro disk
  rw [openDescriptors, openDescriptors, OnDisk.openCfDescriptors_emptied]
  cases disk.openCfDescriptors rawDbOpts.createsMissing
    (descriptors.map (·.name)) fault <;> rfl

variable (env : OpenEnv) (fault : Option Fault)

theorem RocksDbCFStore.openConfigured_uniform
    (cfg : Config.RocksDbCFStoreConfig) :
    Uniform (openConfigured env fault cfg) :=
  (openDescriptors_uniform _ _ fault).bind fun _ => .pure _

theorem openDbInternal_uniform (cfg : Config.RocksDbTransactionalStoreConfig) :
    Uniform (openDbInternal env fault cfg) := by
  apply (openDescriptors_uniform _ _ fault).bind
  intro db
  cases cfg.engine <;> exact .pure _

theorem RocksDbCFTxnStore.openConfigured_uniform
    (cfg : Config.RocksDbTransactionalStoreConfig) :
    Uniform (openConfigured env fault cfg) := by
  apply (openDbInternal_uniform env fault cfg).bind
  rintro (db | db)
  · exact .pure _
  · exact fun _ => rfl

theorem RocksDbCFOptimisticTxnStore.openConfigured_uniform
    (cfg : Config.RocksDbCFOptimisticTxnStoreConfig) :
    Uniform (openConfigured env fault cfg) := by
  apply (openDbInternal_uniform env fault cfg.into).bind
  rintro (db | db)
  · exact fun _ => rfl
  · exact .pure _

/-- Opening a store does not look at the records. -/
theorem OpenCall.uniform (call : OpenCall) : Uniform (call.run env fault) := by
  cases call with
  | cfStore cfg =>
      exact (RocksDbCFStore.openConfigured_uniform env fault cfg).bind
        fun _ => .pure _
  | defaultStore config =>
      exact ((RocksDbCFStore.openConfigured_uniform env fault config.into).bind
        fun _ => .pure _).bind fun _ => .pure _
  | cfTxnStore cfg =>
      exact (RocksDbCFTxnStore.openConfigured_uniform env fault cfg).bind
        fun _ => .pure _
  | defaultTxnStore config =>
      exact ((RocksDbCFTxnStore.openConfigured_uniform env fault config.into).bind
        fun _ => .pure _).bind fun _ => .pure _
  | cfOptimisticTxnStore cfg =>
      exact (RocksDbCFOptimisticTxnStore.openConfigured_uniform env fault
        cfg).bind fun _ => .pure _
  | defaultOptimisticTxnStore config =>
      exact ((RocksDbCFOptimisticTxnStore.openConfigured_uniform env fault
        config.into).bind fun _ => .pure _).bind fun _ => .pure _

end Uniform

section Opened

/-- What a family merges with when it is opened with the options of this
configuration. -/
def mergeFnOf (own : Option BaseCfConfig) : MergeFn :=
  ((own.bind (·.mergeOperator)).map (·.installedFullMerge)).getD
    fun _ _ _ => none

/-- Tuning installs no merge operator, so what is configured is in force, and
nothing else. -/
theorem fullMerge_tunedFamily (orders : NaturalOrders)
    (profile : Option TuningProfile) (own : Option BaseCfConfig) :
    CalledOptions.fullMerge ((tunedFamily profile own).inner ++
        ownCalls orders own) =
      (own.bind (·.mergeOperator)).map (·.installedFullMerge) := by
  have tuned : (tunedFamily profile own).inner.filterMap
      CalledOptions.mergeCall = [] := by
    rw [tunedFamily, LoggedTunable.handOut, LoggedTunable.intoInner,
      List.filterMap_map, List.filterMap_eq_nil_iff]
    exact fun _ _ => rfl
  rw [CalledOptions.fullMerge, List.filterMap_append, tuned, List.nil_append,
    ownCalls_filterMap, comparatorCall_bind orders fun _ _ => rfl]
  cases own.bind (·.mergeOperator) with
  | none =>
      cases own.bind (·.compactionFilterRouter) <;>
        simp [CalledOptions.mergeCall, RockSolidCompactionFilterRouterConfig.call]
  | some config =>
      cases own.bind (·.compactionFilterRouter) <;>
        simp [CalledOptions.mergeCall, MergeOperatorCfConfig.call,
          RockSolidCompactionFilterRouterConfig.call]

/-- Descriptors of tuned families with what is configured for them. -/
theorem mergeOf_tunedFamilies (orders : NaturalOrders) {names : List String}
    {calls : String → CalledOptions} {profile : Option TuningProfile}
    {own : String → Option BaseCfConfig}
    (tuned : ∀ cf ∈ names, calls cf =
      (tunedFamily profile (own cf)).inner ++ ownCalls orders (own cf))
    (cf : String) :
    mergeOf (describeEach names calls) cf =
      if cf ∈ names then mergeFnOf (own cf) else fun _ _ _ => none := by
  rw [mergeOf, find?_describeEach]
  by_cases listed : cf ∈ names
  · rw [if_pos listed, if_pos listed, Option.bind_some, tuned cf listed,
      fullMerge_tunedFamily, mergeFnOf]
  · rw [if_neg listed, if_neg listed]
    rfl

variable (env : OpenEnv) (fault : Option Fault) (disk : OnDisk)

theorem RocksDbCFStore.openedDb_mergeFnOf {cfg : Config.RocksDbCFStoreConfig}
    (noCallback : cfg.customOptionsDbAndCf = none) (cf : String) :
    (openedDb env disk cfg).fullMerge cf =
      if cf ∈ cfg.columnFamiliesToOpen then
        mergeFnOf (cfg.columnFamilyConfigs.lookup cf)
      else fun _ _ _ => none := by
  rw [openedDb, openOptions_eq]
  apply mergeOf_tunedFamilies env.orders
  intro name listed
  have handed := handedOut_lookup cfg.toOpenConfig name
  rw [if_pos listed] at handed
  have left : (customized env.numCpus cfg).2 =
      (cfOptionsMapTunable cfg.toOpenConfig).mapValues LoggedTunable.handOut := by
    rw [customized, noCallback]
    rfl
  rw [left, handed]
  rfl

theorem OpenDbInternal.openedDb_mergeFnOf
    {cfg : Config.RocksDbTransactionalStoreConfig}
    (noCallback : cfg.customOptionsDbAndCf = none) (cf : String) :
    (openedDb env disk cfg).fullMerge cf =
      if cf ∈ cfg.columnFamiliesToOpen then
        mergeFnOf ((cfg.columnFamilyConfigs.lookup cf).map (·.baseConfig))
      else fun _ _ _ => none := by
  rw [openedDb, openOptions_eq]
  apply mergeOf_tunedFamilies env.orders
  intro name _
  rw [customizedFamily, noCallback]
  rfl

/-- A store opened by a call without a callback: it merges in the listed families as
configured, and is asked for them by their names. -/
structure OpenCall.Opens (call : OpenCall) (store : Store) : Prop where
  fullMerge : ∀ cf, store.access.db.fullMerge cf =
    if cf ∈ call.families then mergeFnOf (call.configured cf)
    else fun _ _ _ => none
  asked : ∀ cf ∈ call.families, store.asked cf = cf

/-- The store that a wrapping call returned. -/
theorem store_of_returns {A : Type} {m : Method StoreError OnDisk A}
    {wrap : A → Store} {a : A} {store : Store} {P : Prop} {after opened : OnDisk}
    (returns : (∃ e, m disk = (.error (.rocksDb e), disk)) ∨
      P ∧ m disk = (.ok a, after))
    (ran : (m >>= fun a => pure (wrap a)) disk = (.ok store, opened)) :
    wrap a = store := by
  rw [Method.bind_apply] at ran
  rcases returns with ⟨e, refused⟩ | ⟨-, opens⟩
  · rw [refused] at ran
    cases ran
  · rw [opens] at ran
    cases ran
    rfl

/-- What every opening call without a callback opens. -/
theorem OpenCall.opens {call : OpenCall} (noCallback : call.HasNoCallback)
    {store : Store} {opened : OnDisk}
    (ran : call.run env fault disk = (.ok store, opened)) : call.Opens store := by
  cases call with
  | cfStore cfg =>
      cases store_of_returns disk
        (RocksDbCFStore.openConfigured_cases env fault disk cfg) ran
      exact ⟨RocksDbCFStore.openedDb_mergeFnOf env disk noCallback,
        fun _ _ => rfl⟩
  | defaultStore config =>
      have same := ran.symm.trans (wrap_wrap _ RocksDbStore.mk Store.defaultStore
        disk)
      cases store_of_returns disk
        (RocksDbCFStore.openConfigured_cases env fault disk config.into) same.symm
      have noCallback : config.into.customOptionsDbAndCf = none :=
        congrArg (Option.map _) noCallback
      exact ⟨RocksDbCFStore.openedDb_mergeFnOf env disk noCallback,
        fun cf listed => (List.mem_singleton.mp listed).symm⟩
  | cfTxnStore cfg =>
      cases engine : cfg.engine with
      | pessimistic =>
          cases store_of_returns disk
            (RocksDbCFTxnStore.openConfigured_cases env fault disk cfg engine) ran
          exact ⟨OpenDbInternal.openedDb_mergeFnOf env disk noCallback,
            fun _ _ => rfl⟩
      | optimistic =>
          have wrong := outcome_wrongEngine env fault disk engine
          rw [ran] at wrong
          cases wrong with
          | opened store right listed delivers => exact absurd engine right
  | defaultTxnStore config =>
      have same := ran.symm.trans (wrap_wrap _ RocksDbTxnStore.mk
        Store.defaultTxnStore disk)
      cases store_of_returns disk (RocksDbCFTxnStore.openConfigured_cases env
        fault disk config.into rfl) same.symm
      have noCallback : config.into.customOptionsDbAndCf = none :=
        congrArg (Option.map _) noCallback
      exact ⟨OpenDbInternal.openedDb_mergeFnOf env disk noCallback,
        fun cf listed => (List.mem_singleton.mp listed).symm⟩
  | cfOptimisticTxnStore cfg =>
      cases store_of_returns disk
        (RocksDbCFOptimisticTxnStore.openConfigured_cases env fault disk cfg) ran
      refine ⟨?_, fun _ _ => rfl⟩
      intro cf
      have merges := OpenDbInternal.openedDb_mergeFnOf env disk
        (show cfg.into.customOptionsDbAndCf = none from noCallback) cf
      rw [← cfg.lookup_into] at merges
      exact merges
  | defaultOptimisticTxnStore config =>
      have same := ran.symm.trans (wrap_wrap _ RocksDbOptimisticTxnStore.mk
        Store.defaultOptimisticTxnStore disk)
      cases store_of_returns disk
        (RocksDbCFOptimisticTxnStore.openConfigured_cases env fault disk
          config.into) same.symm
      have noCallback : config.into.into.customOptionsDbAndCf = none :=
        congrArg (Option.map _) noCallback
      refine ⟨?_, fun cf listed => (List.mem_singleton.mp listed).symm⟩
      intro cf
      have merges := OpenDbInternal.openedDb_mergeFnOf env disk noCallback cf
      rw [← config.into.lookup_into] at merges
      exact merges

end Opened

section Contents

variable {db other : DbHandle} {data after : ByteDb} {cf : String}

theorem Db.record_of_empty (empty : data cf = ∅) (key : Bytes) :
    data.record ⟨cf, key⟩ = Record.absent := by
  simp only [record, empty]
  rfl

/-- The map of a family comes from its records and its merge function. -/
theorem DbHandle.contents_congr (same : data cf = after cf)
    (merges : data cf = ∅ ∨ db.fullMerge cf = other.fullMerge cf) :
    db.contents data cf = other.contents after cf := by
  apply Finmap.ext_lookup
  intro key
  have sameRecord : data.record ⟨cf, key⟩ = after.record ⟨cf, key⟩ := by
    simp only [Db.record, same]
  rw [lookup_contents, lookup_contents, read, read, ← sameRecord]
  rcases merges with empty | sameMerge
  · rw [Db.record_of_empty empty]
    rfl
  · simp only [readRecord, sameMerge]

/-- Without records nothing is bound. -/
theorem DbHandle.contents_empty (empty : data cf = ∅) :
    db.contents data cf = ∅ := by
  apply Finmap.ext_lookup
  intro key
  rw [lookup_contents, read, Db.record_of_empty empty, Finmap.lookup_empty]
  rfl

end Contents

/-- What a program of the listed families needs of a store that serves them. -/
theorem Store.servesCall_of_lists {store : Store} {families : List String}
    (asked : ∀ cf ∈ families, store.asked cf = cf)
    (served : ∀ cf ∈ families, store.access.family cf = .ok cf) (A : Type)
    (call : StoreCall A) (lists : ListsFamilies families A call) :
    store.ServesCall A call := by
  cases call with
  | inContext blind program ending =>
      exact Program.Only.mono (fun _ call listed => served call.cfName listed) lists
  | executeTransaction operation =>
      exact Program.Only.mono
        (fun _ call listed => served call.onFamily.cfName listed) lists
  | _ => exact fun cfName named => ⟨asked _ (lists _ named), served _ (lists _ named)⟩

/-- Nothing is bound in families that are not on disk. -/
theorem OnDisk.contents_confined (schema : MergeSchema) {disk : OnDisk}
    {families : List String}
    (listed : ∀ cf ∈ disk.columnFamilies, cf ∈ families) :
    (schema.contents disk.data).Confined families := by
  intro cf outside
  apply DbHandle.contents_empty
  exact disk.absent cf fun present => outside (listed cf present)

/-- Where no merge succeeds, merging in parts does not either. -/
theorem failingMerge_inParts (key : Bytes) (partialMergeFn : MergeFn) :
    MergesInParts key (fun _ _ _ => none) partialMergeFn :=
  ⟨fun _ _ _ _ => rfl, fun _ _ _ _ _ _ _ => rfl⟩

section Session

variable {schema : MergeSchema} {call : OpenCall} {store : Store} {opened : OnDisk}
  (fits : call.Fits schema) (opens : call.Opens store)
  (listed : ∀ cf ∈ opened.columnFamilies, cf ∈ call.families)

include fits opens

theorem OpenCall.Fits.merges_listed {cf : String} (member : cf ∈ call.families) :
    store.access.db.fullMerge cf = schema.fullMerge cf := by
  rw [opens.fullMerge, if_pos member, mergeFnOf, fits.merges cf member]
  rfl

theorem OpenCall.Fits.inParts (inParts : schema.InParts) (cf : String)
    (key : Bytes) :
    MergesInParts key (store.access.db.fullMerge cf) (schema.partialMerge cf) := by
  by_cases member : cf ∈ call.families
  · rw [fits.merges_listed opens member]
    exact inParts cf key
  · rw [opens.fullMerge, if_neg member]
    exact failingMerge_inParts key _

include listed

/-- The store and the schema mean the same by the records. -/
theorem OpenCall.Fits.contents :
    store.access.db.contents opened.data = schema.contents opened.data := by
  funext cf
  apply DbHandle.contents_congr rfl
  by_cases present : cf ∈ opened.columnFamilies
  · exact .inr (fits.merges_listed opens (listed cf present))
  · exact .inl (opened.absent cf present)

/-- A session on an opened store is one on the maps, and leaves a directory that
stands for what it leaves there. -/
theorem OpenCall.Fits.session (inParts : schema.InParts)
    (created : ∀ cf ∈ call.families, cf ∈ opened.columnFamilies)
    (served : ∀ cf ∈ call.families, store.access.family cf = .ok cf)
    {A : Type} {program : Program StoreCall A}
    (lists : program.Only (ListsFamilies call.families))
    (calls : Stream' (List BackgroundMerge × Met)) :
    let onStore := program.run (store.sessionReceiver.interrupted
      (Session.mergedBetween store.access.db.fullMerge schema.partialMerge)) calls
        ⟨opened.data, []⟩
    let onMaps := program.run
      (FamilyMaps.sessionReceiver schema.fullMerge store.kind)
      (calls.map Prod.snd) ⟨schema.contents opened.data, []⟩
    onStore.1 = onMaps.1 ∧
      schema.contents (opened.withData onStore.2.data).data = onMaps.2.maps := by
  intro onStore onMaps
  have merges : ∀ cf ∈ call.families,
      store.access.db.fullMerge cf = schema.fullMerge cf :=
    fun cf => fits.merges_listed opens
  have ran := (store.interrupted_sessions_simulate (fits.inParts opens inParts)).run
    (lists.mono (Store.servesCall_of_lists opens.asked served)) calls
    (Session.StandsFor.begun store.access.db opened.data)
  rw [Receiver.run_interrupted_id, fits.contents opens listed] at ran
  obtain ⟨sameResult, stands⟩ := ran
  have begun : MapSession.Confined call.families
      ⟨schema.contents opened.data, []⟩ :=
    ⟨OnDisk.contents_confined schema listed, nofun⟩
  obtain ⟨sameOnMaps, sameLeft, confined⟩ :=
    (FamilyMaps.sessions_confined merges store.kind).run lists
      (calls.map Prod.snd) ⟨rfl, begun⟩
  refine ⟨sameResult.trans sameOnMaps, ?_⟩
  funext cf
  have left : store.access.db.contents onStore.2.data cf = onMaps.2.maps cf :=
    congrFun (stands.contents.trans (congrArg MapSession.maps sameLeft)) cf
  by_cases present : cf ∈ opened.columnFamilies
  · have kept : (opened.withData onStore.2.data).data cf = onStore.2.data cf :=
      if_pos present
    rw [← left]
    exact DbHandle.contents_congr kept
      (.inr (merges cf (listed cf present)).symm)
  · have gone : (opened.withData onStore.2.data).data cf = ∅ := if_neg present
    have unlisted : cf ∉ call.families := fun member => present (created cf member)
    have unbound : onMaps.2.maps cf = ∅ := by
      rw [← confined.maps cf unlisted]
      exact (congrFun (congrArg MapSession.maps sameLeft) cf).symm
    rw [unbound]
    exact DbHandle.contents_empty gone

end Session

/-- A directory in use is its maps in use. -/
theorem OnDisk.simulates_maps {schema : MergeSchema} (inParts : schema.InParts) :
    (OnDisk.receiver schema).Simulates (MapDirectory.receiver schema)
      (DirectoryCall.Fits schema) (OnDisk.StandsFor schema) := by
  intro A met call disk directory fits ⟨families, maps⟩
  obtain ⟨directoryFamilies, directoryMaps⟩ := directory
  subst families maps
  cases call with
  | session call program =>
  obtain ⟨callFits, lists⟩ := fits
  have uniform := call.uniform met.env met.fault disk
  have outcome := call.outcome met.env met.fault disk
  have sameData := outcome.data
  rcases ran : call.run met.env met.fault disk with ⟨e | store, opened⟩
  · rw [ran] at uniform sameData
    simp only [receiver, MapDirectory.receiver, uniform, ran]
    exact ⟨trivial, rfl, congrArg schema.contents sameData⟩
  · have opens := OpenCall.opens met.env met.fault disk callFits.noCallback ran
    rw [ran] at uniform sameData outcome
    cases outcome with
    | opened store right required delivers =>
    have listed : ∀ cf ∈ (disk.create call.families).columnFamilies,
        cf ∈ call.families := by
      intro cf present
      rcases OnDisk.mem_create_columnFamilies.mp present with before | added
      · rcases required cf before with isDefault | member
        · exact isDefault ▸ callFits.listsDefault
        · exact member
      · exact added
    have created : ∀ cf ∈ call.families,
        cf ∈ (disk.create call.families).columnFamilies :=
      fun cf member => OnDisk.mem_create_columnFamilies.mpr (.inr member)
    have served : ∀ cf ∈ call.families, store.access.family cf = .ok cf := by
      intro cf member
      rw [delivers.served, if_pos (.inr member)]
    obtain ⟨sameResult, sameMaps⟩ := callFits.session opens listed inParts created
      served lists met.calls
    simp only [receiver, MapDirectory.receiver, uniform, ran]
    exact ⟨congrArg Except.ok sameResult, rfl, sameMaps⟩

/-- Over the whole life of a directory, whatever kinds of stores are opened on it one
after the other, with whatever callback-free configurations of one schema, and
whatever fails: every session returns what it returns on maps that are kept from
session to session, and the directory stands for the maps that are left. -/
theorem directories_keep_maps {R : Type} (schema : MergeSchema)
    (inParts : schema.InParts) (life : Program DirectoryCall R)
    (fits : life.Only (DirectoryCall.Fits schema)) (met : Stream' MetSession)
    (disk : OnDisk) :
    let onDisk := life.run (OnDisk.receiver schema) met disk
    let onMaps := life.run (MapDirectory.receiver schema) met
      ⟨disk.emptied, schema.contents disk.data⟩
    onDisk.1 = onMaps.1 ∧ onDisk.2.StandsFor schema onMaps.2 :=
  (OnDisk.simulates_maps inParts).run fits met ⟨rfl, rfl⟩

/-- A pessimistic store merges into a new directory; a plain store reads there
afterwards. -/
theorem directories_keep_maps_reopened :
    let cfg : Config.DefaultCfTxConfig :=
      { createIfMissing := true
        defaultCfTuningProfile := none
        defaultCfMergeOperator := some ⟨"append", none, none⟩
        compactionFilterRouter := none
        customOptionsDefaultCfAndDb := none
        recoveryMode := none
        parallelism := none
        enableStatistics := none }
    let schema : MergeSchema := fun _ => cfg.baseConfig.mergeOperator
    let life : Program DirectoryCall
        (StoreResult (StoreResult (List (Option Bytes)))) :=
      .call (.session (.defaultTxnStore ⟨cfg⟩)
        (.call (.family (.write "default" (.mergeRaw inferInstance "a" [1])))
          .done)) fun _ =>
        .call (.session (.defaultStore cfg.forStore)
          (.call (.multigetRaw inferInstance "default" ["a"]) .done)) .done
    let disk : OnDisk :=
      ⟨["default"], List.nodup_singleton _, List.mem_singleton_self _, Db.empty,
        fun _ _ => rfl⟩
    ∃ met : Stream' MetSession,
      let onDisk := life.run (OnDisk.receiver schema) met disk
      let onMaps := life.run (MapDirectory.receiver schema) met
        ⟨disk.emptied, schema.contents disk.data⟩
      onDisk.1 = onMaps.1 ∧ onDisk.2.StandsFor schema onMaps.2 := by
  intro cfg schema life disk
  have fits (call : OpenCall) (noCallback : call.HasNoCallback)
      (families : call.families = [defaultColumnFamilyName])
      (own : call.configured defaultColumnFamilyName = some cfg.baseConfig) :
      call.Fits schema := by
    have onDefault {P : String → Prop} (holds : P defaultColumnFamilyName) :
        ∀ cf ∈ call.families, P cf := by
      rw [families]
      exact List.forall_mem_singleton.mpr holds
    refine ⟨noCallback, ?_, onDefault ?_, onDefault ?_, onDefault ?_⟩
    · rw [families]
      exact List.mem_singleton_self _
    · rw [own]
      rfl
    · rintro config configured
      rw [own] at configured
      cases configured
      rfl
    · rintro config configured
      rw [own] at configured
      cases configured
      rfl
  have txnOwn : OpenCall.configured defaultColumnFamilyName
      (.defaultTxnStore ⟨cfg⟩) = some cfg.baseConfig :=
    congrArg (Option.map CFTxConfig.baseConfig) (Config.lookup_defaultCfConfigs _)
  have own : OpenCall.configured defaultColumnFamilyName
      (.defaultStore cfg.forStore) = some cfg.baseConfig :=
    Config.lookup_defaultCfConfigs cfg.baseConfig
  obtain ⟨tunables⟩ : Nonempty (HashOrder String CustomTunable) := inferInstance
  obtain ⟨configs⟩ : Nonempty (HashOrder String BaseCfConfig) := inferInstance
  obtain ⟨txnConfigs⟩ : Nonempty (HashOrder String CFTxConfig) := inferInstance
  let orders : NaturalOrders := ⟨compare, compare, compare, compare⟩
  let met : MetSession :=
    ⟨⟨4, orders, tunables, tunables, configs, txnConfigs⟩, none,
      Stream'.const ([], ⟨none, fun _ => none, Stream'.const none, 0⟩)⟩
  refine ⟨Stream'.const met, ?_⟩
  apply directories_keep_maps schema
  · exact fun _ key => defaultMerges_inParts key
  · refine ⟨⟨fits _ rfl rfl txnOwn, ?_⟩, fun _ => ⟨⟨fits _ rfl rfl own, ?_⟩,
      fun _ => trivial⟩⟩
    · refine ⟨?_, fun _ => trivial⟩
      rintro cf named
      cases named
      exact List.mem_singleton_self _
    · refine ⟨?_, fun _ => trivial⟩
      rintro cf named
      cases named
      exact List.mem_singleton_self _

end RockSolid
