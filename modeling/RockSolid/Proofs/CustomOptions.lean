/-
Module: RockSolid.Proofs.CustomOptions
Layer: Proofs
Purpose: Custom callbacks on both opening paths, and the wrappers.  What a
  configuration asks for is applied after the callback, so the callback cannot
  undo it, unless it takes the family out of the map.
Trusted boundary: none
Main exports: describeCustomized_eq, configuredInForce_append,
  RocksDbCFStore.openOptions_eq, OpenDbInternal.openOptions_eq,
  callbacks_keep_configured, wrappers_open_alike, destroy_settings
-/
import RockSolid.Proofs.FamilyOptions
import RockSolid.Semantics.CustomOptions

namespace RockSolid

open Foundation

section InForce

variable {orders : NaturalOrders}

/-- Where the later calls set something of a kind, what the earlier ones set of it
does not count. -/
theorem getLast?_filterMap_append {A : Type} (read : OptionsCall → Option A)
    (earlier later : CalledOptions) {last : A}
    (setLater : (later.filterMap read).getLast? = some last) :
    ((earlier ++ later).filterMap read).getLast? = some last := by
  rw [List.filterMap_append, List.getLast?_append, setLater, Option.some_or]

/-- The calls of a kind among those a configuration asks for. -/
theorem ownCalls_filterMap {A : Type} (read : OptionsCall → Option A)
    (own : Option BaseCfConfig) :
    (ownCalls orders own).filterMap read =
      ((own.bind (·.mergeOperator)).bind fun config =>
          read config.call).toList ++
        (((own.bind (·.comparator)).bind (·.call orders)).bind read).toList ++
        ((own.bind (·.compactionFilterRouter)).bind fun config =>
          read config.call).toList := by
  cases own with
  | none => rfl
  | some config =>
      have asFamily := familyCalls_filterMap orders none
        (some { config with tuningProfile := none }) read
      simpa [familyCalls, ownCalls] using asFamily

/-- Whatever was called before, a configuration's own calls are in force. -/
theorem configuredInForce_append (own : Option BaseCfConfig)
    (earlier : CalledOptions) :
    ConfiguredInForce orders own (earlier ++ ownCalls orders own) where
  mergeOperator := by
    intro config configured
    apply getLast?_filterMap_append
    rw [ownCalls_filterMap, configured,
      comparatorCall_bind orders fun _ _ => rfl]
    simp [CalledOptions.mergeCall, MergeOperatorCfConfig.call,
      RockSolidCompactionFilterRouterConfig.call]
  comparator := by
    intro choice configured isOne
    obtain ⟨name, named⟩ : ∃ name, choice.installedName = some name := by
      cases choice with
      | none => exact absurd rfl isOne
      | naturalLexicographical ignoreCase => cases ignoreCase <;> exact ⟨_, rfl⟩
      | natural ignoreCase => cases ignoreCase <;> exact ⟨_, rfl⟩
    have last : ((ownCalls orders own).filterMap
        CalledOptions.comparatorCall).getLast? =
          some (name, installedComparator orders choice) := by
      rw [ownCalls_filterMap, configured, Option.bind_some,
        RockSolidComparatorOpt.call, named]
      simp [CalledOptions.comparatorCall, MergeOperatorCfConfig.call,
        RockSolidCompactionFilterRouterConfig.call]
    rw [CalledOptions.comparator, getLast?_filterMap_append _ earlier _ last]
    rfl
  compactionFilter := by
    intro config configured
    apply getLast?_filterMap_append
    rw [ownCalls_filterMap, configured,
      comparatorCall_bind orders fun _ _ => rfl]
    simp [CalledOptions.filterCall, MergeOperatorCfConfig.call,
      RockSolidCompactionFilterRouterConfig.call]

end InForce

section Paths

variable (numCpus : UInt64) (orders : NaturalOrders)

/-- Descriptors taken from a map: a name that the map lacks has default options. -/
theorem takeEach_describes (names : List String)
    (options : HashMap String CalledOptions) :
    ((HashMap.takeEach names options).map
      fun (nameStr, cfOpts) => (⟨nameStr, cfOpts.getD []⟩ :
        ColumnFamilyDescriptor)) =
      describeEach names fun name => (options.lookup name).getD [] := by
  apply List.ext_getElem?
  intro i
  rw [List.getElem?_map, HashMap.getElem?_takeEach, describeEach,
    List.getElem?_mapIdx, Option.map_map]
  cases position : names[i]? with
  | none => rfl
  | some name =>
      by_cases repeated : name ∈ names.take i <;> simp [repeated]

theorem describeEach_congr {names : List String}
    {calls others : String → CalledOptions}
    (same : ∀ name ∈ names, calls name = others name) :
    describeEach names calls = describeEach names others := by
  apply List.ext_getElem?
  intro i
  rw [describeEach, describeEach, List.getElem?_mapIdx, List.getElem?_mapIdx]
  cases position : names[i]? with
  | none => rfl
  | some name => rw [Option.map_some, Option.map_some,
      same name (List.mem_of_getElem? position)]

/-- Descriptors for a list of names describe what the names' calls are. -/
theorem describes_describeEach {names : List String}
    {calls : String → CalledOptions} {tells : String → CalledOptions → Prop}
    (told : ∀ name ∈ names, tells name (calls name)) :
    Describes (describeEach names calls) names tells where
  named := map_name_describeEach names calls
  first := by
    intro name member
    refine ⟨calls name, ?_, told name member⟩
    rw [find?_describeEach, if_pos member]

/-- The end of both paths, whatever the order of the hash maps: the options that
the map has for a name, then what the name's configuration asks for. -/
theorem describeCustomized_eq {C : Type} (names : List String)
    (configs : HashMap String C) (apply : C → CalledOptions → CalledOptions)
    (base : C → BaseCfConfig)
    (applied : ∀ config opts, apply config opts =
      RocksDbCFStore.applyCfConfig orders (base config) opts)
    (tunableOrder : HashOrder String CustomTunable)
    (configOrder : HashOrder String C)
    (tunables : HashMap String CustomTunable) :
    describeCustomized names configs apply tunableOrder configOrder tunables =
      describeEach names fun name =>
        ((tunables.lookup name).map fun tunable =>
          tunable.inner ++
            ownCalls orders ((configs.lookup name).map base)).getD [] := by
  rw [describeCustomized, takeEach_describes]
  congr 1
  funext name
  rw [configOrder.lookup_modifyEach, tunableOrder.lookup_collect]
  cases configured : configs.lookup name with
  | none => simp [ownCalls]
  | some config =>
      simp only [Option.map_map]
      congr 2
      funext tunable
      rw [Function.comp_apply, applied, RocksDbCFStore.applyCfConfig_eq]
      simp [ownCalls]

/-- The options a callback finds: tuned ones for the families to open. -/
theorem RocksDbCFStore.handedOut_lookup (cfg : OpenConfig BaseCfConfig)
    (name : String) :
    ((cfOptionsMapTunable cfg).mapValues LoggedTunable.handOut).lookup name =
      if name ∈ cfg.columnFamiliesToOpen then
        some (tunedFamily cfg.dbTuningProfile
          (cfg.columnFamilyConfigs.lookup name))
      else none := by
  rw [HashMap.lookup_mapValues, cfOptionsMapTunable, tunedMap_lookup]
  split <;> rfl

theorem OpenDbInternal.handedOut_lookup (cfg : OpenConfig CFTxConfig)
    (name : String) :
    ((cfOptionsMapTunable cfg).mapValues LoggedTunable.handOut).lookup name =
      if name ∈ cfg.columnFamiliesToOpen then
        some (tunedFamily cfg.dbTuningProfile
          ((cfg.columnFamilyConfigs.lookup name).map (·.baseConfig)))
      else none := by
  rw [HashMap.lookup_mapValues, cfOptionsMapTunable, tunedMap_lookup,
    tunedFamily, Option.bind_map]
  split <;> rfl

theorem RocksDbCFStore.openOptions_eq (cfg : Config.RocksDbCFStoreConfig)
    (tunableOrder : HashOrder String CustomTunable)
    (configOrder : HashOrder String BaseCfConfig) :
    openOptions numCpus orders cfg tunableOrder configOrder =
      ((customized numCpus cfg).1.inner,
        describeEach cfg.columnFamiliesToOpen fun name =>
          (((customized numCpus cfg).2.lookup name).map fun tunable =>
            tunable.inner ++ ownCalls orders
              (cfg.columnFamilyConfigs.lookup name)).getD []) := by
  have described := describeCustomized_eq orders cfg.columnFamiliesToOpen
    cfg.columnFamilyConfigs (applyCfConfig orders) id (fun _ _ => rfl)
    tunableOrder configOrder (customized numCpus cfg).2
  simp only [Option.map_id, id] at described
  rw [← described, openOptions, customized, handedOut]
  cases cfg.customOptionsDbAndCf <;> rfl

theorem OpenDbInternal.openOptions_eq
    (cfg : Config.RocksDbTransactionalStoreConfig)
    (mutOrder tunableOrder : HashOrder String CustomTunable)
    (configOrder : HashOrder String CFTxConfig) :
    openOptions numCpus orders cfg mutOrder tunableOrder configOrder =
      (openDbInternalOptions numCpus cfg.toDbWideConfig,
        describeEach cfg.columnFamiliesToOpen fun name =>
          (customizedFamily cfg name).inner ++ ownCalls orders
            ((cfg.columnFamilyConfigs.lookup name).map (·.baseConfig))) := by
  have handed := handedOut_lookup cfg.toOpenConfig
  rw [openOptions]
  congr 1
  rw [describeCustomized_eq orders _ _ (applyCfConfig orders) (·.baseConfig)
    (fun config opts => applyCfConfig_eq orders opts config)]
  apply describeEach_congr
  intro name member
  rw [customizedFamily]
  cases cfg.customOptionsDbAndCf with
  | none => simp [handed, member]
  | some customFn => simp [HashOrder.lookup_forEachMut, handed, member]

end Paths

/-- Whatever their callbacks do, both paths open the listed families, in that
order, and what the configuration of a family asks for is in force; the order of
the hash maps does not count.  Of the callback of the column-family store what it
leaves in the map counts: a family it takes out is opened with default options,
without what is configured for it.  The other's is called for each listed family
once, and cannot reach the DB-wide options. -/
theorem callbacks_keep_configured (numCpus : UInt64) (orders : NaturalOrders)
    (cfg : Config.RocksDbCFStoreConfig)
    (txnCfg : Config.RocksDbTransactionalStoreConfig)
    (mutOrder tunableOrder : HashOrder String CustomTunable)
    (configOrder : HashOrder String BaseCfConfig)
    (txnConfigOrder : HashOrder String CFTxConfig) :
    let customized := RocksDbCFStore.customized numCpus cfg
    let opened := RocksDbCFStore.openOptions numCpus orders cfg tunableOrder
      configOrder
    let openedTxn := OpenDbInternal.openOptions numCpus orders txnCfg mutOrder
      tunableOrder txnConfigOrder
    (∀ tunableOrder' configOrder', RocksDbCFStore.openOptions numCpus orders cfg
        tunableOrder' configOrder' = opened) ∧
      opened.1 = customized.1.inner ∧
      Describes opened.2 cfg.columnFamiliesToOpen (fun name opts =>
        let own := cfg.columnFamilyConfigs.lookup name
        (customized.2.lookup name = none ∧ opts = []) ∨
          ∃ tunable, customized.2.lookup name = some tunable ∧
            opts = tunable.inner ++ ownCalls orders own ∧
            ConfiguredInForce orders own opts) ∧
      (∀ mutOrder' tunableOrder' configOrder', OpenDbInternal.openOptions numCpus
        orders txnCfg mutOrder' tunableOrder' configOrder' = openedTxn) ∧
      openedTxn.1 = openDbInternalOptions numCpus txnCfg.toDbWideConfig ∧
      Describes openedTxn.2 txnCfg.columnFamiliesToOpen (fun name opts =>
        let own := (txnCfg.columnFamilyConfigs.lookup name).map (·.baseConfig)
        opts = (OpenDbInternal.customizedFamily txnCfg name).inner ++
            ownCalls orders own ∧
          ConfiguredInForce orders own opts) := by
  intro customized opened openedTxn
  have described := RocksDbCFStore.openOptions_eq numCpus orders cfg
  have describedTxn := OpenDbInternal.openOptions_eq numCpus orders txnCfg
  refine ⟨fun _ _ => (described _ _).trans (described _ _).symm,
    congrArg Prod.fst (described _ _), ?_,
    fun _ _ _ => (describedTxn _ _ _).trans (describedTxn _ _ _).symm,
    congrArg Prod.fst (describedTxn _ _ _), ?_⟩
  · have families : opened.2 = _ := congrArg Prod.snd (described _ _)
    rw [families]
    apply describes_describeEach
    intro name _ own
    cases left : customized.2.lookup name with
    | none => exact .inl ⟨rfl, rfl⟩
    | some tunable =>
        exact .inr ⟨tunable, rfl, rfl,
          configuredInForce_append own tunable.inner⟩
  · have families : openedTxn.2 = _ := congrArg Prod.snd (describedTxn _ _ _)
    rw [families]
    apply describes_describeEach
    intro name _ own
    exact ⟨rfl, configuredInForce_append own _⟩

section Wrappers

variable (numCpus : UInt64) (orders : NaturalOrders)

/-- Without a profile both paths make the same DB-wide options: locking makes no
difference then. -/
theorem tuneDbWide_noProfile (cfg : DbWideConfig)
    (noProfile : cfg.dbTuningProfile = none) :
    RocksDbCFStore.dbWideOptions numCpus cfg =
      openDbInternalOptions numCpus cfg := by
  obtain ⟨createIfMissing, profile, recoveryMode, parallelism, statistics⟩ := cfg
  subst noProfile
  cases parallelism <;> cases recoveryMode <;> rcases statistics with
    _ | (_ | _) <;> rfl

/-- Without a callback this is the opening code as it was described before. -/
theorem RocksDbCFStore.openOptions_noCustom (cfg : OpenConfig BaseCfConfig)
    (tunableOrder : HashOrder String CustomTunable)
    (loggedOrder : HashOrder String LoggedTunable)
    (configOrder : HashOrder String BaseCfConfig) :
    openOptions numCpus orders ⟨cfg, none⟩ tunableOrder configOrder =
      (dbWideOptions numCpus cfg.toDbWideConfig,
        cfDescriptors orders cfg loggedOrder configOrder) := by
  rw [openOptions_eq, cfDescriptors_eq]
  congr 1
  apply describeEach_congr
  intro name member
  have handed := handedOut_lookup cfg name
  rw [if_pos member] at handed
  have found : (customized numCpus ⟨cfg, none⟩).2.lookup name = _ := handed
  rw [found, ← configured_fresh]
  cases cfg.columnFamilyConfigs.lookup name with
  | none => simp [tunedFamily, LoggedTunable.handOut, ownCalls]
  | some config =>
      simp [tunedFamily, LoggedTunable.handOut, ownCalls, applyCfConfig_eq]

/-- So is the other path. -/
theorem OpenDbInternal.openOptions_noCustom (cfg : OpenConfig CFTxConfig)
    (engine : TransactionalEngine)
    (mutOrder tunableOrder : HashOrder String CustomTunable)
    (loggedOrder : HashOrder String LoggedTunable)
    (configOrder : HashOrder String CFTxConfig) :
    openOptions numCpus orders ⟨cfg, none, engine⟩ mutOrder tunableOrder
        configOrder =
      (openDbInternalOptions numCpus cfg.toDbWideConfig,
        cfDescriptors orders cfg loggedOrder configOrder) := by
  rw [openOptions_eq, cfDescriptors_eq]
  congr 1
  apply describeEach_congr
  intro name member
  rw [← configured_fresh, customizedFamily]
  cases (cfg.columnFamilyConfigs.lookup name).map (·.baseConfig) with
  | none => simp [tunedFamily, LoggedTunable.handOut, ownCalls]
  | some config =>
      simp [tunedFamily, LoggedTunable.handOut, ownCalls,
        RocksDbCFStore.applyCfConfig_eq]

theorem Config.lookup_defaultCfConfigs {C : Type} (config : C) :
    (defaultCfConfigs config).lookup defaultColumnFamilyName = some config :=
  Finmap.lookup_insert _

/-- Both conversions of the optimistic wrapper's configuration lead to the same
one for the shared opening code. -/
theorem Config.RocksDbOptimisticTxnStoreConfig.into_into
    (cfg : RocksDbOptimisticTxnStoreConfig) :
    cfg.into.into = cfg.intoTransactional := by
  have sameConfigs : (defaultCfConfigs (CFOptimisticTxnConfig.mk
      cfg.baseConfig)).mapValues (fun optCfg => CFTxConfig.mk optCfg.baseConfig) =
        defaultCfConfigs (CFTxConfig.mk cfg.baseConfig) := by
    apply Finmap.ext_lookup
    intro name
    rw [HashMap.lookup_mapValues, defaultCfConfigs, defaultCfConfigs,
      HashMap.lookup_insert_eq, HashMap.lookup_insert_eq]
    split <;> rfl
  rw [RocksDbCFOptimisticTxnStoreConfig.into, into, sameConfigs]
  rfl

/-- What a transactional wrapper's callback makes of them. -/
theorem Config.RocksDbTxnStoreConfig.customizedFamily_into
    (cfg : RocksDbTxnStoreConfig) (engine : TransactionalEngine) :
    OpenDbInternal.customizedFamily { cfg.into with engine }
      defaultColumnFamilyName = cfg.defaultFamily := by
  have own : (cfg.into.columnFamilyConfigs.lookup defaultColumnFamilyName).map
      (·.baseConfig) = some cfg.baseConfig :=
    congrArg (Option.map CFTxConfig.baseConfig) (lookup_defaultCfConfigs _)
  have given : cfg.into.customOptionsDbAndCf =
      cfg.customOptionsDefaultCfAndDb.map customDbAndAllCfCallback := rfl
  rw [OpenDbInternal.customizedFamily, DefaultCfTxConfig.defaultFamily, own,
    given]
  cases cfg.customOptionsDefaultCfAndDb with
  | none => rfl
  | some userFn =>
      rw [Option.map_some, Option.elim_some, customDbAndAllCfCallback,
        if_pos rfl]
      rfl

/-- What the plain wrapper's callback makes of the handed out options. -/
theorem Config.DefaultCfTxConfig.customized_forStore
    (cfg : Config.DefaultCfTxConfig) :
    let customized := RocksDbCFStore.customized numCpus cfg.forStore.into
    customized.1.inner =
        openDbInternalOptions numCpus cfg.forStore.into.toDbWideConfig ∧
      customized.2.lookup defaultColumnFamilyName = some cfg.defaultFamily := by
  have handed : (RocksDbCFStore.handedOut numCpus
      cfg.forStore.into).2.lookup defaultColumnFamilyName =
        some (tunedFamily none (some cfg.baseConfig)) := by
    refine (RocksDbCFStore.handedOut_lookup cfg.forStore.into.toOpenConfig
      defaultColumnFamilyName).trans ?_
    exact congrArg (fun own => some (tunedFamily none own))
      (lookup_defaultCfConfigs cfg.baseConfig)
  have given : cfg.forStore.into.customOptionsDbAndCf =
      cfg.customOptionsDefaultCfAndDb.map fun userFn =>
        customDbAndCfCallback fun dbOpts defaultCfOpts =>
          (dbOpts, userFn defaultColumnFamilyName defaultCfOpts) := by
    rw [RocksDbStoreConfig.into, forStore, Option.map_map]
    rfl
  have dbWide := tuneDbWide_noProfile numCpus cfg.forStore.into.toDbWideConfig
    rfl
  rw [RocksDbCFStore.customized, given, ← dbWide, defaultFamily]
  cases cfg.customOptionsDefaultCfAndDb with
  | none => exact ⟨rfl, handed⟩
  | some userFn =>
      simp only [Option.map_some, Option.elim_some, customDbAndCfCallback,
        handed]
      exact ⟨rfl, Finmap.lookup_insert _⟩

end Wrappers

/-- The three default-family wrappers open their database alike: with the same
DB-wide options and the default family alone, whose options are tuned, changed by
the callback, and then those that are configured, whatever the order of the hash
maps; the optimistic one by either conversion of its configuration. -/
theorem wrappers_open_alike (numCpus : UInt64) (orders : NaturalOrders)
    (cfg : Config.DefaultCfTxConfig)
    (mutOrder tunableOrder : HashOrder String CustomTunable)
    (configOrder : HashOrder String BaseCfConfig)
    (txnConfigOrder : HashOrder String CFTxConfig) :
    let txnCfg : Config.RocksDbTxnStoreConfig := ⟨cfg⟩
    let optimisticCfg : Config.RocksDbOptimisticTxnStoreConfig := ⟨cfg⟩
    let opened := RocksDbCFStore.openOptions numCpus orders cfg.forStore.into
      tunableOrder configOrder
    let openedTxn := fun txnCfg => OpenDbInternal.openOptions numCpus orders
      txnCfg mutOrder tunableOrder txnConfigOrder
    opened.2 = [⟨defaultColumnFamilyName, cfg.defaultFamily.inner ++
        ownCalls orders (some cfg.baseConfig)⟩] ∧
      openedTxn txnCfg.into = opened ∧
      openedTxn optimisticCfg.into.into = opened ∧
      openedTxn optimisticCfg.intoTransactional = opened := by
  intro txnCfg optimisticCfg opened openedTxn
  obtain ⟨dbWide, left⟩ := cfg.customized_forStore numCpus
  have single (calls : String → CalledOptions) :
      describeEach [defaultColumnFamilyName] calls =
        [⟨defaultColumnFamilyName, calls defaultColumnFamilyName⟩] := rfl
  have families : opened = (openDbInternalOptions numCpus
      cfg.forStore.into.toDbWideConfig, [⟨defaultColumnFamilyName,
        cfg.defaultFamily.inner ++ ownCalls orders (some cfg.baseConfig)⟩]) := by
    refine (RocksDbCFStore.openOptions_eq numCpus orders _ _ _).trans ?_
    rw [dbWide]
    refine congrArg (Prod.mk _) ((single _).trans ?_)
    rw [left]
    exact congrArg (fun own => [ColumnFamilyDescriptor.mk _
      (cfg.defaultFamily.inner ++ ownCalls orders own)])
      (Config.lookup_defaultCfConfigs cfg.baseConfig)
  have asStore (engine : TransactionalEngine) :
      openedTxn { txnCfg.into with engine } = opened := by
    rw [families]
    refine (OpenDbInternal.openOptions_eq numCpus orders _ _ _ _).trans ?_
    refine congrArg (Prod.mk _) ((single _).trans ?_)
    rw [txnCfg.customizedFamily_into]
    exact congrArg (fun own => [ColumnFamilyDescriptor.mk _
      (cfg.defaultFamily.inner ++
        ownCalls orders (Option.map CFTxConfig.baseConfig own))])
      (Config.lookup_defaultCfConfigs (CFTxConfig.mk cfg.baseConfig))
  have direct : openedTxn optimisticCfg.intoTransactional = opened :=
    asStore .optimistic
  refine ⟨congrArg Prod.snd families, asStore .pessimistic, ?_, direct⟩
  rw [optimisticCfg.into_into]
  exact direct

section Destroying

variable {setter : Setter} {first second : Tunable} (numCpus : UInt64)

theorem recordModeAndStatistics_sameAt (recoveryMode : Option RecoveryMode)
    (enableStatistics : Option Bool) (same : SameAt setter first second) :
    SameAt setter
      (recordModeAndStatistics recoveryMode enableStatistics first)
      (recordModeAndStatistics recoveryMode enableStatistics second) := by
  have withStatistics {first second : Tunable}
      (same : SameAt setter first second) :
      SameAt setter (recordModeAndStatistics none enableStatistics first)
        (recordModeAndStatistics none enableStatistics second) := by
    rcases enableStatistics with _ | _ | _
    · exact same
    · exact same
    · exact same.record .enableStatistics ()
  cases recoveryMode with
  | none => exact withStatistics same
  | some mode => exact withStatistics (same.record .walRecoveryMode mode)

theorem tuneWith_sameAt (profile : Option TuningProfile)
    (same : SameAt setter first second) :
    SameAt setter (tuneWith numCpus profile first)
      (tuneWith numCpus profile second) := by
  cases profile with
  | none => exact same
  | some profile => exact same.run (profile.dbCalls numCpus)

/-- Tuning treats a setting alike where it finds it alike. -/
theorem RocksDbCFStore.tuneDbWide_sameAt (cfg : DbWideConfig)
    (same : SameAt setter first second) :
    SameAt setter (tuneDbWide numCpus cfg first)
      (tuneDbWide numCpus cfg second) := by
  apply tuneWith_sameAt
  apply recordModeAndStatistics_sameAt
  cases cfg.parallelism with
  | none => exact same
  | some p => exact same.apply (.set .increaseParallelism p)

end Destroying

/-- `destroy` passes on the settings that `open` without a callback passes on, but
for the two that say what to create: whatever the profile when the store's
configuration has no callback, and for the plain wrapper whatever its callback,
which `destroy` never calls. -/
theorem destroy_settings (numCpus : UInt64) (orders : NaturalOrders)
    (tunableOrder : HashOrder String CustomTunable)
    (configOrder : HashOrder String BaseCfConfig) :
    (∀ (cfg : OpenConfig BaseCfConfig) (setter : Setter),
      setter ∈ [.createIfMissing, .createMissingColumnFamilies] ∨
        RocksDbCFStore.destroyOptions numCpus ⟨cfg, none⟩ setter =
          (RocksDbCFStore.openOptions numCpus orders ⟨cfg, none⟩ tunableOrder
            configOrder).1 setter) ∧
      ∀ (cfg : Config.RocksDbStoreConfig) (setter : Setter),
        setter ∈ [.createIfMissing, .createMissingColumnFamilies] ∨
          RocksDbCFStore.destroyOptions numCpus cfg.into setter =
            (RocksDbCFStore.openOptions numCpus orders
              { cfg with customOptionsDefaultCfAndDb := none }.into tunableOrder
              configOrder).1 setter := by
  have settled : ∀ (cfg : OpenConfig BaseCfConfig) (setter : Setter),
      setter ∈ [.createIfMissing, .createMissingColumnFamilies] ∨
        RocksDbCFStore.destroyOptions numCpus ⟨cfg, none⟩ setter =
          (RocksDbCFStore.openOptions numCpus orders ⟨cfg, none⟩ tunableOrder
            configOrder).1 setter := by
    intro cfg setter
    by_cases creates : setter ∈
        [Setter.createIfMissing, .createMissingColumnFamilies]
    · exact .inl creates
    · rw [List.mem_cons, List.mem_singleton, not_or] at creates
      have fresh : SameAt setter (.new Options.default : Tunable)
          (((LockedSettings.new Options.default : Tunable).record
            .createIfMissing cfg.createIfMissing).record
              .createMissingColumnFamilies cfg.createIfMissing) := by
        refine ⟨rfl, ?_⟩
        rw [LockedSettings.record_inner_of_ne _ _ creates.2,
          LockedSettings.record_inner_of_ne _ _ creates.1]
      exact .inr (RocksDbCFStore.tuneDbWide_sameAt numCpus cfg.toDbWideConfig
        fresh).recorded
  refine ⟨settled, fun cfg setter => ?_⟩
  have notCalled : RocksDbCFStore.destroyOptions numCpus cfg.into =
      RocksDbCFStore.destroyOptions numCpus
        { cfg with customOptionsDefaultCfAndDb := none }.into := by
    obtain ⟨_, _, _, _, _, custom, _, _, _⟩ := cfg
    cases custom <;> rfl
  rw [notCalled]
  exact settled _ setter

end RockSolid
