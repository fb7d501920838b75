/-
Module: RockSolid.Proofs.FamilyOptions
Layer: Proofs
Purpose: Both opening paths give every family the calls of its own configuration,
  whatever the order in which hash maps are iterated.  The map of the options is
  followed at one name through each loop: filled, unwrapped, changed and emptied.
Trusted boundary: none
Main exports: log_tuneLoggedCfOpts, RocksDbCFStore.cfDescriptors_eq,
  OpenDbInternal.cfDescriptors_eq, familyCalls_settings, familyCalls_comparator,
  familyCalls_fullMerge, openPaths_describe
-/
import RockSolid.Proofs.TunedOptions
import RockSolid.Semantics.FamilyOptions

namespace RockSolid

open Foundation

section Profiles

/-- On fresh options a profile makes every call it has. -/
theorem log_tuneLoggedCfOpts (profile : TuningProfile) :
    (profile.tuneLoggedCfOpts .fresh).log =
      profile.cfCalls.map SetterCall.made := by
  rw [TuningProfile.tuneLoggedCfOpts]
  cases fifo : profile.usesFifo with
  | false => exact LoggedSettings.log_run_tunes (profile.cfCalls_tunes fifo)
  | true =>
      obtain ⟨tunes, calls, conditional⟩ := profile.cfCalls_fifo fifo
      rw [calls]
      exact LoggedSettings.log_run_tunes_set conditional _ _

theorem intoInner_tuneCfWith (profile : Option TuningProfile) :
    (tuneCfWith profile .fresh).intoInner = profile.elim [] (·.madeCfCalls) := by
  cases profile with
  | none => rfl
  | some profile =>
      rw [tuneCfWith, LoggedTunable.intoInner, log_tuneLoggedCfOpts,
        List.map_map]
      rfl

/-- The calls of a profile, replayed, leave the settings that tuning leaves. -/
theorem replay_cfCalls (profile : TuningProfile) :
    Options.default.replay (profile.cfCalls.map SetterCall.made) =
      (profile.tuneCfOpts (.new Options.default)).inner := by
  rw [← log_tuneLoggedCfOpts]
  exact (profile.tuneLoggedCfOpts .fresh).replays.symm

end Profiles

section Configurations

variable (orders : NaturalOrders) (opts : CalledOptions)

/-- `apply_to_opts` makes the call that the option stands for, if there is one. -/
theorem applyComparator_eq (opt : RockSolidComparatorOpt) :
    opts.applyComparator orders opt = opts ++ (opt.call orders).toList := by
  cases opt with
  | none => exact (List.append_nil opts).symm
  | naturalLexicographical ignoreCase => cases ignoreCase <;> rfl
  | natural ignoreCase => cases ignoreCase <;> rfl

/-- What one pass of the loop over the configurations adds. -/
theorem RocksDbCFStore.applyCfConfig_eq (config : BaseCfConfig) :
    applyCfConfig orders config opts =
      opts ++ (config.mergeOperator.map (·.call)).toList ++
        (config.comparator.bind (·.call orders)).toList ++
        (config.compactionFilterRouter.map (·.call)).toList := by
  obtain ⟨profile, mergeOperator, comparator, filterRouter⟩ := config
  rw [applyCfConfig]
  cases mergeOperator <;> cases comparator <;> cases filterRouter <;>
    simp [applyComparator_eq, CalledOptions.setMergeOperator,
      CalledOptions.setCompactionFilter, MergeOperatorCfConfig.call,
      RockSolidMergeOperatorCfConfig.installedFullMerge,
      RockSolidCompactionFilterRouterConfig.call]

/-- The other path's loop adds the same. -/
theorem OpenDbInternal.applyCfConfig_eq (config : CFTxConfig) :
    applyCfConfig orders config opts =
      RocksDbCFStore.applyCfConfig orders config.baseConfig opts := rfl

end Configurations

section Pipelines

variable (orders : NaturalOrders)

/-- Descriptors taken from a map that has the options of every name. -/
theorem takeEach_eq_describeEach {names : List String}
    {options : HashMap String CalledOptions} {calls : String → CalledOptions}
    (found : ∀ name ∈ names, options.lookup name = some (calls name)) :
    ((HashMap.takeEach names options).map
      fun (nameStr, cfOpts) => (⟨nameStr, cfOpts.getD []⟩ :
        ColumnFamilyDescriptor)) = describeEach names calls := by
  apply List.ext_getElem?
  intro i
  rw [List.getElem?_map, HashMap.getElem?_takeEach, describeEach,
    List.getElem?_mapIdx, Option.map_map]
  cases position : names[i]? with
  | none => rfl
  | some name =>
      have member := List.mem_of_getElem? position
      by_cases repeated : name ∈ names.take i
      · simp [repeated]
      · simp [repeated, found name member]

/-- The default family has options like the others: nothing is added for it. -/
theorem tunedMap_lookup {names : List String} {tuned : String → LoggedTunable}
    (extra : LoggedTunable) (name : String) :
    let filled := names.foldl (fun map name => map.insert name (tuned name))
      (∅ : HashMap String LoggedTunable)
    (if defaultColumnFamilyName ∈ names ∧ defaultColumnFamilyName ∉ filled then
        filled.insert defaultColumnFamilyName extra
      else filled).lookup name =
      if name ∈ names then some (tuned name) else none := by
  intro filled
  have lookups (name : String) : filled.lookup name =
      if name ∈ names then some (tuned name) else none :=
    HashMap.lookup_fill tuned names ∅ name
  have notAdded : ¬ (defaultColumnFamilyName ∈ names ∧
      defaultColumnFamilyName ∉ filled) := by
    rintro ⟨listed, absent⟩
    rw [← Finmap.lookup_eq_none, lookups, if_pos listed] at absent
    cases absent
  rw [if_neg notAdded, lookups]

/-- Unwrapping all options and then changing those that have a configuration, at
one name. -/
theorem rawOptions_lookup {C : Type} (tunableOrder : HashOrder String LoggedTunable)
    (configOrder : HashOrder String C) (configs : HashMap String C)
    (change : C → CalledOptions → CalledOptions)
    {tunables : HashMap String LoggedTunable} {name : String}
    {tuned : LoggedTunable} (found : tunables.lookup name = some tuned) :
    (configOrder.forEach configs
      (fun options cfName config => options.modify cfName (change config))
      (tunableOrder.forEach tunables
        (fun options name tunableOpts =>
          options.insert name tunableOpts.intoInner)
        (∅ : HashMap String CalledOptions))).lookup name =
      some ((configs.lookup name).elim id change tuned.intoInner) := by
  rw [configOrder.lookup_modifyEach, tunableOrder.lookup_collect, found]
  cases configs.lookup name <;> rfl

/-- What tuning and a configuration make of fresh options. -/
theorem configured_fresh (dbTuningProfile : Option TuningProfile)
    (own : Option BaseCfConfig) :
    own.elim id (RocksDbCFStore.applyCfConfig orders)
      (tuneCfWith ((own.bind (·.tuningProfile)).or dbTuningProfile)
        .fresh).intoInner = familyCalls orders dbTuningProfile own := by
  rw [intoInner_tuneCfWith]
  cases own with
  | none => simp [familyCalls]
  | some config => exact RocksDbCFStore.applyCfConfig_eq orders _ config

theorem RocksDbCFStore.cfOptionsMapTunable_lookup (cfg : OpenConfig BaseCfConfig)
    {name : String} (member : name ∈ cfg.columnFamiliesToOpen) :
    (cfOptionsMapTunable cfg).lookup name =
      some (tuneCfWith (((cfg.columnFamilyConfigs.lookup name).bind
        (·.tuningProfile)).or cfg.dbTuningProfile) .fresh) :=
  (tunedMap_lookup _ name).trans (if_pos member)

theorem OpenDbInternal.cfOptionsMapTunable_lookup (cfg : OpenConfig CFTxConfig)
    {name : String} (member : name ∈ cfg.columnFamiliesToOpen) :
    (cfOptionsMapTunable cfg).lookup name =
      some (tuneCfWith (((cfg.columnFamilyConfigs.lookup name).bind
        (·.baseConfig.tuningProfile)).or cfg.dbTuningProfile) .fresh) :=
  (tunedMap_lookup _ name).trans (if_pos member)

theorem RocksDbCFStore.cfDescriptors_eq (cfg : OpenConfig BaseCfConfig)
    (tunableOrder : HashOrder String LoggedTunable)
    (configOrder : HashOrder String BaseCfConfig) :
    cfDescriptors orders cfg tunableOrder configOrder =
      describeEach cfg.columnFamiliesToOpen fun name =>
        familyCalls orders cfg.dbTuningProfile
          (cfg.columnFamilyConfigs.lookup name) := by
  apply takeEach_eq_describeEach
  intro name member
  have tuned := cfOptionsMapTunable_lookup cfg member
  apply (rawOptions_lookup tunableOrder configOrder _ _ tuned).trans
  exact congrArg some (configured_fresh orders cfg.dbTuningProfile _)

theorem OpenDbInternal.cfDescriptors_eq (cfg : OpenConfig CFTxConfig)
    (tunableOrder : HashOrder String LoggedTunable)
    (configOrder : HashOrder String CFTxConfig) :
    cfDescriptors orders cfg tunableOrder configOrder =
      describeEach cfg.columnFamiliesToOpen fun name =>
        familyCalls orders cfg.dbTuningProfile
          ((cfg.columnFamilyConfigs.lookup name).map (·.baseConfig)) := by
  apply takeEach_eq_describeEach
  intro name member
  have tuned := cfOptionsMapTunable_lookup cfg member
  apply (rawOptions_lookup tunableOrder configOrder _ _ tuned).trans
  have configured := configured_fresh orders cfg.dbTuningProfile
    ((cfg.columnFamilyConfigs.lookup name).map (·.baseConfig))
  rw [← configured]
  cases cfg.columnFamilyConfigs.lookup name with
  | none => rfl
  | some config => exact congrArg some (applyCfConfig_eq orders _ config)

end Pipelines

section Descriptors

variable (names : List String) (calls : String → CalledOptions)

theorem map_name_describeEach :
    (describeEach names calls).map (·.name) = names := by
  apply List.ext_getElem?
  intro i
  rw [List.getElem?_map, describeEach, List.getElem?_mapIdx, Option.map_map]
  exact Option.map_id'

/-- The first descriptor of a name has its calls. -/
theorem find?_describeEach (name : String) :
    (describeEach names calls).find? (·.name == name) =
      if name ∈ names then some ⟨name, calls name⟩ else none := by
  split
  · next member =>
      have position := List.idxOf_lt_length_iff.mpr member
      have before (i : Nat) (least : i ≤ names.idxOf name) :
          name ∉ names.take i := by
        rw [List.mem_take_iff_idxOf_lt member]
        exact Nat.not_lt.mpr least
      apply List.find?_eq_some_iff_getElem.mpr
      refine ⟨beq_self_eq_true name, names.idxOf name, ?_, ?_, ?_⟩
      · rw [describeEach, List.length_mapIdx]
        exact position
      · simp only [describeEach, List.getElem_mapIdx, List.getElem_idxOf,
          if_neg (before _ (Nat.le_refl _))]
      · intro i earlier
        simp only [describeEach, List.getElem_mapIdx, Bool.not_eq_true',
          beq_eq_false_iff_ne]
        intro same
        apply before (i + 1) earlier
        rw [← same]
        exact List.mem_take_iff_getElem.mpr ⟨i, by omega, rfl⟩
  · next absent =>
      apply List.find?_eq_none.mpr
      intro descriptor member
      have named := List.mem_map_of_mem (f := ColumnFamilyDescriptor.name) member
      rw [map_name_describeEach] at named
      rw [beq_iff_eq]
      rintro rfl
      exact absent named

example : describeEach ["orders", "default", "orders"] calls =
    [⟨"orders", calls "orders"⟩, ⟨"default", calls "default"⟩,
      ⟨"orders", []⟩] := rfl

end Descriptors

section InForce

variable (orders : NaturalOrders) (dbTuningProfile : Option TuningProfile)
  (own : Option BaseCfConfig)

/-- Of the calls of a family, those of one kind: tuning is followed by at most one
call of each of the others. -/
theorem familyCalls_filterMap {A : Type} (read : OptionsCall → Option A) :
    (familyCalls orders dbTuningProfile own).filterMap read =
      (((own.bind (·.tuningProfile)).or dbTuningProfile).elim []
          (·.madeCfCalls)).filterMap read ++
        ((own.bind (·.mergeOperator)).bind fun config =>
          read config.call).toList ++
        (((own.bind (·.comparator)).bind (·.call orders)).bind read).toList ++
        ((own.bind (·.compactionFilterRouter)).bind fun config =>
          read config.call).toList := by
  have single (call : Option OptionsCall) :
      call.toList.filterMap read = (call.bind read).toList := by
    cases call with
    | none => rfl
    | some call => cases answer : read call <;> simp [answer]
  rw [familyCalls, List.filterMap_append, List.filterMap_append,
    List.filterMap_append, single, single, single, Option.bind_map,
    Option.bind_map]
  rfl

/-- What is not read from tuning is not among its calls. -/
theorem madeCfCalls_filterMap {A : Type} {read : OptionsCall → Option A}
    (skips : ∀ call, read (.setter call) = none)
    (profile : Option TuningProfile) :
    (profile.elim [] (·.madeCfCalls)).filterMap read = [] := by
  cases profile with
  | none => rfl
  | some profile =>
      rw [Option.elim_some, TuningProfile.madeCfCalls, List.filterMap_map]
      exact List.filterMap_eq_nil_iff.mpr fun call _ => skips call.made

theorem comparatorCall_bind {A : Type} {read : OptionsCall → Option A}
    (skips : ∀ name cmp, read (.setComparator name cmp) = none)
    (choice : Option RockSolidComparatorOpt) :
    (choice.bind (·.call orders)).bind read = none := by
  cases choice with
  | none => rfl
  | some opt =>
      rw [Option.bind_some, RockSolidComparatorOpt.call, Option.bind_map]
      cases opt.installedName with
      | none => rfl
      | some name => exact skips name _

/-- The settings in force are those that tuning leaves. -/
theorem familyCalls_settings :
    (familyCalls orders dbTuningProfile own).settings =
      ((own.bind (·.tuningProfile)).or dbTuningProfile).elim Options.default
        fun profile => (profile.tuneCfOpts (.new Options.default)).inner := by
  have tuning (profile : TuningProfile) :
      profile.madeCfCalls.filterMap CalledOptions.setterCall =
        profile.cfCalls.map SetterCall.made := by
    rw [TuningProfile.madeCfCalls, List.filterMap_map]
    exact congrFun List.filterMap_eq_map _
  rw [CalledOptions.settings, familyCalls_filterMap,
    comparatorCall_bind orders fun _ _ => rfl]
  simp only [CalledOptions.setterCall, MergeOperatorCfConfig.call,
    RockSolidCompactionFilterRouterConfig.call, Option.bind_fun_none,
    Option.toList_none, List.append_nil]
  cases (own.bind (·.tuningProfile)).or dbTuningProfile with
  | none => rfl
  | some profile =>
      rw [Option.elim_some, Option.elim_some, tuning, replay_cfCalls]

/-- The comparator in force is the one that the family's option stands for. -/
theorem familyCalls_comparator :
    (familyCalls orders dbTuningProfile own).comparator =
      installedComparator orders ((own.bind (·.comparator)).getD .none) := by
  rw [CalledOptions.comparator, familyCalls_filterMap,
    madeCfCalls_filterMap fun _ => rfl]
  simp only [CalledOptions.comparatorCall, MergeOperatorCfConfig.call,
    RockSolidCompactionFilterRouterConfig.call, Option.bind_fun_none,
    Option.toList_none, List.append_nil, List.nil_append]
  cases own.bind (·.comparator) with
  | none => rfl
  | some opt =>
      cases opt with
      | none => rfl
      | naturalLexicographical ignoreCase => cases ignoreCase <;> rfl
      | natural ignoreCase => cases ignoreCase <;> rfl

/-- The full merge in force is the one installed for the family. -/
theorem familyCalls_fullMerge :
    (familyCalls orders dbTuningProfile own).fullMerge =
      (own.bind (·.mergeOperator)).map (·.installedFullMerge) := by
  rw [CalledOptions.fullMerge, familyCalls_filterMap,
    comparatorCall_bind orders fun _ _ => rfl,
    madeCfCalls_filterMap fun _ => rfl]
  simp only [CalledOptions.mergeCall, MergeOperatorCfConfig.call,
    RockSolidCompactionFilterRouterConfig.call, Option.bind_fun_none,
    Option.toList_none, List.append_nil, List.nil_append]
  cases own.bind (·.mergeOperator) <;> rfl

end InForce

/-- Whatever the order in which the hash maps are iterated, both paths make the
same descriptors: one for each position of the list, and for each name first the
one that has the calls of its own configuration and no others. -/
theorem openPaths_describe (orders : NaturalOrders)
    (cfg : OpenConfig BaseCfConfig)
    (tunableOrder : HashOrder String LoggedTunable)
    (configOrder : HashOrder String BaseCfConfig) :
    let descriptors :=
      RocksDbCFStore.cfDescriptors orders cfg tunableOrder configOrder
    (∀ tunableOrder' configOrder', RocksDbCFStore.cfDescriptors orders cfg
        tunableOrder' configOrder' = descriptors) ∧
      (∀ tunableOrder' configOrder', OpenDbInternal.cfDescriptors orders
        cfg.transactional tunableOrder' configOrder' = descriptors) ∧
      descriptors.map (·.name) = cfg.columnFamiliesToOpen ∧
      ∀ name, descriptors.find? (·.name == name) =
        if name ∈ cfg.columnFamiliesToOpen then
          some ⟨name, familyCalls orders cfg.dbTuningProfile
            (cfg.columnFamilyConfigs.lookup name)⟩
        else none := by
  intro descriptors
  have described := RocksDbCFStore.cfDescriptors_eq orders cfg
  have here := described tunableOrder configOrder
  refine ⟨?_, ?_, ?_, ?_⟩
  · intro tunableOrder' configOrder'
    exact (described tunableOrder' configOrder').trans here.symm
  · intro tunableOrder' configOrder'
    rw [OpenDbInternal.cfDescriptors_eq]
    apply Eq.trans _ here.symm
    congr 1
    funext name
    rw [OpenConfig.transactional, HashMap.lookup_mapValues, Option.map_map]
    exact congrArg _ Option.map_id'
  · exact (congrArg (List.map ColumnFamilyDescriptor.name) here).trans
      (map_name_describeEach _ _)
  · intro name
    exact (congrArg (List.find? (·.name == name)) here).trans
      (find?_describeEach _ _ name)

end RockSolid
