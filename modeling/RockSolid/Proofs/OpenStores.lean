/-
Module: RockSolid.Proofs.OpenStores
Layer: Proofs
Purpose: What opening a store does, from every configuration and on every
  directory, and what it means for later openings.  The engine creates the
  families before the wrong kind of database is noticed; what has been created
  has to be listed from then on.
Trusted boundary: none
Main exports: openDescriptors_cases, OpenCall.outcome, OnDisk.families_after,
  earlier_families_required
-/
import RockSolid.Core.OpenOptimistic
import RockSolid.Proofs.CustomOptions
import RockSolid.Semantics.OpenStores

namespace RockSolid

open Foundation

variable {disk : OnDisk} {fault : Option Fault}

/-- The engine opens a directory only when its families are listed. -/
theorem OnDisk.listed_of_openCfDescriptors {opened : OnDisk}
    {createMissing : Bool} {names : List String}
    (succeeded : disk.openCfDescriptors createMissing names fault = .ok opened) :
    ∀ cf ∈ disk.columnFamilies, cf = defaultColumnFamilyName ∨ cf ∈ names := by
  have allListed : disk.unopened names = [] := by
    rw [openCfDescriptors.eq_def] at succeeded
    split at succeeded
    · cases succeeded
    · cases succeeded
    · next same _ => exact same
    · next same _ => exact same
  intro cf present
  have notLeftOut := List.filter_eq_nil_iff.mp allListed cf present
  simpa [or_iff_not_imp_left] using notLeftOut

/-- The engine call refuses, or opens the directory with the missing families
added. -/
theorem openDescriptors_cases (rawDbOpts : Options) {names : List String}
    {descriptors : List ColumnFamilyDescriptor}
    (named : descriptors.map (·.name) = names) (fault : Option Fault)
    (disk : OnDisk) :
    (∃ e, openDescriptors rawDbOpts descriptors fault disk =
        (.error (.rocksDb e), disk)) ∨
      (∀ cf ∈ disk.columnFamilies, cf = defaultColumnFamilyName ∨ cf ∈ names) ∧
        openDescriptors rawDbOpts descriptors fault disk =
          (.ok ⟨(disk.create names).columnFamilies, mergeOf descriptors⟩,
            disk.create names) := by
  subst named
  rw [openDescriptors]
  cases result : disk.openCfDescriptors rawDbOpts.createsMissing
    (descriptors.map (·.name)) fault with
  | error e => exact .inl ⟨e, rfl⟩
  | ok opened =>
      have same := OnDisk.openCfDescriptors_ok result
      subst same
      exact .inr ⟨OnDisk.listed_of_openCfDescriptors result, rfl⟩

section Merging

variable {names : List String} {calls : String → CalledOptions} {cf : String}

/-- A listed family merges as its own calls say. -/
theorem mergeOf_describeEach (listed : cf ∈ names) {merge : MergeFn}
    (inForce : (calls cf).fullMerge = some merge) :
    mergeOf (describeEach names calls) cf = merge := by
  rw [mergeOf, find?_describeEach, if_pos listed, Option.bind_some, inForce,
    Option.getD_some]

end Merging

/-- A database that was opened with the listed families has those and the default
one. -/
theorem cfHandle_create {families : List String} {merge : String → MergeFn}
    (listed : ∀ cf ∈ disk.columnFamilies,
      cf = defaultColumnFamilyName ∨ cf ∈ families) (cf : String) :
    DbHandle.cfHandle ⟨(disk.create families).columnFamilies, merge⟩ cf =
      if cf = defaultColumnFamilyName ∨ cf ∈ families then some cf
      else none := by
  have there : cf ∈ (disk.create families).columnFamilies ↔
      cf = defaultColumnFamilyName ∨ cf ∈ families := by
    rw [OnDisk.mem_create_columnFamilies]
    constructor
    · rintro (before | added)
      · exact listed cf before
      · exact .inr added
    · rintro (isDefault | added)
      · exact .inl (isDefault ▸ disk.default_mem)
      · exact .inr added
  rw [DbHandle.cfHandle]
  simp only [there]

section Kinds

variable (env : OpenEnv) (fault : Option Fault) (disk : OnDisk)

/-- The database that `open` of the column-family store makes of a directory. -/
def RocksDbCFStore.openedDb (cfg : Config.RocksDbCFStoreConfig) : DbHandle :=
  ⟨(disk.create cfg.columnFamiliesToOpen).columnFamilies,
    mergeOf (openOptions env.numCpus env.orders cfg env.tunableOrder
      env.configOrder).2⟩

/-- The one that `_open_db_internal` makes of it. -/
def OpenDbInternal.openedDb (cfg : Config.RocksDbTransactionalStoreConfig) :
    DbHandle :=
  ⟨(disk.create cfg.columnFamiliesToOpen).columnFamilies,
    mergeOf (openOptions env.numCpus env.orders cfg env.mutOrder
      env.tunableOrder env.txnConfigOrder).2⟩

theorem RocksDbCFStore.openConfigured_cases (cfg : Config.RocksDbCFStoreConfig) :
    (∃ e, openConfigured env fault cfg disk = (.error (.rocksDb e), disk)) ∨
      (∀ cf ∈ disk.columnFamilies,
        cf = defaultColumnFamilyName ∨ cf ∈ cfg.columnFamiliesToOpen) ∧
        openConfigured env fault cfg disk =
          (.ok ⟨openedDb env disk cfg⟩,
            disk.create cfg.columnFamiliesToOpen) := by
  have named : (openOptions env.numCpus env.orders cfg env.tunableOrder
      env.configOrder).2.map (·.name) = cfg.columnFamiliesToOpen := by
    rw [openOptions_eq]
    exact map_name_describeEach _ _
  rw [openConfigured, Method.bind_apply]
  rcases openDescriptors_cases (openOptions env.numCpus env.orders cfg
    env.tunableOrder env.configOrder).1 named fault disk with
    ⟨e, refused⟩ | ⟨listed, opened⟩
  · rw [refused]
    exact .inl ⟨e, rfl⟩
  · rw [opened]
    exact .inr ⟨listed, rfl⟩

theorem openDbInternal_cases (cfg : Config.RocksDbTransactionalStoreConfig) :
    (∃ e, openDbInternal env fault cfg disk = (.error (.rocksDb e), disk)) ∨
      (∀ cf ∈ disk.columnFamilies,
        cf = defaultColumnFamilyName ∨ cf ∈ cfg.columnFamiliesToOpen) ∧
        openDbInternal env fault cfg disk =
          (.ok (if cfg.engine = .pessimistic then
              .inl (OpenDbInternal.openedDb env disk cfg)
            else .inr (OpenDbInternal.openedDb env disk cfg)),
            disk.create cfg.columnFamiliesToOpen) := by
  have named : (OpenDbInternal.openOptions env.numCpus env.orders cfg
      env.mutOrder env.tunableOrder env.txnConfigOrder).2.map (·.name) =
        cfg.columnFamiliesToOpen := by
    rw [OpenDbInternal.openOptions_eq]
    exact map_name_describeEach _ _
  rw [openDbInternal, Method.bind_apply]
  rcases openDescriptors_cases (OpenDbInternal.openOptions env.numCpus
    env.orders cfg env.mutOrder env.tunableOrder env.txnConfigOrder).1 named
    fault disk with ⟨e, refused⟩ | ⟨listed, opened⟩
  · rw [refused]
    exact .inl ⟨e, rfl⟩
  · rw [opened]
    refine .inr ⟨listed, ?_⟩
    cases cfg.engine <;> rfl

/-- Where the callback leaves a family's options, they merge as configured. -/
theorem RocksDbCFStore.openedDb_merges {cfg : Config.RocksDbCFStoreConfig}
    {cf : String} (listed : cf ∈ cfg.columnFamiliesToOpen)
    (kept : (customized env.numCpus cfg).2.lookup cf ≠ none)
    {config : MergeOperatorCfConfig}
    (configured : (cfg.columnFamilyConfigs.lookup cf).bind (·.mergeOperator) =
      some config) :
    (openedDb env disk cfg).fullMerge cf = config.installedFullMerge := by
  obtain ⟨tunable, left⟩ := Option.ne_none_iff_exists'.mp kept
  rw [openedDb, openOptions_eq]
  apply mergeOf_describeEach listed
  rw [left]
  exact (configuredInForce_append _ tunable.inner).mergeOperator config
    configured

theorem OpenDbInternal.openedDb_merges
    {cfg : Config.RocksDbTransactionalStoreConfig} {cf : String}
    (listed : cf ∈ cfg.columnFamiliesToOpen) {config : MergeOperatorCfConfig}
    (configured : ((cfg.columnFamilyConfigs.lookup cf).map
      (·.baseConfig)).bind (·.mergeOperator) = some config) :
    (openedDb env disk cfg).fullMerge cf = config.installedFullMerge := by
  rw [openedDb, openOptions_eq]
  apply mergeOf_describeEach listed
  exact (configuredInForce_append _ _).mergeOperator config configured

/-- The wrapper's callback changes the default family's options in their place. -/
theorem Config.RocksDbStoreConfig.keepsDefault
    (config : Config.RocksDbStoreConfig) :
    (RocksDbCFStore.customized env.numCpus config.into).2.lookup
      defaultColumnFamilyName ≠ none := by
  have handed := RocksDbCFStore.handedOut_lookup config.into.toOpenConfig
    defaultColumnFamilyName
  have listed : defaultColumnFamilyName ∈
      config.into.columnFamiliesToOpen := List.mem_singleton_self _
  rw [if_pos listed] at handed
  have handed : (RocksDbCFStore.handedOut env.numCpus config.into).2.lookup
      defaultColumnFamilyName = some _ := handed
  have given : config.into.customOptionsDbAndCf =
      config.customOptionsDefaultCfAndDb.map customDbAndCfCallback := rfl
  rw [RocksDbCFStore.customized, given]
  cases config.customOptionsDefaultCfAndDb with
  | none =>
      simp only [Option.map_none, Option.elim_none, handed]
      exact Option.some_ne_none _
  | some userFn =>
      simp only [Option.map_some, Option.elim_some, customDbAndCfCallback,
        handed, Finmap.lookup_insert]
      exact Option.some_ne_none _

end Kinds

section Served

variable {families : List String} {merge : String → MergeFn} {cf : String}

/-- A look-up that finds the listed families and refuses the others. -/
theorem CfAccess.family_exactly {access : CfAccess}
    (found : cf ∈ families → access.getCfHandle cf = .ok cf)
    (missing : cf ≠ defaultColumnFamilyName → cf ∉ families →
      access.getCfHandle cf = .error (.unknownCf cf)) :
    access.family cf =
      if cf = defaultColumnFamilyName ∨ cf ∈ families then .ok cf
      else .error (.unknownCf cf) := by
  rw [family]
  by_cases isDefault : cf = defaultColumnFamilyName
  · rw [if_pos isDefault, if_pos (.inl isDefault), isDefault]
  · rw [if_neg isDefault]
    by_cases member : cf ∈ families
    · rw [found member, if_pos (.inr member)]
    · rw [missing isDefault member, if_neg (not_or_intro isDefault member)]

variable (listed : ∀ cf ∈ disk.columnFamilies,
  cf = defaultColumnFamilyName ∨ cf ∈ families)

include listed

theorem RocksDbCFStore.serves_exactly (cf : String) :
    (RocksDbCFStore.mk
      ⟨(disk.create families).columnFamilies, merge⟩).access.family cf =
        if cf = defaultColumnFamilyName ∨ cf ∈ families then .ok cf
        else .error (.unknownCf cf) := by
  apply CfAccess.family_exactly
  · intro member
    simp only [access, getCfHandle, cfHandle_create listed,
      if_pos (Or.inr member)]
  · intro notDefault outside
    simp only [access, getCfHandle, cfHandle_create listed,
      if_neg (not_or_intro notDefault outside)]

/-- Both transactional stores look among the listed names first. -/
theorem configured_serves_exactly (cf : String) :
    CfAccess.family
      { db := ⟨(disk.create families).columnFamilies, merge⟩
        getCfHandle := getConfiguredCfHandle
          ⟨(disk.create families).columnFamilies, merge⟩ families } cf =
      if cf = defaultColumnFamilyName ∨ cf ∈ families then .ok cf
      else .error (.unknownCf cf) := by
  apply CfAccess.family_exactly
  · intro member
    simp only [getConfiguredCfHandle, if_neg (not_not_intro member),
      cfHandle_create listed, if_pos (Or.inr member)]
  · intro _ outside
    simp only [getConfiguredCfHandle, if_pos outside]

end Served

/-- A wrapper of a wrapped result. -/
theorem wrap_wrap {A B C : Type} (m : Method StoreError OnDisk A) (f : A → B)
    (g : B → C) (disk : OnDisk) :
    ((m >>= fun a => pure (f a)) >>= fun b => pure (g b)) disk =
      (m >>= fun a => pure (g (f a))) disk := by
  simp only [Method.bind_apply]
  rcases m disk with ⟨e | a, after⟩ <;> rfl

/-- A call that wraps what an opening method returns. -/
theorem OpenCall.outcome_of_returns {env : OpenEnv} {call : OpenCall} {A : Type}
    {m : Method StoreError OnDisk A} {wrap : A → Store} {store : A}
    (right : ¬ call.WrongEngine)
    (runs : call.run env fault disk = (m >>= fun a => pure (wrap a)) disk)
    (returns : (∃ e, m disk = (.error (.rocksDb e), disk)) ∨
      (∀ cf ∈ disk.columnFamilies,
        cf = defaultColumnFamilyName ∨ cf ∈ call.families) ∧
        m disk = (.ok store, disk.create call.families))
    (delivers : (∀ cf ∈ disk.columnFamilies,
        cf = defaultColumnFamilyName ∨ cf ∈ call.families) →
      call.Delivers env (disk.create call.families) (wrap store)) :
    call.Outcome env disk (call.run env fault disk) := by
  rw [runs, Method.bind_apply]
  rcases returns with ⟨e, refused⟩ | ⟨listed, opened⟩
  · rw [refused]
    exact .refused e
  · rw [opened]
    exact .opened _ right listed (delivers listed)

section Calls

variable (env : OpenEnv) (fault : Option Fault) (disk : OnDisk)

/-- `open` of the pessimistic store on a configuration for its engine. -/
theorem RocksDbCFTxnStore.openConfigured_cases
    (cfg : Config.RocksDbTransactionalStoreConfig)
    (engine : cfg.engine = .pessimistic) :
    (∃ e, openConfigured env fault cfg disk = (.error (.rocksDb e), disk)) ∨
      (∀ cf ∈ disk.columnFamilies,
        cf = defaultColumnFamilyName ∨ cf ∈ cfg.columnFamiliesToOpen) ∧
        openConfigured env fault cfg disk =
          (.ok ⟨OpenDbInternal.openedDb env disk cfg, cfg.columnFamiliesToOpen⟩,
            disk.create cfg.columnFamiliesToOpen) := by
  rw [openConfigured, Method.bind_apply]
  rcases openDbInternal_cases env fault disk cfg with
    ⟨e, refused⟩ | ⟨listed, opened⟩
  · rw [refused]
    exact .inl ⟨e, rfl⟩
  · rw [opened, if_pos engine]
    exact .inr ⟨listed, rfl⟩

/-- Its configuration is converted to one for its engine. -/
theorem RocksDbCFOptimisticTxnStore.openConfigured_cases
    (cfg : Config.RocksDbCFOptimisticTxnStoreConfig) :
    (∃ e, openConfigured env fault cfg disk = (.error (.rocksDb e), disk)) ∨
      (∀ cf ∈ disk.columnFamilies,
        cf = defaultColumnFamilyName ∨ cf ∈ cfg.columnFamiliesToOpen) ∧
        openConfigured env fault cfg disk =
          (.ok ⟨OpenDbInternal.openedDb env disk cfg.into,
              cfg.columnFamiliesToOpen⟩,
            disk.create cfg.columnFamiliesToOpen) := by
  rw [openConfigured, Method.bind_apply]
  have engine : cfg.into.engine ≠ .pessimistic := nofun
  rcases openDbInternal_cases env fault disk cfg.into with
    ⟨e, refused⟩ | ⟨listed, opened⟩
  · rw [refused]
    exact .inl ⟨e, rfl⟩
  · rw [opened, if_neg engine]
    exact .inr ⟨listed, rfl⟩

/-- A configuration for the other engine is refused once the directory is open. -/
theorem OpenCall.outcome_wrongEngine
    {cfg : Config.RocksDbTransactionalStoreConfig}
    (engine : cfg.engine = .optimistic) :
    (OpenCall.cfTxnStore cfg).Outcome env disk
      ((OpenCall.cfTxnStore cfg).run env fault disk) := by
  have notPessimistic : cfg.engine ≠ .pessimistic := by
    rw [engine]
    exact nofun
  rw [run, Method.bind_apply, RocksDbCFTxnStore.openConfigured,
    Method.bind_apply]
  rcases openDbInternal_cases env fault disk cfg with
    ⟨e, refused⟩ | ⟨listed, opened⟩
  · rw [refused]
    exact .refused e
  · rw [opened, if_neg notPessimistic]
    exact .wrongEngine _ engine listed

/-- What a transactional store delivers. -/
theorem OpenCall.delivers_transactional
    (cfg : Config.RocksDbTransactionalStoreConfig) {call : OpenCall}
    {store : Store}
    (access : store.access =
      { db := OpenDbInternal.openedDb env disk cfg
        getCfHandle := getConfiguredCfHandle
          (OpenDbInternal.openedDb env disk cfg) cfg.columnFamiliesToOpen })
    (families : call.families = cfg.columnFamiliesToOpen)
    (configured : ∀ cf, call.configured cf =
      (cfg.columnFamilyConfigs.lookup cf).map (·.baseConfig))
    (listed : ∀ cf ∈ disk.columnFamilies,
      cf = defaultColumnFamilyName ∨ cf ∈ call.families) :
    call.Delivers env (disk.create call.families) store where
  onDisk := by
    rw [access, families]
    rfl
  served := by
    intro cf
    rw [families] at listed ⊢
    rw [access]
    exact configured_serves_exactly listed cf
  merges := by
    intro cf member _ config asked
    rw [families] at member
    rw [configured] at asked
    rw [access]
    exact OpenDbInternal.openedDb_merges env disk member asked

/-- The configuration of an optimistic store, converted, is for each family the
same. -/
theorem Config.RocksDbCFOptimisticTxnStoreConfig.lookup_into
    (cfg : RocksDbCFOptimisticTxnStoreConfig) (cf : String) :
    (cfg.columnFamilyConfigs.lookup cf).map (·.baseConfig) =
      (cfg.into.columnFamilyConfigs.lookup cf).map (·.baseConfig) := by
  rw [into, HashMap.lookup_mapValues, Option.map_map]
  rfl

/-- Every outcome of every opening call. -/
theorem OpenCall.outcome (call : OpenCall) :
    call.Outcome env disk (call.run env fault disk) := by
  cases call with
  | cfStore cfg =>
      apply outcome_of_returns (by exact not_false) rfl
        (RocksDbCFStore.openConfigured_cases env fault disk cfg)
      intro required
      refine ⟨rfl, RocksDbCFStore.serves_exactly required, ?_⟩
      intro cf listed kept config configured
      exact RocksDbCFStore.openedDb_merges env disk listed kept configured
  | defaultStore config =>
      apply outcome_of_returns (by exact not_false)
        (wrap_wrap _ RocksDbStore.mk Store.defaultStore disk)
        (RocksDbCFStore.openConfigured_cases env fault disk config.into)
      intro required
      refine ⟨rfl, RocksDbCFStore.serves_exactly required, ?_⟩
      intro cf listed _ merge configured
      have isDefault : cf = defaultColumnFamilyName := List.mem_singleton.mp listed
      subst isDefault
      exact RocksDbCFStore.openedDb_merges env disk listed
        (config.keepsDefault env) configured
  | cfTxnStore cfg =>
      cases engine : cfg.engine with
      | pessimistic =>
          apply outcome_of_returns (by simp [WrongEngine, engine]) rfl
            (RocksDbCFTxnStore.openConfigured_cases env fault disk cfg engine)
          exact delivers_transactional env disk cfg rfl rfl fun _ => rfl
      | optimistic =>
          exact outcome_wrongEngine env fault disk engine
  | defaultTxnStore config =>
      apply outcome_of_returns (by exact not_false)
        (wrap_wrap _ RocksDbTxnStore.mk Store.defaultTxnStore disk)
        (RocksDbCFTxnStore.openConfigured_cases env fault disk config.into rfl)
      exact delivers_transactional env disk config.into rfl rfl fun _ => rfl
  | cfOptimisticTxnStore cfg =>
      apply outcome_of_returns (by exact not_false) rfl
        (RocksDbCFOptimisticTxnStore.openConfigured_cases env fault disk cfg)
      exact delivers_transactional env disk cfg.into rfl rfl cfg.lookup_into
  | defaultOptimisticTxnStore config =>
      apply outcome_of_returns (by exact not_false)
        (wrap_wrap _ RocksDbOptimisticTxnStore.mk Store.defaultOptimisticTxnStore
          disk)
        (RocksDbCFOptimisticTxnStore.openConfigured_cases env fault disk
          config.into)
      exact delivers_transactional env disk config.into.into rfl rfl
        config.into.lookup_into

/-- The optimistic store is opened as its family resolution assumes. -/
theorem RocksDbCFOptimisticTxnStore.openConfigured_eq_open
    (cfg : Config.RocksDbCFOptimisticTxnStoreConfig) :
    let opts := OpenDbInternal.openOptions env.numCpus env.orders cfg.into
      env.mutOrder env.tunableOrder env.txnConfigOrder
    openConfigured env fault cfg =
      RocksDbCFOptimisticTxnStore.open
        { createIfMissing := opts.1.createsMissing
          columnFamiliesToOpen := cfg.columnFamiliesToOpen
          fullMerge := mergeOf opts.2 } fault := by
  intro opts
  have named : opts.2.map (·.name) = cfg.columnFamiliesToOpen := by
    rw [show opts = _ from OpenDbInternal.openOptions_eq ..]
    exact map_name_describeEach _ _
  funext disk
  rw [openConfigured, Method.bind_apply, openDbInternal, Method.bind_apply,
    openDescriptors, named, RocksDbCFOptimisticTxnStore.open]
  cases disk.openCfDescriptors opts.1.createsMissing cfg.columnFamiliesToOpen
    fault <;> rfl

end Calls

section Directories

variable {env : OpenEnv}

namespace OpenCall.Outcome

variable {call : OpenCall} {result : StoreResult Store × OnDisk}

/-- Opening changes no contents. -/
theorem data (outcome : call.Outcome env disk result) :
    result.2.data = disk.data := by
  cases outcome <;> rfl

/-- And removes no family. -/
theorem kept (outcome : call.Outcome env disk result) {cf : String}
    (present : cf ∈ disk.columnFamilies) : cf ∈ result.2.columnFamilies := by
  cases outcome with
  | refused e => exact present
  | wrongEngine message wrong listed =>
      exact OnDisk.mem_create_columnFamilies.mpr (.inl present)
  | opened store right listed delivers =>
      exact OnDisk.mem_create_columnFamilies.mpr (.inl present)

/-- Unless the engine refuses, the listed families are there. -/
theorem created (outcome : call.Outcome env disk result) :
    (∃ e, result.1 = .error (.rocksDb e)) ∨
      ∀ cf ∈ call.families, cf ∈ result.2.columnFamilies := by
  have there : ∀ cf ∈ call.families,
      cf ∈ (disk.create call.families).columnFamilies :=
    fun cf listed => OnDisk.mem_create_columnFamilies.mpr (.inr listed)
  cases outcome with
  | refused e => exact .inl ⟨e, rfl⟩
  | wrongEngine message wrong listed => exact .inr there
  | opened store right listed delivers => exact .inr there

/-- A store is returned only when what is on disk is listed. -/
theorem requires (outcome : call.Outcome env disk result) :
    (∃ e, result.1 = .error e) ∨ ∀ cf ∈ disk.columnFamilies,
      cf = defaultColumnFamilyName ∨ cf ∈ call.families := by
  cases outcome with
  | refused e => exact .inl ⟨_, rfl⟩
  | wrongEngine message wrong listed => exact .inl ⟨_, rfl⟩
  | opened store right listed delivers => exact .inr listed

end OpenCall.Outcome

/-- No run of a directory loses a family. -/
theorem OnDisk.families_after (steps : List DirectoryStep) {cf : String}
    (present : cf ∈ disk.columnFamilies) :
    cf ∈ (disk.after env steps).columnFamilies := by
  induction steps generalizing disk with
  | nil => exact present
  | cons step steps inductionHypothesis =>
      apply inductionHypothesis
      cases step with
      | «open» call fault => exact (call.outcome env fault disk).kept present
      | clients data => exact present

end Directories

/-- Wherever a run of a directory has come to, any opening call leaves the contents
as they are and either is refused by the engine and leaves the families as well;
or finds the engine to be the wrong one, but only after the listed families have
been created; or returns a store that serves exactly the listed families and the
default one and merges as configured, whatever the callbacks (where they have left
the family's options in place) and the orders of the hash maps.  What a call
that got past the engine has listed, every later one must list, in the latter two
cases alike. -/
theorem earlier_families_required (env : OpenEnv) (start : OnDisk)
    (before after : List DirectoryStep) (call later : OpenCall)
    (fault laterFault : Option Fault) :
    let disk := start.after env before
    let opening := call.run env fault disk
    let reopening := later.run env laterFault (opening.2.after env after)
    call.Outcome env disk opening ∧ opening.2.data = disk.data ∧
      ((∃ e, opening.1 = .error (.rocksDb e)) ∨ (∃ e, reopening.1 = .error e) ∨
        ∀ cf ∈ call.families,
          cf = defaultColumnFamilyName ∨ cf ∈ later.families) := by
  intro disk opening reopening
  have outcome := call.outcome env fault disk
  refine ⟨outcome, outcome.data, ?_⟩
  rcases outcome.created with refused | created
  · exact .inl refused
  · rcases (later.outcome env laterFault (opening.2.after env after)).requires
      with failed | required
    · exact .inr (.inl failed)
    · refine .inr (.inr fun cf listed => required cf ?_)
      exact OnDisk.families_after after (created cf listed)

end RockSolid
