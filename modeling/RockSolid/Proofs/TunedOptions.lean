/-
Module: RockSolid.Proofs.TunedOptions
Layer: Proofs
Purpose: A profile tunes, and tunes respect locks, but for one call: FIFO
  compaction sets `max_open_files`.  The transactional stores record the hard
  parallelism without locking it, so the profile's own thread count replaces it.
Trusted boundary: none
Main exports: TuningProfile.tuneDbOpts_respects,
  TuningProfile.tuneDbOpts_parallelism, tuningProfile_respects_iff,
  hardParallelism_iff
-/
import RockSolid.Semantics.TunedOptions

namespace RockSolid

open Foundation LockedSettings

namespace TuningProfile

variable (profile : TuningProfile) (numCpus : UInt64)

/-- The calls are tunes, none of them of the parallelism. -/
def TunesOthers (calls : List TunableCall) : Prop :=
  ∀ call ∈ calls, call.isTune = true ∧ call.setter ≠ .increaseParallelism

theorem TunesOthers.nil : TunesOthers [] := List.forall_mem_nil _

theorem rateLimiterCalls_tunesOthers :
    TunesOthers profile.rateLimiterCalls := by
  intro call member
  rw [rateLimiterCalls] at member
  split at member
  · cases List.mem_singleton.mp member
    exact ⟨rfl, nofun⟩
  · cases member

theorem memoryCalls_tunesOthers (totalMemMb : UInt64)
    (dbBlockCacheFraction dbWriteBufferManagerFraction : Float) :
    TunesOthers (memoryCalls totalMemMb dbBlockCacheFraction
      dbWriteBufferManagerFraction) := by
  intro call member
  rw [memoryCalls] at member
  rcases List.mem_append.mp member with inCache | inManager
  · split at inCache
    · cases List.mem_singleton.mp inCache
      exact ⟨rfl, nofun⟩
    · cases inCache
  · split at inManager
    · cases List.mem_singleton.mp inManager
      exact ⟨rfl, nofun⟩
    · cases inManager

theorem TunesOthers.tunes {calls : List TunableCall}
    (others : TunesOthers calls) : ∀ call ∈ calls, call.isTune = true :=
  fun call member => (others call member).1

/-- The calls are tunes, and the last one of the parallelism asks for so many
threads. -/
def AsksLast (threads : Int32) (calls : List TunableCall) : Prop :=
  ∃ before after, calls = before ++ .tune .increaseParallelism threads :: after ∧
    (∀ call ∈ before, call.isTune = true) ∧ TunesOthers after

theorem AsksLast.after_tunes {threads : Int32} {first second : List TunableCall}
    (tunes : ∀ call ∈ first, call.isTune = true)
    (asks : AsksLast threads second) : AsksLast threads (first ++ second) := by
  obtain ⟨before, after, rfl, beforeTunes, others⟩ := asks
  refine ⟨first ++ before, after, ?_, ?_, others⟩
  · rw [List.append_assoc]
  · exact List.forall_mem_append.mpr ⟨tunes, beforeTunes⟩

theorem AsksLast.before_others {threads : Int32}
    {first second : List TunableCall} (asks : AsksLast threads first)
    (secondOthers : TunesOthers second) : AsksLast threads (first ++ second) := by
  obtain ⟨before, after, rfl, tunes, others⟩ := asks
  refine ⟨before, after ++ second, ?_, tunes, ?_⟩
  · rw [List.append_assoc, List.cons_append]
  · exact List.forall_mem_append.mpr ⟨others, secondOthers⟩

theorem AsksLast.tunes {threads : Int32} {calls : List TunableCall}
    (asks : AsksLast threads calls) : ∀ call ∈ calls, call.isTune = true := by
  obtain ⟨before, after, rfl, tunes, others⟩ := asks
  intro call member
  rcases List.mem_append.mp member with inBefore | inRest
  · exact tunes call inBefore
  · rcases List.mem_cons.mp inRest with rfl | inAfter
    · rfl
    · exact others.tunes call inAfter

theorem commonDbCalls_asksLast :
    AsksLast (max (coreCount numCpus) 2) (commonDbCalls numCpus) := by
  refine ⟨[], _, rfl, List.forall_mem_nil _, ?_⟩
  simp [TunesOthers, SetterCall.isTune, SetterCall.setter]

/-- The last call of the parallelism asks for the profile's threads. -/
theorem dbCalls_asksLast :
    AsksLast (profile.threads numCpus) (profile.dbCalls numCpus) := by
  have begun := (commonDbCalls_asksLast numCpus).before_others
    (rateLimiterCalls_tunesOthers profile)
  cases profile with
  | memorySaver totalMemMb cacheFraction wbmFraction _ _ _ =>
      have shared := memoryCalls_tunesOthers totalMemMb cacheFraction wbmFraction
      apply AsksLast.after_tunes begun.tunes
      apply AsksLast.after_tunes shared.tunes
      refine ⟨[.tune .maxOpenFiles 512], [], rfl, ?_, .nil⟩
      simp [SetterCall.isTune]
  | realTime totalMemMb cacheFraction wbmFraction _ _ _ _ =>
      have shared := memoryCalls_tunesOthers totalMemMb cacheFraction wbmFraction
      apply AsksLast.after_tunes begun.tunes
      apply AsksLast.after_tunes shared.tunes
      refine ⟨[], _, rfl, List.forall_mem_nil _, ?_⟩
      simp [TunesOthers, SetterCall.isTune, SetterCall.setter]
  | _ => exact begun.before_others .nil

/-- Column-family tuning is made of tunes, unless it sets up FIFO compaction. -/
theorem cfCalls_tunes (noFifo : profile.usesFifo = false) :
    ∀ call ∈ profile.cfCalls, call.isTune = true := by
  cases profile with
  | latestValue _ _ enableCompression _ =>
      cases enableCompression <;> simp [cfCalls, SetterCall.isTune]
  | memorySaver _ _ _ _ enableLightCompression _ =>
      cases enableLightCompression <;> simp [cfCalls, SetterCall.isTune]
  | realTime _ _ _ _ enableFastCompression _ _ =>
      cases enableFastCompression <;> simp [cfCalls, SetterCall.isTune]
  | timeSeries _ cfUseFifoCompaction _ enableZstdCompression _ =>
      cases noFifo
      cases enableZstdCompression <;> simp [cfCalls, SetterCall.isTune]
  | sparseBitmap _ cfUseUniversalCompaction enableFastCompression _ =>
      cases cfUseUniversalCompaction <;> cases enableFastCompression <;>
        simp [cfCalls, SetterCall.isTune]

/-- With FIFO compaction the tunes end in one call that sets. -/
theorem cfCalls_fifo (fifo : profile.usesFifo = true) :
    ∃ tunes, profile.cfCalls = tunes ++ [.set .maxOpenFiles (-1)] ∧
      ∀ call ∈ tunes, call.isTune = true := by
  cases profile with
  | timeSeries _ cfUseFifoCompaction totalSize enableZstdCompression _ =>
      cases fifo
      refine ⟨_, (List.append_assoc _ _ _).symm, ?_⟩
      cases totalSize <;> cases enableZstdCompression <;>
        simp [SetterCall.isTune]
  | _ => cases fifo

/-- `tune_db_opts` respects locks. -/
theorem tuneDbOpts_respects (opts : Tunable) :
    Respects opts (profile.tuneDbOpts numCpus opts) :=
  Respects.run opts (dbCalls_asksLast profile numCpus).tunes

/-- Where the parallelism is not locked, `tune_db_opts` leaves the profile's
threads. -/
theorem tuneDbOpts_parallelism {opts : Tunable}
    (unlocked : opts.isLocked .increaseParallelism = false) :
    (profile.tuneDbOpts numCpus opts).inner .increaseParallelism =
      some (profile.threads numCpus) := by
  obtain ⟨before, after, calls, tunes, others⟩ :=
    dbCalls_asksLast profile numCpus
  rw [tuneDbOpts, calls, run_append, run_cons, inner_run_of_untouched _
    fun call member => (others call member).2]
  exact inner_run_tune unlocked tunes (profile.threads numCpus)

/-- `tune_cf_opts` respects locks exactly when it does not set up FIFO
compaction, or when `max_open_files` is already locked at what it sets. -/
theorem tuneCfOpts_respects_iff (opts : Tunable) :
    Respects opts (profile.tuneCfOpts opts) ↔
      profile.usesFifo = false ∨
        opts.isLocked .maxOpenFiles = true ∧
          opts.inner .maxOpenFiles = some (-1) := by
  cases fifo : profile.usesFifo with
  | false =>
      have respects := Respects.run opts (cfCalls_tunes profile fifo)
      exact ⟨fun _ => .inl rfl, fun _ => respects⟩
  | true =>
      obtain ⟨tunes, calls, conditional⟩ := cfCalls_fifo profile fifo
      have named : Lockable.lockName Setter.maxOpenFiles =
        some "db_max_open_files" := rfl
      rw [tuneCfOpts, calls, run_append, or_iff_right Bool.noConfusion]
      exact (Respects.run opts conditional).set_iff named (-1)

end TuningProfile

/-- From every state of the options that locking and conditional calls reach, DB
tuning leaves every locked option and the locks as they were, for every profile;
column-family tuning does so exactly when the profile does not ask for FIFO
compaction, or when `max_open_files` is already locked at -1. -/
theorem tuningProfile_respects_iff (numCpus : UInt64) (inner : Options)
    (calls : List TunableCall) (profile : TuningProfile) :
    let reached : Tunable := (LockedSettings.new inner).run calls
    Respects reached (profile.tuneDbOpts numCpus reached) ∧
      (Respects reached (profile.tuneCfOpts reached) ↔
        profile.usesFifo = false ∨
          reached.isLocked .maxOpenFiles = true ∧
            reached.inner .maxOpenFiles = some (-1)) := by
  intro reached
  constructor
  · exact profile.tuneDbOpts_respects numCpus reached
  · exact profile.tuneCfOpts_respects_iff reached

/-- `set_max_open_files(100)`, then a time series with FIFO compaction: the
locked 100 becomes -1.  On fresh options the profile locks the setting. -/
theorem timeSeries_overrides_lock :
    let profile : TuningProfile := .timeSeries 64 true none false none
    let locked : Tunable :=
      (LockedSettings.new Options.default).run [.set .maxOpenFiles 100]
    let fresh : Tunable := .new Options.default
    ¬ Respects locked (profile.tuneCfOpts locked) ∧
      locked.isLocked .maxOpenFiles = true ∧
      locked.inner .maxOpenFiles = some 100 ∧
      (profile.tuneCfOpts locked).inner .maxOpenFiles = some (-1) ∧
      fresh.isLocked .maxOpenFiles = false ∧
      (profile.tuneCfOpts fresh).isLocked .maxOpenFiles = true := by
  intro profile locked fresh
  have overridden :
      (profile.tuneCfOpts locked).inner .maxOpenFiles = some (-1) := by
    decide +kernel
  refine ⟨?_, by decide +kernel, by decide +kernel, overridden,
    by decide +kernel, by decide +kernel⟩
  intro respects
  have kept := respects.recorded .maxOpenFiles (by decide +kernel)
  rw [overridden] at kept
  exact absurd kept (by decide +kernel)

section OpeningPaths

variable (recoveryMode : Option RecoveryMode) (enableStatistics : Option Bool)
  (opts : Tunable)

/-- The recovery mode and the statistics do not touch the parallelism. -/
theorem recordModeAndStatistics_parallelism :
    (recordModeAndStatistics recoveryMode enableStatistics opts).isLocked
        .increaseParallelism = opts.isLocked .increaseParallelism ∧
      (recordModeAndStatistics recoveryMode enableStatistics opts).inner
        .increaseParallelism = opts.inner .increaseParallelism := by
  have notMode : Setter.increaseParallelism ≠ .walRecoveryMode := nofun
  have notStatistics : Setter.increaseParallelism ≠ .enableStatistics := nofun
  have mode (mode : RecoveryMode) (opts : Tunable) :=
    record_inner_of_ne opts mode notMode
  have statistics (opts : Tunable) := record_inner_of_ne opts () notStatistics
  rcases enableStatistics with _ | _ | _ <;> cases recoveryMode <;>
    simp [recordModeAndStatistics, mode, statistics]

variable (numCpus : UInt64) (profile : Option TuningProfile)

/-- A locked parallelism stays what it is. -/
theorem tuneWith_locked {opts : Tunable}
    (locked : opts.isLocked .increaseParallelism = true) :
    (tuneWith numCpus profile opts).inner .increaseParallelism =
      opts.inner .increaseParallelism := by
  cases profile with
  | none => rfl
  | some profile =>
      exact (profile.tuneDbOpts_respects numCpus opts).recorded _ locked

/-- One that is not locked gives way to the threads of the profile. -/
theorem tuneWith_unlocked {opts : Tunable} {p : Int32}
    (unlocked : opts.isLocked .increaseParallelism = false)
    (recorded : opts.inner .increaseParallelism = some p) :
    (tuneWith numCpus profile opts).inner .increaseParallelism =
      some (profile.elim p fun profile => profile.threads numCpus) := by
  cases profile with
  | none => exact recorded
  | some profile => exact profile.tuneDbOpts_parallelism numCpus unlocked

variable {cfg : DbWideConfig} {p : Int32}

/-- The hard parallelism is what `RocksDbCFStore::open` gives the engine. -/
theorem RocksDbCFStore.dbWideOptions_parallelism
    (hard : cfg.parallelism = some p) :
    RocksDbCFStore.dbWideOptions numCpus cfg .increaseParallelism = some p := by
  have named : Lockable.lockName Setter.increaseParallelism =
    some "db_increase_parallelism" := rfl
  have kept := recordModeAndStatistics_parallelism cfg.recoveryMode
    cfg.enableStatistics
  simp only [RocksDbCFStore.dbWideOptions, hard]
  rw [tuneWith_locked, (kept _).2, set_inner, Settings.record_self]
  rw [(kept _).1]
  exact set_isLocked _ named p

/-- The transactional stores give it the threads of the profile, if any. -/
theorem openDbInternalOptions_parallelism (hard : cfg.parallelism = some p) :
    openDbInternalOptions numCpus cfg .increaseParallelism =
      some (cfg.dbTuningProfile.elim p fun profile =>
        profile.threads numCpus) := by
  have kept := recordModeAndStatistics_parallelism cfg.recoveryMode
    cfg.enableStatistics
  simp only [openDbInternalOptions, buildDbWideOptions, hard]
  apply tuneWith_unlocked
  · simp only [(kept _).1, record_isLocked, isLocked_new]
  · rw [(kept _).2, record_inner_self]

end OpeningPaths

/-- The hard setting of the parallelism overrides profiles exactly when, on the
transactional path, it names the threads the profile would ask for anyway or there
is no profile.  The store without transactions always keeps it, and without a hard
setting both paths agree. -/
theorem hardParallelism_iff (numCpus : UInt64) (cfg : DbWideConfig) :
    HardParallelism numCpus cfg ↔
      ∀ p, cfg.parallelism = some p →
        ∀ profile, cfg.dbTuningProfile = some profile →
          profile.threads numCpus = p := by
  constructor
  · intro overrides p hard profile tuned
    have given := overrides.transactional p hard
    rw [openDbInternalOptions_parallelism numCpus hard, tuned] at given
    exact Option.some.inj given
  · intro agrees
    constructor
    · intro p hard
      exact RocksDbCFStore.dbWideOptions_parallelism numCpus hard
    · intro p hard
      rw [openDbInternalOptions_parallelism numCpus hard]
      cases tuned : cfg.dbTuningProfile with
      | none => rfl
      | some profile => exact congrArg some (agrees p hard profile tuned)
    · intro absent
      simp only [RocksDbCFStore.dbWideOptions, openDbInternalOptions,
        buildDbWideOptions, absent]

/-- Parallelism 3 with a latest-value profile on a machine of eight processors:
the transactional path passes 8. -/
theorem transactional_parallelism_overridden :
    let cfg : DbWideConfig :=
      { createIfMissing := true, dbTuningProfile := some (.latestValue 64 true true none),
        recoveryMode := none, parallelism := some 3, enableStatistics := none }
    ¬ HardParallelism 8 cfg ∧
      openDbInternalOptions 8 cfg .increaseParallelism = some 8 ∧
      RocksDbCFStore.dbWideOptions 8 cfg .increaseParallelism = some 3 := by
  intro cfg
  have hard : cfg.parallelism = some 3 := rfl
  have threads : (TuningProfile.latestValue 64 true true none).threads 8 = 8 := by
    decide
  have given := openDbInternalOptions_parallelism 8 hard
  simp only [cfg, Option.elim_some, threads] at given
  refine ⟨?_, given, RocksDbCFStore.dbWideOptions_parallelism 8 hard⟩
  intro overrides
  have kept := overrides.transactional 3 hard
  rw [given] at kept
  cases kept

end RockSolid
