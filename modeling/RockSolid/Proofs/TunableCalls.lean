/-
Module: RockSolid.Proofs.TunableCalls
Layer: Proofs
Purpose: No two setters of `Tunable` share a lock, and in each pair of methods
  both use the key of the setter; so conflicting calls resolve by one rule.
Trusted boundary: none
Main exports: setter_key_distinct, Tunable.methods_eq,
  Tunable.performAll_eq_some_iff, tunable_resolves
-/
import RockSolid.Core.TunableMethods

namespace RockSolid

open Foundation LockedSettings

/-- Different setters have different keys. -/
theorem setter_key_distinct : DistinctNames (N := String) Setter := by
  intro setter other name named otherNamed
  have sameKey : setter.key = other.key := named.trans otherNamed.symm
  have keyed : setter.key.isSome = true := Option.isSome_of_eq_some named
  clear named otherNamed
  revert sameKey keyed
  cases setter <;> cases other <;> decide

namespace Tunable

/-- Each method, generated or written out, uses the key of its setter. -/
theorem methods_eq (setter : Setter) :
    methods setter = setter.key.map (tunableMethods setter) := by
  cases setter <;> rfl

section Keyed

variable {setter : Setter} {key : String} (keyed : setter.key = some key)
  (opts : Tunable)

include keyed

theorem isLockedKey_eq : opts.isLockedKey key = opts.isLocked setter := by
  have named : Lockable.lockName setter = some key := keyed
  rw [isLocked, named]
  rfl

theorem tunableMethods_set (arg : setter.Arg) :
    (tunableMethods setter key).set opts arg = opts.set setter arg := by
  have named : Lockable.lockName setter = some key := keyed
  rw [LockedSettings.set, lock, named]
  rfl

theorem tunableMethods_tuneSet (arg : setter.Arg) :
    (tunableMethods setter key).tuneSet opts arg = opts.tune setter arg := by
  have sameLock := isLockedKey_eq keyed opts
  cases locked : opts.isLocked setter with
  | true =>
      rw [locked] at sameLock
      simp [tunableMethods, sameLock, tune_of_locked locked]
  | false =>
      rw [locked] at sameLock
      simp [tunableMethods, sameLock, tune_of_unlocked locked]

end Keyed

/-- A call that exists is a `set` or a `tune` of its setter. -/
theorem perform_eq (opts : Tunable) (call : TunableCall) :
    opts.perform call = call.setter.key.map fun _ => opts.apply call := by
  cases call with
  | set setter arg =>
      simp only [perform, methods_eq, Option.map_map, SetterCall.setter]
      cases keyed : setter.key with
      | none => rfl
      | some key => exact congrArg some (tunableMethods_set keyed opts arg)
  | tune setter arg =>
      simp only [perform, methods_eq, Option.map_map, SetterCall.setter]
      cases keyed : setter.key with
      | none => rfl
      | some key => exact congrArg some (tunableMethods_tuneSet keyed opts arg)

/-- Calls all of which exist are a run of sets and tunes. -/
theorem performAll_eq_some_iff (opts : Tunable) (calls : List TunableCall)
    (final : Tunable) :
    opts.performAll calls = some final ↔
      (∀ call ∈ calls, call.setter.key.isSome = true) ∧
        opts.run calls = final := by
  induction calls generalizing opts with
  | nil => simp [performAll]
  | cons call calls inductionHypothesis =>
      have rest := inductionHypothesis (opts.apply call)
      rw [performAll] at rest
      rw [performAll, List.foldlM_cons, perform_eq, List.forall_mem_cons,
        run_cons]
      cases keyed : call.setter.key with
      | none => simp
      | some key => simpa using rest

end Tunable

open SetterCall

/-- After any calls on a new `Tunable`, a setting is locked exactly when it was
set; it holds the argument of the last `set`, else of the last `tune`, else what it
held at first.  Calls of different keys commute, and a `tune` after a `set` of the
same setting can be removed. -/
theorem tunable_resolves {inner : Options} {calls : List TunableCall}
    {final : Tunable}
    (performed : Tunable.performAll (.new inner) calls = some final) :
    (∀ setter key, setter.key = some key →
      (final.isLockedKey key = true ↔ ∃ arg, .set setter arg ∈ calls) ∧
      final.inner setter =
        ((lastSet setter calls).or (lastTune setter calls)).or
          (inner setter)) ∧
    (∀ before first second after,
      calls = before ++ first :: second :: after →
      first.setter.key ≠ second.setter.key →
        Tunable.performAll (.new inner) (before ++ second :: first :: after) =
          some final) ∧
    ∀ setter before arg after,
      calls = before ++ .tune setter arg :: after →
      (∃ arg, .set setter arg ∈ before) →
        Tunable.performAll (.new inner) (before ++ after) = some final := by
  have distinct := setter_key_distinct
  obtain ⟨exist, rfl⟩ :=
    (Tunable.performAll_eq_some_iff (.new inner) calls final).mp performed
  refine ⟨?_, ?_, ?_⟩
  · intro setter key keyed
    constructor
    · rw [Tunable.isLockedKey_eq keyed, run_isLocked distinct keyed,
        isLocked_new, Bool.false_or, lastSet_isSome_iff]
    · rw [run_inner distinct keyed, isLocked_new, Option.or_assoc]
      rfl
  · rintro before first second after rfl differ
    have settersDiffer : second.setter ≠ first.setter :=
      fun same => differ (congrArg Setter.key same).symm
    rw [Tunable.performAll_eq_some_iff]
    constructor
    · intro call member
      apply exist call
      simp only [List.mem_append, List.mem_cons] at member ⊢
      tauto
    · rw [run_append, run_append, run_cons, run_cons, run_cons, run_cons,
        apply_comm distinct _ settersDiffer]
  · rintro setter before arg after rfl wasSet
    rw [Tunable.performAll_eq_some_iff]
    have keyed := exist (.tune setter arg) (by simp)
    obtain ⟨key, keyed⟩ := Option.isSome_iff_exists.mp keyed
    constructor
    · intro call member
      apply exist call
      simp only [List.mem_append, List.mem_cons] at member ⊢
      tauto
    · exact (run_tune_after_set distinct keyed _ arg wasSet).symm

/-- Two settings, tuned and set in turns. -/
theorem tunable_resolves_five :
    ∃ final : Tunable,
      Tunable.performAll (.new Options.default)
        [.tune .maxOpenFiles 512, .set .compactionStyle .fifo,
          .tune .compactionStyle .level, .set .maxOpenFiles 100,
          .tune .numLevels 3] = some final ∧
      final.isLockedKey "cf_compaction_style" = true ∧
      final.isLockedKey "cf_num_levels" = false ∧
      final.inner .maxOpenFiles = some 100 ∧
      final.inner .compactionStyle = some .fifo ∧
      final.inner .numLevels = some 3 := by
  have performed := (Tunable.performAll_eq_some_iff (.new Options.default)
    [.tune .maxOpenFiles 512, .set .compactionStyle .fifo,
      .tune .compactionStyle .level, .set .maxOpenFiles 100,
      .tune .numLevels 3] _).mpr ⟨by decide, rfl⟩
  obtain ⟨resolved, _, _⟩ := tunable_resolves performed
  refine ⟨_, performed, ?_, ?_, ?_, ?_, ?_⟩
  · exact (resolved .compactionStyle _ rfl).1.mpr ⟨.fifo, by simp⟩
  · rw [← Bool.not_eq_true, (resolved .numLevels _ rfl).1]
    simp
  · exact (resolved .maxOpenFiles _ rfl).2
  · exact (resolved .compactionStyle _ rfl).2
  · exact (resolved .numLevels _ rfl).2

end RockSolid
