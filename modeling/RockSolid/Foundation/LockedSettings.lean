/-
Module: RockSolid.Foundation.LockedSettings
Layer: Foundation
Purpose: Settings as the record of the last argument given to each setter, with
  locks.  A `set` records its argument and locks the setting; a `tune` records
  its argument unless the setting is locked.  Tunes respect locks: they leave
  every locked setting, and the set of locks, as they were.  Where no two settings
  share a lock, the last `set` of a setting counts, else the last `tune`, and calls
  of different settings commute.
Trusted boundary: none
Main exports: Settings, LockedSettings, SetterCall, LockedSettings.run,
  Respects, Respects.run, Respects.set_iff, SameAt.run, inner_run_of_untouched,
  run_isLocked, run_inner, apply_comm, run_tune_after_set
-/
import Mathlib.Data.Finset.Insert
import Mathlib.Logic.Function.Basic

namespace RockSolid.Foundation

universe u v w

/-- The last argument given to each setter. -/
abbrev Settings {S : Type u} (Arg : S → Type v) :=
  (setter : S) → Option (Arg setter)

/-- The name under which a setting is locked, when it has one. -/
class Lockable (S : Type u) (N : outParam (Type w)) where
  lockName : S → Option N

/-- Settings and the names that are locked. -/
structure LockedSettings {S : Type u} (Arg : S → Type v) (N : Type w) where
  inner : Settings Arg
  locked : Finset N

/-- A call that locks, or one that asks for the lock first. -/
inductive SetterCall {S : Type u} (Arg : S → Type v) where
  | set (setter : S) (arg : Arg setter)
  | tune (setter : S) (arg : Arg setter)

namespace SetterCall

variable {S : Type u} {Arg : S → Type v}

def setter : SetterCall Arg → S
  | .set setter _ | .tune setter _ => setter

def isTune : SetterCall Arg → Bool
  | .set _ _ => false
  | .tune _ _ => true

variable [DecidableEq S]

/-- The argument of a `set` of the setting. -/
def setArg (setter : S) : SetterCall Arg → Option (Arg setter)
  | .set target arg => if same : target = setter then some (same ▸ arg) else none
  | .tune _ _ => none

/-- The argument of a `tune` of the setting. -/
def tuneArg (setter : S) : SetterCall Arg → Option (Arg setter)
  | .set _ _ => none
  | .tune target arg => if same : target = setter then some (same ▸ arg) else none

/-- The argument of the last `set` of the setting. -/
def lastSet (setter : S) : List (SetterCall Arg) → Option (Arg setter)
  | [] => none
  | call :: calls => (lastSet setter calls).or (call.setArg setter)

/-- The argument of the last `tune` of the setting. -/
def lastTune (setter : S) : List (SetterCall Arg) → Option (Arg setter)
  | [] => none
  | call :: calls => (lastTune setter calls).or (call.tuneArg setter)

@[simp] theorem setArg_self (setter : S) (arg : Arg setter) :
    (SetterCall.set setter arg).setArg setter = some arg :=
  dif_pos rfl

@[simp] theorem tuneArg_self (setter : S) (arg : Arg setter) :
    (SetterCall.tune setter arg).tuneArg setter = some arg :=
  dif_pos rfl

theorem setArg_of_ne {setter : S} {call : SetterCall Arg}
    (differs : call.setter ≠ setter) : call.setArg setter = none := by
  cases call with
  | set target arg => exact dif_neg differs
  | tune target arg => rfl

theorem tuneArg_of_ne {setter : S} {call : SetterCall Arg}
    (differs : call.setter ≠ setter) : call.tuneArg setter = none := by
  cases call with
  | set target arg => rfl
  | tune target arg => exact dif_neg differs

theorem setArg_eq_some_iff {setter : S} {call : SetterCall Arg}
    {arg : Arg setter} :
    call.setArg setter = some arg ↔ call = .set setter arg := by
  constructor
  · intro isSet
    cases call with
    | set target targetArg =>
        by_cases same : target = setter
        · subst same
          rw [setArg_self, Option.some.injEq] at isSet
          rw [isSet]
        · rw [setArg, dif_neg same] at isSet
          cases isSet
    | tune target targetArg => cases isSet
  · rintro rfl
    exact setArg_self setter arg

/-- There is a last `set` where there is any. -/
theorem lastSet_isSome_iff {setter : S} {calls : List (SetterCall Arg)} :
    (lastSet setter calls).isSome = true ↔ ∃ arg, .set setter arg ∈ calls := by
  induction calls with
  | nil => simp [lastSet]
  | cons call calls inductionHypothesis =>
      simp only [lastSet, Option.isSome_or, Bool.or_eq_true, List.mem_cons,
        exists_or, inductionHypothesis, Option.isSome_iff_exists,
        setArg_eq_some_iff, eq_comm (a := call)]
      exact or_comm

end SetterCall

variable {S : Type u} {Arg : S → Type v} {N : Type w} [DecidableEq S]

def Settings.record (settings : Settings Arg) (setter : S) (arg : Arg setter) :
    Settings Arg :=
  Function.update settings setter (some arg)

@[simp] theorem Settings.record_self (settings : Settings Arg) (setter : S)
    (arg : Arg setter) : settings.record setter arg setter = some arg :=
  Function.update_self _ _ _

theorem Settings.record_of_ne (settings : Settings Arg) {setter other : S}
    (arg : Arg setter) (differs : other ≠ setter) :
    settings.record setter arg other = settings other :=
  Function.update_of_ne differs _ _

namespace LockedSettings

variable [DecidableEq N] [Lockable S N]

def new (inner : Settings Arg) : LockedSettings Arg N := ⟨inner, ∅⟩

omit [DecidableEq S] in
def isLocked (settings : LockedSettings Arg N) (setter : S) : Bool :=
  (Lockable.lockName setter).any fun name => decide (name ∈ settings.locked)

omit [DecidableEq S] in
def lock (settings : LockedSettings Arg N) (setter : S) :
    LockedSettings Arg N :=
  match Lockable.lockName setter with
  | some name => { settings with locked := insert name settings.locked }
  | none => settings

/-- Records the argument whatever is locked, and locks nothing. -/
def record (settings : LockedSettings Arg N) (setter : S) (arg : Arg setter) :
    LockedSettings Arg N :=
  { settings with inner := settings.inner.record setter arg }

def set (settings : LockedSettings Arg N) (setter : S) (arg : Arg setter) :
    LockedSettings Arg N :=
  (settings.record setter arg).lock setter

def tune (settings : LockedSettings Arg N) (setter : S) (arg : Arg setter) :
    LockedSettings Arg N :=
  if settings.isLocked setter then settings else settings.record setter arg

def apply (settings : LockedSettings Arg N) :
    SetterCall Arg → LockedSettings Arg N
  | .set setter arg => settings.set setter arg
  | .tune setter arg => settings.tune setter arg

/-- The calls one after the other. -/
def run (settings : LockedSettings Arg N) (calls : List (SetterCall Arg)) :
    LockedSettings Arg N :=
  calls.foldl apply settings

@[simp] theorem run_nil (settings : LockedSettings Arg N) :
    settings.run [] = settings := rfl

@[simp] theorem run_cons (settings : LockedSettings Arg N)
    (call : SetterCall Arg) (calls : List (SetterCall Arg)) :
    settings.run (call :: calls) = (settings.apply call).run calls := rfl

theorem run_append (settings : LockedSettings Arg N)
    (first second : List (SetterCall Arg)) :
    settings.run (first ++ second) = (settings.run first).run second :=
  List.foldl_append

omit [DecidableEq S] in
theorem isLocked_iff {settings : LockedSettings Arg N} {setter : S} :
    settings.isLocked setter = true ↔
      ∃ name, Lockable.lockName setter = some name ∧ name ∈ settings.locked := by
  simp [isLocked, Option.any_eq_true]

omit [DecidableEq S] in
theorem isLocked_new (inner : Settings Arg) (setter : S) :
    (new inner : LockedSettings Arg N).isLocked setter = false := by
  rw [← Bool.not_eq_true, isLocked_iff]
  rintro ⟨name, _, member⟩
  exact absurd member (Finset.notMem_empty name)

omit [DecidableEq S] in
theorem lock_inner (settings : LockedSettings Arg N) (setter : S) :
    (settings.lock setter).inner = settings.inner := by
  rw [lock]
  split <;> rfl

@[simp] theorem record_isLocked (settings : LockedSettings Arg N)
    (setter other : S) (arg : Arg setter) :
    (settings.record setter arg).isLocked other = settings.isLocked other := rfl

omit [DecidableEq N] [Lockable S N] in
theorem record_inner_of_ne (settings : LockedSettings Arg N) {setter other : S}
    (arg : Arg setter) (differs : other ≠ setter) :
    (settings.record setter arg).inner other = settings.inner other :=
  settings.inner.record_of_ne arg differs

omit [DecidableEq N] [Lockable S N] in
@[simp] theorem record_inner_self (settings : LockedSettings Arg N) (setter : S)
    (arg : Arg setter) :
    (settings.record setter arg).inner setter = some arg :=
  settings.inner.record_self setter arg

theorem set_inner (settings : LockedSettings Arg N) (setter : S)
    (arg : Arg setter) :
    (settings.set setter arg).inner = settings.inner.record setter arg := by
  rw [set, lock_inner]
  rfl

theorem set_locked (settings : LockedSettings Arg N) {setter : S} {name : N}
    (named : Lockable.lockName setter = some name) (arg : Arg setter) :
    (settings.set setter arg).locked = insert name settings.locked := by
  simp only [set, lock, named]
  rfl

theorem set_isLocked (settings : LockedSettings Arg N) {setter : S} {name : N}
    (named : Lockable.lockName setter = some name) (arg : Arg setter) :
    (settings.set setter arg).isLocked setter = true := by
  apply isLocked_iff.mpr
  refine ⟨name, named, ?_⟩
  rw [set_locked settings named]
  exact Finset.mem_insert_self name settings.locked

theorem tune_of_locked {settings : LockedSettings Arg N} {setter : S}
    (locked : settings.isLocked setter = true) (arg : Arg setter) :
    settings.tune setter arg = settings :=
  if_pos locked

theorem tune_of_unlocked {settings : LockedSettings Arg N} {setter : S}
    (unlocked : settings.isLocked setter = false) (arg : Arg setter) :
    settings.tune setter arg = settings.record setter arg :=
  if_neg (Bool.eq_false_iff.mp unlocked)

/-- A call changes no setting but its own. -/
theorem apply_inner_of_ne (settings : LockedSettings Arg N)
    {call : SetterCall Arg} {setter : S} (differs : call.setter ≠ setter) :
    (settings.apply call).inner setter = settings.inner setter := by
  cases call with
  | set target arg =>
      rw [apply, set_inner]
      exact settings.inner.record_of_ne arg differs.symm
  | tune target arg =>
      rw [apply, tune]
      split
      · rfl
      · exact settings.inner.record_of_ne arg differs.symm

/-- Nor do calls none of which is of the setting. -/
theorem inner_run_of_untouched (settings : LockedSettings Arg N) {setter : S}
    {calls : List (SetterCall Arg)}
    (untouched : ∀ call ∈ calls, call.setter ≠ setter) :
    (settings.run calls).inner setter = settings.inner setter := by
  induction calls generalizing settings with
  | nil => rfl
  | cons call calls inductionHypothesis =>
      rw [List.forall_mem_cons] at untouched
      rw [run_cons, inductionHypothesis _ untouched.2,
        apply_inner_of_ne settings untouched.1]

end LockedSettings

open LockedSettings

variable [DecidableEq N] [Lockable S N]

omit [DecidableEq S] in
/-- The locks are the same, and every locked setting is as it was. -/
structure Respects (before after : LockedSettings Arg N) : Prop where
  locked : after.locked = before.locked
  recorded : ∀ setter, before.isLocked setter = true →
    after.inner setter = before.inner setter

namespace Respects

variable {before between after : LockedSettings Arg N}

omit [DecidableEq S] in
theorem isLocked (respects : Respects before after) (setter : S) :
    after.isLocked setter = before.isLocked setter := by
  rw [LockedSettings.isLocked, respects.locked]
  rfl

omit [DecidableEq S] in
theorem refl (settings : LockedSettings Arg N) : Respects settings settings :=
  ⟨rfl, fun _ _ => rfl⟩

omit [DecidableEq S] in
theorem trans (first : Respects before between)
    (second : Respects between after) : Respects before after where
  locked := second.locked.trans first.locked
  recorded setter locked := by
    have stillLocked := (first.isLocked setter).trans locked
    rw [second.recorded setter stillLocked, first.recorded setter locked]

/-- A tune respects locks. -/
theorem tune (settings : LockedSettings Arg N) (setter : S)
    (arg : Arg setter) : Respects settings (settings.tune setter arg) := by
  cases locked : settings.isLocked setter with
  | true =>
      rw [tune_of_locked locked]
      exact refl settings
  | false =>
      rw [tune_of_unlocked locked]
      constructor
      · rfl
      · intro other otherLocked
        apply settings.inner.record_of_ne
        rintro rfl
        rw [locked] at otherLocked
        cases otherLocked

/-- So does any sequence of tunes. -/
theorem run (settings : LockedSettings Arg N) {calls : List (SetterCall Arg)}
    (conditional : ∀ call ∈ calls, call.isTune = true) :
    Respects settings (settings.run calls) := by
  induction calls generalizing settings with
  | nil => exact refl settings
  | cons call calls inductionHypothesis =>
      rw [List.forall_mem_cons] at conditional
      have rest := inductionHypothesis (settings.apply call) conditional.2
      cases call with
      | set setter arg => cases conditional.1
      | tune setter arg => exact (tune settings setter arg).trans rest

/-- A `set` after calls that respected the locks respects them only where it
repeats what a locked setting holds. -/
theorem set_iff (respects : Respects before between) {setter : S} {name : N}
    (named : Lockable.lockName setter = some name) (arg : Arg setter) :
    Respects before (between.set setter arg) ↔
      before.isLocked setter = true ∧ before.inner setter = some arg := by
  constructor
  · intro kept
    have locked : before.isLocked setter = true := by
      rw [← kept.isLocked setter]
      exact set_isLocked between named arg
    have recorded := kept.recorded setter locked
    rw [set_inner, Settings.record_self] at recorded
    exact ⟨locked, recorded.symm⟩
  · rintro ⟨locked, recorded⟩
    obtain ⟨found, sameName, member⟩ := isLocked_iff.mp locked
    rw [named] at sameName
    cases sameName
    constructor
    · rw [set_locked between named, respects.locked,
        Finset.insert_eq_of_mem member]
    · intro other otherLocked
      rw [set_inner]
      by_cases same : other = setter
      · subst same
        rw [Settings.record_self, recorded]
      · rw [Settings.record_of_ne _ arg same,
          respects.recorded other otherLocked]

end Respects

/-- A tune of a setting that is not locked, after tunes, is what is recorded. -/
theorem LockedSettings.inner_run_tune {settings : LockedSettings Arg N}
    {setter : S} (unlocked : settings.isLocked setter = false)
    {calls : List (SetterCall Arg)}
    (conditional : ∀ call ∈ calls, call.isTune = true) (arg : Arg setter) :
    ((settings.run calls).tune setter arg).inner setter = some arg := by
  have stillUnlocked : (settings.run calls).isLocked setter = false := by
    rw [(Respects.run settings conditional).isLocked, unlocked]
  rw [tune_of_unlocked stillUnlocked]
  exact Settings.record_self _ setter arg

/-- The locks are the same, and so is one setting. -/
structure SameAt (setter : S) (first second : LockedSettings Arg N) : Prop where
  locked : first.locked = second.locked
  recorded : first.inner setter = second.inner setter

namespace SameAt

variable {setter : S} {first second : LockedSettings Arg N}

omit [DecidableEq N] [Lockable S N] in
theorem record (same : SameAt setter first second) (target : S)
    (arg : Arg target) :
    SameAt setter (first.record target arg) (second.record target arg) where
  locked := same.locked
  recorded := by
    by_cases own : setter = target
    · subst own
      rw [record_inner_self, record_inner_self]
    · rw [record_inner_of_ne first arg own, record_inner_of_ne second arg own,
        same.recorded]

omit [DecidableEq S] in
theorem lock (same : SameAt setter first second) (target : S) :
    SameAt setter (first.lock target) (second.lock target) where
  locked := by
    unfold LockedSettings.lock
    cases Lockable.lockName target with
    | none => exact same.locked
    | some name => exact congrArg (insert name) same.locked
  recorded := by
    rw [lock_inner, lock_inner, same.recorded]

/-- Any call keeps it so. -/
theorem apply (same : SameAt setter first second) (call : SetterCall Arg) :
    SameAt setter (first.apply call) (second.apply call) := by
  cases call with
  | set target arg => exact (same.record target arg).lock target
  | tune target arg =>
      have sameLock : first.isLocked target = second.isLocked target := by
        rw [isLocked, isLocked, same.locked]
      rw [LockedSettings.apply, LockedSettings.apply]
      cases locked : second.isLocked target with
      | true =>
          rwa [tune_of_locked locked, tune_of_locked (sameLock.trans locked)]
      | false =>
          rw [tune_of_unlocked locked, tune_of_unlocked (sameLock.trans locked)]
          exact same.record target arg

/-- So do any calls. -/
theorem run (same : SameAt setter first second)
    (calls : List (SetterCall Arg)) :
    SameAt setter (first.run calls) (second.run calls) := by
  induction calls generalizing first second with
  | nil => exact same
  | cons call calls inductionHypothesis =>
      rw [run_cons, run_cons]
      exact inductionHypothesis (same.apply call)

end SameAt

section Resolution

namespace LockedSettings

/-- Each setting is locked under a name of its own. -/
def DistinctNames (S : Type u) [Lockable S N] : Prop :=
  ∀ (setter other : S) (name : N), Lockable.lockName setter = some name →
    Lockable.lockName other = some name → setter = other

variable (distinct : DistinctNames (N := N) S)

omit [DecidableEq S] in
include distinct in
/-- Locking a setting locks no other. -/
theorem lock_isLocked_of_ne (settings : LockedSettings Arg N)
    {setter other : S} (differs : setter ≠ other) :
    (settings.lock setter).isLocked other = settings.isLocked other := by
  rw [lock]
  split
  · rename_i name named
    rw [Bool.eq_iff_iff, isLocked_iff, isLocked_iff]
    constructor
    · intro locked
      obtain ⟨found, otherNamed, member⟩ := locked
      refine ⟨found, otherNamed, ?_⟩
      rcases Finset.mem_insert.mp member with rfl | member
      · exact absurd (distinct setter other found named otherNamed) differs
      · exact member
    · intro locked
      obtain ⟨found, otherNamed, member⟩ := locked
      exact ⟨found, otherNamed, Finset.mem_insert_of_mem member⟩
  · rfl

include distinct in
/-- A call of another setting does not change whether this one is locked. -/
theorem apply_isLocked_of_ne (settings : LockedSettings Arg N)
    {call : SetterCall Arg} {setter : S} (differs : call.setter ≠ setter) :
    (settings.apply call).isLocked setter = settings.isLocked setter := by
  cases call with
  | set target arg =>
      have other : target ≠ setter := differs
      rw [apply, set, lock_isLocked_of_ne distinct _ other, record_isLocked]
  | tune target arg =>
      rw [apply, tune]
      split
      · rfl
      · rfl

variable {setter : S} {name : N} (named : Lockable.lockName setter = some name)

include distinct named in
theorem apply_isLocked (settings : LockedSettings Arg N)
    (call : SetterCall Arg) :
    (settings.apply call).isLocked setter =
      (settings.isLocked setter || (call.setArg setter).isSome) := by
  by_cases same : call.setter = setter
  · subst same
    cases call with
    | set target arg =>
        dsimp only [SetterCall.setter] at named ⊢
        rw [apply, set_isLocked settings named, SetterCall.setArg_self,
          Option.isSome_some, Bool.or_true]
    | tune target arg =>
        rw [apply, (Respects.tune settings target arg).isLocked]
        exact (Bool.or_false _).symm
  · rw [apply_isLocked_of_ne distinct settings same,
      SetterCall.setArg_of_ne same, Option.isSome_none, Bool.or_false]

/-- One call records the argument of its `set`, or of its `tune` where the
setting is not locked. -/
theorem apply_inner (settings : LockedSettings Arg N)
    (call : SetterCall Arg) (setter : S) :
    (settings.apply call).inner setter =
      (call.setArg setter).or
        (if settings.isLocked setter then settings.inner setter
          else (call.tuneArg setter).or (settings.inner setter)) := by
  by_cases same : call.setter = setter
  · cases call with
    | set target arg =>
        subst same
        change (settings.set target arg).inner target =
          ((SetterCall.set target arg).setArg target).or _
        rw [set_inner, Settings.record_self, SetterCall.setArg_self]
        rfl
    | tune target arg =>
        subst same
        change (settings.tune target arg).inner target =
          if settings.isLocked target then settings.inner target
          else ((SetterCall.tune target arg).tuneArg target).or _
        by_cases locked : settings.isLocked target = true
        · rw [tune_of_locked locked, if_pos locked]
        · rw [tune_of_unlocked (Bool.eq_false_iff.mpr locked), if_neg locked,
            record_inner_self, SetterCall.tuneArg_self]
          rfl
  · rw [apply_inner_of_ne settings same, SetterCall.setArg_of_ne same,
      SetterCall.tuneArg_of_ne same, Option.none_or, Option.none_or, ite_self]

include distinct named in
/-- After any calls a setting is locked where it was, or where it was set. -/
theorem run_isLocked (settings : LockedSettings Arg N)
    (calls : List (SetterCall Arg)) :
    (settings.run calls).isLocked setter =
      (settings.isLocked setter || (SetterCall.lastSet setter calls).isSome) := by
  induction calls generalizing settings with
  | nil => exact (Bool.or_false _).symm
  | cons call calls inductionHypothesis =>
      rw [run_cons, inductionHypothesis, apply_isLocked distinct named,
        SetterCall.lastSet, Option.isSome_or, Bool.or_assoc,
        Bool.or_comm (call.setArg setter).isSome]

include distinct named in
/-- The last `set` counts; without one, a locked setting is as it was, and one
that is not locked is what the last `tune` asked for. -/
theorem run_inner (settings : LockedSettings Arg N)
    (calls : List (SetterCall Arg)) :
    (settings.run calls).inner setter =
      (SetterCall.lastSet setter calls).or
        (if settings.isLocked setter then settings.inner setter
          else (SetterCall.lastTune setter calls).or
            (settings.inner setter)) := by
  induction calls generalizing settings with
  | nil =>
      simp only [run_nil, SetterCall.lastSet, SetterCall.lastTune,
        Option.none_or, ite_self]
  | cons call calls inductionHypothesis =>
      rw [run_cons, inductionHypothesis, apply_isLocked distinct named,
        apply_inner, SetterCall.lastSet, SetterCall.lastTune, Option.or_assoc,
        Option.or_assoc]
      congr 1
      cases call.setArg setter with
      | some arg => simp
      | none => cases settings.isLocked setter <;> simp

omit [DecidableEq N] [Lockable S N] in
theorem record_comm (settings : LockedSettings Arg N) {setter other : S}
    (differs : setter ≠ other) (arg : Arg setter) (otherArg : Arg other) :
    (settings.record setter arg).record other otherArg =
      (settings.record other otherArg).record setter arg := by
  simp only [record, Settings.record, Function.update_comm differs]

omit [DecidableEq S] in
theorem lock_comm (settings : LockedSettings Arg N) (setter other : S) :
    (settings.lock setter).lock other = (settings.lock other).lock setter := by
  unfold lock
  cases Lockable.lockName setter <;> cases Lockable.lockName other <;>
    simp [Finset.insert_comm]

theorem lock_record (settings : LockedSettings Arg N) (setter other : S)
    (otherArg : Arg other) :
    (settings.lock setter).record other otherArg =
      (settings.record other otherArg).lock setter := by
  unfold lock
  cases Lockable.lockName setter <;> rfl

include distinct in
theorem set_tune_comm (settings : LockedSettings Arg N) {setter other : S}
    (differs : setter ≠ other) (arg : Arg setter) (otherArg : Arg other) :
    (settings.set setter arg).tune other otherArg =
      (settings.tune other otherArg).set setter arg := by
  have sameLock :
      (settings.set setter arg).isLocked other = settings.isLocked other := by
    rw [set, lock_isLocked_of_ne distinct _ differs, record_isLocked]
  cases locked : settings.isLocked other with
  | true => rw [tune_of_locked locked, tune_of_locked (sameLock.trans locked)]
  | false =>
      rw [tune_of_unlocked locked, tune_of_unlocked (sameLock.trans locked),
        set, set, lock_record, record_comm settings differs]

include distinct in
/-- Calls of different settings commute. -/
theorem apply_comm (settings : LockedSettings Arg N)
    {first second : SetterCall Arg} (differs : first.setter ≠ second.setter) :
    (settings.apply first).apply second =
      (settings.apply second).apply first := by
  cases first with
  | set setter arg =>
      cases second with
      | set other otherArg =>
          have different : setter ≠ other := differs
          have commute := record_comm settings different arg otherArg
          rw [apply, apply, apply, apply, set, set, lock_record, commute,
            lock_comm, set, set, lock_record]
      | tune other otherArg =>
          exact set_tune_comm distinct settings differs arg otherArg
  | tune setter arg =>
      cases second with
      | set other otherArg =>
          exact (set_tune_comm distinct settings differs.symm otherArg arg).symm
      | tune other otherArg =>
          have different : setter ≠ other := differs
          have commute := record_comm settings different arg otherArg
          by_cases locked : settings.isLocked setter = true <;>
            by_cases otherLocked : settings.isLocked other = true <;>
            simp [apply, tune, locked, otherLocked, commute]

include distinct named in
/-- A `tune` of a setting that was set before has no effect. -/
theorem run_tune_after_set (settings : LockedSettings Arg N)
    {before after : List (SetterCall Arg)} (arg : Arg setter)
    (wasSet : ∃ arg, .set setter arg ∈ before) :
    settings.run (before ++ .tune setter arg :: after) =
      settings.run (before ++ after) := by
  have locked : (settings.run before).isLocked setter = true := by
    rw [run_isLocked distinct named, SetterCall.lastSet_isSome_iff.mpr wasSet,
      Bool.or_true]
  rw [run_append, run_append, run_cons, apply, tune_of_locked locked]

end LockedSettings

end Resolution

end RockSolid.Foundation
