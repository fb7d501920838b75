/-
Module: RockSolid.Foundation.CallLog
Layer: Foundation
Purpose: Settings seen as the sequence of the calls that were made on them.  Of a
  run, the calls that are made are the `set`s, and the `tune`s that find their
  setting not locked; replaying them gives the settings that the run leaves.  Tunes
  of settings that are not locked are all made.
Trusted boundary: none
Main exports: MadeCall, Settings.replay, LockedSettings.performed,
  LockedSettings.inner_run_eq_replay, performed_tunes, LoggedSettings
-/
import RockSolid.Foundation.LockedSettings

namespace RockSolid.Foundation

universe u v w

/-- A setter that was called, and its argument. -/
abbrev MadeCall {S : Type u} (Arg : S → Type v) := (setter : S) × Arg setter

variable {S : Type u} {Arg : S → Type v} {N : Type w}

/-- The call as it is made, whether it is conditional or not. -/
def SetterCall.made : SetterCall Arg → MadeCall Arg
  | .set setter arg | .tune setter arg => ⟨setter, arg⟩

variable [DecidableEq S]

/-- The settings after the calls. -/
def Settings.replay (settings : Settings Arg) (calls : List (MadeCall Arg)) :
    Settings Arg :=
  calls.foldl (fun settings call => settings.record call.1 call.2) settings

theorem Settings.replay_append (settings : Settings Arg)
    (first second : List (MadeCall Arg)) :
    settings.replay (first ++ second) =
      (settings.replay first).replay second :=
  List.foldl_append

variable [DecidableEq N] [Lockable S N]

namespace LockedSettings

/-- The calls of a run that are made. -/
def performed (settings : LockedSettings Arg N) :
    List (SetterCall Arg) → List (MadeCall Arg)
  | [] => []
  | call :: calls =>
      let others := performed (settings.apply call) calls
      if call.isTune && settings.isLocked call.setter then others
      else call.made :: others

/-- What a run leaves is what the calls it made leave. -/
theorem inner_run_eq_replay (settings : LockedSettings Arg N)
    (calls : List (SetterCall Arg)) :
    (settings.run calls).inner =
      settings.inner.replay (settings.performed calls) := by
  induction calls generalizing settings with
  | nil => rfl
  | cons call calls inductionHypothesis =>
      rw [run_cons, inductionHypothesis, performed]
      cases call with
      | set setter arg =>
          rw [apply, set_inner]
          rfl
      | tune setter arg =>
          rw [apply]
          cases locked : settings.isLocked setter with
          | true =>
              rw [tune_of_locked locked, if_pos (by
                rw [SetterCall.isTune, SetterCall.setter, locked]; rfl)]
          | false =>
              rw [tune_of_unlocked locked, if_neg (by
                rw [SetterCall.isTune, SetterCall.setter, locked]; simp)]
              rfl

theorem performed_append (settings : LockedSettings Arg N)
    (first second : List (SetterCall Arg)) :
    settings.performed (first ++ second) =
      settings.performed first ++ (settings.run first).performed second := by
  induction first generalizing settings with
  | nil => rfl
  | cons call first inductionHypothesis =>
      rw [List.cons_append, performed, performed, inductionHypothesis, run_cons]
      split <;> rfl

/-- Where nothing is locked every tune is made. -/
theorem performed_tunes {settings : LockedSettings Arg N}
    (unlocked : ∀ setter, settings.isLocked setter = false)
    {calls : List (SetterCall Arg)}
    (conditional : ∀ call ∈ calls, call.isTune = true) :
    settings.performed calls = calls.map SetterCall.made := by
  induction calls generalizing settings with
  | nil => rfl
  | cons call calls inductionHypothesis =>
      rw [List.forall_mem_cons] at conditional
      cases call with
      | set setter arg => cases conditional.1
      | tune setter arg =>
          have stillUnlocked (other : S) :
              (settings.tune setter arg).isLocked other = false :=
            ((Respects.tune settings setter arg).isLocked other).trans
              (unlocked other)
          rw [performed, SetterCall.setter, unlocked, Bool.and_false,
            if_neg Bool.false_ne_true, List.map_cons, apply,
            inductionHypothesis stillUnlocked conditional.2]

/-- A `set` is made whatever is locked. -/
theorem performed_set (settings : LockedSettings Arg N) (setter : S)
    (arg : Arg setter) : settings.performed [.set setter arg] = [⟨setter, arg⟩] :=
  rfl

end LockedSettings

/-- Settings with the calls that were made on fresh ones. -/
structure LoggedSettings {S : Type u} (Arg : S → Type v) (N : Type w)
    [DecidableEq S] where
  settings : LockedSettings Arg N
  log : List (MadeCall Arg)
  replays : settings.inner = Settings.replay (fun _ => none) log

namespace LoggedSettings

omit [DecidableEq N] [Lockable S N] in
/-- No call was made. -/
def fresh : LoggedSettings Arg N where
  settings := .new fun _ => none
  log := []
  replays := rfl

def run (logged : LoggedSettings Arg N) (calls : List (SetterCall Arg)) :
    LoggedSettings Arg N where
  settings := logged.settings.run calls
  log := logged.log ++ logged.settings.performed calls
  replays := by
    rw [LockedSettings.inner_run_eq_replay, Settings.replay_append,
      logged.replays]

/-- On fresh settings, where nothing is locked, tunes are all made, and so is a
`set` after them. -/
theorem log_run_tunes {calls : List (SetterCall Arg)}
    (conditional : ∀ call ∈ calls, call.isTune = true) :
    ((fresh : LoggedSettings Arg N).run calls).log =
      calls.map SetterCall.made :=
  LockedSettings.performed_tunes (LockedSettings.isLocked_new _) conditional

theorem log_run_tunes_set {calls : List (SetterCall Arg)}
    (conditional : ∀ call ∈ calls, call.isTune = true) (setter : S)
    (arg : Arg setter) :
    ((fresh : LoggedSettings Arg N).run (calls ++ [.set setter arg])).log =
      (calls ++ [SetterCall.set setter arg]).map SetterCall.made := by
  have tunes := log_run_tunes (N := N) conditional
  apply (LockedSettings.performed_append _ calls _).trans
  rw [LockedSettings.performed_set, List.map_append, ← tunes]
  rfl

end LoggedSettings

end RockSolid.Foundation
