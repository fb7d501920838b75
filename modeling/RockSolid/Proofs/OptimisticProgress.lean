/-
Module: RockSolid.Proofs.OptimisticProgress
Layer: Proofs
Purpose: Calls of `execute_with_snapshot` under `FixedRetry` come to an end.  A
  refused commit was overtaken by a batch that was committed during the attempt, and
  each of the other callers commits once at most; so a call loses no more rounds
  than there are other callers and plain batches, and as many attempts and one more
  are enough for it.
Trusted boundary: none
Main exports: CallMoves, PhasePaced, Caller.rank,
  OptimisticSystem.validatingStep_moves, OptimisticSystem.length_log,
  OptimisticSystem.Accounts, retries_suffice
-/
import RockSolid.Foundation.RankedRuns
import RockSolid.Proofs.OptimisticSerial
import RockSolid.Semantics.OptimisticProgress

namespace RockSolid

open Foundation

theorem Caller.eq_of_phase {Q R RTP : Type} {caller : Caller Q R RTP}
    {phase : Phase Q R} (here : caller.phase = phase) :
    caller = ⟨caller.retryPolicy, caller.round, phase⟩ := by
  subst here
  rfl

section Calls

variable {Q R : Type} {closure : Closure Q R} {calls : Q → Nat} {most : Nat}
  {db : DbHandle} {base data : ByteDb} {attempt next : Attempt Q} {log : CommitLog}

/-- A call of the closure leaves fewer. -/
theorem BoundedCalls.fewer (bounded : BoundedCalls closure calls most)
    {fault : Option Fault}
    (advanced : attempt.advance closure db data fault = some next) :
    calls next.program < calls attempt.program := by
  rw [Attempt.advance] at advanced
  split at advanced
  · next at_ resume asked =>
      cases advanced
      exact bounded.get attempt.program at_ resume asked _
  · next op resume asked =>
      cases advanced
      exact bounded.stage attempt.program op resume asked _
  · cases advanced

/-- A conflict is with a batch committed after the snapshot. -/
theorem NativeTxn.Conflicts.overtaken {txn : NativeTxn}
    (conflicts : txn.Conflicts log) {position : Nat}
    (snapshot : txn.snapshot = some position) : position < log.length := by
  obtain ⟨other, taken, op, staged, batch, member, touched⟩ := conflicts
  rw [snapshot] at taken
  cases taken
  have nonempty := List.length_pos_of_mem member
  rw [List.length_drop] at nonempty
  omega

/-- What a step makes of the call that takes it, `log` being committed before. -/
inductive CallMoves (closure : Closure Q R) (calls : Q → Nat) (most : Nat)
    (log : CommitLog) : Caller Q R FixedRetry → Caller Q R FixedRetry → Prop where
  | begins {policy : FixedRetry} {round : Nat} (program : Q) :
      CallMoves closure calls most log ⟨policy, round, .between program⟩
        ⟨policy, round, .running program (.begin true log.length program)⟩
  | advances {policy : FixedRetry} {round : Nat} {start : Q}
      {attempt next : Attempt Q} (fewer : calls next.program < calls attempt.program)
      (snapshot : next.txn.snapshot = attempt.txn.snapshot) :
      CallMoves closure calls most log ⟨policy, round, .running start attempt⟩
        ⟨policy, round, .running start next⟩
  | commits {policy : FixedRetry} {round : Nat} {start : Q} {attempt : Attempt Q}
      (result : R) :
      CallMoves closure calls most log ⟨policy, round, .running start attempt⟩
        ⟨policy, round + 1, .returned (.ok result)⟩
  | fails {policy : FixedRetry} {round : Nat} {start again : Q}
      {attempt : Attempt Q} {e : StoreError}
      (finished : closure attempt.program = .finish (.error e) again) :
      CallMoves closure calls most log ⟨policy, round, .running start attempt⟩
        ⟨policy, round + 1, .returned (.error e)⟩
  | retries {policy : FixedRetry} {round : Nat} {start again : Q}
      {attempt : Attempt Q} (conflicts : attempt.txn.Conflicts log)
      (within : calls again ≤ most) :
      CallMoves closure calls most log ⟨policy, round, .running start attempt⟩
        ⟨policy, round + 1, .between again⟩
  | givesUp {policy : FixedRetry} {round : Nat} {start : Q} {attempt : Attempt Q}
      (conflicts : attempt.txn.Conflicts log)
      (exhausted : policy.maxAttempts ≤ round + 1) (e : StoreError) :
      CallMoves closure calls most log ⟨policy, round, .running start attempt⟩
        ⟨policy, round + 1, .returned (.error e)⟩

/-- How a call keeps up with the batches committed since the start: each round it
lost is charged to one of them, and so is every attempt the policy allowed when the
policy stopped the call. -/
def PhasePaced (db : DbHandle) (base : ByteDb) (closure : Closure Q R)
    (calls : Q → Nat) (most : Nat) (policy : FixedRetry) (log : CommitLog)
    (round : Nat) : Phase Q R → Prop
  | .between program => round ≤ log.length ∧ calls program ≤ most
  | .running _ attempt => ∃ position, attempt.txn.snapshot = some position ∧
      round ≤ position ∧ position ≤ log.length
  | .returned (.ok _) => True
  | .returned (.error e) => FailedItself db base closure log e ∨
      max 1 policy.maxAttempts ≤ log.length

/-- Further batches do not disturb a call. -/
theorem PhasePaced.concat {policy : FixedRetry} {round : Nat}
    {phase : Phase Q R}
    (paced : PhasePaced db base closure calls most policy log round phase)
    (batch : List WriteOp) :
    PhasePaced db base closure calls most policy (log ++ [batch]) round phase := by
  have longer : log.length ≤ (log ++ [batch]).length := by simp
  cases phase with
  | between program => exact ⟨Nat.le_trans paced.1 longer, paced.2⟩
  | running start attempt =>
      obtain ⟨position, snapshot, charged, bound⟩ := paced
      exact ⟨position, snapshot, charged, Nat.le_trans bound longer⟩
  | returned result =>
      cases result with
      | ok result => trivial
      | error e =>
          rcases paced with ⟨start, attempt, again, follows, finished⟩ | overtaken
          · exact .inl ⟨start, attempt, again, follows.concat batch, finished⟩
          · exact .inr (Nat.le_trans overtaken longer)

theorem CallMoves.unreturned {before after : Caller Q R FixedRetry}
    (moves : CallMoves closure calls most log before after) :
    before.phase.okResult = none := by
  cases moves <;> rfl

/-- A call that moves still keeps up. -/
theorem CallMoves.paced {before after : Caller Q R FixedRetry}
    (moves : CallMoves closure calls most log before after)
    (follows : ∀ start attempt, before.phase = .running start attempt →
      Follows db base closure log start attempt)
    (paced : PhasePaced db base closure calls most before.retryPolicy log
      before.round before.phase) :
    after.retryPolicy = before.retryPolicy ∧
      PhasePaced db base closure calls most before.retryPolicy log after.round
        after.phase := by
  refine ⟨by cases moves <;> rfl, ?_⟩
  cases moves with
  | begins program => exact ⟨log.length, rfl, paced.1, Nat.le_refl _⟩
  | advances fewer sameSnapshot =>
      obtain ⟨position, snapshot, charged, bound⟩ := paced
      exact ⟨position, sameSnapshot.trans snapshot, charged, bound⟩
  | commits result => trivial
  | fails finished => exact .inl ⟨_, _, _, follows _ _ rfl, finished⟩
  | @retries policy round start again attempt conflicts within =>
      obtain ⟨position, snapshot, (charged : round ≤ position), -⟩ := paced
      have overtaken := conflicts.overtaken snapshot
      have lost : round + 1 ≤ log.length := by omega
      exact ⟨lost, within⟩
  | @givesUp policy round start attempt conflicts exhausted e =>
      obtain ⟨position, snapshot, (charged : round ≤ position), -⟩ := paced
      have overtaken := conflicts.overtaken snapshot
      have allLost : max 1 policy.maxAttempts ≤ log.length := by omega
      exact .inr allLost

/-- The steps a call has left when it may lose `budget` rounds. -/
def Caller.rank {RTP : Type} (calls : Q → Nat) (most budget : Nat)
    (caller : Caller Q R RTP) : Nat :=
  match caller.phase with
  | .between _ => (budget - caller.round) * (most + 2) + (most + 2)
  | .running _ attempt =>
      (budget - caller.round) * (most + 2) + (calls attempt.program + 1)
  | .returned _ => 0

/-- Every move of a call takes one of them. -/
theorem CallMoves.lowers {before after : Caller Q R FixedRetry} {budget : Nat}
    (moves : CallMoves closure calls most log before after)
    (paced : PhasePaced db base closure calls most before.retryPolicy log
      before.round before.phase) (bound : log.length ≤ budget) :
    Caller.rank calls most budget after + 1 ≤
      Caller.rank calls most budget before := by
  cases moves with
  | begins program =>
      have within := paced.2
      simp only [Caller.rank, Attempt.begin]
      omega
  | advances fewer snapshot =>
      simp only [Caller.rank]
      omega
  | commits | fails | givesUp =>
      simp only [Caller.rank]
      omega
  | @retries policy round start again attempt conflicts within =>
      obtain ⟨position, snapshot, (charged : round ≤ position), -⟩ := paced
      have overtaken := conflicts.overtaken snapshot
      have left : budget - round = (budget - (round + 1)) + 1 := by omega
      simp only [Caller.rank]
      rw [left, Nat.succ_mul]
      omega

end Calls

namespace OptimisticSystem

variable {Client Q R : Type} [DecidableEq Client] {db : DbHandle} {base : ByteDb}
  {closure : Client → Closure Q R} {calls : Client → Q → Nat} {most : Nat}
  {s next : OptimisticSystem Client Q R FixedRetry}

variable (base) in
/-- What the end of an attempt makes of its call, when validation decides about
the commit. -/
theorem endAttempt_moves {client : Client} {start : Q} {attempt : Attempt Q}
    {fault : Option Fault} {operation : StoreResult R} {again : Q}
    (bounded : BoundedCalls (closure client) (calls client) most)
    (running : (s.callers client).phase = .running start attempt)
    (finished : closure client attempt.program = .finish operation again)
    (needed : operation.isOk → fault ≠ none → attempt.txn.Conflicts s.commitLog) :
    let ended := s.endAttempt base client start attempt fault operation again
    CallMoves (closure client) (calls client) most s.commitLog (s.callers client)
        (ended.callers client) ∧
      (ended.log = s.log ∨
        ∃ txn result, ended.log = s.log ++ [.attempt client start txn result]) := by
  have within := bounded.finish attempt.program operation again finished
  have here := Caller.eq_of_phase running
  rcases operation with e | result
  · simp only [endAttempt, RockSolid.endAttempt, Function.update_self]
    rw [here]
    exact ⟨.fails finished, .inl trivial⟩
  · cases fault with
    | none =>
        simp only [endAttempt, RockSolid.endAttempt, NativeTxn.commit,
          Function.update_self]
        rw [here]
        exact ⟨.commits result, .inr ⟨_, _, rfl⟩⟩
    | some fault =>
        have conflicts := needed rfl (Option.some_ne_none fault)
        simp only [endAttempt, RockSolid.endAttempt, NativeTxn.commit,
          Function.update_self, RetryPolicy.shouldRetry]
        by_cases exhausted :
            (s.callers client).round + 1 ≥ (s.callers client).retryPolicy.maxAttempts
        · simp only [if_pos exhausted]
          rw [here]
          exact ⟨.givesUp conflicts exhausted _, .inl trivial⟩
        · simp only [if_neg exhausted]
          rw [here]
          exact ⟨.retries conflicts within, .inl trivial⟩

omit [DecidableEq Client] in
/-- A commit that is not refused needlessly is refused for a conflict. -/
theorem conflicts_of_needed {client : Client} {start : Q} {attempt : Attempt Q}
    {fault : Option Fault} {operation : StoreResult R} {again : Q}
    (needed : ¬ s.refusesNeedlessly closure (.act client fault))
    (running : (s.callers client).phase = .running start attempt)
    (finished : closure client attempt.program = .finish operation again)
    (isOk : operation.isOk) (refused : fault ≠ none) :
    attempt.txn.Conflicts s.commitLog := by
  cases fault with
  | none => exact absurd rfl refused
  | some fault =>
      by_contra accepted
      exact needed (by simp [refusesNeedlessly, running, finished, isOk, accepted])

/-- What one step can do. -/
theorem validatingStep_moves {step : SystemStep Client}
    (bounded : ∀ client, BoundedCalls (closure client) (calls client) most)
    (taken : validatingStep? db base closure s step = some next) :
    (∃ batch, step = .plain batch ∧
      next = { s with log := s.log ++ [.plain batch] }) ∨
    ∃ mover, step.isPlain = false ∧
      CallMoves (closure mover) (calls mover) most s.commitLog (s.callers mover)
        (next.callers mover) ∧
      (∀ other, other ≠ mover → next.callers other = s.callers other) ∧
      (next.log = s.log ∨ ∃ start txn result,
        next.log = s.log ++ [.attempt mover start txn result]) := by
  rw [validatingStep?] at taken
  split at taken
  · cases taken
  next needed =>
  cases step with
  | plain batch =>
      cases taken
      exact .inl ⟨batch, rfl, rfl⟩
  | begin client =>
      rw [step?] at taken
      split at taken
      · next program phase =>
          cases taken
          have here := Caller.eq_of_phase phase
          refine .inr ⟨client, rfl, ?_, ?_, .inl rfl⟩
          · simp only [enter, Function.update_self]
            rw [here, ← s.log.length_map LogEntry.batch]
            exact .begins program
          · intro other differs
            simp [enter, differs]
      · cases taken
  | act client fault =>
      rw [step?] at taken
      split at taken
      · next start attempt phase =>
          split at taken
          · next operation again finished =>
              split at taken
              · cases taken
              · cases taken
                obtain ⟨moves, log⟩ := endAttempt_moves base (bounded client)
                  phase finished (conflicts_of_needed needed phase finished)
                refine .inr ⟨client, rfl, moves, ?_, ?_⟩
                · exact fun other differs => endAttempt_others s start attempt
                    fault operation again differs
                · exact log.imp_right fun committed => ⟨start, committed⟩
          · obtain ⟨after, advanced, rfl⟩ := Option.map_eq_some_iff.mp taken
            have here := Caller.eq_of_phase phase
            refine .inr ⟨client, rfl, ?_, ?_, .inl rfl⟩
            · simp only [enter, Function.update_self]
              rw [here]
              exact .advances ((bounded client).fewer advanced)
                (advances_extends ⟨fault, advanced⟩).1
            · intro other differs
              simp [enter, differs]
      · cases taken

/-- A step of a validating engine is a step. -/
theorem step_of_validating {step : SystemStep Client}
    (taken : validatingStep? db base closure s step = some next) :
    step? db base closure s step = some next := by
  rw [validatingStep?] at taken
  split at taken
  · cases taken
  · exact taken

/-- Every committed batch is a plain one or carries the result of one caller. -/
theorem length_log [Fintype Client] (log : List (LogEntry Client Q R)) :
    log.length = log.countP LogEntry.isPlain +
      ∑ client, (log.filterMap (LogEntry.resultFor client)).length := by
  induction log with
  | nil => simp
  | cons entry log inductionHypothesis =>
      cases entry with
      | plain batch =>
          simp only [List.length_cons, List.countP_cons, LogEntry.isPlain,
            List.filterMap_cons, LogEntry.resultFor, if_true, inductionHypothesis]
          omega
      | attempt other start txn result =>
          have counted : ∀ client,
              (List.filterMap (LogEntry.resultFor client)
                (.attempt other start txn result :: log)).length =
              (if other = client then 1 else 0) +
                (log.filterMap (LogEntry.resultFor client)).length := by
            intro client
            by_cases isOther : other = client
            · simp [LogEntry.resultFor, isOther, Nat.add_comm]
            · simp [LogEntry.resultFor, isOther]
          simp only [counted, Finset.sum_add_distrib, Finset.sum_ite_eq,
            Finset.mem_univ, if_true, List.length_cons, List.countP_cons,
            LogEntry.isPlain, inductionHypothesis]
          simp only [Bool.false_eq_true, if_false]
          omega

/-- While a call has not returned `Ok`, only others have committed, each caller
once at most. -/
theorem length_log_lt [Fintype Client] (invariant : Invariant db base closure s)
    (client : Client) (unreturned : (s.callers client).phase.okResult = none) :
    s.log.length < Fintype.card Client + s.log.countP LogEntry.isPlain := by
  have results : ∑ other, (s.log.filterMap (LogEntry.resultFor other)).length + 1 ≤
      ∑ _other : Client, 1 := by
    apply sum_lowers client
    · rw [invariant.results client, unreturned]
      rfl
    · intro other differs
      rw [invariant.results other]
      cases (s.callers other).phase.okResult <;> simp
  rw [← Finset.card_eq_sum_ones, Finset.card_univ] at results
  have total := length_log s.log
  omega

/-- What a run keeps, `plain` of its steps being batches of others. -/
structure Accounts (db : DbHandle) (base : ByteDb) (closure : Client → Closure Q R)
    (calls : Client → Q → Nat) (most : Nat) (policy : Client → FixedRetry)
    (plain : Nat) (s : OptimisticSystem Client Q R FixedRetry) : Prop where
  invariant : Invariant db base closure s
  policies : ∀ client, (s.callers client).retryPolicy = policy client
  paced : ∀ client, PhasePaced db base (closure client) (calls client) most
    (policy client) s.commitLog (s.callers client).round (s.callers client).phase
  plain : s.log.countP LogEntry.isPlain = plain

theorem Accounts.step {policy : Client → FixedRetry} {plain : Nat}
    (accounts : Accounts db base closure calls most policy plain s)
    (bounded : ∀ client, BoundedCalls (closure client) (calls client) most)
    {step : SystemStep Client}
    (taken : validatingStep? db base closure s step = some next) :
    Accounts db base closure calls most policy (plain + step.isPlain.toNat)
      next := by
  have invariant := accounts.invariant.step (step_of_validating taken)
  rcases validatingStep_moves bounded taken with ⟨batch, rfl, rfl⟩ |
    ⟨mover, others, moves, unchanged, log⟩
  · refine ⟨invariant, accounts.policies, ?_, ?_⟩
    · intro client
      simpa [commitLog, LogEntry.batch] using (accounts.paced client).concat batch
    · simp [accounts.plain, LogEntry.isPlain, SystemStep.isPlain]
  · obtain ⟨samePolicy, moved⟩ := moves.paced
      (accounts.invariant.follows mover)
      (by rw [accounts.policies mover]; exact accounts.paced mover)
    have now : ∀ client,
        (next.callers client).retryPolicy = policy client ∧
        PhasePaced db base (closure client) (calls client) most (policy client)
          s.commitLog (next.callers client).round (next.callers client).phase := by
      intro client
      by_cases isMover : client = mover
      · subst isMover
        rw [samePolicy, accounts.policies client]
        exact ⟨rfl, accounts.policies client ▸ moved⟩
      · rw [unchanged client isMover]
        exact ⟨accounts.policies client, accounts.paced client⟩
    refine ⟨invariant, fun client => (now client).1, ?_, ?_⟩
    · intro client
      rcases log with same | ⟨start, txn, result, same⟩
      · rw [commitLog, same]
        exact (now client).2
      · rw [commitLog, same, List.map_append]
        exact (now client).2.concat txn.staged
    · rw [others]
      rcases log with same | ⟨start, txn, result, same⟩ <;>
        simp [same, accounts.plain, LogEntry.isPlain]

theorem Accounts.initial (program : Client → Q) (policy : Client → FixedRetry)
    (within : ∀ client, calls client (program client) ≤ most) :
    Accounts db base closure calls most policy 0 (initial program policy) where
  invariant := .initial program policy
  policies := fun _ => rfl
  paced := fun client => ⟨Nat.zero_le _, within client⟩
  plain := rfl

/-- The accounts of a run. -/
theorem accounts_of_run {program : Client → Q} {policy : Client → FixedRetry}
    (bounded : ∀ client, BoundedCalls (closure client) (calls client) most)
    (within : ∀ client, calls client (program client) ≤ most)
    {steps : List (SystemStep Client)}
    (ran : validatingRun? db base closure (initial program policy) steps = some s) :
    Accounts db base closure calls most policy (steps.countP SystemStep.isPlain)
      s := by
  apply history_of_foldlM ran (.initial program policy within)
  intro earlier step s next accounts taken
  have stepped := accounts.step bounded taken
  rw [List.countP_append]
  cases isPlain : step.isPlain <;> simpa [isPlain] using stepped

/-- A step takes from the ranks of the callers, unless others commit. -/
theorem Accounts.lowers [Fintype Client] {policy : Client → FixedRetry}
    {plain budget : Nat}
    (accounts : Accounts db base closure calls most policy plain s)
    (bounded : ∀ client, BoundedCalls (closure client) (calls client) most)
    (enough : Fintype.card Client + plain ≤ budget + 1) {step : SystemStep Client}
    (taken : validatingStep? db base closure s step = some next) :
    ∑ client, (next.callers client).rank (calls client) most budget +
        (!step.isPlain).toNat ≤
      ∑ client, (s.callers client).rank (calls client) most budget := by
  rcases validatingStep_moves bounded taken with ⟨batch, rfl, rfl⟩ |
    ⟨mover, others, moves, unchanged, -⟩
  · simp [SystemStep.isPlain]
  · rw [others]
    apply sum_lowers mover
    · have fewer := length_log_lt accounts.invariant mover moves.unreturned
      rw [accounts.plain] at fewer
      apply moves.lowers (by rw [accounts.policies mover]; exact accounts.paced mover)
      rw [commitLog, List.length_map]
      omega
    · intro other differs
      rw [unchanged other differs]

/-- A run is as long as the rounds of its calls and the batches of others make it. -/
theorem length_le_of_run [Fintype Client] {program : Client → Q}
    {policy : Client → FixedRetry}
    (bounded : ∀ client, BoundedCalls (closure client) (calls client) most)
    (within : ∀ client, calls client (program client) ≤ most)
    {steps : List (SystemStep Client)}
    (ran : validatingRun? db base closure (initial program policy) steps = some s) :
    steps.length ≤
      Fintype.card Client *
        ((Fintype.card Client + steps.countP SystemStep.isPlain) * (most + 2)) +
      steps.countP SystemStep.isPlain := by
  let rounds := Fintype.card Client + steps.countP SystemStep.isPlain
  let rank (s : OptimisticSystem Client Q R FixedRetry) :=
    ∑ client, (s.callers client).rank (calls client) most (rounds - 1)
  have spent : steps.countP (fun step => !step.isPlain) + rank s ≤
      rank (initial program policy) := by
    apply cost_le_of_lowers rank _ ran
    intro earlier later step s next parts before taken
    apply (accounts_of_run bounded within before).lowers bounded _ taken
    have fewer : earlier.countP SystemStep.isPlain ≤
        steps.countP SystemStep.isPlain := by
      rw [parts, List.countP_append]
      omega
    omega
  have start : rank (initial program policy) ≤
      Fintype.card Client * (rounds * (most + 2)) := by
    apply Finset.sum_le_card_nsmul
    intro client _
    have someone : 0 < Fintype.card Client := Fintype.card_pos_iff.mpr ⟨client⟩
    have whole : rounds = rounds - 1 + 1 := by omega
    rw [whole, Nat.succ_mul]
    exact Nat.le_refl _
  have counted := List.length_eq_countP_add_countP SystemStep.isPlain (l := steps)
  simp only [Bool.not_eq_true, Bool.decide_eq_false] at counted
  change steps.length ≤ Fintype.card Client * (rounds * (most + 2)) + _
  omega

/-- When no caller can move, all calls have returned. -/
theorem returned_of_stuck
    (stuck : ∀ step, step.isPlain = false →
      validatingStep? db base closure s step = none) (client : Client) :
    ∃ result, (s.callers client).phase = .returned result := by
  cases phase : (s.callers client).phase with
  | returned result => exact ⟨result, rfl⟩
  | between program =>
      have begun := stuck (.begin client) rfl
      simp [validatingStep?, refusesNeedlessly, step?, phase] at begun
  | running start attempt =>
      by_cases conflicts : attempt.txn.Conflicts s.commitLog
      · have refused := stuck (.act client (some ⟨⟨"Busy"⟩, 0⟩)) rfl
        cases asked : closure client attempt.program <;>
          simp [validatingStep?, refusesNeedlessly, step?, phase, asked,
            conflicts, Attempt.advance] at refused
      · have accepted := stuck (.act client none) rfl
        cases asked : closure client attempt.program <;>
          simp [validatingStep?, refusesNeedlessly, step?, phase, asked,
            conflicts, Attempt.advance] at accepted

end OptimisticSystem

section Progress

variable {Client Q R : Type} [DecidableEq Client] [Fintype Client]

/-- Any number of calls of `execute_with_snapshot` under `FixedRetry`, mixed with
plain batches in any interleaving, on an engine that refuses a commit only for a
conflict.  A call that is stopped by its policy was allowed fewer attempts than there
are callers and plain batches; every interleaving comes to its end within as many
rounds of each call; and then every call has returned. -/
theorem retries_suffice (db : DbHandle) (base : ByteDb)
    (closure : Client → Closure Q R) (program : Client → Q)
    (policy : Client → FixedRetry) (calls : Client → Q → Nat) (most : Nat)
    (bounded : ∀ client, BoundedCalls (closure client) (calls client) most)
    (within : ∀ client, calls client (program client) ≤ most)
    {steps : List (SystemStep Client)} {s : OptimisticSystem Client Q R FixedRetry}
    (ran : OptimisticSystem.validatingRun? db base closure
      (OptimisticSystem.initial program policy) steps = some s) :
    let rounds := Fintype.card Client + steps.countP SystemStep.isPlain
    (∀ client e, (s.callers client).phase = .returned (.error e) →
      FailedItself db base (closure client) s.commitLog e ∨
        max 1 (policy client).maxAttempts < rounds) ∧
    steps.length ≤ Fintype.card Client * (rounds * (most + 2)) +
      steps.countP SystemStep.isPlain ∧
    ((∀ step, step.isPlain = false →
        OptimisticSystem.validatingStep? db base closure s step = none) →
      ∀ client, ∃ result, (s.callers client).phase = .returned result) := by
  intro rounds
  have accounts := OptimisticSystem.accounts_of_run bounded within ran
  refine ⟨?_, ?_, OptimisticSystem.returned_of_stuck⟩
  · intro client e returned
    have paced := accounts.paced client
    have fewer := OptimisticSystem.length_log_lt accounts.invariant client
      (by rw [returned]; rfl)
    rw [accounts.plain] at fewer
    rw [returned] at paced
    rcases paced with failed | overtaken
    · exact .inl failed
    · rw [OptimisticSystem.commitLog, List.length_map] at overtaken
      exact .inr (Nat.lt_of_le_of_lt overtaken fewer)
  · exact OptimisticSystem.length_le_of_run bounded within ran

/-- Two callers that add to one counter, with two attempts each: the second begins
before the first commits, and is refused once. -/
theorem retries_suffice_two :
    let counter : CfKey := ⟨"default", [99]⟩
    let db : DbHandle :=
      { columnFamilies := ["default"], fullMerge := fun _ _ _ _ => none }
    let closure : Bool → Closure (Nat × Bytes) Bytes := fun _ q =>
      match q with
      | (0, _) => .get counter fun answer =>
          (1, (answer.toOption.join).getD [])
      | (1, bytes) => .stage (.put counter (bytes ++ [1])) fun _ => (2, bytes)
      | (_, bytes) => .finish (.ok bytes) (0, [])
    let start : OptimisticSystem Bool (Nat × Bytes) Bytes FixedRetry :=
      .initial (fun _ => (0, [])) fun _ => { maxAttempts := 2 }
    ∃ s, OptimisticSystem.validatingRun? db Db.empty closure start
        [.begin true, .act true none, .begin false, .act false none,
          .act true none, .act true none, .act false none,
          .act false (some ⟨⟨"Busy"⟩, 0⟩), .begin false, .act false none,
          .act false none, .act false none] = some s ∧
      s.log.map LogEntry.batch = [[.put counter [1]], [.put counter [1, 1]]] ∧
      ∀ client e, (s.callers client).phase = .returned (.error e) →
        FailedItself db Db.empty (closure client) s.commitLog e := by
  intro counter db closure start
  obtain ⟨s, ran, log⟩ : ∃ s, OptimisticSystem.validatingRun? db Db.empty closure
      start
      [.begin true, .act true none, .begin false, .act false none,
        .act true none, .act true none, .act false none,
        .act false (some ⟨⟨"Busy"⟩, 0⟩), .begin false, .act false none,
        .act false none, .act false none] = some s ∧
      s.log.map LogEntry.batch = [[.put counter [1]], [.put counter [1, 1]]] :=
    ⟨_, rfl, rfl⟩
  have bounded : ∀ client, BoundedCalls (closure client) (fun q => 2 - q.1) 2 := by
    intro client
    constructor
    · rintro ⟨_ | _ | n, bytes⟩ at_ resume asked answer <;> cases asked
      exact Nat.one_lt_two
    · rintro ⟨_ | _ | n, bytes⟩ op resume asked answer <;> cases asked
      exact Nat.zero_lt_one
    · rintro ⟨_ | _ | n, bytes⟩ result again finished <;> cases finished
      exact Nat.le_refl 2
  have all := retries_suffice db Db.empty closure (fun _ => (0, []))
    (fun _ => { maxAttempts := 2 }) (fun _ q => 2 - q.1) 2 bounded
    (fun _ => Nat.le_refl _) ran
  refine ⟨s, ran, log, ?_⟩
  intro client e returned
  rcases all.1 client e returned with failed | exhausted
  · exact failed
  · exact absurd exhausted (by decide)

end Progress

end RockSolid
