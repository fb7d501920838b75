/-
Module: RockSolid.Proofs.RetryLoop
Layer: Proofs
Purpose: The retrying calls of the optimistic builder stop, and for the right
  reason: what one round does, what a run of rounds does under any policy, and
  the bounds that `FixedRetry` and `NoRetry` put on it.
Trusted boundary: none
Main exports: attemptRound_spec, attemptRound_ends, attemptRound_goesOn,
  attemptRound_runs, runsClosure, asksInTurn, FixedRetry.outcome, NoRetry.once,
  retryLoop_stops
-/
import RockSolid.Semantics.RetryLoop

namespace RockSolid

open Foundation

variable {cmps : String → Comparator} {W R RTP : Type}

section Round

variable [RetryPolicy RTP] (snapshot : Bool) (operation : Operation W R)
  (env : Nat → AttemptEnv cmps W) (i : Nat) (s : W × RTP)

/-- A round runs the closure and ends its transaction; then it answers with the
reason for which it ends the call, or goes on in the world that the closure left. -/
theorem attemptRound_spec :
    ∃ turn round after, attemptRound snapshot operation env i s = (turn, round) ∧
      round.retryPolicy = s.2 ∧
      operation ((env i).meanwhile s.1)
        (NativeTxn.create snapshot (env i).position) =
          (round.operation, after, round.left) ∧
      round.Closes env i ∧
      ((∃ returned, turn = .inl returned ∧ Ends env i round returned) ∨
        ∃ policy, turn = .inr (after, policy) ∧ GoesOn env i round policy) := by
  simp only [attemptRound, endAttempt]
  rcases operation ((env i).meanwhile s.1)
    (NativeTxn.create snapshot (env i).position) with ⟨e | result, world, left⟩
  · exact ⟨_, _, world, rfl, rfl, rfl, rfl, .inl ⟨_, rfl, .failed rfl rfl rfl⟩⟩
  have closing : ∀ fault, (env i).fault = fault →
      (left.commit (env i).data fault).2 =
        (left.commit (env i).data (env i).fault).2 := by
    rintro _ rfl
    rfl
  cases met : (env i).fault with
  | none =>
      exact ⟨_, _, world, rfl, rfl, rfl, closing none met,
        .inl ⟨_, rfl, .committed rfl met rfl⟩⟩
  | some fault =>
      simp only [NativeTxn.commit]
      rcases asked : RetryPolicy.shouldRetry (.rocksDb fault.error) (i + 1) s.2
        with ⟨e | _, policy⟩
      · exact ⟨_, _, world, rfl, rfl, rfl, closing (some fault) met,
          .inl ⟨_, rfl, .stopped rfl met rfl (congrArg Prod.fst asked)⟩⟩
      · exact ⟨_, _, world, rfl, rfl, rfl, closing (some fault) met,
          .inr ⟨_, rfl, ⟨result, rfl⟩, rfl, fault, met, asked⟩⟩

variable {snapshot operation env i s} {next : W × RTP}
  {returned : StoreResult R} {round : Round cmps R RTP}

theorem attemptRound_retryPolicy {turn : StoreResult R ⊕ W × RTP}
    (step : attemptRound snapshot operation env i s = (turn, round)) :
    round.retryPolicy = s.2 := by
  obtain ⟨_, _, _, same, found, -⟩ := attemptRound_spec snapshot operation env i s
  rw [step] at same
  cases same
  exact found

theorem attemptRound_ends
    (step : attemptRound snapshot operation env i s = (.inl returned, round)) :
    Ends env i round returned := by
  obtain ⟨_, _, _, same, -, -, -, answers⟩ :=
    attemptRound_spec snapshot operation env i s
  rw [step] at same
  cases same
  rcases answers with ⟨_, ⟨⟩, ends⟩ | ⟨_, ⟨⟩, _⟩
  exact ends

theorem attemptRound_goesOn
    (step : attemptRound snapshot operation env i s = (.inr next, round)) :
    GoesOn env i round next.2 := by
  obtain ⟨_, _, _, same, -, -, -, answers⟩ :=
    attemptRound_spec snapshot operation env i s
  rw [step] at same
  cases same
  rcases answers with ⟨_, ⟨⟩, _⟩ | ⟨_, ⟨⟩, goesOn⟩
  exact goesOn

theorem attemptRound_runs {turn : StoreResult R ⊕ W × RTP}
    (step : attemptRound snapshot operation env i s = (turn, round)) :
    ∃ after, operation ((env i).meanwhile s.1)
        (NativeTxn.create snapshot (env i).position) =
          (round.operation, after, round.left) ∧
      round.Closes env i ∧ ∀ next, turn = .inr next → next.1 = after := by
  obtain ⟨_, _, after, same, -, ran, closes, answers⟩ :=
    attemptRound_spec snapshot operation env i s
  rw [step] at same
  cases same
  refine ⟨after, ran, closes, ?_⟩
  rintro next rfl
  rcases answers with ⟨_, ⟨⟩, _⟩ | ⟨_, ⟨⟩, _⟩
  rfl

/-- All rounds do so, one after the other. -/
theorem runsClosure_of_rounds {answer : Option (StoreResult R)}
    {rounds : List (Round cmps R RTP)}
    (run : Rounds (attemptRound snapshot operation env) i s answer rounds) :
    RunsClosure snapshot operation env i s.1 rounds := by
  induction run with
  | unfinished => exact .done
  | answered ends =>
      obtain ⟨after, ran, closes, -⟩ := attemptRound_runs ends
      exact .round ran closes .done
  | again goesOn later inductionHypothesis =>
      obtain ⟨after, ran, closes, handsOn⟩ := attemptRound_runs goesOn
      rw [handsOn _ rfl] at inductionHypothesis
      exact .round ran closes inductionHypothesis

end Round

section Calls

variable [RetryPolicy RTP] (method : ExecuteMethod)
  (builder : OptimisticTransactionBuilder RTP) (operation : Operation W R)
  (env : Nat → AttemptEnv cmps W) (world : W)

/-- Both methods run the same loop; they differ in the snapshot. -/
theorem execute_eq (fuel : Nat) :
    builder.execute method operation env world fuel =
      runFrom (attemptRound (method == .withSnapshot) operation env) fuel 0
        (world, builder.retryPolicy) := by
  cases method <;> rfl

/-- Under any policy the attempts of a call run its closure. -/
theorem runsClosure (fuel : Nat) :
    RunsClosure (method == .withSnapshot) operation env 0 world
      (builder.execute method operation env world fuel).2 := by
  rw [execute_eq]
  exact runsClosure_of_rounds (runFrom_rounds fuel 0 (world, builder.retryPolicy))

/-- Under any policy a further attempt is made only after the commit failed and
the policy answered `Ok` to the number of the attempt. -/
theorem asksInTurn (fuel : Nat) :
    AsksInTurn env (builder.execute method operation env world fuel).2 := by
  rw [execute_eq]
  intro before round next after whole
  have run : Rounds (attemptRound (method == .withSnapshot) operation env) 0
      (world, builder.retryPolicy) _ _ := runFrom_rounds fuel 0 _
  rw [whole] at run
  obtain ⟨s, _, ⟨_, _, _, isLast⟩ | ⟨later, goesOn, rest⟩⟩ :=
    run.split (fun _ => True) (fun _ _ => trivial) trivial
  · cases isLast
  · have facts := attemptRound_goesOn goesOn
    rw [Nat.zero_add] at facts
    obtain ⟨turn, step⟩ := rest.first
    rw [attemptRound_retryPolicy step]
    exact facts

end Calls

section Fixed

variable {method : ExecuteMethod} {store : RocksDbCFOptimisticTxnStore}
  {policy : FixedRetry} {operation : Operation W R}
  {env : Nat → AttemptEnv cmps W} {world : W}

/-- `FixedRetry` answers by the number of the attempt alone. -/
theorem FixedRetry.shouldRetry_eq (policy : FixedRetry) (fault : Fault)
    (attempt : Nat) :
    RetryPolicy.shouldRetry (.rocksDb fault.error) attempt policy =
      (if policy.maxAttempts ≤ attempt then .error (policy.gaveUp fault)
        else .ok (), policy) := by
  change (if attempt ≥ policy.maxAttempts then _ else _) = _
  split
  · rfl
  · rfl

/-- It lets a round go on while there are attempts left. -/
theorem FixedRetry.goesOn {i : Nat} {round : Round cmps R FixedRetry}
    {next : FixedRetry} (goesOn : GoesOn env i round next) :
    next = round.retryPolicy ∧ i + 1 < round.retryPolicy.maxAttempts := by
  obtain ⟨_, _, fault, _, asked⟩ := goesOn
  rw [shouldRetry_eq, Prod.mk.injEq] at asked
  obtain ⟨answered, same⟩ := asked
  split at answered
  · cases answered
  · next below => exact ⟨same.symm, Nat.lt_of_not_le below⟩

/-- The policy is the same in every round. -/
theorem FixedRetry.step {snapshot : Bool} {i : Nat} {s next : W × FixedRetry}
    {round : Round cmps R FixedRetry} (same : s.2 = policy)
    (step : attemptRound snapshot operation env i s = (.inr next, round)) :
    next.2 = policy ∧ i + 1 < max 1 policy.maxAttempts := by
  obtain ⟨kept, below⟩ := FixedRetry.goesOn (attemptRound_goesOn step)
  rw [attemptRound_retryPolicy step, same] at kept below
  exact ⟨kept, Nat.lt_of_lt_of_le below (Nat.le_max_right 1 _)⟩

/-- A round that another one follows: its commit failed, and there were attempts
left. -/
theorem FixedRetry.earlier {snapshot : Bool} {answer : Option (StoreResult R)}
    {before after : List (Round cmps R FixedRetry)}
    {round : Round cmps R FixedRetry}
    (run : Rounds (attemptRound snapshot operation env) 0 (world, policy) answer
      (before ++ round :: after)) (notLast : after ≠ []) :
    (∃ next, GoesOn env before.length round next) ∧
      before.length + 1 < max 1 policy.maxAttempts := by
  obtain ⟨s, same, ⟨_, _, _, isLast⟩ | ⟨next, goesOn, _⟩⟩ :=
    run.split (fun s => s.2 = policy) (fun same step => (FixedRetry.step same step).1) rfl
  · exact absurd isLast notLast
  · rw [Nat.zero_add] at goesOn
    exact ⟨⟨_, attemptRound_goesOn goesOn⟩, (FixedRetry.step same goesOn).2⟩

/-- The policy stops a call with its own error, when no attempts are left. -/
theorem FixedRetry.stops {fault : Fault} {i : Nat} {e : StoreError}
    (answered : (RetryPolicy.shouldRetry (.rocksDb fault.error) (i + 1)
      policy).1 = .error e) :
    e = policy.gaveUp fault ∧ max 1 policy.maxAttempts ≤ i + 1 := by
  rw [shouldRetry_eq] at answered
  change (if policy.maxAttempts ≤ i + 1 then _ else _) = _ at answered
  split at answered
  · next spent =>
      cases answered
      exact ⟨rfl, Nat.max_le.mpr ⟨Nat.succ_le_succ (Nat.zero_le i), spent⟩⟩
  · cases answered

section Ended

variable {snapshot : Bool} {returned : StoreResult R}
  {before : List (Round cmps R FixedRetry)} {last : Round cmps R FixedRetry}
  (run : Rounds (attemptRound snapshot operation env) 0 (world, policy)
    (some returned) (before ++ [last]))
include run

/-- There are no more attempts than the policy allows, and at least one. -/
theorem FixedRetry.bounded :
    before.length + 1 ≤ max 1 policy.maxAttempts := by
  rcases List.eq_nil_or_concat' before with rfl | ⟨others, round, rfl⟩
  · exact Nat.le_max_left 1 _
  · rw [List.append_assoc, List.singleton_append] at run
    have below := (FixedRetry.earlier run (List.cons_ne_nil _ _)).2
    rw [List.length_append, List.length_singleton]
    exact below

/-- The commits of the attempts before the last one failed. -/
theorem FixedRetry.earlierFailed {index : Nat}
    {round : Round cmps R FixedRetry} (entry : before[index]? = some round) :
    (∃ result, round.operation = .ok result) ∧
      ∃ fault, (env index).fault = some fault := by
  obtain ⟨inside, rfl⟩ := List.getElem?_eq_some_iff.mp entry
  have whole : before ++ [last] =
      before.take index ++ before[index] ::
        (before.drop (index + 1) ++ [last]) := by
    rw [← List.cons_append, ← List.append_assoc,
      List.getElem_cons_drop, List.take_append_drop]
  rw [whole] at run
  obtain ⟨⟨_, succeeded, _, fault, refused, _⟩, _⟩ :=
    FixedRetry.earlier run (by simp)
  rw [List.length_take, Nat.min_eq_left (Nat.le_of_lt inside)] at refused
  exact ⟨succeeded, fault, refused⟩

/-- The last attempt gives the reason, under the policy of the call. -/
theorem FixedRetry.lastEnds :
    last.retryPolicy = policy ∧ Ends env before.length last returned := by
  obtain ⟨s, same, ⟨a, ended, answered, _⟩ | ⟨next, _, rest⟩⟩ :=
    run.split (fun s => s.2 = policy)
      (fun same step => (FixedRetry.step same step).1) rfl
  · cases answered
    rw [Nat.zero_add] at ended
    exact ⟨(attemptRound_retryPolicy ended).trans same, attemptRound_ends ended⟩
  · cases rest

/-- How a call with `FixedRetry` ends. -/
theorem FixedRetry.outcome :
    Outcome env (max 1 policy.maxAttempts) policy.gaveUp returned before
      last := by
  have bounded := FixedRetry.bounded run
  have earlier (index : Nat) (round : Round cmps R FixedRetry)
      (entry : before[index]? = some round) :=
    FixedRetry.earlierFailed run entry
  obtain ⟨found, ends⟩ := FixedRetry.lastEnds run
  cases ends with
  | committed succeeded accepted applied =>
      refine ⟨bounded, ?_, fun _ => applied, ?_, ?_, earlier⟩
      · intro result
        rw [succeeded, Except.ok.injEq]
        exact (and_iff_left accepted).symm
      · intro e failed
        rw [succeeded] at failed
        cases failed
      · intro result fault _ refused
        rw [accepted] at refused
        cases refused
  | failed returned freed untouched =>
      refine ⟨bounded, ?_, ?_, ?_, ?_, earlier⟩
      · intro result
        rw [returned]
        exact iff_of_false nofun nofun
      · intro succeeded
        obtain ⟨_, impossible⟩ := succeeded
        cases impossible
      · intro e failed
        rw [returned] at failed
        cases failed
        exact ⟨rfl, freed, untouched⟩
      · intro result fault succeeded
        rw [returned] at succeeded
        cases succeeded
  | stopped succeeded refused untouched asked =>
      rw [found] at asked
      obtain ⟨rfl, spent⟩ := FixedRetry.stops asked
      refine ⟨bounded, ?_, ?_, ?_, ?_, earlier⟩
      · intro result
        rw [refused]
        exact iff_of_false nofun nofun
      · intro succeeded
        obtain ⟨_, impossible⟩ := succeeded
        cases impossible
      · intro e failed
        rw [succeeded] at failed
        cases failed
      · intro result fault _ same
        rw [refused] at same
        cases same
        exact ⟨rfl, Nat.le_antisymm bounded spent⟩

end Ended

end Fixed

section Stops

variable {operation : Operation W R} {env : Nat → AttemptEnv cmps W}

/-- Under `NoRetry` no round is followed by another. -/
theorem NoRetry.not_goesOn {i : Nat} {round : Round cmps R NoRetry}
    {next : NoRetry} : ¬ GoesOn env i round next := by
  intro goesOn
  obtain ⟨_, _, _, _, answered⟩ := goesOn
  cases answered

theorem NoRetry.once {snapshot : Bool} {s : W × NoRetry} {fuel : Nat}
    (enough : 1 ≤ fuel) :
    ∃ returned round, Ends env 0 round returned ∧
      runFrom (attemptRound snapshot operation env) fuel 0 s =
        (some returned, [round]) := by
  obtain ⟨fuel, rfl⟩ := Nat.exists_eq_add_of_le' enough
  obtain ⟨_, round, _, step, -, -, -, ⟨returned, rfl, ends⟩ |
    ⟨_, rfl, goesOn⟩⟩ := attemptRound_spec snapshot operation env 0 s
  · exact ⟨returned, round, ends, runFrom_of_answer step⟩
  · exact absurd goesOn NoRetry.not_goesOn

/-- Both retrying calls, with any closure and any answers to its commits.  With
`FixedRetry` the call returns after at most `max 1 m` attempts, for the reason its
last attempt gives; with `NoRetry` after exactly one; and with any policy each
attempt runs the closure once, on a new transaction that it then ends, and a
further attempt is made only after the commit failed and the policy, asked with
the number of the attempt, answered `Ok`. -/
theorem retryLoop_stops (method : ExecuteMethod)
    (store : RocksDbCFOptimisticTxnStore) (operation : Operation W R)
    (env : Nat → AttemptEnv cmps W) (world : W) :
    (∀ policy : FixedRetry, ∃ returned before last,
      (∀ fuel, max 1 policy.maxAttempts ≤ fuel →
        OptimisticTransactionBuilder.execute method ⟨store, policy⟩ operation env
          world fuel = (some returned, before ++ [last])) ∧
      Outcome env (max 1 policy.maxAttempts) policy.gaveUp returned before
        last) ∧
    (∃ returned round, Ends env 0 round returned ∧
      ∀ fuel, 1 ≤ fuel →
        OptimisticTransactionBuilder.execute method ⟨store, NoRetry.mk⟩ operation
          env world fuel = (some returned, [round])) ∧
    ∀ (RTP : Type) [RetryPolicy RTP] (policy : RTP) (fuel : Nat),
      let rounds := (OptimisticTransactionBuilder.execute method
        ⟨store, policy⟩ operation env world fuel).2
      RunsClosure (method == .withSnapshot) operation env 0 world rounds ∧
        AsksInTurn env rounds := by
  refine ⟨?_, ?_, ?_⟩
  · intro policy
    have finished : (runFrom
        (attemptRound (method == .withSnapshot) operation env)
        (max 1 policy.maxAttempts) 0 (world, policy)).1 ≠ none := by
      apply runFrom_ends FixedRetry.step rfl
      · exact Nat.le_max_left 1 _
      · exact Nat.le_of_eq (Nat.zero_add _).symm
    obtain ⟨returned, answered⟩ := Option.ne_none_iff_exists'.mp finished
    have run : Rounds (attemptRound (method == .withSnapshot) operation env) 0
        (world, policy) _ _ := runFrom_rounds (max 1 policy.maxAttempts) 0 _
    rw [answered] at run
    obtain ⟨before, last, whole⟩ := run.exists_last
    rw [whole] at run
    refine ⟨returned, before, last, ?_, FixedRetry.outcome run⟩
    intro fuel enough
    rw [execute_eq, runFrom_more finished enough, ← answered, ← whole]
  · obtain ⟨returned, round, ends, once⟩ : ∃ returned round,
        Ends env 0 round returned ∧
        runFrom (attemptRound (method == .withSnapshot) operation env) 1 0
          (world, NoRetry.mk) = (some returned, [round]) :=
      NoRetry.once (Nat.le_refl 1)
    refine ⟨returned, round, ends, ?_⟩
    intro fuel enough
    have finished : (runFrom
        (attemptRound (method == .withSnapshot) operation env) 1 0
        (world, NoRetry.mk)).1 ≠ none := by
      rw [once]
      exact Option.some_ne_none returned
    rw [execute_eq, runFrom_more finished enough, once]
  · intro RTP _ policy fuel
    exact ⟨runsClosure method ⟨store, policy⟩ operation env world fuel,
      asksInTurn method ⟨store, policy⟩ operation env world fuel⟩

end Stops

end RockSolid
