/-
Module: RockSolid.Proofs.OptimisticSession
Layer: Proofs
Purpose: What the owner of an optimistic transaction sees among other clients,
  and which commits the engine refuses.  Every step of a session is a foreign
  commit, an answered read, or a native write; so an observation of an unwritten
  key shows the contents committed at its own moment, not those at the creation,
  and a commit depends on the staged keys only.
Trusted boundary: none
Main exports: Moves, observations_read, showsCreation_iff, ContextSession.moves,
  ContextSession.refused_iff_conflicts, ClosureSession.moves
-/
import RockSolid.Proofs.OptimisticLifecycle
import RockSolid.Semantics.OptimisticSession

namespace RockSolid

open Foundation KeyedStore

/-- One step of a session, seen from the native transaction. -/
inductive Moves (db : DbHandle) (base : ByteDb) :
    NativeSession → NativeSession → Prop where
  | foreign (s : NativeSession) (batch : List WriteOp) :
      Moves db base s { s with log := s.log ++ [batch] }
  | reads (s : NativeSession) {txn : NativeTxn}
      (reads : s.txn.Reads db (replay base s.log) txn) :
      Moves db base s { s with txn }
  | stage (s : NativeSession) (op : WriteOp) (fault : Option Fault) :
      Moves db base s { s with txn := (s.txn.stage op fault).2 }

variable {db : DbHandle} {base : ByteDb}

/-- What a step shows is a native write, or an answer over the contents committed
before the step under the staged writes. -/
theorem Moves.sighting {before after : NativeSession}
    (moves : Moves db base before after) {sighting : Sighting}
    (member : sighting ∈ before.sightingsUntil after) :
    (∃ op, sighting.event = .stage op) ∨
      NativeTxn.Answered db
        (applyBatch (replay base sighting.log) sighting.staged)
        sighting.event := by
  obtain ⟨event, added, rfl⟩ := List.mem_map.mp member
  cases moves with
  | foreign batch =>
      rw [List.drop_length] at added
      cases added
  | @reads txn reads =>
      obtain ⟨events, answered, same⟩ := reads.events
      rw [same, List.drop_left] at added
      exact .inr (answered event added)
  | stage op fault =>
      rw [NativeTxn.stage_events, List.drop_left, List.mem_singleton] at added
      exact .inl ⟨op, added⟩

/-- The snapshot of a transaction is fixed for its whole life. -/
theorem Moves.snapshot {before after : NativeSession}
    (moves : Moves db base before after) :
    after.txn.snapshot = before.txn.snapshot := by
  cases moves with
  | foreign batch => rfl
  | reads reads => exact reads.snapshot
  | stage op fault => cases fault <;> rfl

section Runs

variable {S P : Type*} {native : S → NativeSession} {after : S → P → S}
  {Owned : S → Prop}

theorem sightings_answered
    (moves : ∀ s, Owned s → ∀ step,
      Moves db base (native s) (native (after s step)) ∧ Owned (after s step))
    {s : S} (owned : Owned s) (steps : List P) :
    ∀ sighting ∈ sightings native after s steps,
      (∃ op, sighting.event = .stage op) ∨
        NativeTxn.Answered db
          (applyBatch (replay base sighting.log) sighting.staged)
          sighting.event := by
  induction steps generalizing s with
  | nil =>
      intro sighting member
      cases member
  | cons step steps inductionHypothesis =>
      intro sighting member
      rcases List.mem_append.mp member with now | later
      · exact (moves s owned step).1.sighting now
      · exact inductionHypothesis (moves s owned step).2 sighting later

/-- An observation of an unwritten key is a read of the contents committed at
that moment. -/
theorem observations_read
    (moves : ∀ s, Owned s → ∀ step,
      Moves db base (native s) (native (after s step)) ∧ Owned (after s step))
    {s : S} (owned : Owned s) (steps : List P) {observation : Observation}
    (seen : observation ∈ observations native after s steps) :
    db.read (replay base observation.log) observation.key =
      .ok observation.answer := by
  obtain ⟨sighting, member, observes, unwritten, sameLog⟩ := seen
  rcases sightings_answered moves owned steps sighting member with
    ⟨op, staged⟩ | answered
  · rw [staged] at observes
    cases observes
  · have overlaid := answered.read_of_observes observes
    have below : (applyBatch (replay base sighting.log) sighting.staged).record
        observation.key = (replay base sighting.log).record observation.key :=
      cell_applyBatch_of_untouched _ unwritten
    rw [DbHandle.read, below, sameLog] at overlaid
    exact overlaid

/-- Observations show the contents of the creation exactly as far as the commits
before them left the observed keys alone. -/
theorem showsCreation_iff
    (moves : ∀ s, Owned s → ∀ step,
      Moves db base (native s) (native (after s step)) ∧ Owned (after s step))
    {s : S} (owned : Owned s) (steps : List P) (created : ByteDb)
    (seen : Set Observation) :
    ShowsCreation db created (seen ∩ observations native after s steps) ↔
      LeftAsCreated db base created
        (seen ∩ observations native after s steps) := by
  constructor
  · intro shows observation member
    rw [observations_read moves owned steps member.2, shows observation member]
  · intro left observation member
    rw [← left observation member, observations_read moves owned steps member.2]

end Runs

namespace ContextSession

variable {store : RocksDbCFOptimisticTxnStore}

/-- The context is running over its store. -/
def Running (store : RocksDbCFOptimisticTxnStore) (s : ContextSession) : Prop :=
  ∃ ops, OptimisticTransactionContext.Holds store ops s.ctx

theorem running_create (log : CommitLog) : Running store (create store log) :=
  ⟨[], .fresh store true log.length⟩

theorem moves (base : ByteDb) {s : ContextSession} (running : Running store s)
    (step : ContextSessionStep) :
    Moves store.db base s.native (s.after base step).native ∧
      Running store (s.after base step) := by
  obtain ⟨ops, holds⟩ := running
  cases step with
  | foreign batch => exact ⟨.foreign s.native batch, ops, holds⟩
  | call fault call =>
      refine ⟨?_, _, holds.after_step ⟨s.data base, fault, call⟩⟩
      cases call with
      | staging call =>
          rcases OptimisticTransactionContext.staging_writes call fault s.ctx
            with ⟨e, failed⟩ | ⟨op, -, same⟩
          · have unchanged : (s.after base
                (.call fault (.staging call))).native = s.native := by
              simp only [after, OptimisticTransactionContext.after, failed]
            rw [unchanged]
            exact .reads s.native (refl_of _ s.ctx.txn)
          · have written : (s.after base
                (.call fault (.staging call))).native =
                { s.native with txn := (s.ctx.txn.stage op fault).2 } := by
              simp only [after, OptimisticTransactionContext.after, same]
              rfl
            rw [written]
            exact .stage s.native op fault
      | reading call =>
          have reads := OptimisticTransactionContext.reading_onlyReads
            (s.data base) call fault s.ctx
          exact .reads s.native (holds.store ▸ reads.txn)

theorem running_run {s : ContextSession} (running : Running store s)
    (steps : List ContextSessionStep) : Running store (s.run base steps) := by
  induction steps generalizing s with
  | nil => exact running
  | cons step steps inductionHypothesis =>
      exact inductionHypothesis (moves base running step).2

theorem snapshot_run {s : ContextSession} (running : Running store s)
    (steps : List ContextSessionStep) :
    (s.run base steps).ctx.txn.snapshot = s.ctx.txn.snapshot := by
  induction steps generalizing s with
  | nil => rfl
  | cons step steps inductionHypothesis =>
      have step := moves base running step
      exact (inductionHypothesis step.2).trans step.1.snapshot

/-- The engine refuses every commit exactly when the transaction conflicts. -/
theorem refused_iff_conflicts {s : ContextSession} (running : Running store s) :
    s.Refused base ↔ s.ctx.txn.Conflicts s.log := by
  obtain ⟨ops, holds⟩ := running
  have checked :=
    OptimisticTransactionContext.checkCompleted_of_running holds.running
  constructor
  · intro refused
    by_contra accepted
    have allowed : s.Allows none := fun conflicts => absurd conflicts accepted
    obtain ⟨⟨e, failed⟩, -⟩ := refused none allowed
    rw [OptimisticTransactionContext.commit, checked] at failed
    cases failed
  · intro conflicts fault allowed
    cases fault with
    | none => exact absurd rfl (allowed conflicts)
    | some fault =>
        rw [OptimisticTransactionContext.commit, checked]
        exact ⟨⟨_, rfl⟩, rfl⟩

end ContextSession

namespace ClosureSession

theorem moves (db : DbHandle) (base : ByteDb) (s : NativeSession)
    (step : ClosureSessionStep) : Moves db base s (after db base s step) := by
  cases step with
  | foreign batch => exact .foreign s batch
  | get at_ fault => exact .reads s (.get db (replay base s.log) at_ fault s.txn)
  | iterator cf mode fault =>
      exact .reads s (.didAll s.txn
        (List.forall_mem_singleton.mpr (.iterator cf mode fault)))
  | stage op fault => exact .stage s op fault

end ClosureSession

end RockSolid
