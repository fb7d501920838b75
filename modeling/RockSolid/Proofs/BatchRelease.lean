/-
Module: RockSolid.Proofs.BatchRelease
Layer: Proofs
Purpose: The batch of a writer is released exactly once when the writer is
  committed, whatever the engine answers, or discarded.  A writer that is dropped
  without either never releases it.
Trusted boundary: none
Main exports: TracedWriter.InUse, TracedWriter.finish_writer,
  TracedWriter.batch_releasedOnce_iff
-/
import RockSolid.Proofs.BatchWriter
import RockSolid.Semantics.TracedBatch

namespace RockSolid

open Foundation

namespace TracedWriter

variable {self : TracedWriter} {cf : String}

/-- A staging call does to the writer what it does without the trace. -/
theorem stagingCall_writer (openFor : self.writer.OpenFor cf)
    (call : BatchCall) :
    (stagingCall call self).1 = (BatchWriter.stagingCall call self.writer).1 ∧
      (stagingCall call self).2.writer =
        (BatchWriter.stagingCall call self.writer).2 := by
  have checked := BatchWriter.checkNotCommitted_of_open openFor.isOpen
  rw [BatchWriter.stagingCall_eq openFor.isOpen]
  simp only [stagingCall, onWriter, Method.zoom, Method.bind_apply, checked,
    Method.liftM_apply, derefMut, event, BatchWriter.family]
  cases call.operation self.writer.cfName with
  | error e => exact ⟨rfl, rfl⟩
  | ok op =>
      dsimp only
      cases self.writer.store.access.family self.writer.cfName with
      | error e => exact ⟨rfl, rfl⟩
      | ok handle => exact ⟨rfl, rfl⟩

/-- It borrows the batch at most. -/
theorem stagingCall_events (call : BatchCall) :
    ∃ borrows, (∀ event ∈ borrows, event = BatchEvent.derefMut) ∧
      (stagingCall call self).2.events = self.events ++ borrows := by
  have noBorrow : ∀ event ∈ ([] : List BatchEvent),
      event = BatchEvent.derefMut := List.forall_mem_nil _
  have oneBorrow : ∀ event ∈ [BatchEvent.derefMut],
      event = BatchEvent.derefMut := by simp
  simp only [stagingCall, onWriter, Method.zoom, Method.bind_apply,
    BatchWriter.checkNotCommitted, Method.liftM_apply, derefMut, event,
    BatchWriter.family]
  split_ifs with finished
  · exact ⟨[], noBorrow, (List.append_nil _).symm⟩
  · cases call.operation self.writer.cfName with
    | error e => exact ⟨[], noBorrow, (List.append_nil _).symm⟩
    | ok op =>
        dsimp only
        cases self.writer.store.access.family self.writer.cfName with
        | error e => exact ⟨_, oneBorrow, rfl⟩
        | ok handle => exact ⟨_, oneBorrow, rfl⟩

/-- A writer in use: open, and its batch was at most borrowed. -/
structure InUse (cf : String) (traced : TracedWriter) : Prop where
  openFor : traced.writer.OpenFor cf
  borrowed : ∀ event ∈ traced.events, event = BatchEvent.derefMut

theorem InUse.fresh (store : RocksDbCFStore) (cf : String) :
    InUse cf (new store cf) :=
  ⟨BatchWriter.OpenFor.fresh store cf, List.forall_mem_nil _⟩

theorem InUse.staging (inUse : InUse cf self) (call : BatchCall) :
    InUse cf (stagingCall call self).2 := by
  obtain ⟨borrows, onlyBorrows, events⟩ := @stagingCall_events self call
  constructor
  · rw [(stagingCall_writer inUse.openFor call).2]
    exact (BatchWriter.collects cf self.writer call inUse.openFor).1
  · rw [events]
    exact List.forall_mem_append.mpr ⟨inUse.borrowed, onlyBorrows⟩

/-- A run keeps the writer in use, and is a run of the writer. -/
theorem InUse.run (inUse : InUse cf self) (calls : List BatchCall) :
    InUse cf (self.run calls) ∧
      (self.run calls).writer = self.writer.run calls := by
  induction calls generalizing self with
  | nil => exact ⟨inUse, rfl⟩
  | cons call calls inductionHypothesis =>
      obtain ⟨later, sameWriter⟩ := inductionHypothesis (inUse.staging call)
      refine ⟨later, sameWriter.trans ?_⟩
      rw [(stagingCall_writer inUse.openFor call).2]
      rfl

variable {cmps : String → Comparator}

/-- The endings do to the writer and to the contents what they do without the
trace. -/
theorem finish_writer (data : Db cmps) (ending : BatchEnding) :
    let finished := self.finish data ending
    let untraced := self.writer.finish data ending
    finished.1 = untraced.1 ∧ finished.2.1.writer = untraced.2.1 ∧
      finished.2.2 = untraced.2.2 := by
  cases ending with
  | commit fault =>
      simp only [finish, commit, BatchWriter.finish, BatchWriter.commit,
        onWriter, Method.zoom, BatchWriter.checkNotCommitted, event, drop]
      split_ifs with committed
      · exact ⟨rfl, rfl, rfl⟩
      · cases fault <;> exact ⟨rfl, rfl, rfl⟩
  | discard => exact ⟨rfl, rfl, rfl⟩
  | drop => exact ⟨rfl, rfl, rfl⟩

/-- What the endings do to the batch of a writer in use. -/
theorem InUse.finish_events (inUse : InUse cf self) (data : Db cmps)
    (ending : BatchEnding) :
    (self.finish data ending).2.1.events =
      if ending = .drop then self.events
      else self.events ++ [.take] ++ [.release] := by
  have checked := BatchWriter.checkNotCommitted_of_open inUse.openFor.isOpen
  cases ending with
  | commit fault =>
      rw [if_neg nofun]
      simp only [finish, commit, onWriter, Method.zoom, checked]
      cases fault <;> rfl
  | discard => rfl
  | drop => rfl

/-- Whatever calls were made and whichever failed, the batch is released exactly
once exactly when the run ends in a commit, accepted by the engine or not, or in a
discard; no run releases it twice. -/
theorem batch_releasedOnce_iff (store : RocksDbCFStore) (cf : String)
    (calls : List BatchCall) (data : Db cmps) (ending : BatchEnding) :
    let finished := ((new store cf).run calls).finish data ending
    (ReleasedOnce .release finished.2.1.events ↔
      (∃ fault, ending = .commit fault) ∨ ending = .discard) ∧
    finished.2.1.events.count .release ≤ 1 := by
  intro finished
  obtain ⟨inUse, -⟩ := (InUse.fresh store cf).run calls
  have events := inUse.finish_events data ending
  have held : BatchEvent.release ∉ ((new store cf).run calls).events :=
    fun member => nomatch inUse.borrowed _ member
  by_cases dropped : ending = .drop
  · rw [if_pos dropped] at events
    constructor
    · rw [events]
      exact iff_of_false (not_releasedOnce_of_leak held) (by simp [dropped])
    · rw [events, List.count_eq_zero_of_not_mem held]
      exact Nat.zero_le 1
  · rw [if_neg dropped] at events
    have taken : BatchEvent.release ∉
        ((new store cf).run calls).events ++ [.take] := by simp [held]
    constructor
    · rw [events]
      refine iff_of_true (releasedOnce_concat taken) ?_
      cases ending with
      | commit fault => exact .inl ⟨fault, rfl⟩
      | discard => exact .inr rfl
      | drop => exact absurd rfl dropped
    · rw [events, List.count_append, List.count_eq_zero_of_not_mem taken]
      decide

/-- A writer that is dropped at once: nothing takes its batch. -/
theorem dropped_batch_leaks :
    let store : RocksDbCFStore :=
      { db := { columnFamilies := ["default"], fullMerge := fun _ _ _ _ => none } }
    let finished := ((new store "default").run []).finish
      (Db.empty : Db fun _ => compare) .drop
    finished.2.1.events = [] ∧
      ¬ ReleasedOnce BatchEvent.release finished.2.1.events :=
  ⟨rfl, not_releasedOnce_of_leak (by decide)⟩

end TracedWriter

end RockSolid
