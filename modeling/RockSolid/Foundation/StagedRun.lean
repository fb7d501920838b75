/-
Module: RockSolid.Foundation.StagedRun
Layer: Foundation
Purpose: Receivers that collect writes.  Calls are made one after the other, each
  free to fail; a call that returns `Ok` collects the write it asks for and a
  call that fails collects nothing.  After a run exactly the accepted writes are
  collected, in call order.
Trusted boundary: none
Main exports: runCalls, acceptedBy, accepted, accepted_map,
  asked_of_mem_accepted, Collects, Collects.run
-/
import RockSolid.Foundation.Method

namespace RockSolid.Foundation

variable {ε σ W : Type} {ι : Type*} (call : ι → Method ε σ Unit)
  (asks : ι → Except ε W)

/-- The receiver after a sequence of calls, whatever they returned. -/
def runCalls (self : σ) (calls : List ι) : σ :=
  calls.foldl (fun self i => (call i self).2) self

/-- The write a call asks for, if the call returns `Ok`. -/
def acceptedBy (self : σ) (i : ι) : List W :=
  match (call i self).1, asks i with
  | .ok _, .ok write => [write]
  | _, _ => []

/-- The writes asked for by the calls that return `Ok`, in call order. -/
def accepted : σ → List ι → List W
  | _, [] => []
  | self, i :: rest => acceptedBy call asks self i ++ accepted (call i self).2 rest

/-- The accepted writes in another form. -/
theorem accepted_map {W' : Type} (f : W → W') (self : σ) (calls : List ι) :
    accepted call (fun i => (asks i).map f) self calls =
      (accepted call asks self calls).map f := by
  induction calls generalizing self with
  | nil => rfl
  | cons i calls inductionHypothesis =>
      have first : acceptedBy call (fun i => (asks i).map f) self i =
          (acceptedBy call asks self i).map f := by
        simp only [acceptedBy]
        cases (call i self).1 <;> cases asks i <;> rfl
      rw [accepted, accepted, first, inductionHypothesis, List.map_append]

variable {call asks} in
/-- Every accepted write is one a call asked for. -/
theorem asked_of_mem_accepted {self : σ} {calls : List ι} {write : W}
    (member : write ∈ accepted call asks self calls) :
    ∃ i ∈ calls, asks i = .ok write := by
  induction calls generalizing self with
  | nil => cases member
  | cons i calls inductionHypothesis =>
      rcases List.mem_append.mp member with first | later
      · rw [acceptedBy] at first
        split at first
        · next asked =>
            cases List.mem_singleton.mp first
            exact ⟨i, List.mem_cons_self, asked⟩
        · cases first
      · obtain ⟨j, among, asked⟩ := inductionHypothesis later
        exact ⟨j, List.mem_cons_of_mem _ among, asked⟩

/-- On receivers with the invariant a call either returns `Ok` and collects the
write it asks for, or returns an error and collects nothing; it keeps the
invariant in both cases. -/
def Collects (invariant : σ → Prop) (collected : σ → List W) : Prop :=
  ∀ self i, invariant self →
    invariant (call i self).2 ∧
      ((∃ write, asks i = .ok write ∧ (call i self).1 = .ok () ∧
          collected (call i self).2 = collected self ++ [write]) ∨
        ∃ e, (call i self).1 = .error e ∧
          collected (call i self).2 = collected self)

variable {call asks} {invariant : σ → Prop} {collected : σ → List W}

theorem Collects.step (collects : Collects call asks invariant collected)
    {self : σ} (holds : invariant self) (i : ι) :
    collected (call i self).2 = collected self ++ acceptedBy call asks self i := by
  rcases (collects self i holds).2 with
    ⟨write, asked, returned, grown⟩ | ⟨e, returned, same⟩
  · rw [grown, acceptedBy, returned, asked]
  · rw [same, acceptedBy, returned, List.append_nil]

/-- After a run exactly the accepted writes are collected, in call order. -/
theorem Collects.run (collects : Collects call asks invariant collected)
    {self : σ} (holds : invariant self) (calls : List ι) :
    invariant (runCalls call self calls) ∧
      collected (runCalls call self calls) =
        collected self ++ accepted call asks self calls := by
  induction calls generalizing self with
  | nil => exact ⟨holds, (List.append_nil _).symm⟩
  | cons i calls inductionHypothesis =>
      obtain ⟨kept, grown⟩ := inductionHypothesis (collects self i holds).1
      refine ⟨kept, grown.trans ?_⟩
      rw [collects.step holds, List.append_assoc]
      rfl

end RockSolid.Foundation
