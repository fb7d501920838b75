/-
Module: RockSolid.Foundation.CallProgram
Layer: Foundation
Purpose: Clients that make one call after the other and decide by the answers
  what to do next.  A receiver answers calls and changes by them; every call also
  meets some circumstance, such as a failure below it.  Two receivers that answer
  alike and stay related, call by call, make a whole client return the same.
Trusted boundary: none
Main exports: Program, Program.Only, Program.Only.mono, Receiver, Program.run, Receiver.along,
  Receiver.interrupted, Receiver.Simulates, Receiver.Simulates.run,
  Receiver.Simulates.trans, Receiver.Simulates.interrupted
-/
import Mathlib.Data.Stream.Init
import Mathlib.Logic.Relation

namespace RockSolid.Foundation

universe u

/-- A client program.  `C A` are the calls that are answered with an `A`. -/
inductive Program (C : Type → Type 1) (R : Type u) : Type (max 1 u) where
  | done (result : R)
  | call {A : Type} (c : C A) (resume : A → Program C R)

variable {C : Type → Type 1} {R : Type u} {E σ τ : Type}

/-- Whatever it is answered, the program makes only calls of this kind. -/
def Program.Only (allowed : (A : Type) → C A → Prop) : Program C R → Prop
  | .done _ => True
  | .call (A := A) c resume =>
      allowed A c ∧ ∀ answer, (resume answer).Only allowed

/-- When every call is of this kind, every program makes only such calls. -/
theorem Program.only_of_forall {allowed : (A : Type) → C A → Prop}
    (every : ∀ A c, allowed A c) (program : Program C R) :
    program.Only allowed := by
  induction program with
  | done result => trivial
  | call c resume inductionHypothesis => exact ⟨every _ c, inductionHypothesis⟩

/-- Where more calls are permitted, the program makes only permitted ones. -/
theorem Program.Only.mono {allowed permitted : (A : Type) → C A → Prop}
    (permits : ∀ A c, allowed A c → permitted A c) {program : Program C R}
    (only : program.Only allowed) : program.Only permitted := by
  induction program with
  | done result => trivial
  | call c resume inductionHypothesis =>
      exact ⟨permits _ c only.1,
        fun answer => inductionHypothesis answer (only.2 answer)⟩

/-- How calls are answered under a circumstance, and what they change. -/
structure Receiver (C : Type → Type 1) (E σ : Type) where
  answer : {A : Type} → E → C A → σ → A × σ

/-- Runs a program; the n-th call meets the n-th circumstance. -/
def Program.run (receiver : Receiver C E σ) :
    Program C R → Stream' E → σ → R × σ
  | .done result, _, state => (result, state)
  | .call c resume, met, state =>
      let answered := receiver.answer met.head c state
      (resume answered.1).run receiver met.tail answered.2

/-- The same receiver for calls that stand for some of its own. -/
def Receiver.along {D : Type → Type 1} (stands : (A : Type) → C A → D A)
    (receiver : Receiver D E σ) : Receiver C E σ where
  answer e c state := receiver.answer e (stands _ c) state

/-- The same receiver when something else may happen to its state before each
call; what happens is one more circumstance of the call. -/
def Receiver.interrupted {I : Type} (happens : I → σ → σ)
    (receiver : Receiver C E σ) : Receiver C (I × E) σ where
  answer met c state := receiver.answer met.2 c (happens met.1 state)

/-- A receiver to which nothing else happens does not need that circumstance. -/
theorem Receiver.run_interrupted_id {I : Type} (receiver : Receiver C E σ)
    (program : Program C R) (met : Stream' (I × E)) (state : σ) :
    program.run (receiver.interrupted fun _ => id) met state =
      program.run receiver (met.map Prod.snd) state := by
  induction program generalizing met state with
  | done result => rfl
  | call c resume inductionHypothesis => exact inductionHypothesis _ met.tail _

/-- On related states the two receivers answer a call of this kind alike, and
leave related states. -/
def Receiver.Simulates (first : Receiver C E σ) (second : Receiver C E τ)
    (allowed : (A : Type) → C A → Prop) (related : σ → τ → Prop) : Prop :=
  ∀ (A : Type) (e : E) (c : C A) (state : σ) (other : τ), allowed A c →
    related state other →
      (first.answer e c state).1 = (second.answer e c other).1 ∧
        related (first.answer e c state).2 (second.answer e c other).2

namespace Receiver.Simulates

variable {first : Receiver C E σ} {second : Receiver C E τ}
  {allowed : (A : Type) → C A → Prop} {related : σ → τ → Prop}

/-- A program returns the same on both, and leaves related states. -/
theorem run (simulates : first.Simulates second allowed related)
    {program : Program C R} (only : program.Only allowed) (met : Stream' E)
    {state : σ} {other : τ} (before : related state other) :
    (program.run first met state).1 = (program.run second met other).1 ∧
      related (program.run first met state).2
        (program.run second met other).2 := by
  induction program generalizing met state other with
  | done result => exact ⟨rfl, before⟩
  | call c resume inductionHypothesis =>
      obtain ⟨permitted, rest⟩ := only
      obtain ⟨sameAnswer, after⟩ := simulates _ met.head c state other permitted
        before
      simp only [Program.run, sameAnswer]
      exact inductionHypothesis _ (rest _) met.tail after

/-- Calls that stand for others are simulated as those are. -/
theorem along {D : Type → Type 1} (stands : (A : Type) → D A → C A)
    (simulates : first.Simulates second allowed related) :
    (first.along stands).Simulates (second.along stands)
      (fun A c => allowed A (stands A c)) related :=
  fun A e c => simulates A e (stands A c)

/-- What simulates a receiver that simulates another one simulates that. -/
theorem trans {υ : Type} {third : Receiver C E υ} {relatedToo : τ → υ → Prop}
    (simulates : first.Simulates second allowed related)
    (simulatesToo : second.Simulates third allowed relatedToo) :
    first.Simulates third allowed (Relation.Comp related relatedToo) := by
  intro A e c state last permitted ⟨other, before, beforeToo⟩
  obtain ⟨sameAnswer, after⟩ := simulates A e c state other permitted before
  obtain ⟨sameAnswerToo, afterToo⟩ :=
    simulatesToo A e c other last permitted beforeToo
  exact ⟨sameAnswer.trans sameAnswerToo, _, after, afterToo⟩

/-- Interruptions that the relation does not notice make no difference. -/
theorem interrupted {I : Type} {happens : I → σ → σ}
    (simulates : first.Simulates second allowed related)
    (unnoticed : ∀ i state other, related state other →
      related (happens i state) other) :
    (first.interrupted happens).Simulates (second.interrupted fun _ => id)
      allowed related :=
  fun A e c state other permitted before =>
    simulates A e.2 c _ other permitted (unnoticed e.1 state other before)

end Receiver.Simulates

end RockSolid.Foundation
