/-
Module: RockSolid.Foundation.Method
Layer: Foundation
Purpose: Methods that change their receiver and may return early with an error.
  What was done before the error stays done.  `Leaves` carries a relation between
  the receiver before and after through a method body; `Agree` carries a relation
  between two receivers through two bodies.
Trusted boundary: none
Main exports: Method, Method.lift, Method.zoom, Method.Leaves, Method.Agree
-/
import Mathlib.Order.Defs.Unbundled

namespace RockSolid.Foundation

/-- A method on a receiver of type `σ`. -/
def Method (ε σ α : Type) := σ → Except ε α × σ

namespace Method

variable {ε σ τ α β γ : Type}

instance : Monad (Method ε σ) where
  pure a := fun self => (.ok a, self)
  bind m f := fun self =>
    match m self with
    | (.ok a, after) => f a after
    | (.error e, after) => (.error e, after)

/-- A computation that does not touch the receiver, under `?`. -/
def lift (result : Except ε α) : Method ε σ α := fun self => (result, self)

instance : MonadLift (Except ε) (Method ε σ) := ⟨lift⟩

/-- Runs a method on one field of the receiver. -/
def zoom (field : σ → τ) (update : σ → τ → σ) (m : Method ε τ α) :
    Method ε σ α := fun self =>
  let (result, after) := m (field self)
  (result, update self after)

@[simp] theorem pure_apply (a : α) (receiver : σ) :
    (pure a : Method ε σ α) receiver = (.ok a, receiver) := rfl

@[simp] theorem liftM_apply (result : Except ε α) (receiver : σ) :
    (liftM result : Method ε σ α) receiver = (result, receiver) := rfl

theorem bind_apply (m : Method ε σ α) (f : α → Method ε σ β) (receiver : σ) :
    (m >>= f) receiver =
      match m receiver with
      | (.ok a, after) => f a after
      | (.error e, after) => (.error e, after) := rfl

/-- After a method that returned a value comes what is done with it. -/
theorem bind_of_ok {m : Method ε σ α} {receiver : σ} {a : α}
    (returned : (m receiver).1 = .ok a) (f : α → Method ε σ β) :
    (m >>= f) receiver = f a (m receiver).2 := by
  rw [bind_apply]
  rcases ran : m receiver with ⟨e | b, after⟩
  · rw [ran] at returned
    cases returned
  · rw [ran] at returned
    cases returned
    rfl

/-- A value computed from a fallible result, and then used. -/
theorem liftM_map_bind (result : Except ε α) (g : α → β)
    (f : β → Method ε σ γ) :
    (liftM (result.map g) >>= f : Method ε σ γ) =
      (liftM result >>= fun a => f (g a)) := by
  funext receiver
  cases result <;> rfl

/-- What follows a fallible computation matters on the receiver it is called
on. -/
theorem liftM_bind_congr {result : Except ε α} {f g : α → Method ε σ β}
    {receiver : σ} (same : ∀ a, f a receiver = g a receiver) :
    (liftM result >>= f : Method ε σ β) receiver =
      (liftM result >>= g : Method ε σ β) receiver := by
  cases result with
  | error e => rfl
  | ok a => exact same a

/-- Whatever the method does, it relates the receiver before and after by `R`. -/
def Leaves (R : σ → σ → Prop) (m : Method ε σ α) : Prop :=
  ∀ receiver, R receiver (m receiver).2

namespace Leaves

variable {R : σ → σ → Prop} [IsPreorder σ R]

theorem lift (result : Except ε α) :
    Leaves R (liftM result : Method ε σ α) :=
  fun receiver => refl_of R receiver

theorem mapLift (f : α → β) (result : Except ε α) :
    Leaves R (f <$> (liftM result : Method ε σ α)) := by
  intro receiver
  cases result <;> exact refl_of R receiver

theorem bind {m : Method ε σ α} {f : α → Method ε σ β} (first : Leaves R m)
    (second : ∀ a, Leaves R (f a)) : Leaves R (m >>= f) := by
  intro receiver
  have before := first receiver
  rw [bind_apply]
  split
  · next a after done =>
      rw [done] at before
      exact trans_of R before (second a after)
  · next e after failed =>
      rw [failed] at before
      exact before

omit [IsPreorder σ R] in
/-- What a method does to one field, it does to the receiver. -/
theorem zoom {Q : τ → τ → Prop} {field : σ → τ} {update : σ → τ → σ}
    {m : Method ε τ α} (updated : ∀ s t, Q (field s) t → R s (update s t))
    (inField : Leaves Q m) : Leaves R (Method.zoom field update m) :=
  fun receiver => updated receiver _ (inField (field receiver))

end Leaves

/-- From related receivers the two methods return the same and leave related
receivers. -/
def Agree (R : σ → σ → Prop) (m other : Method ε σ α) : Prop :=
  ∀ s t, R s t → (m s).1 = (other t).1 ∧ R (m s).2 (other t).2

namespace Agree

variable {R : σ → σ → Prop}

theorem lift (result : Except ε α) :
    Agree R (liftM result : Method ε σ α) (liftM result) :=
  fun _ _ related => ⟨rfl, related⟩

theorem mapLift (f : α → β) (result : Except ε α) :
    Agree R (f <$> (liftM result : Method ε σ α)) (f <$> liftM result) := by
  intro s t related
  cases result <;> exact ⟨rfl, related⟩

theorem bind {m other : Method ε σ α} {f g : α → Method ε σ β}
    (first : Agree R m other) (second : ∀ a, Agree R (f a) (g a)) :
    Agree R (m >>= f) (other >>= g) := by
  intro s t related
  rcases first s t related with ⟨same, left⟩
  rw [bind_apply, bind_apply]
  rcases done : m s with ⟨e | a, after⟩ <;>
    rcases otherDone : other t with ⟨e' | a', otherAfter⟩ <;>
    rw [done, otherDone] at same left
  · cases same
    exact ⟨rfl, left⟩
  · cases same
  · cases same
  · cases same
    exact second a after otherAfter left

end Agree

end Method

end RockSolid.Foundation
