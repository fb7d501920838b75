/-
Module: RockSolid.Core.Policies
Layer: Core
Purpose: The retry policies (src/tx/policies.rs).  A policy may remember things
  between its calls; the sleep of `FixedRetry` has no effect that a caller can
  read and is left out.
Trusted boundary: human-reviewed model of the source
Main exports: RetryPolicy, FixedRetry, NoRetry
-/
import RockSolid.Core.Error
import RockSolid.Foundation.Method

namespace RockSolid

open Foundation

/-- `RetryPolicy` of src/tx/optimistic.rs: `Ok` asks for another attempt, an
error stops the call and is handed to the caller. -/
class RetryPolicy (RTP : Type) where
  shouldRetry : StoreError → Nat → Method StoreError RTP Unit

/-- `FixedRetry`; the backoff is in milliseconds. -/
structure FixedRetry where
  maxAttempts : Nat := 10
  backoff : Nat := 10
deriving DecidableEq, Repr

instance : RetryPolicy FixedRetry where
  shouldRetry error attempt := fun self =>
    if attempt ≥ self.maxAttempts then
      (.error (.other
        s!"Optimistic transaction failed after {self.maxAttempts} attempts. Last error: {error.display}"),
        self)
    else
      match error with
      | .rocksDb _ => (.ok (), self)
      | error => (.error error.clone, self)

/-- `NoRetry`. -/
structure NoRetry where
deriving DecidableEq, Repr

instance : RetryPolicy NoRetry where
  shouldRetry error _ := fun self => (.error error.clone, self)

end RockSolid
