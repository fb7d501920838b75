/-
Module: RockSolid.Proofs.StagingCalls
Layer: Proofs
Purpose: What a staging method of a context can do.  It either fails before it
  reaches the engine and changes nothing, or is one native write of the operation
  it names.
Trusted boundary: none
Main exports: WritesOnly, WritesOnly.after, WritesOnly.afterLift,
  operation_of_serialized, operation_of_expiring
-/
import RockSolid.Semantics.ContextRuns
import RockSolid.Proofs.StoreReads

namespace RockSolid

open Foundation

/-- The method fails and leaves its receiver as it was, or it is the write of the
given operation. -/
def WritesOnly {σ : Type} (write : WriteOp → Method StoreError σ Unit)
    (operation : Option WriteOp) (m : Method StoreError σ Unit) : Prop :=
  ∀ self, (∃ e, m self = (.error e, self)) ∨
    ∃ op, operation = some op ∧ m self = write op self

namespace WritesOnly

variable {σ A : Type} {write : WriteOp → Method StoreError σ Unit}
  {operation : Option WriteOp}

/-- A test before the write: it does not change the receiver. -/
theorem after {test : Method StoreError σ A} {f : A → Method StoreError σ Unit}
    (quiet : ∀ self, (test self).2 = self)
    (rest : ∀ a self, (test self).1 = .ok a → WritesOnly write operation (f a)) :
    WritesOnly write operation (test >>= f) := by
  intro self
  have unchanged := quiet self
  rw [Method.bind_apply]
  rcases tested : test self with ⟨e | a, next⟩
  · rw [tested] at unchanged
    exact .inl ⟨e, by rw [← unchanged]⟩
  · rw [tested] at unchanged
    have passed : (test self).1 = .ok a := by rw [tested]
    have same : next = self := unchanged
    subst same
    exact rest a next passed next

/-- A fallible computation before the write. -/
theorem afterLift {result : StoreResult A} {f : A → Method StoreError σ Unit}
    (rest : ∀ a, result = .ok a → WritesOnly write operation (f a)) :
    WritesOnly write operation (liftM result >>= f) :=
  after (fun _ => rfl) fun a _ passed => rest a passed

/-- The write itself. -/
theorem done {op : WriteOp} (named : operation = some op) :
    WritesOnly write operation (write op) :=
  fun _ => .inr ⟨op, named, rfl⟩

end WritesOnly

section Encodings

variable {V : Type} [Serialize V] {val : V} {cf : String} {key : Bytes}

/-- A value that was serialized is the value the operation carries. -/
theorem operation_of_serialized {build : Bytes → WriteOp} {bytes : Bytes}
    (encoded : serializeValue val = .ok bytes) :
    (Serialize.serialize val).toOption.map build = some (build bytes) := by
  rw [serializeValue] at encoded
  cases result : (Serialize.serialize val : Except String Bytes) with
  | error e =>
      rw [result] at encoded
      cases encoded
  | ok found =>
      rw [result] at encoded
      cases encoded
      rfl

/-- A value with expiry carries the header and the serialized value. -/
theorem operation_of_expiring {build : Bytes → WriteOp} {expireTime : UInt64}
    {vwe : ValueWithExpiry V}
    (encoded : ValueWithExpiry.fromValue expireTime val = .ok vwe) :
    (Serialize.serialize val).toOption.map
        (fun bytes => build (toBeBytes expireTime ++ bytes)) =
      some (build vwe.serializeForStorage) := by
  rw [ValueWithExpiry.fromValue] at encoded
  cases result : serializeValue val with
  | error e =>
      rw [result] at encoded
      cases encoded
  | ok bytes =>
      rw [result] at encoded
      cases encoded
      exact operation_of_serialized result

end Encodings

/-- What an iteration asks of the native transaction is a read of it. -/
theorem iteratorsOf_answered {cmps : String → Comparator}
    {K S T OutK OutV : Type} [AsBytes K] (access : CfAccess)
    (config : IterConfig K S T OutK OutV) (data : Db cmps)
    (fault : Option Fault) (txn : NativeTxn) :
    ∀ event ∈ iteratorsOf access
        (fun cf mode => txn.iterator access.db data cf mode fault) config,
      NativeTxn.Answered access.db (txn.view data) event := by
  intro event member
  rw [iteratorsOf] at member
  split at member
  · rw [List.mem_singleton] at member
    subst member
    exact .iterator _ _ fault
  · cases member

end RockSolid
