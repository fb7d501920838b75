/-
Module: RockSolid.Semantics.WriteCalls
Layer: Semantics
Purpose: The write operations that the crate offers through many paths, each
  with its arguments, and the one record that a path is meant to hand to the
  engine for it.
Trusted boundary: a statement of intent
Main exports: WriteCall, WriteCall.record
-/
import RockSolid.Core.Stores
import RockSolid.Foundation.FallibleList

namespace RockSolid

open Foundation

/-- A write operation with its arguments. -/
inductive WriteCall : Type 1 where
  | put {K V : Type} (keys : AsBytes K) (codec : Serialize V) (key : K) (val : V)
  | putRaw {K : Type} (keys : AsBytes K) (key : K) (rawVal : Bytes)
  | putWithExpiry {K V : Type} (keys : AsBytes K) (codec : Serialize V) (key : K)
      (val : V) (expireTime : UInt64)
  | merge {K P : Type} (keys : AsBytes K) (codec : Serialize (MergeValue P))
      (key : K) (mergeValue : MergeValue P)
  | mergeRaw {K : Type} (keys : AsBytes K) (key : K) (rawMergeOp : Bytes)
  | delete {K : Type} (keys : AsBytes K) (key : K)

/-- The record a write operation on a column family asks for, or why its value
cannot be encoded. -/
def WriteCall.record (cf : String) : WriteCall → StoreResult WriteOp
  | .put _ _ key val =>
      (serializeValue val).map fun bytes =>
        .put ⟨cf, AsBytes.asBytes key⟩ bytes
  | .putRaw _ key rawVal => .ok (.put ⟨cf, AsBytes.asBytes key⟩ rawVal)
  | .putWithExpiry _ _ key val expireTime =>
      (serializeValue val).map fun bytes =>
        .put ⟨cf, AsBytes.asBytes key⟩ (toBeBytes expireTime ++ bytes)
  | .merge _ _ key mergeValue =>
      (serializeValue mergeValue).map fun bytes =>
        .merge ⟨cf, AsBytes.asBytes key⟩ bytes
  | .mergeRaw _ key rawMergeOp =>
      .ok (.merge ⟨cf, AsBytes.asBytes key⟩ rawMergeOp)
  | .delete _ key => .ok (.delete ⟨cf, AsBytes.asBytes key⟩)

/-- The record of a write operation lies in the family it is asked for. -/
theorem WriteCall.target_of_record {call : WriteCall} {cf : String}
    {op : WriteOp} (recorded : call.record cf = .ok op) : op.target.cf = cf := by
  cases call with
  | put keys codec key val =>
      obtain ⟨bytes, -, rfl⟩ := map_eq_ok_iff.mp recorded
      rfl
  | putWithExpiry keys codec key val expireTime =>
      obtain ⟨bytes, -, rfl⟩ := map_eq_ok_iff.mp recorded
      rfl
  | merge keys codec key mergeValue =>
      obtain ⟨bytes, -, rfl⟩ := map_eq_ok_iff.mp recorded
      rfl
  | _ =>
      cases recorded
      rfl

theorem ValueWithExpiry.fromValue_eq {V : Type} [Serialize V]
    (expireTime : UInt64) (val : V) :
    ValueWithExpiry.fromValue expireTime val =
      (serializeValue val).map fun rawValue => ⟨expireTime, rawValue⟩ := by
  rw [ValueWithExpiry.fromValue]
  cases serializeValue val <;> rfl

end RockSolid
