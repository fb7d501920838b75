/-
Module: RockSolid.Core.MergeOperands
Layer: Core
Purpose: Merge operands with an expiry: `merge_with_expiry` of the stores
  (src/cf_store.rs, src/tx/macros.rs, src/store.rs, src/tx/tx_store.rs,
  src/tx/optimistic_tx_store.rs), and the two functions that check the operands
  of a merge (src/merge.rs).  `none` is a panic.
Trusted boundary: human-reviewed model of the source
Main exports: CFOperations.mergeWithExpiry, DefaultCFOperations.mergeWithExpiry,
  validateMergevaluesAssociativity, validateExpirableMergevaluesAssociativity
-/
import RockSolid.Core.Stores

namespace RockSolid

open Foundation

section Write

variable {cmps : String → Comparator} {K V : Type} [AsBytes K] [Serialize V]

/-- `merge_with_expiry` of the column-family stores. -/
def CFOperations.mergeWithExpiry (access : CfAccess) (cfName : String) (key : K)
    (value : V) (expireTime : UInt64) (fault : Option Fault) :
    Method StoreError (Db cmps) Unit := do
  let vwe ← ValueWithExpiry.fromValue expireTime value
  mergeRaw access cfName key vwe.serializeForStorage fault

/-- `merge_with_expiry` of the default-family wrappers.  Unlike their other
methods it takes the name of a family, and passes it on. -/
def DefaultCFOperations.mergeWithExpiry (access : CfAccess) (cfName : String)
    (key : K) (value : V) (expireTime : UInt64) (fault : Option Fault) :
    Method StoreError (Db cmps) Unit :=
  CFOperations.mergeWithExpiry access cfName key value expireTime fault

end Write

section Validate

variable {V : Type} [DeserializeOwned (MergeValue V)]

/-- The loop of `validate_mergevalues_associativity`. -/
def validateMergevaluesFrom (mergeLvalueOp : MergeValueOperator) :
    List Bytes → List (MergeValue V) → StoreResult (List (MergeValue V))
  | [], mergeValues => .ok mergeValues
  | bytes :: operandsIter, mergeValues => do
      let mergeRvalue : MergeValue V ← deserializeValue bytes
      if mergeLvalueOp ≠ mergeRvalue.operator then
        .error (.mergeError "merge lvalue != merge rvalue")
      else
        validateMergevaluesFrom mergeLvalueOp operandsIter
          (mergeValues ++ [mergeRvalue])

/-- `validate_mergevalues_associativity`. -/
def validateMergevaluesAssociativity (operandsIter : List Bytes) :
    Option (StoreResult (List (MergeValue V))) :=
  match operandsIter with
  | [] => none
  | lOp :: operandsIter => some do
      let mergeLvalue : MergeValue V ← deserializeValue lOp
      let mergeLvalueOp := mergeLvalue.operator
      validateMergevaluesFrom mergeLvalueOp operandsIter [mergeLvalue]

/-- The loop of `validate_expirable_mergevalues_associativity`. -/
def validateExpirableMergevaluesFrom (mergeLvalueOp : MergeValueOperator) :
    List Bytes → UInt64 → List (MergeValue V) →
      Option (StoreResult (List (MergeValue V) × UInt64))
  | [], expireTime, mergeValues => some (.ok (mergeValues, expireTime))
  | bytes :: operandsIter, expireTime, mergeValues =>
      match ValueWithExpiry.ofSlice (V := MergeValue V) bytes with
      | none => none
      | some rOp =>
          match rOp.get with
          | .error e => some (.error e)
          | .ok mergeRvalue =>
              let expireTime :=
                if expireTime < rOp.expireTime then rOp.expireTime
                else expireTime
              if mergeLvalueOp ≠ mergeRvalue.operator then
                some (.error (.mergeError "merge lvalue != merge rvalue"))
              else
                validateExpirableMergevaluesFrom mergeLvalueOp operandsIter
                  expireTime (mergeValues ++ [mergeRvalue])

/-- `validate_expirable_mergevalues_associativity`. -/
def validateExpirableMergevaluesAssociativity (operandsIter : List Bytes) :
    Option (StoreResult (List (MergeValue V) × UInt64)) :=
  match operandsIter with
  | [] => none
  | lOp :: operandsIter =>
      match ValueWithExpiry.ofSlice (V := MergeValue V) lOp with
      | none => none
      | some lOp =>
          let expireTime := lOp.expireTime
          match lOp.get with
          | .error e => some (.error e)
          | .ok mergeLvalue =>
              let mergeLvalueOp := mergeLvalue.operator
              validateExpirableMergevaluesFrom mergeLvalueOp operandsIter
                expireTime [mergeLvalue]

end Validate

end RockSolid
