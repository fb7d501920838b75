/-
Module: RockSolid.Core.Merge
Layer: Core
Purpose: The default merges and the operator installed for a column family
  (src/config.rs, src/cf_store.rs, src/tx/internal.rs), and the two functions of
  the merge router (src/merge.rs).  The route table of matchit is a parameter:
  what it finds for a path, with the parameters of the match.
Trusted boundary: human-reviewed model of the source; `Router` stands for
  `matchit::Router::at`
Main exports: defaultFullMerge, defaultPartialMerge, Router, routerFullMergeFn,
  routerPartialMergeFn, RockSolidMergeOperatorCfConfig.installedFullMerge
-/
import RockSolid.Core.Serialization
import RockSolid.Engine.Records

namespace RockSolid

/-- `default_full_merge`: simple concatenation. -/
def defaultFullMerge : MergeFn := fun _newKey existingVal operands =>
  match existingVal with
  | some existing => some (operands.foldl (· ++ ·) existing)
  | none =>
      match operands with
      | [] => none
      | first :: others => some (others.foldl (· ++ ·) first)

/-- `default_full_merge` with its loops as they are written: one over the
operands, one over their indices.  The outer `none` is a panic at an `unwrap`. -/
def defaultFullMergeLoop (existingVal : Option Bytes) (operands : List Bytes) :
    Option (Option Bytes) :=
  match existingVal with
  | some existing => some (some (operands.foldl (· ++ ·) existing))
  | none =>
      if operands.isEmpty then some none
      else do
        let first ← operands.head?
        let resultVal ← (List.range' 1 (operands.length - 1)).foldlM
          (fun resultVal opIdx => do
            let op ← operands[opIdx]?
            return resultVal ++ op) first
        return some resultVal

/-- `default_partial_merge`: it fails the partial merge. -/
def defaultPartialMerge : MergeFn := fun _newKey _existingVal _operands => none

/-- `matchit::Params`. -/
abbrev Params := List (String × String)

/-- `MergeRouteHandlerFn`. -/
abbrev MergeRouteHandlerFn :=
  Bytes → Option Bytes → List Bytes → Params → Option Bytes

/-- A route table: the handler a path matches, if any. -/
abbrev Router (Handler : Type) := String → Option (Handler × Params)

/-- `router_full_merge_fn`, on the contents of `FULL_MERGE_ROUTER`. -/
def routerFullMergeFn (fullMergeRouter : Router MergeRouteHandlerFn) : MergeFn :=
  fun keyBytes existingValOpt operands =>
    match fromUtf8 keyBytes with
    | some keyStr =>
        match fullMergeRouter keyStr with
        | some (handler, params) =>
            handler keyBytes existingValOpt operands params
        | none => defaultFullMerge keyBytes existingValOpt operands
    | none => defaultFullMerge keyBytes existingValOpt operands

/-- `router_partial_merge_fn`, on the contents of `PARTIAL_MERGE_ROUTER`. -/
def routerPartialMergeFn (partialMergeRouter : Router MergeRouteHandlerFn) :
    MergeFn := fun keyBytes existingValOpt operands =>
  match fromUtf8 keyBytes with
  | some keyStr =>
      match partialMergeRouter keyStr with
      | some (handler, params) =>
          handler keyBytes existingValOpt operands params
      | none => defaultPartialMerge keyBytes existingValOpt operands
  | none => defaultPartialMerge keyBytes existingValOpt operands

/-- `RockSolidMergeOperatorCfConfig`, with the function a full merge uses. -/
structure RockSolidMergeOperatorCfConfig where
  fullMergeFn : Option MergeFn

/-- The full merge the opening code installs for a family that has a merge
operator. -/
def RockSolidMergeOperatorCfConfig.installedFullMerge
    (mergeOpConfig : RockSolidMergeOperatorCfConfig) : MergeFn :=
  mergeOpConfig.fullMergeFn.getD defaultFullMerge

end RockSolid
