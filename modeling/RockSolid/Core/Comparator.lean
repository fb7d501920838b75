/-
Module: RockSolid.Core.Comparator
Layer: Core
Purpose: The comparator options of a column family and what they install
  (src/config.rs).  The orders of natord and natlex_sort are not part of the
  repository and enter as parameters.
Trusted boundary: human-reviewed model of the source; `NaturalOrders` stands for
  the two third-party packages
Main exports: NaturalOrders, RockSolidComparatorOpt,
  RockSolidComparatorOpt.applyToOpts, installedComparator
-/
import RockSolid.Core.Serialization
import RockSolid.Engine.Records

namespace RockSolid

/-- The order functions of natord and natlex_sort the crate calls. -/
structure NaturalOrders where
  natordCompare : String → String → Ordering
  natordCompareIgnoreCase : String → String → Ordering
  natLexByteCmp : Comparator
  natLexByteCmpIgnore : Comparator

/-- `RockSolidComparatorOpt` with both sort features enabled. -/
inductive RockSolidComparatorOpt where
  | none
  | naturalLexicographical (ignoreCase : Bool)
  | natural (ignoreCase : Bool)
deriving DecidableEq, Repr

/-- The comparator slot of `rocksdb::Options`, with the comparator's name. -/
structure RocksDbOptions where
  comparator : Option (String × Comparator)

/-- `Options::set_comparator`. -/
def RocksDbOptions.setComparator (_opts : RocksDbOptions) (name : String)
    (cmp : Comparator) : RocksDbOptions :=
  { comparator := some (name, cmp) }

/-- The comparator a family opened with these options uses. -/
def RocksDbOptions.effectiveComparator (opts : RocksDbOptions) : Comparator :=
  match opts.comparator with
  | .none => compare
  | some (_, cmp) => cmp

/-- `std::str::from_utf8(bytes).unwrap_or_else(|_| "")`. -/
def utf8OrEmpty (bytes : Bytes) : String :=
  (fromUtf8 bytes).getD ""

/-- `RockSolidComparatorOpt::apply_to_opts`. -/
def RockSolidComparatorOpt.applyToOpts (orders : NaturalOrders)
    (opt : RockSolidComparatorOpt) (opts : RocksDbOptions) : RocksDbOptions :=
  match opt with
  | .none => opts
  | .naturalLexicographical ignoreCase =>
      if ignoreCase then
        opts.setComparator "rocksolid_natlex_ci" orders.natLexByteCmpIgnore
      else opts.setComparator "rocksolid_natlex_cs" orders.natLexByteCmp
  | .natural ignoreCase =>
      let comparatorName :=
        if ignoreCase then "rocksolid_natural_ci" else "rocksolid_natural_cs"
      opts.setComparator comparatorName fun a b =>
        let sA := utf8OrEmpty a
        let sB := utf8OrEmpty b
        if ignoreCase then orders.natordCompareIgnoreCase sA sB
        else orders.natordCompare sA sB

/-- The comparator a family uses when `open` applies an option to default
options. -/
def installedComparator (orders : NaturalOrders)
    (opt : RockSolidComparatorOpt) : Comparator :=
  (opt.applyToOpts orders { comparator := .none }).effectiveComparator

/-- A comparator for every column family, from the option chosen for it. -/
abbrev installedComparators (orders : NaturalOrders)
    (choice : String → RockSolidComparatorOpt) : String → Comparator :=
  fun cf => installedComparator orders (choice cf)

end RockSolid
