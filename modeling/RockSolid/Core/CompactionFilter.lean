/-
Module: RockSolid.Core.CompactionFilter
Layer: Core
Purpose: The two compaction filter routers (src/compaction_filter/mod.rs,
  src/compaction_filter/binary.rs): their global route tables, the builders that
  fill them, and the functions registered with RocksDB, which read the tables
  whenever they are called.  The table of byte prefixes is that of
  fast_radix_trie, which is not part of the repository and enters as a structure.
Trusted boundary: human-reviewed model of the source; `Matchit` and `RadixMap`
  stand for `matchit::Router` and `fast_radix_trie::RadixMap`
Main exports: RadixMap, FilterRouters, CompactionFilterRouterBuilder,
  BinaryCompactionFilterBuilder, routerCompactionFilterFn, binaryRouterFn,
  cacheItemExpirer
-/
import RockSolid.Core.CfOptions
import RockSolid.Core.MergeRouter
import RockSolid.Foundation.PrefixTable

namespace RockSolid

open Foundation

/-- `CompactionFilterRouteHandlerFn`. -/
abbrev CompactionFilterRouteHandlerFn :=
  UInt32 → Bytes → Bytes → Params → Decision

/-- `BinaryCompactionFilterHandlerFn`. -/
abbrev BinaryCompactionFilterHandlerFn := UInt32 → Bytes → Bytes → Decision

/-- `fast_radix_trie::RadixMap`: a map whose look-up of a key by
`get_longest_common_prefix` finds the entry of its longest prefix. -/
structure RadixMap (T : Type) where
  Table : Type
  new : Table
  insert : Bytes → T → Table → Table
  get : Table → Bytes → Option T
  getLongestCommonPrefix : Table → Bytes → Option (Bytes × T)
  get_new : ∀ key, get new key = none
  get_insert : ∀ key value table other,
    get (insert key value table) other =
      if key = other then some value else get table other
  isLongest : ∀ table key,
    IsLongestPrefix (get table) key (getLongestCommonPrefix table key)

/-- A radix map as the list of its insertions. -/
def RadixMap.ofInsertions (T : Type) : RadixMap T where
  Table := List (Bytes × T)
  new := []
  insert key value table := table ++ [(key, value)]
  get table key := lastEntry table key
  getLongestCommonPrefix table key := longestPrefix (lastEntry table) key
  get_new := lastEntry_nil
  get_insert key value table other := lastEntry_concat table (key, value) other
  isLongest table key := longestPrefix_isLongest (lastEntry table) key

variable {m : Matchit CompactionFilterRouteHandlerFn}
  {r : RadixMap BinaryCompactionFilterHandlerFn}

/-- `COMPACTION_FILTER_ROUTER` and `BINARY_COMPACTION_FILTER_ROUTER`. -/
structure FilterRouters (m : Matchit CompactionFilterRouteHandlerFn)
    (r : RadixMap BinaryCompactionFilterHandlerFn) where
  compactionFilterRouter : m.Table
  binaryCompactionFilterRouter : r.Table

/-- `router_compaction_filter_fn`, on the contents of
`COMPACTION_FILTER_ROUTER`. -/
def routerCompactionFilterFn
    (compactionFilterRouter : Router CompactionFilterRouteHandlerFn) :
    CompactionFilterRouterFnPtr := fun level keyBytes valueBytes =>
  match fromUtf8 keyBytes with
  | some keyStr =>
      match compactionFilterRouter keyStr with
      | some (handlerArc, params) =>
          handlerArc level keyBytes valueBytes params
      | none => .keep
  | none => .keep

/-- `binary_router_fn`, on the contents of `BINARY_COMPACTION_FILTER_ROUTER`. -/
def binaryRouterFn (binaryCompactionFilterRouter : r.Table) :
    CompactionFilterRouterFnPtr := fun level keyBytes valueBytes =>
  match r.getLongestCommonPrefix binaryCompactionFilterRouter keyBytes with
  | some (_found, handler) => handler level keyBytes valueBytes
  | none => .keep

/-- `RockSolidCompactionFilterRouterConfig` as a builder returns it: the function
it points to looks at the global routers when it is called. -/
structure BuiltFilterConfig (m : Matchit CompactionFilterRouteHandlerFn)
    (r : RadixMap BinaryCompactionFilterHandlerFn) where
  name : String
  filterFnPtr : FilterRouters m r → CompactionFilterRouterFnPtr

/-- `CompactionFilterRouterBuilder`. -/
structure CompactionFilterRouterBuilder where
  operatorName : Option String := none
  routesAdded : Bool := false
deriving DecidableEq, Repr

/-- What a method of the builder can change. -/
structure FilterBuilderScope (m : Matchit CompactionFilterRouteHandlerFn) where
  self : CompactionFilterRouterBuilder
  compactionFilterRouter : m.Table

namespace CompactionFilterRouterBuilder

/-- `CompactionFilterRouterBuilder::new`. -/
def new : CompactionFilterRouterBuilder := {}

/-- `CompactionFilterRouterBuilder::operator_name`. -/
def setOperatorName (builder : CompactionFilterRouterBuilder) (name : String) :
    CompactionFilterRouterBuilder :=
  { builder with operatorName := some name }

/-- `add_route`. -/
def addRoute (routePattern : String)
    (handler : CompactionFilterRouteHandlerFn) :
    Method StoreError (FilterBuilderScope m) Unit := fun scope =>
  match m.insert routePattern handler scope.compactionFilterRouter with
  | (.error e, compactionFilterRouter) =>
      (.error (.invalidConfiguration
        s!"Invalid compaction filter route pattern '{routePattern}': {e}"),
        { scope with compactionFilterRouter })
  | (.ok (), compactionFilterRouter) =>
      (.ok (),
        { self := { scope.self with routesAdded := true }
          compactionFilterRouter })

/-- `CompactionFilterRouterBuilder::build`. -/
def build (builder : CompactionFilterRouterBuilder) :
    StoreResult (BuiltFilterConfig m r) :=
  match builder.operatorName with
  | some operatorName =>
      .ok { name := operatorName
            filterFnPtr := fun statics =>
              routerCompactionFilterFn
                (m.router statics.compactionFilterRouter) }
  | none =>
      .error (.invalidConfiguration
        "Compaction filter router operator name must be set")

end CompactionFilterRouterBuilder

/-- `BinaryCompactionFilterBuilder`. -/
structure BinaryCompactionFilterBuilder where
  operatorName : Option String := none
  routesAdded : Bool := false
deriving DecidableEq, Repr

/-- What a method of the binary builder can change. -/
structure BinaryBuilderScope (r : RadixMap BinaryCompactionFilterHandlerFn) where
  self : BinaryCompactionFilterBuilder
  binaryCompactionFilterRouter : r.Table

namespace BinaryCompactionFilterBuilder

/-- `BinaryCompactionFilterBuilder::new`. -/
def new : BinaryCompactionFilterBuilder := {}

/-- `BinaryCompactionFilterBuilder::operator_name`. -/
def setOperatorName (builder : BinaryCompactionFilterBuilder) (name : String) :
    BinaryCompactionFilterBuilder :=
  { builder with operatorName := some name }

/-- `add_prefix_route`. -/
def addPrefixRoute (pre : Bytes) (handler : BinaryCompactionFilterHandlerFn) :
    Method StoreError (BinaryBuilderScope r) Unit := fun scope =>
  (.ok (),
    { self := { scope.self with routesAdded := true }
      binaryCompactionFilterRouter :=
        r.insert pre handler scope.binaryCompactionFilterRouter })

/-- `BinaryCompactionFilterBuilder::build`. -/
def build (builder : BinaryCompactionFilterBuilder) :
    StoreResult (BuiltFilterConfig m r) :=
  match builder.operatorName with
  | some operatorName =>
      .ok { name := operatorName
            filterFnPtr := fun statics =>
              binaryRouterFn statics.binaryCompactionFilterRouter }
  | none =>
      .error (.invalidConfiguration
        "Binary compaction filter operator name must be set")

end BinaryCompactionFilterBuilder

/-- `cache_item_expirer` of examples/compaction_filter_routing.rs, at the time
`current_time_secs` returns. -/
def cacheItemExpirer (currentTimeSecs : UInt64) :
    CompactionFilterRouteHandlerFn := fun _level _keyBytes valueBytes _params =>
  match ValueWithExpiry.fromSlice (V := String) valueBytes with
  | .ok vwe => if vwe.expireTime ≤ currentTimeSecs then .remove else .keep
  | .error _ => .keep

end RockSolid
