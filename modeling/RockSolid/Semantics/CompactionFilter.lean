/-
Module: RockSolid.Semantics.CompactionFilter
Layer: Semantics
Purpose: A database whose families may have compaction filters, while clients
  write, builders register handlers, and the engine hands values to the filters,
  in any order; and a family whose routes all lead to the expiry handler, with a
  clock.
Trusted boundary: a statement of intent
Main exports: FilterCall, FilterRegistry, InstalledFilter, FilterStep,
  FilteredDb, FilteredDb.run, prefixRoutes, DecidedBy, TtlStep, ttlRun, liveAt
-/
import RockSolid.Core.CompactionFilter
import RockSolid.Engine.Compaction
import RockSolid.Semantics.MergeRouting

namespace RockSolid

open Foundation

/-- A call that registers a handler, on one of any number of builders. -/
inductive FilterCall where
  | addRoute (builder : Nat) (pattern : String)
      (handler : CompactionFilterRouteHandlerFn)
  | addPrefixRoute (builder : Nat) (pre : Bytes)
      (handler : BinaryCompactionFilterHandlerFn)

variable {m : Matchit CompactionFilterRouteHandlerFn}
  {r : RadixMap BinaryCompactionFilterHandlerFn}

/-- All builders of a program and the two routers they share. -/
structure FilterRegistry (m : Matchit CompactionFilterRouteHandlerFn)
    (r : RadixMap BinaryCompactionFilterHandlerFn) where
  routerBuilders : Nat → CompactionFilterRouterBuilder
  binaryBuilders : Nat → BinaryCompactionFilterBuilder
  statics : FilterRouters m r

namespace FilterRegistry

/-- Before the first registration. -/
def start : FilterRegistry m r where
  routerBuilders _ := .new
  binaryBuilders _ := .new
  statics := ⟨m.new, r.new⟩

/-- A call of one builder. -/
def call : FilterCall → Method StoreError (FilterRegistry m r) Unit
  | .addRoute builder pattern handler =>
      Method.zoom
        (fun registry => ⟨registry.routerBuilders builder,
          registry.statics.compactionFilterRouter⟩)
        (fun registry scope =>
          { registry with
            routerBuilders :=
              Function.update registry.routerBuilders builder scope.self
            statics :=
              { registry.statics with
                compactionFilterRouter := scope.compactionFilterRouter } })
        (CompactionFilterRouterBuilder.addRoute pattern handler)
  | .addPrefixRoute builder pre handler =>
      Method.zoom
        (fun registry => ⟨registry.binaryBuilders builder,
          registry.statics.binaryCompactionFilterRouter⟩)
        (fun registry scope =>
          { registry with
            binaryBuilders :=
              Function.update registry.binaryBuilders builder scope.self
            statics :=
              { registry.statics with
                binaryCompactionFilterRouter :=
                  scope.binaryCompactionFilterRouter } })
        (BinaryCompactionFilterBuilder.addPrefixRoute pre handler)

end FilterRegistry

/-- A filter configuration that one of the two builders returned. -/
structure InstalledFilter (m : Matchit CompactionFilterRouteHandlerFn)
    (r : RadixMap BinaryCompactionFilterHandlerFn) where
  config : BuiltFilterConfig m r
  built :
    (∃ builder : CompactionFilterRouterBuilder, builder.build = .ok config) ∨
      ∃ builder : BinaryCompactionFilterBuilder, builder.build = .ok config

/-- What happens: a registration, a write of a client, or a compaction that comes
to the value of a key. -/
inductive FilterStep where
  | register (call : FilterCall)
  | write (op : WriteOp)
  | compact (level : UInt32) (at_ : CfKey)

/-- What is left of a value after the decision. -/
def Decision.outcome (value : Bytes) : Decision → Option Bytes
  | .keep => some value
  | .remove => none
  | .change newValue => some newValue

/-- The decision of a family's filter; a family without one keeps everything. -/
def filterDecision (filters : String → Option (InstalledFilter m r))
    (statics : FilterRouters m r) (level : UInt32) (at_ : CfKey)
    (value : Bytes) : Decision :=
  match filters at_.cf with
  | some installed => installed.config.filterFnPtr statics level at_.key value
  | none => .keep

/-- The registrations of a program and its database. -/
structure FilteredDb (m : Matchit CompactionFilterRouteHandlerFn)
    (r : RadixMap BinaryCompactionFilterHandlerFn) where
  registry : FilterRegistry m r
  store : CompactedDb

namespace FilteredDb

variable (filters : String → Option (InstalledFilter m r))

/-- A program that has registered nothing, on some contents. -/
def start (data : ByteDb) : FilteredDb m r := ⟨.start, ⟨data⟩⟩

/-- One step. -/
def step (db : FilteredDb m r) : FilterStep → FilteredDb m r
  | .register call => { db with registry := (db.registry.call call).2 }
  | .write op => { db with store := db.store.step (.write op) }
  | .compact level at_ =>
      { db with
        store := db.store.step (.compact at_ (.filterValue fun value =>
          (filterDecision filters db.registry.statics level at_ value).outcome
            value)) }

/-- Any steps, in order. -/
def run (db : FilteredDb m r) (steps : List FilterStep) : FilteredDb m r :=
  steps.foldl (step filters) db

/-- What a program reaches with the steps. -/
def reached (data : ByteDb) (steps : List FilterStep) : FilteredDb m r :=
  (start data).run filters steps

/-- What `binary_router_fn` decides there. -/
def binaryFilter (db : FilteredDb m r) : CompactionFilterRouterFnPtr :=
  binaryRouterFn db.registry.statics.binaryCompactionFilterRouter

end FilteredDb

/-- The writes among the steps. -/
def FilterStep.op : FilterStep → Option WriteOp
  | .write op => some op
  | _ => none

/-- What a step registers under a byte prefix. -/
def FilterStep.prefixRoute :
    FilterStep → Option (Bytes × BinaryCompactionFilterHandlerFn)
  | .register (.addPrefixRoute _ pre handler) => some (pre, handler)
  | _ => none

/-- The handlers registered under byte prefixes, in order. -/
def prefixRoutes (steps : List FilterStep) :
    List (Bytes × BinaryCompactionFilterHandlerFn) :=
  steps.filterMap FilterStep.prefixRoute

/-- The decision is that of a handler registered for the key: under a pattern that
the path of the key selects, or under the longest of the prefixes of the key that
are registered, by the last registration of that prefix. -/
inductive DecidedBy (statics : FilterRouters m r) (registered : List FilterStep)
    (level : UInt32) (key value : Bytes) (decision : Decision) : Prop where
  | pattern (builder : Nat) (pattern : String)
      (handler : CompactionFilterRouteHandlerFn) (params : Params)
      (member : .register (.addRoute builder pattern handler) ∈ registered)
      (selected : dispatch m statics.compactionFilterRouter key =
        some ⟨pattern, handler, params⟩)
      (answer : handler level key value params = decision)
  | bytePrefix (builder : Nat) (pre : Bytes)
      (handler : BinaryCompactionFilterHandlerFn)
      (member : .register (.addPrefixRoute builder pre handler) ∈ registered)
      (longest : IsLongestPrefix (lastEntry (prefixRoutes registered)) key
        (some (pre, handler)))
      (answer : handler level key value = decision)

section Expiry

/-- A router all of whose routes lead to `cache_item_expirer`, when the clock
shows the given time. -/
def expirerRouter (routed : String → Option Params) (now : UInt64) :
    Router CompactionFilterRouteHandlerFn := fun path =>
  (routed path).map fun params => (cacheItemExpirer now, params)

/-- What happens to a database with expiring values: a write, or a compaction
that comes to the value of a key at some time. -/
inductive TtlStep where
  | write (op : WriteOp)
  | compact (now : UInt64) (level : UInt32) (at_ : CfKey)

/-- The step on the database, for the routes of each family. -/
def TtlStep.engine (routed : String → String → Option Params) :
    TtlStep → EngineStep
  | .write op => .write op
  | .compact now level at_ => .compact at_ (.filterValue fun value =>
      (routerCompactionFilterFn (expirerRouter (routed at_.cf) now) level
        at_.key value).outcome value)

/-- The database after the steps. -/
def ttlRun (routed : String → String → Option Params) (data : ByteDb)
    (steps : List TtlStep) : ByteDb :=
  (KeyedStore.applyBatch (CompactedDb.mk data)
    (steps.map (TtlStep.engine routed))).data

/-- The writes among the steps. -/
def TtlStep.op : TtlStep → Option WriteOp
  | .write op => some op
  | .compact .. => none

/-- The compactions among the steps ran when the clock showed at most this. -/
def CompactedBy (now : UInt64) (steps : List TtlStep) : Prop :=
  ∀ at_ level time, TtlStep.compact time level at_ ∈ steps → time ≤ now

/-- No operand is merged into the key. -/
def NeverMerged (at_ : CfKey) (data : ByteDb) (steps : List TtlStep) : Prop :=
  (data.record at_).operands = [] ∧
    ∀ operand, TtlStep.write (.merge at_ operand) ∉ steps

/-- A value found at a time, if it has not expired by then. -/
def liveAt {V : Type} (now : UInt64) (found : Option (ValueWithExpiry V)) :
    Option (ValueWithExpiry V) :=
  found.filter fun vwe => decide (now < vwe.expireTime)

end Expiry

end RockSolid
