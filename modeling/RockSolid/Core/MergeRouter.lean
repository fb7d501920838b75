/-
Module: RockSolid.Core.MergeRouter
Layer: Core
Purpose: Registration of merge routes (src/merge.rs): the two global routers and
  the methods of `MergeRouterBuilder` that add routes to them.  The routers are
  those of matchit, which is not part of the repository and enters as a
  structure.
Trusted boundary: human-reviewed model of the source; `Matchit` stands for
  `matchit::Router`
Main exports: Match, Matchit, Matchit.router, MergeRouters, MergeRouterBuilder,
  MergeRouterBuilder.addFullMergeRoute, MergeRouterBuilder.addPartialMergeRoute,
  MergeRouterBuilder.addRoute
-/
import RockSolid.Core.Merge
import RockSolid.Foundation.Method

namespace RockSolid

open Foundation

/-- `matchit::Match`, with the pattern of the selected route, which matchit keeps
to itself. -/
structure Match (T : Type) where
  pattern : String
  value : T
  params : Params

/-- `matchit::Router`: an insertion that fails leaves the matching behaviour
unchanged. -/
structure Matchit (T : Type) where
  Table : Type
  new : Table
  insert : String → T → Method String Table Unit
  at_ : Table → String → Option (Match T)
  insert_refused : ∀ route value table e,
    (insert route value table).1 = .error e →
      at_ (insert route value table).2 = at_ table

/-- What a merge function reads of a match. -/
def Matchit.router {T : Type} (m : Matchit T) (table : m.Table) : Router T :=
  fun path => (m.at_ table path).map fun found => (found.value, found.params)

variable {m : Matchit MergeRouteHandlerFn}

/-- `FULL_MERGE_ROUTER` and `PARTIAL_MERGE_ROUTER`. -/
structure MergeRouters (m : Matchit MergeRouteHandlerFn) where
  fullMergeRouter : m.Table
  partialMergeRouter : m.Table

/-- The part of `MergeRouterBuilder` that registration changes. -/
structure MergeRouterBuilder where
  routesAdded : Bool := false
deriving DecidableEq, Repr

/-- What a method of the builder can change: the builder and the two statics. -/
structure BuilderScope (m : Matchit MergeRouteHandlerFn) where
  self : MergeRouterBuilder
  statics : MergeRouters m

namespace MergeRouterBuilder

/-- `MergeRouterBuilder::new`. -/
def new : MergeRouterBuilder := {}

variable (routePattern : String)

/-- `add_full_merge_route`. -/
def addFullMergeRoute (handler : MergeRouteHandlerFn) :
    Method StoreError (BuilderScope m) Unit := fun scope =>
  match m.insert routePattern handler scope.statics.fullMergeRouter with
  | (.error e, fullMergeRouter) =>
      (.error (.invalidConfiguration
        s!"Invalid full merge route pattern '{routePattern}': {e}"),
        { scope with statics := { scope.statics with fullMergeRouter } })
  | (.ok (), fullMergeRouter) =>
      (.ok (),
        { self := { routesAdded := true }
          statics := { scope.statics with fullMergeRouter } })

/-- `add_partial_merge_route`. -/
def addPartialMergeRoute (handler : MergeRouteHandlerFn) :
    Method StoreError (BuilderScope m) Unit := fun scope =>
  match m.insert routePattern handler scope.statics.partialMergeRouter with
  | (.error e, partialMergeRouter) =>
      (.error (.invalidConfiguration
        s!"Invalid partial merge route pattern '{routePattern}': {e}"),
        { scope with statics := { scope.statics with partialMergeRouter } })
  | (.ok (), partialMergeRouter) =>
      (.ok (),
        { self := { routesAdded := true }
          statics := { scope.statics with partialMergeRouter } })

/-- `add_route`. -/
def addRoute (fullMergeHandler partialMergeHandler : MergeRouteHandlerFn) :
    Method StoreError (BuilderScope m) Unit := do
  addFullMergeRoute routePattern fullMergeHandler
  addPartialMergeRoute routePattern partialMergeHandler

end MergeRouterBuilder

end RockSolid
