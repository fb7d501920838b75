/-
Module: RockSolid.Semantics.MergeRouting
Layer: Semantics
Purpose: Registration calls of any number of builders on the two global routers,
  in any order and free to fail, and how the routers dispatch a key afterwards.
Trusted boundary: a statement of intent
Main exports: RouteCall, Registry, Registry.call, dispatch, SameDispatch,
  FailsAtomically, HalfAccepted, Matchit.Registers, Matchit.ofPatterns,
  Registration, InStep
-/
import RockSolid.Core.MergeRouter
import RockSolid.Foundation.StagedRun

namespace RockSolid

open Foundation

/-- A call that registers handlers. -/
inductive RouteCall where
  | addFullMergeRoute (pattern : String) (handler : MergeRouteHandlerFn)
  | addPartialMergeRoute (pattern : String) (handler : MergeRouteHandlerFn)
  | addRoute (pattern : String)
      (fullMergeHandler partialMergeHandler : MergeRouteHandlerFn)

variable {m : Matchit MergeRouteHandlerFn}

/-- The call on its builder. -/
def RouteCall.onBuilder : RouteCall → Method StoreError (BuilderScope m) Unit
  | .addFullMergeRoute pattern handler =>
      MergeRouterBuilder.addFullMergeRoute pattern handler
  | .addPartialMergeRoute pattern handler =>
      MergeRouterBuilder.addPartialMergeRoute pattern handler
  | .addRoute pattern fullMergeHandler partialMergeHandler =>
      MergeRouterBuilder.addRoute pattern fullMergeHandler partialMergeHandler

/-- All builders of a program and the two routers they share. -/
structure Registry (m : Matchit MergeRouteHandlerFn) where
  builders : Nat → MergeRouterBuilder
  statics : MergeRouters m

namespace Registry

/-- Before the first registration. -/
def start : Registry m where
  builders _ := .new
  statics := ⟨m.new, m.new⟩

/-- A call of one builder. -/
def call (step : Nat × RouteCall) : Method StoreError (Registry m) Unit :=
  Method.zoom (fun registry => ⟨registry.builders step.1, registry.statics⟩)
    (fun registry scope =>
      { builders := Function.update registry.builders step.1 scope.self
        statics := scope.statics })
    step.2.onBuilder

/-- The registry after a history of calls, whatever they returned. -/
def after (history : List (Nat × RouteCall)) : Registry m :=
  runCalls call start history

end Registry

/-- The route a router selects for a key, if the key is valid UTF-8 and a route
matches. -/
def dispatch {T : Type} (m : Matchit T) (table : m.Table) (keyBytes : Bytes) :
    Option (Match T) :=
  (fromUtf8 keyBytes).bind (m.at_ table)

/-- Both routers dispatch every key in the same way. -/
def SameDispatch (before after : MergeRouters m) : Prop :=
  ∀ keyBytes,
    dispatch m after.fullMergeRouter keyBytes =
        dispatch m before.fullMergeRouter keyBytes ∧
      dispatch m after.partialMergeRouter keyBytes =
        dispatch m before.partialMergeRouter keyBytes

/-- If the call returns an error, it changes no dispatch. -/
def FailsAtomically (registry : Registry m) (step : Nat × RouteCall) : Prop :=
  ∀ e, (registry.call step).1 = .error e →
    SameDispatch registry.statics (registry.call step).2.statics

/-- The call is an `add_route` whose pattern the full router accepts and the
partial router refuses. -/
def HalfAccepted (statics : MergeRouters m) (call : RouteCall) : Prop :=
  ∃ pattern fullMergeHandler partialMergeHandler,
    call = .addRoute pattern fullMergeHandler partialMergeHandler ∧
      (m.insert pattern fullMergeHandler statics.fullMergeRouter).1 = .ok () ∧
      ∃ e, (m.insert pattern partialMergeHandler
        statics.partialMergeRouter).1 = .error e

/-- An insertion that succeeds adds the pattern: no path was matched by it
before, some path is afterwards. -/
structure Matchit.Registers {T : Type} (m : Matchit T) : Prop where
  unregistered : ∀ pattern value table, (m.insert pattern value table).1 = .ok () →
    ∀ path, ∀ found ∈ m.at_ table path, found.pattern ≠ pattern
  selected : ∀ pattern value table, (m.insert pattern value table).1 = .ok () →
    ∃ path, ∃ found ∈ m.at_ (m.insert pattern value table).2 path,
      found.pattern = pattern

/-- A router that is a function of the patterns inserted so far: whether it
accepts another one, and which of them a path selects, with its parameters. -/
def Matchit.ofPatterns (T : Type)
    (accepts : List String → String → Except String Unit)
    (selects : List String → String → Option (Nat × Params)) : Matchit T where
  Table := List (String × T)
  new := []
  insert route value := fun table =>
    match accepts (table.map Prod.fst) route with
    | .ok () => (.ok (), table ++ [(route, value)])
    | .error e => (.error e, table)
  at_ table path := do
    let (index, params) ← selects (table.map Prod.fst) path
    let (pattern, value) ← table[index]?
    return ⟨pattern, value, params⟩
  insert_refused route value table e refused := by
    revert refused
    cases accepts (table.map Prod.fst) route with
    | ok _ =>
        intro refused
        cases refused
    | error _ => exact fun _ => rfl

/-- A registration through `add_route`. -/
structure Registration where
  builder : Nat
  pattern : String
  fullMergeHandler : MergeRouteHandlerFn
  partialMergeHandler : MergeRouteHandlerFn

/-- The call it makes. -/
def Registration.step (registration : Registration) : Nat × RouteCall :=
  (registration.builder, .addRoute registration.pattern
    registration.fullMergeHandler registration.partialMergeHandler)

/-- The two merge functions run the handlers of one registration on the key, with
the same parameters, or both the default merge. -/
inductive InStep (statics : MergeRouters m) (history : List Registration)
    (keyBytes : Bytes) : Prop where
  | routed (registration : Registration) (params : Params)
      (registered : registration ∈ history)
      (fullSelects : dispatch m statics.fullMergeRouter keyBytes =
        some ⟨registration.pattern, registration.fullMergeHandler, params⟩)
      (partialSelects : dispatch m statics.partialMergeRouter keyBytes =
        some ⟨registration.pattern, registration.partialMergeHandler, params⟩)
      (runs : ∀ existingValOpt operands,
        routerFullMergeFn (m.router statics.fullMergeRouter) keyBytes
            existingValOpt operands =
          registration.fullMergeHandler keyBytes existingValOpt operands
            params ∧
        routerPartialMergeFn (m.router statics.partialMergeRouter) keyBytes
            existingValOpt operands =
          registration.partialMergeHandler keyBytes existingValOpt operands
            params)
  | unrouted
      (fullSelects : dispatch m statics.fullMergeRouter keyBytes = none)
      (partialSelects : dispatch m statics.partialMergeRouter keyBytes = none)
      (runs : ∀ existingValOpt operands,
        routerFullMergeFn (m.router statics.fullMergeRouter) keyBytes
            existingValOpt operands =
          defaultFullMerge keyBytes existingValOpt operands ∧
        routerPartialMergeFn (m.router statics.partialMergeRouter) keyBytes
            existingValOpt operands =
          defaultPartialMerge keyBytes existingValOpt operands)

end RockSolid
