/-
Module: RockSolid.Proofs.MergeRouting
Layer: Proofs
Purpose: A registration that fails changes no dispatch, unless it is an
  `add_route` whose pattern only the partial router refuses; and when routes are
  registered with `add_route` alone, full and partial merges stay in step.
Trusted boundary: none
Main exports: routerFullMergeFn_dispatch, routerPartialMergeFn_dispatch,
  failsAtomically_iff, registrations_collect, addRoute_inStep
-/
import RockSolid.Semantics.KeyIdentity
import RockSolid.Semantics.MergeRouting

namespace RockSolid

open Foundation

section Dispatch

variable (m : Matchit MergeRouteHandlerFn) (table : m.Table) (keyBytes : Bytes)
  (existingValOpt : Option Bytes) (operands : List Bytes)

/-- The full merge runs the handler of the selected route. -/
theorem routerFullMergeFn_dispatch :
    routerFullMergeFn (m.router table) keyBytes existingValOpt operands =
      match dispatch m table keyBytes with
      | some found => found.value keyBytes existingValOpt operands found.params
      | none => defaultFullMerge keyBytes existingValOpt operands := by
  rw [routerFullMergeFn, dispatch]
  cases fromUtf8 keyBytes with
  | none => rfl
  | some keyStr =>
      simp only [Matchit.router, Option.bind_some]
      cases m.at_ table keyStr <;> rfl

/-- So does the partial merge. -/
theorem routerPartialMergeFn_dispatch :
    routerPartialMergeFn (m.router table) keyBytes existingValOpt operands =
      match dispatch m table keyBytes with
      | some found => found.value keyBytes existingValOpt operands found.params
      | none => defaultPartialMerge keyBytes existingValOpt operands := by
  rw [routerPartialMergeFn, dispatch]
  cases fromUtf8 keyBytes with
  | none => rfl
  | some keyStr =>
      simp only [Matchit.router, Option.bind_some]
      cases m.at_ table keyStr <;> rfl

end Dispatch

section Failures

variable {m : Matchit MergeRouteHandlerFn}

theorem SameDispatch.refl (statics : MergeRouters m) :
    SameDispatch statics statics :=
  fun _ => ⟨rfl, rfl⟩

/-- An insertion that fails changes no dispatch. -/
theorem dispatch_of_refused {T : Type} {m : Matchit T} {route : String}
    {value : T} {table : m.Table} {e : String}
    (refused : (m.insert route value table).1 = .error e) (keyBytes : Bytes) :
    dispatch m (m.insert route value table).2 keyBytes =
      dispatch m table keyBytes := by
  rw [dispatch, m.insert_refused route value table e refused, dispatch]

/-- An insertion that succeeds changes the dispatch of a key. -/
theorem exists_dispatch_ne (registers : m.Registers) {route : String}
    {value : MergeRouteHandlerFn} {table : m.Table}
    (accepted : (m.insert route value table).1 = .ok ()) :
    ∃ keyBytes, dispatch m (m.insert route value table).2 keyBytes ≠
      dispatch m table keyBytes := by
  obtain ⟨path, found, selected, named⟩ :=
    registers.selected route value table accepted
  refine ⟨AsBytes.asBytes path, ?_⟩
  intro same
  rw [dispatch, dispatch, fromUtf8_asBytes, Option.bind_some, Option.bind_some,
    Option.mem_def.mp selected] at same
  exact registers.unregistered route value table accepted path found same.symm
    named

variable (pattern : String) (fullMergeHandler partialMergeHandler :
  MergeRouteHandlerFn) (scope : BuilderScope m)

/-- A one-sided method returns `Ok` when its router accepts the pattern, and
leaves the other router alone. -/
theorem addFullMergeRoute_returns :
    ((MergeRouterBuilder.addFullMergeRoute pattern fullMergeHandler scope).1 =
        .ok () ↔
      (m.insert pattern fullMergeHandler scope.statics.fullMergeRouter).1 =
        .ok ()) ∧
      (MergeRouterBuilder.addFullMergeRoute pattern fullMergeHandler
          scope).2.statics =
        ⟨(m.insert pattern fullMergeHandler scope.statics.fullMergeRouter).2,
          scope.statics.partialMergeRouter⟩ := by
  rw [MergeRouterBuilder.addFullMergeRoute]
  rcases m.insert pattern fullMergeHandler scope.statics.fullMergeRouter with
    ⟨e | _, table⟩
  · exact ⟨iff_of_false nofun nofun, rfl⟩
  · exact ⟨iff_of_true rfl rfl, rfl⟩

theorem addPartialMergeRoute_returns :
    ((MergeRouterBuilder.addPartialMergeRoute pattern partialMergeHandler
        scope).1 = .ok () ↔
      (m.insert pattern partialMergeHandler
        scope.statics.partialMergeRouter).1 = .ok ()) ∧
      (MergeRouterBuilder.addPartialMergeRoute pattern partialMergeHandler
          scope).2.statics =
        ⟨scope.statics.fullMergeRouter,
          (m.insert pattern partialMergeHandler
            scope.statics.partialMergeRouter).2⟩ := by
  rw [MergeRouterBuilder.addPartialMergeRoute]
  rcases m.insert pattern partialMergeHandler
    scope.statics.partialMergeRouter with ⟨e | _, table⟩
  · exact ⟨iff_of_false nofun nofun, rfl⟩
  · exact ⟨iff_of_true rfl rfl, rfl⟩

/-- `add_route` stops at the full router, or goes on to the partial one, whose
answer it returns. -/
theorem addRoute_cases :
    (∃ e, (m.insert pattern fullMergeHandler
          scope.statics.fullMergeRouter).1 = .error e ∧
        (MergeRouterBuilder.addRoute pattern fullMergeHandler
          partialMergeHandler scope).1 ≠ .ok () ∧
        (MergeRouterBuilder.addRoute pattern fullMergeHandler
            partialMergeHandler scope).2.statics =
          ⟨(m.insert pattern fullMergeHandler
              scope.statics.fullMergeRouter).2,
            scope.statics.partialMergeRouter⟩) ∨
      (m.insert pattern fullMergeHandler scope.statics.fullMergeRouter).1 =
          .ok () ∧
        ((MergeRouterBuilder.addRoute pattern fullMergeHandler
            partialMergeHandler scope).1 = .ok () ↔
          (m.insert pattern partialMergeHandler
            scope.statics.partialMergeRouter).1 = .ok ()) ∧
        (MergeRouterBuilder.addRoute pattern fullMergeHandler
            partialMergeHandler scope).2.statics =
          ⟨(m.insert pattern fullMergeHandler
              scope.statics.fullMergeRouter).2,
            (m.insert pattern partialMergeHandler
              scope.statics.partialMergeRouter).2⟩ := by
  obtain ⟨returns, statics⟩ :=
    addFullMergeRoute_returns pattern fullMergeHandler scope
  rw [MergeRouterBuilder.addRoute, Method.bind_apply]
  rcases done : MergeRouterBuilder.addFullMergeRoute pattern fullMergeHandler
    scope with ⟨e | _, middle⟩
  · rw [done] at returns statics
    left
    cases refused : (m.insert pattern fullMergeHandler
      scope.statics.fullMergeRouter).1 with
    | ok _ => cases returns.mpr refused
    | error e => exact ⟨e, rfl, nofun, statics⟩
  · rw [done] at returns statics
    have thenPartial :=
      addPartialMergeRoute_returns pattern partialMergeHandler middle
    change middle.statics = _ at statics
    rw [statics] at thenPartial
    exact .inr ⟨returns.mp rfl, thenPartial⟩

end Failures

section Atomicity

variable {m : Matchit MergeRouteHandlerFn}

/-- What a call of a builder returns and leaves in the routers is what it does
to the scope of that builder. -/
theorem Registry.call_eq (registry : Registry m) (step : Nat × RouteCall) :
    let scope : BuilderScope m :=
      ⟨registry.builders step.1, registry.statics⟩
    (registry.call step).1 = (step.2.onBuilder scope).1 ∧
      (registry.call step).2.statics = (step.2.onBuilder scope).2.statics :=
  ⟨rfl, rfl⟩

theorem exists_error_of_ne_ok {ε : Type} {result : Except ε Unit}
    (failed : result ≠ .ok ()) : ∃ e, result = .error e := by
  cases result with
  | ok _ => exact absurd rfl failed
  | error e => exact ⟨e, rfl⟩

/-- A call that fails leaves every dispatch as it was, unless its pattern is
accepted by the full router and then refused by the partial one. -/
theorem RouteCall.sameDispatch_of_failed {call : RouteCall}
    {scope : BuilderScope m} (failed : (call.onBuilder scope).1 ≠ .ok ())
    (whole : ¬ HalfAccepted scope.statics call) :
    SameDispatch scope.statics (call.onBuilder scope).2.statics := by
  intro keyBytes
  cases call with
  | addFullMergeRoute pattern handler =>
      obtain ⟨returns, statics⟩ :=
        addFullMergeRoute_returns pattern handler scope
      obtain ⟨e, refused⟩ := exists_error_of_ne_ok (failed ∘ returns.mpr)
      rw [onBuilder, statics]
      exact ⟨dispatch_of_refused refused keyBytes, rfl⟩
  | addPartialMergeRoute pattern handler =>
      obtain ⟨returns, statics⟩ :=
        addPartialMergeRoute_returns pattern handler scope
      obtain ⟨e, refused⟩ := exists_error_of_ne_ok (failed ∘ returns.mpr)
      rw [onBuilder, statics]
      exact ⟨rfl, dispatch_of_refused refused keyBytes⟩
  | addRoute pattern fullMergeHandler partialMergeHandler =>
      rw [onBuilder]
      rcases addRoute_cases pattern fullMergeHandler partialMergeHandler scope
        with ⟨e, refused, _, statics⟩ | ⟨accepted, returns, _⟩
      · rw [statics]
        exact ⟨dispatch_of_refused refused keyBytes, rfl⟩
      · exact absurd ⟨pattern, fullMergeHandler, partialMergeHandler, rfl,
          accepted, exists_error_of_ne_ok (failed ∘ returns.mpr)⟩ whole

theorem failsAtomically_of_not_halfAccepted {registry : Registry m}
    {step : Nat × RouteCall}
    (whole : ¬ HalfAccepted registry.statics step.2) :
    FailsAtomically registry step := by
  intro e failed
  obtain ⟨sameResult, sameStatics⟩ := registry.call_eq step
  rw [sameStatics]
  apply RouteCall.sameDispatch_of_failed _ whole
  rw [← sameResult, failed]
  exact nofun

/-- In that case it fails, and the full router has a new route. -/
theorem not_failsAtomically_of_halfAccepted (registers : m.Registers)
    {registry : Registry m} {step : Nat × RouteCall}
    (half : HalfAccepted registry.statics step.2) :
    ¬ FailsAtomically registry step := by
  obtain ⟨pattern, fullMergeHandler, partialMergeHandler, same, accepted, e,
    refused⟩ := half
  intro atomic
  obtain ⟨sameResult, sameStatics⟩ := registry.call_eq step
  rw [same] at sameResult sameStatics
  rcases addRoute_cases pattern fullMergeHandler partialMergeHandler
    ⟨registry.builders step.1, registry.statics⟩ with
    ⟨other, stopped, _⟩ | ⟨_, returns, statics⟩
  · rw [accepted] at stopped
    cases stopped
  · have notOk : (registry.call step).1 ≠ .ok () := by
      intro succeeded
      rw [sameResult] at succeeded
      cases refused.symm.trans (returns.mp succeeded)
    obtain ⟨failure, failed⟩ := exists_error_of_ne_ok notOk
    obtain ⟨keyBytes, differs⟩ := exists_dispatch_ne registers accepted
    have unchanged := (atomic failure failed keyBytes).1
    rw [sameStatics, RouteCall.onBuilder, statics] at unchanged
    exact differs unchanged

/-- After any history of registrations, a further call fails atomically exactly
when it is not an `add_route` whose pattern the full router accepts and the
partial router refuses. -/
theorem failsAtomically_iff (registers : m.Registers)
    (history : List (Nat × RouteCall)) (step : Nat × RouteCall) :
    FailsAtomically (Registry.after (m := m) history) step ↔
      ¬ HalfAccepted (Registry.after (m := m) history).statics step.2 := by
  constructor
  · intro atomic half
    exact not_failsAtomically_of_halfAccepted registers half atomic
  · exact failsAtomically_of_not_halfAccepted

end Atomicity

section Patterns

variable {T : Type} {accepts : List String → String → Except String Unit}
  {selects : List String → String → Option (Nat × Params)}
  {table : List (String × T)} {path : String}

/-- What such a router answers for a path. -/
theorem ofPatterns_at_eq_some_iff {found : Match T} :
    (Matchit.ofPatterns T accepts selects).at_ table path = some found ↔
      ∃ index, selects (table.map Prod.fst) path = some (index, found.params) ∧
        table[index]? = some (found.pattern, found.value) := by
  obtain ⟨pattern, value, params⟩ := found
  change ((selects (table.map Prod.fst) path).bind fun selected =>
    (table[selected.1]?).bind fun route =>
      some (⟨route.1, route.2, selected.2⟩ : Match T)) = _ ↔ _
  rw [Option.bind_eq_some_iff]
  constructor
  · rintro ⟨⟨index, selectedParams⟩, selected, read⟩
    obtain ⟨⟨routePattern, routeValue⟩, entry, same⟩ :=
      Option.bind_eq_some_iff.mp read
    cases same
    exact ⟨index, selected, entry⟩
  · rintro ⟨index, selected, entry⟩
    refine ⟨(index, params), selected, ?_⟩
    rw [entry, Option.bind_some]

end Patterns

/-- A router of routes without parameters: a route is refused when it is there
already, and matches its own text. -/
def staticRoutes : Matchit MergeRouteHandlerFn :=
  .ofPatterns MergeRouteHandlerFn
    (fun patterns route =>
      if route ∈ patterns then
        .error s!"Insertion failed due to conflict with previously registered route: {route}"
      else .ok ())
    (fun patterns path => (patterns.idxOf? path).map fun index => (index, []))

/-- Insertion and look-up in the table of static routes. -/
theorem staticRoutes_accepts {route : String} {value : MergeRouteHandlerFn}
    {table : List (String × MergeRouteHandlerFn)}
    (accepted : (staticRoutes.insert route value table).1 = .ok ()) :
    route ∉ table.map Prod.fst ∧
      (staticRoutes.insert route value table).2 = table ++ [(route, value)] := by
  by_cases present : route ∈ table.map Prod.fst
  · simp [staticRoutes, Matchit.ofPatterns, present] at accepted
  · simp [staticRoutes, Matchit.ofPatterns, present]

theorem idxOf?_concat_of_not_mem {patterns : List String} {route : String}
    (absent : route ∉ patterns) :
    (patterns ++ [route]).idxOf? route = some patterns.length := by
  induction patterns with
  | nil => simp
  | cons pattern patterns inductionHypothesis =>
      rw [List.mem_cons, not_or] at absent
      have differs : (pattern == route) = false := by simp [Ne.symm absent.1]
      rw [List.cons_append, List.idxOf?_cons, differs,
        inductionHypothesis absent.2]
      rfl

/-- A route added to the table is selected by its own text. -/
theorem staticRoutes_selects {route : String} {value : MergeRouteHandlerFn}
    {table : List (String × MergeRouteHandlerFn)}
    (absent : route ∉ table.map Prod.fst) :
    (⟨route, value, []⟩ : Match MergeRouteHandlerFn) ∈
      staticRoutes.at_ (table ++ [(route, value)] :
        List (String × MergeRouteHandlerFn)) route := by
  have own := idxOf?_concat_of_not_mem absent
  apply ofPatterns_at_eq_some_iff.mpr
  refine ⟨table.length, ?_, List.getElem?_concat_length⟩
  rw [List.length_map] at own
  rw [List.map_append, List.map_singleton, own, Option.map_some]

theorem staticRoutes_registers : staticRoutes.Registers := by
  constructor
  · rintro route value table accepted path found selected rfl
    obtain ⟨absent, _⟩ := staticRoutes_accepts accepted
    obtain ⟨index, _, entry⟩ := ofPatterns_at_eq_some_iff.mp selected
    exact absent (List.mem_map.mpr ⟨_, List.mem_of_getElem? entry, rfl⟩)
  · intro route value table accepted
    obtain ⟨absent, grown⟩ := staticRoutes_accepts accepted
    refine ⟨route, ⟨route, value, []⟩, ?_, rfl⟩
    rw [grown]
    exact staticRoutes_selects absent

/-- A second `add_route` with a pattern fails at the full router. -/
theorem failsAtomically_repeated :
    let handler : MergeRouteHandlerFn := fun _ _ _ _ => some []
    FailsAtomically
      (Registry.after (m := staticRoutes) [(0, .addRoute "a" handler handler)])
      (1, .addRoute "a" handler handler) := by
  intro handler
  apply (failsAtomically_iff staticRoutes_registers _ _).mpr
  intro half
  obtain ⟨pattern, fullMergeHandler, partialMergeHandler, same, accepted, _⟩ :=
    half
  cases same
  have refused : (staticRoutes.insert "a" handler
      (Registry.after (m := staticRoutes)
        [(0, .addRoute "a" handler handler)]).statics.fullMergeRouter).1 =
      .error "Insertion failed due to conflict with previously registered route: a" :=
    rfl
  cases refused.symm.trans accepted

/-- The pattern has a partial merge already: `add_route` returns an error, but
from then on full merges of the key are routed. -/
theorem addRoute_leaves_fullRoute :
    let handler : MergeRouteHandlerFn := fun _ _ _ _ => some []
    let before := Registry.after (m := staticRoutes)
      [(0, .addPartialMergeRoute "a" handler)]
    let step : Nat × RouteCall := (0, .addRoute "a" handler handler)
    (before.call step).1 = .error (.invalidConfiguration
        "Invalid partial merge route pattern 'a': Insertion failed due to conflict with previously registered route: a") ∧
      dispatch staticRoutes before.statics.fullMergeRouter
        (AsBytes.asBytes "a") = none ∧
      dispatch staticRoutes (before.call step).2.statics.fullMergeRouter
        (AsBytes.asBytes "a") = some ⟨"a", handler, []⟩ ∧
      ¬ FailsAtomically before step := by
  intro handler before step
  have unrouted : dispatch staticRoutes before.statics.fullMergeRouter
      (AsBytes.asBytes "a") = none := by
    rw [dispatch, fromUtf8_asBytes]
    rfl
  have routed : dispatch staticRoutes
      (before.call step).2.statics.fullMergeRouter (AsBytes.asBytes "a") =
        some ⟨"a", handler, []⟩ := by
    rw [dispatch, fromUtf8_asBytes]
    rfl
  refine ⟨by decide +kernel, unrouted, routed, ?_⟩
  intro atomic
  have unchanged := (atomic _ rfl (AsBytes.asBytes "a")).1
  rw [routed, unrouted] at unchanged
  cases unchanged

section InStep

variable {accepts : List String → String → Except String Unit}
  {selects : List String → String → Option (Nat × Params)}

/-- The routes of the two tables, side by side. -/
def sideBySide (full part : List (String × MergeRouteHandlerFn)) :
    List (String × MergeRouteHandlerFn × MergeRouteHandlerFn) :=
  List.zipWith (fun route other => (route.1, route.2, other.2)) full part

theorem sideBySide_concat {full part : List (String × MergeRouteHandlerFn)}
    (sameLength : full.length = part.length) (pattern : String)
    (fullMergeHandler partialMergeHandler : MergeRouteHandlerFn) :
    sideBySide (full ++ [(pattern, fullMergeHandler)])
        (part ++ [(pattern, partialMergeHandler)]) =
      sideBySide full part ++
        [(pattern, fullMergeHandler, partialMergeHandler)] :=
  List.zipWith_append sameLength

theorem ofPatterns_insert_of_ok {route : String} {value : MergeRouteHandlerFn}
    {table : List (String × MergeRouteHandlerFn)}
    (accepted : accepts (table.map Prod.fst) route = .ok ()) :
    (Matchit.ofPatterns _ accepts selects).insert route value table =
      (.ok (), (table ++ [(route, value)] :
        List (String × MergeRouteHandlerFn))) := by
  simp [Matchit.ofPatterns, accepted]

theorem ofPatterns_insert_of_error {route : String} {value : MergeRouteHandlerFn}
    {table : List (String × MergeRouteHandlerFn)} {e : String}
    (refused : accepts (table.map Prod.fst) route = .error e) :
    (Matchit.ofPatterns _ accepts selects).insert route value table =
      (.error e, table) := by
  simp [Matchit.ofPatterns, refused]

section Step

variable (selects : List String → String → Option (Nat × Params))
  {full : List (String × MergeRouteHandlerFn)}
  (part : List (String × MergeRouteHandlerFn))
  (builders : Nat → MergeRouterBuilder) (registration : Registration)

/-- An `add_route` whose pattern is accepted adds both handlers. -/
theorem addRoute_of_accepted
    (samePatterns : full.map Prod.fst = part.map Prod.fst)
    (accepted : accepts (full.map Prod.fst) registration.pattern = .ok ()) :
    let registry : Registry (.ofPatterns _ accepts selects) :=
      ⟨builders, ⟨full, part⟩⟩
    (registry.call registration.step).1 = .ok () ∧
      (registry.call registration.step).2.statics =
        ⟨full ++ [(registration.pattern, registration.fullMergeHandler)],
          part ++ [(registration.pattern,
            registration.partialMergeHandler)]⟩ := by
  intro registry
  have fullInserts : (Matchit.ofPatterns _ accepts selects).insert
      registration.pattern registration.fullMergeHandler full = _ :=
    ofPatterns_insert_of_ok accepted
  rw [samePatterns] at accepted
  have partInserts : (Matchit.ofPatterns _ accepts selects).insert
      registration.pattern registration.partialMergeHandler part = _ :=
    ofPatterns_insert_of_ok accepted
  obtain ⟨sameResult, sameStatics⟩ := registry.call_eq registration.step
  rcases addRoute_cases registration.pattern registration.fullMergeHandler
    registration.partialMergeHandler
    ⟨registry.builders registration.builder, registry.statics⟩ with
    ⟨e, refused, _⟩ | ⟨_, returns, statics⟩
  · cases (congrArg Prod.fst fullInserts).symm.trans refused
  · constructor
    · exact sameResult.trans (returns.mpr (congrArg Prod.fst partInserts))
    · refine sameStatics.trans (statics.trans ?_)
      exact congrArg₂ MergeRouters.mk (congrArg Prod.snd fullInserts)
        (congrArg Prod.snd partInserts)

/-- One whose pattern is refused stops at the full router. -/
theorem addRoute_of_refused {e : String}
    (refused : accepts (full.map Prod.fst) registration.pattern = .error e) :
    let registry : Registry (.ofPatterns _ accepts selects) :=
      ⟨builders, ⟨full, part⟩⟩
    (registry.call registration.step).1 ≠ .ok () ∧
      (registry.call registration.step).2.statics = ⟨full, part⟩ := by
  intro registry
  have fullInserts : (Matchit.ofPatterns _ accepts selects).insert
      registration.pattern registration.fullMergeHandler full = _ :=
    ofPatterns_insert_of_error refused
  obtain ⟨sameResult, sameStatics⟩ := registry.call_eq registration.step
  rcases addRoute_cases registration.pattern registration.fullMergeHandler
    registration.partialMergeHandler
    ⟨registry.builders registration.builder, registry.statics⟩ with
    ⟨_, _, stopped, statics⟩ | ⟨accepted, _⟩
  · constructor
    · rw [sameResult]
      exact stopped
    · refine sameStatics.trans (statics.trans ?_)
      exact congrArg (MergeRouters.mk · _) (congrArg Prod.snd fullInserts)
  · cases (congrArg Prod.fst fullInserts).symm.trans accepted

end Step

variable (accepts selects) in
/-- The routers hold the same patterns in the same order. -/
def SamePatterns
    (registry : Registry (.ofPatterns MergeRouteHandlerFn accepts selects)) :
    Prop :=
  registry.statics.fullMergeRouter.map Prod.fst =
    registry.statics.partialMergeRouter.map Prod.fst

/-- The registered handlers, side by side. -/
def routesOf
    (registry : Registry (.ofPatterns MergeRouteHandlerFn accepts selects)) :
    List (String × MergeRouteHandlerFn × MergeRouteHandlerFn) :=
  sideBySide registry.statics.fullMergeRouter
    registry.statics.partialMergeRouter

/-- What a registration adds if it returns `Ok`. -/
def Registration.route (registration : Registration) :
    StoreResult (String × MergeRouteHandlerFn × MergeRouteHandlerFn) :=
  .ok (registration.pattern, registration.fullMergeHandler,
    registration.partialMergeHandler)

/-- Routers with the same patterns accept the same ones: an `add_route` adds both
handlers or none. -/
theorem registrations_collect :
    Collects (fun registration : Registration => Registry.call registration.step)
      Registration.route (SamePatterns accepts selects) routesOf := by
  intro registry registration samePatterns
  obtain ⟨builders, ⟨(full : List (String × MergeRouteHandlerFn)),
    (part : List (String × MergeRouteHandlerFn))⟩⟩ := registry
  change full.map Prod.fst = part.map Prod.fst at samePatterns
  have sameLength : full.length = part.length := by
    have mapped := congrArg List.length samePatterns
    rwa [List.length_map, List.length_map] at mapped
  simp only [SamePatterns, routesOf]
  cases answer : accepts (full.map Prod.fst) registration.pattern with
  | error e =>
      obtain ⟨stopped, statics⟩ :=
        addRoute_of_refused selects part builders registration answer
      obtain ⟨failure, failed⟩ := exists_error_of_ne_ok stopped
      rw [statics]
      exact ⟨samePatterns, .inr ⟨failure, failed, rfl⟩⟩
  | ok _ =>
      obtain ⟨returned, statics⟩ := addRoute_of_accepted selects part builders
        registration samePatterns answer
      rw [statics]
      constructor
      · change (full ++ [_]).map Prod.fst = (part ++ [_]).map Prod.fst
        rw [List.map_append, List.map_append, samePatterns]
        rfl
      · exact .inl ⟨_, rfl, returned, sideBySide_concat sameLength _ _ _⟩

/-- Equal patterns side by side: an index leads to both handlers of one route, or
to none. -/
theorem sideBySide_getElem? {full part : List (String × MergeRouteHandlerFn)}
    (samePatterns : full.map Prod.fst = part.map Prod.fst) (index : Nat) :
    (∃ pattern fullMergeHandler partialMergeHandler,
        full[index]? = some (pattern, fullMergeHandler) ∧
        part[index]? = some (pattern, partialMergeHandler) ∧
        (pattern, fullMergeHandler, partialMergeHandler) ∈
          sideBySide full part) ∨
      full[index]? = none ∧ part[index]? = none := by
  have sameEntry := congrArg (fun patterns => patterns[index]?) samePatterns
  simp only [List.getElem?_map] at sameEntry
  cases fullEntry : full[index]? with
  | none =>
      rw [fullEntry] at sameEntry
      exact .inr ⟨rfl, Option.map_eq_none_iff.mp sameEntry.symm⟩
  | some route =>
      rw [fullEntry, Option.map_some] at sameEntry
      obtain ⟨other, partEntry, samePattern⟩ :=
        Option.map_eq_some_iff.mp sameEntry.symm
      obtain ⟨pattern, fullMergeHandler⟩ := route
      obtain ⟨otherPattern, partialMergeHandler⟩ := other
      change otherPattern = pattern at samePattern
      subst samePattern
      have beside : (sideBySide full part)[index]? =
          some (otherPattern, fullMergeHandler, partialMergeHandler) := by
        rw [sideBySide, List.getElem?_zipWith, fullEntry, partEntry]
      exact .inl ⟨_, _, _, rfl, partEntry, List.mem_of_getElem? beside⟩

variable (accepts selects) in
/-- Routers with the same patterns select routes that are side by side. -/
theorem dispatch_sideBySide {full part : List (String × MergeRouteHandlerFn)}
    (samePatterns : full.map Prod.fst = part.map Prod.fst) (keyBytes : Bytes) :
    (∃ pattern fullMergeHandler partialMergeHandler params,
        dispatch (.ofPatterns _ accepts selects) full keyBytes =
          some ⟨pattern, fullMergeHandler, params⟩ ∧
        dispatch (.ofPatterns _ accepts selects) part keyBytes =
          some ⟨pattern, partialMergeHandler, params⟩ ∧
        (pattern, fullMergeHandler, partialMergeHandler) ∈
          sideBySide full part) ∨
      dispatch (.ofPatterns _ accepts selects) full keyBytes = none ∧
        dispatch (.ofPatterns _ accepts selects) part keyBytes = none := by
  simp only [dispatch]
  cases fromUtf8 keyBytes with
  | none => exact .inr ⟨rfl, rfl⟩
  | some path =>
      simp only [Option.bind_some, Matchit.ofPatterns, ← samePatterns]
      cases selects (full.map Prod.fst) path with
      | none => exact .inr ⟨rfl, rfl⟩
      | some selected =>
          obtain ⟨index, params⟩ := selected
          rcases sideBySide_getElem? samePatterns index with
            ⟨pattern, fullMergeHandler, partialMergeHandler, fullEntry,
              partEntry, beside⟩ | ⟨fullEntry, partEntry⟩
          · refine .inl ⟨pattern, fullMergeHandler, partialMergeHandler, params,
              ?_, ?_, beside⟩
            · simp [fullEntry]
            · simp [partEntry]
          · right
            simp [fullEntry, partEntry]

variable (accepts selects) in
/-- Routes registered through `add_route` alone, by any builders and with any of
the calls failing: on every key the full and the partial merge run the two
handlers of one registration, with the same parameters, or both the default. -/
theorem addRoute_inStep (history : List Registration) (keyBytes : Bytes) :
    InStep (Registry.after (m := .ofPatterns _ accepts selects)
      (history.map Registration.step)).statics history keyBytes := by
  have sameRun : Registry.after (m := .ofPatterns _ accepts selects)
      (history.map Registration.step) =
        runCalls (fun registration : Registration =>
          Registry.call registration.step) Registry.start history :=
    List.foldl_map
  have fresh : SamePatterns accepts selects Registry.start := rfl
  obtain ⟨samePatterns, collected⟩ :=
    registrations_collect.run fresh history
  rw [← sameRun] at samePatterns collected
  generalize Registry.after (history.map Registration.step) = registry
    at samePatterns collected
  rcases dispatch_sideBySide accepts selects samePatterns keyBytes with
    ⟨pattern, fullMergeHandler, partialMergeHandler, params, fullSelects,
      partialSelects, beside⟩ | ⟨fullSelects, partialSelects⟩
  · change _ ∈ routesOf registry at beside
    rw [collected] at beside
    obtain ⟨registration, registered, asked⟩ := asked_of_mem_accepted beside
    cases asked
    apply InStep.routed registration params registered fullSelects
      partialSelects
    intro existingValOpt operands
    rw [routerFullMergeFn_dispatch, routerPartialMergeFn_dispatch, fullSelects,
      partialSelects]
    exact ⟨rfl, rfl⟩
  · apply InStep.unrouted fullSelects partialSelects
    intro existingValOpt operands
    rw [routerFullMergeFn_dispatch, routerPartialMergeFn_dispatch, fullSelects,
      partialSelects]
    exact ⟨rfl, rfl⟩

end InStep

end RockSolid
