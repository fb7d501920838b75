/-
Module: RockSolid.Proofs.CompactionFilter
Layer: Proofs
Purpose: The binary router runs the handler last registered under the longest
  registered prefix of a key; and in every run only a handler registered for a key
  changes its value outside the writes of the clients.
Trusted boundary: none
Main exports: routerCompactionFilterFn_dispatch, FilteredDb.get_binaryRouter,
  binaryRouterFn_runs_longest, FilteredDb.run_record, filters_change_only_routed
-/
import RockSolid.Semantics.CompactionFilter

namespace RockSolid

open Foundation

section Dispatch

variable {m : Matchit CompactionFilterRouteHandlerFn}
  {r : RadixMap BinaryCompactionFilterHandlerFn}
  (filters : String → Option (InstalledFilter m r))

/-- The path router runs the handler of the selected route. -/
theorem routerCompactionFilterFn_dispatch (table : m.Table) (level : UInt32)
    (keyBytes valueBytes : Bytes) :
    routerCompactionFilterFn (m.router table) level keyBytes valueBytes =
      (dispatch m table keyBytes).elim .keep fun found =>
        found.value level keyBytes valueBytes found.params := by
  rw [routerCompactionFilterFn, dispatch]
  cases fromUtf8 keyBytes with
  | none => rfl
  | some keyStr =>
      simp only [Matchit.router, Option.bind_some]
      cases m.at_ table keyStr <;> rfl

theorem FilteredDb.reached_concat (data : ByteDb) (steps : List FilterStep)
    (step : FilterStep) :
    reached filters data (steps ++ [step]) =
      (reached filters data steps).step filters step := by
  rw [reached, run, List.foldl_append]
  rfl

theorem prefixRoutes_concat (steps : List FilterStep) (step : FilterStep) :
    prefixRoutes (steps ++ [step]) =
      prefixRoutes steps ++ step.prefixRoute.toList := by
  rw [prefixRoutes, List.filterMap_append, prefixRoutes]
  cases registered : step.prefixRoute <;> simp [registered]

theorem registered_of_prefixRoute {step : FilterStep} {pre : Bytes}
    {handler : BinaryCompactionFilterHandlerFn}
    (route : step.prefixRoute = some (pre, handler)) :
    ∃ builder, step = .register (.addPrefixRoute builder pre handler) := by
  rcases step with (⟨builder, pattern, given⟩ | ⟨builder, other, given⟩) |
    op | ⟨level, at_⟩
  · cases route
  · cases route
    exact ⟨builder, rfl⟩
  · cases route
  · cases route

/-- The binary router holds what was registered last under each prefix. -/
theorem FilteredDb.get_binaryRouter (data : ByteDb) (steps : List FilterStep) :
    r.get (reached filters data
      steps).registry.statics.binaryCompactionFilterRouter =
        lastEntry (prefixRoutes steps) := by
  induction steps using List.reverseRecOn with
  | nil =>
      funext key
      exact r.get_new key
  | append_singleton steps step inductionHypothesis =>
      rw [reached_concat, prefixRoutes_concat]
      have idle := inductionHypothesis.trans
        (congrArg lastEntry (List.append_nil (prefixRoutes steps)).symm)
      rcases step with (⟨builder, pattern, handler⟩ | ⟨builder, pre, handler⟩) |
        op | ⟨level, at_⟩
      · exact idle
      · funext key
        change r.get (r.insert pre handler _) key =
          lastEntry (prefixRoutes steps ++ [(pre, handler)]) key
        rw [r.get_insert, inductionHypothesis, lastEntry_concat]
      · exact idle
      · exact idle

/-- So it finds the longest registered prefix of a key. -/
theorem FilteredDb.longest_binaryRouter (data : ByteDb)
    (steps : List FilterStep) (key : Bytes) :
    IsLongestPrefix (lastEntry (prefixRoutes steps)) key
      (r.getLongestCommonPrefix (reached filters data
        steps).registry.statics.binaryCompactionFilterRouter key) := by
  rw [← get_binaryRouter filters data steps]
  exact r.isLongest _ key

/-- And runs the handler found there. -/
theorem FilteredDb.binaryFilter_reached (data : ByteDb)
    (steps : List FilterStep) (level : UInt32) (key value : Bytes) :
    (reached filters data steps).binaryFilter level key value =
      (longestPrefix (lastEntry (prefixRoutes steps)) key).elim .keep
        fun found => found.2 level key value := by
  rw [← (longest_binaryRouter filters data steps key).unique
    (longestPrefix_isLongest _ key), binaryFilter, binaryRouterFn]
  cases r.getLongestCommonPrefix _ key <;> rfl

/-- After any steps, registrations on any builders among them, the binary router
runs on a key the handler that was registered last under the longest registered
prefix of the key, and keeps the value if there is none.  Nothing else of the
steps matters, nor the order in which different prefixes were registered. -/
theorem binaryRouterFn_runs_longest (data : ByteDb) (steps : List FilterStep)
    (level : UInt32) (key value : Bytes) :
    (FilteredDb.reached filters data steps).binaryFilter level key value =
        (longestPrefix (lastEntry (prefixRoutes steps)) key).elim .keep
          (fun found => found.2 level key value) ∧
      ∀ (others : List FilterStep) (otherData : ByteDb)
        (otherFilters : String → Option (InstalledFilter m r)),
        (∀ pre, ((prefixRoutes others).filter fun given => given.1 = pre) =
          (prefixRoutes steps).filter fun given => given.1 = pre) →
        (FilteredDb.reached otherFilters otherData others).binaryFilter level key
            value =
          (FilteredDb.reached filters data steps).binaryFilter level key
            value := by
  refine ⟨FilteredDb.binaryFilter_reached filters data steps level key value, ?_⟩
  intro others otherData otherFilters sameOrder
  have sameEntries : lastEntry (prefixRoutes others) =
      lastEntry (prefixRoutes steps) := by
    funext pre
    exact lastEntry_congr (sameOrder pre)
  rw [FilteredDb.binaryFilter_reached, FilteredDb.binaryFilter_reached,
    sameEntries]

end Dispatch

section Changes

variable {accepts : List String → String → Except String Unit}
  {selects : List String → String → Option (Nat × Params)}
  {r : RadixMap BinaryCompactionFilterHandlerFn}
  (filters : String →
    Option (InstalledFilter (.ofPatterns _ accepts selects) r))

/-- What the path router holds. -/
def FilteredDb.pathRoutes (db : FilteredDb (.ofPatterns _ accepts selects) r) :
    List (String × CompactionFilterRouteHandlerFn) :=
  db.registry.statics.compactionFilterRouter

/-- A registration adds at most its own route. -/
theorem FilteredDb.mem_pathRoutes_addRoute
    {db : FilteredDb (.ofPatterns _ accepts selects) r} {builder : Nat}
    {pattern : String} {handler : CompactionFilterRouteHandlerFn}
    {route : String × CompactionFilterRouteHandlerFn}
    (held : route ∈ (db.step filters
      (.register (.addRoute builder pattern handler))).pathRoutes) :
    route ∈ db.pathRoutes ∨ route = (pattern, handler) := by
  obtain ⟨⟨routerBuilders, binaryBuilders,
    ⟨(table : List (String × CompactionFilterRouteHandlerFn)), binaryTable⟩⟩,
    store⟩ := db
  simp only [pathRoutes, step, FilterRegistry.call, Method.zoom,
    CompactionFilterRouterBuilder.addRoute, Matchit.ofPatterns] at held ⊢
  cases answer : accepts (table.map Prod.fst) pattern with
  | error e =>
      rw [answer] at held
      exact .inl held
  | ok _ =>
      rw [answer] at held
      rcases List.mem_append.mp held with before | added
      · exact .inl before
      · exact .inr (List.mem_singleton.mp added)

/-- What the path router holds was registered. -/
theorem FilteredDb.registered_of_mem (data : ByteDb) (steps : List FilterStep)
    {pattern : String} {handler : CompactionFilterRouteHandlerFn}
    (held : (pattern, handler) ∈ (reached filters data steps).pathRoutes) :
    ∃ builder, .register (.addRoute builder pattern handler) ∈ steps := by
  induction steps using List.reverseRecOn with
  | nil => cases held
  | append_singleton steps step inductionHypothesis =>
      rw [reached_concat] at held
      have earlier : (pattern, handler) ∈
          (reached filters data steps).pathRoutes →
          ∃ builder, .register (.addRoute builder pattern handler) ∈
            steps ++ [step] := by
        intro before
        obtain ⟨builder, member⟩ := inductionHypothesis before
        exact ⟨builder, List.mem_append_left _ member⟩
      rcases step with (⟨builder, other, given⟩ | ⟨builder, pre, given⟩) |
        op | ⟨level, at_⟩
      · rcases mem_pathRoutes_addRoute filters held with before | added
        · exact earlier before
        · cases added
          exact ⟨builder, List.mem_append_right _ (List.mem_singleton_self _)⟩
      · exact earlier held
      · exact earlier held
      · exact earlier held

/-- A route the path router selects is one it holds. -/
theorem FilteredDb.held_of_dispatch
    {db : FilteredDb (.ofPatterns _ accepts selects) r} {key : Bytes}
    {found : Match CompactionFilterRouteHandlerFn}
    (selected : dispatch _ db.registry.statics.compactionFilterRouter key =
      some found) : (found.pattern, found.value) ∈ db.pathRoutes := by
  obtain ⟨path, _, matched⟩ := Option.bind_eq_some_iff.mp selected
  obtain ⟨⟨index, params⟩, _, chosen⟩ := Option.bind_eq_some_iff.mp matched
  obtain ⟨⟨pattern, value⟩, entry, answer⟩ := Option.bind_eq_some_iff.mp chosen
  cases answer
  exact List.mem_of_getElem? entry

/-- The filter of a built configuration is one of the two routers. -/
theorem InstalledFilter.filterFnPtr_eq {m : Matchit CompactionFilterRouteHandlerFn}
    {r : RadixMap BinaryCompactionFilterHandlerFn}
    (installed : InstalledFilter m r) (statics : FilterRouters m r) :
    installed.config.filterFnPtr statics =
        routerCompactionFilterFn (m.router statics.compactionFilterRouter) ∨
      installed.config.filterFnPtr statics =
        binaryRouterFn statics.binaryCompactionFilterRouter := by
  rcases installed.built with ⟨builder, made⟩ | ⟨builder, made⟩
  · rw [CompactionFilterRouterBuilder.build] at made
    cases named : builder.operatorName with
    | none =>
        rw [named] at made
        cases made
    | some name =>
        rw [named, Except.ok.injEq] at made
        exact .inl (congrArg (fun config => config.filterFnPtr statics) made.symm)
  · rw [BinaryCompactionFilterBuilder.build] at made
    cases named : builder.operatorName with
    | none =>
        rw [named] at made
        cases made
    | some name =>
        rw [named, Except.ok.injEq] at made
        exact .inr (congrArg (fun config => config.filterFnPtr statics) made.symm)

/-- A decision that does not keep the value is that of a handler registered for
the key. -/
theorem FilteredDb.decidedBy_of_ne_keep (data : ByteDb) (steps : List FilterStep)
    {level : UInt32} {at_ : CfKey} {value : Bytes}
    (changed : filterDecision filters
      (reached filters data steps).registry.statics level at_ value ≠ .keep) :
    DecidedBy (reached filters data steps).registry.statics steps level
      at_.key value (filterDecision filters
        (reached filters data steps).registry.statics level at_ value) := by
  have longest := longest_binaryRouter filters data steps at_.key
  have registered : ∀ found : Match CompactionFilterRouteHandlerFn,
      (found.pattern, found.value) ∈ (reached filters data steps).pathRoutes →
        ∃ builder, .register
          (.addRoute builder found.pattern found.value) ∈ steps := by
    intro found held
    exact registered_of_mem filters data steps held
  generalize reached filters data steps = db at *
  rw [filterDecision] at changed ⊢
  cases installed : filters at_.cf with
  | none =>
      rw [installed] at changed
      exact absurd rfl changed
  | some filter =>
      rw [installed] at changed
      simp only at changed ⊢
      rcases filter.filterFnPtr_eq db.registry.statics with acts | acts
      · rw [acts, routerCompactionFilterFn_dispatch] at changed ⊢
        cases selected : dispatch _ db.registry.statics.compactionFilterRouter
          at_.key with
        | none =>
            rw [selected] at changed
            exact absurd rfl changed
        | some found =>
            obtain ⟨builder, member⟩ :=
              registered found (held_of_dispatch selected)
            exact .pattern builder found.pattern found.value found.params member
              selected rfl
      · rw [acts, binaryRouterFn] at changed ⊢
        cases selected : r.getLongestCommonPrefix
          db.registry.statics.binaryCompactionFilterRouter at_.key with
        | none =>
            rw [selected] at changed
            exact absurd rfl changed
        | some found =>
            obtain ⟨pre, handler⟩ := found
            rw [selected] at longest
            obtain ⟨step, member, route⟩ := List.mem_filterMap.mp
              (mem_of_lastEntry longest.2.1)
            obtain ⟨builder, rfl⟩ := registered_of_prefixRoute route
            exact .bytePrefix builder pre handler member longest rfl

/-- Handing the value of a record to a filter that keeps it changes nothing. -/
theorem filterValue_of_keep {decide : Bytes → Decision} {record : Record}
    (keeps : ∀ value, record.base = some value → decide value = .keep)
    (key : Bytes) :
    (RecordWork.filterValue fun value =>
      (decide value).outcome value).effect key record = record := by
  obtain ⟨base, operands⟩ := record
  cases base with
  | none => rfl
  | some value =>
      simp only [RecordWork.effect, Option.bind_some, keeps value rfl,
        Decision.outcome]

section Runs

variable {m : Matchit CompactionFilterRouteHandlerFn}
  {r : RadixMap BinaryCompactionFilterHandlerFn}
  (filters : String → Option (InstalledFilter m r))

/-- After the steps the record of the key is that of the other contents after the
writes of the clients, or some compaction came to the key and its filter did not
keep the value. -/
def FilteredDb.RecordExplained (at_ : CfKey) (db : FilteredDb m r)
    (data : ByteDb) (steps : List FilterStep) : Prop :=
  (db.run filters steps).store.data.record at_ =
      (data.applyAll (steps.filterMap FilterStep.op)).record at_ ∨
    ∃ before level rest value,
      steps = before ++ .compact level at_ :: rest ∧
        ((db.run filters before).store.data.record at_).base = some value ∧
        filterDecision filters (db.run filters before).registry.statics level
          at_ value ≠ .keep

variable {filters}

theorem FilteredDb.RecordExplained.cons {at_ : CfKey} {db : FilteredDb m r}
    {data next : ByteDb} {step : FilterStep} {steps : List FilterStep}
    (writes : next.applyAll (steps.filterMap FilterStep.op) =
      data.applyAll ((step :: steps).filterMap FilterStep.op))
    (onward : RecordExplained filters at_ (db.step filters step) next steps) :
    RecordExplained filters at_ db data (step :: steps) := by
  rcases onward with plain | ⟨before, level, rest, value, split, stored, changed⟩
  · rw [writes] at plain
    exact .inl plain
  · refine .inr ⟨step :: before, level, rest, value, ?_, stored, changed⟩
    rw [split, List.cons_append]

/-- Every run from equal records explains the record it leaves. -/
theorem FilteredDb.run_record (at_ : CfKey) (steps : List FilterStep)
    (db : FilteredDb m r) (data : ByteDb)
    (same : db.store.data.record at_ = data.record at_) :
    RecordExplained filters at_ db data steps := by
  induction steps generalizing db data with
  | nil => exact .inl same
  | cons step steps inductionHypothesis =>
      cases step with
      | register call =>
          exact .cons rfl (inductionHypothesis _ data same)
      | write op =>
          refine .cons rfl (inductionHypothesis _ (data.apply op) ?_)
          change (db.store.data.apply op).record at_ = _
          rw [Db.record_apply, Db.record_apply, same]
      | compact level worked =>
          by_cases here : worked = at_
          · subst here
            by_cases keeps : ∀ value,
                (db.store.data.record worked).base = some value →
                filterDecision filters db.registry.statics level worked value =
                  .keep
            · refine .cons rfl (inductionHypothesis _ data ?_)
              refine (CompactedDb.record_compact_self _ worked _).trans ?_
              rw [filterValue_of_keep keeps worked.key, same]
            · simp only [not_forall] at keeps
              obtain ⟨value, stored, changed⟩ := keeps
              exact .inr ⟨[], level, steps, value, rfl, stored, changed⟩
          · refine .cons rfl (inductionHypothesis _ data ?_)
            exact (CompactedDb.record_compact_of_ne _ here _).trans same

end Runs

/-- Over any run of registrations, writes and compactions, every decision not to
keep a value is that of a handler registered for the key before; and the record of
a key is what the writes of the clients alone make of it, unless a compaction came
to the key and there was such a decision about its value. -/
theorem filters_change_only_routed (data : ByteDb) (steps : List FilterStep) :
    (∀ before, before <+: steps → ∀ level at_ value,
      let statics := (FilteredDb.reached filters data before).registry.statics
      let decision := filterDecision filters statics level at_ value
      decision ≠ .keep →
        DecidedBy statics before level at_.key value decision) ∧
    ∀ at_,
      (FilteredDb.reached filters data steps).store.data.record at_ =
          (data.applyAll (steps.filterMap FilterStep.op)).record at_ ∨
        ∃ before level rest value,
          steps = before ++ .compact level at_ :: rest ∧
            ((FilteredDb.reached filters data before).store.data.record
              at_).base = some value ∧
            filterDecision filters
              (FilteredDb.reached filters data before).registry.statics level
              at_ value ≠ .keep := by
  constructor
  · intro before _ level at_ value statics decision changed
    exact FilteredDb.decidedBy_of_ne_keep filters data before changed
  · intro at_
    exact FilteredDb.run_record at_ steps (.start data) data rfl

end Changes

end RockSolid
