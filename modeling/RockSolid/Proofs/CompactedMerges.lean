/-
Module: RockSolid.Proofs.CompactedMerges
Layer: Proofs
Purpose: Merge functions that agree with each other: whatever merging the engine
  does by itself, no call of a store can tell.  The default merges agree, and so
  do the functions of the router when the handlers of each registration do.
Trusted boundary: none
Main exports: sameAnswers_of_sameReads, mergeRun_sameReads,
  defaultMerges_consistent, routedMerges_unobservable
-/
import RockSolid.Proofs.ClientPrograms
import RockSolid.Proofs.DefaultMerge
import RockSolid.Proofs.ExpiredValues
import RockSolid.Proofs.MergeRouting
import RockSolid.Proofs.MultiGet
import RockSolid.Semantics.CompactedMerges

namespace RockSolid

open Foundation

section Answers

variable {access : CfAccess} {cfName : String} {first second : ByteDb}

/-- A look-up that succeeds finds the family of the name. -/
def CfAccess.NamesFamily (access : CfAccess) (cfName : String) : Prop :=
  ∀ cf, access.family cfName = .ok cf → cf = cfName

variable (named : access.NamesFamily cfName)
  (same : SameReads access.db cfName first second)

include named same

theorem CfAccess.read_of_sameReads (fault : Option Fault) (keyBytes : Bytes) :
    access.read cfName first fault keyBytes =
      access.read cfName second fault keyBytes := by
  rw [CfAccess.read, CfAccess.read]
  cases found : access.family cfName with
  | error e => rfl
  | ok cf =>
      rw [named cf found]
      simp only [bind, Except.bind, same keyBytes]

theorem multiRead_of_sameReads {K α : Type} [AsBytes K] (keys : List K)
    (faults : Bytes → Option Fault)
    (convert : List (Except RocksError (Option Bytes)) →
      StoreResult (List α)) :
    multiRead access cfName keys first faults convert =
      multiRead access cfName keys second faults convert := by
  have reads : ∀ key, access.db.read first ⟨cfName, key⟩ =
      access.db.read second ⟨cfName, key⟩ := same
  rw [multiRead, multiRead]
  cases found : access.family cfName with
  | error e => rfl
  | ok cf =>
      rw [named cf found]
      simp only [bind, Except.bind, DbHandle.multiGet, reads]

theorem iterate_of_sameReads {K S T OutK OutV : Type} [AsBytes K]
    (config : IterConfig K S T OutK OutV) (fault : Option Fault)
    (about : config.cfName = cfName) :
    CFOperations.iterate access first fault config =
      CFOperations.iterate access second fault config := by
  rw [CFOperations.iterate, CFOperations.iterate, iterateWith_eq,
    iterateWith_eq, about]
  cases found : access.family cfName with
  | error e => rfl
  | ok cf =>
      rw [named cf found]
      simp only [DbHandle.iterator_of_sameReads same]

omit named same

/-- What a store answers about a family depends on the reads of its keys only. -/
theorem sameAnswers_of_sameReads {store : Store}
    (same : SameReads store.access.db (store.asked cfName) first second) :
    SameAnswers store cfName first second := by
  have named : store.access.NamesFamily (store.asked cfName) :=
    fun _ => Store.family_ok
  constructor
  case get =>
    intro K V _ _ key fault
    rw [Store.get_eq_read, Store.get_eq_read,
      CfAccess.read_of_sameReads named same]
  case getRaw =>
    intro K _ key fault
    rw [Store.getRaw_eq_read, Store.getRaw_eq_read,
      CfAccess.read_of_sameReads named same]
  case getWithExpiry =>
    intro K V _ key fault
    rw [Store.getWithExpiry_eq_read, Store.getWithExpiry_eq_read,
      CfAccess.read_of_sameReads named same]
  case «exists» =>
    intro K _ key fault
    rw [Store.exists_eq_read, Store.exists_eq_read,
      CfAccess.read_of_sameReads named same]
  case multiget =>
    intro K V _ _ keys faults
    rw [Store.multiget_eq, Store.multiget_eq,
      multiRead_of_sameReads named same]
  case multigetRaw =>
    intro K _ keys faults
    rw [Store.multigetRaw_eq, Store.multigetRaw_eq,
      multiRead_of_sameReads named same]
  case multigetWithExpiry =>
    intro K V _ keys faults
    rw [Store.multigetWithExpiry_eq, Store.multigetWithExpiry_eq,
      Store.multigetRaw_eq, Store.multigetRaw_eq,
      multiRead_of_sameReads named same]
  case iterate =>
    intro K S T OutK OutV _ config fault about
    exact iterate_of_sameReads named same config fault about
  case findByPrefix =>
    intro K V _ _ _ prefixKey direction fault
    rw [Store.findByPrefix_eq, Store.findByPrefix_eq, CFOperations.findByPrefix,
      CFOperations.findByPrefix, iterate_of_sameReads named same _ fault rfl]
  case findFrom =>
    intro K V S _ _ _ startKey direction controlFn captured fault
    rw [Store.findFrom_eq, Store.findFrom_eq, CFOperations.findFrom,
      CFOperations.findFrom, iterate_of_sameReads named same _ fault rfl]
  case findByPrefixWithExpireVal =>
    intro K V S _ _ prefixKey reverse controlFn captured fault
    rw [Store.findByPrefixWithExpireVal_eq, Store.findByPrefixWithExpireVal_eq,
      CFOperations.findByPrefixWithExpireVal,
      CFOperations.findByPrefixWithExpireVal,
      iterate_of_sameReads named same _ fault rfl]
  case findFromWithExpireVal =>
    intro K V S _ _ start reverse controlFn captured fault
    rw [Store.findFromWithExpireVal_eq, Store.findFromWithExpireVal_eq,
      CFOperations.findFromWithExpireVal, CFOperations.findFromWithExpireVal,
      iterate_of_sameReads named same _ fault rfl]

end Answers

section Merges

variable {db : DbHandle} {at_ : CfKey}

/-- The records read alike, and go on to do so whatever is merged into both. -/
def ReadAlike (db : DbHandle) (at_ : CfKey) (first second : Record) : Prop :=
  ∀ more, db.readRecord at_ ⟨first.base, first.operands ++ more⟩ =
    db.readRecord at_ ⟨second.base, second.operands ++ more⟩

/-- A read of a record with operands depends on their merge. -/
theorem DbHandle.readRecord_congr {base other : Option Bytes}
    {operands others : List Bytes} (nonempty : operands ≠ [])
    (otherNonempty : others ≠ [])
    (sameMerge : db.fullMerge at_.cf at_.key base operands =
      db.fullMerge at_.cf at_.key other others) :
    db.readRecord at_ ⟨base, operands⟩ = db.readRecord at_ ⟨other, others⟩ := by
  cases operands with
  | nil => exact absurd rfl nonempty
  | cons operand operands =>
      cases others with
      | nil => exact absurd rfl otherNonempty
      | cons single others =>
          rw [readRecord, readRecord]
          simp only [sameMerge]

/-- A write leaves records that read alike so. -/
theorem ReadAlike.write {first second : Record}
    (alike : ReadAlike db at_ first second) (op : WriteOp) :
    ReadAlike db at_ (op.effect first) (op.effect second) := by
  cases op with
  | put target value => exact fun _ => rfl
  | delete target => exact fun _ => rfl
  | merge target operand =>
      intro more
      simp only [WriteOp.effect, List.append_assoc]
      exact alike ([operand] ++ more)

variable {partialMergeFn : MergeFn}
  (consistent : MergesConsistently at_.key (db.fullMerge at_.cf) partialMergeFn)

include consistent

/-- Merging all operands is not noticed. -/
theorem readAlike_fullMerge (record : Record) :
    ReadAlike db at_
      ((RecordWork.fullMerge (db.fullMerge at_.cf)).effect at_.key record)
      record := by
  obtain ⟨base, operands⟩ := record
  cases operands with
  | nil => exact fun _ => rfl
  | cons operand operands =>
      rw [RecordWork.effect]
      simp only
      cases merged : db.fullMerge at_.cf at_.key base (operand :: operands) with
      | none => exact fun _ => rfl
      | some value =>
          intro more
          by_cases none : more = []
          · subst none
            simp only [List.append_nil, DbHandle.readRecord, merged]
          · have nonempty : operand :: operands ≠ [] := List.cons_ne_nil _ _
            apply DbHandle.readRecord_congr none
            · exact List.append_ne_nil_of_left_ne_nil nonempty _
            · exact (consistent.collapse base (operand :: operands) value more
                nonempty none merged).symm

/-- Nor is merging some of them. -/
theorem readAlike_partialMerge (start count : Nat) (record : Record) :
    ReadAlike db at_
      ((RecordWork.partialMerge partialMergeFn start count).effect at_.key record)
      record := by
  obtain ⟨base, operands⟩ := record
  intro more
  simp only [RecordWork.effect, partiallyMerged]
  split
  · rfl
  · next long =>
      split
      · next merged result =>
          have whole : operands ++ more = operands.take start ++
              ((operands.drop start).take count ++
                ((operands.drop start).drop count ++ more)) := by
            rw [← List.append_assoc (List.take count _), List.take_append_drop,
              ← List.append_assoc, List.take_append_drop]
          have same := consistent.combine base (operands.take start)
            ((operands.drop start).take count) merged
            ((operands.drop start).drop count ++ more) (Nat.le_of_not_lt long)
            result
          rw [← whole] at same
          rw [List.append_assoc, List.cons_append]
          apply DbHandle.readRecord_congr _ _ same.symm
          · simp
          · intro empty
            rw [List.append_eq_nil_iff] at empty
            apply long
            rw [empty.1, List.drop_nil, List.take_nil]
            exact Nat.zero_lt_two
      · rfl

end Merges

section Runs

variable {db : DbHandle} {partialMerge : String → MergeFn} {data : ByteDb}

theorem filter_mergeEngine_eq_writes (fullMerge partialMerge : String → MergeFn)
    (steps : List MergeStep) :
    ((steps.map (MergeStep.engine fullMerge partialMerge)).filter
        fun step => !step.isCompaction) =
      (steps.filterMap MergeStep.op).map .write := by
  induction steps with
  | nil => rfl
  | cons step steps inductionHypothesis =>
      cases step with
      | write op =>
          exact congrArg (EngineStep.write op :: ·) inductionHypothesis
      | mergeAll at_ => exact inductionHypothesis
      | mergeSome at_ start count => exact inductionHypothesis

/-- When the merge functions of a family agree with each other, its keys read as
after the writes alone, whatever the engine has merged by itself. -/
theorem mergeRun_sameReads {cf : String}
    (consistent : ∀ key,
      MergesConsistently key (db.fullMerge cf) (partialMerge cf))
    (steps : List MergeStep) :
    SameReads db cf (mergeRun db.fullMerge partialMerge data steps)
      (data.applyAll (steps.filterMap MergeStep.op)) := by
  intro key
  have start : ReadAlike db ⟨cf, key⟩ (data.record ⟨cf, key⟩)
    (data.record ⟨cf, key⟩) := fun _ => rfl
  have each : ∀ step ∈ steps.map (MergeStep.engine db.fullMerge partialMerge),
      KeyedStore.SilentStep CompactedDb EngineStep.isCompaction
        (ReadAlike db ⟨cf, key⟩) ⟨cf, key⟩ step := by
    rw [List.forall_mem_map]
    intro step _
    cases step with
    | write op =>
        exact ⟨fun _ _ first second alike => alike.write op, nofun⟩
    | mergeAll worked =>
        refine ⟨nofun, ?_⟩
        intro _ hit first second alike more
        have here : worked = ⟨cf, key⟩ := hit
        subst here
        exact (readAlike_fullMerge (consistent key) first more).trans
          (alike more)
    | mergeSome worked start count =>
        refine ⟨nofun, ?_⟩
        intro _ hit first second alike more
        have here : worked = ⟨cf, key⟩ := hit
        subst here
        exact (readAlike_partialMerge (consistent key) start count first
          more).trans (alike more)
  have related := KeyedStore.cell_run_related (CompactedDb.mk data)
    (CompactedDb.mk data) each start
  rw [filter_mergeEngine_eq_writes, CompactedDb.applyBatch_writes] at related
  have alike := related []
  rw [List.append_nil, List.append_nil] at alike
  exact alike

end Runs

/-- The default merges agree with each other: there is no partial merge. -/
theorem defaultMerges_consistent (key : Bytes) :
    MergesConsistently key defaultFullMerge defaultPartialMerge := by
  constructor
  · intro base operands value more nonempty _ merged
    have inParts := defaultFullMerge_foldl key base [operands, more]
    rw [List.foldl_cons, List.foldl_cons, List.foldl_nil, merged,
      List.flatten_cons, List.flatten_singleton] at inParts
    exact inParts.symm
  · intro base before block merged after _ result
    cases result

/-- Agreement at a key concerns what the functions do with that key. -/
theorem MergesConsistently.congr {key : Bytes}
    {fullMergeFn partialMergeFn otherFull otherPartial : MergeFn}
    (consistent : MergesConsistently key fullMergeFn partialMergeFn)
    (sameFull : otherFull key = fullMergeFn key)
    (samePartial : otherPartial key = partialMergeFn key) :
    MergesConsistently key otherFull otherPartial := by
  constructor
  · rw [sameFull]
    exact consistent.collapse
  · rw [sameFull, samePartial]
    exact consistent.combine

section Routed

variable (accepts : List String → String → Except String Unit)
  (selects : List String → String → Option (Nat × Params))

/-- On each key the functions of the router are the two handlers of one registration,
with the same parameters, or both the default. -/
theorem routedMerges_at (history : List Registration) (key : Bytes) :
    (∃ registration ∈ history, ∃ params : Params,
      (routedFullMerge accepts selects history key = fun existingVal operands =>
        registration.fullMergeHandler key existingVal operands params) ∧
      routedPartialMerge accepts selects history key =
        fun existingVal operands =>
          registration.partialMergeHandler key existingVal operands params) ∨
    (routedFullMerge accepts selects history key = defaultFullMerge key ∧
      routedPartialMerge accepts selects history key =
        defaultPartialMerge key) := by
  have sameRun : Registry.after (m := .ofPatterns _ accepts selects)
      (history.map Registration.step) =
        runCalls (fun registration : Registration =>
          Registry.call registration.step) Registry.start history :=
    List.foldl_map
  have fresh : SamePatterns accepts selects Registry.start := rfl
  obtain ⟨samePatterns, collected⟩ :=
    registrations_collect.run fresh history
  rw [← sameRun] at samePatterns collected
  simp only [routedFullMerge, routedPartialMerge, routersAfter]
  generalize Registry.after (history.map Registration.step) = registry
    at samePatterns collected
  rcases dispatch_sideBySide accepts selects samePatterns key with
    ⟨pattern, fullMergeHandler, partialMergeHandler, params, fullSelects,
      partialSelects, beside⟩ | ⟨fullSelects, partialSelects⟩
  · change _ ∈ routesOf registry at beside
    rw [collected] at beside
    obtain ⟨registration, registered, asked⟩ := asked_of_mem_accepted beside
    cases asked
    refine .inl ⟨registration, registered, params, ?_, ?_⟩
    · funext existingVal operands
      rw [routerFullMergeFn_dispatch, fullSelects]
    · funext existingVal operands
      rw [routerPartialMergeFn_dispatch, partialSelects]
  · refine .inr ⟨?_, ?_⟩
    · funext existingVal operands
      rw [routerFullMergeFn_dispatch, fullSelects]
    · funext existingVal operands
      rw [routerPartialMergeFn_dispatch, partialSelects]

/-- When the two handlers of each registration agree with each other, so do the
functions of the router. -/
theorem routedMerges_consistent {history : List Registration}
    (consistent : ∀ registration ∈ history, registration.MergesConsistently)
    (key : Bytes) :
    MergesConsistently key (routedFullMerge accepts selects history)
      (routedPartialMerge accepts selects history) := by
  rcases routedMerges_at accepts selects history key with
    ⟨registration, registered, params, sameFull, samePartial⟩ |
      ⟨sameFull, samePartial⟩
  · exact (consistent registration registered key params).congr sameFull
      samePartial
  · exact (defaultMerges_consistent key).congr sameFull samePartial

/-- A family whose merge operator is the router, its routes registered through
`add_route` with handlers that agree with each other: after any writes, with
compactions merging any operands of any keys at any time, every store answers
every call as if nothing had been merged in between. -/
theorem routedMerges_unobservable (history : List Registration)
    (consistent : ∀ registration ∈ history, registration.MergesConsistently)
    (store : Store) (cfName : String) (partialMerge : String → MergeFn)
    (routesFull : store.access.db.fullMerge (store.asked cfName) =
      routedFullMerge accepts selects history)
    (routesPartial : partialMerge (store.asked cfName) =
      routedPartialMerge accepts selects history)
    (data : ByteDb) (steps : List MergeStep) :
    SameAnswers store cfName
      (mergeRun store.access.db.fullMerge partialMerge data steps)
      (data.applyAll (steps.filterMap MergeStep.op)) := by
  apply sameAnswers_of_sameReads
  apply mergeRun_sameReads
  rw [routesFull, routesPartial]
  exact routedMerges_consistent accepts selects consistent

end Routed

/-- Handlers that append the operands to the value. -/
def appendOperands : Registration where
  builder := 0
  pattern := "/log"
  fullMergeHandler key existingVal operands _params :=
    defaultFullMerge key existingVal operands
  partialMergeHandler _key _existingVal operands _params :=
    some operands.flatten

theorem appendOperands_consistent : appendOperands.MergesConsistently := by
  intro key params
  constructor
  · exact (defaultMerges_consistent key).collapse
  · intro base before block merged after _ result
    have flat : merged = block.flatten := (Option.some.inj result).symm
    simp only [appendOperands, defaultFullMerge_eq, flat]
    rw [if_neg, if_neg]
    · simp
    · simp
    · next long =>
        intro nothing
        rw [List.append_eq_nil_iff, List.append_eq_nil_iff] at nothing
        rw [nothing.2.2.1] at long
        exact absurd long (by decide)

/-- Two operands of one key, merged into each other before they are read. -/
theorem routedMerges_unobservable_append :
    let accepts : List String → String → Except String Unit := fun _ _ => .ok ()
    let selects : List String → String → Option (Nat × Params) :=
      fun patterns path => (patterns.idxOf? path).map fun index => (index, [])
    let routed := routedFullMerge accepts selects [appendOperands]
    let partiallyRouted := routedPartialMerge accepts selects [appendOperands]
    let store : Store := .cfStore ⟨["default"], fun _ => routed⟩
    let log : CfKey := ⟨"default", AsBytes.asBytes "/log"⟩
    SameAnswers store "default"
      (mergeRun (fun _ => routed) (fun _ => partiallyRouted) Db.empty
        [.write (.merge log [1]), .write (.merge log [2]), .mergeSome log 0 2])
      (Db.applyAll Db.empty [.merge log [1], .merge log [2]]) := by
  intro accepts selects routed partiallyRouted store log
  apply routedMerges_unobservable accepts selects [appendOperands] _ store
    "default" (fun _ => partiallyRouted) rfl rfl Db.empty
    [.write (.merge log [1]), .write (.merge log [2]), .mergeSome log 0 2]
  intro registration member
  rw [List.mem_singleton.mp member]
  exact appendOperands_consistent

end RockSolid
