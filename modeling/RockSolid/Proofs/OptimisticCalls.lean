/-
Module: RockSolid.Proofs.OptimisticCalls
Layer: Proofs
Purpose: What one call of an optimistic context can do.  A staging call is at
  most one native write; a reading call adds uses to the native trace, and its
  answer depends only on what the context sees.
Trusted boundary: none
Main exports: OptimisticTransactionContext.staging_writes, reading_agree,
  reading_onlyReads
-/
import RockSolid.Proofs.StagingCalls

namespace RockSolid

open Foundation

namespace OptimisticTransactionContext

variable {operation : Option WriteOp} {fault : Option Fault}
  {f : Unit → CtxMethod Unit} {g : String → CtxMethod Unit} {cfName : String}

theorem afterCheck (rest : WritesOnly (stage · fault) operation (f ())) :
    WritesOnly (stage · fault) operation (checkCompleted >>= f) := by
  refine .after (fun self => ?_) fun _ _ _ => rest
  rw [checkCompleted]
  split <;> rfl

theorem afterHandle (rest : WritesOnly (stage · fault) operation (g cfName)) :
    WritesOnly (stage · fault) operation (getCfHandle cfName >>= g) := by
  refine .after (fun _ => rfl) fun handle self found => ?_
  have same : handle = cfName := getConfiguredCfHandle_ok found
  exact same ▸ rest

/-- A staging call fails and leaves the context as it was, or writes the
operation it names through the native transaction. -/
theorem staging_writes (call : StagingCall) (fault : Option Fault) :
    WritesOnly (stage · fault) call.operation (stagingCall fault call) := by
  cases call with
  | set keys codec key val =>
      refine afterCheck (.afterLift fun serKey keyed => ?_)
      cases keyed
      exact .afterLift fun serVal encoded => .done (operation_of_serialized encoded)
  | setRaw keys key rawVal =>
      refine afterCheck (.afterLift fun serKey keyed => ?_)
      cases keyed
      exact .done rfl
  | setWithExpiry keys codec key val expireTime =>
      refine afterCheck (.afterLift fun serKey keyed => ?_)
      cases keyed
      exact .afterLift fun vwe encoded => .done (operation_of_expiring encoded)
  | merge keys codec key mergeValue =>
      refine afterCheck (.afterLift fun serKey keyed => ?_)
      cases keyed
      exact .afterLift fun serOp encoded => .done (operation_of_serialized encoded)
  | mergeRaw keys key rawMergeOp =>
      refine afterCheck (.afterLift fun serKey keyed => ?_)
      cases keyed
      exact .done rfl
  | delete keys key =>
      refine afterCheck (.afterLift fun serKey keyed => ?_)
      cases keyed
      exact .done rfl
  | putCf keys codec cfName key val =>
      refine afterCheck (afterHandle (.afterLift fun serKey keyed => ?_))
      cases keyed
      exact .afterLift fun serVal encoded => .done (operation_of_serialized encoded)
  | putCfRaw keys cfName key rawVal =>
      refine afterCheck (afterHandle (.afterLift fun serKey keyed => ?_))
      cases keyed
      exact .done rfl
  | putCfWithExpiry keys codec cfName key val expireTime =>
      refine afterCheck (.afterLift fun vwe encoded => ?_)
      refine afterCheck (afterHandle (.afterLift fun serKey keyed => ?_))
      cases keyed
      exact .done (operation_of_expiring encoded)
  | mergeCf keys codec cfName key mergeValue =>
      refine afterCheck (afterHandle (.afterLift fun serKey keyed => ?_))
      cases keyed
      exact .afterLift fun serOp encoded => .done (operation_of_serialized encoded)
  | mergeCfRaw keys cfName key rawMergeOp =>
      refine afterCheck (afterHandle (.afterLift fun serKey keyed => ?_))
      cases keyed
      exact .done rfl
  | deleteCf keys cfName key =>
      refine afterCheck (afterHandle (.afterLift fun serKey keyed => ?_))
      cases keyed
      exact .done rfl

/-- Two contexts that no read can tell apart, each over its own contents. -/
structure SeesSame {cmps : String → Comparator} (data otherData : Db cmps)
    (first second : OptimisticTransactionContext) : Prop where
  store : first.store = second.store
  completed : first.completed = second.completed
  view : first.txn.view data = second.txn.view otherData

/-- What a reading call may change: it may add answered reads to the native
trace. -/
structure OnlyReads {cmps : String → Comparator} (data : Db cmps)
    (before after : OptimisticTransactionContext) : Prop where
  store : after.store = before.store
  completed : after.completed = before.completed
  txn : before.txn.Reads before.store.db data after.txn

instance {cmps : String → Comparator} (data : Db cmps) :
    IsPreorder OptimisticTransactionContext (OnlyReads data) where
  refl self := ⟨rfl, rfl, refl_of _ self.txn⟩
  trans first second _ earlier later := by
    have sameDb : second.store.db = first.store.db := by rw [earlier.store]
    exact ⟨later.store.trans earlier.store,
      later.completed.trans earlier.completed,
      trans_of _ earlier.txn (sameDb ▸ later.txn)⟩

section Readings

variable {cmps : String → Comparator} {data otherData : Db cmps}

theorem iterate_of_completed {K S T OutK OutV : Type} [AsBytes K]
    {config : IterConfig K S T OutK OutV} {fault : Option Fault}
    {self : OptimisticTransactionContext} (ended : self.completed = true) :
    iterate data fault config self =
      ((.error (.other
        "OptimisticTransactionContext already completed (committed or rolled back)"),
        config.captured), self) := by
  rw [iterate, checkCompleted_of_completed ended]

theorem iterate_of_running {K S T OutK OutV : Type} [AsBytes K]
    {config : IterConfig K S T OutK OutV} {fault : Option Fault}
    {self : OptimisticTransactionContext} (running : self.completed = false) :
    iterate data fault config self =
      (iterateWith self.store.access
        (fun cf mode => self.txn.iterator self.store.db data cf mode fault)
        config,
        { self with
          txn := self.txn.didAll (iteratorsOf self.store.access
            (fun cf mode => self.txn.iterator self.store.db data cf mode fault)
            config) }) := by
  rw [iterate, checkCompleted_of_running running]

theorem checkCompleted_agree :
    Method.Agree (SeesSame data otherData) checkCompleted checkCompleted := by
  intro s t related
  rw [checkCompleted, checkCompleted, related.completed]
  split <;> exact ⟨rfl, related⟩

theorem getCfHandle_agree (cfName : String) :
    Method.Agree (SeesSame data otherData) (getCfHandle cfName)
      (getCfHandle cfName) := by
  intro s t related
  exact ⟨by rw [getCfHandle, getCfHandle, related.store], related⟩

theorem read_agree (at_ : CfKey) (fault : Option Fault) :
    Method.Agree (SeesSame data otherData) (read data at_ fault)
      (read otherData at_ fault) := by
  rintro s t ⟨store, completed, view⟩
  refine ⟨?_, store, completed, view⟩
  simp only [read, onTxn, Method.zoom, native_apply, NativeTxn.get]
  rw [store, view]

theorem iterate_agree {K S T OutK OutV : Type} [AsBytes K]
    (config : IterConfig K S T OutK OutV) (fault : Option Fault)
    {s t : OptimisticTransactionContext}
    (related : SeesSame data otherData s t) :
    (iterate data fault config s).1 = (iterate otherData fault config t).1 ∧
      SeesSame data otherData (iterate data fault config s).2
        (iterate otherData fault config t).2 := by
  rcases related with ⟨store, completed, view⟩
  cases ended : t.completed with
  | true =>
      rw [iterate_of_completed (completed.trans ended),
        iterate_of_completed ended]
      exact ⟨rfl, store, completed, view⟩
  | false =>
      rw [iterate_of_running (completed.trans ended), iterate_of_running ended]
      refine ⟨?_, store, completed, view⟩
      simp only [NativeTxn.iterator, store, view]

/-- What a reading call returns depends on what the context sees and on nothing
else of its state. -/
theorem reading_agree {A : Type} (call : ReadingCall A) (fault : Option Fault)
    {s t : OptimisticTransactionContext}
    (related : SeesSame data otherData s t) :
    (readingCall data fault call s).1 = (readingCall otherData fault call t).1 ∧
      SeesSame data otherData (readingCall data fault call s).2
        (readingCall otherData fault call t).2 := by
  cases call with
  | get keys codec key =>
      refine checkCompleted_agree.bind (fun _ => (Method.Agree.lift _).bind
        fun serKey => (read_agree _ fault).bind fun found => ?_) s t related
      rcases found with _ | bytes
      · exact .lift (.ok none)
      · exact .mapLift some _
  | getRaw keys key =>
      exact checkCompleted_agree.bind (fun _ => (Method.Agree.lift _).bind
        fun serKey => read_agree _ fault) s t related
  | getWithExpiry V keys key =>
      refine (checkCompleted_agree.bind (fun _ => (Method.Agree.lift _).bind
        fun serKey => read_agree _ fault)).bind (fun found => ?_) s t related
      rcases found with _ | bytes
      · exact .lift (.ok none)
      · exact .mapLift some _
  | «exists» keys key =>
      exact checkCompleted_agree.bind (fun _ => (Method.Agree.lift _).bind
        fun serKey => (read_agree _ fault).bind fun found => .lift (.ok _))
        s t related
  | getCf keys codec cfName key =>
      refine checkCompleted_agree.bind (fun _ =>
        (getCfHandle_agree cfName).bind fun handle =>
          (Method.Agree.lift _).bind fun serKey =>
            (read_agree _ fault).bind fun found => ?_) s t related
      rcases found with _ | bytes
      · exact .lift (.ok none)
      · exact .mapLift some _
  | getCfRaw keys cfName key =>
      exact checkCompleted_agree.bind (fun _ =>
        (getCfHandle_agree cfName).bind fun handle =>
          (Method.Agree.lift _).bind fun serKey => read_agree _ fault)
        s t related
  | getCfWithExpiry V keys cfName key =>
      refine (checkCompleted_agree.bind (fun _ =>
        (getCfHandle_agree cfName).bind fun handle =>
          (Method.Agree.lift _).bind fun serKey => read_agree _ fault)).bind
            (fun found => ?_) s t related
      rcases found with _ | bytes
      · exact .lift (.ok none)
      · exact .mapLift some _
  | existsCf keys cfName key =>
      exact checkCompleted_agree.bind (fun _ =>
        (getCfHandle_agree cfName).bind fun handle =>
          (Method.Agree.lift _).bind fun serKey =>
            (read_agree _ fault).bind fun found => .lift (.ok _)) s t related
  | iterate keys config => exact iterate_agree config fault related
  | @findByPrefix K V keys decoder codec cfName prefixKey direction =>
      rcases iterate_agree
        (findByPrefixConfig (V := V) cfName prefixKey direction) fault related
        with ⟨same, after⟩
      exact ⟨by simp only [readingCall, findByPrefix, same], after⟩
  | @findFrom K V S keys decoder codec cfName startKey direction controlFn
      captured =>
      rcases iterate_agree
        (findFromConfig (V := V) cfName startKey direction controlFn captured)
        fault related with ⟨same, after⟩
      exact ⟨by simp only [readingCall, findFrom, same], after⟩
  | findFromWithExpireVal V keys decoder cfName start reverse controlFn
      captured =>
      rcases iterate_agree
        (findFromWithExpireValConfig (V := V) cfName start reverse controlFn
          captured) fault related with ⟨same, after⟩
      exact ⟨by simp only [readingCall, findFromWithExpireVal, same], after⟩

theorem checkCompleted_onlyReads :
    Method.Leaves (OnlyReads data) checkCompleted := by
  intro self
  rw [checkCompleted]
  split <;> exact refl_of _ self

theorem getCfHandle_onlyReads (cfName : String) :
    Method.Leaves (OnlyReads data) (getCfHandle cfName) :=
  fun self => refl_of _ self

theorem read_onlyReads (at_ : CfKey) (fault : Option Fault) :
    Method.Leaves (OnlyReads data) (read data at_ fault) :=
  fun self => ⟨rfl, rfl, .get self.store.db data at_ fault self.txn⟩

theorem iterate_onlyReads {K S T OutK OutV : Type} [AsBytes K]
    (config : IterConfig K S T OutK OutV) (fault : Option Fault)
    (self : OptimisticTransactionContext) :
    OnlyReads data self (iterate data fault config self).2 := by
  cases ended : self.completed with
  | true =>
      rw [iterate_of_completed ended]
      exact refl_of _ self
  | false =>
      rw [iterate_of_running ended]
      exact ⟨rfl, rfl, .didAll self.txn
        (iteratorsOf_answered self.store.access config data fault self.txn)⟩

/-- Reading calls only read. -/
theorem reading_onlyReads {A : Type} (data : Db cmps)
    (call : ReadingCall A) (fault : Option Fault)
    (self : OptimisticTransactionContext) :
    OnlyReads data self (readingCall data fault call self).2 := by
  cases call with
  | get keys codec key =>
      refine Method.Leaves.bind checkCompleted_onlyReads (fun _ =>
        .bind (.lift _) fun serKey =>
          .bind (read_onlyReads _ fault) fun found => ?_) self
      rcases found with _ | bytes
      · exact .lift (.ok none)
      · exact .mapLift some _
  | getRaw keys key =>
      exact Method.Leaves.bind checkCompleted_onlyReads (fun _ =>
        .bind (.lift _) fun serKey => read_onlyReads _ fault) self
  | getWithExpiry V keys key =>
      refine Method.Leaves.bind (.bind checkCompleted_onlyReads fun _ =>
        .bind (.lift _) fun serKey => read_onlyReads _ fault)
        (fun found => ?_) self
      rcases found with _ | bytes
      · exact .lift (.ok none)
      · exact .mapLift some _
  | «exists» keys key =>
      exact Method.Leaves.bind checkCompleted_onlyReads (fun _ =>
        .bind (.lift _) fun serKey =>
          .bind (read_onlyReads _ fault) fun found =>
            .lift (.ok _)) self
  | getCf keys codec cfName key =>
      refine Method.Leaves.bind checkCompleted_onlyReads (fun _ =>
        .bind (getCfHandle_onlyReads cfName) fun handle =>
          .bind (.lift _) fun serKey =>
            .bind (read_onlyReads _ fault) fun found => ?_) self
      rcases found with _ | bytes
      · exact .lift (.ok none)
      · exact .mapLift some _
  | getCfRaw keys cfName key =>
      exact Method.Leaves.bind checkCompleted_onlyReads (fun _ =>
        .bind (getCfHandle_onlyReads cfName) fun handle =>
          .bind (.lift _) fun serKey => read_onlyReads _ fault) self
  | getCfWithExpiry V keys cfName key =>
      refine Method.Leaves.bind (.bind checkCompleted_onlyReads fun _ =>
        .bind (getCfHandle_onlyReads cfName) fun handle =>
          .bind (.lift _) fun serKey => read_onlyReads _ fault)
        (fun found => ?_) self
      rcases found with _ | bytes
      · exact .lift (.ok none)
      · exact .mapLift some _
  | existsCf keys cfName key =>
      exact Method.Leaves.bind checkCompleted_onlyReads (fun _ =>
        .bind (getCfHandle_onlyReads cfName) fun handle =>
          .bind (.lift _) fun serKey =>
            .bind (read_onlyReads _ fault) fun found =>
              .lift (.ok _)) self
  | iterate keys config => exact iterate_onlyReads config fault self
  | findByPrefix keys decoder codec cfName prefixKey direction =>
      exact iterate_onlyReads _ fault self
  | findFrom keys decoder codec cfName startKey direction controlFn captured =>
      exact iterate_onlyReads _ fault self
  | findFromWithExpireVal V keys decoder cfName start reverse controlFn
      captured =>
      exact iterate_onlyReads _ fault self

end Readings

end OptimisticTransactionContext

end RockSolid
