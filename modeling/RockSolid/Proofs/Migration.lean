/-
Module: RockSolid.Proofs.Migration
Layer: Proofs
Purpose: A migration ends before it has written anything, or copies the families
  up to its first failing call.  When it returns `Ok` it has copied them all;
  without failing calls it returns `Ok`, accepts its own copies when it compares
  them, and changes nothing when it is repeated.
Trusted boundary: none
Main exports: migrateDb_cases, copiedBy_writes, copiesExactly_of_copied,
  foundEqual_of_validated, CanMigrate.migrateDb_eq, CanMigrate.unchanged,
  migrateDb_copies_exactly
-/
import RockSolid.Proofs.FamilyCopies

namespace RockSolid

open Foundation

section Runs

variable (srcConfig dstConfig : RocksDbCFStoreConfig) (faults : MigrationFaults)
  (before : Databases)

/-- The directories as opening both stores leaves them. -/
def openedBy : Databases where
  source := before.source.create srcConfig.columnFamiliesToOpen
  destination := before.destination.create dstConfig.columnFamiliesToOpen

/-- The source store of a migration. -/
def srcStoreOf : RocksDbCFStore :=
  ⟨srcConfig.handle (openedBy srcConfig dstConfig before).source⟩

/-- The destination store of a migration. -/
def dstStoreOf : RocksDbCFStore :=
  ⟨dstConfig.handle (openedBy srcConfig dstConfig before).destination⟩

/-- How the copying of all families ends. -/
def copyingOf : StoreResult Unit × ByteDb :=
  ((openedBy srcConfig dstConfig before).source.columnFamilies.forM
    (copyFamily (srcStoreOf srcConfig dstConfig before)
      (dstStoreOf srcConfig dstConfig before) dstConfig faults
      before.source.data)) before.destination.data

/-- The databases after the copying. -/
def copiedBy : Databases :=
  { openedBy srcConfig dstConfig before with
    destination := (openedBy srcConfig dstConfig before).destination.withData
      (copyingOf srcConfig dstConfig faults before).2 }

/-- How the comparing of all families ends. -/
def validationOf : StoreResult Unit :=
  (openedBy srcConfig dstConfig before).source.columnFamilies.forM
    (validateFamily (srcStoreOf srcConfig dstConfig before)
      (dstStoreOf srcConfig dstConfig before) dstConfig faults
      before.source.data (copiedBy srcConfig dstConfig faults before).destination.data)

/-- The run of a migration whose stores are open and whose families are listed. -/
def workOf (validate : Bool) : StoreResult Unit × Databases :=
  (do
    (copyingOf srcConfig dstConfig faults before).1
    if validate then validationOf srcConfig dstConfig faults before,
    copiedBy srcConfig dstConfig faults before)

/-- With both stores open and the families listed, the work is done. -/
theorem migrateDb_of_open (validate : Bool)
    (openedSource : before.source.openCfDescriptors srcConfig.createIfMissing
      srcConfig.columnFamiliesToOpen faults.openSource =
        .ok (openedBy srcConfig dstConfig before).source)
    (openedDestination : before.destination.openCfDescriptors
      dstConfig.createIfMissing dstConfig.columnFamiliesToOpen
        faults.openDestination =
        .ok (openedBy srcConfig dstConfig before).destination)
    (listed : faults.listCf = none) :
    migrateDb srcConfig dstConfig validate faults before =
      workOf srcConfig dstConfig faults before validate := by
  have source : Databases.onSource
      (RocksDbCFStore.open srcConfig faults.openSource) before =
      (.ok (srcStoreOf srcConfig dstConfig before),
        { before with source := (openedBy srcConfig dstConfig before).source }) := by
    simp only [Databases.onSource, Method.zoom, RocksDbCFStore.open, openedSource]
    rfl
  have destination : Databases.onDestination
      (RocksDbCFStore.open dstConfig faults.openDestination)
        { before with source := (openedBy srcConfig dstConfig before).source } =
      (.ok (dstStoreOf srcConfig dstConfig before),
        openedBy srcConfig dstConfig before) := by
    simp only [Databases.onDestination, Method.zoom, RocksDbCFStore.open,
      openedDestination]
    rfl
  have families : Databases.listCf faults.listCf
      (openedBy srcConfig dstConfig before) =
      (.ok (openedBy srcConfig dstConfig before).source.columnFamilies,
        openedBy srcConfig dstConfig before) := by
    rw [listed]
    rfl
  have copies : copyAll (srcStoreOf srcConfig dstConfig before)
      (dstStoreOf srcConfig dstConfig before) dstConfig faults
      (openedBy srcConfig dstConfig before).source.columnFamilies
      (openedBy srcConfig dstConfig before) =
      ((copyingOf srcConfig dstConfig faults before).1,
        copiedBy srcConfig dstConfig faults before) := rfl
  simp only [migrateDb, Method.bind_apply, source, destination, families, copies]
  rw [workOf]
  cases (copyingOf srcConfig dstConfig faults before).1 with
  | error e => rfl
  | ok _ => cases validate <;> rfl

/-- A migration ends early, with the contents as they were, or does its work. -/
theorem migrateDb_cases (validate : Bool) :
    (∃ e after, migrateDb srcConfig dstConfig validate faults before =
      (.error e, after) ∧ after.source.data = before.source.data ∧
        after.destination.data = before.destination.data) ∨
    migrateDb srcConfig dstConfig validate faults before =
      workOf srcConfig dstConfig faults before validate := by
  rcases source : before.source.openCfDescriptors srcConfig.createIfMissing
    srcConfig.columnFamiliesToOpen faults.openSource with e | opened
  · left
    refine ⟨.rocksDb e, before, ?_, rfl, rfl⟩
    simp only [migrateDb, Method.bind_apply, Databases.onSource, Method.zoom,
      RocksDbCFStore.open, source]
  · cases OnDisk.openCfDescriptors_ok source
    rcases destination : before.destination.openCfDescriptors
      dstConfig.createIfMissing dstConfig.columnFamiliesToOpen
      faults.openDestination with e | opened
    · left
      refine ⟨.rocksDb e, { before with
        source := (openedBy srcConfig dstConfig before).source }, ?_, rfl, rfl⟩
      simp only [migrateDb, Method.bind_apply, Databases.onSource,
        Databases.onDestination, Method.zoom, RocksDbCFStore.open, source,
        destination]
      rfl
    · cases OnDisk.openCfDescriptors_ok destination
      cases listed : faults.listCf with
      | none =>
          right
          exact migrateDb_of_open srcConfig dstConfig faults before validate
            source destination listed
      | some fault =>
          left
          refine ⟨.rocksDb fault.error, openedBy srcConfig dstConfig before, ?_,
            rfl, rfl⟩
          simp only [migrateDb, Method.bind_apply, Databases.onSource,
            Databases.onDestination, Method.zoom, RocksDbCFStore.open, source,
            destination, Databases.listCf, OnDisk.listCf, orFault, listed]
          rfl

end Runs

section Outcomes

variable {srcConfig dstConfig : RocksDbCFStoreConfig} {faults : MigrationFaults}
  {before after : Databases} {cf : String}

/-- A family with visible records is a family of the source. -/
theorem mem_of_sourceEntries (holds : sourceEntries srcConfig before cf ≠ []) :
    cf ∈ before.source.columnFamilies := by
  by_contra missing
  apply holds
  rw [sourceEntries, DbHandle.entries, before.source.absent cf missing]
  rfl

/-- What the source has for a key is its entry. -/
theorem mem_sourceEntries {key value : Bytes} :
    (key, value) ∈ sourceEntries srcConfig before cf ↔
      sourceValue srcConfig before cf key = .ok (some value) :=
  DbHandle.mem_entries _ _ _ _ _

theorem lookup_of_present {key value : Bytes}
    (present : sourceValue srcConfig before cf key = .ok (some value)) :
    (sourceEntries srcConfig before cf).lookup key = some value :=
  lookup_of_mem (DbHandle.entries_distinct _ _ _) (mem_sourceEntries.mpr present)

theorem lookup_of_absent {key : Bytes}
    (absent : sourceValue srcConfig before cf key = .ok none) :
    (sourceEntries srcConfig before cf).lookup key = none := by
  cases found : (sourceEntries srcConfig before cf).lookup key with
  | none => rfl
  | some value =>
      obtain ⟨earlier, later, split_, _⟩ := List.lookup_eq_some_iff.mp found
      have present : sourceValue srcConfig before cf key = .ok (some value) := by
        apply mem_sourceEntries.mp
        rw [split_]
        exact List.mem_append_right _ List.mem_cons_self
      rw [absent] at present
      cases present

/-- The writes a migration plans. -/
def plannedBy (srcConfig dstConfig : RocksDbCFStoreConfig)
    (before : Databases) : List WriteOp :=
  (openedBy srcConfig dstConfig before).source.columnFamilies.flatMap
    (planOf (srcStoreOf srcConfig dstConfig before) dstConfig before.source.data)

/-- A planned write is to a migrated family. -/
theorem migrated_of_planned {op : WriteOp}
    (planned : op ∈ plannedBy srcConfig dstConfig before) :
    Migrated dstConfig before op.target.cf := by
  obtain ⟨listed, holds⟩ := planned_target _ _ _ planned
  exact ⟨mem_of_sourceEntries holds, listed⟩

variable (srcConfig dstConfig faults before) in
/-- The destination holds an initial part of the planned writes, and all of them
when the copying has returned `Ok`. -/
theorem copiedBy_writes :
    ∃ done, done <+: plannedBy srcConfig dstConfig before ∧
      (copiedBy srcConfig dstConfig faults before).destination.data =
        before.destination.data.applyAll done ∧
      ((copyingOf srcConfig dstConfig faults before).1 = .ok () →
        done = plannedBy srcConfig dstConfig before) := by
  have copies := WritesUpTo.forM fun cf (_ : cf ∈
      (openedBy srcConfig dstConfig before).source.columnFamilies) =>
    copyFamily_writes (srcStoreOf srcConfig dstConfig before)
      (dstStoreOf srcConfig dstConfig before) dstConfig faults before.source.data
      cf
  obtain ⟨done, initial, left, complete⟩ := copies before.destination.data
  refine ⟨done, initial, ?_, complete⟩
  have kept : ∀ cf,
      cf ∉ (openedBy srcConfig dstConfig before).destination.columnFamilies →
      (copyingOf srcConfig dstConfig faults before).2 cf = ∅ := by
    intro cf missing
    have untouched : ∀ op ∈ done, op.target.cf ≠ cf := by
      intro op member same
      have listed := (migrated_of_planned (initial.subset member)).2
      apply missing
      exact OnDisk.mem_create_columnFamilies.mpr (.inr (same ▸ listed))
    have unchanged := applyAll_otherFamily untouched before.destination.data
    have absent := (openedBy srcConfig dstConfig before).destination.absent cf
      missing
    exact ((congrFun left cf).trans unchanged).trans absent
  exact (OnDisk.withData_data kept).trans left

/-- Contents on which an initial part of the plan was written. -/
theorem copiesInitially_of_writes {done : List WriteOp}
    (initial : done <+: plannedBy srcConfig dstConfig before)
    (source : after.source.data = before.source.data)
    (destination : after.destination.data =
      before.destination.data.applyAll done) :
    CopiesInitially srcConfig dstConfig before after where
  source := source
  initial := by
    intro cf
    obtain ⟨segment, ofSource, overlaid, _⟩ := overlaid_of_initial _ _ _
      (openedBy srcConfig dstConfig before).source.nodup initial
      before.destination.data cf
    exact ⟨segment, ofSource, destination ▸ overlaid⟩
  others := by
    intro cf notMigrated
    rw [destination]
    apply applyAll_otherFamily
    intro op member same
    exact notMigrated (same ▸ migrated_of_planned (initial.subset member))

theorem mem_openedBy (migrated : Migrated dstConfig before cf) :
    cf ∈ (openedBy srcConfig dstConfig before).source.columnFamilies :=
  OnDisk.mem_create_columnFamilies.mpr (.inl migrated.1)

/-- Families that were copied without an error can be read. -/
theorem readable_of_copied
    (copied : (copyingOf srcConfig dstConfig faults before).1 = .ok ())
    (migrated : Migrated dstConfig before cf) :
    (srcConfig.handle before.source).Readable before.source.data cf := by
  obtain ⟨data, ran⟩ := forM_ok_body copied cf (mem_openedBy migrated)
  rw [copyFamily, if_neg (not_not_intro migrated.2), Method.bind_apply,
    Method.liftM_apply] at ran
  rcases walked : (srcStoreOf srcConfig dstConfig before).rawKvsIterator
    before.source.data cf (faults.copyIterator cf) with e | stream
  · rw [walked] at ran
    cases ran
  · rw [walked] at ran
    have complete : ∀ e, .error e ∉ stream := by
      intro e member
      obtain ⟨between, failed⟩ := forM_ok_body ran _ member
      cases failed
    rw [walk_eq walked] at complete
    have readable := readable_of_iterator _ cf complete
    exact readable

/-- With the copying done, the destination is an exact copy. -/
theorem copiesExactly_of_copied
    (copied : (copyingOf srcConfig dstConfig faults before).1 = .ok ()) :
    CopiesExactly srcConfig dstConfig before
      (copiedBy srcConfig dstConfig faults before) := by
  obtain ⟨done, initial, left, complete⟩ :=
    copiedBy_writes srcConfig dstConfig faults before
  have initially : CopiesInitially srcConfig dstConfig before
      (copiedBy srcConfig dstConfig faults before) :=
    copiesInitially_of_writes initial rfl left
  have overlaid {cf : String} (migrated : Migrated dstConfig before cf) :
      Overlaid before.destination.data
        (copiedBy srcConfig dstConfig faults before).destination.data cf
        (sourceEntries srcConfig before cf) := by
    obtain ⟨segment, _, overlaid, whole⟩ := overlaid_of_initial _ _ _
      (openedBy srcConfig dstConfig before).source.nodup initial
      before.destination.data cf
    have all := whole (complete copied) (mem_openedBy migrated) migrated.2
    rw [all, ← left] at overlaid
    exact overlaid
  constructor
  · exact initially.source
  · intro cf migrated key
    exact (readable_of_copied copied migrated).read key
  · intro cf migrated key value present
    rw [overlaid migrated key, lookup_of_present present]
  · intro cf migrated key absent
    rw [overlaid migrated key, lookup_of_absent absent]
  · exact initially.others

/-- A copy is accepted when it is found with the same value. -/
theorem validateRecord_eq_ok_iff {dstStore : RocksDbCFStore}
    {dstData : ByteDb} {key value : Bytes} :
    validateRecord dstStore faults dstData cf (.ok (key, value)) = .ok () ↔
      CFOperations.getRaw dstStore.access cf key dstData (faults.get cf key) =
        .ok (some value) := by
  rw [validateRecord]
  rcases CFOperations.getRaw dstStore.access cf key dstData
    (faults.get cf key) with e | _ | found
  · simp [bind, Except.bind]
  · simp [bind, Except.bind]
  · by_cases same : value = found
    · simp [bind, Except.bind, same]
    · simp [bind, Except.bind, same, Ne.symm same]

/-- A comparison that returns `Ok` has found every key of the migrated families
with the source's value. -/
theorem foundEqual_of_validated
    (validated : validationOf srcConfig dstConfig faults before = .ok ()) :
    FoundEqual srcConfig dstConfig before
      (copiedBy srcConfig dstConfig faults before) faults := by
  intro cf migrated key value present
  have family := forM_eq_ok_iff.mp validated cf (mem_openedBy migrated)
  rw [validateFamily, if_neg (not_not_intro migrated.2)] at family
  obtain ⟨stream, walked, compared⟩ := bind_eq_ok_iff.mp family
  have each := forM_eq_ok_iff.mp compared
  have complete : ∀ e, .error e ∉ stream := by
    intro e member
    cases each _ member
  have shows_ := iterator_showsUpTo (srcStoreOf srcConfig dstConfig before).db cf
    before.source.data (faults.validationIterator cf)
  rw [← walk_eq walked] at shows_
  have entries := shows_.all complete
  have member : .ok (key, value) ∈ stream := by
    rw [entries]
    exact List.mem_map_of_mem (mem_sourceEntries.mpr present)
  exact validateRecord_eq_ok_iff.mp (each _ member)

end Outcomes

section Undisturbed

theorem RocksDbCFStore.family_of_mem {store : RocksDbCFStore} {cf : String}
    (present : cf ∈ store.db.columnFamilies) :
    store.access.family cf = .ok cf := by
  rw [CfAccess.family]
  by_cases isDefault : cf = defaultColumnFamilyName
  · rw [if_pos isDefault, isDefault]
  · rw [if_neg isDefault]
    simp [RocksDbCFStore.access, RocksDbCFStore.getCfHandle, DbHandle.cfHandle,
      present]

/-- Without a failing call a family that can be read is walked to its end. -/
theorem walk_of_readable {store : RocksDbCFStore} {data : ByteDb} {cf : String}
    (present : cf ∈ store.db.columnFamilies)
    (readable : store.db.Readable data cf) :
    store.rawKvsIterator data cf none =
      .ok ((store.db.entries data cf).map .ok) := by
  have walked := store.db.iterator_eq data cf readable .start
  rw [RocksDbCFStore.rawKvsIterator, RocksDbCFStore.family_of_mem present]
  change Except.ok (store.db.iterator data cf .start) = _
  rw [walked]
  simp [IteratorMode.shows, IteratorMode.ordered, IteratorMode.reaches]

theorem putRaw_succeeds {store : RocksDbCFStore} {cf : String}
    (present : cf ∈ store.db.columnFamilies) (key value : Bytes) :
    Succeeds (CFOperations.putRaw store.access cf key value none :
      Method StoreError ByteDb Unit) := by
  intro data
  rw [CFOperations.putRaw, RocksDbCFStore.family_of_mem present]
  rfl

theorem getRaw_of_record {store : RocksDbCFStore} {data : ByteDb} {cf : String}
    {key value : Bytes} (present : cf ∈ store.db.columnFamilies)
    (stored : data.record ⟨cf, key⟩ = ⟨some value, []⟩) :
    CFOperations.getRaw store.access cf key data none = .ok (some value) := by
  have read : store.db.read data ⟨cf, key⟩ = .ok (some value) := by
    rw [DbHandle.read, stored]
    rfl
  rw [CFOperations.getRaw_eq_read, CfAccess.read,
    RocksDbCFStore.family_of_mem present]
  exact congrArg (Except.mapError StoreError.rocksDb) read

variable {srcConfig dstConfig : RocksDbCFStoreConfig} {before : Databases}
  {cf : String}

/-- Every listed family is open in the destination. -/
theorem mem_dstStore (listed : cf ∈ dstConfig.columnFamiliesToOpen) :
    cf ∈ (dstStoreOf srcConfig dstConfig before).db.columnFamilies :=
  OnDisk.mem_create_columnFamilies.mpr (.inr listed)

variable (can : CanMigrate srcConfig dstConfig before)
include can

/-- Every listed family of the opened source can be read: one that was created
is empty. -/
theorem CanMigrate.readableOpened
    (listed : cf ∈ dstConfig.columnFamiliesToOpen) :
    (srcStoreOf srcConfig dstConfig before).db.Readable before.source.data
      cf := by
  by_cases present : cf ∈ before.source.columnFamilies
  · have readable := can.readable cf ⟨present, listed⟩
    exact readable
  · intro entry member
    rw [before.source.absent cf present] at member
    cases member

/-- A listed family is walked to its end. -/
theorem CanMigrate.walk
    (present : cf ∈ (openedBy srcConfig dstConfig before).source.columnFamilies)
    (listed : cf ∈ dstConfig.columnFamiliesToOpen) :
    (srcStoreOf srcConfig dstConfig before).rawKvsIterator before.source.data cf
      none = .ok ((sourceEntries srcConfig before cf).map .ok) :=
  walk_of_readable present (can.readableOpened listed)

theorem CanMigrate.copyFamily_succeeds
    (present : cf ∈ (openedBy srcConfig dstConfig before).source.columnFamilies) :
    Succeeds (copyFamily (srcStoreOf srcConfig dstConfig before)
      (dstStoreOf srcConfig dstConfig before) dstConfig .none before.source.data
      cf) := by
  by_cases listed : cf ∈ dstConfig.columnFamiliesToOpen
  · have walked := can.walk present listed
    have each : ∀ result ∈ (sourceEntries srcConfig before cf).map Except.ok,
        Succeeds (copyRecord (dstStoreOf srcConfig dstConfig before) .none cf
          result) := by
      intro result member
      obtain ⟨entry, _, same⟩ := List.mem_map.mp member
      rw [← same]
      exact putRaw_succeeds (mem_dstStore listed) entry.1 entry.2
    intro data
    rw [copyFamily, if_neg (not_not_intro listed), Method.bind_apply,
      Method.liftM_apply]
    simp only [MigrationFaults.none, walked]
    exact Succeeds.forM each data
  · rw [copyFamily, if_pos listed]
    exact fun _ => rfl

/-- Without a failing call everything is copied. -/
theorem CanMigrate.copied :
    (copyingOf srcConfig dstConfig .none before).1 = .ok () :=
  Succeeds.forM (fun _ present => can.copyFamily_succeeds present) _

/-- Without a failing call the copies are accepted. -/
theorem CanMigrate.validated :
    validationOf srcConfig dstConfig .none before = .ok () := by
  have copies := copiesExactly_of_copied can.copied
  apply forM_eq_ok_iff.mpr
  intro cf present
  by_cases listed : cf ∈ dstConfig.columnFamiliesToOpen
  · have walked := can.walk present listed
    rw [validateFamily, if_neg (not_not_intro listed)]
    apply bind_eq_ok_iff.mpr
    refine ⟨_, walked, forM_eq_ok_iff.mpr ?_⟩
    intro result member
    obtain ⟨⟨key, value⟩, stored, same⟩ := List.mem_map.mp member
    rw [← same]
    have migrated : Migrated dstConfig before cf :=
      ⟨mem_of_sourceEntries (List.ne_nil_of_mem stored), listed⟩
    have copied := copies.present cf migrated key value
      (mem_sourceEntries.mp stored)
    exact validateRecord_eq_ok_iff.mpr
      (getRaw_of_record (mem_dstStore listed) copied)
  · rw [validateFamily, if_pos listed]

/-- Without a failing call a migration does its work and returns `Ok`. -/
theorem CanMigrate.migrateDb_eq (validate : Bool) :
    migrateDb srcConfig dstConfig validate .none before =
      (.ok (), copiedBy srcConfig dstConfig .none before) := by
  have openedSource := OnDisk.openCfDescriptors_of_accepts can.source
  have openedDestination := OnDisk.openCfDescriptors_of_accepts can.destination
  rw [migrateDb_of_open srcConfig dstConfig .none before validate openedSource
    openedDestination rfl, workOf, can.copied, can.validated]
  cases validate <;> rfl

/-- What was migrated can be migrated again. -/
theorem CanMigrate.again :
    CanMigrate srcConfig dstConfig
      (copiedBy srcConfig dstConfig .none before) := by
  have destination := can.destination.create
  constructor
  · exact can.source.create
  · exact ⟨destination.named, destination.present⟩
  · intro cf migrated
    have readable := can.readableOpened migrated.2
    exact readable

/-- A second migration leaves everything as the first left it. -/
theorem CanMigrate.unchanged :
    Unchanged (copiedBy srcConfig dstConfig .none before)
      (copiedBy srcConfig dstConfig .none
        (copiedBy srcConfig dstConfig .none before)) := by
  have first := copiesExactly_of_copied can.copied
  have second := copiesExactly_of_copied can.again.copied
  constructor
  · exact before.source.create_create srcConfig.columnFamiliesToOpen
  · have created := congrArg OnDisk.columnFamilies
      (before.destination.create_create dstConfig.columnFamiliesToOpen)
    exact created
  · intro at_
    obtain ⟨cf, key⟩ := at_
    by_cases migrated : Migrated dstConfig
      (copiedBy srcConfig dstConfig .none before) cf
    · obtain ⟨value, read⟩ := second.readable cf migrated key
      cases value with
      | none => exact second.absent cf migrated key read
      | some value =>
          have present : sourceValue srcConfig before cf key =
              .ok (some value) := read
          have migratedBefore : Migrated dstConfig before cf :=
            ⟨mem_of_sourceEntries
              (List.ne_nil_of_mem (mem_sourceEntries.mpr present)), migrated.2⟩
          rw [second.present cf migrated key value read,
            first.present cf migratedBefore key value present]
    · exact congrArg (fun family => family.getD key Record.absent)
        (second.others cf migrated)

end Undisturbed

/-- `migrate_db` copies exactly, for every source, every destination, every list
of families to open and every pattern of failing engine calls.  When it returns
`Ok`, the migrated families hold the source's values over what they held before,
and with validation every key was found with an equal value.  When it fails, every
destination family is overlaid by an initial segment of the source family.  When
both databases open, the source can be read and no engine call fails, it returns
`Ok`, also with validation, and a second migration changes nothing. -/
theorem migrateDb_copies_exactly (srcConfig dstConfig : RocksDbCFStoreConfig)
    (validate : Bool) (faults : MigrationFaults) (before : Databases) :
    let run := migrateDb srcConfig dstConfig validate faults before
    (run.1 = .ok () → CopiesExactly srcConfig dstConfig before run.2) ∧
    (run.1 = .ok () → validate = true →
      FoundEqual srcConfig dstConfig before run.2 faults) ∧
    (∀ e, run.1 = .error e →
      CopiesInitially srcConfig dstConfig before run.2) ∧
    (CanMigrate srcConfig dstConfig before → faults = .none →
      run.1 = .ok () ∧
      ∀ again : Bool,
        let second := migrateDb srcConfig dstConfig again .none run.2
        second.1 = .ok () ∧ Unchanged run.2 second.2) := by
  intro run
  have cases_ := migrateDb_cases srcConfig dstConfig faults before validate
  refine ⟨?_, ?_, ?_, ?_⟩
  · intro returned
    rcases cases_ with ⟨e, after, ended, _⟩ | worked
    · cases returned.symm.trans (congrArg Prod.fst ended)
    · obtain ⟨_, copied, _⟩ :=
        bind_eq_ok_iff.mp ((congrArg Prod.fst worked).symm.trans returned)
      have copies := copiesExactly_of_copied copied
      exact (congrArg Prod.snd worked).symm ▸ copies
  · intro returned validating
    subst validating
    rcases cases_ with ⟨e, after, ended, _⟩ | worked
    · cases returned.symm.trans (congrArg Prod.fst ended)
    · obtain ⟨_, _, validated⟩ :=
        bind_eq_ok_iff.mp ((congrArg Prod.fst worked).symm.trans returned)
      have found := foundEqual_of_validated validated
      exact (congrArg Prod.snd worked).symm ▸ found
  · intro e failed
    rcases cases_ with ⟨e', after, ended, source, destination⟩ | worked
    · have left : run.2 = after := congrArg Prod.snd ended
      rw [left]
      exact copiesInitially_of_writes List.nil_prefix source destination
    · obtain ⟨done, initial, written, _⟩ :=
        copiedBy_writes srcConfig dstConfig faults before
      have left : run.2 = copiedBy srcConfig dstConfig faults before :=
        congrArg Prod.snd worked
      rw [left]
      exact copiesInitially_of_writes initial rfl written
  · intro can undisturbed
    subst undisturbed
    have first : run = (.ok (), copiedBy srcConfig dstConfig .none before) :=
      can.migrateDb_eq validate
    rw [first]
    refine ⟨rfl, ?_⟩
    intro again second
    have repeated : second = (.ok (), copiedBy srcConfig dstConfig .none
        (copiedBy srcConfig dstConfig .none before)) :=
      can.again.migrateDb_eq again
    rw [repeated]
    exact ⟨rfl, can.unchanged⟩

/-- Two families go to a destination that has one of them: its other key is kept
and the other family is created. -/
theorem migrateDb_copies_exactly_two :
    let empty : OnDisk := ⟨["default", "users"], by decide, by decide, Db.empty,
      fun _ _ => rfl⟩
    let source : OnDisk := empty.withData (Db.empty.applyAll
      [.put ⟨"default", [97]⟩ [1], .put ⟨"users", [107]⟩ [2]])
    let destination : OnDisk :=
      OnDisk.withData ⟨["default"], by decide, by decide, Db.empty, fun _ _ => rfl⟩
        (Db.empty.applyAll
          [.put ⟨"default", [97]⟩ [8], .put ⟨"default", [98]⟩ [9]])
    let config : RocksDbCFStoreConfig :=
      ⟨true, ["default", "users"], fun _ _ _ _ => none⟩
    let run := migrateDb config config true .none ⟨source, destination⟩
    run.1 = .ok () ∧
      run.2.destination.data.record ⟨"default", [97]⟩ = ⟨some [1], []⟩ ∧
      run.2.destination.data.record ⟨"default", [98]⟩ = ⟨some [9], []⟩ ∧
      run.2.destination.data.record ⟨"users", [107]⟩ = ⟨some [2], []⟩ := by
  intro empty source destination config run
  have migrated {cf : String} (among : cf ∈ ["default", "users"]) :
      Migrated config ⟨source, destination⟩ cf := ⟨among, among⟩
  have can : CanMigrate config config ⟨source, destination⟩ := by
    refine ⟨⟨by decide, by decide⟩, ⟨by decide, by decide⟩, ?_⟩
    have readable : ∀ cf ∈ ["default", "users"],
        (config.handle source).Readable source.data cf := by decide +kernel
    exact fun cf isMigrated => readable cf isMigrated.1
  have all := migrateDb_copies_exactly config config true .none
    ⟨source, destination⟩
  have returned := (all.2.2.2 can rfl).1
  have copies := all.1 returned
  refine ⟨returned, ?_, ?_, ?_⟩
  · exact copies.present "default" (migrated (by decide)) [97] [1]
      (by decide +kernel)
  · have kept := copies.absent "default" (migrated (by decide)) [98]
      (by decide +kernel)
    exact kept.trans (by decide +kernel)
  · exact copies.present "users" (migrated (by decide)) [107] [2]
      (by decide +kernel)

end RockSolid
