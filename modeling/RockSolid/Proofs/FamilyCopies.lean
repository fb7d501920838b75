/-
Module: RockSolid.Proofs.FamilyCopies
Layer: Proofs
Purpose: What copying column families does to the contents of the destination.  A
  walk shows the entries of a family up to its first error; copying it makes the
  puts of these entries, in key order; and an initial part of the puts for several
  families overlays each family by an initial segment of its entries.
Trusted boundary: none
Main exports: ShowsUpTo, iterator_showsUpTo, readable_of_iterator,
  copyFamily_writes, overlaid_of_puts, overlaid_of_initial
-/
import RockSolid.Engine.Observation
import RockSolid.Foundation.FallibleList
import RockSolid.Foundation.PlannedWrites
import RockSolid.Proofs.StoreReads
import RockSolid.Semantics.Migration

namespace RockSolid

open Foundation

section Walks

/-- The stream shows the entries in order, up to its first error. -/
inductive ShowsUpTo : List (Bytes × Bytes) → RawStream → Prop where
  | nil : ShowsUpTo [] []
  | failed (entries : List (Bytes × Bytes)) (e : RocksError)
      (rest : RawStream) : ShowsUpTo entries (.error e :: rest)
  | cons (entry : Bytes × Bytes) {entries : List (Bytes × Bytes)}
      {stream : RawStream} (later : ShowsUpTo entries stream) :
      ShowsUpTo (entry :: entries) (.ok entry :: stream)

/-- A stream without an error shows all entries. -/
theorem ShowsUpTo.all {entries : List (Bytes × Bytes)} {stream : RawStream}
    (shows_ : ShowsUpTo entries stream)
    (complete : ∀ e, .error e ∉ stream) : stream = entries.map .ok := by
  induction shows_ with
  | nil => rfl
  | failed entries e rest => exact absurd List.mem_cons_self (complete e)
  | cons entry later inductionHypothesis =>
      have rest := inductionHypothesis
        (fun e member => complete e (List.mem_cons_of_mem _ member))
      rw [List.map_cons, ← rest]

/-- Cutting a stream short does not change what it shows until then. -/
theorem ShowsUpTo.cutBy {entries : List (Bytes × Bytes)} {stream : RawStream}
    (shows_ : ShowsUpTo entries stream) (fault : Option Fault) :
    ShowsUpTo entries (cutBy fault stream) := by
  cases fault with
  | none => exact shows_
  | some fault =>
      obtain ⟨e, count⟩ := fault
      change ShowsUpTo entries (stream.take count ++ [.error e])
      induction shows_ generalizing count with
      | nil =>
          rw [List.take_nil]
          exact .failed [] e []
      | failed entries e' rest => cases count <;> exact .failed entries _ _
      | cons entry later inductionHypothesis =>
          cases count with
          | zero => exact .failed _ e _
          | succ count => exact .cons entry (inductionHypothesis count)

variable (db : DbHandle) (cf : String)

theorem streamOf_showsUpTo (records : List (Bytes × Record)) :
    ShowsUpTo (records.filterMap (db.visible cf)) (db.streamOf cf records) := by
  induction records with
  | nil => exact .nil
  | cons entry records inductionHypothesis =>
      obtain ⟨key, record⟩ := entry
      rcases read : db.readRecord ⟨cf, key⟩ record with e | _ | value
      · simp only [DbHandle.streamOf, read]
        exact .failed _ e []
      · simp only [DbHandle.streamOf, DbHandle.visible, read,
          List.filterMap_cons]
        exact inductionHypothesis
      · simp only [DbHandle.streamOf, DbHandle.visible, read,
          List.filterMap_cons]
        exact .cons (key, value) inductionHypothesis

/-- A walk of a family from its start shows its entries. -/
theorem iterator_showsUpTo (data : ByteDb) (fault : Option Fault) :
    ShowsUpTo (db.entries data cf) (cutBy fault (db.iterator data cf .start)) :=
  (streamOf_showsUpTo db cf _).cutBy fault

/-- A family that was walked without an error can be read. -/
theorem readable_of_iterator {data : ByteDb} {fault : Option Fault}
    (complete : ∀ e, .error e ∉ cutBy fault (db.iterator data cf .start)) :
    db.Readable data cf := by
  cases fault with
  | none => exact DbHandle.readable_of_complete complete
  | some fault =>
      exact absurd (List.mem_append_right _ (List.mem_singleton_self _))
        (complete fault.error)

end Walks

section Copying

/-- The write that copies an entry. -/
def putOf (cf : String) (entry : Bytes × Bytes) : WriteOp :=
  .put ⟨cf, entry.1⟩ entry.2

theorem putOf_injective {cf : String} : Function.Injective (putOf cf) := by
  intro entry other same
  obtain ⟨key, value⟩ := entry
  obtain ⟨otherKey, otherValue⟩ := other
  cases same
  rfl

theorem write_writes (op : WriteOp) (fault : Option Fault) :
    WritesUpTo Db.apply [op]
      (CFOperations.write op fault : Method StoreError ByteDb Unit) := by
  intro data
  cases fault with
  | none => exact ⟨[op], List.prefix_rfl, rfl, fun _ => rfl⟩
  | some fault =>
      refine ⟨[], List.nil_prefix, rfl, ?_⟩
      intro returned
      cases returned

variable (srcStore dstStore : RocksDbCFStore) (dstConfig : RocksDbCFStoreConfig)
  (faults : MigrationFaults) (srcData : ByteDb)

theorem RocksDbCFStore.family_ok {store : RocksDbCFStore} {cfName cf : String}
    (found : store.access.family cfName = .ok cf) : cf = cfName := by
  have sharedLookUp : (Store.cfStore store).access.family cfName = .ok cf :=
    found
  exact Store.family_ok sharedLookUp

/-- An entry is copied by its put. -/
theorem copyRecord_writes (cf : String) (entry : Bytes × Bytes) :
    WritesUpTo Db.apply [putOf cf entry]
      (copyRecord dstStore faults cf (.ok entry)) := by
  apply WritesUpTo.liftM_bind
  intro serKey encoded
  cases encoded
  apply WritesUpTo.liftM_bind
  intro found opened
  cases RocksDbCFStore.family_ok opened
  exact write_writes _ _

/-- A walk is copied by the puts of what it shows. -/
theorem copyRecords_writes (cf : String) {entries : List (Bytes × Bytes)}
    {stream : RawStream} (shows_ : ShowsUpTo entries stream) :
    WritesUpTo Db.apply (entries.map (putOf cf))
      (stream.forM (copyRecord dstStore faults cf)) := by
  induction shows_ with
  | nil => exact .nothing
  | failed entries e rest =>
      rw [Method.forM_cons]
      apply WritesUpTo.liftM_bind
      intro _ returned
      cases returned
  | cons entry later inductionHypothesis =>
      rw [Method.forM_cons, List.map_cons, ← List.singleton_append]
      exact (copyRecord_writes dstStore faults cf entry).bind
        inductionHypothesis

/-- A walk that starts is the walk of the family. -/
theorem walk_eq {store : RocksDbCFStore} {data : ByteDb} {cf : String}
    {fault : Option Fault} {stream : RawStream}
    (walked : store.rawKvsIterator data cf fault = .ok stream) :
    stream = cutBy fault (store.db.iterator data cf .start) := by
  obtain ⟨found, opened, same⟩ := bind_eq_ok_iff.mp walked
  cases RocksDbCFStore.family_ok opened
  exact (Except.ok.inj same).symm

/-- The puts that copy a family. -/
def planOf (cf : String) : List WriteOp :=
  if cf ∈ dstConfig.columnFamiliesToOpen then
    (srcStore.db.entries srcData cf).map (putOf cf)
  else []

/-- A family is copied by its puts. -/
theorem copyFamily_writes (cf : String) :
    WritesUpTo Db.apply (planOf srcStore dstConfig srcData cf)
      (copyFamily srcStore dstStore dstConfig faults srcData cf) := by
  rw [copyFamily, planOf]
  by_cases listed : cf ∈ dstConfig.columnFamiliesToOpen
  · rw [if_neg (not_not_intro listed), if_pos listed]
    apply WritesUpTo.liftM_bind
    intro stream walked
    rw [walk_eq walked]
    exact copyRecords_writes dstStore faults cf
      (iterator_showsUpTo srcStore.db cf srcData _)
  · rw [if_pos listed, if_neg listed]
    exact .nothing

end Copying

section Overlays

/-- Writes to other families leave a family as it is. -/
theorem applyAll_otherFamily {writes : List WriteOp} {cf : String}
    (others : ∀ op ∈ writes, op.target.cf ≠ cf) (data : ByteDb) :
    data.applyAll writes cf = data cf := by
  induction writes generalizing data with
  | nil => rfl
  | cons op writes inductionHypothesis =>
      obtain ⟨first, rest⟩ := List.forall_mem_cons.mp others
      rw [Db.applyAll_cons, inductionHypothesis rest, Db.apply,
        Function.update_of_ne first.symm]

/-- Entries with distinct keys. -/
abbrev DistinctKeys (entries : List (Bytes × Bytes)) : Prop :=
  entries.Pairwise fun earlier later => earlier.1 ≠ later.1

theorem lookup_eq_none_of_ne {entries : List (Bytes × Bytes)} {key : Bytes}
    (differ : ∀ entry ∈ entries, key ≠ entry.1) : entries.lookup key = none := by
  rw [List.lookup_eq_none_iff]
  intro entry member
  exact bne_iff_ne.mpr (differ entry member)

theorem lookup_of_mem {entries : List (Bytes × Bytes)}
    (distinct : DistinctKeys entries) {key value : Bytes}
    (member : (key, value) ∈ entries) : entries.lookup key = some value := by
  induction entries with
  | nil => cases member
  | cons entry entries inductionHypothesis =>
      obtain ⟨first, rest⟩ := List.pairwise_cons.mp distinct
      rcases List.mem_cons.mp member with same | later
      · subst same
        exact List.lookup_cons_self
      · have differs : (key == entry.1) = false :=
          beq_false_of_ne (first (key, value) later).symm
        rw [List.lookup_cons, differs]
        exact inductionHypothesis rest later

/-- Puts of distinct keys overlay the family. -/
theorem overlaid_of_puts {entries : List (Bytes × Bytes)}
    (distinct : DistinctKeys entries) (data : ByteDb) (cf : String) :
    Overlaid data (data.applyAll (entries.map (putOf cf))) cf entries := by
  intro key
  induction entries generalizing data with
  | nil => rfl
  | cons entry entries inductionHypothesis =>
      obtain ⟨first, rest⟩ := List.pairwise_cons.mp distinct
      rw [List.map_cons, Db.applyAll_cons, inductionHypothesis rest,
        List.lookup_cons, Db.record_apply]
      by_cases same : key = entry.1
      · subst same
        have later : entries.lookup entry.1 = none := lookup_eq_none_of_ne first
        have hit : SameKey (fun _ => compare) (putOf cf entry).target
            ⟨cf, entry.1⟩ := sameKey_compare.mpr rfl
        rw [later, BEq.rfl]
        exact if_pos hit
      · have miss : ¬ SameKey (fun _ => compare) (putOf cf entry).target
            ⟨cf, key⟩ := by
          intro hit
          have target := sameKey_compare.mp hit
          exact same (congrArg CfKey.key target).symm
        rw [if_neg miss, beq_false_of_ne same]

/-- The entries of a family have distinct keys. -/
theorem DbHandle.entries_distinct (db : DbHandle) (data : ByteDb) (cf : String) :
    DistinctKeys (db.entries data cf) := by
  apply (db.entries_sorted data cf).imp
  intro earlier later before same
  rw [same, Std.ReflOrd.compare_self] at before
  cases before

variable (srcStore : RocksDbCFStore) (dstConfig : RocksDbCFStoreConfig)
  (srcData : ByteDb)

theorem planOf_target (cf : String) :
    ∀ op ∈ planOf srcStore dstConfig srcData cf, op.target.cf = cf := by
  intro op planned
  rw [planOf] at planned
  split at planned
  · obtain ⟨entry, _, same⟩ := List.mem_map.mp planned
    rw [← same]
    rfl
  · cases planned

/-- The planned writes to one family put an initial segment of its entries: all
of them when it is migrated. -/
theorem planned_onFamily {families : List String} (different : families.Nodup)
    (cf : String) :
    ∃ whole, whole <+: srcStore.db.entries srcData cf ∧
      (families.flatMap (planOf srcStore dstConfig srcData)).filter
        (fun op => op.target.cf = cf) = whole.map (putOf cf) ∧
      (cf ∈ families → cf ∈ dstConfig.columnFamiliesToOpen →
        whole = srcStore.db.entries srcData cf) := by
  rw [filter_flatMap_keyed (planOf_target srcStore dstConfig srcData) different,
    planOf]
  by_cases among : cf ∈ families
  · by_cases listed : cf ∈ dstConfig.columnFamiliesToOpen
    · rw [if_pos among, if_pos listed]
      exact ⟨_, List.prefix_rfl, rfl, fun _ _ => rfl⟩
    · rw [if_pos among, if_neg listed]
      exact ⟨[], List.nil_prefix, rfl, fun _ present => absurd present listed⟩
  · rw [if_neg among]
    exact ⟨[], List.nil_prefix, rfl, fun present => absurd present among⟩

/-- An initial part of the planned writes overlays every family by an initial
segment of its entries; the whole plan overlays a migrated family by all of
them. -/
theorem overlaid_of_initial {families : List String} (different : families.Nodup)
    {done : List WriteOp}
    (initial : done <+: families.flatMap (planOf srcStore dstConfig srcData))
    (data : ByteDb) (cf : String) :
    ∃ segment, segment <+: srcStore.db.entries srcData cf ∧
      Overlaid data (data.applyAll done) cf segment ∧
      (done = families.flatMap (planOf srcStore dstConfig srcData) →
        cf ∈ families → cf ∈ dstConfig.columnFamiliesToOpen →
          segment = srcStore.db.entries srcData cf) := by
  obtain ⟨whole, ofEntries, planned, complete⟩ :=
    planned_onFamily srcStore dstConfig srcData different cf
  have onFamily := initial.filter (fun op => decide (op.target.cf = cf))
  rw [planned, List.prefix_map_iff] at onFamily
  obtain ⟨segment, ofWhole, puts⟩ := onFamily
  have ofSource := ofWhole.trans ofEntries
  refine ⟨segment, ofSource, ?_, ?_⟩
  · intro key
    have relevant : ∀ op : WriteOp, op.target = ⟨cf, key⟩ →
        decide (op.target.cf = cf) = true := by
      intro op same
      rw [same]
      exact decide_eq_true rfl
    have restricted :
        (data.applyAll (done.filter fun op => op.target.cf = cf)).record
          ⟨cf, key⟩ = (data.applyAll done).record ⟨cf, key⟩ :=
      KeyedStore.cell_applyBatch_filter relevant data done
    have distinct := (srcStore.db.entries_distinct srcData cf).sublist
      ofSource.sublist
    rw [← restricted, puts]
    exact overlaid_of_puts distinct data cf key
  · intro all among listed
    rw [all, planned] at puts
    have same : segment = whole :=
      List.map_injective_iff.mpr putOf_injective puts.symm
    exact same.trans (complete among listed)

/-- Only listed families that hold something in the source are written to. -/
theorem planned_target {families : List String} {op : WriteOp}
    (planned : op ∈ families.flatMap (planOf srcStore dstConfig srcData)) :
    op.target.cf ∈ dstConfig.columnFamiliesToOpen ∧
      srcStore.db.entries srcData op.target.cf ≠ [] := by
  obtain ⟨cf, among, member⟩ := List.mem_flatMap.mp planned
  have target := planOf_target srcStore dstConfig srcData cf op member
  rw [planOf] at member
  split at member
  · next listed =>
      obtain ⟨entry, stored, _⟩ := List.mem_map.mp member
      rw [target]
      exact ⟨listed, List.ne_nil_of_mem stored⟩
  · cases member

end Overlays

end RockSolid
