/-
Module: RockSolid.Proofs.OrderedMaps
Layer: Proofs
Purpose: The records of the engine, with their pending operands and with whatever
  it merges on its own, stand for one ordered map for each column family: a write
  of a record is a write to a map, a read finds what the map binds, an iterator
  shows its bindings.
Trusted boundary: none
Main exports: DbHandle.contents_apply, DbHandle.simulates_maps,
  defaultMerges_inParts, routedMerges_inParts, contents_mergedBetween
-/
import RockSolid.Proofs.ClientPrograms
import RockSolid.Proofs.CompactedMerges
import RockSolid.Semantics.OrderedMaps

namespace RockSolid

open Foundation

namespace DbHandle

variable {db : DbHandle} {data : ByteDb}

/-- A key is bound to what a read of it finds. -/
theorem lookup_contents (db : DbHandle) (data : ByteDb) (cf : String)
    (key : Bytes) :
    (db.contents data cf).lookup key = metBy (db.read data ⟨cf, key⟩) := by
  apply Option.ext
  intro bound
  rw [contents, lookup_ofBindings (db.meets_ascending data), mem_meets]

theorem bindings_contents (db : DbHandle) (data : ByteDb) (cf : String) :
    bindings (db.contents data cf) =
      (data cf).toList.filterMap (db.meets cf) :=
  bindings_ofBindings (db.meets_ascending data)

theorem read_contents (db : DbHandle) (data : ByteDb) (at_ : CfKey) :
    (db.contents data).read at_ = db.read data at_ := by
  rw [FamilyMaps.read, lookup_contents]
  rcases db.read data at_ with e | _ | value <;> rfl

theorem iterator_contents (db : DbHandle) (data : ByteDb) (cf : String)
    (mode : IteratorMode) :
    (db.contents data).iterator cf mode = db.iterator data cf mode := by
  rw [FamilyMaps.iterator, bindings_contents, iterator_eq_meets]

theorem iterate_contents {K S T OutK OutV : Type} [AsBytes K] (db : DbHandle)
    (data : ByteDb) (fault : Option Fault)
    (config : IterConfig K S T OutK OutV) :
    (db.contents data).iterate fault config =
      CFOperations.iterate db.everyFamily data fault config := by
  rw [FamilyMaps.iterate, CFOperations.iterate, iterateWith_eq,
    db.everyFamily_family, iterator_contents]
  rfl

/-- Contents stand for the same maps when all their keys read alike. -/
theorem contents_eq_iff {first second : ByteDb} :
    db.contents first = db.contents second ↔
      ∀ cf, SameReads db cf first second := by
  constructor
  · intro same cf key
    rw [← read_contents, ← read_contents, same]
  · intro same
    funext cf
    apply Finmap.ext_lookup
    intro key
    rw [lookup_contents, lookup_contents, same cf key]

/-- A write to a record makes of the binding what a write to the map does: the
operands so far have been merged into it already. -/
theorem metBy_effect (oneByOne : ∀ cf key, MergesOneByOne key (db.fullMerge cf))
    (op : WriteOp) (record : Record) :
    metBy (db.readRecord op.target (op.effect record)) =
      op.bound db.fullMerge (metBy (db.readRecord op.target record)) := by
  cases op with
  | put at_ value => rfl
  | delete at_ => rfl
  | merge at_ operand =>
      obtain ⟨base, operands⟩ := record
      cases operands with
      | nil =>
          cases base with
          | none =>
              simp only [WriteOp.target, WriteOp.effect, readRecord,
                List.nil_append, metBy, WriteOp.bound, WriteOp.bound.mergeOnto]
              cases db.fullMerge at_.cf at_.key none [operand] <;> rfl
          | some value =>
              simp only [WriteOp.target, WriteOp.effect, readRecord,
                List.nil_append, metBy, WriteOp.bound, WriteOp.bound.mergeOnto]
              cases db.fullMerge at_.cf at_.key (some value) [operand] <;> rfl
      | cons first operands =>
          have split := oneByOne at_.cf at_.key base (first :: operands) operand
            (List.cons_ne_nil first operands)
          rw [List.cons_append] at split
          simp only [WriteOp.target, WriteOp.effect, readRecord,
            List.cons_append, split]
          cases merged : db.fullMerge at_.cf at_.key base (first :: operands) with
          | none => rfl
          | some value =>
              simp only [metBy, WriteOp.bound, WriteOp.bound.mergeOnto,
                Option.bind_some]
              cases db.fullMerge at_.cf at_.key (some value) [operand] <;> rfl

/-- A write to the records is a write to the maps. -/
theorem contents_apply
    (oneByOne : ∀ cf key, MergesOneByOne key (db.fullMerge cf)) (op : WriteOp) :
    db.contents (data.apply op) =
      (db.contents data).write db.fullMerge op := by
  funext cf
  apply Finmap.ext_lookup
  intro key
  rw [lookup_contents, read, Db.record_apply, FamilyMaps.write]
  by_cases sameCf : cf = op.target.cf
  · subst sameCf
    rw [Function.update_self, lookup_alter, lookup_contents, read]
    by_cases sameKey : op.target.key = key
    · subst sameKey
      rw [if_pos (sameKey_compare.mpr rfl), if_pos rfl]
      exact metBy_effect oneByOne op (data.record op.target)
    · rw [if_neg sameKey, if_neg]
      intro same
      exact sameKey (congrArg CfKey.key (sameKey_compare.mp same))
  · rw [Function.update_of_ne sameCf, lookup_contents, read, if_neg]
    intro same
    exact sameCf (congrArg CfKey.cf (sameKey_compare.mp same)).symm

/-- Encoding a record and writing it is that on the maps. -/
theorem contents_writeRecord
    (oneByOne : ∀ cf key, MergesOneByOne key (db.fullMerge cf)) (data : ByteDb)
    (record : StoreResult WriteOp) (fault : Option Fault) :
    let written := (liftM record >>= (CFOperations.write · fault) :
      Method StoreError ByteDb Unit) data
    (written.1, db.contents written.2) =
      (db.contents data).writeRecord db.fullMerge record fault := by
  cases record with
  | error e => rfl
  | ok op =>
      cases fault with
      | none => exact congrArg (Prod.mk _) (contents_apply oneByOne op)
      | some fault => rfl

/-- An open database does on its records what the maps do. -/
theorem simulates_maps
    (oneByOne : ∀ cf key, MergesOneByOne key (db.fullMerge cf))
    (allowed : (A : Type) → FamilyCall A → Prop) :
    (db.receiver : Receiver FamilyCall (Option Fault) ByteDb).Simulates
      (FamilyMaps.receiver db.fullMerge) allowed
      fun data maps => db.contents data = maps := by
  intro A fault call data maps _ same
  subst same
  cases call with
  | write cfName call =>
      have written :=
        contents_writeRecord oneByOne data (call.record cfName) fault
      exact ⟨congrArg Prod.fst written, congrArg Prod.snd written⟩
  | read cfName call =>
      refine ⟨?_, rfl⟩
      simp only [receiver, FamilyMaps.receiver]
      rw [CfAccess.read, db.everyFamily_family, read_contents]
      rfl
  | iterate keys config =>
      exact ⟨(db.iterate_contents data fault config).symm, rfl⟩
  | findByPrefix keys decoder codec cfName prefixKey direction =>
      refine ⟨?_, rfl⟩
      simp only [receiver, FamilyMaps.receiver, CFOperations.findByPrefix,
        iterate_contents]
  | findFrom keys decoder codec cfName startKey direction controlFn captured =>
      refine ⟨?_, rfl⟩
      simp only [receiver, FamilyMaps.receiver, CFOperations.findFrom,
        iterate_contents]
  | findFromWithExpireVal V keys decoder cfName start reverse controlFn captured =>
      refine ⟨?_, rfl⟩
      simp only [receiver, FamilyMaps.receiver,
        CFOperations.findFromWithExpireVal, iterate_contents]

end DbHandle

namespace MergesInParts

variable {key : Bytes} {fullMergeFn partialMergeFn otherFull otherPartial : MergeFn}
  (inParts : MergesInParts key fullMergeFn partialMergeFn)

include inParts

/-- Merging operand by operand, the result of a merge of some counts as the value
before the others. -/
theorem consistent : MergesConsistently key fullMergeFn partialMergeFn := by
  refine ⟨?_, inParts.combine⟩
  intro base operands value more nonempty moreNonempty merged
  induction more using List.reverseRecOn with
  | nil => exact absurd rfl moreNonempty
  | append_singleton more last inductionHypothesis =>
      rw [← List.append_assoc, inParts.oneByOne _ _ _
        (List.append_ne_nil_of_left_ne_nil nonempty _)]
      by_cases none : more = []
      · subst none
        rw [List.append_nil, merged]
        rfl
      · rw [inductionHypothesis none, inParts.oneByOne _ _ _ none]

/-- It concerns what the functions do with the key. -/
theorem congr (sameFull : otherFull key = fullMergeFn key)
    (samePartial : otherPartial key = partialMergeFn key) :
    MergesInParts key otherFull otherPartial := by
  constructor
  · rw [MergesOneByOne, sameFull]
    exact inParts.oneByOne
  · rw [sameFull, samePartial]
    exact inParts.combine

end MergesInParts

/-- The default merge appends, so it may be made in parts. -/
theorem defaultMerges_inParts (key : Bytes) :
    MergesInParts key defaultFullMerge defaultPartialMerge := by
  constructor
  · intro base operands operand nonempty
    simp [defaultFullMerge_eq, nonempty]
  · intro base before block merged after _ result
    cases result

/-- So may that of the router, when the handlers of each registration may. -/
theorem routedMerges_inParts
    (accepts : List String → String → Except String Unit)
    (selects : List String → String → Option (Nat × Params))
    {history : List Registration}
    (inParts : ∀ registration ∈ history, registration.MergesInParts)
    (key : Bytes) :
    MergesInParts key (routedFullMerge accepts selects history)
      (routedPartialMerge accepts selects history) := by
  rcases routedMerges_at accepts selects history key with
    ⟨registration, registered, params, sameFull, samePartial⟩ |
      ⟨sameFull, samePartial⟩
  · exact (inParts registration registered key params).congr sameFull samePartial
  · exact (defaultMerges_inParts key).congr sameFull samePartial

/-- What the engine merges on its own leaves the maps as they are. -/
theorem contents_mergedBetween {db : DbHandle} {partialMerge : String → MergeFn}
    (inParts : ∀ cf key, MergesInParts key (db.fullMerge cf) (partialMerge cf))
    (work : List BackgroundMerge) (data : ByteDb) :
    db.contents (mergedBetween db.fullMerge partialMerge work data) =
      db.contents data := by
  have noWrites : (work.map BackgroundMerge.step).filterMap MergeStep.op = [] := by
    rw [List.filterMap_map, List.filterMap_eq_nil_iff]
    intro step _
    cases step <;> rfl
  rw [DbHandle.contents_eq_iff]
  intro cf
  have merged : SameReads db cf
      (mergedBetween db.fullMerge partialMerge work data)
      (data.applyAll
        ((work.map BackgroundMerge.step).filterMap MergeStep.op)) :=
    mergeRun_sameReads (fun key => (inParts cf key).consistent) _
  rw [noWrites] at merged
  exact merged

end RockSolid
