/-
Module: RockSolid.Semantics.OrderedMaps
Layer: Semantics
Purpose: What a store is for, without an engine: one finite map for each column
  family, listed by ascending keys, in which a merge is made at once.  A merge that
  fails leaves its error in the place of a value until the key is written anew.
  And what the engine does on its own between the calls of a client.
Trusted boundary: a statement of intent
Main exports: Bound, FamilyMaps, FamilyMaps.write, FamilyMaps.read,
  FamilyMaps.iterator, FamilyMaps.iterate, FamilyMaps.receiver,
  DbHandle.contents, MergesInParts, Registration.MergesInParts, BackgroundMerge,
  mergedBetween
-/
import RockSolid.Semantics.ClientPrograms
import RockSolid.Semantics.CompactedMerges

namespace RockSolid

open Foundation

/-- What a key is bound to: a value, or the error of a merge. -/
abbrev Bound := Except RocksError Bytes

/-- The contents of a database as its clients think of them. -/
abbrev FamilyMaps := String → Finmap fun _ : Bytes => Bound

/-- What a write makes of what its key is bound to. -/
def WriteOp.bound (fullMerge : String → MergeFn) (op : WriteOp)
    (before : Option Bound) : Option Bound :=
  match op, before with
  | .put _ value, _ => some (.ok value)
  | .delete _, _ => none
  | .merge _ _, some (.error e) => some (.error e)
  | .merge at_ operand, none => some (mergeOnto at_ none operand)
  | .merge at_ operand, some (.ok value) =>
      some (mergeOnto at_ (some value) operand)
where
  mergeOnto (at_ : CfKey) (base : Option Bytes) (operand : Bytes) : Bound :=
    match fullMerge at_.cf at_.key base [operand] with
    | some value => .ok value
    | none => .error ⟨"Corruption: Merge operator failed"⟩

namespace FamilyMaps

/-- The maps after a write. -/
def write (maps : FamilyMaps) (fullMerge : String → MergeFn) (op : WriteOp) :
    FamilyMaps :=
  Function.update maps op.target.cf
    (alter (maps op.target.cf) op.target.key (op.bound fullMerge))

/-- The maps after a write that may not be encoded, or that the engine may
refuse. -/
def writeRecord (maps : FamilyMaps) (fullMerge : String → MergeFn)
    (record : StoreResult WriteOp) (fault : Option Fault) :
    StoreResult Unit × FamilyMaps :=
  match record, fault with
  | .error e, _ => (.error e, maps)
  | .ok op, none => (.ok (), maps.write fullMerge op)
  | .ok _, some fault => (.error (.rocksDb fault.error), maps)

/-- What a read of a key finds. -/
def read (maps : FamilyMaps) (at_ : CfKey) : Except RocksError (Option Bytes) :=
  match (maps at_.cf).lookup at_.key with
  | none => .ok none
  | some (.ok value) => .ok (some value)
  | some (.error e) => .error e

/-- What an iterator shows: the bindings of the keys it reaches, in its order, up
to the first error. -/
def iterator (maps : FamilyMaps) (cf : String) (mode : IteratorMode) :
    RawStream :=
  showUpToError (mode.ordered
    ((bindings (maps cf)).filter fun binding =>
      mode.reaches compare binding.1))

variable {K S T OutK OutV : Type} [AsBytes K]

/-- An iteration over the map of its family. -/
def iterate (maps : FamilyMaps) (fault : Option Fault)
    (config : IterConfig K S T OutK OutV) :
    StoreResult (IterationResult S T OutK OutV) × S :=
  processResult config.mode
    (cutBy fault (maps.iterator config.cfName config.rawMode))
    (effectiveControl (config.prefixKey.map AsBytes.asBytes) config.control)
    config.captured

end FamilyMaps

/-- Maps that take every call of a client: a write is one change of one binding, a
read finds one binding, a search is a walk along the bindings. -/
def FamilyMaps.receiver (fullMerge : String → MergeFn) :
    Receiver FamilyCall (Option Fault) FamilyMaps where
  answer fault call maps :=
    match call with
    | .write cfName call =>
        maps.writeRecord fullMerge (call.record cfName) fault
    | .read cfName call =>
        ((orFault fault (maps.read ⟨cfName, call.keyBytes⟩)).mapError .rocksDb >>=
          call.decode, maps)
    | .iterate _ config => (maps.iterate fault config, maps)
    | .findByPrefix _ _ _ cfName prefixKey direction =>
        (collectItems (.other "find_by_prefix: Expected DeserializedItems")
          (maps.iterate fault
            (findByPrefixConfig cfName prefixKey direction)).1, maps)
    | .findFrom _ _ _ cfName startKey direction controlFn captured =>
        (collectItems (.other "find_from: Expected DeserializedItems")
          (maps.iterate fault
            (findFromConfig cfName startKey direction controlFn captured)).1,
          maps)
    | .findFromWithExpireVal _ _ _ cfName start reverse controlFn captured =>
        (collectItemsText "Expected DeserializedItems"
          (maps.iterate fault
            (findFromWithExpireValConfig cfName start reverse controlFn
              captured)).1, maps)

/-- The maps that the records of a database stand for: pending operands count as
merged. -/
def DbHandle.contents (db : DbHandle) (data : ByteDb) : FamilyMaps := fun cf =>
  ofBindings ((data cf).toList.filterMap (db.meets cf))

/-- A full merge may be made operand by operand; one that has failed fails with
further operands too. -/
def MergesOneByOne (key : Bytes) (fullMergeFn : MergeFn) : Prop :=
  ∀ base operands operand, operands ≠ [] →
    fullMergeFn key base (operands ++ [operand]) =
      (fullMergeFn key base operands).bind fun value =>
        fullMergeFn key (some value) [operand]

/-- And a partial merge counts as the operands it was made of. -/
structure MergesInParts (key : Bytes) (fullMergeFn partialMergeFn : MergeFn) :
    Prop where
  oneByOne : MergesOneByOne key fullMergeFn
  combine : ∀ base before block merged after, 2 ≤ block.length →
    partialMergeFn key none block = some merged →
      fullMergeFn key base (before ++ (block ++ after)) =
        fullMergeFn key base (before ++ merged :: after)

/-- The two handlers of a registration may be used so, whatever the parameters of
the route. -/
def Registration.MergesInParts (registration : Registration) : Prop :=
  ∀ keyBytes params, RockSolid.MergesInParts keyBytes
    (fun key existingVal operands =>
      registration.fullMergeHandler key existingVal operands params)
    (fun key existingVal operands =>
      registration.partialMergeHandler key existingVal operands params)

/-- Merging that the engine does on its own. -/
inductive BackgroundMerge where
  | mergeAll (at_ : CfKey)
  | mergeSome (at_ : CfKey) (start count : Nat)

def BackgroundMerge.step : BackgroundMerge → MergeStep
  | .mergeAll at_ => .mergeAll at_
  | .mergeSome at_ start count => .mergeSome at_ start count

/-- What the engine may do before each call of a client. -/
def mergedBetween (fullMerge partialMerge : String → MergeFn)
    (work : List BackgroundMerge) (data : ByteDb) : ByteDb :=
  mergeRun fullMerge partialMerge data (work.map BackgroundMerge.step)

end RockSolid
