/-
Module: RockSolid.Semantics.CompactedMerges
Layer: Semantics
Purpose: Writes to a database whose engine merges operands at times of its own
  choosing, with the two functions of a merge operator; when such functions agree
  with each other; and that two contents answer every call of a store alike.
Trusted boundary: a statement of intent
Main exports: MergeStep, mergeRun, MergesConsistently,
  Registration.MergesConsistently, routedFullMerge, routedPartialMerge, SameAnswers
-/
import RockSolid.Engine.Compaction
import RockSolid.Semantics.ClientPrograms
import RockSolid.Semantics.MergeRouting
import RockSolid.Semantics.VisitedSearch

namespace RockSolid

open Foundation

/-- A write that was asked for, a full merge of the operands of a key, or a
partial merge of some of them. -/
inductive MergeStep where
  | write (op : WriteOp)
  | mergeAll (at_ : CfKey)
  | mergeSome (at_ : CfKey) (start count : Nat)

namespace MergeStep

/-- The step on the database, with the merge functions of each family. -/
def engine (fullMerge partialMerge : String → MergeFn) :
    MergeStep → EngineStep
  | .write op => .write op
  | .mergeAll at_ => .compact at_ (.fullMerge (fullMerge at_.cf))
  | .mergeSome at_ start count =>
      .compact at_ (.partialMerge (partialMerge at_.cf) start count)

/-- The write, if it is one. -/
def op : MergeStep → Option WriteOp
  | .write op => some op
  | _ => none

end MergeStep

/-- The contents after the steps. -/
def mergeRun (fullMerge partialMerge : String → MergeFn) (data : ByteDb)
    (steps : List MergeStep) : ByteDb :=
  (KeyedStore.applyBatch (CompactedDb.mk data)
    (steps.map (MergeStep.engine fullMerge partialMerge))).data

/-- A merge may be made in parts: the result of a merge counts as the value
before the next, and a partial merge counts as the operands it was made of. -/
structure MergesConsistently (key : Bytes) (fullMergeFn partialMergeFn : MergeFn) :
    Prop where
  collapse : ∀ base operands value more, operands ≠ [] → more ≠ [] →
    fullMergeFn key base operands = some value →
      fullMergeFn key base (operands ++ more) =
        fullMergeFn key (some value) more
  combine : ∀ base before block merged after, 2 ≤ block.length →
    partialMergeFn key none block = some merged →
      fullMergeFn key base (before ++ (block ++ after)) =
        fullMergeFn key base (before ++ merged :: after)

/-- The two handlers of a registration do, whatever the parameters of the
route. -/
def Registration.MergesConsistently (registration : Registration) : Prop :=
  ∀ keyBytes params, RockSolid.MergesConsistently keyBytes
    (fun key existingVal operands =>
      registration.fullMergeHandler key existingVal operands params)
    (fun key existingVal operands =>
      registration.partialMergeHandler key existingVal operands params)

section Routed

variable (accepts : List String → String → Except String Unit)
  (selects : List String → String → Option (Nat × Params))

/-- The routers after registrations through `add_route`, by any builders and with
any of the calls failing. -/
def routersAfter (history : List Registration) :
    MergeRouters (.ofPatterns MergeRouteHandlerFn accepts selects) :=
  (Registry.after (history.map Registration.step)).statics

/-- `router_full_merge_fn` on the routes registered so far. -/
def routedFullMerge (history : List Registration) : MergeFn :=
  routerFullMergeFn
    (Matchit.router _ (routersAfter accepts selects history).fullMergeRouter)

/-- `router_partial_merge_fn` on the routes registered so far. -/
def routedPartialMerge (history : List Registration) : MergeFn :=
  routerPartialMergeFn
    (Matchit.router _ (routersAfter accepts selects history).partialMergeRouter)

end Routed

/-- A store answers every read, search and iteration of a family in the same way
over both contents: one key or many, raw, deserialized or with expiry. -/
structure SameAnswers (store : Store) (cfName : String)
    (first second : ByteDb) : Prop where
  get : ∀ {K V : Type} [AsBytes K] [DeserializeOwned V] (key : K) (fault),
    store.get (V := V) cfName key first fault = store.get cfName key second fault
  getRaw : ∀ {K : Type} [AsBytes K] (key : K) (fault),
    store.getRaw cfName key first fault = store.getRaw cfName key second fault
  getWithExpiry : ∀ {K V : Type} [AsBytes K] (key : K) (fault),
    store.getWithExpiry (V := V) cfName key first fault =
      store.getWithExpiry cfName key second fault
  «exists» : ∀ {K : Type} [AsBytes K] (key : K) (fault),
    store.exists cfName key first fault = store.exists cfName key second fault
  multiget : ∀ {K V : Type} [AsBytes K] [DeserializeOwned V] (keys : List K)
      (faults),
    store.multiget (V := V) cfName keys first faults =
      store.multiget cfName keys second faults
  multigetRaw : ∀ {K : Type} [AsBytes K] (keys : List K) (faults),
    store.multigetRaw cfName keys first faults =
      store.multigetRaw cfName keys second faults
  multigetWithExpiry : ∀ {K V : Type} [AsBytes K] (keys : List K) (faults),
    store.multigetWithExpiry (V := V) cfName keys first faults =
      store.multigetWithExpiry cfName keys second faults
  iterate : ∀ {K S T OutK OutV : Type} [AsBytes K]
      (config : IterConfig K S T OutK OutV) (fault),
    config.cfName = store.asked cfName →
      CFOperations.iterate store.access first fault config =
        CFOperations.iterate store.access second fault config
  findByPrefix : ∀ {K V : Type} [AsBytes K] [ByteDecodable K]
      [DeserializeOwned V] (prefixKey : K) (direction : Direction) (fault),
    store.findByPrefix (V := V) cfName first fault prefixKey direction =
      store.findByPrefix cfName second fault prefixKey direction
  findFrom : ∀ {K V S : Type} [AsBytes K] [ByteDecodable K]
      [DeserializeOwned V] (startKey : K) (direction : Direction)
      (controlFn : ControlFn S) (captured : S) (fault),
    store.findFrom (V := V) cfName first fault startKey direction controlFn
        captured =
      store.findFrom cfName second fault startKey direction controlFn captured
  findByPrefixWithExpireVal : ∀ {K V S : Type} [AsBytes K] [ByteDecodable K]
      (prefixKey : K) (reverse : Bool) (controlFn : ControlFn S) (captured : S)
      (fault),
    store.findByPrefixWithExpireVal (V := V) cfName prefixKey reverse controlFn
        captured first fault =
      store.findByPrefixWithExpireVal cfName prefixKey reverse controlFn captured
        second fault
  findFromWithExpireVal : ∀ {K V S : Type} [AsBytes K] [ByteDecodable K]
      (start : K) (reverse : Bool) (controlFn : ControlFn S) (captured : S)
      (fault),
    store.findFromWithExpireVal (V := V) cfName first fault start reverse
        controlFn captured =
      store.findFromWithExpireVal cfName second fault start reverse controlFn
        captured

end RockSolid
