/-
Module: RockSolid.Semantics.RangeScan
Layer: Semantics
Purpose: Scans without a prefix: the entries from an optional start key on in
  either direction, what it means that an iteration offers them to its control
  function, and the searches from a key on everything that has them.
Trusted boundary: a statement of intent
Main exports: rangeOf, entryOf, OfferedInOrder, PrefixSearchable.Offers,
  PrefixSearchable.findFrom, PrefixSearchable.findFromWithExpireVal,
  PrefixSearchable.CollectsFrom
-/
import RockSolid.Semantics.StartedScan
import RockSolid.Semantics.VisitedSearch

namespace RockSolid

open Foundation PullIterator

/-- Of entries in ascending order, all of them, or those at or after the start
key; or in descending order all of them, or those at or before it. -/
def rangeOf (start : Option Bytes) (reverse : Bool)
    (entries : List (Bytes × Bytes)) : List (Bytes × Bytes) :=
  match start, reverse with
  | none, false => entries
  | none, true => entries.reverse
  | some startBytes, false =>
      entries.filter fun entry => (compare entry.1 startBytes).isGE
  | some startBytes, true =>
      (entries.filter fun entry => (compare entry.1 startBytes).isLE).reverse

/-- The entry a control function was called with. -/
def entryOf (call : ControlCall) : Bytes × Bytes :=
  (call.1, call.2.1)

/-- The calls offer the entries in order and without a gap: all of them, or up to
one at which the control function said stop. -/
structure OfferedInOrder {S : Type} (control : ControlFn S)
    (entries : List (Bytes × Bytes)) (calls : List ControlCall) : Prop where
  initial : calls.map entryOf <+: entries
  complete : calls.map entryOf = entries ∨
    ∃ before call captured, calls = before ++ [call] ∧
      (control captured call.1 call.2.1 call.2.2).1 = .stop

namespace PrefixSearchable

variable {cmps : String → Comparator} {SerKey K V S : Type}

/-- An iteration without a prefix offers these entries to its control function,
in order and up to the first stop, and yields those it keeps: raw, through any
deserializer, or by the calls alone.  The control function writes down how it was
called. -/
structure Offers [AsBytes SerKey] (searchable : PrefixSearchable) (data : Db cmps)
    (cf : String) (start : Option SerKey) (reverse : Bool)
    (control : ControlFn S) (captured : S) (range : List (Bytes × Bytes)) :
    Prop where
  inOrder : OfferedInOrder control range
    (referenceScan none (some control) none range 0 captured).calls
  raw : ∃ iter : RawItemsIter (S × List ControlCall),
    let scan := referenceScan none (some control) none range 0 captured
    (searchable.iterateState data (.newRaw cf none start reverse
      (some (recording control)) (captured, []))).1 = .ok (.rawItems iter) ∧
    (drain iter).1 = scan.kept.map .ok ∧
    (drain iter).2.captured = (scan.captured, scan.calls)
  deserializing : ∀ {T OutK OutV : Type}
    (deserializer : DeserializerFn T OutK OutV) (state : T),
    ∃ iter : ControlledIter (S × List ControlCall) T OutK OutV,
      let scan := referenceScan none (some control) none range 0 captured
      (searchable.iterateState data (.newDeserializing cf none start reverse
        (some (recording control)) (captured, []) deserializer state)).1 =
          .ok (.deserializedItems iter) ∧
      (drain iter).1 = (deserializeAll deserializer scan.kept state).1 ∧
      (drain iter).2.captured = (scan.captured, scan.calls)
  controlOnly :
    let scan := referenceScan none (some control) none range 0 captured
    searchable.iterateState data (.newControlOnly cf none start reverse
      (recording control) (captured, [])) =
        (.ok .effectCompleted, (scan.captured, scan.calls))

variable [AsBytes K] [ByteDecodable K] (searchable : PrefixSearchable)
  (data : Db cmps) (cf : String) (start : K) (controlFn : ControlFn S)
  (captured : S)

/-- `find_from` on it, with no engine failure injected. -/
def findFrom [DeserializeOwned V] (direction : Direction) :
    StoreResult (List (K × V)) :=
  match searchable with
  | .cfStore store =>
      CFOperations.findFrom store.access data none cf start direction controlFn
        captured
  | .cfTxnStore store =>
      CFOperations.findFrom store.access data none cf start direction controlFn
        captured
  | .cfOptimisticTxnStore store =>
      CFOperations.findFrom store.access data none cf start direction controlFn
        captured
  | .defaultStore store =>
      DefaultCFOperations.findFrom store.cfStore.access none data start direction
        controlFn captured
  | .defaultTxnStore store =>
      DefaultCFOperations.findFrom store.cfStore.access none data start direction
        controlFn captured
  | .defaultOptimisticTxnStore store =>
      DefaultCFOperations.findFrom store.cfStore.access none data start direction
        controlFn captured
  | .transactionContext context =>
      (context.findFrom data none cf start direction controlFn captured).1
  | .optimisticTransactionContext context =>
      (context.findFrom data none cf start direction controlFn captured).1

/-- `find_from_with_expire_val` on it, with no engine failure injected. -/
def findFromWithExpireVal (reverse : Bool) :
    Except String (List (K × ValueWithExpiry V)) :=
  match searchable with
  | .cfStore store =>
      store.findFromWithExpireVal data none start reverse controlFn captured cf
  | .cfTxnStore store =>
      store.findFromWithExpireVal data none start reverse controlFn captured cf
  | .cfOptimisticTxnStore store =>
      store.findFromWithExpireVal data none start reverse controlFn captured cf
  | .defaultStore store =>
      store.findFromWithExpireVal data none start reverse controlFn captured
  | .defaultTxnStore store =>
      store.findFromWithExpireVal data none start reverse controlFn captured
  | .defaultOptimisticTxnStore store =>
      store.findFromWithExpireVal data none start reverse controlFn captured
  | .transactionContext context =>
      (context.findFromWithExpireVal data none cf start reverse controlFn
        captured).1
  | .optimisticTransactionContext context =>
      (context.findFromWithExpireVal data none cf start reverse controlFn
        captured).1

omit [ByteDecodable K] in
/-- What a search collects from its iteration, and the state of its control
function when the collection ends, is what a visit of these entries gives: they
are offered in order, up to the first stop or the first kept entry that does not
decode. -/
def CollectsFrom (config : IterConfig K S Unit K V)
    (decode : Bytes → Bytes → StoreResult (K × V))
    (range : List (Bytes × Bytes)) : Prop :=
  ∃ iter : ControlledIter S Unit K V,
    (searchable.iterateState data config).1 = .ok (.deserializedItems iter) ∧
      ((collectRest iter).1, (collectRest iter).2.captured) =
        visit decode controlFn range 0 captured

end PrefixSearchable

end RockSolid
