/-
Module: RockSolid.Semantics.StartedScan
Layer: Semantics
Purpose: `iterate` on everything that has it, and what an iteration with both a
  prefix and a start key is meant to yield.
Trusted boundary: a statement of intent
Main exports: PrefixSearchable.Iterates, PrefixSearchable.iterate,
  PrefixSearchable.iterateState, scanOrder, wantedFrom,
  PrefixSearchable.Yields, onTheWay, Uninterrupted
-/
import RockSolid.Semantics.PrefixSearch
import RockSolid.Semantics.ReferenceScan

namespace RockSolid

open Foundation PullIterator

/-- How it looks a family up. -/
def PrefixSearchable.access : PrefixSearchable → CfAccess
  | .cfStore store => store.access
  | .cfTxnStore store => store.access
  | .cfOptimisticTxnStore store => store.access
  | .defaultStore store => store.cfStore.access
  | .defaultTxnStore store => store.cfStore.access
  | .defaultOptimisticTxnStore store => store.cfStore.access
  | .transactionContext context => context.store.access
  | .optimisticTransactionContext context => context.store.access

/-- It is a context whose transaction has ended. -/
def PrefixSearchable.completed : PrefixSearchable → Bool
  | .transactionContext context => context.completed
  | .optimisticTransactionContext context => context.completed
  | _ => false

/-- It can iterate over the family: the family is open and, in a context, the
transaction has not ended. -/
def PrefixSearchable.Iterates (searchable : PrefixSearchable) (cf : String) :
    Prop :=
  searchable.access.family cf = .ok cf ∧ searchable.completed = false

/-- `iterate` on it, with no engine failure injected.  The wrappers pass the
configuration on as it is. -/
def PrefixSearchable.iterate {cmps : String → Comparator}
    {SerKey S T OutK OutV : Type} [AsBytes SerKey]
    (searchable : PrefixSearchable) (data : Db cmps)
    (config : IterConfig SerKey S T OutK OutV) :
    StoreResult (IterationResult S T OutK OutV) :=
  match searchable with
  | .cfStore store => (CFOperations.iterate store.access data none config).1
  | .cfTxnStore store => (CFOperations.iterate store.access data none config).1
  | .cfOptimisticTxnStore store =>
      (CFOperations.iterate store.access data none config).1
  | .defaultStore store =>
      (CFOperations.iterate store.cfStore.access data none config).1
  | .defaultTxnStore store =>
      (CFOperations.iterate store.cfStore.access data none config).1
  | .defaultOptimisticTxnStore store =>
      (CFOperations.iterate store.cfStore.access data none config).1
  | .transactionContext context => (context.iterate data none config).1.1
  | .optimisticTransactionContext context =>
      (context.iterate data none config).1.1

/-- The same, with the captured state of the control function when `iterate`
returns. -/
def PrefixSearchable.iterateState {cmps : String → Comparator}
    {SerKey S T OutK OutV : Type} [AsBytes SerKey]
    (searchable : PrefixSearchable) (data : Db cmps)
    (config : IterConfig SerKey S T OutK OutV) :
    StoreResult (IterationResult S T OutK OutV) × S :=
  match searchable with
  | .cfStore store => CFOperations.iterate store.access data none config
  | .cfTxnStore store => CFOperations.iterate store.access data none config
  | .cfOptimisticTxnStore store =>
      CFOperations.iterate store.access data none config
  | .defaultStore store =>
      CFOperations.iterate store.cfStore.access data none config
  | .defaultTxnStore store =>
      CFOperations.iterate store.cfStore.access data none config
  | .defaultOptimisticTxnStore store =>
      CFOperations.iterate store.cfStore.access data none config
  | .transactionContext context => (context.iterate data none config).1
  | .optimisticTransactionContext context => (context.iterate data none config).1

/-- How the key met first compares with the key met later. -/
def scanOrder (reverse : Bool) : Ordering :=
  if reverse then .gt else .lt

/-- The entries under a prefix from a start key on, in the direction asked for:
those at or after it ascending, or those at or before it descending. -/
def wantedFrom (prefixBytes startBytes : Bytes) (reverse : Bool)
    (entries : List (Bytes × Bytes)) : List (Bytes × Bytes) :=
  let kept := entries.filter fun entry =>
    hasPrefix prefixBytes entry &&
      compare entry.1 startBytes != scanOrder reverse
  if reverse then kept.reverse else kept

/-- An iteration with a prefix and a start key and without a user control yields
these entries, raw or through any deserializer. -/
structure PrefixSearchable.Yields {SerKey : Type} [AsBytes SerKey]
    (searchable : PrefixSearchable) (data : ByteDb) (cf : String)
    (prefixKey start : SerKey) (reverse : Bool)
    (wanted : List (Bytes × Bytes)) : Prop where
  raw : ∃ iter : RawItemsIter Unit,
    searchable.iterate data (.newRaw cf (some prefixKey) (some start) reverse
      none ()) = .ok (.rawItems iter) ∧
    (drain iter).1 = wanted.map .ok
  deserializing : ∀ {T OutK OutV : Type}
    (deserializer : DeserializerFn T OutK OutV) (captured : T),
    ∃ iter : ControlledIter Unit T OutK OutV,
      searchable.iterate data (.newDeserializing cf (some prefixKey)
        (some start) reverse none () deserializer captured) =
          .ok (.deserializedItems iter) ∧
      (drain iter).1 = (deserializeAll deserializer wanted captured).1

/-- A key that an iteration meets between its start key and another key. -/
def onTheWay (startBytes : Bytes) (reverse : Bool) (between key : Bytes) : Bool :=
  compare between startBytes != scanOrder reverse &&
    compare between key == scanOrder reverse

/-- On the way from the start key to an entry under the prefix no key lies
outside the prefix. -/
def Uninterrupted (prefixBytes startBytes : Bytes) (reverse : Bool)
    (entries : List (Bytes × Bytes)) : Prop :=
  ∀ foreign ∈ entries, hasPrefix prefixBytes foreign = false →
    ∀ entry ∈ entries, hasPrefix prefixBytes entry = true →
      onTheWay startBytes reverse foreign.1 entry.1 = false

end RockSolid
