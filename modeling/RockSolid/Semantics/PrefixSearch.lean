/-
Module: RockSolid.Semantics.PrefixSearch
Layer: Semantics
Purpose: Everything `find_by_prefix` can be called on, what each of them sees,
  and what a prefix search is meant to return.
Trusted boundary: a statement of intent
Main exports: PrefixSearchable, PrefixSearchable.findByPrefix, utf8Keys,
  hasPrefix, decodeEntry, FindsExactly, FindsSet, CompleteSearch
-/
import RockSolid.Core.TransactionContext
import RockSolid.Core.OptimisticContext

namespace RockSolid

/-- The stores, their default-family wrappers, and the transaction contexts. -/
inductive PrefixSearchable where
  | cfStore (store : RocksDbCFStore)
  | cfTxnStore (store : RocksDbCFTxnStore)
  | cfOptimisticTxnStore (store : RocksDbCFOptimisticTxnStore)
  | defaultStore (store : RocksDbStore)
  | defaultTxnStore (store : RocksDbTxnStore)
  | defaultOptimisticTxnStore (store : RocksDbOptimisticTxnStore)
  | transactionContext (context : TransactionContext)
  | optimisticTransactionContext (context : OptimisticTransactionContext)

namespace PrefixSearchable

variable {cmps : String → Comparator}

/-- The open database behind it. -/
def db : PrefixSearchable → DbHandle
  | .cfStore store => store.db
  | .cfTxnStore store => store.db
  | .cfOptimisticTxnStore store => store.db
  | .defaultStore store => store.cfStore.db
  | .defaultTxnStore store => store.cfStore.db
  | .defaultOptimisticTxnStore store => store.cfStore.db
  | .transactionContext context => context.store.db
  | .optimisticTransactionContext context => context.store.db

/-- The contents it sees: a context sees its own staged writes. -/
def sees (searchable : PrefixSearchable) (data : Db cmps) : Db cmps :=
  match searchable with
  | .transactionContext context => context.txn.view data
  | .optimisticTransactionContext context => context.txn.view data
  | _ => data

/-- It can search the family: the family is open, a wrapper is asked for the
default one only, and a context has not ended. -/
def Opens (searchable : PrefixSearchable) (cf : String) : Prop :=
  match searchable with
  | .cfStore store => store.access.family cf = .ok cf
  | .cfTxnStore store => store.access.family cf = .ok cf
  | .cfOptimisticTxnStore store => store.access.family cf = .ok cf
  | .defaultStore _ | .defaultTxnStore _ | .defaultOptimisticTxnStore _ =>
      cf = defaultColumnFamilyName
  | .transactionContext context =>
      context.store.access.family cf = .ok cf ∧ context.completed = false
  | .optimisticTransactionContext context =>
      context.store.access.family cf = .ok cf ∧ context.completed = false

/-- `find_by_prefix` on it, with no engine failure injected. -/
def findByPrefix {K V : Type} [AsBytes K] [ByteDecodable K]
    [DeserializeOwned V] (searchable : PrefixSearchable) (data : Db cmps)
    (cf : String) (prefixKey : K) (direction : Direction) :
    StoreResult (List (K × V)) :=
  match searchable with
  | .cfStore store => store.findByPrefix data none cf prefixKey direction
  | .cfTxnStore store => store.findByPrefix data none cf prefixKey direction
  | .cfOptimisticTxnStore store =>
      store.findByPrefix data none cf prefixKey direction
  | .defaultStore store => store.findByPrefix data none prefixKey direction
  | .defaultTxnStore store => store.findByPrefix data none prefixKey direction
  | .defaultOptimisticTxnStore store =>
      store.findByPrefix data none prefixKey direction
  | .transactionContext context =>
      (context.findByPrefix data none cf prefixKey direction).1
  | .optimisticTransactionContext context =>
      (context.findByPrefix data none cf prefixKey direction).1

/-- The entries it sees in a family, in comparator order. -/
def entries (searchable : PrefixSearchable) (data : Db cmps) (cf : String) :
    List (Bytes × Bytes) :=
  searchable.db.entries (searchable.sees data) cf

/-- No record it sees in the family makes the engine fail. -/
def Readable (searchable : PrefixSearchable) (data : Db cmps) (cf : String) :
    Prop :=
  searchable.db.Readable (searchable.sees data) cf

instance (searchable : PrefixSearchable) (data : Db cmps) (cf : String) :
    Decidable (searchable.Readable data cf) :=
  inferInstanceAs (Decidable (searchable.db.Readable _ cf))

end PrefixSearchable

/-- A decoder of texts. -/
@[reducible] def utf8Keys : ByteDecodable String where
  decode bytes :=
    match fromUtf8 bytes with
    | some text => .ok text
    | none => .error "not UTF-8"

theorem utf8Keys_decodesUtf8 : DecodesUtf8 utf8Keys := by
  intro bytes text
  simp only [ByteDecodable.decode]
  cases fromUtf8 bytes <;> simp

/-- The entry's key bytes start with the prefix. -/
def hasPrefix (prefixBytes : Bytes) (entry : Bytes × Bytes) : Bool :=
  prefixBytes.isPrefixOf entry.1

/-- The deserializer every prefix search uses. -/
abbrev decodeEntry {K V : Type} [ByteDecodable K] [DeserializeOwned V]
    (entry : Bytes × Bytes) : StoreResult (K × V) :=
  deserializeKv entry.1 entry.2

/-- The search returns exactly the entries under the prefix, in the order given,
or an error as soon as one of them does not decode. -/
structure FindsExactly {K V : Type} [ByteDecodable K]
    [DeserializeOwned V] (entries : List (Bytes × Bytes))
    (prefixBytes : Bytes) (result : StoreResult (List (K × V))) : Prop where
  decodable : ∀ decoded : Bytes × Bytes → K × V,
    (∀ entry ∈ entries, hasPrefix prefixBytes entry = true →
      deserializeKv entry.1 entry.2 = .ok (decoded entry)) →
    result = .ok ((entries.filter (hasPrefix prefixBytes)).map decoded)
  undecodable : ∀ entry ∈ entries, hasPrefix prefixBytes entry = true →
    ∀ e, deserializeKv (K := K) (V := V) entry.1 entry.2 = .error e →
    ∃ e', result = .error e'

/-- The search returns the set of the entries under the prefix, or an error as
soon as one of them does not decode. -/
structure FindsSet {K V : Type} [ByteDecodable K] [DeserializeOwned V]
    (entries : List (Bytes × Bytes)) (prefixBytes : Bytes)
    (result : StoreResult (List (K × V))) : Prop where
  decodable : ∀ decoded : Bytes × Bytes → K × V,
    (∀ entry ∈ entries, hasPrefix prefixBytes entry = true →
      deserializeKv entry.1 entry.2 = .ok (decoded entry)) →
    ∃ found, result = .ok found ∧ ∀ item, item ∈ found ↔
      ∃ entry ∈ entries, hasPrefix prefixBytes entry = true ∧
        decoded entry = item
  undecodable : ∀ entry ∈ entries, hasPrefix prefixBytes entry = true →
    ∀ e, deserializeKv (K := K) (V := V) entry.1 entry.2 = .error e →
    ∃ e', result = .error e'

/-- Whatever the value codec, the search finds the set of the entries under the
prefix. -/
structure CompleteSearch [ByteDecodable String] {cmps : String → Comparator}
    (searchable : PrefixSearchable) (data : Db cmps) (cf prefixKey : String) :
    Prop where
  finds : ∀ (V : Type) [DeserializeOwned V],
    FindsSet (K := String) (V := V) (searchable.entries data cf)
      (AsBytes.asBytes prefixKey)
      (searchable.findByPrefix data cf prefixKey .forward)

end RockSolid
