/-
Module: RockSolid.Semantics.VisitedSearch
Layer: Semantics
Purpose: What a search with a control function does on entries it visits in a
  given order, and the search with expiry of every store.
Trusted boundary: a statement of intent
Main exports: visit, entriesUnder, visitResult, stopAfter, Store.Readable,
  Store.entries, Store.findByPrefixWithExpireVal
-/
import RockSolid.Core.ExpirySearch
import RockSolid.Semantics.PrefixSearch
import RockSolid.Semantics.StoreKinds

namespace RockSolid

/-- Visits the entries in the order given.  The control function decides about
each; the search ends where it says so, or at the first entry it keeps that does
not decode.  Returns the decoded entries and the state of the control
function. -/
def visit {S A : Type} (decode : Bytes → Bytes → StoreResult A)
    (control : ControlFn S) :
    List (Bytes × Bytes) → Nat → S → StoreResult (List A) × S
  | [], _, captured => (.ok [], captured)
  | (key, val) :: rest, index, captured =>
      match control captured key val index with
      | (.stop, captured) => (.ok [], captured)
      | (.skip, captured) => visit decode control rest index captured
      | (.keep, captured) =>
          match decode key val with
          | .error e => (.error e, captured)
          | .ok item =>
              let (items, captured) :=
                visit decode control rest (index + 1) captured
              (items.map (item :: ·), captured)

/-- The entries under the prefix, in ascending order. -/
def entriesUnder {K : Type} [AsBytes K] (prefixKey : K)
    (entries : List (Bytes × Bytes)) : List (Bytes × Bytes) :=
  entries.filter (hasPrefix (AsBytes.asBytes prefixKey))

/-- What a visit of these entries makes a search return. -/
def visitResult {K S : Type} [ByteDecodable K] (V : Type)
    (control : ControlFn S) (captured : S) (entries : List (Bytes × Bytes)) :
    Except String (List (K × ValueWithExpiry V)) × S :=
  let (items, final) :=
    visit (deserializeKvExpiry (K := K) (V := V)) control entries 0 captured
  (items.mapError StoreError.display, final)

/-- The control function that stops once `count` entries were kept. -/
def stopAfter (count : Nat) : ControlFn Unit :=
  fun captured _ _ index =>
    (if index < count then .keep else .stop, captured)

namespace Store

variable {cmps : String → Comparator}

/-- The entries of the family a call is about, in comparator order. -/
def entries (store : Store) (cfName : String) (data : Db cmps) :
    List (Bytes × Bytes) :=
  store.access.db.entries data (store.asked cfName)

/-- No record of that family makes the engine fail. -/
def Readable (store : Store) (cfName : String) (data : Db cmps) : Prop :=
  store.access.db.Readable data (store.asked cfName)

instance (store : Store) (cfName : String) (data : Db cmps) :
    Decidable (store.Readable cfName data) :=
  inferInstanceAs (Decidable (store.access.db.Readable _ _))

/-- `find_by_prefix_with_expire_val`. -/
def findByPrefixWithExpireVal {K V S : Type} [AsBytes K] [ByteDecodable K]
    (store : Store) (cfName : String) (prefixKey : K) (reverse : Bool)
    (controlFn : ControlFn S) (captured : S) (data : Db cmps)
    (fault : Option Fault) :
    Except String (List (K × ValueWithExpiry V)) × S :=
  match store with
  | .cfStore store =>
      store.findByPrefixWithExpireVal data fault cfName prefixKey reverse
        controlFn captured
  | .cfTxnStore store =>
      store.findByPrefixWithExpireVal data fault cfName prefixKey reverse
        controlFn captured
  | .cfOptimisticTxnStore store =>
      store.findByPrefixWithExpireVal data fault cfName prefixKey reverse
        controlFn captured
  | .defaultStore store =>
      store.findByPrefixWithExpireVal data fault prefixKey reverse controlFn
        captured
  | .defaultTxnStore store =>
      store.findByPrefixWithExpireVal data fault prefixKey reverse controlFn
        captured
  | .defaultOptimisticTxnStore store =>
      store.findByPrefixWithExpireVal data fault prefixKey reverse controlFn
        captured

end Store

end RockSolid
