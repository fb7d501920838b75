/-
Module: RockSolid.Semantics.MergeOperands
Layer: Semantics
Purpose: What the checks of merge operands are meant to say: all operands decode,
  with one operator; and runs of `merge_with_expiry` on any store.
Trusted boundary: a statement of intent
Main exports: Store.mergeWithExpiry, Store.mergeAllWithExpiry, OneOperator,
  Unites, operandExpiry, operandValue, LargestExpiry, HaveHeaders, EndsBeforeShort
-/
import RockSolid.Core.MergeOperands
import RockSolid.Foundation.BigEndian
import RockSolid.Semantics.StoreKinds

namespace RockSolid

open Foundation

variable {cmps : String → Comparator} {K V : Type}

/-- `merge_with_expiry`. -/
def Store.mergeWithExpiry [AsBytes K] [Serialize V] (store : Store)
    (cfName : String) (key : K) (value : V) (expireTime : UInt64)
    (fault : Option Fault) : Method StoreError (Db cmps) Unit :=
  match store with
  | .cfStore store =>
      CFOperations.mergeWithExpiry store.access cfName key value expireTime fault
  | .cfTxnStore store =>
      CFOperations.mergeWithExpiry store.access cfName key value expireTime fault
  | .cfOptimisticTxnStore store =>
      CFOperations.mergeWithExpiry store.access cfName key value expireTime fault
  | .defaultStore store =>
      DefaultCFOperations.mergeWithExpiry store.cfStore.access cfName key value
        expireTime fault
  | .defaultTxnStore store =>
      DefaultCFOperations.mergeWithExpiry store.cfStore.access cfName key value
        expireTime fault
  | .defaultOptimisticTxnStore store =>
      DefaultCFOperations.mergeWithExpiry store.cfStore.access cfName key value
        expireTime fault

/-- Merges the values into one key, one call after the other, to the first call
that fails. -/
def Store.mergeAllWithExpiry [AsBytes K] [Serialize V] (store : Store)
    (cfName : String) (key : K) (pairs : List (V × UInt64))
    (faults : Nat → Option Fault) : Method StoreError (Db cmps) Unit :=
  match pairs with
  | [] => pure ()
  | (value, expireTime) :: pairs => do
      store.mergeWithExpiry cfName key value expireTime (faults 0)
      store.mergeAllWithExpiry cfName key pairs fun n => faults (n + 1)

/-- All values carry one operator. -/
def OneOperator (values : List (MergeValue V)) : Prop :=
  ∃ operator, ∀ value ∈ values, value.operator = operator

/-- The operands decode to the values, in order, and these carry one
operator. -/
def Unites [DeserializeOwned (MergeValue V)] (operands : List Bytes)
    (values : List (MergeValue V)) : Prop :=
  operands.map deserializeValue = values.map .ok ∧ OneOperator values

/-- The header of an operand: a big-endian `u64`. -/
def operandExpiry (operand : Bytes) : UInt64 :=
  .ofNat (ofBigEndian (operand.take 8))

/-- What comes after the header. -/
def operandValue (operand : Bytes) : Bytes :=
  operand.drop 8

/-- The largest of all headers. -/
def LargestExpiry (operands : List Bytes) (expireTime : UInt64) : Prop :=
  (∃ operand ∈ operands, operandExpiry operand = expireTime) ∧
    ∀ operand ∈ operands, operandExpiry operand ≤ expireTime

/-- No operand is shorter than a header. -/
def HaveHeaders (operands : List Bytes) : Prop :=
  ∀ operand ∈ operands, ¬ operand.length < 8

/-- No operand without a whole header is reached: those before it already do not
decode with one operator. -/
def EndsBeforeShort (V : Type) [DeserializeOwned (MergeValue V)]
    (operands : List Bytes) : Prop :=
  ∀ before short after, operands = before ++ short :: after →
    HaveHeaders before → short.length < 8 →
      ∀ values : List (MergeValue V), ¬ Unites (before.map operandValue) values

end RockSolid
