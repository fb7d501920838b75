/-
Module: RockSolid.Proofs.KeyIdentity
Layer: Proofs
Purpose: Which byte strings a column family keeps apart.  A get returns the
  value last put under a key the installed comparator calls equal; this is the
  same byte string under the default comparator, but not under an order that
  ignores case or reads every undecodable key as the empty string.
Trusted boundary: none
Main exports: record_runKeyOps, getRaw_returns_lastPut,
  comparators_merge_distinct_keys
-/
import RockSolid.Semantics.KeyIdentity

namespace RockSolid

open Foundation

variable {cmps : String → Comparator}

/-- One operation on an open family changes the records of the keys equal to its
own and nothing else. -/
theorem record_run {access : CfAccess} {cf : String}
    [Std.TransCmp (cmps cf)] (opened : access.family cf = .ok cf) (op : KeyOp) (data : Db cmps)
    (key : Bytes) {found : Option Bytes}
    (stored : data.record ⟨cf, key⟩ = ⟨found, []⟩) :
    ((op.run access cf data).2).record ⟨cf, key⟩ =
      ⟨op.update (fun k => cmps cf k key == .eq) found, []⟩ := by
  cases op with
  | put k value =>
      have written : ((KeyOp.put k value).run access cf data).2 =
          data.apply (.put ⟨cf, k⟩ value) := by
        simp [KeyOp.run, CFOperations.putRaw, Method.bind_apply, serializeKey,
          opened, CFOperations.write, AsBytes.asBytes]
      rw [written, Db.record_apply]
      by_cases same : cmps cf k key = .eq
      · simp [SameKey, WriteOp.target, WriteOp.effect, KeyOp.update, same]
      · simp [SameKey, WriteOp.target, KeyOp.update, same, stored]
  | delete k =>
      have written : ((KeyOp.delete k).run access cf data).2 =
          data.apply (.delete ⟨cf, k⟩) := by
        simp [KeyOp.run, CFOperations.delete, Method.bind_apply, serializeKey,
          opened, CFOperations.write, AsBytes.asBytes]
      rw [written, Db.record_apply]
      by_cases same : cmps cf k key = .eq
      · simp [SameKey, WriteOp.target, WriteOp.effect, KeyOp.update, same,
          Record.absent]
      · simp [SameKey, WriteOp.target, KeyOp.update, same, stored]

/-- After any sequence of operations the record of a key holds what was last put
under a key equal to it. -/
theorem record_runKeyOps {access : CfAccess} {cf : String}
    [Std.TransCmp (cmps cf)] (opened : access.family cf = .ok cf) (ops : List KeyOp) (data : Db cmps)
    (key : Bytes) {found : Option Bytes}
    (stored : data.record ⟨cf, key⟩ = ⟨found, []⟩) :
    (runKeyOps access cf ops data).record ⟨cf, key⟩ =
      ⟨ops.foldl (KeyOp.update fun k => cmps cf k key == .eq) found, []⟩ := by
  induction ops generalizing data found with
  | nil => exact stored
  | cons op ops inductionHypothesis =>
      exact inductionHypothesis _ (record_run opened op data key stored)

theorem getRaw_runKeyOps {access : CfAccess} {cf : String}
    [Std.TransCmp (cmps cf)] (opened : access.family cf = .ok cf) (ops : List KeyOp) (key : Bytes) :
    CFOperations.getRaw access cf key
      (runKeyOps access cf ops (Db.empty : Db cmps)) none =
      .ok (lastPut (fun k => cmps cf k key == .eq) ops) := by
  have stored := record_runKeyOps opened ops (Db.empty : Db cmps) key
    (Db.record_empty ⟨cf, key⟩)
  have read : access.db.read (runKeyOps access cf ops (Db.empty : Db cmps))
      ⟨cf, key⟩ = .ok (lastPut (fun k => cmps cf k key == .eq) ops) := by
    rw [DbHandle.read, stored]
    rfl
  simp only [CFOperations.getRaw, serializeKey, opened, orFault]
  change (access.db.read _ ⟨cf, key⟩).mapError StoreError.rocksDb = _
  rw [read]
  rfl

/-- Two notions of sameness that agree on the keys of the sequence give the same
last put. -/
theorem lastPut_congr {same other : Bytes → Bool} {ops : List KeyOp}
    (agree : ∀ op ∈ ops, same op.key = other op.key) :
    lastPut same ops = lastPut other ops := by
  have step (found : Option Bytes) :
      ops.foldl (KeyOp.update same) found =
        ops.foldl (KeyOp.update other) found := by
    induction ops generalizing found with
    | nil => rfl
    | cons op ops inductionHypothesis =>
        have head : op.update same found = op.update other found := by
          have key := agree op List.mem_cons_self
          cases op <;> simp_all [KeyOp.update, KeyOp.key]
        rw [List.foldl_cons, List.foldl_cons, head]
        exact inductionHypothesis
          (fun later member => agree later (List.mem_cons_of_mem _ member)) _
  exact step none

/-- A get returns what was last put under a key the installed comparator calls
equal to the one asked for.  Under the default comparator that is the same byte
string; the natural orders compare an undecodable key as the empty string; and a
key the comparator tells apart from every other key used is looked up exactly. -/
theorem getRaw_returns_lastPut {orders : NaturalOrders}
    (choice : String → RockSolidComparatorOpt) {access : CfAccess} {cf : String}
    (order : Std.TransCmp (installedComparator orders (choice cf)))
    (opened : access.family cf = .ok cf) (ops : List KeyOp) (key : Bytes) :
    let same := fun k => installedComparator orders (choice cf) k key == .eq
    let answer := CFOperations.getRaw access cf key
      (runKeyOps access cf ops
        (Db.empty : Db (installedComparators orders choice))) none
    answer = .ok (lastPut same ops) ∧
    (choice cf = .none → ∀ k, same k = true ↔ k = key) ∧
    (∀ ignoreCase, choice cf = .natural ignoreCase → ∀ k, same k =
      ((if ignoreCase then orders.natordCompareIgnoreCase
        else orders.natordCompare) (utf8OrEmpty k) (utf8OrEmpty key) == .eq)) ∧
    ((∀ op ∈ ops, same op.key = true → op.key = key) →
      answer = .ok (lastPut (· == key) ops)) := by
  intro same answer
  have read : answer = .ok (lastPut same ops) :=
    getRaw_runKeyOps opened ops key
  refine ⟨read, ?_, ?_, ?_⟩
  · intro chosen k
    have bytewise : same k = (compare k key == .eq) := by
      simp only [same, chosen]
      rfl
    rw [bytewise, beq_iff_eq, Std.LawfulEqOrd.compare_eq_iff_eq]
  · intro ignoreCase chosen k
    simp only [same, chosen]
    cases ignoreCase <;> rfl
  · intro distinct
    have itself : installedComparators orders choice cf key key = .eq :=
      Std.ReflCmp.compare_self
    have reflexive : same key = true := beq_iff_eq.mpr itself
    have exact : lastPut same ops = lastPut (· == key) ops := by
      apply lastPut_congr
      intro op member
      by_cases identical : op.key = key
      · simp [identical, reflexive]
      · have differs : same op.key = false := by
          simpa using fun hit => identical (distinct op member hit)
        simp [differs, identical]
    rw [read, exact]

/-- Two keys in a naturally ordered family, one of them put twice. -/
theorem getRaw_returns_lastPut_natural :
    CFOperations.getRaw (RocksDbCFStore.mk ⟨["items"], fun _ _ _ _ => none⟩).access
      "items" ([97, 50] : Bytes)
      (runKeyOps (RocksDbCFStore.mk ⟨["items"], fun _ _ _ _ => none⟩).access
        "items" [.put [97, 50] [1], .put [97, 49, 48] [2], .put [97, 50] [3]]
        (Db.empty : Db (installedComparators tokenOrders fun _ =>
          .natural false))) none = .ok (some [3]) :=
  ((getRaw_returns_lastPut (fun _ => .natural false)
    (tokenOrders_transCmp (.natural false)) (by rfl) _ _).2.2.2
      (by decide)).trans (by decide)

/-- An order that folds case merges keys that differ in letter case, and the natural
order merges all keys that are not UTF-8. -/
theorem comparators_merge_distinct_keys :
    tokenOrders.FoldsCase ∧
      (∀ opt, Std.TransCmp (installedComparator tokenOrders opt)) ∧
      ¬ KeepsKeys tokenOrders (.natural true) ∧
      ¬ KeepsKeys tokenOrders (.natural false) := by
  refine ⟨tokenOrders_foldsCase, tokenOrders_transCmp, ?_, ?_⟩
  · intro keeps
    have wrong := keeps (RocksDbCFStore.mk ⟨[], fun _ _ _ _ => none⟩).access
      "default" rfl [.put [97] [1], .put [65] [2]] [97]
    revert wrong
    decide
  · intro keeps
    have wrong := keeps (RocksDbCFStore.mk ⟨[], fun _ _ _ _ => none⟩).access
      "default" rfl [.put [255] [1], .put [254] [2]] [255]
    revert wrong
    decide

end RockSolid
