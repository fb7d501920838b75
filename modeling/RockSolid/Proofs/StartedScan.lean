/-
Module: RockSolid.Proofs.StartedScan
Layer: Proofs
Purpose: An iteration with a prefix and a start key seeks to the start key and
  ends at the first key outside the prefix.  It yields what is wanted exactly
  when no such key lies on the way to an entry under the prefix; a start key
  under the prefix is always safe.
Trusted boundary: none
Main exports: PrefixSearchable.iterateState_eq, yields_iff_takeWhile,
  uninterrupted_of_hasPrefix, startedScan_yields_iff
-/
import RockSolid.Foundation.FallibleList
import RockSolid.Proofs.PrefixSearch
import RockSolid.Semantics.StartedScan

namespace RockSolid

open Foundation PullIterator

variable {cmps : String → Comparator} {SerKey S T OutK OutV : Type}
  [AsBytes SerKey]

/-- An iteration processes the stream of one engine iterator. -/
theorem PrefixSearchable.iterateState_eq (searchable : PrefixSearchable)
    (data : Db cmps) (config : IterConfig SerKey S T OutK OutV)
    (iterates : searchable.Iterates config.cfName) :
    searchable.iterateState data config =
      processResult config.mode
        (searchable.db.iterator (searchable.sees data) config.cfName
          config.rawMode)
        (effectiveControl (config.prefixKey.map AsBytes.asBytes) config.control)
        config.captured := by
  obtain ⟨found, running⟩ := iterates
  cases searchable with
  | transactionContext context =>
      have checked := TransactionContext.checkCompleted_of_running running
      have handle : context.store.access.family config.cfName =
        .ok config.cfName := found
      rw [iterateState, TransactionContext.iterate, checked]
      simp only [iterateWith_eq, handle]
      rfl
  | optimisticTransactionContext context =>
      have checked :=
        OptimisticTransactionContext.checkCompleted_of_running running
      have handle : context.store.access.family config.cfName =
        .ok config.cfName := found
      rw [iterateState, OptimisticTransactionContext.iterate, checked]
      simp only [iterateWith_eq, handle]
      rfl
  | _ =>
      simp only [access] at found
      simp only [iterateState, CFOperations.iterate, iterateWith_eq, found]
      rfl

theorem PrefixSearchable.iterate_eq_state (searchable : PrefixSearchable)
    (data : Db cmps) (config : IterConfig SerKey S T OutK OutV) :
    searchable.iterate data config = (searchable.iterateState data config).1 := by
  cases searchable <;> rfl

theorem PrefixSearchable.iterate_eq (searchable : PrefixSearchable)
    (data : Db cmps) (config : IterConfig SerKey S T OutK OutV)
    (iterates : searchable.Iterates config.cfName) :
    searchable.iterate data config =
      (processResult config.mode
        (searchable.db.iterator (searchable.sees data) config.cfName
          config.rawMode)
        (effectiveControl (config.prefixKey.map AsBytes.asBytes) config.control)
        config.captured).1 := by
  rw [iterate_eq_state, searchable.iterateState_eq data config iterates]

/-- The mode of the engine iterator when a start key is given. -/
theorem rawMode_of_start (config : IterConfig SerKey S T OutK OutV)
    {start : SerKey} (started : config.start = some start) :
    config.rawMode = .fromKey (AsBytes.asBytes start)
      (if config.reverse then .reverse else .forward) := by
  simp only [IterConfig.rawMode, started]
  cases config.prefixKey <;> rfl

/-- What is walked from the start key, in the direction asked for. -/
def walkedFrom (startBytes : Bytes) (reverse : Bool)
    (entries : List (Bytes × Bytes)) : List (Bytes × Bytes) :=
  (IteratorMode.fromKey startBytes
    (if reverse then .reverse else .forward)).shows compare entries

theorem walkedFrom_eq (startBytes : Bytes) (reverse : Bool)
    (entries : List (Bytes × Bytes)) :
    walkedFrom startBytes reverse entries =
      let reached := entries.filter fun entry =>
        compare entry.1 startBytes != scanOrder reverse
      if reverse then reached.reverse else reached := by
  cases reverse <;> rfl

theorem mem_walkedFrom {startBytes : Bytes} {reverse : Bool}
    {entries : List (Bytes × Bytes)} {entry : Bytes × Bytes} :
    entry ∈ walkedFrom startBytes reverse entries ↔
      entry ∈ entries ∧ compare entry.1 startBytes ≠ scanOrder reverse := by
  rw [walkedFrom_eq]
  cases reverse <;> simp

/-- The entries wanted are those under the prefix among the ones walked. -/
theorem wantedFrom_eq (prefixBytes startBytes : Bytes) (reverse : Bool)
    (entries : List (Bytes × Bytes)) :
    wantedFrom prefixBytes startBytes reverse entries =
      (walkedFrom startBytes reverse entries).filter
        (hasPrefix prefixBytes) := by
  rw [walkedFrom_eq, wantedFrom]
  cases reverse <;> simp [List.filter_filter, List.filter_reverse]

section Yields

variable {searchable : PrefixSearchable} {data : ByteDb} {cf : String}

/-- With a start key the engine iterator shows the entries walked from it. -/
theorem iterate_started (config : IterConfig SerKey S T OutK OutV)
    {start : SerKey} (started : config.start = some start)
    (iterates : searchable.Iterates config.cfName)
    (readable : searchable.Readable data config.cfName) :
    searchable.iterate data config =
      (processResult config.mode
        ((walkedFrom (AsBytes.asBytes start) config.reverse
          (searchable.entries data config.cfName)).map .ok)
        (effectiveControl (config.prefixKey.map AsBytes.asBytes) config.control)
        config.captured).1 := by
  rw [searchable.iterate_eq data config iterates, rawMode_of_start _ started,
    searchable.db.iterator_eq (searchable.sees data) config.cfName readable]
  rfl

/-- The iteration yields the entries walked before the first foreign key. -/
theorem yields_iff_takeWhile (prefixKey start : SerKey) (reverse : Bool)
    (wanted : List (Bytes × Bytes)) (iterates : searchable.Iterates cf)
    (readable : searchable.Readable data cf) :
    searchable.Yields data cf prefixKey start reverse wanted ↔
      (walkedFrom (AsBytes.asBytes start) reverse
        (searchable.entries data cf)).takeWhile
          (hasPrefix (AsBytes.asBytes prefixKey)) = wanted := by
  have raw := iterate_started
    (.newRaw cf (some prefixKey) (some start) reverse none ()) rfl iterates
    readable
  constructor
  · intro yields
    obtain ⟨iter, ran, items⟩ := yields.raw
    rw [raw] at ran
    cases ran
    have drained := drain_rawItems_prefixed (AsBytes.asBytes prefixKey) ()
      (walkedFrom (AsBytes.asBytes start) reverse
        (searchable.entries data cf)) 0
    exact ok_injective.list_map (drained.symm.trans items)
  · rintro rfl
    constructor
    · exact ⟨_, raw, drain_rawItems_prefixed _ _ _ _⟩
    · intro T OutK OutV deserializer captured
      have deserializing := iterate_started
        (.newDeserializing cf (some prefixKey) (some start) reverse none ()
          deserializer captured) rfl iterates readable
      exact ⟨_, deserializing, drain_controlled_prefixed _ _ _ _ _ _⟩

end Yields

theorem compare_scanOrder_trans {reverse : Bool} {a b c : Bytes}
    (first : compare a b = scanOrder reverse)
    (second : compare b c = scanOrder reverse) :
    compare a c = scanOrder reverse := by
  cases reverse with
  | false => exact Std.TransCmp.lt_trans first second
  | true => exact Std.TransCmp.gt_trans first second

theorem compare_scanOrder_asymm {reverse : Bool} {a b : Bytes}
    (first : compare a b = scanOrder reverse) :
    compare b a ≠ scanOrder reverse := by
  intro second
  have loop := compare_scanOrder_trans first second
  rw [Std.ReflOrd.compare_self] at loop
  cases reverse <;> cases loop

/-- The keys walked come one after the other in the direction asked for. -/
theorem walkedFrom_sorted {entries : List (Bytes × Bytes)}
    (ascending : entries.Pairwise fun earlier later =>
      compare earlier.1 later.1 = .lt) (startBytes : Bytes) (reverse : Bool) :
    (walkedFrom startBytes reverse entries).Pairwise fun earlier later =>
      compare earlier.1 later.1 = scanOrder reverse := by
  rw [walkedFrom_eq]
  cases reverse with
  | false => exact ascending.filter _
  | true =>
      apply List.pairwise_reverse.mpr
      apply (ascending.filter _).imp
      intro earlier later before
      exact Std.OrientedCmp.gt_of_lt before

/-- Among the keys walked the ones under the prefix come first exactly when
nothing else is on the way to them. -/
theorem leadsWith_iff_uninterrupted {entries : List (Bytes × Bytes)}
    (ascending : entries.Pairwise fun earlier later =>
      compare earlier.1 later.1 = .lt) (prefixBytes startBytes : Bytes)
    (reverse : Bool) :
    LeadsWith (hasPrefix prefixBytes)
      (walkedFrom startBytes reverse entries) ↔
      Uninterrupted prefixBytes startBytes reverse entries := by
  rw [leadsWith_iff_of_sorted (fun _ _ => compare_scanOrder_asymm)
    (walkedFrom_sorted ascending startBytes reverse)]
  simp only [mem_walkedFrom]
  constructor
  · intro precedes foreign stored outside entry member inside
    rw [onTheWay, Bool.and_eq_false_imp, bne_iff_ne, beq_eq_false_iff_ne]
    intro foreignReached before
    have reached : compare entry.1 startBytes ≠ scanOrder reverse :=
      fun behind => foreignReached (compare_scanOrder_trans before behind)
    have foreignInside := precedes foreign ⟨stored, foreignReached⟩ entry
      ⟨member, reached⟩ before inside
    rw [outside] at foreignInside
    cases foreignInside
  · intro free foreign ⟨stored, foreignReached⟩ entry ⟨member, _⟩ before inside
    by_contra outside
    have clear := free foreign stored (by simpa using outside) entry member
      inside
    simp [onTheWay, foreignReached, before] at clear

/-- A start key under the prefix is never kept from an entry under it. -/
theorem uninterrupted_of_hasPrefix {prefixBytes startBytes : Bytes}
    (startInside : prefixBytes <+: startBytes) (reverse : Bool)
    (entries : List (Bytes × Bytes)) :
    Uninterrupted prefixBytes startBytes reverse entries := by
  intro foreign _ outside entry _ inside
  rw [onTheWay, Bool.and_eq_false_imp, bne_iff_ne, beq_eq_false_iff_ne]
  intro reached before
  have entryInside : prefixBytes <+: entry.1 :=
    List.isPrefixOf_iff_prefix.mp inside
  have foreignInside : prefixBytes <+: foreign.1 := by
    cases reverse with
    | false =>
        have notAfter : compare foreign.1 entry.1 ≠ .gt := by
          rw [before]
          simp [scanOrder]
        exact prefix_of_within startInside entryInside reached notAfter
    | true =>
        have notBefore : compare foreign.1 entry.1 ≠ .lt := by
          rw [before]
          simp [scanOrder]
        exact prefix_of_within entryInside startInside notBefore reached
  rw [hasPrefix, List.isPrefixOf_iff_prefix.mpr foreignInside] at outside
  cases outside

/-- `iterate` with a prefix and a start key under the byte-wise comparator: it
yields the entries under the prefix from the start key on exactly when no key
outside the prefix lies between the start key and one of them, as is always so
for a start key under the prefix. -/
theorem startedScan_yields_iff (searchable : PrefixSearchable) (data : ByteDb)
    (cf : String) (prefixKey start : SerKey) (reverse : Bool)
    (iterates : searchable.Iterates cf)
    (readable : searchable.Readable data cf) :
    (searchable.Yields data cf prefixKey start reverse
      (wantedFrom (AsBytes.asBytes prefixKey) (AsBytes.asBytes start) reverse
        (searchable.entries data cf)) ↔
      Uninterrupted (AsBytes.asBytes prefixKey) (AsBytes.asBytes start) reverse
        (searchable.entries data cf)) ∧
    (AsBytes.asBytes prefixKey <+: AsBytes.asBytes start →
      Uninterrupted (AsBytes.asBytes prefixKey) (AsBytes.asBytes start) reverse
        (searchable.entries data cf)) := by
  constructor
  · have ascending :=
      searchable.db.entries_sorted (searchable.sees data) cf
    rw [yields_iff_takeWhile prefixKey start reverse _ iterates readable,
      wantedFrom_eq, takeWhile_eq_filter_iff]
    exact leadsWith_iff_uninterrupted ascending _ _ reverse
  · intro startInside
    exact uninterrupted_of_hasPrefix startInside reverse _

/-- Keys `a` and `b1`, prefix `b`, start key `a`: the key `a` ends the scan. -/
theorem startedScan_misses_prefix :
    let data : ByteDb := Db.empty.applyAll
      [.put ⟨"default", [97]⟩ [1], .put ⟨"default", [98, 49]⟩ [2]]
    let store : PrefixSearchable := .cfStore ⟨⟨["default"], fun _ _ _ _ => none⟩⟩
    wantedFrom [98] [97] false (store.entries data "default") =
        [([98, 49], [2])] ∧
      ¬ store.Yields data "default" ([98] : Bytes) [97] false
        (wantedFrom [98] [97] false (store.entries data "default")) := by
  intro data store
  have wanted : wantedFrom [98] [97] false (store.entries data "default") =
      [([98, 49], [2])] := by decide +kernel
  refine ⟨wanted, ?_⟩
  rw [wanted, yields_iff_takeWhile _ _ _ _ ⟨rfl, rfl⟩ (by decide +kernel)]
  decide +kernel

/-- The prefix `b` from the start key `b1` on, between foreign neighbours. -/
theorem startedScan_yields_within :
    let data : ByteDb := Db.empty.applyAll
      [.put ⟨"default", [97]⟩ [1], .put ⟨"default", [98, 49]⟩ [2],
        .put ⟨"default", [99]⟩ [3]]
    let store : PrefixSearchable := .cfStore ⟨⟨["default"], fun _ _ _ _ => none⟩⟩
    store.Yields data "default" ([98] : Bytes) [98, 49] false
      (wantedFrom [98] [98, 49] false (store.entries data "default")) := by
  intro data store
  have started := startedScan_yields_iff store data "default" ([98] : Bytes)
    [98, 49] false ⟨rfl, rfl⟩ (by decide +kernel)
  exact started.1.mpr (started.2 (by decide))

end RockSolid
