/-
Module: RockSolid.Proofs.RangeScan
Layer: Proofs
Purpose: Scans without a prefix, with or without a start key, in both directions:
  the engine iterator shows the range asked for, every mode of `iterate` offers it
  to the control function in order, and the searches from a key return the decoded
  entries that were kept.
Trusted boundary: none
Main exports: rangeOf_eq_shows, iterateState_unprefixed, offeredInOrder,
  PrefixSearchable.offers, PrefixSearchable.collectsFrom, rangeScan_offers
-/
import RockSolid.Proofs.SearchDirection
import RockSolid.Proofs.StartedScan
import RockSolid.Semantics.RangeScan

namespace RockSolid

open Foundation PullIterator

section Range

/-- The engine iterator asked for shows the range. -/
theorem rangeOf_eq_shows (start : Option Bytes) (reverse : Bool)
    (entries : List (Bytes × Bytes)) :
    (rocksdbIteratorMode start none reverse).shows compare entries =
      rangeOf start reverse entries := by
  have atOrAfter (startBytes : Bytes) (entry : Bytes × Bytes) :
      (!(compare entry.1 startBytes == .lt)) =
        (compare entry.1 startBytes).isGE := by
    cases compare entry.1 startBytes <;> rfl
  have atOrBefore (startBytes : Bytes) (entry : Bytes × Bytes) :
      (!(compare entry.1 startBytes == .gt)) =
        (compare entry.1 startBytes).isLE := by
    cases compare entry.1 startBytes <;> rfl
  cases start <;> cases reverse <;>
    simp [rocksdbIteratorMode, IteratorMode.shows, IteratorMode.ordered,
      IteratorMode.reaches, rangeOf, atOrAfter, atOrBefore]

variable {SerKey S T OutK OutV : Type} [AsBytes SerKey]

/-- Without a prefix an iteration processes the entries of the range. -/
theorem iterateState_unprefixed (searchable : PrefixSearchable) (data : ByteDb)
    (config : IterConfig SerKey S T OutK OutV)
    (unprefixed : config.prefixKey = none)
    (iterates : searchable.Iterates config.cfName)
    (readable : searchable.Readable data config.cfName) :
    searchable.iterateState data config =
      processResult config.mode
        ((rangeOf (config.start.map AsBytes.asBytes) config.reverse
          (searchable.entries data config.cfName)).map .ok)
        config.control config.captured := by
  have asked : config.rawMode =
      rocksdbIteratorMode (config.start.map AsBytes.asBytes) none
        config.reverse := by
    rw [IterConfig.rawMode, unprefixed]
    rfl
  have shown := searchable.db.iterator_eq (searchable.sees data) config.cfName
    readable config.rawMode
  rw [searchable.iterateState_eq data config iterates, shown, asked,
    rangeOf_eq_shows, unprefixed]
  rfl

end Range

section Calls

variable {S : Type} (control : ControlFn S)

/-- A scan of a stream without an engine error meets none. -/
theorem referenceScan_failure (entries : List (Bytes × Bytes)) (index : Nat)
    (captured : S) :
    (referenceScan none (some control) none entries index captured).failure =
      none := by
  induction entries generalizing index captured with
  | nil => rfl
  | cons entry entries inductionHypothesis =>
      rcases answered : control captured entry.1 entry.2 index with
        ⟨_ | _ | _, after⟩
      · simp [referenceScan, answered]
      · simp [referenceScan, answered, inductionHypothesis]
      · simp [referenceScan, answered, inductionHypothesis]

/-- One more call before calls that are in order. -/
theorem OfferedInOrder.cons {entries : List (Bytes × Bytes)}
    {calls : List ControlCall} (later : OfferedInOrder control entries calls)
    (call : ControlCall) :
    OfferedInOrder control (entryOf call :: entries) (call :: calls) := by
  obtain ⟨initial, complete⟩ := later
  constructor
  · rw [List.map_cons]
    exact (List.prefix_cons_inj _).mpr initial
  · rcases complete with all | ⟨before, last, captured, whole, stopped⟩
    · left
      rw [List.map_cons, all]
    · right
      rw [whole]
      exact ⟨call :: before, last, captured, rfl, stopped⟩

/-- The scan offers the entries in order, up to the first stop. -/
theorem offeredInOrder (entries : List (Bytes × Bytes)) (index : Nat)
    (captured : S) :
    OfferedInOrder control entries
      (referenceScan none (some control) none entries index captured).calls := by
  induction entries generalizing index captured with
  | nil => exact ⟨List.nil_prefix, .inl rfl⟩
  | cons entry entries inductionHypothesis =>
      rcases answered : control captured entry.1 entry.2 index with
        ⟨_ | _ | _, after⟩
      · have calls : (referenceScan none (some control) none (entry :: entries)
            index captured).calls = [(entry.1, entry.2, index)] := by
          simp [referenceScan, answered]
        rw [calls]
        constructor
        · exact ⟨entries, rfl⟩
        · exact .inr ⟨[], _, captured, rfl, congrArg Prod.fst answered⟩
      · have calls : (referenceScan none (some control) none (entry :: entries)
            index captured).calls = (entry.1, entry.2, index) ::
              (referenceScan none (some control) none entries index
                after).calls := by
          simp [referenceScan, answered]
        rw [calls]
        exact (inductionHypothesis index after).cons control
          (entry.1, entry.2, index)
      · have calls : (referenceScan none (some control) none (entry :: entries)
            index captured).calls = (entry.1, entry.2, index) ::
              (referenceScan none (some control) none entries (index + 1)
                after).calls := by
          simp [referenceScan, answered]
        rw [calls]
        exact (inductionHypothesis (index + 1) after).cons control
          (entry.1, entry.2, index)

end Calls

section Offers

variable {SerKey S : Type} [AsBytes SerKey] {searchable : PrefixSearchable}
  {data : ByteDb} {cf : String}

/-- In every mode the control function is offered the range. -/
theorem PrefixSearchable.offers (iterates : searchable.Iterates cf)
    (readable : searchable.Readable data cf) (start : Option SerKey)
    (reverse : Bool) (control : ControlFn S) (captured : S) :
    searchable.Offers data cf start reverse control captured
      (rangeOf (start.map AsBytes.asBytes) reverse
        (searchable.entries data cf)) := by
  have streamed (range : List (Bytes × Bytes)) :
      rawStreamOf range none = range.map .ok := List.append_nil _
  have noFailure (range : List (Bytes × Bytes)) :=
    referenceScan_failure control range 0 captured
  constructor
  · exact offeredInOrder control _ 0 captured
  · obtain ⟨items, calls⟩ :=
      drain_rawItems none (some control) none (rangeOf
        (start.map AsBytes.asBytes) reverse (searchable.entries data cf)) 0
        captured []
    rw [streamed] at items calls
    rw [noFailure] at items
    have ran := iterateState_unprefixed searchable data
      (.newRaw cf none start reverse (some (recording control)) (captured, []))
      rfl iterates readable
    exact ⟨_, congrArg Prod.fst ran, items.trans (List.append_nil _), calls⟩
  · intro T OutK OutV deserializer state
    obtain ⟨items, calls, _⟩ :=
      drain_controlled none (some control) none deserializer (rangeOf
        (start.map AsBytes.asBytes) reverse (searchable.entries data cf)) 0
        captured [] state
    rw [streamed] at items calls
    rw [noFailure] at items
    have ran := iterateState_unprefixed searchable data
      (.newDeserializing cf none start reverse (some (recording control))
        (captured, []) deserializer state) rfl iterates readable
    exact ⟨_, congrArg Prod.fst ran, items.trans (List.append_nil _), calls⟩
  · have looped := controlOnlyLoop_eq none control none rfl (rangeOf
      (start.map AsBytes.asBytes) reverse (searchable.entries data cf)) 0
      captured []
    simp only [streamed, noFailure, Option.elim_none, List.nil_append] at looped
    have ran := iterateState_unprefixed searchable data
      (.newControlOnly cf none start reverse (recording control) (captured, []))
      rfl iterates readable
    refine ran.trans ?_
    simp only [IterConfig.newControlOnly, processResult, looped]
    rfl

end Offers

section Searches

variable {K V S : Type} [AsBytes K] {searchable : PrefixSearchable}
  {data : ByteDb} {cf : String}

/-- What it can search it can iterate over. -/
theorem PrefixSearchable.Opens.iterates (opens : searchable.Opens cf) :
    searchable.Iterates cf := by
  cases searchable with
  | transactionContext context => exact opens
  | optimisticTransactionContext context => exact opens
  | defaultStore store =>
      cases opens
      exact ⟨store.cfStore.access.family_default, rfl⟩
  | defaultTxnStore store =>
      cases opens
      exact ⟨store.cfStore.access.family_default, rfl⟩
  | defaultOptimisticTxnStore store =>
      cases opens
      exact ⟨store.cfStore.access.family_default, rfl⟩
  | _ => exact ⟨opens, rfl⟩

variable (start : K) (control : ControlFn S) (captured : S)

/-- Collecting from an iteration without a prefix visits the range. -/
theorem PrefixSearchable.collectsFrom (iterates : searchable.Iterates cf)
    (readable : searchable.Readable data cf) (reverse : Bool)
    (decode : Bytes → Bytes → StoreResult (K × V)) :
    searchable.CollectsFrom data control captured
      (.newDeserializing cf none (some start) reverse (some control) captured
        (fun _ keyBytes valBytes => (decode keyBytes valBytes, ())) ())
      decode
      (rangeOf (some (AsBytes.asBytes start)) reverse
        (searchable.entries data cf)) := by
  have ran := iterateState_unprefixed searchable data
    (.newDeserializing cf none (some start) reverse (some control) captured
      (fun _ keyBytes valBytes => (decode keyBytes valBytes, ())) ())
    rfl iterates readable
  exact ⟨_, congrArg Prod.fst ran, collectRest_controlled decode control _ _ _⟩

/-- So it is decoding what the scan of the range keeps. -/
theorem PrefixSearchable.CollectsFrom.kept
    {config : IterConfig K S Unit K V}
    {decode : Bytes → Bytes → StoreResult (K × V)}
    {range : List (Bytes × Bytes)}
    (collects : searchable.CollectsFrom data control captured config decode
      range) :
    ∃ iter, searchable.iterate data config = .ok (.deserializedItems iter) ∧
      collect iter =
        (referenceScan none (some control) none range 0 captured).kept.mapM
          fun entry => decode entry.1 entry.2 := by
  obtain ⟨iter, ran, visited⟩ := collects
  refine ⟨iter, (searchable.iterate_eq_state data config).trans ran, ?_⟩
  rw [collect_eq_collectRest, ← visit_eq_kept decode control range captured 0,
    ← visited]

variable [ByteDecodable K]

/-- `find_from` collects from the iteration it configures. -/
theorem PrefixSearchable.findFrom_eq_iterate [DeserializeOwned V]
    (opens : searchable.Opens cf) (direction : Direction) :
    searchable.findFrom (V := V) data cf start control captured direction =
      collectItems (.other "find_from: Expected DeserializedItems")
        (searchable.iterate data
          (findFromConfig cf start direction control captured)) := by
  cases searchable with
  | defaultStore store =>
      cases opens
      rfl
  | defaultTxnStore store =>
      cases opens
      rfl
  | defaultOptimisticTxnStore store =>
      cases opens
      rfl
  | _ => rfl

/-- So does `find_from_with_expire_val`; the stores differ in the text for an
iteration of another mode. -/
theorem PrefixSearchable.findFromWithExpireVal_eq_iterate
    (opens : searchable.Opens cf) (reverse : Bool) :
    ∃ unexpected,
      searchable.findFromWithExpireVal (V := V) data cf start control captured
        reverse =
      collectItemsText unexpected
        (searchable.iterate data
          (findFromWithExpireValConfig cf start reverse control captured)) := by
  cases searchable with
  | defaultStore store =>
      cases opens
      exact ⟨"find_from_with_expire_val: Expected DeserializedItems" ++
        " from iteration", rfl⟩
  | defaultTxnStore store =>
      cases opens
      exact ⟨"find_from_with_expire_val: Expected DeserializedItems", rfl⟩
  | defaultOptimisticTxnStore store =>
      cases opens
      exact ⟨"find_from_with_expire_val: Expected DeserializedItems", rfl⟩
  | _ => exact ⟨_, rfl⟩

end Searches

/-- Scans without a prefix under the byte-wise comparator, on every store, every
wrapper and both contexts, for all contents, start keys and control functions.
The entries are the readable keys in ascending order.  Every mode of `iterate` offers the
range asked for to the control function, in order and up to the first stop, and
yields what it keeps.  Both searches from a key are offered the same range, and
return the decoded entries that are kept before the first stop, or an error when
one of these does not decode. -/
theorem rangeScan_offers {K : Type} [AsBytes K]
    (searchable : PrefixSearchable) (data : ByteDb) (cf : String)
    (iterates : searchable.Iterates cf)
    (readable : searchable.Readable data cf) :
    ((searchable.entries data cf).Pairwise fun earlier later =>
      compare earlier.1 later.1 = .lt) ∧
    (∀ key value, (key, value) ∈ searchable.entries data cf ↔
      searchable.db.read (searchable.sees data) ⟨cf, key⟩ = .ok (some value)) ∧
    (∀ {S : Type} (start : Option K) (reverse : Bool) (control : ControlFn S)
      (captured : S),
      searchable.Offers data cf start reverse control captured
        (rangeOf (start.map AsBytes.asBytes) reverse
          (searchable.entries data cf))) ∧
    (∀ {V S : Type} [ByteDecodable K] [DeserializeOwned V] (start : K)
      (direction : Direction) (control : ControlFn S) (captured : S),
      let range := rangeOf (some (AsBytes.asBytes start))
        (direction == .reverse) (searchable.entries data cf)
      searchable.CollectsFrom data control captured
        (findFromConfig (V := V) cf start direction control captured)
        deserializeKv range ∧
      (searchable.Opens cf →
        searchable.findFrom (V := V) data cf start control captured direction =
          (referenceScan none (some control) none range 0 captured).kept.mapM
            fun entry => deserializeKv entry.1 entry.2)) ∧
    ∀ {V S : Type} [ByteDecodable K] (start : K) (reverse : Bool)
      (control : ControlFn S) (captured : S),
      let range := rangeOf (some (AsBytes.asBytes start)) reverse
        (searchable.entries data cf)
      searchable.CollectsFrom data control captured
        (findFromWithExpireValConfig (V := V) cf start reverse control captured)
        deserializeKvExpiry range ∧
      (searchable.Opens cf →
        searchable.findFromWithExpireVal (V := V) data cf start control captured
          reverse =
        ((referenceScan none (some control) none range 0 captured).kept.mapM
          fun entry => deserializeKvExpiry entry.1 entry.2).mapError
            StoreError.display) := by
  refine ⟨searchable.db.entries_sorted (searchable.sees data) cf,
    searchable.db.mem_entries (searchable.sees data) cf, ?_, ?_, ?_⟩
  · intro S start reverse control captured
    exact PrefixSearchable.offers iterates readable start reverse control
      captured
  · intro V S _ _ start direction control captured range
    have collects := PrefixSearchable.collectsFrom start control captured
      iterates readable (direction == .reverse) (deserializeKv (V := V))
    refine ⟨collects, ?_⟩
    intro opens
    obtain ⟨iter, ran, kept⟩ := collects.kept
    rw [PrefixSearchable.findFrom_eq_iterate start control captured opens]
    exact (congrArg (collectItems _) ran).trans kept
  · intro V S _ start reverse control captured range
    have collects := PrefixSearchable.collectsFrom start control captured
      iterates readable reverse (deserializeKvExpiry (V := V))
    refine ⟨collects, ?_⟩
    intro opens
    obtain ⟨iter, ran, kept⟩ := collects.kept
    obtain ⟨unexpected, searched⟩ :=
      PrefixSearchable.findFromWithExpireVal_eq_iterate (V := V) start control
        captured opens reverse
    rw [searched, ← kept]
    exact congrArg (collectItemsText unexpected) ran

/-- Keys `a`, `b` and `d`, in reverse from `c`, which is not stored: the search
that stops after one entry returns `b`. -/
theorem rangeScan_offers_between :
    let _keys : ByteDecodable String := utf8Keys
    let _codec : DeserializeOwned Bytes := ⟨.ok⟩
    let data : ByteDb := Db.empty.applyAll
      [.put ⟨"default", [97]⟩ [1], .put ⟨"default", [98]⟩ [2],
        .put ⟨"default", [100]⟩ [3]]
    let store : PrefixSearchable := .cfStore ⟨⟨["default"], fun _ _ _ _ => none⟩⟩
    store.findFrom (V := Bytes) data "default" "c" (stopAfter 1) () .reverse =
      .ok [("b", [2])] := by
  intro _keys _codec data store
  have scans := rangeScan_offers (K := String) store data "default" ⟨rfl, rfl⟩
    (by decide +kernel)
  have searched := scans.2.2.2.1 (V := Bytes) "c" .reverse (stopAfter 1) ()
  exact (searched.2 rfl).trans (by decide +kernel)

end RockSolid
