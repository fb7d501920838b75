/-
Module: RockSolid.Proofs.PrefixSearch
Layer: Proofs
Purpose: A forward prefix search scans from the prefix to the first key without
  it and decodes what it meets.  Under the byte-wise comparator the keys with a
  prefix form one block that begins at the prefix, so the search finds exactly
  the entries under the prefix, on every store and in both contexts.
Trusted boundary: none
Main exports: drain_rawItems_prefixed, drain_controlled_prefixed,
  findByPrefix_eq_scan, bytewise_noGap, findByPrefix_finds_exactly
-/
import RockSolid.Proofs.IterationModes
import RockSolid.Semantics.PrefixSearch

namespace RockSolid

open Foundation PullIterator

variable {cmps : String → Comparator} {K V : Type} [ByteDecodable K]
  [DeserializeOwned V]

section Enforcement

variable {S T OutK OutV : Type} (prefixBytes : Bytes) (captured : S)

/-- Without a user control an entry is kept when its key has the prefix, and
ends the scan otherwise. -/
theorem verdict_prefixed (entry : Bytes × Bytes) (count : Nat) :
    verdict (effectiveControl (some prefixBytes) (none : Option (ControlFn S)))
      captured entry.1 entry.2 count =
        (if hasPrefix prefixBytes entry then .keep else .stop, captured) := rfl

/-- The raw mode shows the entries before the first foreign key. -/
theorem drain_rawItems_prefixed (entries : List (Bytes × Bytes)) (count : Nat) :
    (drain (RawItemsIter.mk (entries.map .ok)
      (effectiveControl (some prefixBytes) none) captured count)).1 =
      (entries.takeWhile (hasPrefix prefixBytes)).map .ok := by
  induction entries generalizing count with
  | nil =>
      rw [List.map_nil, RawItemsIter.drain_nil]
      rfl
  | cons entry entries inductionHypothesis =>
      rw [List.map_cons, RawItemsIter.drain_ok, verdict_prefixed]
      cases inside : hasPrefix prefixBytes entry with
      | false =>
          rw [List.takeWhile_cons_of_neg (by simp [inside])]
          rfl
      | true =>
          rw [List.takeWhile_cons_of_pos inside, List.map_cons,
            ← inductionHypothesis (count + 1)]
          rfl

/-- The deserializer sees the entries before the first foreign key. -/
theorem drain_controlled_prefixed (deserializer : DeserializerFn T OutK OutV)
    (entries : List (Bytes × Bytes)) (state : T) (count : Nat) :
    (drain (ControlledIter.mk (entries.map .ok)
      (effectiveControl (some prefixBytes) none) captured deserializer state
      count)).1 =
      (deserializeAll deserializer
        (entries.takeWhile (hasPrefix prefixBytes)) state).1 := by
  induction entries generalizing state count with
  | nil =>
      rw [List.map_nil, ControlledIter.drain_nil]
      rfl
  | cons entry entries inductionHypothesis =>
      rw [List.map_cons, ControlledIter.drain_ok, verdict_prefixed]
      cases inside : hasPrefix prefixBytes entry with
      | false =>
          rw [List.takeWhile_cons_of_neg (by simp [inside])]
          rfl
      | true =>
          rw [List.takeWhile_cons_of_pos inside, deserializeAll]
          exact congrArg (List.cons _) (inductionHypothesis _ (count + 1))

end Enforcement

/-- A deserializer without state decodes the entries one by one. -/
theorem deserializeAll_stateless {OutK OutV : Type}
    (decode : Bytes → Bytes → StoreResult (OutK × OutV))
    (entries : List (Bytes × Bytes)) :
    (deserializeAll (fun _ keyBytes valBytes => (decode keyBytes valBytes, ()))
      entries ()).1 = entries.map fun entry => decode entry.1 entry.2 := by
  induction entries with
  | nil => rfl
  | cons entry entries inductionHypothesis =>
      rw [deserializeAll, List.map_cons, ← inductionHypothesis]

variable [AsBytes K]

/-- Whatever serves the iterator, the search decodes the leading block of
entries under the prefix. -/
theorem collectItems_findByPrefix {access : CfAccess}
    {source : String → IteratorMode → RawStream} {cfName cf : String}
    {prefixKey : K} {entries : List (Bytes × Bytes)}
    (direction : Direction) (found : access.family cfName = .ok cf)
    (served : source cf (prefixIteratorMode (AsBytes.asBytes prefixKey)) =
      entries.map .ok) :
    collectItems (.other "find_by_prefix: Expected DeserializedItems")
      (iterateWith access source
        (findByPrefixConfig (V := V) cfName prefixKey direction)).1 =
      (entries.takeWhile (hasPrefix (AsBytes.asBytes prefixKey))).mapM
        decodeEntry := by
  have executed : iterateWith access source
      (findByPrefixConfig (V := V) cfName prefixKey direction) =
        (.ok (.deserializedItems (ControlledIter.mk (entries.map .ok)
          (effectiveControl (some (AsBytes.asBytes prefixKey)) none) ()
          (fun _ keyBytes valBytes => (deserializeKv keyBytes valBytes, ()))
          () 0)), ()) := by
    have prefixed :
        (findByPrefixConfig (V := V) cfName prefixKey direction).rawMode =
          prefixIteratorMode (AsBytes.asBytes prefixKey) := rfl
    rw [iterateWith_eq, prefixed]
    simp only [findByPrefixConfig, IterConfig.newDeserializing, found, served,
      processResult, Option.map_some]
  rw [executed]
  calc collect _
      = (drain (ControlledIter.mk (entries.map .ok)
          (effectiveControl (some (AsBytes.asBytes prefixKey)) none) ()
          (fun _ keyBytes valBytes => (deserializeKv keyBytes valBytes, ()))
          () 0)).1.mapM id := collect_eq_mapM_drain _
    _ = ((entries.takeWhile
          (hasPrefix (AsBytes.asBytes prefixKey))).map decodeEntry).mapM id := by
        rw [drain_controlled_prefixed, deserializeAll_stateless]
    _ = (entries.takeWhile
          (hasPrefix (AsBytes.asBytes prefixKey))).mapM decodeEntry := by
        rw [List.mapM_map]
        rfl

/-- On every store and in both contexts, under any comparator and whatever the
direction asked for, a prefix search decodes the block of visible entries from
the prefix to the first key without it. -/
theorem findByPrefix_eq_scan (searchable : PrefixSearchable) (data : Db cmps)
    {cf : String} [Std.TransCmp (cmps cf)] (prefixKey : K) (direction : Direction) (opens : searchable.Opens cf)
    (readable : searchable.Readable data cf) :
    searchable.findByPrefix (V := V) data cf prefixKey direction =
      (((searchable.entries data cf).dropWhile fun entry =>
        cmps cf entry.1 (AsBytes.asBytes prefixKey) == .lt).takeWhile
          (hasPrefix (AsBytes.asBytes prefixKey))).mapM decodeEntry := by
  have served := searchable.db.prefixIterator_eq (searchable.sees data) cf
    readable (AsBytes.asBytes prefixKey)
  cases searchable with
  | cfStore store => exact collectItems_findByPrefix direction opens served
  | cfTxnStore store => exact collectItems_findByPrefix direction opens served
  | cfOptimisticTxnStore store =>
      exact collectItems_findByPrefix direction opens served
  | defaultStore store =>
      cases opens
      exact collectItems_findByPrefix direction
        store.cfStore.access.family_default served
  | defaultTxnStore store =>
      cases opens
      exact collectItems_findByPrefix direction
        store.cfStore.access.family_default served
  | defaultOptimisticTxnStore store =>
      cases opens
      exact collectItems_findByPrefix direction
        store.cfStore.access.family_default served
  | transactionContext context =>
      rcases opens with ⟨found, running⟩
      simp only [PrefixSearchable.findByPrefix,
        TransactionContext.findByPrefix, TransactionContext.iterate,
        TransactionContext.checkCompleted, running]
      exact collectItems_findByPrefix direction found served
  | optimisticTransactionContext context =>
      rcases opens with ⟨found, running⟩
      simp only [PrefixSearchable.findByPrefix,
        OptimisticTransactionContext.findByPrefix,
        OptimisticTransactionContext.iterate,
        OptimisticTransactionContext.checkCompleted, running]
      exact collectItems_findByPrefix direction found served

/-- Under the byte-wise comparator the keys with a prefix form one block that
begins at the prefix. -/
theorem bytewise_noGap (db : DbHandle) (data : ByteDb) (cf : String)
    (prefixBytes : Bytes) :
    NoGap (fun entry => compare entry.1 prefixBytes == .lt)
      (hasPrefix prefixBytes) (db.entries data cf) := by
  refine ⟨?_, (db.entries_sorted data cf).imp ?_⟩
  · intro entry _ inside
    rw [beq_eq_false_iff_ne]
    exact prefix_compare_ne_lt (List.isPrefixOf_iff_prefix.mp inside)
  · intro earlier later before notSkipped inside
    rw [beq_eq_false_iff_ne] at notSkipped
    exact List.isPrefixOf_iff_prefix.mpr (prefix_of_between
      (List.isPrefixOf_iff_prefix.mp inside) notSkipped before)

/-- So scanning from the prefix to the first foreign key meets them all. -/
theorem bytewise_scan_eq_filter (db : DbHandle) (data : ByteDb) (cf : String)
    (prefixBytes : Bytes) :
    ((db.entries data cf).dropWhile fun entry =>
      compare entry.1 prefixBytes == .lt).takeWhile (hasPrefix prefixBytes) =
      (db.entries data cf).filter (hasPrefix prefixBytes) :=
  (scan_eq_filter_iff (below_leads (db.entries_sorted data cf) prefixBytes)).mpr
    (bytewise_noGap db data cf prefixBytes)

omit [AsBytes K] in
/-- Decoding a list of entries that all decode. -/
theorem mapM_decodeEntry_ok {decoded : Bytes × Bytes → K × V}
    {entries : List (Bytes × Bytes)}
    (decodes : ∀ entry ∈ entries, decodeEntry entry = .ok (decoded entry)) :
    entries.mapM decodeEntry = .ok (entries.map decoded) := by
  induction entries with
  | nil => rfl
  | cons entry entries inductionHypothesis =>
      have rest := inductionHypothesis
        (fun other member => decodes other (List.mem_cons_of_mem _ member))
      rw [List.mapM_cons, decodes entry List.mem_cons_self, rest]
      rfl

omit [AsBytes K] in
/-- One entry that does not decode makes the whole list fail. -/
theorem mapM_decodeEntry_error {entries : List (Bytes × Bytes)}
    {entry : Bytes × Bytes} (member : entry ∈ entries) {e : StoreError}
    (fails : decodeEntry (K := K) (V := V) entry = .error e) :
    ∃ e', entries.mapM (decodeEntry (K := K) (V := V)) = .error e' := by
  induction entries with
  | nil => cases member
  | cons head entries inductionHypothesis =>
      rw [List.mapM_cons]
      cases first : decodeEntry (K := K) (V := V) head with
      | error e' => exact ⟨e', rfl⟩
      | ok value =>
          rcases List.mem_cons.mp member with rfl | later
          · rw [fails] at first
            cases first
          · rcases inductionHypothesis later with ⟨e', failed⟩
            exact ⟨e', by rw [failed]; rfl⟩

omit [AsBytes K] in
/-- Decoding the entries under the prefix is what `FindsExactly` asks for. -/
theorem findsExactly_mapM (entries : List (Bytes × Bytes))
    (prefixBytes : Bytes) :
    FindsExactly entries prefixBytes
      ((entries.filter (hasPrefix prefixBytes)).mapM
        (decodeEntry (K := K) (V := V))) where
  decodable decoded decodes := by
    apply mapM_decodeEntry_ok
    intro entry member
    rcases List.mem_filter.mp member with ⟨stored, inside⟩
    exact decodes entry stored inside
  undecodable entry stored inside e fails :=
    mapM_decodeEntry_error (List.mem_filter.mpr ⟨stored, inside⟩) fails

/-- `find_by_prefix(p, Forward)` under the byte-wise comparator: the visible
entries are the readable keys in ascending byte order, each once, and the search
returns exactly those under the prefix. -/
theorem findByPrefix_finds_exactly (searchable : PrefixSearchable)
    (data : ByteDb) (cf : String) (prefixKey : K)
    (opens : searchable.Opens cf) (readable : searchable.Readable data cf) :
    ((searchable.entries data cf).Pairwise fun earlier later =>
      compare earlier.1 later.1 = .lt) ∧
    (∀ key value, (key, value) ∈ searchable.entries data cf ↔
      searchable.db.read (searchable.sees data) ⟨cf, key⟩ = .ok (some value)) ∧
    FindsExactly (searchable.entries data cf) (AsBytes.asBytes prefixKey)
      (searchable.findByPrefix (V := V) data cf prefixKey .forward) := by
  refine ⟨searchable.db.entries_sorted (searchable.sees data) cf,
    searchable.db.mem_entries (searchable.sees data) cf, ?_⟩
  have block := bytewise_scan_eq_filter searchable.db (searchable.sees data) cf
    (AsBytes.asBytes prefixKey)
  have scanned := findByPrefix_eq_scan (V := V) searchable data prefixKey
    .forward opens readable
  rw [scanned]
  exact block ▸ findsExactly_mapM _ _

/-- A prefix search among three keys whose last neighbour does not decode. -/
theorem findByPrefix_finds_exactly_users :
    let _keys : ByteDecodable String := utf8Keys
    let _codec : DeserializeOwned Bytes :=
      ⟨fun bytes => if bytes = [] then .error "empty" else .ok bytes⟩
    let data : ByteDb := Db.empty.applyAll
      [.put ⟨"default", "user:2".toUTF8.data.toList⟩ [2],
        .put ⟨"default", "user:1".toUTF8.data.toList⟩ [1],
        .put ⟨"default", "zone".toUTF8.data.toList⟩ []]
    let store : PrefixSearchable :=
      .defaultStore ⟨⟨⟨["default"], fun _ _ _ _ => none⟩⟩⟩
    FindsExactly (K := String) (V := Bytes) (store.entries data "default")
      (AsBytes.asBytes "user:")
      (store.findByPrefix data "default" "user:" .forward) := by
  intro _keys _codec data store
  exact (findByPrefix_finds_exactly store data "default" "user:" rfl
    (by decide)).2.2

end RockSolid
