/-
Module: RockSolid.Proofs.KeyCodec
Layer: Proofs
Purpose: Keys are written as their bare bytes and read back through bytevec.  A
  `String` is read back from its bytes.  A `Vec<u8>` never is: bytevec takes the
  leading byte for an element count, so what it decodes is shorter than what was
  written.
Trusted boundary: none
Main exports: decodesKeys_string, misreadsKeys_of_format, Store.putAll_holds,
  Store.findByPrefix_eq_kept, Store.findFrom_eq_kept, builtinKey_roundTrips_iff
-/
import RockSolid.Proofs.SearchDirection
import RockSolid.Proofs.WriteHistory
import RockSolid.Semantics.KeyCodec
import RockSolid.Semantics.KeyIdentity

namespace RockSolid

open Foundation PullIterator

variable {cmps : String → Comparator} {K V S : Type}

section Codec

/-- A key is read back from the bytes it is written as. -/
def DecodesKeys (K : Type) [AsBytes K] [ByteDecodable K] : Prop :=
  ∀ key : K, (serializeKey key >>= deserializeKey) = .ok key

/-- No key is read back from the bytes it is written as. -/
def MisreadsKeys (K : Type) [AsBytes K] [ByteDecodable K] : Prop :=
  ∀ (bytes : Bytes) (key : K), deserializeKey bytes = .ok key →
    AsBytes.asBytes key ≠ bytes

theorem decodesKeys_string [strings : ByteDecodable String]
    (texts : DecodesUtf8 strings) : DecodesKeys String := by
  intro text
  have decoded : ByteDecodable.decode (AsBytes.asBytes text) = .ok text :=
    (texts _ text).mpr (fromUtf8_asBytes text)
  change (ByteDecodable.decode (AsBytes.asBytes text)).mapError
    StoreError.keyDecoding = .ok text
  rw [decoded]
  rfl

/-- What the sequence format decodes is shorter than what it reads. -/
theorem misreadsKeys_of_format {codec : ByteDecodable Bytes}
    (format : SequenceFormat codec) : MisreadsKeys Bytes := by
  intro bytes key readBack same
  rw [deserializeKey, mapError_eq_ok_iff] at readBack
  obtain ⟨count, sizes, elements, read, _, sized⟩ := format bytes key readBack
  have longer : bytes.length = sizes.length + elements.length + 1 := by
    rw [read, List.length_cons, List.length_append]
  have sameLength : key.length = bytes.length := congrArg List.length same
  omega

variable [AsBytes K] [ByteDecodable K]

theorem MisreadsKeys.roundTrip_ne (misreads : MisreadsKeys K) (key : K) :
    (serializeKey key >>= deserializeKey) ≠ .ok key :=
  fun readBack => misreads (AsBytes.asBytes key) key readBack rfl

omit [AsBytes K] in
/-- An entry decodes to a pair when its key and its value do. -/
theorem decodeEntry_eq_ok_iff [DeserializeOwned V] {entry : Bytes × Bytes}
    {key : K} {val : V} :
    decodeEntry entry = .ok (key, val) ↔
      deserializeKey entry.1 = .ok key ∧ deserializeValue entry.2 = .ok val := by
  rw [decodeEntry, deserializeKv]
  cases (deserializeKey entry.1 : StoreResult K) <;>
    cases (deserializeValue entry.2 : StoreResult V) <;>
      simp [bind, Except.bind, pure, Except.pure]

variable [Serialize V] [DeserializeOwned V] {kept entries : List (Bytes × Bytes)}
  {writes : List (K × V)}

/-- Keys that are decoded from their bytes are returned by a search. -/
theorem returnsWritten_of_decodesKeys (decodes : DecodesKeys K)
    (roundTrips : RoundTrips V) {cmp : Comparator}
    (holds : HoldsWritten cmp entries writes)
    (stored : ∀ entry ∈ kept, entry ∈ entries) :
    ReturnsWritten kept writes (kept.mapM decodeEntry) := by
  induction kept with
  | nil => exact ⟨[], rfl, rfl, by simp⟩
  | cons entry kept inductionHypothesis =>
      obtain ⟨found, succeeded, keys, wrote⟩ := inductionHypothesis
        fun other member => stored other (List.mem_cons_of_mem _ member)
      obtain ⟨⟨key, val⟩, member, sameKey, sameValue⟩ :=
        holds.written entry (stored entry List.mem_cons_self)
      have first : decodeEntry entry = .ok (key, val) := by
        apply decodeEntry_eq_ok_iff.mpr
        constructor
        · rw [← sameKey]
          exact decodes key
        · exact deserializeValue_of_serialized roundTrips sameValue
      refine ⟨(key, val) :: found, ?_, ?_, ?_⟩
      · rw [List.mapM_cons, first, succeeded]
        rfl
      · rw [List.map_cons, List.map_cons, keys, sameKey]
      · exact List.forall_mem_cons.mpr ⟨member, wrote⟩

omit [Serialize V] in
/-- Keys that never are make every search fail to return what it kept. -/
theorem returnsWritten_of_misreadsKeys (misreads : MisreadsKeys K) :
    ReturnsWritten kept writes (kept.mapM decodeEntry) ↔ kept = [] := by
  constructor
  · rintro ⟨found, succeeded, keys, _⟩
    have decoded := mapM_eq_ok_iff.mp succeeded
    cases kept with
    | nil => rfl
    | cons entry kept =>
        cases found with
        | nil => cases decoded
        | cons item found =>
            rw [List.map_cons, List.map_cons, List.cons.injEq] at decoded keys
            have readBack := (decodeEntry_eq_ok_iff.mp decoded.1).1
            exact absurd keys.1 (misreads entry.1 item.1 readBack)
  · rintro rfl
    exact ⟨[], rfl, rfl, by simp⟩

end Codec

section Writes

variable [AsBytes K] [Serialize V] [∀ cf, Std.TransCmp (cmps cf)]

/-- The family holds nothing but the written keys, each with a value it was
written with. -/
structure OnlyPuts (data : Db cmps) (cf : String) (writes : List (K × V)) :
    Prop where
  stored : ∀ entry ∈ (data cf).toList, ∃ write ∈ writes, ∃ bytes,
    AsBytes.asBytes write.1 = entry.1 ∧
      serializeValue write.2 = .ok bytes ∧ entry.2 = ⟨some bytes, []⟩
  complete : ∀ write ∈ writes, AsBytes.asBytes write.1 ∈ data cf

theorem OnlyPuts.of_empty {data : Db cmps} {cf : String}
    (empty : data cf = ∅) : OnlyPuts data cf ([] : List (K × V)) := by
  constructor
  · simp [empty]
  · simp

/-- One more put keeps that. -/
theorem OnlyPuts.step {data : Db cmps} {cf : String} {writes : List (K × V)}
    (holds : OnlyPuts data cf writes) {key : K} {val : V} {bytes : Bytes}
    (encoded : serializeValue val = .ok bytes) :
    OnlyPuts (data.apply (.put ⟨cf, AsBytes.asBytes key⟩ bytes)) cf
      (writes ++ [(key, val)]) := by
  have inserted : (data.apply (.put ⟨cf, AsBytes.asBytes key⟩ bytes)) cf =
      (data cf).insert (AsBytes.asBytes key) ⟨some bytes, []⟩ := by
    simp [Db.apply, WriteOp.target, WriteOp.effect]
  constructor
  · intro entry member
    rw [inserted, Std.TreeMap.mem_toList_iff_getKey?_eq_some_and_getElem?_eq_some,
      Std.TreeMap.getKey?_insert, Std.TreeMap.getElem?_insert] at member
    by_cases same : cmps cf (AsBytes.asBytes key) entry.1 = .eq
    · rw [if_pos same, if_pos same] at member
      refine ⟨(key, val), by simp, bytes, Option.some.inj member.1, encoded,
        (Option.some.inj member.2).symm⟩
    · rw [if_neg same, if_neg same,
        ← Std.TreeMap.mem_toList_iff_getKey?_eq_some_and_getElem?_eq_some]
        at member
      obtain ⟨write, wrote, facts⟩ := holds.stored entry member
      exact ⟨write, List.mem_append_left _ wrote, facts⟩
  · intro write member
    rw [inserted, Std.TreeMap.mem_insert]
    rcases List.mem_append.mp member with earlier | last
    · exact .inr (holds.complete write earlier)
    · rw [List.mem_singleton.mp last]
      exact .inl Std.ReflCmp.compare_self

omit [∀ cf, Std.TransCmp (cmps cf)] in
/-- A `put` that returns `Ok` has written the encoded value. -/
theorem Store.put_ok {store : Store} {cfName : String} {key : K} {val : V}
    {data after : Db cmps}
    (succeeded : store.put cfName key none val data = (.ok (), after)) :
    ∃ bytes, serializeValue val = .ok bytes ∧
      after = data.apply
        (.put ⟨store.asked cfName, AsBytes.asBytes key⟩ bytes) := by
  rcases store.writeCall_cases cfName none
    (.put inferInstance inferInstance key val) data with
    ⟨op, recorded, applied⟩ | ⟨e, failed⟩
  · obtain ⟨bytes, encoded, rfl⟩ := map_eq_ok_iff.mp recorded
    have same : (Except.ok (), after) = (Except.ok (), data.apply _) :=
      succeeded.symm.trans applied
    exact ⟨bytes, encoded, congrArg Prod.snd same⟩
  · have impossible : (Except.ok (), after) = (Except.error e, data) :=
      succeeded.symm.trans failed
    cases impossible

/-- After a sequence of puts into an empty family. -/
theorem Store.putAll_holds {store : Store} {cfName : String}
    {before after : Db cmps} {earlier writes : List (K × V)}
    (holds : OnlyPuts before (store.asked cfName) earlier)
    (succeeded : store.putAll cfName writes before = (.ok (), after)) :
    OnlyPuts after (store.asked cfName) (earlier ++ writes) := by
  induction writes generalizing before earlier with
  | nil =>
      cases succeeded
      rwa [List.append_nil]
  | cons write writes inductionHypothesis =>
      change (store.put cfName write.1 none write.2 >>=
        fun _ => store.putAll cfName writes) before = _ at succeeded
      rw [Method.bind_apply] at succeeded
      rcases wrote : store.put cfName write.1 none write.2 before with
        ⟨e | _, between⟩
      · rw [wrote] at succeeded
        cases succeeded
      · rw [wrote] at succeeded
        obtain ⟨bytes, encoded, rfl⟩ := Store.put_ok wrote
        have later := inductionHypothesis (holds.step encoded) succeeded
        rwa [List.append_assoc] at later

/-- What such a family shows is what the writes have left. -/
theorem OnlyPuts.holdsWritten {data : Db cmps} {cf : String}
    {writes : List (K × V)} (holds : OnlyPuts data cf writes) (db : DbHandle) :
    HoldsWritten (cmps cf) (db.entries data cf) writes := by
  have shows {entry : Bytes × Record} {bytes : Bytes}
      (put : entry.2 = ⟨some bytes, []⟩) :
      db.visible cf entry = some (entry.1, bytes) := by
    rw [DbHandle.visible, put]
    rfl
  constructor
  · intro shown member
    obtain ⟨entry, inFamily, visible⟩ := List.mem_filterMap.mp member
    obtain ⟨write, wrote, bytes, sameKey, encoded, put⟩ :=
      holds.stored entry inFamily
    rw [shows put] at visible
    cases visible
    exact ⟨write, wrote, sameKey, encoded⟩
  · intro write wrote
    have present := holds.complete write wrote
    have same := Std.TreeMap.compare_getKey_self present
    have presentSelf := (Std.TreeMap.mem_congr same).mpr present
    obtain ⟨record, found⟩ := Option.isSome_iff_exists.mp
      (Std.TreeMap.mem_iff_isSome_getElem?.mp presentSelf)
    have member : ((data cf).getKey _ present, record) ∈ (data cf).toList := by
      apply
        Std.TreeMap.mem_toList_iff_getKey?_eq_some_and_getElem?_eq_some.mpr
      refine ⟨?_, found⟩
      rw [Std.TreeMap.getKey?_congr same,
        Std.TreeMap.getKey?_eq_some_getKey present]
    obtain ⟨_, _, bytes, _, _, put⟩ := holds.stored _ member
    exact ⟨_, List.mem_filterMap.mpr ⟨_, member, shows put⟩, same⟩

omit [∀ cf, Std.TransCmp (cmps cf)] in
/-- None of its records makes the engine fail. -/
theorem OnlyPuts.readable {data : Db cmps} {cf : String}
    {writes : List (K × V)} (holds : OnlyPuts data cf writes) (db : DbHandle) :
    db.Readable data cf := by
  intro entry inFamily
  obtain ⟨_, _, bytes, _, _, put⟩ := holds.stored entry inFamily
  rw [put]
  rfl

end Writes

section Searches

variable [AsBytes K] [ByteDecodable K] [DeserializeOwned V]
  [∀ cf, Std.TransCmp (cmps cf)] {store : Store} {cfName : String}
  {data : Db cmps}

/-- A search by prefix decodes the block under the prefix. -/
theorem CFOperations.findByPrefix_eq_kept {access : CfAccess} {cf : String}
    (found : access.family cfName = .ok cf)
    (readable : access.db.Readable data cf) (prefixKey : K)
    (direction : Direction) :
    CFOperations.findByPrefix (V := V) access data none cfName prefixKey
      direction =
      (((access.db.entries data cf).dropWhile fun entry =>
        cmps cf entry.1 (AsBytes.asBytes prefixKey) == .lt).takeWhile
          (hasPrefix (AsBytes.asBytes prefixKey))).mapM decodeEntry := by
  have served := access.db.prefixIterator_eq data cf readable
    (AsBytes.asBytes prefixKey)
  exact collectItems_findByPrefix direction found served

/-- A search by prefix decodes the entries it keeps. -/
theorem Store.findByPrefix_eq_kept (opens : store.Opens cfName)
    (readable : store.Readable cfName data) (prefixKey : K)
    (direction : Direction) :
    store.findByPrefix (V := V) cfName data none prefixKey direction =
      (store.keptByPrefix cfName data prefixKey).mapM decodeEntry := by
  have searched := CFOperations.findByPrefix_eq_kept (V := V) opens readable
    prefixKey direction
  cases store <;> exact searched

omit [∀ cf, Std.TransCmp (cmps cf)] in
/-- Whatever serves the iterator, a search from a key decodes what its control
function keeps on the walk. -/
theorem collectItems_findFrom {access : CfAccess}
    {source : String → IteratorMode → RawStream} {cf : String} {startKey : K}
    {direction : Direction} {entries : List (Bytes × Bytes)}
    (controlFn : ControlFn S) (captured : S)
    (found : access.family cfName = .ok cf)
    (served : source cf (.fromKey (AsBytes.asBytes startKey) direction) =
      entries.map .ok) :
    collectItems (.other "find_from: Expected DeserializedItems")
      (iterateWith access source (findFromConfig (V := V) cfName startKey
        direction controlFn captured)).1 =
      (referenceScan none (some controlFn) none entries 0
        captured).kept.mapM decodeEntry := by
  have asked : (findFromConfig (V := V) cfName startKey direction controlFn
      captured).rawMode = .fromKey (AsBytes.asBytes startKey) direction := by
    cases direction <;> rfl
  have executed : iterateWith access source
      (findFromConfig (V := V) cfName startKey direction controlFn captured) =
      (.ok (.deserializedItems (ControlledIter.mk (entries.map .ok)
        (some controlFn) captured
        (fun _ keyBytes valBytes => (deserializeKv keyBytes valBytes, ()))
        () 0)), captured) := by
    rw [iterateWith_eq, asked]
    simp only [findFromConfig, IterConfig.newDeserializing, found, served,
      processResult, Option.map_none]
    rfl
  rw [executed]
  exact collect_controlled deserializeKv controlFn entries captured 0

/-- So it is on the contents of the family. -/
theorem CFOperations.findFrom_eq_kept {access : CfAccess} {cf : String}
    (found : access.family cfName = .ok cf)
    (readable : access.db.Readable data cf) (startKey : K)
    (direction : Direction) (controlFn : ControlFn S) (captured : S) :
    CFOperations.findFrom (V := V) access data none cfName startKey direction
      controlFn captured =
      (referenceScan none (some controlFn) none
        ((IteratorMode.fromKey (AsBytes.asBytes startKey) direction).shows
          (cmps cf) (access.db.entries data cf)) 0 captured).kept.mapM
        decodeEntry := by
  have served := access.db.iterator_eq data cf readable
    (.fromKey (AsBytes.asBytes startKey) direction)
  exact collectItems_findFrom controlFn captured found served

/-- A search from a key decodes the entries it keeps. -/
theorem Store.findFrom_eq_kept (opens : store.Opens cfName)
    (readable : store.Readable cfName data) (startKey : K)
    (direction : Direction) (controlFn : ControlFn S) (captured : S) :
    store.findFrom (V := V) cfName data none startKey direction controlFn
      captured =
      (store.keptFrom cfName data startKey direction controlFn
        captured).mapM decodeEntry := by
  have searched := CFOperations.findFrom_eq_kept (V := V) opens readable
    startKey direction controlFn captured
  cases store <;> exact searched

omit [ByteDecodable K] [DeserializeOwned V]
  [∀ cf, Std.TransCmp (cmps cf)] in
/-- What a search keeps are entries of the family. -/
theorem Store.mem_of_mem_keptByPrefix {prefixKey : K} {entry : Bytes × Bytes}
    (kept : entry ∈ store.keptByPrefix cfName data prefixKey) :
    entry ∈ store.entries cfName data :=
  (List.dropWhile_sublist _).subset ((List.takeWhile_sublist _).subset kept)

omit [AsBytes K] [ByteDecodable K] [DeserializeOwned V]
  [∀ cf, Std.TransCmp (cmps cf)] in
/-- A scan keeps some of the entries it is given. -/
theorem kept_sublist (control : ControlFn S) (entries : List (Bytes × Bytes))
    (count : Nat) (captured : S) :
    (referenceScan none (some control) none entries count
      captured).kept.Sublist entries := by
  induction entries generalizing count captured with
  | nil => exact List.nil_sublist []
  | cons entry entries inductionHypothesis =>
      rcases answered : control captured entry.1 entry.2 count with
        ⟨_ | _ | _, after⟩
      · simp [referenceScan, answered]
      · simpa [referenceScan, answered] using
          (inductionHypothesis count after).cons entry
      · simpa [referenceScan, answered] using
          inductionHypothesis (count + 1) after

omit [ByteDecodable K] [DeserializeOwned V]
  [∀ cf, Std.TransCmp (cmps cf)] in
theorem Store.mem_of_mem_keptFrom {startKey : K} {direction : Direction}
    {controlFn : ControlFn S} {captured : S} {entry : Bytes × Bytes}
    (kept : entry ∈ store.keptFrom cfName data startKey direction controlFn
      captured) : entry ∈ store.entries cfName data := by
  have shown := (kept_sublist controlFn _ 0 captured).subset kept
  rw [IteratorMode.shows, IteratorMode.mem_ordered] at shown
  exact List.mem_of_mem_filter shown

end Searches

/-- Of the two key types `String` is the one whose keys are read back. -/
theorem key_roundTrip_iff [strings : ByteDecodable String]
    [codec : ByteDecodable Bytes] (texts : DecodesUtf8 strings)
    (format : SequenceFormat codec) (keyType : BuiltinKey)
    (key : keyType.Carrier) :
    (serializeKey key >>= deserializeKey) = .ok key ↔ keyType = .string := by
  cases keyType with
  | string =>
      constructor
      · exact fun _ => rfl
      · exact fun _ => decodesKeys_string texts key
  | vecU8 =>
      constructor
      · intro readBack
        exact absurd readBack
          ((misreadsKeys_of_format format).roundTrip_ne key)
      · exact nofun

/-- Of the two key types only `String` has its keys returned, unless nothing was
kept. -/
theorem returnsWritten_iff [strings : ByteDecodable String]
    [codec : ByteDecodable Bytes] (texts : DecodesUtf8 strings)
    (format : SequenceFormat codec) (keyType : BuiltinKey) [Serialize V]
    [DeserializeOwned V] (roundTrips : RoundTrips V) {cmp : Comparator}
    {kept entries : List (Bytes × Bytes)} {writes : List (keyType.Carrier × V)}
    (holds : HoldsWritten cmp entries writes)
    (stored : ∀ entry ∈ kept, entry ∈ entries) :
    ReturnsWritten kept writes (kept.mapM decodeEntry) ↔
      keyType = .string ∨ kept = [] := by
  cases keyType with
  | string =>
      constructor
      · exact fun _ => .inl rfl
      · intro _
        exact returnsWritten_of_decodesKeys (decodesKeys_string texts) roundTrips
          holds stored
  | vecU8 =>
      rw [or_iff_right (by decide)]
      exact returnsWritten_of_misreadsKeys (misreadsKeys_of_format format)

/-- Keys are read back from the bytes they are written as exactly for `String`.
After any sequence of puts into an empty family the entries are what was
written, and a search by prefix or from a key returns the keys and values it
kept as they were written exactly when the key type is `String`, or when it kept
nothing. -/
theorem builtinKey_roundTrips_iff [strings : ByteDecodable String]
    [codec : ByteDecodable Bytes] (texts : DecodesUtf8 strings)
    (format : SequenceFormat codec) (keyType : BuiltinKey) :
    (∀ key : keyType.Carrier,
      (serializeKey key >>= deserializeKey) = .ok key ↔ keyType = .string) ∧
    ∀ {cmps : String → Comparator} [∀ cf, Std.TransCmp (cmps cf)]
      {V : Type} [Serialize V] [DeserializeOwned V], RoundTrips V →
      ∀ (store : Store) (cfName : String) (before after : Db cmps)
        (writes : List (keyType.Carrier × V)), store.Opens cfName →
        before (store.asked cfName) = ∅ →
        store.putAll cfName writes before = (.ok (), after) →
        HoldsWritten (cmps (store.asked cfName)) (store.entries cfName after)
          writes ∧
        (∀ (prefixKey : keyType.Carrier) (direction : Direction),
          ReturnsWritten (store.keptByPrefix cfName after prefixKey) writes
            (store.findByPrefix cfName after none prefixKey direction) ↔
          keyType = .string ∨ store.keptByPrefix cfName after prefixKey = []) ∧
        ∀ {S : Type} (startKey : keyType.Carrier) (direction : Direction)
          (controlFn : ControlFn S) (captured : S),
          ReturnsWritten
            (store.keptFrom cfName after startKey direction controlFn captured)
            writes
            (store.findFrom cfName after none startKey direction controlFn
              captured) ↔
          keyType = .string ∨
            store.keptFrom cfName after startKey direction controlFn captured =
              [] := by
  constructor
  · exact key_roundTrip_iff texts format keyType
  · intro cmps _ V _ _ roundTrips store cfName before after writes opens empty
      succeeded
    have holds := Store.putAll_holds (OnlyPuts.of_empty empty) succeeded
    have written := holds.holdsWritten store.access.db
    have readable := holds.readable store.access.db
    refine ⟨written, ?_, ?_⟩
    · intro prefixKey direction
      rw [Store.findByPrefix_eq_kept opens readable]
      exact returnsWritten_iff texts format keyType roundTrips written
        fun _ => Store.mem_of_mem_keptByPrefix
    · intro S startKey direction controlFn captured
      rw [Store.findFrom_eq_kept opens readable]
      exact returnsWritten_iff texts format keyType roundTrips written
        fun _ => Store.mem_of_mem_keptFrom

/-- The `Vec<u8>` key `01 01 09` is read back as `09`, and a search by prefix
returns that key, which was never written. -/
theorem vecU8_key_misread :
    let _keys : ByteDecodable Bytes := sequenceU8
    let _encoder : Serialize Bytes := ⟨.ok⟩
    let _decoder : DeserializeOwned Bytes := ⟨.ok⟩
    let store : Store := .cfStore ⟨⟨["default"], fun _ _ _ _ => none⟩⟩
    let key : Bytes := [1, 1, 9]
    let writes : List (Bytes × Bytes) := [(key, [7])]
    let after : ByteDb := (store.putAll "default" writes Db.empty).2
    SequenceFormat sequenceU8 ∧ RoundTrips Bytes ∧ store.Opens "default" ∧
      (store.putAll "default" writes (Db.empty : ByteDb)).1 = .ok () ∧
      ¬ DecodesKeys Bytes ∧
      (serializeKey key >>= deserializeKey) = .ok ([9] : Bytes) ∧
      store.findByPrefix (V := Bytes) "default" after none key .forward =
        .ok [(([9] : Bytes), [7])] := by
  intro _keys _encoder _decoder store key writes after
  have opens : store.Opens "default" := rfl
  have readable : store.Readable "default" after := by decide +kernel
  have misread : (serializeKey key >>= deserializeKey) =
      .ok ([9] : Bytes) := by
    decide +kernel
  refine ⟨sequenceU8_format, ?_, opens, rfl, ?_, misread, ?_⟩
  · intro val bytes encoded
    cases encoded
    rfl
  · intro decodes
    have readBack : (.ok [9] : StoreResult Bytes) = .ok [1, 1, 9] :=
      misread.symm.trans (decodes key)
    cases readBack
  · rw [Store.findByPrefix_eq_kept opens readable]
    decide +kernel

/-- Two `String` keys are written, and a search finds the one under its
prefix. -/
theorem builtinKey_roundTrips_two_strings :
    let _texts : ByteDecodable String := utf8Keys
    let _keys : ByteDecodable Bytes := sequenceU8
    let _encoder : Serialize Bytes := ⟨.ok⟩
    let _decoder : DeserializeOwned Bytes := ⟨.ok⟩
    let store : Store := .cfStore ⟨⟨["default"], fun _ _ _ _ => none⟩⟩
    let writes : List (BuiltinKey.string.Carrier × Bytes) :=
      [("user:1", [1]), ("zone", [2])]
    let after : ByteDb := (store.putAll "default" writes Db.empty).2
    store.keptByPrefix "default" after (K := BuiltinKey.string.Carrier) "user:" ≠
        [] ∧
      ReturnsWritten
        (store.keptByPrefix "default" after (K := BuiltinKey.string.Carrier)
          "user:") writes
        (store.findByPrefix "default" after none "user:" .reverse) := by
  intro _texts _keys _encoder _decoder store writes after
  have roundTrips : RoundTrips Bytes := by
    intro val bytes encoded
    cases encoded
    rfl
  have searches := (builtinKey_roundTrips_iff utf8Keys_decodesUtf8 sequenceU8_format
    .string).2 roundTrips store "default" (Db.empty : ByteDb) after writes rfl rfl rfl
  constructor
  · decide +kernel
  · exact (searches.2.1 "user:" .reverse).mpr (.inl rfl)

end RockSolid
