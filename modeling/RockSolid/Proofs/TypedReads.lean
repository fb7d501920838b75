/-
Module: RockSolid.Proofs.TypedReads
Layer: Proofs
Purpose: A typed read decodes one value from the front of what is stored and
  never looks at the rest.  The default full merge appends its operands, so a
  value that was put and then merged reads as if it had not been merged.
Trusted boundary: none
Main exports: deserializeValue_eq_ok_iff, defaultFullMerge_some,
  MergesOnly.record, DbHandle.read_of_putThenMerged, typedRead_ignores_rest
-/
import RockSolid.Proofs.WriteHistory
import RockSolid.Semantics.TypedReads

namespace RockSolid

open Foundation

variable {cmps : String → Comparator} {V : Type}

section Decoding

variable [FrontDecoder V] {bytes : Bytes} {val : V}

/-- A value is decoded when it stands in front. -/
theorem deserializeValue_eq_ok_iff :
    deserializeValue bytes = .ok val ↔
      ∃ rest, FrontDecoder.decodeFront bytes = .ok (val, rest) := by
  have unfolded : deserializeValue (V := V) bytes =
      ((FrontDecoder.decodeFront bytes).map Prod.fst).mapError
        .deserialization := rfl
  rw [unfolded, mapError_eq_ok_iff, map_eq_ok_iff]
  constructor
  · rintro ⟨⟨found, rest⟩, decoded, rfl⟩
    exact ⟨rest, decoded⟩
  · rintro ⟨rest, decoded⟩
    exact ⟨(val, rest), decoded, rfl⟩

omit [FrontDecoder V] in
theorem decodeOptional_eq_ok_iff {decode : Bytes → StoreResult V} :
    decodeOptional decode (some bytes) = .ok (some val) ↔
      decode bytes = .ok val := by
  rw [decodeOptional]
  cases decode bytes <;> simp [Functor.map, Except.map]

/-- With bytes after the encoding of a value the value is decoded. -/
theorem deserializeValue_append [Serialize V] (delimits : SelfDelimiting V)
    (encoded : serializeValue val = .ok bytes) (rest : Bytes) :
    deserializeValue (bytes ++ rest) = .ok val := by
  apply deserializeValue_eq_ok_iff.mpr
  exact ⟨rest, delimits val bytes rest (serialize_of_serializeValue encoded)⟩

/-- The value after the header of a value with expiry. -/
theorem get_after_fromSlice :
    (∃ stored : ValueWithExpiry V,
      ValueWithExpiry.fromSlice bytes = .ok stored ∧ stored.get = .ok val) ↔
      8 ≤ bytes.length ∧
        ∃ rest, FrontDecoder.decodeFront (bytes.drop 8) = .ok (val, rest) := by
  by_cases short : bytes.length < 8
  · obtain ⟨message, refused⟩ := ValueWithExpiry.fromSlice_of_short (V := V) short
    rw [refused]
    constructor
    · rintro ⟨stored, accepted, _⟩
      cases accepted
    · rintro ⟨long, _⟩
      omega
  · rw [ValueWithExpiry.fromSlice_of_header short, ← deserializeValue_eq_ok_iff]
    constructor
    · rintro ⟨stored, accepted, decoded⟩
      cases accepted
      exact ⟨by omega, decoded⟩
    · rintro ⟨_, decoded⟩
      exact ⟨_, rfl, decoded⟩

end Decoding

section Merging

theorem foldl_append_eq_flatten (existing : Bytes) (operands : List Bytes) :
    operands.foldl (· ++ ·) existing = existing ++ operands.flatten := by
  induction operands generalizing existing with
  | nil => simp
  | cons operand operands inductionHypothesis =>
      rw [List.foldl_cons, inductionHypothesis, List.flatten_cons,
        List.append_assoc]

/-- The default full merge appends the operands. -/
theorem defaultFullMerge_some (key existing : Bytes) (operands : List Bytes) :
    defaultFullMerge key (some existing) operands =
      some (existing ++ operands.flatten) := by
  rw [defaultFullMerge, foldl_append_eq_flatten]

/-- Without a function or without a route the default is applied. -/
theorem RockSolidMergeOperatorCfConfig.DefaultsAt.applies
    {config : RockSolidMergeOperatorCfConfig} {key : Bytes}
    (defaults : config.DefaultsAt key) (existingVal : Option Bytes)
    (operands : List Bytes) :
    config.installedFullMerge key existingVal operands =
      defaultFullMerge key existingVal operands := by
  cases defaults with
  | unset noFunction => rw [installedFullMerge, noFunction, Option.getD_none]
  | unrouted fullMergeRouter routed noRoute =>
      rw [installedFullMerge, routed, Option.getD_some, routerFullMergeFn]
      cases text : fromUtf8 key with
      | none => rfl
      | some keyStr => simp only [noRoute keyStr text]

variable [∀ cf, Std.TransCmp (cmps cf)]

/-- Merges add their operands to the record of their key. -/
theorem MergesOnly.record {at_ : CfKey} {ops : List WriteOp}
    {operands : List Bytes} (merges : MergesOnly cmps at_ ops operands)
    (data : Db cmps) :
    (data.applyAll ops).record at_ =
      ⟨(data.record at_).base, (data.record at_).operands ++ operands⟩ := by
  induction merges generalizing data with
  | nil =>
      rw [List.append_nil]
      rfl
  | @other op ops operands differs rest inductionHypothesis =>
      have tail := inductionHypothesis (data.apply op)
      rw [Db.record_apply, if_neg differs] at tail
      exact tail
  | @merge target operand ops operands same rest inductionHypothesis =>
      have hits : SameKey cmps (WriteOp.merge target operand).target at_ := same
      have tail := inductionHypothesis (data.apply (.merge target operand))
      rw [Db.record_apply, if_pos hits] at tail
      apply tail.trans
      simp [WriteOp.effect]

/-- A key that was put and then merged. -/
theorem PutThenMerged.record {at_ : CfKey} {ops : List WriteOp} {value : Bytes}
    {operands : List Bytes} (history : PutThenMerged cmps ops at_ value operands)
    (data : Db cmps) :
    (data.applyAll ops).record at_ = ⟨some value, operands⟩ := by
  obtain ⟨before, target, after, rfl, same, merges⟩ := history
  have hits : SameKey cmps (WriteOp.put target value).target at_ := same
  rw [Db.applyAll_append, Db.applyAll_cons, merges.record, Db.record_apply,
    if_pos hits]
  rfl

/-- Under the default full merge such a key reads as the value with the operands
after it. -/
theorem DbHandle.read_of_putThenMerged (db : DbHandle) (data : Db cmps)
    {at_ : CfKey} {ops : List WriteOp} {value : Bytes} {operands : List Bytes}
    (history : PutThenMerged cmps ops at_ value operands)
    {config : RockSolidMergeOperatorCfConfig}
    (installed : db.fullMerge at_.cf = config.installedFullMerge)
    (defaults : config.DefaultsAt at_.key) :
    db.read (data.applyAll ops) at_ = .ok (some (value ++ operands.flatten)) := by
  rw [DbHandle.read, history.record data]
  cases operands with
  | nil =>
      rw [List.flatten_nil, List.append_nil]
      rfl
  | cons operand operands =>
      simp only [DbHandle.readRecord, installed, defaults.applies,
        defaultFullMerge_some]

end Merging

/-- A typed read decodes one value from the front of the bytes that are stored,
and whether anything follows it makes no difference.  So a value that was put and
then merged under the default full merge reads, on every path, as if none of the
merges had happened, while the bytes read have all their operands. -/
theorem typedRead_ignores_rest [∀ cf, Std.TransCmp (cmps cf)]
    [FrontDecoder V] :
    (∀ (data : Db cmps) (path : ReadPath) (cf : String), path.Accepts cf →
      ∀ (K : Type) [AsBytes K] (key : K) (bytes : Bytes),
        path.db.read (data.applyAll path.staged) ⟨cf, AsBytes.asBytes key⟩ =
            .ok (some bytes) → ∀ val : V,
          (path.get cf key data = .ok (some val) ↔
            ∃ rest, FrontDecoder.decodeFront bytes = .ok (val, rest)) ∧
          ∀ result ∈ path.getWithExpiry cf key data V,
            (∃ stored, result = .ok (some stored) ∧ stored.get = .ok val) ↔
              8 ≤ bytes.length ∧
                ∃ rest, FrontDecoder.decodeFront (bytes.drop 8) =
                  .ok (val, rest)) ∧
    ∀ [Serialize V], SelfDelimiting V →
      ∀ (data : Db cmps) (sessions : List WriteSession) (path : ReadPath)
        (cf : String), path.Accepts cf →
        ∀ (K : Type) [AsBytes K] (key : K)
          (config : RockSolidMergeOperatorCfConfig),
          path.db.fullMerge cf = config.installedFullMerge →
          config.DefaultsAt (AsBytes.asBytes key) →
          ∀ (val : V) (encoded : Bytes) (operands : List Bytes),
            serializeValue val = .ok encoded →
            PutThenMerged cmps (committedAll data sessions ++ path.staged)
              ⟨cf, AsBytes.asBytes key⟩ encoded operands →
            path.get cf key (performAll data sessions) = .ok (some val) ∧
              ∀ result ∈ path.getRaw cf key (performAll data sessions),
                result = .ok (some (encoded ++ operands.flatten)) := by
  constructor
  · intro data path cf accepts K _ key bytes stored val
    have finds := path.finds accepts stored
    constructor
    · rw [finds.get V, decodeOptional_eq_ok_iff, deserializeValue_eq_ok_iff]
    · intro result offered
      rw [finds.getWithExpiry V result offered, ← get_after_fromSlice]
      apply exists_congr
      intro value
      rw [decodeOptional_eq_ok_iff]
  · intro _ delimits data sessions path cf accepts K _ key config installed
      defaults val encoded operands serialized history
    have read := path.db.read_of_putThenMerged data history installed defaults
    rw [← performAll_staged] at read
    have finds := path.finds accepts read
    constructor
    · rw [finds.get V, decodeOptional,
        deserializeValue_append delimits serialized]
      rfl
    · exact finds.getRaw

/-- The number 5 is put and the operand 7 merged under an operator without a
function: `get` returns 5 and leaves the 7 unread. -/
theorem typedRead_loses_merge :
    let _encoder : Serialize UInt8 := ⟨fun number => .ok [number]⟩
    let _decoder : FrontDecoder UInt8 := byteDecoder
    let config : RockSolidMergeOperatorCfConfig := ⟨none⟩
    let store : Store :=
      .cfStore ⟨⟨["default"], fun _ => config.installedFullMerge⟩⟩
    let key : Bytes := [97]
    let data : ByteDb := performAll Db.empty
      [.single store "default" none
          (.put inferInstance inferInstance key (5 : UInt8)),
        .single store "default" none (.mergeRaw inferInstance key [7])]
    SelfDelimiting UInt8 ∧ config.DefaultsAt key ∧
      store.getRaw "default" key data none = .ok (some [5, 7]) ∧
      FrontDecoder.decodeFront [5, 7] = .ok ((5 : UInt8), ([7] : Bytes)) ∧
      store.get "default" key data none = .ok (some (5 : UInt8)) := by
  intro _encoder _decoder config store key data
  refine ⟨?_, .unset rfl, by decide +kernel, rfl, by decide +kernel⟩
  intro val bytes rest encoded
  cases encoded
  rfl

/-- The same history read through the theorem, and a router without a route for
the key. -/
theorem typedRead_ignores_rest_merged :
    let _encoder : Serialize UInt8 := ⟨fun number => .ok [number]⟩
    let _decoder : FrontDecoder UInt8 := byteDecoder
    let config : RockSolidMergeOperatorCfConfig :=
      ⟨some (routerFullMergeFn fun _ => none)⟩
    let store : Store :=
      .cfStore ⟨⟨["default"], fun _ => config.installedFullMerge⟩⟩
    let sessions : List WriteSession :=
      [.single store "default" none
          (.put inferInstance inferInstance ([97] : Bytes) (5 : UInt8)),
        .single store "default" none
          (.mergeRaw inferInstance ([97] : Bytes) [7])]
    (ReadPath.store store).get "default" ([97] : Bytes)
      (performAll (Db.empty : ByteDb) sessions) = .ok (some (5 : UInt8)) := by
  intro _encoder _decoder config store sessions
  have delimits : SelfDelimiting UInt8 := by
    intro val bytes rest encoded
    cases encoded
    rfl
  have history : PutThenMerged (fun _ => compare)
      (committedAll (Db.empty : ByteDb) sessions ++
        (ReadPath.store store).staged) ⟨"default", [97]⟩ [5] [[7]] :=
    ⟨[], ⟨"default", [97]⟩, [.merge ⟨"default", [97]⟩ [7]], rfl, by decide,
      .merge (by decide) .nil⟩
  have reads := typedRead_ignores_rest.2 delimits Db.empty sessions
    (.store store) "default" ⟨rfl, rfl⟩ Bytes [97] config rfl
    (.unrouted _ rfl fun _ _ => rfl) 5 [5] [[7]] rfl history
  exact reads.1

end RockSolid
