/-
Module: RockSolid.Proofs.ExpiredValues
Layer: Proofs
Purpose: The expiry handler removes expired values only; so a reader that checks
  the expiry of what it finds cannot tell whether compactions ran.
Trusted boundary: none
Main exports: expirerRouter_decides, CompactedDb.applyBatch_writes,
  ttlRun_record, expiry_unobservable
-/
import RockSolid.Proofs.ExpiryFormat
import RockSolid.Proofs.StoreReads
import RockSolid.Semantics.CompactionFilter

namespace RockSolid

open Foundation

/-- The bytes are a value with an expiry that has passed. -/
def ExpiredBy (now : UInt64) (value : Bytes) : Prop :=
  ∃ vwe : ValueWithExpiry String,
    ValueWithExpiry.fromSlice value = .ok vwe ∧ vwe.expireTime ≤ now

/-- The header of a value does not depend on the type of its payload. -/
theorem ExpiredBy.fromSlice {V : Type} {now : UInt64} {value : Bytes}
    (expired : ExpiredBy now value) :
    ∃ vwe : ValueWithExpiry V,
      ValueWithExpiry.fromSlice value = .ok vwe ∧ vwe.expireTime ≤ now := by
  obtain ⟨vwe, read, passed⟩ := expired
  by_cases short : value.length < 8
  · obtain ⟨message, refused⟩ :=
      ValueWithExpiry.fromSlice_of_short (V := String) short
    rw [refused] at read
    cases read
  · rw [ValueWithExpiry.fromSlice_of_header short] at read
    cases read
    exact ⟨_, ValueWithExpiry.fromSlice_of_header short, passed⟩

/-- A filter whose routes lead to the expiry handler keeps a value, or removes one
that has expired. -/
theorem expirerRouter_decides (routed : String → Option Params) (now : UInt64)
    (level : UInt32) (key value : Bytes) :
    routerCompactionFilterFn (expirerRouter routed now) level key value = .keep ∨
      routerCompactionFilterFn (expirerRouter routed now) level key value =
        .remove ∧ ExpiredBy now value := by
  rw [routerCompactionFilterFn]
  cases fromUtf8 key with
  | none => exact .inl rfl
  | some path =>
      simp only [expirerRouter]
      cases routed path with
      | none => exact .inl rfl
      | some params =>
          simp only [Option.map_some, cacheItemExpirer]
          cases read : ValueWithExpiry.fromSlice (V := String) value with
          | error e => exact .inl rfl
          | ok vwe =>
              by_cases expired : vwe.expireTime ≤ now
              · exact .inr ⟨if_pos expired, vwe, read, expired⟩
              · exact .inl (if_neg expired)

/-- Writes on a database whose engine takes no steps of its own. -/
theorem CompactedDb.applyBatch_writes (data : ByteDb) (ops : List WriteOp) :
    KeyedStore.applyBatch (CompactedDb.mk data) (ops.map EngineStep.write) =
      ⟨data.applyAll ops⟩ := by
  induction ops generalizing data with
  | nil => rfl
  | cons op ops inductionHypothesis => exact inductionHypothesis (data.apply op)

/-- The record of a key that no operand is merged into, with compactions and
without: the same value, or none where there is an expired one. -/
structure ExpiryRelated (now : UInt64) (kept plain : Record) : Prop where
  keptOperands : kept.operands = []
  plainOperands : plain.operands = []
  values : kept.base = plain.base ∨
    kept.base = none ∧ ∃ value, plain.base = some value ∧ ExpiredBy now value

namespace ExpiryRelated

variable {now : UInt64} {kept plain : Record}

/-- A value that is written, or a delete, wipes the difference out. -/
theorem write {op : WriteOp}
    (unmerged : ∀ operand, op ≠ .merge op.target operand) :
    ExpiryRelated now (op.effect kept) (op.effect plain) := by
  cases op with
  | put at_ value => exact ⟨rfl, rfl, .inl rfl⟩
  | delete at_ => exact ⟨rfl, rfl, .inl rfl⟩
  | merge at_ operand => exact absurd rfl (unmerged operand)

/-- A compaction may remove the value, if it has expired. -/
theorem compact (key : Bytes) {decide : Bytes → Decision}
    (decides : ∀ value, decide value = .keep ∨
      decide value = .remove ∧ ExpiredBy now value)
    (related : ExpiryRelated now kept plain) :
    ExpiryRelated now ((RecordWork.filterValue fun value =>
      (decide value).outcome value).effect key kept) plain := by
  obtain ⟨base, operands⟩ := kept
  obtain ⟨noOperands, plainOperands, values⟩ := related
  refine ⟨noOperands, plainOperands, ?_⟩
  cases base with
  | none => exact values
  | some value =>
      have same : some value = plain.base := by
        rcases values with same | ⟨missing, _⟩
        · exact same
        · cases missing
      simp only [RecordWork.effect, Option.bind_some]
      rcases decides value with keeps | ⟨removes, expired⟩
      · rw [keeps]
        exact .inl same
      · rw [removes]
        exact .inr ⟨rfl, value, same.symm, expired⟩

end ExpiryRelated

section Runs

variable (routed : String → String → Option Params) {data : ByteDb}
  {steps : List TtlStep} {now : UInt64} {at_ : CfKey}

/-- The writes among the engine's steps are those asked for. -/
theorem filter_engine_eq_writes (steps : List TtlStep) :
    ((steps.map (TtlStep.engine routed)).filter
        fun step => !step.isCompaction) =
      (steps.filterMap TtlStep.op).map .write := by
  induction steps with
  | nil => rfl
  | cons step steps inductionHypothesis =>
      cases step with
      | write op =>
          exact congrArg (EngineStep.write op :: ·) inductionHypothesis
      | compact time level worked => exact inductionHypothesis

/-- With compactions up to a time, a record is related to that of the writes
alone. -/
theorem ttlRun_record (compacted : CompactedBy now steps)
    (unmerged : NeverMerged at_ data steps) :
    ExpiryRelated now ((ttlRun routed data steps).record at_)
      ((data.applyAll (steps.filterMap TtlStep.op)).record at_) := by
  have start : ExpiryRelated now (data.record at_) (data.record at_) :=
    ⟨unmerged.1, unmerged.1, .inl rfl⟩
  have each : ∀ step ∈ steps.map (TtlStep.engine routed),
      KeyedStore.SilentStep CompactedDb EngineStep.isCompaction
        (ExpiryRelated now) at_ step := by
    rw [List.forall_mem_map]
    intro step member
    cases step with
    | write op =>
        refine ⟨?_, nofun⟩
        intro _ hit kept plain _
        apply ExpiryRelated.write
        intro operand merges
        have here : op.target = at_ := hit
        rw [merges, here] at member
        exact unmerged.2 operand member
    | compact time level worked =>
        refine ⟨nofun, ?_⟩
        intro _ _ kept plain related
        refine ExpiryRelated.compact worked.key ?_ related
        intro value
        rcases expirerRouter_decides (routed worked.cf) time level worked.key
          value with keeps | ⟨removes, vwe, read, expired⟩
        · exact .inl keeps
        · exact .inr ⟨removes, vwe, read,
            UInt64.le_trans expired (compacted worked level time member)⟩
  have related := KeyedStore.cell_run_related (CompactedDb.mk data)
    (CompactedDb.mk data) each start
  rw [filter_engine_eq_writes, CompactedDb.applyBatch_writes] at related
  exact related

end Runs

/-- A read of a record without operands finds its value. -/
theorem DbHandle.read_of_noOperands (db : DbHandle) {data : ByteDb} {at_ : CfKey}
    (noOperands : (data.record at_).operands = []) :
    db.read data at_ = .ok (data.record at_).base := by
  rw [DbHandle.read, DbHandle.readRecord, noOperands]

/-- Whoever checks the expiry of what `get_with_expiry` finds, at a time no
compaction has run after, sees the same whether the compactions ran or not, in
every store; and what is found in spite of the compactions is what would be found
without them. -/
theorem expiry_unobservable {K V : Type} [AsBytes K] (store : Store)
    (cfName : String) (key : K) (fault : Option Fault)
    (routed : String → String → Option Params) (data : ByteDb)
    (steps : List TtlStep) (now : UInt64) (compacted : CompactedBy now steps)
    (unmerged : NeverMerged ⟨store.asked cfName, AsBytes.asBytes key⟩ data
      steps) :
    (store.getWithExpiry (V := V) cfName key (ttlRun routed data steps)
        fault).map (liveAt now) =
      (store.getWithExpiry (V := V) cfName key
        (data.applyAll (steps.filterMap TtlStep.op)) fault).map (liveAt now) ∧
    ∀ vwe : ValueWithExpiry V,
      store.getWithExpiry cfName key (ttlRun routed data steps) fault =
          .ok (some vwe) →
        store.getWithExpiry cfName key
          (data.applyAll (steps.filterMap TtlStep.op)) fault =
            .ok (some vwe) := by
  obtain ⟨keptOperands, plainOperands, values⟩ :=
    ttlRun_record routed compacted unmerged
  rw [Store.getWithExpiry_eq_read, Store.getWithExpiry_eq_read, CfAccess.read,
    CfAccess.read]
  cases found : store.access.family (store.asked cfName) with
  | error e => exact ⟨rfl, fun _ same => same⟩
  | ok cf =>
      have here := Store.family_ok found
      subst here
      have keptRead := store.access.db.read_of_noOperands keptOperands
      have plainRead := store.access.db.read_of_noOperands plainOperands
      simp only [bind, Except.bind, keptRead, plainRead]
      cases fault with
      | some fault => exact ⟨rfl, fun _ same => same⟩
      | none =>
          rcases values with same | ⟨missing, value, stored, expired⟩
          · rw [same]
            exact ⟨rfl, fun _ same => same⟩
          · obtain ⟨vwe, read, passed⟩ := expired.fromSlice (V := V)
            have gone : liveAt now (some vwe) = none := by
              simp [liveAt, Option.filter, passed]
            have plainFound : decodeOptional ValueWithExpiry.fromSlice
                (some value) = .ok (some vwe) := by
              rw [decodeOptional, read]
              rfl
            rw [missing, stored]
            constructor
            · change Except.ok none = (decodeOptional _ (some value)).map _
              rw [plainFound, Except.map, gone]
            · intro other stillThere
              cases stillThere

/-- A cache whose item expires at time five, compacted at time ten. -/
theorem expiry_unobservable_cache :
    let store : Store := .cfStore ⟨["default"], fun _ => defaultFullMerge⟩
    let item : CfKey := ⟨"default", AsBytes.asBytes "/cache_item/1"⟩
    let stored : Bytes := ValueWithExpiry.serializeForStorage
      (⟨5, [1]⟩ : ValueWithExpiry Bytes)
    let steps : List TtlStep := [.write (.put item stored), .compact 10 0 item]
    let written : ByteDb := Db.applyAll Db.empty (steps.filterMap TtlStep.op)
    (store.getWithExpiry (V := Bytes) "default" "/cache_item/1"
        (ttlRun (fun _ _ => some []) Db.empty steps) none).map (liveAt 10) =
      (store.getWithExpiry (V := Bytes) "default" "/cache_item/1" written
        none).map (liveAt 10) := by
  intro store item stored steps written
  have compacted : CompactedBy 10 steps := by
    intro at_ level time member
    simp only [steps, List.mem_cons, List.not_mem_nil, or_false, reduceCtorEq,
      false_or, TtlStep.compact.injEq] at member
    rw [member.1]
    exact UInt64.le_refl 10
  have unmerged : NeverMerged item Db.empty steps := by
    refine ⟨by rw [Db.record_empty]; rfl, ?_⟩
    intro operand member
    simp [steps] at member
  exact (expiry_unobservable store "default" "/cache_item/1" none
    (fun _ _ => some []) Db.empty steps 10 compacted unmerged).1

end RockSolid
