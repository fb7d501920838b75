/-
Module: RockSolid.Proofs.ConfinedMaps
Layer: Proofs
Purpose: Clients that use some families only.  What they do depends on the merge
  functions of these families alone, and nothing comes to be bound in any other.
Trusted boundary: none
Main exports: FamilyMaps.Confined, MapSession.Confined,
  FamilyMaps.receiver_confined, FamilyMaps.sessions_confined
-/
import RockSolid.Proofs.StoreSessions
import RockSolid.Semantics.Directories

namespace RockSolid

open Foundation

/-- Nothing is bound outside of the families. -/
def FamilyMaps.Confined (families : List String) (maps : FamilyMaps) : Prop :=
  ∀ cf, cf ∉ families → maps cf = ∅

/-- And the writers are for them. -/
structure MapSession.Confined (families : List String) (session : MapSession) :
    Prop where
  maps : session.maps.Confined families
  writers : ∀ pending, some pending ∈ session.writers →
    pending.cfName ∈ families ∧ ∀ op ∈ pending.batch, op.family ∈ families

section Writes

variable {families : List String} {first second : String → MergeFn}
  (agree : ∀ cf ∈ families, first cf = second cf) {maps : FamilyMaps}
  (confined : maps.Confined families)

theorem FamilyMaps.Confined.update {cf : String}
    (confined : maps.Confined families) (within : cf ∈ families)
    (map : Finmap fun _ : Bytes => Bound) :
    FamilyMaps.Confined families (Function.update maps cf map) := by
  intro other outside
  have differs : other ≠ cf := fun same => outside (same ▸ within)
  rw [Function.update_of_ne differs]
  exact confined other outside

theorem WriteOp.bound_congr {op : WriteOp}
    (same : first op.target.cf = second op.target.cf) :
    op.bound first = op.bound second := by
  funext before
  cases op with
  | put at_ value => rfl
  | delete at_ => rfl
  | merge at_ operand =>
      have same : first at_.cf = second at_.cf := same
      rcases before with _ | e | value <;>
        simp only [bound, bound.mergeOnto, same]

include agree confined

theorem FamilyMaps.write_confined {op : WriteOp} (within : op.target.cf ∈ families) :
    maps.write first op = maps.write second op ∧
      (maps.write second op).Confined families := by
  rw [write, WriteOp.bound_congr (agree op.target.cf within)]
  exact ⟨rfl, confined.update within _⟩

theorem FamilyMaps.writeRecord_confined {record : StoreResult WriteOp}
    (within : ∀ op, record = .ok op → op.target.cf ∈ families)
    (fault : Option Fault) :
    maps.writeRecord first record fault = maps.writeRecord second record fault ∧
      (maps.writeRecord second record fault).2.Confined families := by
  cases record with
  | error e => exact ⟨rfl, confined⟩
  | ok op =>
      cases fault with
      | none =>
          obtain ⟨same, after⟩ := write_confined agree confined (within op rfl)
          exact ⟨congrArg (Prod.mk _) same, after⟩
      | some fault => exact ⟨rfl, confined⟩

theorem FamilyMaps.applyBatch_confined {batch : WriteBatch}
    (within : ∀ op ∈ batch, op.family ∈ families) :
    maps.applyBatch first batch = maps.applyBatch second batch ∧
      (maps.applyBatch second batch).Confined families := by
  induction batch generalizing maps with
  | nil => exact ⟨rfl, confined⟩
  | cons op batch inductionHypothesis =>
      have here := within op List.mem_cons_self
      obtain ⟨same, after⟩ : maps.applyOp first op = maps.applyOp second op ∧
          (maps.applyOp second op).Confined families := by
        cases op with
        | write op => exact write_confined agree confined here
        | deleteRange cf startKey endKey => exact ⟨rfl, confined.update here _⟩
      have rest := inductionHypothesis after
        fun later member => within later (List.mem_cons_of_mem op member)
      simp only [applyBatch, List.foldl_cons, same]
      exact rest

theorem FamilyMaps.commit_confined {batch : WriteBatch}
    (within : ∀ op ∈ batch, op.family ∈ families) (fault : Option Fault) :
    maps.commit first batch fault = maps.commit second batch fault ∧
      (maps.commit second batch fault).2.Confined families := by
  cases fault with
  | none =>
      obtain ⟨same, after⟩ := applyBatch_confined agree confined within
      exact ⟨congrArg (Prod.mk _) same, after⟩
  | some fault => exact ⟨rfl, confined⟩

end Writes

/-- An ending leaves what was before or what was done. -/
theorem ContextEnd.closes_of {σ : Type} {P : σ → Prop} {before after : σ}
    (atFirst : P before) (done : P after) (fault : Option Fault)
    (ending : ContextEnd) : P (ending.closes before after fault).2 := by
  cases ending <;> cases fault <;> assumption

theorem atomically_of {σ Q : Type} {P : σ → Prop} {before after : σ}
    (atFirst : P before) (done : P after) (result : StoreResult Q)
    (fault : Option Fault) : P (atomically before after result fault).2 := by
  cases result <;> cases fault <;> assumption

section Programs

variable {families : List String} {first second : String → MergeFn}
  (agree : ∀ cf ∈ families, first cf = second cf)

include agree

/-- Calls on the families are answered alike, and change nothing else. -/
theorem FamilyMaps.receiver_confined :
    (FamilyMaps.receiver first).Simulates (FamilyMaps.receiver second)
      (fun _ call => call.cfName ∈ families)
      fun maps other => maps = other ∧ maps.Confined families := by
  intro A fault call maps other within ⟨same, confined⟩
  subst same
  cases call with
  | write cfName call =>
      have inFamily : ∀ op, call.record cfName = .ok op →
          op.target.cf ∈ families := by
        intro op recorded
        rw [WriteCall.target_of_record recorded]
        exact within
      obtain ⟨same, after⟩ := writeRecord_confined agree confined inFamily fault
      simp only [receiver]
      rw [same]
      exact ⟨rfl, rfl, after⟩
  | _ => exact ⟨rfl, rfl, confined⟩

variable {Q : Type} {maps : FamilyMaps} (confined : maps.Confined families)

include confined

theorem FamilyMaps.inContext_confined {program : Program FamilyCall Q}
    (within : program.Only fun _ call => call.cfName ∈ families)
    (ending : ContextEnd) (met : Met) :
    maps.inContext first program ending met =
        maps.inContext second program ending met ∧
      (maps.inContext second program ending met).2.Confined families := by
  obtain ⟨sameResult, sameMaps, after⟩ :=
    (receiver_confined agree).run within met.inside ⟨rfl, confined⟩
  simp only [inContext, sameResult, sameMaps]
  exact ⟨trivial, ending.closes_of confined (sameMaps ▸ after) met.fault⟩

theorem FamilyMaps.executeTransaction_confined
    {operation : Program KeyCall (StoreResult Q)}
    (within : operation.Only fun _ call => call.onFamily.cfName ∈ families)
    (met : Met) :
    maps.executeTransaction first operation met =
        maps.executeTransaction second operation met ∧
      (maps.executeTransaction second operation met).2.Confined families := by
  obtain ⟨sameResult, sameMaps, after⟩ :=
    ((receiver_confined agree).along fun _ => KeyCall.onFamily).run within
      met.inside ⟨rfl, confined⟩
  simp only [executeTransaction, sameResult, sameMaps]
  exact ⟨trivial, atomically_of confined (sameMaps ▸ after) _ met.fault⟩

end Programs

namespace MapSession.Confined

variable {families : List String} {session : MapSession}
  (confined : session.Confined families)

include confined

theorem withMaps {maps : FamilyMaps} (after : maps.Confined families) :
    MapSession.Confined families { session with maps } :=
  ⟨after, confined.writers⟩

/-- A writer may be put in the place of another. -/
theorem set (number : Nat) {writer : Option Pending}
    (within : ∀ pending, writer = some pending →
      pending.cfName ∈ families ∧ ∀ op ∈ pending.batch, op.family ∈ families) :
    MapSession.Confined families
      { session with writers := session.writers.set number writer } := by
  refine ⟨confined.maps, ?_⟩
  intro pending member
  rcases List.mem_or_eq_of_mem_set member with earlier | here
  · exact confined.writers pending earlier
  · exact within pending here.symm

end MapSession.Confined

/-- A client of some families depends on their merge functions alone, and leaves
the other families empty. -/
theorem FamilyMaps.sessions_confined {families : List String}
    {first second : String → MergeFn}
    (agree : ∀ cf ∈ families, first cf = second cf) (kind : StoreKind) :
    (FamilyMaps.sessionReceiver first kind).Simulates
      (FamilyMaps.sessionReceiver second kind) (ListsFamilies families)
      fun session other => session = other ∧ session.Confined families := by
  intro A met call session other within ⟨same, confined⟩
  subst same
  cases call with
  | family call =>
      obtain ⟨sameAnswer, sameMaps, after⟩ := receiver_confined agree A met.fault
        call session.maps session.maps (within _ rfl) ⟨rfl, confined.maps⟩
      simp only [sessionReceiver, sameAnswer, sameMaps]
      exact ⟨trivial, trivial, confined.withMaps (sameMaps ▸ after)⟩
  | mergeWithExpiry keys codec cfName key value expireTime =>
      have inFamily : ∀ op, expiringMerge cfName key value expireTime = .ok op →
          op.target.cf ∈ families := by
        intro op recorded
        obtain ⟨bytes, -, rfl⟩ := map_eq_ok_iff.mp recorded
        exact within cfName rfl
      obtain ⟨same, after⟩ :=
        writeRecord_confined agree confined.maps inFamily met.fault
      simp only [sessionReceiver, same]
      exact ⟨trivial, trivial, confined.withMaps after⟩
  | deleteRange keys cfName startKey endKey =>
      simp only [sessionReceiver]
      by_cases plain : kind = .plain
      · have inFamily : ∀ op ∈ [BatchOp.deleteRange cfName
            (AsBytes.asBytes startKey) (AsBytes.asBytes endKey)],
            op.family ∈ families :=
          List.forall_mem_singleton.mpr (within cfName rfl)
        obtain ⟨same, after⟩ :=
          commit_confined agree confined.maps inFamily met.fault
        simp only [if_pos plain, same]
        exact ⟨trivial, trivial, confined.withMaps after⟩
      · simp only [if_neg plain]
        exact ⟨trivial, trivial, confined⟩
  | batchWriter cfName =>
      simp only [sessionReceiver]
      by_cases plain : kind = .plain
      · simp only [if_pos plain]
        refine ⟨trivial, trivial, confined.maps, ?_⟩
        intro pending member
        rcases List.mem_append.mp member with earlier | last
        · exact confined.writers pending earlier
        · cases List.mem_singleton.mp last
          exact ⟨within cfName rfl, List.forall_mem_nil _⟩
      · simp only [if_neg plain]
        exact ⟨trivial, trivial, confined⟩
  | stage number call =>
      refine ⟨rfl, rfl, ?_⟩
      simp only [sessionReceiver]
      cases found : session.writers[number]?.join with
      | none => exact confined
      | some pending =>
          have before := confined.writers pending (mem_of_handle found)
          simp only []
          cases named : call.operation pending.cfName with
          | error e => exact confined
          | ok op =>
              apply confined.set number
              intro after same
              cases same
              refine ⟨before.1, ?_⟩
              intro staged member
              rcases List.mem_append.mp member with earlier | last
              · exact before.2 staged earlier
              · cases List.mem_singleton.mp last
                rw [BatchCall.family_of_operation named]
                exact before.1
  | finish number ending =>
      simp only [sessionReceiver]
      cases found : session.writers[number]?.join with
      | none => exact ⟨rfl, rfl, confined⟩
      | some pending =>
          have before := confined.writers pending (mem_of_handle found)
          have ended : MapSession.Confined families
              { session with writers := session.writers.set number none } :=
            confined.set number (by rintro _ ⟨⟩)
          cases ending with
          | commit =>
              obtain ⟨same, after⟩ :=
                commit_confined agree confined.maps before.2 met.fault
              simp only [same]
              exact ⟨trivial, trivial, ended.withMaps after⟩
          | discard => exact ⟨rfl, rfl, ended⟩
          | drop => exact ⟨rfl, rfl, ended⟩
  | inContext blind program ending =>
      simp only [sessionReceiver]
      by_cases offered : kind.hasContexts blind
      · obtain ⟨same, after⟩ :=
          inContext_confined agree confined.maps within ending met
        simp only [if_pos offered, same]
        exact ⟨trivial, trivial, confined.withMaps after⟩
      · simp only [if_neg offered]
        exact ⟨trivial, trivial, confined⟩
  | executeTransaction operation =>
      simp only [sessionReceiver]
      by_cases pessimistic : kind = .pessimistic
      · obtain ⟨same, after⟩ :=
          executeTransaction_confined agree confined.maps within met
        simp only [if_pos pessimistic, same]
        exact ⟨trivial, trivial, confined.withMaps after⟩
      · simp only [if_neg pessimistic]
        exact ⟨trivial, trivial, confined⟩
  | _ => exact ⟨rfl, rfl, confined⟩

end RockSolid
