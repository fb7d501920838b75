/-
Module: RockSolid.Proofs.PointInTime
Layer: Proofs
Purpose: When the reads of an optimistic transaction show one committed state.
  The snapshot does not serve reads, so they show the contents of the creation
  exactly as far as nobody else has changed the observed keys.
Trusted boundary: none
Main exports: reads_show_creation_iff, reads_follow_foreign_commit
-/
import RockSolid.Proofs.OptimisticSession

namespace RockSolid

open Foundation KeyedStore

/-- For a context and for the closure of a retrying call, over every run and any
selection of its observations of unwritten keys: they all show the contents that
were committed when the transaction was created exactly when the commits before
each of them left the value of its key as it was. -/
theorem reads_show_creation_iff (store : RocksDbCFOptimisticTxnStore)
    (base : ByteDb) (log : CommitLog) (selected : Set Observation) :
    (∀ steps : List ContextSessionStep,
      let seen := selected ∩ observations ContextSession.native
        (ContextSession.after base) (ContextSession.create store log) steps
      ShowsCreation store.db (replay base log) seen ↔
        LeftAsCreated store.db base (replay base log) seen) ∧
    ∀ steps : List ClosureSessionStep,
      let seen := selected ∩ observations id
        (ClosureSession.after store.db base) (ClosureSession.create log) steps
      ShowsCreation store.db (replay base log) seen ↔
        LeftAsCreated store.db base (replay base log) seen := by
  constructor
  · intro steps
    have moves : ∀ s, ContextSession.Running store s → ∀ step,
        Moves store.db base s.native (s.after base step).native ∧
          ContextSession.Running store (s.after base step) :=
      fun s running step => ContextSession.moves base running step
    exact showsCreation_iff moves (ContextSession.running_create log) steps
      (replay base log) selected
  · intro steps
    have moves : ∀ s : NativeSession, True → ∀ step,
        Moves store.db base (id s)
            (id (ClosureSession.after store.db base s step)) ∧ True :=
      fun s _ step => ⟨ClosureSession.moves store.db base s step, trivial⟩
    exact showsCreation_iff moves trivial steps (replay base log) selected

/-- A store with the default family only. -/
def accountsStore : RocksDbCFOptimisticTxnStore :=
  { db := { columnFamilies := ["default"], fullMerge := fun _ _ _ _ => none }
    cfNames := ["default"] }

/-- The key `a`, which holds `1`. -/
def accountA : CfKey := ⟨"default", [97]⟩

def accountsData : ByteDb := Db.empty.apply (.put accountA [49])

/-- One key is read twice, and between the reads another client commits a new
value: the reads return two values, through a context and through a closure. -/
theorem reads_follow_foreign_commit :
    let getA := ContextSessionStep.call none
      (.reading (.getRaw (K := Bytes) ⟨id⟩ [97]))
    let overwrite : List WriteOp := [.put accountA [50]]
    ¬ ShowsCreation accountsStore.db accountsData
        (observations ContextSession.native (ContextSession.after accountsData)
          (ContextSession.create accountsStore [])
          [getA, .foreign overwrite, getA]) ∧
      ¬ ShowsCreation accountsStore.db accountsData
        (observations id (ClosureSession.after accountsStore.db accountsData)
          (ClosureSession.create [])
          [.get accountA none, .foreign overwrite, .get accountA none]) := by
  intro getA overwrite
  let second : Sighting :=
    { event := .get accountA (.ok (some [50])), staged := []
      log := [overwrite] }
  let seen : Observation :=
    { key := accountA, answer := some [50], log := [overwrite] }
  have created : accountsStore.db.read accountsData accountA =
      .ok (some [49]) := by decide
  have stale : ¬ accountsStore.db.read accountsData seen.key =
      .ok seen.answer := by
    rw [created]
    decide
  have shown : Observes second.event seen.key seen.answer :=
    .get accountA (some [50])
  constructor
  · intro shows
    exact stale (shows seen ⟨second, by decide, shown, touches_nil _, rfl⟩)
  · intro shows
    exact stale (shows seen ⟨second, by decide, shown, touches_nil _, rfl⟩)

end RockSolid
