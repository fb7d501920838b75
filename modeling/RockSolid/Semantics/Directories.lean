/-
Module: RockSolid.Semantics.Directories
Layer: Semantics
Purpose: The whole life of a database directory.  One session after the other opens
  a store of any kind on it, uses it through its whole interface, and closes it.
  The configurations have no callback, no comparator and no compaction filter and
  list the default family; they may differ in anything else but the merge operators
  of the families, and may list further families.  And the ordered maps that are
  kept from session to session.
Trusted boundary: human-reviewed model of the source; what the engine keeps when a
  store is closed is documented behaviour
Main exports: MergeSchema, OpenCall.HasNoCallback, OpenCall.Fits, ListsFamilies,
  DirectoryCall, MetSession, OnDisk.emptied, OnDisk.receiver, MapDirectory,
  MapDirectory.receiver, OnDisk.StandsFor
-/
import RockSolid.Semantics.OpenStores
import RockSolid.Semantics.StoreSessions

namespace RockSolid

open Foundation

/-- The merge operator that each family of a directory is configured with, if any. -/
abbrev MergeSchema := String → Option MergeOperatorCfConfig

namespace MergeSchema

variable (schema : MergeSchema)

/-- The full merge of each family; without a merge operator no merge succeeds. -/
def fullMerge (cf : String) : MergeFn :=
  ((schema cf).map (·.installedFullMerge)).getD fun _ _ _ => none

def partialMerge (cf : String) : MergeFn :=
  ((schema cf).map fun config =>
    config.partialMergeFn.getD defaultPartialMerge).getD fun _ _ _ => none

/-- The merge functions of every family may be used in parts. -/
def InParts : Prop :=
  ∀ cf key, MergesInParts key (schema.fullMerge cf) (schema.partialMerge cf)

/-- The maps that records stand for. -/
def contents (data : ByteDb) : FamilyMaps :=
  DbHandle.contents ⟨[], schema.fullMerge⟩ data

end MergeSchema

/-- No callback changes the options. -/
def OpenCall.HasNoCallback : OpenCall → Prop
  | .cfStore cfg => cfg.customOptionsDbAndCf = none
  | .defaultStore config => config.customOptionsDefaultCfAndDb = none
  | .cfTxnStore cfg => cfg.customOptionsDbAndCf = none
  | .defaultTxnStore config => config.customOptionsDefaultCfAndDb = none
  | .cfOptimisticTxnStore cfg => cfg.customOptionsDbAndCf = none
  | .defaultOptimisticTxnStore config => config.customOptionsDefaultCfAndDb = none

/-- The call opens the families as the schema has them, and installs nothing that
orders keys otherwise or drops records. -/
structure OpenCall.Fits (schema : MergeSchema) (call : OpenCall) : Prop where
  noCallback : call.HasNoCallback
  listsDefault : defaultColumnFamilyName ∈ call.families
  merges : ∀ cf ∈ call.families,
    (call.configured cf).bind (·.mergeOperator) = schema cf
  bytewise : ∀ cf ∈ call.families, ∀ config ∈ call.configured cf,
    config.comparator = none
  unfiltered : ∀ cf ∈ call.families, ∀ config ∈ call.configured cf,
    config.compactionFilterRouter = none

/-- The call names one of the families, if it names any, and so do the calls in a
transaction. -/
def ListsFamilies (families : List String) (A : Type) (call : StoreCall A) : Prop :=
  match call with
  | .inContext _ program _ => program.Only fun _ call => call.cfName ∈ families
  | .executeTransaction operation =>
      operation.Only fun _ call => call.onFamily.cfName ∈ families
  | call => ∀ cfName ∈ call.cfName, cfName ∈ families

/-- A session: a store is opened, used by a program and closed. -/
inductive DirectoryCall : Type → Type 1 where
  | session {A : Type} (call : OpenCall) (program : Program StoreCall A) :
      DirectoryCall (StoreResult A)

/-- The session opens the directory as the schema has it, and uses the families it
lists. -/
def DirectoryCall.Fits (schema : MergeSchema) (A : Type) :
    DirectoryCall A → Prop
  | .session call program =>
      call.Fits schema ∧ program.Only (ListsFamilies call.families)

/-- What a session meets: the process it runs in, a failure of the opening, and
what each call of its program meets. -/
structure MetSession where
  env : OpenEnv
  fault : Option Fault
  calls : Stream' (List BackgroundMerge × Met)

/-- The directory with its records taken away. -/
def OnDisk.emptied (disk : OnDisk) : OnDisk :=
  { disk with
    data := Db.empty
    absent := fun _ _ => rfl }

/-- A directory in use.  Writers that were not ended are dropped with the store,
without a commit; the engine keeps what was written to the families it has. -/
def OnDisk.receiver (schema : MergeSchema) :
    Receiver DirectoryCall MetSession OnDisk where
  answer met call disk :=
    match call with
    | .session call program =>
        match call.run met.env met.fault disk with
        | (.ok store, opened) =>
            let (result, session) := program.run
              (store.sessionReceiver.interrupted
                (Session.mergedBetween store.access.db.fullMerge
                  schema.partialMerge)) met.calls ⟨opened.data, []⟩
            (.ok result, opened.withData session.data)
        | (.error e, opened) => (.error e, opened)

/-- A directory without records, and the maps of its families. -/
structure MapDirectory where
  families : OnDisk
  maps : FamilyMaps

/-- A directory of ordered maps: an opening decides by the families, and a session
works on the maps. -/
def MapDirectory.receiver (schema : MergeSchema) :
    Receiver DirectoryCall MetSession MapDirectory where
  answer met call directory :=
    match call with
    | .session call program =>
        match call.run met.env met.fault directory.families with
        | (.ok store, families) =>
            let (result, session) := program.run
              (FamilyMaps.sessionReceiver schema.fullMerge store.kind)
              (met.calls.map Prod.snd) ⟨directory.maps, []⟩
            (.ok result, { families, maps := session.maps })
        | (.error e, families) => (.error e, { directory with families })

/-- The records of the directory stand for the maps. -/
structure OnDisk.StandsFor (schema : MergeSchema) (disk : OnDisk)
    (directory : MapDirectory) : Prop where
  families : disk.emptied = directory.families
  maps : schema.contents disk.data = directory.maps

end RockSolid
