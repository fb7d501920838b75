/-
Module: RockSolid.Semantics.Migration
Layer: Semantics
Purpose: What a migration is meant to leave behind: when it succeeds, when it
  fails on the way, when it has compared the copies, and when it is repeated.
Trusted boundary: a statement of intent
Main exports: Migrated, sourceEntries, sourceValue, Overlaid, CopiesExactly,
  CopiesInitially, FoundEqual, Unchanged, CanMigrate
-/
import RockSolid.Core.Migrate

namespace RockSolid

/-- The open database of a directory. -/
def RocksDbCFStoreConfig.handle (config : RocksDbCFStoreConfig)
    (disk : OnDisk) : DbHandle :=
  ⟨disk.columnFamilies, config.fullMerge⟩

/-- The contents of a family are those before with these values put over them. -/
def Overlaid (before after : ByteDb) (cf : String)
    (values : List (Bytes × Bytes)) : Prop :=
  ∀ key, after.record ⟨cf, key⟩ =
    match values.lookup key with
    | some value => ⟨some value, []⟩
    | none => before.record ⟨cf, key⟩

section Migration

variable (srcConfig dstConfig : RocksDbCFStoreConfig) (before after : Databases)

/-- The visible records of a source family, in key order. -/
def sourceEntries (cf : String) : List (Bytes × Bytes) :=
  (srcConfig.handle before.source).entries before.source.data cf

/-- What the source has for a key. -/
def sourceValue (cf : String) (key : Bytes) :
    Except RocksError (Option Bytes) :=
  (srcConfig.handle before.source).read before.source.data ⟨cf, key⟩

/-- A column family of the source that is in the destination's list. -/
def Migrated (cf : String) : Prop :=
  cf ∈ before.source.columnFamilies ∧ cf ∈ dstConfig.columnFamiliesToOpen

/-- A migrated family holds the source's value of every key that the source has
and what it held before of every other key.  The source could be read, and it and
the other families are as they were. -/
structure CopiesExactly : Prop where
  source : after.source.data = before.source.data
  readable : ∀ cf, Migrated dstConfig before cf →
    ∀ key, ∃ value, sourceValue srcConfig before cf key = .ok value
  present : ∀ cf, Migrated dstConfig before cf → ∀ key value,
    sourceValue srcConfig before cf key = .ok (some value) →
      after.destination.data.record ⟨cf, key⟩ = ⟨some value, []⟩
  absent : ∀ cf, Migrated dstConfig before cf → ∀ key,
    sourceValue srcConfig before cf key = .ok none →
      after.destination.data.record ⟨cf, key⟩ =
        before.destination.data.record ⟨cf, key⟩
  others : ∀ cf, ¬ Migrated dstConfig before cf →
    after.destination.data cf = before.destination.data cf

/-- Every destination family holds what it held before, overlaid by an initial
segment of the source family of that name, in key order. -/
structure CopiesInitially : Prop where
  source : after.source.data = before.source.data
  initial : ∀ cf, ∃ segment, segment <+: sourceEntries srcConfig before cf ∧
    Overlaid before.destination.data after.destination.data cf segment
  others : ∀ cf, ¬ Migrated dstConfig before cf →
    after.destination.data cf = before.destination.data cf

/-- Every key of the migrated families was read from the destination, with the
source's value. -/
def FoundEqual (faults : MigrationFaults) : Prop :=
  ∀ cf, Migrated dstConfig before cf → ∀ key value,
    sourceValue srcConfig before cf key = .ok (some value) →
      CFOperations.getRaw
        (RocksDbCFStore.mk (dstConfig.handle after.destination)).access cf key
        after.destination.data (faults.get cf key) = .ok (some value)

/-- Nothing can be told from the databases before. -/
structure Unchanged : Prop where
  source : after.source = before.source
  columnFamilies :
    after.destination.columnFamilies = before.destination.columnFamilies
  records : ∀ at_, after.destination.data.record at_ =
    before.destination.data.record at_

/-- Both databases open, and the source can be read. -/
structure CanMigrate : Prop where
  source : before.source.Accepts srcConfig.createIfMissing
    srcConfig.columnFamiliesToOpen
  destination : before.destination.Accepts dstConfig.createIfMissing
    dstConfig.columnFamiliesToOpen
  readable : ∀ cf, Migrated dstConfig before cf →
    (srcConfig.handle before.source).Readable before.source.data cf

end Migration

end RockSolid
