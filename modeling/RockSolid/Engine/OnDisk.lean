/-
Module: RockSolid.Engine.OnDisk
Layer: Engine
Purpose: Database directories: which column families they have and what these
  hold.  Opening names the families to open.  A family that is on disk has to be
  named, the default one apart; a named one that is missing is created, empty, if
  that is asked for.
Trusted boundary: documented behaviour of RocksDB, which is not part of the
  repository
Main exports: OnDisk, OnDisk.withData, OnDisk.openCfDescriptors, OnDisk.listCf,
  OnDisk.Accepts, OnDisk.openCfDescriptors_of_accepts
-/
import Mathlib.Data.List.Dedup
import RockSolid.Engine.NativeTxn

namespace RockSolid

/-- A database directory: its column families, the default one among them, and
their contents.  A family that does not exist holds nothing. -/
structure OnDisk where
  columnFamilies : List String
  nodup : columnFamilies.Nodup
  default_mem : defaultColumnFamilyName ∈ columnFamilies
  data : ByteDb
  absent : ∀ cf, cf ∉ columnFamilies → data cf = ∅

namespace OnDisk

/-- The directory with other contents of its families. -/
def withData (disk : OnDisk) (data : ByteDb) : OnDisk :=
  { disk with
    data := fun cf => if cf ∈ disk.columnFamilies then data cf else ∅
    absent := fun _ outside => if_neg outside }

@[simp] theorem withData_columnFamilies (disk : OnDisk) (data : ByteDb) :
    (disk.withData data).columnFamilies = disk.columnFamilies := rfl

/-- Contents that have nothing for a family that does not exist are kept as they
are. -/
theorem withData_data {disk : OnDisk} {data : ByteDb}
    (absent : ∀ cf, cf ∉ disk.columnFamilies → data cf = ∅) :
    (disk.withData data).data = data := by
  funext cf
  by_cases present : cf ∈ disk.columnFamilies
  · exact if_pos present
  · exact (if_neg present).trans (absent cf present).symm

/-- The families of a list that the directory does not have. -/
def missing (disk : OnDisk) (names : List String) : List String :=
  (names.filter (· ∉ disk.columnFamilies)).dedup

theorem mem_missing {disk : OnDisk} {names : List String} {cf : String} :
    cf ∈ disk.missing names ↔ cf ∈ names ∧ cf ∉ disk.columnFamilies := by
  simp [missing]

/-- The directory with the missing families added, empty. -/
def create (disk : OnDisk) (names : List String) : OnDisk where
  columnFamilies := disk.columnFamilies ++ disk.missing names
  nodup := by
    apply List.Nodup.append disk.nodup (List.nodup_dedup _)
    intro cf present added
    exact (mem_missing.mp added).2 present
  default_mem := List.mem_append_left _ disk.default_mem
  data := disk.data
  absent := fun cf outside => disk.absent cf
    (fun present => outside (List.mem_append_left _ present))

@[simp] theorem create_data (disk : OnDisk) (names : List String) :
    (disk.create names).data = disk.data := rfl

@[simp] theorem mem_create_columnFamilies {disk : OnDisk} {names : List String}
    {cf : String} : cf ∈ (disk.create names).columnFamilies ↔
      cf ∈ disk.columnFamilies ∨ cf ∈ names := by
  rw [create, List.mem_append, mem_missing]
  by_cases present : cf ∈ disk.columnFamilies <;> simp [present]

/-- The families on disk that a list of names leaves out. -/
def unopened (disk : OnDisk) (names : List String) : List String :=
  disk.columnFamilies.filter fun cf =>
    cf ≠ defaultColumnFamilyName ∧ cf ∉ names

/-- `DB::open_cf_descriptors`: the directory as it is once it is open. -/
def openCfDescriptors (createMissing : Bool) (names : List String)
    (fault : Option Fault) (disk : OnDisk) : Except RocksError OnDisk :=
  match fault, disk.unopened names, disk.missing names with
  | some fault, _, _ => .error fault.error
  | none, cf :: others, _ =>
      let notOpened := String.intercalate ", " (cf :: others)
      .error ⟨s!"Invalid argument: Column families not opened: {notOpened}"⟩
  | none, [], [] => .ok disk
  | none, [], cf :: _ =>
      if createMissing then .ok (disk.create names)
      else .error ⟨s!"Invalid argument: Column family not found: {cf}"⟩

/-- `DB::list_cf`. -/
def listCf (disk : OnDisk) (fault : Option Fault) :
    Except RocksError (List String) :=
  orFault fault (.ok disk.columnFamilies)

/-- Every family on disk is named, and every named one is on disk or may be
created. -/
structure Accepts (disk : OnDisk) (createMissing : Bool) (names : List String) :
    Prop where
  named : ∀ cf ∈ disk.columnFamilies,
    cf = defaultColumnFamilyName ∨ cf ∈ names
  present : createMissing = false → ∀ cf ∈ names, cf ∈ disk.columnFamilies

theorem create_of_missing_nil {disk : OnDisk} {names : List String}
    (none : disk.missing names = []) : disk.create names = disk := by
  obtain ⟨columnFamilies, nodup, default_mem, data, absent⟩ := disk
  simp only [create, none, List.append_nil]

/-- A family is created once. -/
theorem create_create (disk : OnDisk) (names : List String) :
    (disk.create names).create names = disk.create names := by
  apply create_of_missing_nil
  apply List.eq_nil_iff_forall_not_mem.mpr
  intro cf outside
  obtain ⟨wanted, notPresent⟩ := mem_missing.mp outside
  exact notPresent (mem_create_columnFamilies.mpr (.inr wanted))

/-- An accepted list opens the directory. -/
theorem openCfDescriptors_of_accepts {disk : OnDisk} {createMissing : Bool}
    {names : List String} (accepts : disk.Accepts createMissing names) :
    disk.openCfDescriptors createMissing names none = .ok (disk.create names) := by
  have allNamed : disk.unopened names = [] := by
    rw [unopened, List.filter_eq_nil_iff]
    intro cf present
    have named := accepts.named cf present
    simpa [or_iff_not_imp_left] using named
  rcases absent : disk.missing names with _ | ⟨cf, others⟩
  · simp only [openCfDescriptors, allNamed, absent, create_of_missing_nil absent]
  · have creating : createMissing = true := by
      by_contra notCreating
      have outside : cf ∈ disk.missing names := absent ▸ List.mem_cons_self
      have refused : createMissing = false := by simpa using notCreating
      obtain ⟨wanted, notPresent⟩ := mem_missing.mp outside
      exact notPresent (accepts.present refused cf wanted)
    simp only [openCfDescriptors, allNamed, absent, creating, if_true]

/-- A directory is opened as it is, with the missing families added. -/
theorem openCfDescriptors_ok {disk opened : OnDisk} {createMissing : Bool}
    {names : List String} {fault : Option Fault}
    (succeeded : disk.openCfDescriptors createMissing names fault = .ok opened) :
    opened = disk.create names := by
  rw [openCfDescriptors.eq_def] at succeeded
  split at succeeded
  · cases succeeded
  · cases succeeded
  · next none =>
      cases succeeded
      exact (create_of_missing_nil none).symm
  · split at succeeded
    · cases succeeded
      rfl
    · cases succeeded

/-- What a directory was opened with, it can be opened with again. -/
theorem Accepts.create {disk : OnDisk} {createMissing : Bool}
    {names : List String} (accepts : disk.Accepts createMissing names) :
    (disk.create names).Accepts createMissing names := by
  constructor
  · intro cf present
    rcases mem_create_columnFamilies.mp present with before | added
    · exact accepts.named cf before
    · exact .inr added
  · intro _ cf wanted
    exact mem_create_columnFamilies.mpr (.inr wanted)

end OnDisk

end RockSolid
