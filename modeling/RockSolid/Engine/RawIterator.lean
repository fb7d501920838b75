/-
Module: RockSolid.Engine.RawIterator
Layer: Engine
Purpose: RocksDB iterators over one column family.  An iterator walks the
  records in comparator order from its seek position, shows the readable ones,
  and ends with the error of the first record it cannot read.  It sees the
  contents as they were when it was created.
Trusted boundary: documented behaviour of RocksDB, which is not part of the
  repository
Main exports: RawStream, Direction, IteratorMode, seek, DbHandle.iterator,
  prefixIteratorMode, DbHandle.entries, IteratorMode.shows,
  DbHandle.iterator_eq, DbHandle.prefixIterator_eq, DbHandle.mem_entries
-/
import RockSolid.Engine.Records
import RockSolid.Foundation.OrderedScan

namespace RockSolid

open Foundation

/-- What a raw iterator yields until it is exhausted. -/
abbrev RawStream := List (Except RocksError (Bytes × Bytes))

/-- `rocksdb::Direction`. -/
inductive Direction where
  | forward
  | reverse
deriving DecidableEq, Repr

/-- `rocksdb::IteratorMode`; `atEnd` is the source's `End`, `fromKey` its
`From`. -/
inductive IteratorMode where
  | start
  | atEnd
  | fromKey (key : Bytes) (direction : Direction)
deriving DecidableEq, Repr

/-- The records an iterator walks, in the order it walks them. -/
def seek (cmp : Comparator) (mode : IteratorMode)
    (records : List (Bytes × Record)) : List (Bytes × Record) :=
  match mode with
  | .start => records
  | .atEnd => records.reverse
  | .fromKey key .forward =>
      records.dropWhile fun entry => cmp entry.1 key == .lt
  | .fromKey key .reverse =>
      records.reverse.dropWhile fun entry => cmp entry.1 key == .gt

/-- The keys an iterator reaches from its seek position. -/
def IteratorMode.reaches (cmp : Comparator) (mode : IteratorMode)
    (key : Bytes) : Bool :=
  match mode with
  | .start | .atEnd => true
  | .fromKey position .forward => !(cmp key position == .lt)
  | .fromKey position .reverse => !(cmp key position == .gt)

/-- The order in which an iterator meets what lies in ascending order. -/
def IteratorMode.ordered {A : Type} (mode : IteratorMode) (l : List A) :
    List A :=
  match mode with
  | .start | .fromKey _ .forward => l
  | .atEnd | .fromKey _ .reverse => l.reverse

@[simp] theorem IteratorMode.mem_ordered {A : Type} {mode : IteratorMode}
    {l : List A} {a : A} : a ∈ mode.ordered l ↔ a ∈ l := by
  rcases mode with _ | _ | ⟨_, _ | _⟩ <;> simp [IteratorMode.ordered]

theorem IteratorMode.filterMap_ordered {A B : Type} (mode : IteratorMode)
    (f : A → Option B) (l : List A) :
    (mode.ordered l).filterMap f = mode.ordered (l.filterMap f) := by
  rcases mode with _ | _ | ⟨_, _ | _⟩ <;> simp [IteratorMode.ordered]

/-- What an iterator shows of ascending entries. -/
def IteratorMode.shows (cmp : Comparator) (mode : IteratorMode)
    (entries : List (Bytes × Bytes)) : List (Bytes × Bytes) :=
  mode.ordered (entries.filter fun entry => mode.reaches cmp entry.1)

/-- The stream shown for a walk: absent records are passed over, and the first
unreadable record ends it. -/
def DbHandle.streamOf (db : DbHandle) (cf : String) :
    List (Bytes × Record) → RawStream
  | [] => []
  | (key, record) :: rest =>
      match db.readRecord ⟨cf, key⟩ record with
      | .ok (some value) => .ok (key, value) :: db.streamOf cf rest
      | .ok none => db.streamOf cf rest
      | .error e => [.error e]

variable {cmps : String → Comparator}

/-- `iterator_opt` and `iterator_cf_opt` without a snapshot or bounds. -/
def DbHandle.iterator (db : DbHandle) (data : Db cmps) (cf : String)
    (mode : IteratorMode) : RawStream :=
  db.streamOf cf (seek (cmps cf) mode (data cf).toList)

/-- The mode of `prefix_iterator` and `prefix_iterator_cf` on a family without
a prefix extractor: a forward iterator from the prefix. -/
def prefixIteratorMode (prefixKey : Bytes) : IteratorMode :=
  .fromKey prefixKey .forward

/-- The entry a record shows, if it shows one. -/
def DbHandle.visible (db : DbHandle) (cf : String) (entry : Bytes × Record) :
    Option (Bytes × Bytes) :=
  match db.readRecord ⟨cf, entry.1⟩ entry.2 with
  | .ok (some value) => some (entry.1, value)
  | _ => none

/-- The visible contents of a column family, in comparator order. -/
def DbHandle.entries (db : DbHandle) (data : Db cmps) (cf : String) :
    List (Bytes × Bytes) :=
  (data cf).toList.filterMap (db.visible cf)

/-- Every record of the family can be read. -/
def DbHandle.Readable (db : DbHandle) (data : Db cmps) (cf : String) : Prop :=
  ∀ entry ∈ (data cf).toList,
    (db.readRecord ⟨cf, entry.1⟩ entry.2).isOk = true

instance (db : DbHandle) (data : Db cmps) (cf : String) :
    Decidable (db.Readable data cf) :=
  inferInstanceAs (Decidable (∀ _ ∈ _, _))

theorem DbHandle.streamOf_eq_map_visible (db : DbHandle) (cf : String)
    {records : List (Bytes × Record)}
    (readable : ∀ entry ∈ records,
      (db.readRecord ⟨cf, entry.1⟩ entry.2).isOk = true) :
    db.streamOf cf records =
      (records.filterMap (db.visible cf)).map .ok := by
  induction records with
  | nil => rfl
  | cons entry records inductionHypothesis =>
      rcases entry with ⟨key, record⟩
      have first := readable (key, record) List.mem_cons_self
      have rest := inductionHypothesis
        (fun other member => readable other (List.mem_cons_of_mem _ member))
      rcases read : db.readRecord ⟨cf, key⟩ record with e | _ | value
      · rw [read] at first
        cases first
      · simp [streamOf, visible, read, rest]
      · simp [streamOf, visible, read, rest]

/-- An entry shows the key of its record. -/
theorem DbHandle.visible_key {db : DbHandle} {cf : String}
    {entry : Bytes × Record} {shown : Bytes × Bytes}
    (visible : db.visible cf entry = some shown) : shown.1 = entry.1 := by
  rw [DbHandle.visible] at visible
  split at visible
  · cases visible
    rfl
  · cases visible

/-- Showing entries and selecting them by key commute. -/
theorem DbHandle.filterMap_visible_filter (db : DbHandle) (cf : String)
    (select : Bytes → Bool) (records : List (Bytes × Record)) :
    (records.filter fun entry => select entry.1).filterMap (db.visible cf) =
      (records.filterMap (db.visible cf)).filter fun entry => select entry.1 := by
  induction records with
  | nil => rfl
  | cons entry records inductionHypothesis =>
      cases chosen : select entry.1 with
      | false =>
          rw [List.filter_cons_of_neg (by simp [chosen]), inductionHypothesis]
          cases shown : db.visible cf entry with
          | none => rw [List.filterMap_cons_none shown]
          | some value =>
              rw [List.filterMap_cons_some shown, List.filter_cons_of_neg
                (by simp [visible_key shown, chosen])]
      | true =>
          rw [List.filter_cons_of_pos (by simp [chosen])]
          cases shown : db.visible cf entry with
          | none =>
              rw [List.filterMap_cons_none shown, List.filterMap_cons_none shown,
                inductionHypothesis]
          | some value =>
              rw [List.filterMap_cons_some shown, List.filterMap_cons_some shown,
                List.filter_cons_of_pos (by simp [visible_key shown, chosen]),
                inductionHypothesis]

/-- Entries come in strictly ascending comparator order. -/
theorem DbHandle.entries_sorted (db : DbHandle) (data : Db cmps) (cf : String)
    [Std.TransCmp (cmps cf)] :
    (db.entries data cf).Pairwise fun earlier later =>
      cmps cf earlier.1 later.1 = .lt := by
  refine List.Pairwise.filterMap _ ?_ Std.TreeMap.ordered_keys_toList
  intro entry other before shown visible otherShown otherVisible
  rw [visible_key visible, visible_key otherVisible]
  exact before

/-- Along ascending keys, those below a bound come first. -/
theorem below_leads {A : Type} {cmp : Comparator} [Std.TransCmp cmp]
    {key : A → Bytes} {l : List A}
    (ascending : l.Pairwise fun earlier later =>
      cmp (key earlier) (key later) = .lt) (bound : Bytes) :
    LeadsWith (fun entry => cmp (key entry) bound == .lt) l := by
  apply ascending.imp
  intro earlier later before below
  exact beq_iff_eq.mpr (Std.TransCmp.lt_trans before (beq_iff_eq.mp below))

/-- Along ascending keys walked backwards, those above a bound come first. -/
theorem above_leads_reverse {A : Type} {cmp : Comparator} [Std.TransCmp cmp]
    {key : A → Bytes} {l : List A}
    (ascending : l.Pairwise fun earlier later =>
      cmp (key earlier) (key later) = .lt) (bound : Bytes) :
    LeadsWith (fun entry => cmp (key entry) bound == .gt) l.reverse := by
  rw [LeadsWith, List.pairwise_reverse]
  apply ascending.imp
  intro earlier later before above
  have after : cmp (key later) (key earlier) = .gt :=
    Std.OrientedCmp.gt_of_lt before
  exact beq_iff_eq.mpr (Std.TransCmp.gt_trans after (beq_iff_eq.mp above))

/-- A walk from a seek position is a selection of the records by key, in one
direction or the other. -/
theorem seek_eq {records : List (Bytes × Record)} {cmp : Comparator}
    [Std.TransCmp cmp] (ascending : records.Pairwise fun earlier later =>
      cmp earlier.1 later.1 = .lt) (mode : IteratorMode) :
    seek cmp mode records =
      mode.ordered (records.filter fun entry => mode.reaches cmp entry.1) := by
  cases mode with
  | start => simp [seek, IteratorMode.ordered, IteratorMode.reaches]
  | atEnd => simp [seek, IteratorMode.ordered, IteratorMode.reaches]
  | fromKey key direction =>
      cases direction with
      | forward => exact dropWhile_eq_filter (below_leads ascending key)
      | reverse =>
          rw [seek, dropWhile_eq_filter (above_leads_reverse ascending key),
            List.filter_reverse]
          rfl

/-- An iterator shows the entries its mode reaches, in the mode's order. -/
theorem DbHandle.iterator_eq (db : DbHandle) (data : Db cmps) (cf : String)
    [Std.TransCmp (cmps cf)] (readable : db.Readable data cf) (mode : IteratorMode) :
    db.iterator data cf mode =
      (mode.shows (cmps cf) (db.entries data cf)).map .ok := by
  have walked : seek (cmps cf) mode (data cf).toList =
      mode.ordered ((data cf).toList.filter fun entry =>
        mode.reaches (cmps cf) entry.1) :=
    seek_eq Std.TreeMap.ordered_keys_toList mode
  have walkReadable : ∀ entry ∈ mode.ordered ((data cf).toList.filter
      fun entry => mode.reaches (cmps cf) entry.1),
      (db.readRecord ⟨cf, entry.1⟩ entry.2).isOk = true := by
    intro entry member
    rw [IteratorMode.mem_ordered] at member
    exact readable entry (List.mem_of_mem_filter member)
  rw [iterator, walked, streamOf_eq_map_visible db cf walkReadable,
    IteratorMode.filterMap_ordered,
    filterMap_visible_filter db cf (mode.reaches (cmps cf))]
  rfl

/-- A prefix iterator shows the entries from the prefix on. -/
theorem DbHandle.prefixIterator_eq (db : DbHandle) (data : Db cmps)
    (cf : String) [Std.TransCmp (cmps cf)] (readable : db.Readable data cf)
    (prefixKey : Bytes) :
    db.iterator data cf (prefixIteratorMode prefixKey) =
      ((db.entries data cf).dropWhile fun entry =>
        cmps cf entry.1 prefixKey == .lt).map .ok := by
  rw [iterator_eq db data cf readable,
    dropWhile_eq_filter (below_leads (db.entries_sorted data cf) prefixKey)]
  rfl

/-- Under the byte-wise comparator the entries are the readable keys with their
values. -/
theorem DbHandle.mem_entries (db : DbHandle) (data : ByteDb) (cf : String)
    (key value : Bytes) :
    (key, value) ∈ db.entries data cf ↔
      db.read data ⟨cf, key⟩ = .ok (some value) := by
  rw [entries, List.mem_filterMap]
  constructor
  · rintro ⟨⟨stored, record⟩, member, visible⟩
    have same : key = stored := visible_key visible
    subst same
    have found := Std.TreeMap.mem_toList_iff_getElem?_eq_some.mp member
    have recorded : data.record ⟨cf, key⟩ = record := by
      rw [Db.record, Std.TreeMap.getD_eq_getD_getElem?, found]
      rfl
    rw [DbHandle.visible] at visible
    split at visible
    · next read =>
        cases visible
        rw [DbHandle.read, recorded]
        exact read
    · cases visible
  · intro read
    cases found : (data cf)[key]? with
    | none =>
        have absent : data.record ⟨cf, key⟩ = Record.absent := by
          rw [Db.record, Std.TreeMap.getD_eq_getD_getElem?, found]
          rfl
        rw [DbHandle.read, absent] at read
        cases read
    | some record =>
        have recorded : data.record ⟨cf, key⟩ = record := by
          rw [Db.record, Std.TreeMap.getD_eq_getD_getElem?, found]
          rfl
        rw [DbHandle.read, recorded] at read
        refine ⟨(key, record),
          Std.TreeMap.mem_toList_iff_getElem?_eq_some.mpr found, ?_⟩
        simp [visible, read]

end RockSolid
