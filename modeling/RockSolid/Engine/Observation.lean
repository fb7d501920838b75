/-
Module: RockSolid.Engine.Observation
Layer: Engine
Purpose: What an answer of the engine tells about single keys.  A point read
  shows the value of its key or its absence; an iterator shows the entries it
  delivers, and by ending without an error it shows that the other keys of its
  range are absent.
Trusted boundary: none
Main exports: IteratorMode.Covers, Observes, Answered.read_of_observes
-/
import RockSolid.Engine.NativeTxn

namespace RockSolid

open Foundation

/-- The range an iterator walks under the byte-wise comparator. -/
def IteratorMode.Covers (key : Bytes) : IteratorMode → Prop
  | .start | .atEnd => True
  | .fromKey bound .forward => compare key bound ≠ .lt
  | .fromKey bound .reverse => compare key bound ≠ .gt

/-- The event shows the value of the key, or its absence. -/
inductive Observes : NativeEvent → CfKey → Option Bytes → Prop where
  | get (at_ : CfKey) (answer : Option Bytes) :
      Observes (.get at_ (.ok answer)) at_ answer
  | delivered {cf : String} {mode : IteratorMode} {stream : RawStream}
      {key value : Bytes} (member : .ok (key, value) ∈ stream) :
      Observes (.iterator cf mode stream) ⟨cf, key⟩ (some value)
  | passedOver {cf : String} {mode : IteratorMode} {stream : RawStream}
      {key : Bytes} (complete : ∀ e, .error e ∉ stream)
      (covered : mode.Covers key)
      (missing : ∀ value, .ok (key, value) ∉ stream) :
      Observes (.iterator cf mode stream) ⟨cf, key⟩ none

section Walk

variable {db : DbHandle} {cf : String} {records : List (Bytes × Record)}

/-- A stream delivers visible entries of the records it walks. -/
theorem DbHandle.visible_of_delivered {shown : Bytes × Bytes}
    (member : .ok shown ∈ db.streamOf cf records) :
    ∃ entry ∈ records, db.visible cf entry = some shown := by
  induction records with
  | nil => cases member
  | cons entry records inductionHypothesis =>
      rcases entry with ⟨key, record⟩
      have later : .ok shown ∈ db.streamOf cf records →
          ∃ entry ∈ (key, record) :: records,
            db.visible cf entry = some shown := by
        intro inRest
        obtain ⟨entry, inRecords, visible⟩ := inductionHypothesis inRest
        exact ⟨entry, List.mem_cons_of_mem _ inRecords, visible⟩
      rw [streamOf] at member
      split at member
      · next value read =>
          rcases List.mem_cons.mp member with same | inRest
          · cases same
            exact ⟨(key, record), List.mem_cons_self, by simp [visible, read]⟩
          · exact later inRest
      · exact later member
      · cases List.mem_singleton.mp member

/-- A stream without an error has read every record it walked. -/
theorem DbHandle.readable_of_complete
    (complete : ∀ e, .error e ∉ db.streamOf cf records) :
    ∀ entry ∈ records, (db.readRecord ⟨cf, entry.1⟩ entry.2).isOk = true := by
  induction records with
  | nil => simp
  | cons entry records inductionHypothesis =>
      rcases entry with ⟨key, record⟩
      rw [streamOf] at complete
      split at complete
      · next value read =>
          have rest := inductionHypothesis
            (fun e inRest => complete e (List.mem_cons_of_mem _ inRest))
          exact List.forall_mem_cons.mpr ⟨by rw [read]; rfl, rest⟩
      · next read =>
          exact List.forall_mem_cons.mpr
            ⟨by rw [read]; rfl, inductionHypothesis complete⟩
      · next e read => exact absurd List.mem_cons_self (complete e)

/-- The records of the range are among those walked. -/
theorem mem_seek {data : ByteDb} {mode : IteratorMode} {entry : Bytes × Record}
    (member : entry ∈ (data cf).toList) (covered : mode.Covers entry.1) :
    entry ∈ seek compare mode (data cf).toList := by
  have ascending : (data cf).toList.Pairwise fun earlier later =>
      compare earlier.1 later.1 = .lt := Std.TreeMap.ordered_keys_toList
  rcases mode with - | - | ⟨bound, - | -⟩
  · exact member
  · exact List.mem_reverse.mpr member
  · have walked : seek compare (.fromKey bound .forward) (data cf).toList =
        (data cf).toList.filter fun entry => !(compare entry.1 bound == .lt) :=
      dropWhile_eq_filter (below_leads ascending bound)
    rw [walked, List.mem_filter]
    exact ⟨member, by simpa [IteratorMode.Covers] using covered⟩
  · have above : LeadsWith (fun entry => compare entry.1 bound == .gt)
        (data cf).toList.reverse := by
      apply (List.pairwise_reverse.mpr ascending).imp
      intro later earlier before beyond
      have greater : compare later.1 earlier.1 = .gt :=
        Std.OrientedCmp.gt_of_lt before
      exact beq_iff_eq.mpr
        (Std.TransCmp.gt_trans greater (beq_iff_eq.mp beyond))
    have walked : seek compare (.fromKey bound .reverse) (data cf).toList =
        (data cf).toList.reverse.filter fun entry =>
          !(compare entry.1 bound == .gt) := dropWhile_eq_filter above
    rw [walked, List.mem_filter]
    exact ⟨List.mem_reverse.mpr member,
      by simpa [IteratorMode.Covers] using covered⟩

theorem mem_of_mem_seek {cmp : Comparator} {mode : IteratorMode}
    {entry : Bytes × Record} (walked : entry ∈ seek cmp mode records) :
    entry ∈ records := by
  rcases mode with - | - | ⟨bound, - | -⟩
  · exact walked
  · exact List.mem_reverse.mp walked
  · exact (List.dropWhile_sublist _).subset walked
  · exact List.mem_reverse.mp ((List.dropWhile_sublist _).subset walked)

variable {seen : ByteDb} {mode : IteratorMode} {key : Bytes}

/-- A delivered entry is what a read of its key returns. -/
theorem DbHandle.read_of_delivered {value : Bytes}
    (member : .ok (key, value) ∈ db.iterator seen cf mode) :
    db.read seen ⟨cf, key⟩ = .ok (some value) := by
  obtain ⟨entry, walked, visible⟩ := visible_of_delivered member
  exact (db.mem_entries seen cf key value).mp
    (List.mem_filterMap.mpr ⟨entry, mem_of_mem_seek walked, visible⟩)

/-- A key of a family that can be read is read without an error. -/
theorem DbHandle.Readable.read {data : ByteDb} (readable : db.Readable data cf)
    (key : Bytes) : ∃ value, db.read data ⟨cf, key⟩ = .ok value := by
  rw [DbHandle.read, Db.record, Std.TreeMap.getD_eq_getD_getElem?]
  cases found : (data cf)[key]? with
  | none => exact ⟨none, rfl⟩
  | some record =>
      have stored : (key, record) ∈ (data cf).toList :=
        Std.TreeMap.mem_toList_iff_getElem?_eq_some.mpr found
      have isOk := readable _ stored
      rw [Option.getD_some]
      cases read : db.readRecord ⟨cf, key⟩ record with
      | error e =>
          rw [read] at isOk
          cases isOk
      | ok value => exact ⟨value, rfl⟩

/-- A key of the range that a complete walk does not deliver reads as absent. -/
theorem DbHandle.read_of_passedOver
    (complete : ∀ e, .error e ∉ db.iterator seen cf mode)
    (covered : mode.Covers key)
    (missing : ∀ value, .ok (key, value) ∉ db.iterator seen cf mode) :
    db.read seen ⟨cf, key⟩ = .ok none := by
  have readable := readable_of_complete complete
  rcases read : db.read seen ⟨cf, key⟩ with e | _ | value
  · cases found : (seen cf)[key]? with
    | none =>
        rw [DbHandle.read, Db.record, Std.TreeMap.getD_eq_getD_getElem?, found]
          at read
        cases read
    | some record =>
        have stored : (key, record) ∈ (seen cf).toList :=
          Std.TreeMap.mem_toList_iff_getElem?_eq_some.mpr found
        have isOk := readable _ (mem_seek stored covered)
        rw [DbHandle.read, Db.record, Std.TreeMap.getD_eq_getD_getElem?, found]
          at read
        have failed : db.readRecord ⟨cf, key⟩ record = .error e := read
        rw [failed] at isOk
        cases isOk
  · rfl
  · obtain ⟨entry, stored, visible⟩ :=
      List.mem_filterMap.mp ((db.mem_entries seen cf key value).mpr read)
    have sameKey : key = entry.1 := visible_key visible
    have walked : entry ∈ seek compare mode (seen cf).toList :=
      mem_seek stored (sameKey ▸ covered)
    have shown : db.iterator seen cf mode =
        ((seek compare mode (seen cf).toList).filterMap (db.visible cf)).map
          .ok := db.streamOf_eq_map_visible cf readable
    refine absurd ?_ (missing value)
    rw [shown]
    exact List.mem_map_of_mem (List.mem_filterMap.mpr ⟨entry, walked, visible⟩)

end Walk

namespace NativeTxn

variable {db : DbHandle} {seen : ByteDb} {event : NativeEvent} {at_ : CfKey}
  {answer : Option Bytes}

private theorem delivered_of_cut {fault : Option Fault} {stream : RawStream}
    {shown : Bytes × Bytes} (member : .ok shown ∈ cutBy fault stream) :
    .ok shown ∈ stream := by
  cases fault with
  | none => exact member
  | some fault =>
      rcases List.mem_append.mp member with taken | last
      · exact List.mem_of_mem_take taken
      · cases List.mem_singleton.mp last

private theorem uncut_of_complete {fault : Option Fault} {stream : RawStream}
    (complete : ∀ e, .error e ∉ cutBy fault stream) : fault = none := by
  cases fault with
  | none => rfl
  | some fault =>
      exact absurd (List.mem_append_right _ (List.mem_singleton_self _))
        (complete fault.error)

/-- What an answered event shows of a key is what a read of the key over the
same contents returns. -/
theorem Answered.read_of_observes (answered : Answered db seen event)
    (observes : Observes event at_ answer) : db.read seen at_ = .ok answer := by
  cases answered with
  | get at_ fault =>
      generalize read : orFault fault (db.read seen at_) = result at observes
      cases observes
      cases fault with
      | none => exact read
      | some fault => cases read
  | iterator cf mode fault =>
      generalize cut : cutBy fault (db.iterator seen cf mode) = stream
        at observes
      cases observes with
      | delivered member =>
          exact DbHandle.read_of_delivered (delivered_of_cut (cut ▸ member))
      | passedOver complete covered missing =>
          subst cut
          have uncut := uncut_of_complete complete
          subst uncut
          exact DbHandle.read_of_passedOver complete covered missing

end NativeTxn

end RockSolid
