/-
Module: RockSolid.Proofs.StopIsFinal
Layer: Proofs
Purpose: The iterators of the raw and the deserializing mode do not remember a
  Stop.  The next call after one pulls the raw stream again, so Stop is final
  exactly when it was answered on the last entry of the stream.
Trusted boundary: none
Main exports: RawItemsIter.silentAfter_iff, ControlledIter.silentAfter_iff,
  stop_final_iff
-/
import RockSolid.Proofs.IterationModes
import RockSolid.Semantics.StopIsFinal

namespace RockSolid

open Foundation PullIterator

variable {S T OutK OutV : Type}

/-- A list that is not empty is longer than one that lacks an entry of it. -/
theorem ne_of_shortened {α : Type} {longer shorter : List α}
    (nonempty : longer ≠ []) (fits : shorter.length ≤ longer.length - 1) :
    shorter ≠ longer := by
  rintro rfl
  have positive := List.length_pos_iff.mpr nonempty
  omega

namespace RawItemsIter

/-- A call of `next` takes at least one entry from a stream that has one. -/
theorem nextFrom_shortens (iter : RawItemsIter S) (raw : RawStream) :
    (iter.nextFrom raw).2.rawIter.length ≤ raw.length - 1 := by
  induction raw generalizing iter with
  | nil => exact Nat.le_refl 0
  | cons entry raw inductionHypothesis =>
      rcases entry with e | ⟨key, val⟩
      · exact Nat.le_refl raw.length
      · rcases iter with ⟨rawIter, _ | control, captured, count⟩
        · exact Nat.le_refl raw.length
        · rcases answered : control captured key val count with ⟨_ | _ | _, after⟩
          · simp [nextFrom, answered]
          · have later := inductionHypothesis ⟨raw, some control, after, count⟩
            simp only [nextFrom, answered, List.length_cons]
            omega
          · simp [nextFrom, answered]

theorem nextFrom_of_stop {control : ControlFn S} {index : Nat}
    {raw rest : RawStream} {captured : S}
    (stops : RockSolid.restAfterStop control index raw captured = some rest)
    (rawIter : RawStream) :
    let ended := nextFrom ⟨rawIter, some control, captured, index⟩ raw
    ended.1 = none ∧ ended.2.rawIter = rest := by
  induction raw generalizing captured rawIter with
  | nil => cases stops
  | cons entry raw inductionHypothesis =>
      rcases entry with e | ⟨key, val⟩
      · cases stops
      · rcases answered : control captured key val index with ⟨_ | _ | _, after⟩
        · simp only [RockSolid.restAfterStop, answered] at stops
          cases stops
          simp [nextFrom, answered]
        · simp only [RockSolid.restAfterStop, answered] at stops
          have later := inductionHypothesis stops raw
          simpa [nextFrom, answered] using later
        · simp [RockSolid.restAfterStop, answered] at stops

/-- Where the control answers Stop, `next` returns `None` and leaves what
follows. -/
theorem next_of_stop {iter : RawItemsIter S} {rest : RawStream}
    (stops : iter.restAfterStop = some rest) :
    (next iter).1 = none ∧ (next iter).2.rawIter = rest := by
  rcases iter with ⟨rawIter, _ | control, captured, count⟩
  · cases stops
  · exact nextFrom_of_stop stops rawIter

/-- Further calls of `next` do nothing exactly when the raw stream is empty. -/
theorem silentAfter_iff (iter : RawItemsIter (S × List ControlCall)) :
    SilentAfter observed iter ↔ iter.rawIter = [] := by
  apply PullIterator.silentAfter_iff
  · rintro ⟨rawIter, control, captured, count⟩ rfl
    rfl
  · intro iter nonempty same
    exact ne_of_shortened nonempty (nextFrom_shortens iter iter.rawIter)
      (congrArg Prod.fst same)

end RawItemsIter

namespace ControlledIter

/-- A call of `next` takes at least one entry from a stream that has one. -/
theorem nextFrom_shortens (iter : ControlledIter S T OutK OutV)
    (raw : RawStream) :
    (iter.nextFrom raw).2.raw.length ≤ raw.length - 1 := by
  induction raw generalizing iter with
  | nil => exact Nat.le_refl 0
  | cons entry raw inductionHypothesis =>
      rcases entry with e | ⟨key, val⟩
      · exact Nat.le_refl raw.length
      · rcases iter with ⟨current, _ | control, captured, deserializer, state, count⟩
        · exact Nat.le_refl raw.length
        · rcases answered : control captured key val count with ⟨_ | _ | _, after⟩
          · simp [nextFrom, answered]
          · have later := inductionHypothesis
              ⟨raw, some control, after, deserializer, state, count⟩
            simp only [nextFrom, answered, List.length_cons]
            omega
          · simp [nextFrom, answered, deliver]

theorem nextFrom_of_stop {control : ControlFn S} {index : Nat}
    {raw rest : RawStream} {captured : S}
    (stops : RockSolid.restAfterStop control index raw captured = some rest)
    (current : RawStream) (deserializer : DeserializerFn T OutK OutV)
    (state : T) :
    let ended := nextFrom
      ⟨current, some control, captured, deserializer, state, index⟩ raw
    ended.1 = none ∧ ended.2.raw = rest := by
  induction raw generalizing captured current with
  | nil => cases stops
  | cons entry raw inductionHypothesis =>
      rcases entry with e | ⟨key, val⟩
      · cases stops
      · rcases answered : control captured key val index with ⟨_ | _ | _, after⟩
        · simp only [RockSolid.restAfterStop, answered] at stops
          cases stops
          simp [nextFrom, answered]
        · simp only [RockSolid.restAfterStop, answered] at stops
          have later := inductionHypothesis stops raw
          simpa [nextFrom, answered] using later
        · simp [RockSolid.restAfterStop, answered] at stops

/-- Where the control answers Stop, `next` returns `None` and leaves what
follows. -/
theorem next_of_stop {iter : ControlledIter S T OutK OutV} {rest : RawStream}
    (stops : iter.restAfterStop = some rest) :
    (next iter).1 = none ∧ (next iter).2.raw = rest := by
  rcases iter with ⟨raw, _ | control, captured, deserializer, state, count⟩
  · cases stops
  · exact nextFrom_of_stop stops raw deserializer state

/-- Further calls of `next` do nothing exactly when the raw stream is empty. -/
theorem silentAfter_iff (iter : ControlledIter (S × List ControlCall)
    (T × List (Bytes × Bytes)) OutK OutV) :
    SilentAfter observed iter ↔ iter.raw = [] := by
  apply PullIterator.silentAfter_iff
  · rintro ⟨raw, control, captured, deserializer, state, count⟩ rfl
    rfl
  · intro iter nonempty same
    exact ne_of_shortened nonempty (nextFrom_shortens iter iter.raw)
      (congrArg Prod.fst same)

end ControlledIter

/-- In both modes, at every point of every scan: a call of `next` on which the
control or the prefix check answers Stop returns `None`, and Stop is final from
there exactly when it was answered on the last entry of the raw stream. -/
theorem stop_final_iff {SerKey : Type} [AsBytes SerKey] (cfName : String)
    (prefixKey start : Option SerKey) (reverse : Bool)
    (userControl : Option (ControlFn S)) (captured : S)
    (deserializer : DeserializerFn T OutK OutV) (state : T)
    (stream : RawStream) :
    (∃ iter,
      execute (IterConfig.newRaw cfName prefixKey start reverse
          (userControl.map recording) (captured, []))
        (fun _ => .ok stream) (fun _ => .ok stream) =
          (.ok (.rawItems iter), (captured, [])) ∧
      iter.rawIter = stream ∧
      ∀ n rest, (pulled n iter).restAfterStop = some rest →
        (pulled n iter).next.1 = none ∧
        (SilentAfter RawItemsIter.observed (pulled (n + 1) iter) ↔
          rest = [])) ∧
    ∃ iter,
      execute (IterConfig.newDeserializing cfName prefixKey start reverse
          (userControl.map recording) (captured, [])
          (recordingDeserializer deserializer) (state, []))
        (fun _ => .ok stream) (fun _ => .ok stream) =
          (.ok (.deserializedItems iter), (captured, [])) ∧
      iter.raw = stream ∧
      ∀ n rest, (pulled n iter).restAfterStop = some rest →
        (pulled n iter).next.1 = none ∧
        (SilentAfter ControlledIter.observed (pulled (n + 1) iter) ↔
          rest = []) := by
  constructor
  · refine ⟨_, execute_stream _ stream, rfl, ?_⟩
    intro n rest stops
    obtain ⟨returned, left⟩ := RawItemsIter.next_of_stop stops
    refine ⟨returned, ?_⟩
    rw [RawItemsIter.silentAfter_iff, pulled_succ]
    exact Eq.congr_left left
  · refine ⟨_, execute_stream _ stream, rfl, ?_⟩
    intro n rest stops
    obtain ⟨returned, left⟩ := ControlledIter.next_of_stop stops
    refine ⟨returned, ?_⟩
    rw [ControlledIter.silentAfter_iff, pulled_succ]
    exact Eq.congr_left left

/-- A control that stops on the key `a` and keeps every other entry. -/
def stopOnA : ControlFn Unit := fun _ key _ _ =>
  (if key = [97] then .stop else .keep, ())

/-- Two entries: the first call of `next` stops on the first of them, the second
call delivers the other one and calls the control, and the deserializer, again. -/
theorem stopped_scan_resumes :
    let stream : RawStream := [.ok ([97], [49]), .ok ([98], [50])]
    let control := effectiveControl none (some (recording stopOnA))
    let decode : DeserializerFn Unit Bytes Bytes := fun _ key val =>
      (.ok (key, val), ())
    let raw : RawItemsIter (Unit × List ControlCall) :=
      { rawIter := stream, control, captured := ((), []), itemsKeptCount := 0 }
    let typed : ControlledIter (Unit × List ControlCall)
        (Unit × List (Bytes × Bytes)) Bytes Bytes :=
      { raw := stream, control, captured := ((), [])
        deserializer := recordingDeserializer decode
        deserializerCaptured := ((), []), itemsKeptCount := 0 }
    (raw.restAfterStop = some [.ok ([98], [50])] ∧
      raw.next.1 = none ∧
      raw.next.2.next.1 = some (.ok ([98], [50])) ∧
      ¬ SilentAfter RawItemsIter.observed (pulled 1 raw)) ∧
    typed.restAfterStop = some [.ok ([98], [50])] ∧
      typed.next.1 = none ∧
      typed.next.2.next.1 = some (.ok ([98], [50])) ∧
      ¬ SilentAfter ControlledIter.observed (pulled 1 typed) := by
  intro stream control decode raw typed
  refine ⟨⟨rfl, rfl, rfl, ?_⟩, rfl, rfl, rfl, ?_⟩
  · rw [RawItemsIter.silentAfter_iff]
    exact List.cons_ne_nil _ _
  · rw [ControlledIter.silentAfter_iff]
    exact List.cons_ne_nil _ _

end RockSolid
