/-
Module: RockSolid.Proofs.IterationModes
Layer: Proofs
Purpose: The three loops of the iteration helper follow the reference scan: same
  control calls, same kept entries, same engine error.  All three are compared
  entry by entry, through what the effective control answers on one entry.
Trusted boundary: none
Main exports: ScanStep, scanStep, drain_rawItems, drain_controlled,
  controlOnlyLoop_eq, iterationModes_follow_referenceScan
-/
import RockSolid.Semantics.ReferenceScan

namespace RockSolid

open Foundation PullIterator

variable {S T OutK OutV : Type}

/-- The decision a loop acts on: without a control everything is kept. -/
def verdict (control : Option (ControlFn S)) (captured : S) (key val : Bytes)
    (index : Nat) : IterationControlDecision × S :=
  match control with
  | some control => control captured key val index
  | none => (.keep, captured)

namespace RawItemsIter

variable (control : Option (ControlFn S)) (captured : S) (count : Nat)

theorem drain_nil :
    drain (RawItemsIter.mk [] control captured count) =
      ([], ⟨[], control, captured, count⟩) :=
  drain_of_none rfl

theorem drain_error (e : RocksError) :
    drain (RawItemsIter.mk [.error e] control captured count) =
      ([.error (.rocksDb e)], ⟨[], control, captured, count⟩) := by
  have advanced : PullIterator.next
      (RawItemsIter.mk [.error e] control captured count) =
        (some (.error (.rocksDb e)), ⟨[], control, captured, count⟩) := rfl
  rw [drain_of_some advanced, drain_nil]

theorem drain_ok (key val : Bytes) (rest : RawStream) :
    drain (RawItemsIter.mk (.ok (key, val) :: rest) control captured count) =
      match verdict control captured key val count with
      | (.stop, after) => ([], ⟨rest, control, after, count⟩)
      | (.skip, after) => drain ⟨rest, control, after, count⟩
      | (.keep, after) =>
          let later := drain (RawItemsIter.mk rest control after (count + 1))
          (.ok (key, val) :: later.1, later.2) := by
  cases control with
  | none => exact drain_of_some rfl
  | some control =>
      rcases answered : control captured key val count with ⟨_ | _ | _, after⟩
      · simp only [verdict, answered]
        apply drain_of_none
        simp [PullIterator.next, next, nextFrom, answered]
      · simp only [verdict, answered]
        apply drain_congr
        simp [PullIterator.next, next, nextFrom, answered]
      · simp only [verdict, answered]
        apply drain_of_some
        simp [PullIterator.next, next, nextFrom, answered]

end RawItemsIter

namespace ControlledIter

variable (control : Option (ControlFn S)) (captured : S)
  (deserializer : DeserializerFn T OutK OutV) (state : T) (count : Nat)

theorem drain_nil :
    drain (ControlledIter.mk [] control captured deserializer state count) =
      ([], ⟨[], control, captured, deserializer, state, count⟩) :=
  drain_of_none rfl

theorem drain_error (e : RocksError) :
    drain (ControlledIter.mk [.error e] control captured deserializer state
      count) =
      ([.error (.rocksDb e)],
        ⟨[], control, captured, deserializer, state, count⟩) := by
  have advanced : PullIterator.next
      (ControlledIter.mk [.error e] control captured deserializer state count) =
        (some (.error (.rocksDb e)),
          ⟨[], control, captured, deserializer, state, count⟩) := rfl
  rw [drain_of_some advanced, drain_nil]

theorem drain_ok (key val : Bytes) (rest : RawStream) :
    drain (ControlledIter.mk (.ok (key, val) :: rest) control captured
      deserializer state count) =
      match verdict control captured key val count with
      | (.stop, after) =>
          ([], ⟨rest, control, after, deserializer, state, count⟩)
      | (.skip, after) =>
          drain ⟨rest, control, after, deserializer, state, count⟩
      | (.keep, after) =>
          let (item, state) := deserializer state key val
          let later := drain (ControlledIter.mk rest control after deserializer
            state (count + 1))
          (item :: later.1, later.2) := by
  cases control with
  | none => exact drain_of_some rfl
  | some control =>
      rcases answered : control captured key val count with ⟨_ | _ | _, after⟩
      · simp only [verdict, answered]
        apply drain_of_none
        simp [PullIterator.next, next, nextFrom, answered]
      · simp only [verdict, answered]
        apply drain_congr
        simp [PullIterator.next, next, nextFrom, answered]
      · simp only [verdict, answered]
        apply drain_of_some
        simp [PullIterator.next, next, nextFrom, answered, deliver]

end ControlledIter

section Recorded

variable (serPrefix : Option Bytes) (userControl : Option (ControlFn S))
  (failure : Option RocksError)

/-- The effective control built over a user control that records its calls. -/
abbrev recordedControl : Option (ControlFn (S × List ControlCall)) :=
  effectiveControl serPrefix (userControl.map recording)

/-- What the effective control answers on one entry, and what the reference
scan does there. -/
inductive ScanStep (key val : Bytes) (rest : List (Bytes × Bytes)) (index : Nat)
    (captured : S) (log : List ControlCall) : Prop where
  | stop (made : List ControlCall) (after : S)
      (answer : verdict (recordedControl serPrefix userControl) (captured, log)
        key val index = (.stop, (after, log ++ made)))
      (scan : referenceScan serPrefix userControl failure ((key, val) :: rest)
        index captured = ⟨made, [], none, after⟩)
  | skip (made : List ControlCall) (after : S)
      (answer : verdict (recordedControl serPrefix userControl) (captured, log)
        key val index = (.skip, (after, log ++ made)))
      (scan : referenceScan serPrefix userControl failure ((key, val) :: rest)
        index captured =
          let later :=
            referenceScan serPrefix userControl failure rest index after
          { later with calls := made ++ later.calls })
  | keep (made : List ControlCall) (after : S)
      (answer : verdict (recordedControl serPrefix userControl) (captured, log)
        key val index = (.keep, (after, log ++ made)))
      (scan : referenceScan serPrefix userControl failure ((key, val) :: rest)
        index captured =
          let later :=
            referenceScan serPrefix userControl failure rest (index + 1) after
          { later with
            calls := made ++ later.calls
            kept := (key, val) :: later.kept })

theorem verdict_outside {prefixBytes key : Bytes}
    (outside : prefixBytes.isPrefixOf key = false) (val : Bytes) (index : Nat)
    (captured : S × List ControlCall) :
    verdict (recordedControl (some prefixBytes) userControl) captured key val
      index = (.stop, captured) := by
  have stops : prefixEnforcementControl prefixBytes key = .stop := by
    rw [prefixEnforcementControl, outside]
    rfl
  cases userControl <;> simp [recordedControl, effectiveControl, verdict, stops]

theorem verdict_inside {serPrefix : Option Bytes} {key : Bytes}
    (inside : serPrefix.all (·.isPrefixOf key) = true) (val : Bytes)
    (index : Nat) (captured : S × List ControlCall) :
    verdict (recordedControl serPrefix userControl) captured key val index =
      verdict (userControl.map recording) captured key val index := by
  cases serPrefix with
  | none => rfl
  | some prefixBytes =>
      have starts : prefixBytes.isPrefixOf key = true := inside
      have keeps : prefixEnforcementControl prefixBytes key = .keep := by
        rw [prefixEnforcementControl, starts]
        rfl
      cases userControl <;>
        simp [recordedControl, effectiveControl, verdict, keeps]

/-- Every entry is one of the three cases. -/
theorem scanStep (key val : Bytes) (rest : List (Bytes × Bytes)) (index : Nat)
    (captured : S) (log : List ControlCall) :
    ScanStep serPrefix userControl failure key val rest index captured log := by
  cases inside : serPrefix.all (·.isPrefixOf key) with
  | false =>
      cases serPrefix with
      | none => simp at inside
      | some prefixBytes =>
          have outside : prefixBytes.isPrefixOf key = false := inside
          refine .stop [] captured ?_ ?_
          · rw [verdict_outside userControl outside, List.append_nil]
          · simp [referenceScan, outside]
  | true =>
      have same := verdict_inside userControl inside val index (captured, log)
      cases userControl with
      | none =>
          refine .keep [] captured ?_ ?_
          · rw [same, List.append_nil]
            rfl
          · simp [referenceScan, inside]
      | some control =>
          rcases answered : control captured key val index with
            ⟨_ | _ | _, after⟩
          · refine .stop [(key, val, index)] after ?_ ?_
            · rw [same]
              simp [verdict, recording, answered]
            · simp [referenceScan, inside, answered]
          · refine .skip [(key, val, index)] after ?_ ?_
            · rw [same]
              simp [verdict, recording, answered]
            · simp [referenceScan, inside, answered]
          · refine .keep [(key, val, index)] after ?_ ?_
            · rw [same]
              simp [verdict, recording, answered]
            · simp [referenceScan, inside, answered]

/-- The raw mode, drained from any point of the scan. -/
theorem drain_rawItems (entries : List (Bytes × Bytes)) (index : Nat)
    (captured : S) (log : List ControlCall) :
    let scan := referenceScan serPrefix userControl failure entries index
      captured
    let drained := drain (RawItemsIter.mk (rawStreamOf entries failure)
      (recordedControl serPrefix userControl) (captured, log) index)
    drained.1 = scan.kept.map .ok ++ failureItem scan.failure ∧
      drained.2.captured = (scan.captured, log ++ scan.calls) := by
  induction entries generalizing index captured log with
  | nil =>
      cases failure with
      | none =>
          simp [rawStreamOf, RawItemsIter.drain_nil, referenceScan, failureItem]
      | some e =>
          simp [rawStreamOf, RawItemsIter.drain_error, referenceScan,
            failureItem]
  | cons entry entries inductionHypothesis =>
      rcases entry with ⟨key, val⟩
      have head : rawStreamOf ((key, val) :: entries) failure =
          .ok (key, val) :: rawStreamOf entries failure := rfl
      rw [head, RawItemsIter.drain_ok]
      rcases scanStep serPrefix userControl failure key val entries index
        captured log with ⟨made, after, answer, scan⟩ |
        ⟨made, after, answer, scan⟩ | ⟨made, after, answer, scan⟩
      · simp [answer, scan, failureItem]
      · rcases inductionHypothesis index after (log ++ made) with ⟨items, state⟩
        simp [answer, scan, items, state]
      · rcases inductionHypothesis (index + 1) after (log ++ made) with
          ⟨items, state⟩
        simp [answer, scan, items, state]

/-- The deserializing mode, drained from any point of the scan. -/
theorem drain_controlled (deserializer : DeserializerFn T OutK OutV)
    (entries : List (Bytes × Bytes)) (index : Nat) (captured : S)
    (log : List ControlCall) (state : T) :
    let scan := referenceScan serPrefix userControl failure entries index
      captured
    let drained := drain (ControlledIter.mk (rawStreamOf entries failure)
      (recordedControl serPrefix userControl) (captured, log) deserializer state
      index)
    drained.1 = (deserializeAll deserializer scan.kept state).1 ++
        failureItem scan.failure ∧
      drained.2.captured = (scan.captured, log ++ scan.calls) ∧
      drained.2.deserializerCaptured =
        (deserializeAll deserializer scan.kept state).2 := by
  induction entries generalizing index captured log state with
  | nil =>
      cases failure with
      | none =>
          simp [rawStreamOf, ControlledIter.drain_nil, referenceScan,
            failureItem, deserializeAll]
      | some e =>
          simp [rawStreamOf, ControlledIter.drain_error, referenceScan,
            failureItem, deserializeAll]
  | cons entry entries inductionHypothesis =>
      rcases entry with ⟨key, val⟩
      have head : rawStreamOf ((key, val) :: entries) failure =
          .ok (key, val) :: rawStreamOf entries failure := rfl
      rw [head, ControlledIter.drain_ok]
      rcases scanStep serPrefix userControl failure key val entries index
        captured log with ⟨made, after, answer, scan⟩ |
        ⟨made, after, answer, scan⟩ | ⟨made, after, answer, scan⟩
      · simp [answer, scan, failureItem, deserializeAll]
      · rcases inductionHypothesis index after (log ++ made) state with
          ⟨items, calls, final⟩
        simp [answer, scan, items, calls, final]
      · rcases inductionHypothesis (index + 1) after (log ++ made)
          (deserializer state key val).2 with ⟨items, calls, final⟩
        simp [answer, scan, items, calls, final, deserializeAll]

end Recorded

/-- The control-only mode, run from any point of the scan. -/
theorem controlOnlyLoop_eq (serPrefix : Option Bytes) (control : ControlFn S)
    (failure : Option RocksError) {effective : ControlFn (S × List ControlCall)}
    (present : recordedControl serPrefix (some control) = some effective)
    (entries : List (Bytes × Bytes)) (index : Nat) (captured : S)
    (log : List ControlCall) :
    let scan := referenceScan serPrefix (some control) failure entries index
      captured
    controlOnlyLoop effective (rawStreamOf entries failure) (captured, log)
        index =
      (scan.failure.elim (.ok ()) fun e => .error (.rocksDb e),
        (scan.captured, log ++ scan.calls)) := by
  induction entries generalizing index captured log with
  | nil => cases failure <;> simp [rawStreamOf, controlOnlyLoop, referenceScan]
  | cons entry entries inductionHypothesis =>
      rcases entry with ⟨key, val⟩
      have head : rawStreamOf ((key, val) :: entries) failure =
          .ok (key, val) :: rawStreamOf entries failure := rfl
      have asked : effective (captured, log) key val index =
          verdict (recordedControl serPrefix (some control)) (captured, log) key
            val index := by
        rw [present]
        rfl
      rw [head]
      rcases scanStep serPrefix (some control) failure key val entries index
        captured log with ⟨made, after, answer, scan⟩ |
        ⟨made, after, answer, scan⟩ | ⟨made, after, answer, scan⟩
      · simp [controlOnlyLoop, asked, answer, scan]
      · have later := inductionHypothesis index after (log ++ made)
        simp [controlOnlyLoop, asked, answer, scan, later]
      · have later := inductionHypothesis (index + 1) after (log ++ made)
        simp [controlOnlyLoop, asked, answer, scan, later]

/-- No call of the reference scan is on a key outside the prefix. -/
theorem referenceScan_calls_inside (serPrefix : Option Bytes)
    (userControl : Option (ControlFn S)) (failure : Option RocksError)
    (entries : List (Bytes × Bytes)) (index : Nat) (captured : S) :
    ∀ call ∈ (referenceScan serPrefix userControl failure entries index
      captured).calls, serPrefix.all (·.isPrefixOf call.1) = true := by
  induction entries generalizing index captured with
  | nil => simp [referenceScan]
  | cons entry entries inductionHypothesis =>
      rcases entry with ⟨key, val⟩
      intro call made
      rw [referenceScan.eq_def] at made
      dsimp only at made
      split at made
      · next inside =>
          split at made
          · exact inductionHypothesis _ _ call made
          · split at made
            · rw [List.mem_singleton] at made
              exact made ▸ inside
            · rcases List.mem_cons.mp made with rfl | later
              · exact inside
              · exact inductionHypothesis _ _ call later
            · rcases List.mem_cons.mp made with rfl | later
              · exact inside
              · exact inductionHypothesis _ _ call later
      · cases made

/-- With factories that serve one stream, `execute` processes that stream. -/
theorem execute_stream {SerKey : Type} [AsBytes SerKey]
    (config : IterConfig SerKey S T OutK OutV) (stream : RawStream) :
    execute config (fun _ => .ok stream) (fun _ => .ok stream) =
      processResult config.mode stream
        (effectiveControl (config.prefixKey.map AsBytes.asBytes) config.control)
        config.captured := by
  rcases config with ⟨cfName, _ | p, _ | s, reverse, control, captured, mode⟩ <;>
    rfl

/-- All three modes make the calls of the reference scan, keep its entries and
report its engine error.  The user control writes down its calls, so that the
captured state shows them. -/
theorem iterationModes_follow_referenceScan {SerKey : Type} [AsBytes SerKey]
    (cfName : String) (prefixKey start : Option SerKey) (reverse : Bool)
    (userControl : Option (ControlFn S)) (captured : S)
    (deserializer : DeserializerFn T OutK OutV) (state : T)
    (entries : List (Bytes × Bytes)) (failure : Option RocksError) :
    let stream := rawStreamOf entries failure
    let scan := referenceScan (prefixKey.map AsBytes.asBytes) userControl
      failure entries 0 captured
    (∃ iter final,
      execute (IterConfig.newRaw cfName prefixKey start reverse
          (userControl.map recording) (captured, []))
        (fun _ => .ok stream) (fun _ => .ok stream) =
          (.ok (.rawItems iter), (captured, [])) ∧
      drain iter = (scan.kept.map .ok ++ failureItem scan.failure, final) ∧
      final.captured = (scan.captured, scan.calls)) ∧
    (∃ iter final,
      execute (IterConfig.newDeserializing cfName prefixKey start reverse
          (userControl.map recording) (captured, []) deserializer state)
        (fun _ => .ok stream) (fun _ => .ok stream) =
          (.ok (.deserializedItems iter), (captured, [])) ∧
      drain iter = ((deserializeAll deserializer scan.kept state).1 ++
        failureItem scan.failure, final) ∧
      final.captured = (scan.captured, scan.calls)) ∧
    (∀ control, userControl = some control →
      execute (IterConfig.newControlOnly cfName prefixKey start reverse
          (recording control) (captured, []))
        (fun _ => .ok stream) (fun _ => .ok stream) =
          (scan.failure.elim (.ok .effectCompleted) fun e =>
            .error (.rocksDb e), (scan.captured, scan.calls))) ∧
    ∀ call ∈ scan.calls, ∀ p, prefixKey = some p →
      (AsBytes.asBytes p).isPrefixOf call.1 = true := by
  intro stream scan
  refine ⟨?_, ?_, ?_, ?_⟩
  · rcases drain_rawItems (prefixKey.map AsBytes.asBytes) userControl failure
      entries 0 captured [] with ⟨items, final⟩
    exact ⟨_, _, execute_stream _ stream, Prod.ext items rfl, final⟩
  · rcases drain_controlled (prefixKey.map AsBytes.asBytes) userControl failure
      deserializer entries 0 captured [] state with ⟨items, final, -⟩
    exact ⟨_, _, execute_stream _ stream, Prod.ext items rfl, final⟩
  · rintro control rfl
    rw [execute_stream]
    have present : ∃ effective, recordedControl
        (prefixKey.map AsBytes.asBytes) (some control) = some effective := by
      cases prefixKey <;> exact ⟨_, rfl⟩
    rcases present with ⟨effective, present⟩
    have looped := controlOnlyLoop_eq _ control failure present entries 0
      captured []
    have asked : effectiveControl (prefixKey.map AsBytes.asBytes)
        (some (recording control)) = some effective := present
    simp only [IterConfig.newControlOnly, processResult, asked, stream, looped]
    refine Prod.ext ?_ rfl
    change Except.map _ (scan.failure.elim (.ok ()) _) = scan.failure.elim _ _
    cases scan.failure <;> rfl
  · rintro call made p rfl
    exact referenceScan_calls_inside _ userControl failure entries 0 captured
      call made

end RockSolid
