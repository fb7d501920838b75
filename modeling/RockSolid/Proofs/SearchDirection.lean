/-
Module: RockSolid.Proofs.SearchDirection
Layer: Proofs
Purpose: A search by prefix is served by the prefix iterator, which goes forward
  only.  The direction asked for changes nothing: both searches visit the entries
  under the prefix in ascending order, for every control function.
Trusted boundary: none
Main exports: ControlledIter.next_ok, collectRest_controlled, visit_prefixed,
  visit_eq_kept, collect_controlled, visit_stopAfter,
  Store.findByPrefixWithExpireVal_eq_visit, prefixSearch_ascending
-/
import RockSolid.Proofs.PrefixSearch
import RockSolid.Semantics.VisitedSearch

namespace RockSolid

open Foundation PullIterator

variable {cmps : String → Comparator} {K V S T OutK OutV : Type}

/-- One step of the deserializing iterator on an entry. -/
theorem ControlledIter.next_ok (control : Option (ControlFn S)) (captured : S)
    (deserializer : DeserializerFn T OutK OutV) (state : T) (count : Nat)
    (key val : Bytes) (rest : RawStream) :
    PullIterator.next (ControlledIter.mk (.ok (key, val) :: rest) control
      captured deserializer state count) =
      match verdict control captured key val count with
      | (.stop, after) =>
          (none, ⟨rest, control, after, deserializer, state, count⟩)
      | (.skip, after) => PullIterator.next
          (ControlledIter.mk rest control after deserializer state count)
      | (.keep, after) =>
          (some (deserializer state key val).1,
            ⟨rest, control, after, deserializer,
              (deserializer state key val).2, count + 1⟩) := by
  cases control with
  | none => rfl
  | some control =>
      rcases answered : control captured key val count with ⟨_ | _ | _, after⟩ <;>
        simp [verdict, answered, PullIterator.next, ControlledIter.next,
          ControlledIter.nextFrom, ControlledIter.deliver]

/-- Collecting from the iterator is visiting its entries. -/
theorem collectRest_controlled (decode : Bytes → Bytes → StoreResult (OutK × OutV))
    (control : ControlFn S) (entries : List (Bytes × Bytes)) (captured : S)
    (count : Nat) :
    let collected := collectRest (ControlledIter.mk (entries.map .ok)
      (some control) captured
      (fun _ keyBytes valBytes => (decode keyBytes valBytes, ())) () count)
    (collected.1, collected.2.captured) =
      visit decode control entries count captured := by
  induction entries generalizing captured count with
  | nil =>
      have ended : PullIterator.next (ControlledIter.mk [] (some control) captured
          (fun _ keyBytes valBytes => (decode keyBytes valBytes, ())) () count) =
        (none, ⟨[], some control, captured,
          fun _ keyBytes valBytes => (decode keyBytes valBytes, ()), (),
          count⟩) := rfl
      simp only [List.map_nil, collectRest_of_none ended]
      rfl
  | cons entry entries inductionHypothesis =>
      rcases entry with ⟨key, val⟩
      have step := ControlledIter.next_ok (some control) captured
        (fun _ keyBytes valBytes => (decode keyBytes valBytes, ())) () count
        key val (entries.map .ok)
      rw [visit]
      rcases answered : control captured key val count with ⟨_ | _ | _, after⟩
      · simp only [verdict, answered] at step
        rw [List.map_cons, collectRest_of_none step]
      · simp only [verdict, answered] at step
        rw [List.map_cons, collectRest_congr step]
        exact inductionHypothesis after count
      · simp only [verdict, answered] at step
        cases decoded : decode key val with
        | error e =>
            rw [decoded] at step
            rw [List.map_cons, collectRest_of_error step]
        | ok item =>
            rw [decoded] at step
            rw [List.map_cons, collectRest_of_ok step]
            simp only [← inductionHypothesis after (count + 1)]

/-- Enforcing a prefix is ending the visit before the first foreign key. -/
theorem visit_prefixed {A : Type} (decode : Bytes → Bytes → StoreResult A)
    (prefixBytes : Bytes) (control : ControlFn S) :
    ∃ effective, effectiveControl (some prefixBytes) (some control) =
        some effective ∧
      ∀ entries count captured,
        visit decode effective entries count captured =
          visit decode control (entries.takeWhile (hasPrefix prefixBytes)) count
            captured := by
  refine ⟨_, rfl, ?_⟩
  intro entries
  induction entries with
  | nil => exact fun _ _ => rfl
  | cons entry entries inductionHypothesis =>
      intro count captured
      cases inside : hasPrefix prefixBytes entry with
      | false =>
          have stops : prefixEnforcementControl prefixBytes entry.1 = .stop :=
            if_neg (Bool.eq_false_iff.mp inside)
          rw [List.takeWhile_cons_of_neg (by simp [inside]), visit, visit]
          simp only [stops]
      | true =>
          have keeps : prefixEnforcementControl prefixBytes entry.1 = .keep :=
            if_pos inside
          rw [List.takeWhile_cons_of_pos inside, visit, visit]
          simp only [keeps, inductionHypothesis]

/-- A visit returns the decoded form of what the scan keeps. -/
theorem visit_eq_kept {A : Type} (decode : Bytes → Bytes → StoreResult A)
    (control : ControlFn S) (entries : List (Bytes × Bytes)) (captured : S)
    (count : Nat) :
    (visit decode control entries count captured).1 =
      (referenceScan none (some control) none entries count
        captured).kept.mapM fun entry => decode entry.1 entry.2 := by
  induction entries generalizing count captured with
  | nil => rfl
  | cons entry entries inductionHypothesis =>
      rw [visit]
      rcases answered : control captured entry.1 entry.2 count with
        ⟨_ | _ | _, after⟩
      · simp [referenceScan, answered, pure, Except.pure]
      · simp [referenceScan, answered, inductionHypothesis]
      · simp only [referenceScan, answered, Option.all_none, if_true,
          List.mapM_cons, ← inductionHypothesis]
        cases decode entry.1 entry.2 with
        | error e => rfl
        | ok item =>
            cases (visit decode control entries (count + 1) after).1 <;> rfl

/-- What is collected from the iterator is the decoded form of what it keeps. -/
theorem collect_controlled (decode : Bytes → Bytes → StoreResult (OutK × OutV))
    (control : ControlFn S) (entries : List (Bytes × Bytes)) (captured : S)
    (count : Nat) :
    collect (ControlledIter.mk (entries.map .ok) (some control) captured
      (fun _ keyBytes valBytes => (decode keyBytes valBytes, ())) () count) =
      (referenceScan none (some control) none entries count
        captured).kept.mapM fun entry => decode entry.1 entry.2 := by
  have visited :=
    collectRest_controlled decode control entries captured count
  rw [collect_eq_collectRest, ← visit_eq_kept]
  exact congrArg Prod.fst visited

/-- A scan that stops after so many kept entries keeps the first of them. -/
theorem stopAfter_kept (limit : Nat) (entries : List (Bytes × Bytes))
    (count : Nat) :
    (referenceScan none (some (stopAfter limit)) none entries count ()).kept =
      entries.take (limit - count) := by
  induction entries generalizing count with
  | nil => rw [List.take_nil, referenceScan]
  | cons entry entries inductionHypothesis =>
      by_cases more : count < limit
      · have left : limit - count = (limit - (count + 1)) + 1 := by omega
        rw [left, List.take_succ_cons, ← inductionHypothesis (count + 1)]
        simp [referenceScan, stopAfter, more]
      · have none : limit - count = 0 := by omega
        rw [none, List.take_zero]
        simp [referenceScan, stopAfter, more]

/-- A visit that stops after so many kept entries decodes the first of them. -/
theorem visit_stopAfter {A : Type} (decode : Bytes → Bytes → StoreResult A)
    (limit : Nat) (entries : List (Bytes × Bytes)) (count : Nat) :
    (visit decode (stopAfter limit) entries count ()).1 =
      (entries.take (limit - count)).mapM fun entry =>
        decode entry.1 entry.2 := by
  rw [visit_eq_kept, stopAfter_kept]

section ExpirySearch

variable [AsBytes K] [ByteDecodable K] (data : ByteDb) (prefixKey : K)
  (reverse : Bool) (control : ControlFn S) (captured : S)

/-- Whatever the direction asked for, the search visits the entries under the
prefix in ascending order. -/
theorem CFOperations.findByPrefixWithExpireVal_eq_visit {access : CfAccess}
    {cfName cf : String} (unexpected : String)
    (found : access.family cfName = .ok cf)
    (readable : access.db.Readable data cf) :
    CFOperations.findByPrefixWithExpireVal (V := V) data none access unexpected
      cfName prefixKey reverse control captured =
      visitResult V control captured
        (entriesUnder prefixKey (access.db.entries data cf)) := by
  obtain ⟨effective, enforced, visited⟩ := visit_prefixed
    (deserializeKvExpiry (K := K) (V := V)) (AsBytes.asBytes prefixKey) control
  have served := access.db.prefixIterator_eq data cf readable
    (AsBytes.asBytes prefixKey)
  have executed : iterate access data none
      (findByPrefixWithExpireValConfig (V := V) cfName prefixKey reverse control
        captured) =
      (.ok (.deserializedItems (ControlledIter.mk
        (((access.db.entries data cf).dropWhile fun entry =>
          compare entry.1 (AsBytes.asBytes prefixKey) == .lt).map .ok)
        (some effective) captured
        (fun _ keyBytes valBytes => (deserializeKvExpiry keyBytes valBytes, ()))
        () 0)), captured) := by
    have prefixed : (findByPrefixWithExpireValConfig (V := V) cfName prefixKey
        reverse control captured).rawMode =
          prefixIteratorMode (AsBytes.asBytes prefixKey) := rfl
    rw [iterate, iterateWith_eq, prefixed]
    simp only [findByPrefixWithExpireValConfig, IterConfig.newDeserializing,
      found, cutBy, served, processResult, Option.map_some, enforced]
  have collected := collectRest_controlled
    (deserializeKvExpiry (K := K) (V := V)) effective
    ((access.db.entries data cf).dropWhile fun entry =>
      compare entry.1 (AsBytes.asBytes prefixKey) == .lt) captured 0
  rw [visited, bytewise_scan_eq_filter] at collected
  rw [CFOperations.findByPrefixWithExpireVal, executed, visitResult,
    entriesUnder, ← collected]
  rfl

/-- So it is on every store. -/
theorem Store.findByPrefixWithExpireVal_eq_visit (store : Store)
    (cfName : String) (opens : store.Opens cfName)
    (readable : store.Readable cfName data) :
    store.findByPrefixWithExpireVal (V := V) cfName prefixKey reverse control
      captured data none =
      visitResult V control captured
        (entriesUnder prefixKey (store.entries cfName data)) := by
  cases store <;>
    simp only [Store.findByPrefixWithExpireVal,
      RocksDbStore.findByPrefixWithExpireVal,
      RocksDbTxnStore.findByPrefixWithExpireVal,
      RocksDbOptimisticTxnStore.findByPrefixWithExpireVal,
      RocksDbCFStore.findByPrefixWithExpireVal,
      RocksDbCFTxnStore.findByPrefixWithExpireVal,
      RocksDbCFOptimisticTxnStore.findByPrefixWithExpireVal] <;>
    exact CFOperations.findByPrefixWithExpireVal_eq_visit data prefixKey reverse
      control captured _ opens readable

end ExpirySearch

/-- The direction of a prefix search is ignored, on every store and in both
contexts: `find_by_prefix` returns the entries under the prefix in ascending
order, `find_by_prefix_with_expire_val` visits them in ascending order for every
control function, and a control function that stops after so many kept entries
returns those with the smallest keys. -/
theorem prefixSearch_ascending [AsBytes K] [ByteDecodable K]
    [DeserializeOwned V] (data : ByteDb) (cf : String) (prefixKey : K) :
    (∀ (searchable : PrefixSearchable) (direction : Direction),
      searchable.Opens cf → searchable.Readable data cf →
        searchable.findByPrefix (V := V) data cf prefixKey direction =
          (entriesUnder prefixKey (searchable.entries data cf)).mapM
            decodeEntry) ∧
    (∀ (store : Store) (reverse : Bool), store.Opens cf →
      store.Readable cf data →
        ((store.entries cf data).Pairwise fun earlier later =>
          compare earlier.1 later.1 = .lt) ∧
        (∀ {S : Type} (control : ControlFn S) (captured : S),
          store.findByPrefixWithExpireVal (V := V) cf prefixKey reverse control
            captured data none =
          visitResult V control captured
            (entriesUnder prefixKey (store.entries cf data))) ∧
        ∀ limit,
          (store.findByPrefixWithExpireVal (V := V) cf prefixKey reverse
            (stopAfter limit) () data none).1 =
          (((entriesUnder prefixKey (store.entries cf data)).take limit).mapM
            fun entry => deserializeKvExpiry entry.1 entry.2).mapError
              StoreError.display) := by
  constructor
  · intro searchable direction opens readable
    rw [findByPrefix_eq_scan searchable data prefixKey direction opens readable]
    exact congrArg (fun block => List.mapM decodeEntry block)
      (bytewise_scan_eq_filter searchable.db (searchable.sees data) cf _)
  · intro store reverse opens readable
    have visits {S : Type} (control : ControlFn S) (captured : S) :=
      store.findByPrefixWithExpireVal_eq_visit (V := V) data prefixKey reverse
        control captured cf opens readable
    refine ⟨store.access.db.entries_sorted data _, visits, ?_⟩
    intro limit
    have stopped := visit_stopAfter (deserializeKvExpiry (K := K) (V := V))
      limit (entriesUnder prefixKey (store.entries cf data)) 0
    rw [visits]
    exact congrArg (Except.mapError StoreError.display) stopped

/-- Keys `a1` and `a2`: both searches in reverse order begin with `a1`. -/
theorem prefixSearch_ignores_reverse :
    let _keys : ByteDecodable String := utf8Keys
    let _codec : DeserializeOwned Bytes := ⟨.ok⟩
    let data : ByteDb := Db.empty.applyAll
      [.put ⟨"default", [97, 49]⟩ (toBeBytes 0 ++ [1]),
        .put ⟨"default", [97, 50]⟩ (toBeBytes 0 ++ [2])]
    let handle : RocksDbCFStore := ⟨⟨["default"], fun _ _ _ _ => none⟩⟩
    let search := fun direction =>
      (PrefixSearchable.cfStore handle).findByPrefix (K := String) (V := Bytes)
        data "default" "a" direction
    search .reverse ≠ (search .forward).map List.reverse ∧
      ((Store.cfStore handle).findByPrefixWithExpireVal (K := String)
        (V := Bytes) "default" "a" true (stopAfter 1) () data none).1 =
          .ok [("a1", ⟨0, [1]⟩)] := by
  intro _keys _codec data handle search
  have opens : (PrefixSearchable.cfStore handle).Opens "default" := rfl
  have returned (direction : Direction) : search direction =
      .ok [("a1", toBeBytes 0 ++ [1]), ("a2", toBeBytes 0 ++ [2])] := by
    have scanned := findByPrefix_eq_scan (K := String) (V := Bytes)
      (.cfStore handle) data "a" direction opens (by decide +kernel)
    exact scanned.trans (by decide +kernel)
  constructor
  · rw [returned, returned]
    decide +kernel
  · have visited := (Store.cfStore handle).findByPrefixWithExpireVal_eq_visit
      (K := String) (V := Bytes) data "a" true (stopAfter 1) () "default" rfl
      (by decide +kernel)
    rw [visited]
    decide +kernel

/-- A reverse search over two keys that stops after one of them. -/
theorem prefixSearch_ascending_two_keys :
    let _keys : ByteDecodable String := utf8Keys
    let _codec : DeserializeOwned Bytes := ⟨.ok⟩
    let data : ByteDb := Db.empty.applyAll
      [.put ⟨"default", [97, 49]⟩ (toBeBytes 0 ++ [1]),
        .put ⟨"default", [97, 50]⟩ (toBeBytes 0 ++ [2])]
    let store : Store := .cfStore ⟨⟨["default"], fun _ _ _ _ => none⟩⟩
    (store.findByPrefixWithExpireVal (K := String) (V := Bytes) "default" "a"
      true (stopAfter 1) () data none).1 =
      (((entriesUnder "a" (store.entries "default" data)).take 1).mapM
        fun entry => deserializeKvExpiry entry.1 entry.2).mapError
          StoreError.display := by
  intro _keys _codec data store
  have ascending := (prefixSearch_ascending (V := Bytes) data "default" "a").2
    store true rfl (by decide +kernel)
  exact ascending.2.2 1

end RockSolid
