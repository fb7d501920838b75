/-
Module: RockSolid.Proofs.MergeOperands
Layer: Proofs
Purpose: The two checks of merge operands: what they accept and return, that the
  order of the operands does not matter, what they make of operands written with
  `merge_with_expiry`, and on which lists they panic.
Trusted boundary: none
Main exports: validateMergevaluesFrom_ok_iff, validateExpirableFrom_eq,
  validators_meaning, validateExpirable_none_iff, validators_defined_iff
-/
import RockSolid.Proofs.ExpiryFormat
import RockSolid.Proofs.KeyCodec
import RockSolid.Semantics.MergeOperands

namespace RockSolid

open Foundation

section Unites

variable {V : Type} [DeserializeOwned (MergeValue V)] {operands : List Bytes}
  {values : List (MergeValue V)}

/-- The operands decode to the values, all of which carry the operator. -/
def UnitesUnder (operator : MergeValueOperator) (operands : List Bytes)
    (values : List (MergeValue V)) : Prop :=
  operands.map deserializeValue = values.map .ok ∧
    ∀ value ∈ values, value.operator = operator

theorem unites_iff :
    Unites operands values ↔
      ∃ operator, UnitesUnder operator operands values := by
  rw [Unites, OneOperator]
  constructor
  · intro united
    obtain ⟨decoded, operator, same⟩ := united
    exact ⟨operator, decoded, same⟩
  · intro united
    obtain ⟨operator, decoded, same⟩ := united
    exact ⟨decoded, operator, same⟩

theorem unitesUnder_nil {operator : MergeValueOperator} :
    UnitesUnder operator [] values ↔ values = [] := by
  constructor
  · intro united
    exact List.map_eq_nil_iff.mp united.1.symm
  · intro empty
    subst empty
    exact ⟨rfl, List.forall_mem_nil _⟩

theorem not_unitesUnder_cons_of_error {operator : MergeValueOperator}
    {operand : Bytes} {e : StoreError}
    (failed : deserializeValue (V := MergeValue V) operand = .error e) :
    ¬ UnitesUnder operator (operand :: operands) values := by
  intro united
  obtain ⟨decoded, _⟩ := united
  cases values with
  | nil => cases decoded
  | cons value rest =>
      rw [List.map_cons, List.map_cons, failed, List.cons.injEq] at decoded
      cases decoded.1

theorem unitesUnder_cons_of_ok {operator : MergeValueOperator}
    {operand : Bytes} {value : MergeValue V}
    (found : deserializeValue operand = .ok value) :
    UnitesUnder operator (operand :: operands) values ↔
      value.operator = operator ∧
        ∃ rest, UnitesUnder operator operands rest ∧ values = value :: rest := by
  constructor
  · intro united
    obtain ⟨decoded, same⟩ := united
    cases values with
    | nil => cases decoded
    | cons first rest =>
        rw [List.map_cons, List.map_cons, found, List.cons.injEq] at decoded
        rw [List.forall_mem_cons] at same
        cases decoded.1
        exact ⟨same.1, rest, ⟨decoded.2, same.2⟩, rfl⟩
  · intro extended
    obtain ⟨same, rest, ⟨restDecoded, restSame⟩, rfl⟩ := extended
    constructor
    · rw [List.map_cons, List.map_cons, found, restDecoded]
    · exact List.forall_mem_cons.mpr ⟨same, restSame⟩

theorem not_unites_cons_of_error {operand : Bytes} {e : StoreError}
    (failed : deserializeValue (V := MergeValue V) operand = .error e) :
    ¬ Unites (operand :: operands) values := by
  intro united
  obtain ⟨operator, united⟩ := unites_iff.mp united
  exact not_unitesUnder_cons_of_error failed united

/-- A list that starts with a value decodes with one operator when its tail does
under the operator of that value. -/
theorem unites_cons_of_ok {operand : Bytes} {value : MergeValue V}
    (found : deserializeValue operand = .ok value) :
    Unites (operand :: operands) values ↔
      ∃ rest, UnitesUnder value.operator operands rest ∧
        values = value :: rest := by
  rw [unites_iff]
  constructor
  · intro united
    obtain ⟨operator, united⟩ := united
    obtain ⟨rfl, rest, tail, same⟩ := (unitesUnder_cons_of_ok found).mp united
    exact ⟨rest, tail, same⟩
  · intro extended
    exact ⟨value.operator, (unitesUnder_cons_of_ok found).mpr ⟨rfl, extended⟩⟩

/-- Whether operands decode with one operator is said of each of them. -/
theorem exists_unites_iff :
    (∃ values : List (MergeValue V), Unites operands values) ↔
      ∃ operator, ∀ operand ∈ operands, ∃ value : MergeValue V,
        deserializeValue operand = .ok value ∧ value.operator = operator := by
  constructor
  · intro united
    obtain ⟨values, decoded, operator, same⟩ := united
    refine ⟨operator, ?_⟩
    intro operand member
    have found : deserializeValue operand ∈ values.map Except.ok := by
      rw [← decoded]
      exact List.mem_map_of_mem member
    obtain ⟨value, among, equal⟩ := List.mem_map.mp found
    exact ⟨value, equal.symm, same value among⟩
  · intro shared
    obtain ⟨operator, each⟩ := shared
    have allDecode : ∀ single ∈ operands.map (deserializeValue (V := MergeValue V)),
        ∃ value, single = .ok value := by
      rw [List.forall_mem_map]
      intro operand member
      obtain ⟨value, decoded, _⟩ := each operand member
      exact ⟨value, decoded⟩
    obtain ⟨values, decoded⟩ := exists_map_ok_iff.mpr allDecode
    refine ⟨values, decoded, operator, ?_⟩
    intro value member
    have found : Except.ok value ∈ operands.map deserializeValue := by
      rw [decoded]
      exact List.mem_map_of_mem member
    obtain ⟨operand, among, equal⟩ := List.mem_map.mp found
    obtain ⟨other, otherDecoded, same⟩ := each operand among
    rw [equal] at otherDecoded
    cases otherDecoded
    exact same

/-- So the order of the operands does not matter. -/
theorem exists_unites_perm {others : List Bytes} (perm : operands.Perm others) :
    (∃ values : List (MergeValue V), Unites operands values) ↔
      ∃ values : List (MergeValue V), Unites others values := by
  rw [exists_unites_iff, exists_unites_iff]
  simp only [perm.mem_iff]

end Unites

section Plain

variable {V : Type} [DeserializeOwned (MergeValue V)] {operands : List Bytes}
  {values results : List (MergeValue V)}

/-- The loop appends what the remaining operands decode to, if they do so under
the operator of the first. -/
theorem validateMergevaluesFrom_ok_iff {operator : MergeValueOperator} :
    validateMergevaluesFrom operator operands values = .ok results ↔
      ∃ rest, UnitesUnder operator operands rest ∧ results = values ++ rest := by
  induction operands generalizing values with
  | nil =>
      rw [validateMergevaluesFrom, Except.ok.injEq]
      constructor
      · intro returned
        exact ⟨[], unitesUnder_nil.mpr rfl,
          returned.symm.trans (List.append_nil _).symm⟩
      · intro extended
        obtain ⟨rest, united, rfl⟩ := extended
        rw [unitesUnder_nil.mp united, List.append_nil]
  | cons operand operands inductionHypothesis =>
      rw [validateMergevaluesFrom]
      cases decoded : (deserializeValue operand : StoreResult (MergeValue V)) with
      | error e =>
          apply iff_of_false
          · intro failed
            cases failed
          · intro extended
            obtain ⟨rest, united, _⟩ := extended
            exact not_unitesUnder_cons_of_error decoded united
      | ok value =>
          change (if operator ≠ value.operator then _ else
            validateMergevaluesFrom operator operands (values ++ [value])) = _ ↔ _
          simp only [unitesUnder_cons_of_ok decoded]
          by_cases same : operator = value.operator
          · rw [if_neg (not_not.mpr same), inductionHypothesis]
            constructor
            · intro extended
              obtain ⟨rest, united, rfl⟩ := extended
              refine ⟨value :: rest, ⟨same.symm, rest, united, rfl⟩, ?_⟩
              rw [List.append_assoc, List.singleton_append]
            · intro extended
              obtain ⟨_, ⟨_, rest, united, rfl⟩, rfl⟩ := extended
              refine ⟨rest, united, ?_⟩
              rw [List.append_assoc, List.singleton_append]
          · rw [if_pos same]
            apply iff_of_false
            · intro failed
              cases failed
            · intro extended
              obtain ⟨_, ⟨carried, _⟩, _⟩ := extended
              exact same carried.symm

/-- The first check accepts what decodes with one operator, and returns it. -/
theorem validateMergevaluesAssociativity_ok_iff (nonempty : operands ≠ []) :
    validateMergevaluesAssociativity operands = some (.ok values) ↔
      Unites operands values := by
  cases operands with
  | nil => exact absurd rfl nonempty
  | cons operand operands =>
      rw [validateMergevaluesAssociativity, Option.some.injEq]
      cases decoded : (deserializeValue operand : StoreResult (MergeValue V)) with
      | error e =>
          apply iff_of_false
          · intro failed
            cases failed
          · exact not_unites_cons_of_error decoded
      | ok value =>
          change validateMergevaluesFrom value.operator operands [value] = _ ↔ _
          rw [validateMergevaluesFrom_ok_iff, unites_cons_of_ok decoded]
          rfl

end Plain

section Headers

variable {V : Type}

/-- A header of eight bytes is read as a whole. -/
theorem fromBeBytes_header (operand : Bytes) :
    fromBeBytes (operand.take 8) = operandExpiry operand := by
  apply UInt64.toNat_inj.mp
  rw [toNat_fromBeBytes, operandExpiry, UInt64.toNat_ofNat']

theorem ofSlice_of_header {operand : Bytes} (header : ¬ operand.length < 8) :
    ValueWithExpiry.ofSlice (V := V) operand =
      some ⟨operandExpiry operand, operandValue operand⟩ := by
  rw [ValueWithExpiry.ofSlice, ValueWithExpiry.ofVec_of_header header,
    fromBeBytes_header]
  rfl

theorem ofSlice_of_short {operand : Bytes} (short : operand.length < 8) :
    ValueWithExpiry.ofSlice (V := V) operand = none :=
  if_pos short

end Headers

section Expirable

variable {V : Type} [DeserializeOwned (MergeValue V)] {operands : List Bytes}

/-- The running maximum of the second check. -/
def laterExpiry (expireTime : UInt64) (operand : Bytes) : UInt64 :=
  if expireTime < operandExpiry operand then operandExpiry operand
  else expireTime

/-- On operands with headers the second loop is the first one on what follows
the headers, with a running maximum beside it. -/
theorem validateExpirableFrom_eq (headers : HaveHeaders operands)
    (operator : MergeValueOperator) (expireTime : UInt64)
    (values : List (MergeValue V)) :
    validateExpirableMergevaluesFrom operator operands expireTime values =
      some ((validateMergevaluesFrom operator (operands.map operandValue)
        values).map fun results =>
          (results, operands.foldl laterExpiry expireTime)) := by
  induction operands generalizing expireTime values with
  | nil => rfl
  | cons operand operands inductionHypothesis =>
      obtain ⟨header, headers⟩ := List.forall_mem_cons.mp headers
      rw [validateExpirableMergevaluesFrom, ofSlice_of_header header,
        List.map_cons, List.foldl_cons, validateMergevaluesFrom]
      simp only [ValueWithExpiry.get]
      cases (deserializeValue (operandValue operand) :
        StoreResult (MergeValue V)) with
      | error e => rfl
      | ok value =>
          change (if operator ≠ value.operator then _ else _) =
            some (Except.map _ (if operator ≠ value.operator then _ else _))
          by_cases same : operator = value.operator
          · rw [if_neg (not_not.mpr same), if_neg (not_not.mpr same)]
            exact inductionHypothesis headers _ _
          · rw [if_pos same, if_pos same]
            rfl

/-- The second check on operands with headers is the first one on what follows
them. -/
theorem validateExpirable_eq {first : Bytes}
    (headers : HaveHeaders (first :: operands)) :
    validateExpirableMergevaluesAssociativity (V := V) (first :: operands) =
      (validateMergevaluesAssociativity
        ((first :: operands).map operandValue)).map
          (Except.map fun values =>
            (values, operands.foldl laterExpiry (operandExpiry first))) := by
  obtain ⟨header, headers⟩ := List.forall_mem_cons.mp headers
  rw [validateExpirableMergevaluesAssociativity, ofSlice_of_header header,
    List.map_cons, validateMergevaluesAssociativity, Option.map_some]
  simp only [ValueWithExpiry.get]
  cases (deserializeValue (operandValue first) :
    StoreResult (MergeValue V)) with
  | error e => rfl
  | ok value => exact validateExpirableFrom_eq headers _ _ _

theorem le_laterExpiry (expireTime : UInt64) (operand : Bytes) :
    expireTime ≤ laterExpiry expireTime operand ∧
      operandExpiry operand ≤ laterExpiry expireTime operand := by
  rw [laterExpiry]
  split <;> rename_i before
  · exact ⟨UInt64.le_of_lt before, UInt64.le_refl _⟩
  · exact ⟨UInt64.le_refl _, UInt64.not_lt.mp before⟩

/-- The running maximum bounds what it has seen. -/
theorem le_foldl_laterExpiry (operands : List Bytes) (expireTime : UInt64) :
    expireTime ≤ operands.foldl laterExpiry expireTime ∧
      ∀ operand ∈ operands,
        operandExpiry operand ≤ operands.foldl laterExpiry expireTime := by
  induction operands generalizing expireTime with
  | nil => exact ⟨UInt64.le_refl _, by simp⟩
  | cons operand operands inductionHypothesis =>
      obtain ⟨start, others⟩ :=
        inductionHypothesis (laterExpiry expireTime operand)
      obtain ⟨before, own⟩ := le_laterExpiry expireTime operand
      rw [List.foldl_cons]
      constructor
      · exact UInt64.le_trans before start
      · exact List.forall_mem_cons.mpr ⟨UInt64.le_trans own start, others⟩

/-- It is one of the expiries it has seen. -/
theorem foldl_laterExpiry_attained (operands : List Bytes)
    (expireTime : UInt64) :
    operands.foldl laterExpiry expireTime = expireTime ∨
      ∃ operand ∈ operands,
        operandExpiry operand = operands.foldl laterExpiry expireTime := by
  induction operands generalizing expireTime with
  | nil => exact .inl rfl
  | cons operand operands inductionHypothesis =>
      rw [List.foldl_cons]
      rcases inductionHypothesis (laterExpiry expireTime operand) with
        kept | ⟨later, member, attained⟩
      · rw [kept, laterExpiry]
        split
        · exact .inr ⟨operand, List.mem_cons_self, rfl⟩
        · exact .inl rfl
      · exact .inr ⟨later, List.mem_cons_of_mem _ member, attained⟩

theorem largestExpiry_unique {first second : UInt64}
    (largest : LargestExpiry operands first)
    (other : LargestExpiry operands second) : first = second := by
  obtain ⟨⟨operand, member, rfl⟩, bound⟩ := largest
  obtain ⟨⟨operand', member', rfl⟩, bound'⟩ := other
  exact UInt64.le_antisymm (bound' operand member) (bound operand' member')

theorem largestExpiry_perm {others : List Bytes} (perm : operands.Perm others)
    {expireTime : UInt64} :
    LargestExpiry operands expireTime ↔ LargestExpiry others expireTime := by
  simp only [LargestExpiry, perm.mem_iff]

theorem largestExpiry_foldl (first : Bytes) :
    LargestExpiry (first :: operands)
      (operands.foldl laterExpiry (operandExpiry first)) := by
  obtain ⟨start, others⟩ :=
    le_foldl_laterExpiry operands (operandExpiry first)
  constructor
  · rcases foldl_laterExpiry_attained operands (operandExpiry first) with
      kept | ⟨operand, member, attained⟩
    · exact ⟨first, List.mem_cons_self, kept.symm⟩
    · exact ⟨operand, List.mem_cons_of_mem _ member, attained⟩
  · exact List.forall_mem_cons.mpr ⟨start, others⟩

/-- The second check accepts what decodes with one operator after the headers,
and returns it with the largest header. -/
theorem validateExpirable_ok_iff (nonempty : operands ≠ [])
    (headers : HaveHeaders operands) {values : List (MergeValue V)}
    {expireTime : UInt64} :
    validateExpirableMergevaluesAssociativity operands =
        some (.ok (values, expireTime)) ↔
      Unites (operands.map operandValue) values ∧
        LargestExpiry operands expireTime := by
  cases operands with
  | nil => exact absurd rfl nonempty
  | cons first operands =>
      have nonemptyValues : (first :: operands).map operandValue ≠ [] :=
        List.cons_ne_nil _ _
      have checked : validateMergevaluesAssociativity
          ((first :: operands).map operandValue) = some (.ok values) ↔ _ :=
        validateMergevaluesAssociativity_ok_iff nonemptyValues
      rw [validateExpirable_eq headers, Option.map_eq_some_iff, ← checked]
      constructor
      · intro returned
        obtain ⟨result, succeeded, same⟩ := returned
        obtain ⟨found, rfl, paired⟩ := map_eq_ok_iff.mp same
        cases paired
        exact ⟨succeeded, largestExpiry_foldl first⟩
      · intro accepted
        obtain ⟨succeeded, largest⟩ := accepted
        refine ⟨_, succeeded, map_eq_ok_iff.mpr ⟨values, rfl, ?_⟩⟩
        rw [largestExpiry_unique largest (largestExpiry_foldl first)]

end Expirable

section Merges

variable {cmps : String → Comparator} {K P : Type} [AsBytes K]
  [Serialize (MergeValue P)]

/-- A merge that returns `Ok` has appended the header and the encoded value. -/
theorem Store.mergeWithExpiry_ok {store : Store} {cfName : String} {key : K}
    {value : MergeValue P} {expireTime : UInt64} {fault : Option Fault}
    {data after : Db cmps}
    (succeeded : store.mergeWithExpiry cfName key value expireTime fault data =
      (.ok (), after)) :
    ∃ bytes, serializeValue value = .ok bytes ∧
      after = data.apply (.merge ⟨cfName, AsBytes.asBytes key⟩
        (toBeBytes expireTime ++ bytes)) := by
  have shared : store.mergeWithExpiry cfName key value expireTime fault data =
      CFOperations.mergeWithExpiry store.access cfName key value expireTime fault
        data := by
    cases store <;> rfl
  rw [shared, CFOperations.mergeWithExpiry, ValueWithExpiry.fromValue_eq,
    Method.liftM_map_bind, Method.bind_apply, Method.liftM_apply] at succeeded
  cases encoded : serializeValue value with
  | error e =>
      rw [encoded] at succeeded
      cases succeeded
  | ok bytes =>
      rw [encoded] at succeeded
      cases found : store.access.family cfName with
      | error e =>
          simp only [CFOperations.mergeRaw, serializeKey, found,
            Method.bind_apply, Method.liftM_apply] at succeeded
          cases succeeded
      | ok cf =>
          have sameFamily : cf = cfName := Store.family_ok found
          subst sameFamily
          simp only [CFOperations.mergeRaw, serializeKey, found,
            Method.bind_apply, Method.liftM_apply, CFOperations.write]
            at succeeded
          cases fault with
          | some fault => cases succeeded
          | none =>
              cases succeeded
              exact ⟨bytes, rfl, rfl⟩

/-- Each operand is the header and the encoded value of its pair. -/
def Encodes (pairs : List (MergeValue P × UInt64)) (operands : List Bytes) :
    Prop :=
  List.Forall₂ (fun pair operand => ∃ bytes,
    serializeValue pair.1 = .ok bytes ∧ operand = toBeBytes pair.2 ++ bytes)
    pairs operands

/-- Merges that return `Ok` append one operand for each pair. -/
theorem Store.mergeAllWithExpiry_appends [∀ cf, Std.TransCmp (cmps cf)]
    {store : Store} {cfName : String} {key : K}
    {pairs : List (MergeValue P × UInt64)} {faults : Nat → Option Fault}
    {data after : Db cmps}
    (succeeded : store.mergeAllWithExpiry cfName key pairs faults data =
      (.ok (), after)) :
    ∃ written, Encodes pairs written ∧
      after.record ⟨cfName, AsBytes.asBytes key⟩ =
        { data.record ⟨cfName, AsBytes.asBytes key⟩ with
          operands := (data.record ⟨cfName, AsBytes.asBytes key⟩).operands ++
            written } := by
  induction pairs generalizing faults data with
  | nil =>
      cases succeeded
      exact ⟨[], .nil, by rw [List.append_nil]⟩
  | cons pair pairs inductionHypothesis =>
      change (store.mergeWithExpiry cfName key pair.1 pair.2 (faults 0) >>=
        fun _ => store.mergeAllWithExpiry cfName key pairs
          fun n => faults (n + 1)) data = _ at succeeded
      rw [Method.bind_apply] at succeeded
      rcases first : store.mergeWithExpiry cfName key pair.1 pair.2 (faults 0)
        data with ⟨e | done, middle⟩
      · rw [first] at succeeded
        cases succeeded
      rw [first] at succeeded
      obtain ⟨bytes, encoded, rfl⟩ := Store.mergeWithExpiry_ok first
      obtain ⟨written, others, appended⟩ := inductionHypothesis succeeded
      refine ⟨(toBeBytes pair.2 ++ bytes) :: written,
        .cons ⟨bytes, encoded, rfl⟩ others, ?_⟩
      rw [appended, Db.record_apply, if_pos ⟨rfl, Std.ReflCmp.compare_self⟩]
      simp [WriteOp.effect]

variable [DeserializeOwned (MergeValue P)]

theorem operandExpiry_encoded (expireTime : UInt64) (bytes : Bytes) :
    operandExpiry (toBeBytes expireTime ++ bytes) = expireTime := by
  rw [← fromBeBytes_header, List.take_left' (length_toBeBytes _),
    fromBeBytes_toBeBytes]

theorem operandValue_encoded (expireTime : UInt64) (bytes : Bytes) :
    operandValue (toBeBytes expireTime ++ bytes) = bytes :=
  List.drop_left' (length_toBeBytes _)

omit [DeserializeOwned (MergeValue P)] in
theorem Encodes.expiries {pairs : List (MergeValue P × UInt64)}
    {operands : List Bytes} (encodes : Encodes pairs operands) :
    operands.map operandExpiry = pairs.map Prod.snd := by
  induction encodes with
  | nil => rfl
  | cons first _ inductionHypothesis =>
      obtain ⟨bytes, _, rfl⟩ := first
      rw [List.map_cons, List.map_cons, operandExpiry_encoded,
        inductionHypothesis]

omit [DeserializeOwned (MergeValue P)] in
theorem Encodes.headers {pairs : List (MergeValue P × UInt64)}
    {operands : List Bytes} (encodes : Encodes pairs operands) :
    HaveHeaders operands := by
  induction encodes with
  | nil => exact List.forall_mem_nil _
  | cons first _ inductionHypothesis =>
      obtain ⟨bytes, _, rfl⟩ := first
      have ownHeader (expireTime : UInt64) :
          ¬ (toBeBytes expireTime ++ bytes).length < 8 := by
        simp
      exact List.forall_mem_cons.mpr ⟨ownHeader _, inductionHypothesis⟩

theorem Encodes.decodes (roundTrips : RoundTrips (MergeValue P))
    {pairs : List (MergeValue P × UInt64)} {operands : List Bytes}
    (encodes : Encodes pairs operands) :
    (operands.map operandValue).map deserializeValue =
      (pairs.map Prod.fst).map .ok := by
  induction encodes with
  | nil => rfl
  | cons first _ inductionHypothesis =>
      obtain ⟨bytes, encoded, rfl⟩ := first
      rw [List.map_cons, List.map_cons, List.map_cons, List.map_cons,
        operandValue_encoded, inductionHypothesis,
        deserializeValue_of_serialized roundTrips encoded]

/-- What the second check makes of operands that were written with
`merge_with_expiry`. -/
theorem Encodes.validated (roundTrips : RoundTrips (MergeValue P))
    {pairs : List (MergeValue P × UInt64)} (nonempty : pairs ≠ [])
    (sameOperator : OneOperator (pairs.map Prod.fst)) {operands : List Bytes}
    (encodes : Encodes pairs operands) :
    ∃ expireTime,
      validateExpirableMergevaluesAssociativity operands =
        some (.ok (pairs.map Prod.fst, expireTime)) ∧
      (∃ pair ∈ pairs, pair.2 = expireTime) ∧
        ∀ pair ∈ pairs, pair.2 ≤ expireTime := by
  have written : operands ≠ [] := by
    intro empty
    subst empty
    cases encodes
    exact nonempty rfl
  have expiries := encodes.expiries
  obtain ⟨expireTime, ⟨operand, member, attained⟩, bound⟩ :
      ∃ expireTime, LargestExpiry operands expireTime := by
    cases operands with
    | nil => exact absurd rfl written
    | cons first operands => exact ⟨_, largestExpiry_foldl first⟩
  refine ⟨expireTime, ?_, ?_, ?_⟩
  · exact (validateExpirable_ok_iff written encodes.headers).mpr
      ⟨⟨encodes.decodes roundTrips, sameOperator⟩,
        ⟨operand, member, attained⟩, bound⟩
  · have among : operandExpiry operand ∈ pairs.map Prod.snd := by
      rw [← expiries]
      exact List.mem_map_of_mem member
    rw [attained] at among
    exact List.mem_map.mp among
  · intro pair among
    have found : pair.2 ∈ operands.map operandExpiry := by
      rw [expiries]
      exact List.mem_map_of_mem among
    obtain ⟨other, otherMember, same⟩ := List.mem_map.mp found
    rw [← same]
    exact bound other otherMember

end Merges

/-- Both checks return what the operands decode to, in order, exactly when they
decode with one operator, the second one with the largest header; the order of
the operands matters neither to success nor to the expiry; and operands written
with `merge_with_expiry` come back as they were. -/
theorem validators_meaning {V : Type} [DeserializeOwned (MergeValue V)] :
    (∀ operands : List Bytes, operands ≠ [] → ∀ values : List (MergeValue V),
      validateMergevaluesAssociativity operands = some (.ok values) ↔
        Unites operands values) ∧
    (∀ operands : List Bytes, operands ≠ [] → HaveHeaders operands →
      ∀ (values : List (MergeValue V)) (expireTime : UInt64),
        validateExpirableMergevaluesAssociativity operands =
            some (.ok (values, expireTime)) ↔
          Unites (operands.map operandValue) values ∧
            LargestExpiry operands expireTime) ∧
    (∀ operands others : List Bytes, operands ≠ [] → operands.Perm others →
      ((∃ values : List (MergeValue V),
          validateMergevaluesAssociativity operands = some (.ok values)) ↔
        ∃ values : List (MergeValue V),
          validateMergevaluesAssociativity others = some (.ok values)) ∧
      (HaveHeaders operands → ∀ expireTime : UInt64,
        (∃ values : List (MergeValue V),
          validateExpirableMergevaluesAssociativity operands =
            some (.ok (values, expireTime))) ↔
        ∃ values : List (MergeValue V),
          validateExpirableMergevaluesAssociativity others =
            some (.ok (values, expireTime)))) ∧
    ∀ [Serialize (MergeValue V)], RoundTrips (MergeValue V) →
      ∀ {cmps : String → Comparator} [∀ cf, Std.TransCmp (cmps cf)] {K : Type}
        [AsBytes K] (store : Store) (cfName : String) (key : K)
        (pairs : List (MergeValue V × UInt64)) (faults : Nat → Option Fault)
        (data after : Db cmps),
        pairs ≠ [] → OneOperator (pairs.map Prod.fst) →
          store.mergeAllWithExpiry cfName key pairs faults data =
              (.ok (), after) →
            ∃ written expireTime,
              after.record ⟨cfName, AsBytes.asBytes key⟩ =
                { data.record ⟨cfName, AsBytes.asBytes key⟩ with
                  operands :=
                    (data.record ⟨cfName, AsBytes.asBytes key⟩).operands ++
                      written } ∧
              validateExpirableMergevaluesAssociativity written =
                some (.ok (pairs.map Prod.fst, expireTime)) ∧
              (∃ pair ∈ pairs, pair.2 = expireTime) ∧
                ∀ pair ∈ pairs, pair.2 ≤ expireTime := by
  refine ⟨?_, ?_, ?_, ?_⟩
  · intro operands nonempty values
    exact validateMergevaluesAssociativity_ok_iff nonempty
  · intro operands nonempty headers values expireTime
    exact validateExpirable_ok_iff nonempty headers
  · intro operands others nonempty perm
    have othersNonempty : others ≠ [] := by
      intro empty
      subst empty
      exact nonempty perm.eq_nil
    constructor
    · simp only [validateMergevaluesAssociativity_ok_iff nonempty,
        validateMergevaluesAssociativity_ok_iff othersNonempty]
      exact exists_unites_perm perm
    · intro headers expireTime
      have othersHeaders : HaveHeaders others :=
        fun operand member => headers operand (perm.mem_iff.mpr member)
      simp only [validateExpirable_ok_iff nonempty headers,
        validateExpirable_ok_iff othersNonempty othersHeaders, exists_and_right]
      rw [exists_unites_perm (perm.map operandValue), largestExpiry_perm perm]
  · intro _ roundTrips cmps _ K _ store cfName key pairs faults data after
      nonempty sameOperator succeeded
    obtain ⟨written, encodes, appended⟩ :=
      Store.mergeAllWithExpiry_appends succeeded
    obtain ⟨expireTime, returned, attained, bound⟩ :=
      encodes.validated roundTrips nonempty sameOperator
    exact ⟨written, expireTime, appended, returned, attained, bound⟩

/-- The name rmp-serde writes for an operator. -/
def MergeValueOperator.toMessagePack : MergeValueOperator → Bytes
  | .add => [0xa3, 0x41, 0x64, 0x64]
  | .remove => [0xa6, 0x52, 0x65, 0x6d, 0x6f, 0x76, 0x65]
  | .union => [0xa5, 0x55, 0x6e, 0x69, 0x6f, 0x6e]
  | .intersect => [0xa9, 0x49, 0x6e, 0x74, 0x65, 0x72, 0x73, 0x65, 0x63, 0x74]

/-- A merge value with a number below 128, as rmp-serde writes it; larger numbers
are not encoded here. -/
def MergeValue.toMessagePack (value : MergeValue UInt8) : Except String Bytes :=
  if value.patch < 128 then
    .ok ([0x92] ++ value.operator.toMessagePack ++ [value.patch])
  else .error "out of range"

def MergeValue.fromMessagePack : Bytes → Except String (MergeValue UInt8)
  | [0x92, 0xa3, 0x41, 0x64, 0x64, patch] => .ok ⟨.add, patch⟩
  | [0x92, 0xa6, 0x52, 0x65, 0x6d, 0x6f, 0x76, 0x65, patch] =>
      .ok ⟨.remove, patch⟩
  | [0x92, 0xa5, 0x55, 0x6e, 0x69, 0x6f, 0x6e, patch] => .ok ⟨.union, patch⟩
  | [0x92, 0xa9, 0x49, 0x6e, 0x74, 0x65, 0x72, 0x73, 0x65, 0x63, 0x74, patch] =>
      .ok ⟨.intersect, patch⟩
  | _ => .error "invalid type"

/-- Two merges into one key, the first with the larger expiry. -/
theorem validators_meaning_two :
    let _encoder : Serialize (MergeValue UInt8) := ⟨MergeValue.toMessagePack⟩
    let _decoder : DeserializeOwned (MergeValue UInt8) :=
      ⟨MergeValue.fromMessagePack⟩
    let store : Store := .cfStore ⟨⟨["default"], fun _ _ _ _ => none⟩⟩
    ∃ (after : ByteDb) (written : List Bytes) (expireTime : UInt64),
      after.record ⟨"default", [97]⟩ =
        { (Db.empty : ByteDb).record ⟨"default", [97]⟩ with
          operands := ((Db.empty : ByteDb).record ⟨"default", [97]⟩).operands ++
            written } ∧
      store.mergeAllWithExpiry "default" ([97] : Bytes)
        [((⟨.add, 1⟩ : MergeValue UInt8), (300 : UInt64)), (⟨.add, 2⟩, 7)]
        (fun _ => none) Db.empty = (.ok (), after) ∧
      validateExpirableMergevaluesAssociativity written =
        some (.ok ([(⟨.add, 1⟩ : MergeValue UInt8), ⟨.add, 2⟩],
          expireTime)) := by
  intro _encoder _decoder store
  have roundTrips : RoundTrips (MergeValue UInt8) := by
    intro value bytes encoded
    change MergeValue.toMessagePack value = .ok bytes at encoded
    rw [MergeValue.toMessagePack] at encoded
    split at encoded
    · cases encoded
      obtain ⟨operator, patch⟩ := value
      cases operator <;> rfl
    · cases encoded
  obtain ⟨written, expireTime, appended, returned, _⟩ :=
    validators_meaning.2.2.2 roundTrips store "default" ([97] : Bytes)
      [(⟨.add, 1⟩, 300), (⟨.add, 2⟩, 7)] (fun _ => none) (Db.empty : ByteDb) _
      (List.cons_ne_nil _ _) ⟨.add, by simp⟩ rfl
  exact ⟨_, written, expireTime, appended, rfl, returned⟩

section Panics

variable {V : Type} [DeserializeOwned (MergeValue V)] {operands : List Bytes}

/-- The first operand without a header comes after operands of which `P` is
true. -/
def ShortAfter (P : List Bytes → Prop) (operands : List Bytes) : Prop :=
  ∃ before short after, operands = before ++ short :: after ∧
    HaveHeaders before ∧ short.length < 8 ∧ P before

theorem not_shortAfter_nil (P : List Bytes → Prop) : ¬ ShortAfter P [] := by
  intro found
  obtain ⟨before, short, after, split, _⟩ := found
  cases before <;> cases split

theorem shortAfter_of_short {P : List Bytes → Prop} {operand : Bytes}
    (short : operand.length < 8) :
    ShortAfter P (operand :: operands) ↔ P [] := by
  constructor
  · intro found
    obtain ⟨before, _, after, split, headers, _, holds⟩ := found
    cases before with
    | nil => exact holds
    | cons first before =>
        cases split
        exact absurd short (headers _ List.mem_cons_self)
  · intro holds
    exact ⟨[], operand, operands, rfl, List.forall_mem_nil _, short, holds⟩

theorem shortAfter_of_header {P : List Bytes → Prop} {operand : Bytes}
    (header : ¬ operand.length < 8) :
    ShortAfter P (operand :: operands) ↔
      ShortAfter (fun before => P (operand :: before)) operands := by
  constructor
  · intro found
    obtain ⟨before, short, after, split, headers, isShort, holds⟩ := found
    cases before with
    | nil =>
        cases split
        exact absurd isShort header
    | cons first before =>
        cases split
        exact ⟨before, short, after, rfl,
          (List.forall_mem_cons.mp headers).2, isShort, holds⟩
  · intro found
    obtain ⟨before, short, after, rfl, headers, isShort, holds⟩ := found
    exact ⟨operand :: before, short, after, rfl,
      List.forall_mem_cons.mpr ⟨header, headers⟩, isShort, holds⟩

theorem ShortAfter.congr {P Q : List Bytes → Prop}
    (same : ∀ before, P before ↔ Q before) :
    ShortAfter P operands ↔ ShortAfter Q operands := by
  simp only [ShortAfter, same]

theorem not_shortAfter {P : List Bytes → Prop}
    (never : ∀ before, ¬ P before) : ¬ ShortAfter P operands := by
  intro found
  obtain ⟨before, _, _, _, _, _, holds⟩ := found
  exact never before holds

theorem endsBeforeShort_iff :
    EndsBeforeShort V operands ↔
      ¬ ShortAfter (fun before => ∃ values : List (MergeValue V),
        Unites (before.map operandValue) values) operands := by
  constructor
  · intro ends found
    obtain ⟨before, short, after, split, headers, isShort, values, united⟩ :=
      found
    exact ends before short after split headers isShort values united
  · intro noShort before short after split headers isShort values united
    exact noShort ⟨before, short, after, split, headers, isShort, values, united⟩

/-- The loop panics at a short operand, if it comes that far. -/
theorem validateExpirableFrom_none_iff {operator : MergeValueOperator}
    {expireTime : UInt64} {values : List (MergeValue V)} :
    validateExpirableMergevaluesFrom operator operands expireTime values = none ↔
      ShortAfter (fun before => ∃ rest : List (MergeValue V),
        UnitesUnder operator (before.map operandValue) rest) operands := by
  induction operands generalizing expireTime values with
  | nil =>
      rw [validateExpirableMergevaluesFrom]
      exact iff_of_false (Option.some_ne_none _) (not_shortAfter_nil _)
  | cons operand operands inductionHypothesis =>
      rw [validateExpirableMergevaluesFrom]
      by_cases short : operand.length < 8
      · rw [ofSlice_of_short short, shortAfter_of_short short]
        exact iff_of_true rfl ⟨[], unitesUnder_nil.mpr rfl⟩
      rw [ofSlice_of_header short, shortAfter_of_header short]
      simp only [ValueWithExpiry.get, List.map_cons]
      cases decoded : (deserializeValue (operandValue operand) :
        StoreResult (MergeValue V)) with
      | error e =>
          apply iff_of_false (Option.some_ne_none _) (not_shortAfter _)
          intro before united
          obtain ⟨_, united⟩ := united
          exact not_unitesUnder_cons_of_error decoded united
      | ok value =>
          by_cases same : operator = value.operator
          · simp only [ne_eq, same, not_true_eq_false, if_false]
            rw [← same, inductionHypothesis]
            apply ShortAfter.congr
            intro before
            simp only [unitesUnder_cons_of_ok decoded]
            constructor
            · intro united
              obtain ⟨rest, united⟩ := united
              exact ⟨value :: rest, same.symm, rest, united, rfl⟩
            · intro united
              obtain ⟨_, _, rest, united, _⟩ := united
              exact ⟨rest, united⟩
          · simp only [ne_eq, same, not_false_eq_true, if_true]
            apply iff_of_false (Option.some_ne_none _) (not_shortAfter _)
            intro before united
            obtain ⟨_, united⟩ := united
            exact same ((unitesUnder_cons_of_ok decoded).mp united).1.symm

/-- The second check panics on no operand at all, and at a short one that it
reaches. -/
theorem validateExpirable_none_iff :
    validateExpirableMergevaluesAssociativity (V := V) operands = none ↔
      ¬ (operands ≠ [] ∧ EndsBeforeShort V operands) := by
  rw [endsBeforeShort_iff]
  cases operands with
  | nil => exact iff_of_true rfl fun defined => defined.1 rfl
  | cons operand operands =>
      rw [validateExpirableMergevaluesAssociativity]
      simp only [ne_eq, reduceCtorEq, not_false_eq_true, true_and, not_not]
      by_cases short : operand.length < 8
      · rw [ofSlice_of_short short, shortAfter_of_short short]
        exact iff_of_true rfl ⟨[], rfl, .add, by simp⟩
      rw [ofSlice_of_header short, shortAfter_of_header short]
      simp only [ValueWithExpiry.get, List.map_cons]
      cases decoded : (deserializeValue (operandValue operand) :
        StoreResult (MergeValue V)) with
      | error e =>
          apply iff_of_false (Option.some_ne_none _) (not_shortAfter _)
          intro before united
          obtain ⟨_, united⟩ := united
          exact not_unites_cons_of_error decoded united
      | ok value =>
          change validateExpirableMergevaluesFrom _ _ _ _ = none ↔ _
          rw [validateExpirableFrom_none_iff]
          apply ShortAfter.congr
          intro before
          simp only [unites_cons_of_ok decoded]
          constructor
          · intro united
            obtain ⟨rest, united⟩ := united
            exact ⟨value :: rest, rest, united, rfl⟩
          · intro united
            obtain ⟨_, rest, united, _⟩ := united
            exact ⟨rest, united⟩

/-- The first check returns on every list but the empty one; the second one
returns unless the list is empty or it reaches an operand that is shorter than a
header. -/
theorem validators_defined_iff (operands : List Bytes) :
    ((∃ result, validateMergevaluesAssociativity (V := V) operands =
        some result) ↔ operands ≠ []) ∧
      ((∃ result, validateExpirableMergevaluesAssociativity (V := V) operands =
        some result) ↔ operands ≠ [] ∧ EndsBeforeShort V operands) := by
  constructor
  · cases operands with
    | nil =>
        constructor
        · intro defined
          obtain ⟨_, returned⟩ := defined
          cases returned
        · intro nonempty
          exact absurd rfl nonempty
    | cons operand operands =>
        exact iff_of_true ⟨_, rfl⟩ (List.cons_ne_nil _ _)
  · rw [← Option.ne_none_iff_exists', ne_eq, validateExpirable_none_iff, not_not]

end Panics

/-- An operand of three bytes: the second check panics where the decoder of a
slice returns an error. -/
theorem validateExpirable_panics :
    let _decoder : DeserializeOwned (MergeValue UInt8) :=
      ⟨MergeValue.fromMessagePack⟩
    validateExpirableMergevaluesAssociativity (V := UInt8) [[1, 2, 3]] = none ∧
      validateExpirableMergevaluesAssociativity (V := UInt8) [] = none ∧
      validateMergevaluesAssociativity (V := UInt8) [] = none ∧
      ∃ e, ValueWithExpiry.fromSlice (V := MergeValue UInt8) [1, 2, 3] =
        .error e :=
  ⟨rfl, rfl, rfl, _, rfl⟩

end RockSolid
