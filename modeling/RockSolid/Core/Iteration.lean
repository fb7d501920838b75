/-
Module: RockSolid.Core.Iteration
Layer: Core
Purpose: Iteration configurations, the iterators they build, and the helper
  that executes them (src/iter/mod.rs, src/iter/helpers.rs).  A `FnMut` closure
  is a function of its captured state that returns the new state.
Trusted boundary: human-reviewed model of the source
Main exports: IterConfig, IterationMode, IterationResult, ControlledIter,
  RawItemsIter, controlOnlyLoop, prefixEnforcementControl, effectiveControl, execute
-/
import RockSolid.Core.Serialization
import RockSolid.Engine.RawIterator
import RockSolid.Foundation.PullIterator

namespace RockSolid

open Foundation

/-- A control closure over captured state `S`, called with a key, a value and
the number of items kept so far. -/
abbrev ControlFn (S : Type) :=
  S → Bytes → Bytes → Nat → IterationControlDecision × S

/-- A deserializer closure over captured state `T`. -/
abbrev DeserializerFn (T OutK OutV : Type) :=
  T → Bytes → Bytes → StoreResult (OutK × OutV) × T

/-- `IterationMode` of src/iter/mod.rs. -/
inductive IterationMode (T OutK OutV : Type) where
  | deserialize (deserializer : DeserializerFn T OutK OutV) (captured : T)
  | raw
  | controlOnly

/-- `IterConfig` of src/iter/mod.rs.  `prefixKey` is its field `prefix`. -/
structure IterConfig (SerKey S T OutK OutV : Type) where
  cfName : String
  prefixKey : Option SerKey
  start : Option SerKey
  reverse : Bool
  control : Option (ControlFn S)
  captured : S
  mode : IterationMode T OutK OutV

namespace IterConfig

variable {SerKey S T OutK OutV : Type}

/-- `IterConfig::new_deserializing`. -/
def newDeserializing (cfName : String) (prefixKey start : Option SerKey)
    (reverse : Bool) (control : Option (ControlFn S)) (captured : S)
    (deserializer : DeserializerFn T OutK OutV) (deserializerCaptured : T) :
    IterConfig SerKey S T OutK OutV :=
  { cfName, prefixKey, start, reverse, control, captured,
    mode := .deserialize deserializer deserializerCaptured }

/-- `IterConfig::new_raw`. -/
def newRaw (cfName : String) (prefixKey start : Option SerKey) (reverse : Bool)
    (control : Option (ControlFn S)) (captured : S) :
    IterConfig SerKey S Unit Bytes Bytes :=
  { cfName, prefixKey, start, reverse, control, captured, mode := .raw }

/-- `IterConfig::new_control_only`: the control function is not optional. -/
def newControlOnly (cfName : String) (prefixKey start : Option SerKey)
    (reverse : Bool) (control : ControlFn S) (captured : S) :
    IterConfig SerKey S Unit Unit Unit :=
  { cfName, prefixKey, start, reverse, control := some control, captured,
    mode := .controlOnly }

end IterConfig

/-- `ControlledIter` of src/iter/mod.rs. -/
structure ControlledIter (S T OutK OutV : Type) where
  raw : RawStream
  control : Option (ControlFn S)
  captured : S
  deserializer : DeserializerFn T OutK OutV
  deserializerCaptured : T
  itemsKeptCount : Nat

namespace ControlledIter

variable {S T OutK OutV : Type}

/-- What `next` does with an entry it keeps. -/
def deliver (iter : ControlledIter S T OutK OutV) (key val : Bytes)
    (rest : RawStream) :
    Option (StoreResult (OutK × OutV)) × ControlledIter S T OutK OutV :=
  let (item, captured) := iter.deserializer iter.deserializerCaptured key val
  (some item, { iter with
    raw := rest
    deserializerCaptured := captured
    itemsKeptCount := iter.itemsKeptCount + 1 })

/-- The loop of `ControlledIter::next` over the rest of the raw iterator. -/
def nextFrom (iter : ControlledIter S T OutK OutV) : RawStream →
    Option (StoreResult (OutK × OutV)) × ControlledIter S T OutK OutV
  | [] => (none, { iter with raw := [] })
  | .error e :: rest => (some (.error (.rocksDb e)), { iter with raw := rest })
  | .ok (key, val) :: rest =>
      match iter.control with
      | some control =>
          match control iter.captured key val iter.itemsKeptCount with
          | (.stop, captured) => (none, { iter with raw := rest, captured })
          | (.skip, captured) => nextFrom { iter with raw := rest, captured } rest
          | (.keep, captured) => deliver { iter with captured } key val rest
      | none => deliver iter key val rest

/-- `ControlledIter::next`. -/
def next (iter : ControlledIter S T OutK OutV) :
    Option (StoreResult (OutK × OutV)) × ControlledIter S T OutK OutV :=
  iter.nextFrom iter.raw

theorem nextFrom_raw_length {iter rest : ControlledIter S T OutK OutV}
    {raw : RawStream} {item : StoreResult (OutK × OutV)}
    (advanced : iter.nextFrom raw = (some item, rest)) :
    rest.raw.length < raw.length := by
  induction raw generalizing iter with
  | nil => simp [nextFrom] at advanced
  | cons entry raw inductionHypothesis =>
      rw [nextFrom.eq_def] at advanced
      split at advanced
      · contradiction
      · next same =>
          cases same
          cases advanced
          simp
      · next same =>
          cases same
          split at advanced
          · split at advanced
            · simp at advanced
            · exact Nat.lt_succ_of_lt (inductionHypothesis advanced)
            · cases advanced
              simp
          · cases advanced
            simp

instance : PullIterator (ControlledIter S T OutK OutV)
    (StoreResult (OutK × OutV)) where
  next := next
  remaining iter := iter.raw.length
  remaining_lt advanced := nextFrom_raw_length advanced

end ControlledIter

/-- `IterRawInternalLocal`, the iterator of the raw mode. -/
structure RawItemsIter (S : Type) where
  rawIter : RawStream
  control : Option (ControlFn S)
  captured : S
  itemsKeptCount : Nat

namespace RawItemsIter

variable {S : Type}

/-- The loop of `IterRawInternalLocal::next` over the rest of the raw
iterator. -/
def nextFrom (iter : RawItemsIter S) : RawStream →
    Option (StoreResult (Bytes × Bytes)) × RawItemsIter S
  | [] => (none, { iter with rawIter := [] })
  | .error e :: rest =>
      (some (.error (.rocksDb e)), { iter with rawIter := rest })
  | .ok (key, val) :: rest =>
      match iter.control with
      | some control =>
          match control iter.captured key val iter.itemsKeptCount with
          | (.stop, captured) => (none, { iter with rawIter := rest, captured })
          | (.skip, captured) =>
              nextFrom { iter with rawIter := rest, captured } rest
          | (.keep, captured) =>
              (some (.ok (key, val)), { iter with
                rawIter := rest
                captured
                itemsKeptCount := iter.itemsKeptCount + 1 })
      | none =>
          (some (.ok (key, val)), { iter with
            rawIter := rest
            itemsKeptCount := iter.itemsKeptCount + 1 })

/-- `IterRawInternalLocal::next`. -/
def next (iter : RawItemsIter S) :
    Option (StoreResult (Bytes × Bytes)) × RawItemsIter S :=
  iter.nextFrom iter.rawIter

theorem nextFrom_rawIter_length {iter rest : RawItemsIter S} {raw : RawStream}
    {item : StoreResult (Bytes × Bytes)}
    (advanced : iter.nextFrom raw = (some item, rest)) :
    rest.rawIter.length < raw.length := by
  induction raw generalizing iter with
  | nil => simp [nextFrom] at advanced
  | cons entry raw inductionHypothesis =>
      rw [nextFrom.eq_def] at advanced
      split at advanced
      · contradiction
      · next same =>
          cases same
          cases advanced
          simp
      · next same =>
          cases same
          split at advanced
          · split at advanced
            · simp at advanced
            · exact Nat.lt_succ_of_lt (inductionHypothesis advanced)
            · cases advanced
              simp
          · cases advanced
            simp

instance : PullIterator (RawItemsIter S) (StoreResult (Bytes × Bytes)) where
  next := next
  remaining iter := iter.rawIter.length
  remaining_lt advanced := nextFrom_rawIter_length advanced

end RawItemsIter

/-- `IterationResult` of src/iter/mod.rs. -/
inductive IterationResult (S T OutK OutV : Type) where
  | effectCompleted
  | rawItems (iter : RawItemsIter S)
  | deserializedItems (iter : ControlledIter S T OutK OutV)

section Execute

variable {SerKey S T OutK OutV : Type}

/-- The `for` loop of the control-only mode; the captured state is returned on
every path, as the closure's effects outlive the loop. -/
def controlOnlyLoop (control : ControlFn S) :
    RawStream → S → Nat → StoreResult Unit × S
  | [], captured, _ => (.ok (), captured)
  | .error e :: _, captured, _ => (.error (.rocksDb e), captured)
  | .ok (key, val) :: rest, captured, itemsKeptCount =>
      match control captured key val itemsKeptCount with
      | (.stop, captured) => (.ok (), captured)
      | (.skip, captured) => controlOnlyLoop control rest captured itemsKeptCount
      | (.keep, captured) =>
          controlOnlyLoop control rest captured (itemsKeptCount + 1)

/-- `prefix_enforcement_control`. -/
def prefixEnforcementControl (prefixBytes key : Bytes) :
    IterationControlDecision :=
  if prefixBytes.isPrefixOf key then .keep else .stop

/-- The effective control: prefix enforcement first, then the user's control. -/
def effectiveControl (serPrefix : Option Bytes)
    (userControl : Option (ControlFn S)) : Option (ControlFn S) :=
  match serPrefix with
  | none => userControl
  | some prefixBytes =>
      match userControl with
      | some control => some fun captured key val index =>
          match prefixEnforcementControl prefixBytes key with
          | .keep => control captured key val index
          | decision => (decision, captured)
      | none => some fun captured key _ _ =>
          (prefixEnforcementControl prefixBytes key, captured)

/-- The iterator mode passed to the general factory. -/
def rocksdbIteratorMode (serStart serPrefix : Option Bytes) (reverse : Bool) :
    IteratorMode :=
  let direction := if reverse then Direction.reverse else .forward
  match serStart with
  | some startBytes => .fromKey startBytes direction
  | none =>
      match serPrefix with
      | some prefixBytes => .fromKey prefixBytes direction
      | none => if reverse then .atEnd else .start

/-- The raw iterator: the prefix factory serves a prefix without a start key,
the general factory everything else. -/
def baseIterator (serPrefix serStart : Option Bytes) (reverse : Bool)
    (generalFactory : IteratorMode → StoreResult RawStream)
    (prefixFactory : Bytes → StoreResult RawStream) : StoreResult RawStream :=
  match serPrefix, serStart with
  | some prefixBytes, none => prefixFactory prefixBytes
  | _, _ => generalFactory (rocksdbIteratorMode serStart serPrefix reverse)

/-- `config.prefix.as_ref().map(serialize_key).transpose()`. -/
def serializeOptionalKey [AsBytes SerKey] :
    Option SerKey → StoreResult (Option Bytes)
  | none => .ok none
  | some key => (serializeKey key).map some

/-- Result processing of `IterationHelper::execute`. -/
def processResult (mode : IterationMode T OutK OutV) (raw : RawStream)
    (control : Option (ControlFn S)) (captured : S) :
    StoreResult (IterationResult S T OutK OutV) × S :=
  match mode with
  | .deserialize deserializer deserializerCaptured =>
      (.ok (.deserializedItems
        { raw, control, captured, deserializer, deserializerCaptured,
          itemsKeptCount := 0 }), captured)
  | .raw =>
      (.ok (.rawItems { rawIter := raw, control, captured, itemsKeptCount := 0 }),
        captured)
  | .controlOnly =>
      match control with
      | some control =>
          let (result, captured) := controlOnlyLoop control raw captured 0
          (result.map fun _ => .effectCompleted, captured)
      | none => (.ok .effectCompleted, captured)

/-- `IterationHelper::execute`.  The second component is the captured state of
the control closure when `execute` returns; an iterator in the first component
carries its own copy on. -/
def execute [AsBytes SerKey] (config : IterConfig SerKey S T OutK OutV)
    (generalFactory : IteratorMode → StoreResult RawStream)
    (prefixFactory : Bytes → StoreResult RawStream) :
    StoreResult (IterationResult S T OutK OutV) × S :=
  let prepared : StoreResult (Option Bytes × RawStream) := do
    let serPrefix ← serializeOptionalKey config.prefixKey
    let serStart ← serializeOptionalKey config.start
    let raw ← baseIterator serPrefix serStart config.reverse generalFactory
      prefixFactory
    return (serPrefix, raw)
  match prepared with
  | .error e => (.error e, config.captured)
  | .ok (serPrefix, raw) =>
      processResult config.mode raw (effectiveControl serPrefix config.control)
        config.captured

end Execute

end RockSolid
