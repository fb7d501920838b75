/-
Module: RockSolid.Semantics.StopIsFinal
Layer: Semantics
Purpose: What can be observed of the iterators of the raw and the deserializing
  mode when they are pulled again after the control answered Stop: the raw
  stream, and the calls of the control and of the deserializer.
Trusted boundary: a statement of intent
Main exports: restAfterStop, recordingDeserializer, RawItemsIter.observed,
  ControlledIter.observed
-/
import RockSolid.Semantics.ReferenceScan

namespace RockSolid

variable {S T OutK OutV : Type}

/-- Where the control skips entries of the raw stream up to one on which it
answers Stop: what follows that entry. -/
def restAfterStop (control : ControlFn S) (index : Nat) :
    RawStream → S → Option RawStream
  | [], _ => none
  | .error _ :: _, _ => none
  | .ok (key, val) :: rest, captured =>
      match control captured key val index with
      | (.stop, _) => some rest
      | (.skip, captured) => restAfterStop control index rest captured
      | (.keep, _) => none

/-- A deserializer that also writes down what it was called on. -/
def recordingDeserializer (deserializer : DeserializerFn T OutK OutV) :
    DeserializerFn (T × List (Bytes × Bytes)) OutK OutV :=
  fun (captured, calls) key val =>
    let (item, captured) := deserializer captured key val
    (item, (captured, calls ++ [(key, val)]))

namespace RawItemsIter

/-- What follows the entry on which the control answers Stop, where it does so
before it keeps another one. -/
def restAfterStop (iter : RawItemsIter S) : Option RawStream :=
  iter.control.bind fun control =>
    RockSolid.restAfterStop control iter.itemsKeptCount iter.rawIter
      iter.captured

/-- The raw stream, and the calls of the control. -/
def observed (iter : RawItemsIter (S × List ControlCall)) :
    RawStream × List ControlCall :=
  (iter.rawIter, iter.captured.2)

end RawItemsIter

namespace ControlledIter

/-- What follows the entry on which the control answers Stop, where it does so
before it keeps another one. -/
def restAfterStop (iter : ControlledIter S T OutK OutV) : Option RawStream :=
  iter.control.bind fun control =>
    RockSolid.restAfterStop control iter.itemsKeptCount iter.raw iter.captured

/-- The raw stream, the calls of the control and those of the deserializer. -/
def observed (iter : ControlledIter (S × List ControlCall)
    (T × List (Bytes × Bytes)) OutK OutV) :
    RawStream × List ControlCall × List (Bytes × Bytes) :=
  (iter.raw, iter.captured.2, iter.deserializerCaptured.2)

end ControlledIter

end RockSolid
