/-
Module: RockSolid.Semantics.ReferenceScan
Layer: Semantics
Purpose: One scan that says what every iteration mode is meant to do with a raw
  stream: which entries are shown to the user control, which are kept, and
  where an engine error surfaces.
Trusted boundary: a statement of intent, compared with the source's loops in
  RockSolid.Proofs.IterationModes
Main exports: ControlCall, ScanOutcome, referenceScan, recording,
  rawStreamOf, deserializeAll
-/
import RockSolid.Core.Iteration

namespace RockSolid

/-- One call of the user control: key, value, number of entries kept so far. -/
abbrev ControlCall := Bytes × Bytes × Nat

/-- A finite stream of entries, possibly ending in one engine error. -/
def rawStreamOf (entries : List (Bytes × Bytes))
    (failure : Option RocksError) : RawStream :=
  entries.map .ok ++ failure.toList.map .error

/-- What a scan did. -/
structure ScanOutcome (S : Type) where
  calls : List ControlCall
  kept : List (Bytes × Bytes)
  /-- The engine error, when it was reached before stopping. -/
  failure : Option RocksError
  captured : S

/-- The reference scan.  It ends at the first key outside the prefix, which the
user control never sees, or where the user control says so. -/
def referenceScan {S : Type} (serPrefix : Option Bytes)
    (userControl : Option (ControlFn S)) (failure : Option RocksError) :
    List (Bytes × Bytes) → Nat → S → ScanOutcome S
  | [], _, captured => { calls := [], kept := [], failure, captured }
  | (key, val) :: rest, index, captured =>
      if serPrefix.all (·.isPrefixOf key) then
        match userControl with
        | none =>
            let later :=
              referenceScan serPrefix userControl failure rest (index + 1)
                captured
            { later with kept := (key, val) :: later.kept }
        | some control =>
            match control captured key val index with
            | (.stop, captured) =>
                { calls := [(key, val, index)], kept := [], failure := none,
                  captured }
            | (.skip, captured) =>
                let later :=
                  referenceScan serPrefix userControl failure rest index captured
                { later with calls := (key, val, index) :: later.calls }
            | (.keep, captured) =>
                let later :=
                  referenceScan serPrefix userControl failure rest (index + 1)
                    captured
                { later with
                  calls := (key, val, index) :: later.calls
                  kept := (key, val) :: later.kept }
      else { calls := [], kept := [], failure := none, captured }

/-- A user control that also writes down how it was called. -/
def recording {S : Type} (control : ControlFn S) :
    ControlFn (S × List ControlCall) :=
  fun (captured, calls) key val index =>
    let (decision, captured) := control captured key val index
    (decision, (captured, calls ++ [(key, val, index)]))

/-- The deserializer's results on a list of entries, in order. -/
def deserializeAll {T OutK OutV : Type}
    (deserializer : DeserializerFn T OutK OutV) :
    List (Bytes × Bytes) → T → List (StoreResult (OutK × OutV)) × T
  | [], captured => ([], captured)
  | (key, val) :: rest, captured =>
      let (item, captured) := deserializer captured key val
      let (items, captured) := deserializeAll deserializer rest captured
      (item :: items, captured)

/-- How an engine error ends the items of a drained iterator. -/
def failureItem {A : Type} (failure : Option RocksError) :
    List (StoreResult A) :=
  failure.toList.map fun e => .error (.rocksDb e)

end RockSolid
