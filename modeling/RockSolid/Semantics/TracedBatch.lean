/-
Module: RockSolid.Semantics.TracedBatch
Layer: Semantics
Purpose: The `ManuallyDrop<WriteBatch>` field of the batch writer (src/batch.rs) as
  a resource.  The writer carries a trace of what is done to its batch; the batch
  is released when it has been taken out and its owner consumes or drops it, and
  dropping a `ManuallyDrop` releases nothing.
Trusted boundary: human-reviewed model of the source and of `ManuallyDrop`
Main exports: BatchEvent, TracedWriter, its staging calls, commit, discard, drop,
  TracedWriter.run, TracedWriter.finish
-/
import RockSolid.Semantics.BatchRuns
import RockSolid.Foundation.ReleaseTrace

namespace RockSolid

open Foundation

/-- What is done to the batch: `&mut *self.batch`, `ManuallyDrop::take`, and the
end of its life. -/
inductive BatchEvent where
  | derefMut
  | take
  | release
deriving DecidableEq, Repr

/-- A batch writer, and what was done to its batch. -/
structure TracedWriter where
  writer : BatchWriter
  events : List BatchEvent

namespace TracedWriter

variable {cmps : String → Comparator}

abbrev TracedMethod := Method StoreError TracedWriter

/-- `BatchWriter::new`. -/
def new (store : RocksDbCFStore) (cfName : String) : TracedWriter :=
  { writer := BatchWriter.new store cfName, events := [] }

def event (self : TracedWriter) (event : BatchEvent) : TracedWriter :=
  { self with events := self.events ++ [event] }

/-- A step of the writer that does not touch the `ManuallyDrop`. -/
def onWriter {α : Type} : BatchWriter.WriterMethod α → TracedMethod α :=
  Method.zoom writer fun self writer => { self with writer }

/-- `&mut *self.batch`. -/
def derefMut : TracedMethod Unit := fun self => (.ok (), self.event .derefMut)

/-- A staging method: the flag is checked and the arguments are encoded before
the batch is borrowed; a family that is not found is an error after it. -/
def stagingCall (call : BatchCall) : TracedMethod Unit := fun self =>
  (do
    onWriter BatchWriter.checkNotCommitted
    let op ← call.operation self.writer.cfName
    derefMut
    let _ ← onWriter BatchWriter.family
    onWriter (BatchWriter.add op) : TracedMethod Unit) self

/-- `commit`: the engine's `write` takes the batch by value, so that it is gone
when `write` returns, whatever it returns. -/
def commit (data : Db cmps) (fault : Option Fault) (self : TracedWriter) :
    StoreResult Unit × TracedWriter × Db cmps :=
  match onWriter BatchWriter.checkNotCommitted self with
  | (.error e, self) => (.error e, self, data)
  | (.ok (), self) =>
      let self := self.event .take
      let (written, data) := data.write self.writer.batch fault
      let self := self.event .release
      match written with
      | .error e => (.error (.rocksDb e), self, data)
      | .ok () =>
          (.ok (), { self with
            writer := { self.writer with committedOrDiscarded := true } }, data)

/-- `discard`: the batch is dropped with the variable it was moved to. -/
def discard (self : TracedWriter) : TracedWriter :=
  let self := self.event .take
  let self :=
    { self with writer := { self.writer with committedOrDiscarded := true } }
  self.event .release

/-- `Drop for BatchWriter`, then the fields: a `ManuallyDrop` does not drop what
it holds. -/
def drop (self : TracedWriter) : TracedWriter :=
  { self with writer := self.writer.drop }

/-- The writer after a sequence of calls, whatever they returned. -/
def run : TracedWriter → List BatchCall → TracedWriter :=
  runCalls stagingCall

/-- The ending and the `Drop` after it. -/
def finish (data : Db cmps) (ending : BatchEnding) (self : TracedWriter) :
    Option (StoreResult Unit) × TracedWriter × Db cmps :=
  match ending with
  | .commit fault =>
      let (result, self, data) := self.commit data fault
      (some result, self.drop, data)
  | .discard => (none, self.discard.drop, data)
  | .drop => (none, self.drop, data)

end TracedWriter

end RockSolid
