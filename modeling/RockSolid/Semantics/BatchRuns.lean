/-
Module: RockSolid.Semantics.BatchRuns
Layer: Semantics
Purpose: Runs of a batch writer: any sequence of staging calls, each free to
  fail, then one ending, then the `Drop` that always comes last.
Trusted boundary: human-reviewed model of how a writer is used
Main exports: BatchCall, BatchCall.operation, BatchEnding, CommittedOk,
  BatchWriter.stagingCall, BatchWriter.run, BatchWriter.acceptedOps,
  BatchWriter.finish
-/
import RockSolid.Core.BatchWriter
import RockSolid.Foundation.StagedRun
import RockSolid.Semantics.WriteCalls

namespace RockSolid

open Foundation

/-- The staging methods of a batch writer with their arguments. -/
inductive BatchCall : Type 1 where
  | write (call : WriteCall)
  | deleteRange {K : Type} (keys : AsBytes K) (startKey endKey : K)

/-- The batch operation a staging call asks for on a column family, or why its
value cannot be encoded. -/
def BatchCall.operation (cf : String) : BatchCall → StoreResult BatchOp
  | .write call => (call.record cf).map .write
  | .deleteRange _ startKey endKey =>
      .ok (.deleteRange cf (AsBytes.asBytes startKey) (AsBytes.asBytes endKey))

/-- How the owner of a writer ends it. -/
inductive BatchEnding where
  | commit (fault : Option Fault)
  | discard
  | drop
deriving DecidableEq, Repr

/-- A commit returned `Ok`. -/
def CommittedOk (returned : Option (StoreResult Unit)) : Prop :=
  returned = some (.ok ())

namespace BatchWriter

/-- A write operation on a batch writer. -/
def writeCall : WriteCall → WriterMethod Unit
  | .put _ _ key val => set key val
  | .putRaw _ key rawVal => setRaw key rawVal
  | .putWithExpiry _ _ key val expireTime => setWithExpiry key val expireTime
  | .merge _ _ key mergeValue => merge key mergeValue
  | .mergeRaw _ key rawMergeOp => mergeRaw key rawMergeOp
  | .delete _ key => delete key

/-- A staging call on a batch writer. -/
def stagingCall : BatchCall → WriterMethod Unit
  | .write call => writeCall call
  | .deleteRange _ startKey endKey => deleteRange startKey endKey

/-- The writer after a sequence of calls, whatever they returned. -/
def run : BatchWriter → List BatchCall → BatchWriter :=
  runCalls stagingCall

/-- The operations asked for by the calls that returned `Ok`, in call order. -/
def acceptedOps (cf : String) : BatchWriter → List BatchCall → List BatchOp :=
  accepted stagingCall (BatchCall.operation cf)

variable {cmps : String → Comparator}

/-- The ending and the `Drop` after it: what a commit returned, the writer, and
the contents. -/
def finish (data : Db cmps) (ending : BatchEnding) (self : BatchWriter) :
    Option (StoreResult Unit) × BatchWriter × Db cmps :=
  match ending with
  | .commit fault =>
      let (result, self, data) := self.commit data fault
      (some result, self.drop, data)
  | .discard => (none, self.discard.drop, data)
  | .drop => (none, self.drop, data)

end BatchWriter

end RockSolid
