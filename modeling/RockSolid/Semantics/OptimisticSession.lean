/-
Module: RockSolid.Semantics.OptimisticSession
Layer: Semantics
Purpose: One optimistic transaction among other clients.  A session interleaves
  the calls of the transaction's owner with batches that others commit.  The
  owner is either a context or the closure of a retrying call, which works on
  the native transaction itself.  What the engine shows the owner is collected
  as sightings, each with the staged writes and the commit history of its
  moment.
Trusted boundary: human-reviewed model of how a transaction is used
Main exports: NativeSession, ContextSession, ClosureSession.after, Sighting,
  sightings, Observation, observations, ShowsCreation, LeftAsCreated,
  ContextSession.StaleRead, ContextSession.Refused
-/
import RockSolid.Core.Optimistic
import RockSolid.Engine.CommitLog
import RockSolid.Engine.Observation
import RockSolid.Semantics.ContextRuns

namespace RockSolid

open Foundation KeyedStore

/-- A native transaction and the commit history of the database it works on. -/
structure NativeSession where
  txn : NativeTxn
  log : CommitLog

/-- An event of the transaction with the state it happened in. -/
structure Sighting where
  event : NativeEvent
  staged : List WriteOp
  log : CommitLog
deriving DecidableEq

/-- The events a step added, with the state before the step. -/
def NativeSession.sightingsUntil (before after : NativeSession) : List Sighting :=
  (after.txn.events.drop before.txn.events.length).map fun event =>
    { event, staged := before.txn.staged, log := before.log }

section Runs

variable {S P : Type*} (native : S → NativeSession) (after : S → P → S)

/-- Everything the engine shows along a sequence of steps. -/
def sightings : S → List P → List Sighting
  | _, [] => []
  | s, step :: rest =>
      (native s).sightingsUntil (native (after s step)) ++
        sightings (after s step) rest

/-- What a sighting tells about a key that the transaction has not written. -/
structure Observation where
  key : CfKey
  answer : Option Bytes
  log : CommitLog

/-- The observations of unwritten keys along a sequence of steps. -/
def observations (s : S) (steps : List P) : Set Observation :=
  { observation | ∃ sighting ∈ sightings native after s steps,
      Observes sighting.event observation.key observation.answer ∧
      ¬ Touches ByteDb sighting.staged observation.key ∧
      sighting.log = observation.log }

end Runs

/-- All observations show the contents that were committed when the transaction
was created. -/
def ShowsCreation (db : DbHandle) (created : ByteDb)
    (seen : Set Observation) : Prop :=
  ∀ observation ∈ seen, db.read created observation.key = .ok observation.answer

/-- The batches committed before each observation left the value of its key as it
was when the transaction was created. -/
def LeftAsCreated (db : DbHandle) (base created : ByteDb)
    (seen : Set Observation) : Prop :=
  ∀ observation ∈ seen,
    db.read (replay base observation.log) observation.key =
      db.read created observation.key

/-- A step of a context session: others commit a batch, or the owner makes a
call that may fail in the engine. -/
inductive ContextSessionStep : Type 1 where
  | foreign (batch : List WriteOp)
  | call (fault : Option Fault) (call : ContextCall)

/-- An optimistic context and the commit history of its database. -/
structure ContextSession where
  ctx : OptimisticTransactionContext
  log : CommitLog

namespace ContextSession

variable (base : ByteDb)

/-- `transaction_context()` on a database with a history. -/
def create (store : RocksDbCFOptimisticTxnStore) (log : CommitLog) :
    ContextSession :=
  { ctx := store.transactionContext log.length, log }

def native (s : ContextSession) : NativeSession :=
  { txn := s.ctx.txn, log := s.log }

/-- The committed contents. -/
def data (s : ContextSession) : ByteDb :=
  replay base s.log

def after (s : ContextSession) : ContextSessionStep → ContextSession
  | .foreign batch => { s with log := s.log ++ [batch] }
  | .call fault call => { s with ctx := s.ctx.after ⟨s.data base, fault, call⟩ }

def run (s : ContextSession) (steps : List ContextSessionStep) :
    ContextSession :=
  steps.foldl (after base) s

/-- The commits the engine may answer with: it must refuse a conflicting
transaction and may refuse any. -/
def Allows (s : ContextSession) (fault : Option Fault) : Prop :=
  s.ctx.txn.Conflicts s.log → fault ≠ none

/-- Every commit the engine may answer with returns an error and leaves the
committed contents alone. -/
def Refused (s : ContextSession) : Prop :=
  ∀ fault, s.Allows fault →
    (∃ e, (s.ctx.commit (s.data base) fault).1 = .error e) ∧
      (s.ctx.commit (s.data base) fault).2.2 = s.data base

/-- Along the run a call reads the key and afterwards another client commits a
batch that changes the value of the key. -/
def StaleRead (s : ContextSession) (steps : List ContextSessionStep)
    (k : CfKey) : Prop :=
  ∃ earlier fault call between batch later,
    steps = earlier ++ .call fault call :: between ++ .foreign batch :: later ∧
    (∃ sighting ∈ (s.run base earlier).native.sightingsUntil
        (s.run base (earlier ++ [.call fault call])).native,
      ∃ answer, Observes sighting.event k answer) ∧
    let overtaken := s.run base (earlier ++ .call fault call :: between)
    s.ctx.store.db.read (overtaken.data base) k ≠
      s.ctx.store.db.read ((overtaken.after base (.foreign batch)).data base) k

end ContextSession

/-- A call of a closure on its transaction, or a batch others commit. -/
inductive ClosureSessionStep where
  | foreign (batch : List WriteOp)
  | get (at_ : CfKey) (fault : Option Fault)
  | iterator (cf : String) (mode : IteratorMode) (fault : Option Fault)
  | stage (op : WriteOp) (fault : Option Fault)

namespace ClosureSession

variable (db : DbHandle) (base : ByteDb)

/-- An attempt of `execute_with_snapshot` on a database with a history. -/
def create (log : CommitLog) : NativeSession :=
  { txn := (Attempt.begin true log.length ()).txn, log }

def after (s : NativeSession) : ClosureSessionStep → NativeSession
  | .foreign batch => { s with log := s.log ++ [batch] }
  | .get at_ fault => { s with txn := (s.txn.get db (replay base s.log) at_ fault).2 }
  | .iterator cf mode fault =>
      { s with
        txn := s.txn.did (.iterator cf mode
          (s.txn.iterator db (replay base s.log) cf mode fault)) }
  | .stage op fault => { s with txn := (s.txn.stage op fault).2 }

end ClosureSession

end RockSolid
