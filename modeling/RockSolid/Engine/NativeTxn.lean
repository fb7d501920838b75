/-
Module: RockSolid.Engine.NativeTxn
Layer: Engine
Purpose: The native transaction object.  Reads see the committed contents of the
  moment under the transaction's own staged writes; a commit applies all staged
  writes or none; every call can fail.  The object keeps a trace of what is done
  to it, so that its lifecycle can be stated.
Trusted boundary: documented behaviour of RocksDB, which is not part of the
  repository
Main exports: Fault, NativeEvent, NativeTxn, TxnMethod, NativeTxn.view,
  NativeTxn.get, NativeTxn.stage, NativeTxn.commit, NativeTxn.rollback
-/
import RockSolid.Engine.RawIterator
import RockSolid.Foundation.Method
import RockSolid.Foundation.ReleaseTrace

namespace RockSolid

open Foundation

/-- A failure of one engine call.  An iterator fails after some entries. -/
structure Fault where
  error : RocksError
  after : Nat
deriving DecidableEq, Repr

/-- The result of an engine call that fails exactly when a fault is given. -/
def orFault {α : Type} (fault : Option Fault) (result : Except RocksError α) :
    Except RocksError α :=
  match fault with
  | none => result
  | some fault => .error fault.error

/-- A stream that an engine failure cuts short. -/
def cutBy (fault : Option Fault) (stream : RawStream) : RawStream :=
  match fault with
  | none => stream
  | some fault => stream.take fault.after ++ [.error fault.error]

/-- What is done to a native transaction, with what the engine answered.  `free`
is its destruction. -/
inductive NativeEvent where
  | get (at_ : CfKey) (answer : Except RocksError (Option Bytes))
  | iterator (cf : String) (mode : IteratorMode) (stream : RawStream)
  | stage (op : WriteOp)
  | commit
  | rollback
  | free
deriving DecidableEq, Repr

/-- A native transaction.  `snapshot` is the position of the commit history it
was created at, when a snapshot was requested. -/
structure NativeTxn where
  staged : List WriteOp
  snapshot : Option Nat
  events : List NativeEvent
deriving DecidableEq, Repr

namespace NativeTxn

variable {cmps : String → Comparator}

/-- `transaction_opt` at a position of the commit history. -/
def create (withSnapshot : Bool) (position : Nat) : NativeTxn :=
  { staged := [], snapshot := if withSnapshot then some position else none,
    events := [] }

/-- Notes an event. -/
def did (txn : NativeTxn) (event : NativeEvent) : NativeTxn :=
  { txn with events := txn.events ++ [event] }

/-- Notes several events. -/
def didAll (txn : NativeTxn) (events : List NativeEvent) : NativeTxn :=
  { txn with events := txn.events ++ events }

/-- What the transaction sees: committed contents under its staged writes. -/
def view (txn : NativeTxn) (data : Db cmps) : Db cmps :=
  data.applyAll txn.staged

/-- `get_pinned`, `get` and their `_cf` forms: no lock, no snapshot. -/
def get (db : DbHandle) (data : Db cmps) (at_ : CfKey) (fault : Option Fault)
    (txn : NativeTxn) : Except RocksError (Option Bytes) × NativeTxn :=
  let answer := orFault fault (db.read (txn.view data) at_)
  (answer, txn.did (.get at_ answer))

/-- `iterator_opt`, `prefix_iterator` and their `_cf` forms. -/
def iterator (db : DbHandle) (data : Db cmps) (cf : String)
    (mode : IteratorMode) (fault : Option Fault) (txn : NativeTxn) :
    RawStream :=
  cutBy fault (db.iterator (txn.view data) cf mode)

/-- `put`, `delete`, `merge` and their `_cf` forms. -/
def stage (op : WriteOp) (fault : Option Fault) (txn : NativeTxn) :
    Except RocksError Unit × NativeTxn :=
  match fault with
  | none => (.ok (), { txn with staged := txn.staged ++ [op] }.did (.stage op))
  | some fault => (.error fault.error, txn.did (.stage op))

/-- `Transaction::commit`, which takes the transaction by value: the native
object is freed when the call returns, whether it succeeded or not. -/
def commit (data : Db cmps) (fault : Option Fault) (txn : NativeTxn) :
    Except RocksError Unit × NativeTxn × Db cmps :=
  let spent := (txn.did .commit).did .free
  match fault with
  | none => (.ok (), spent, data.applyAll txn.staged)
  | some fault => (.error fault.error, spent, data)

/-- `Transaction::rollback`, which takes the transaction by reference. -/
def rollback (fault : Option Fault) (txn : NativeTxn) :
    Except RocksError Unit × NativeTxn :=
  match fault with
  | none => (.ok (), { txn with staged := [] }.did .rollback)
  | some fault => (.error fault.error, txn.did .rollback)

/-- `Drop for Transaction`. -/
def free (txn : NativeTxn) : NativeTxn :=
  txn.did .free

@[simp] theorem did_staged (txn : NativeTxn) (event : NativeEvent) :
    (txn.did event).staged = txn.staged := rfl

@[simp] theorem did_snapshot (txn : NativeTxn) (event : NativeEvent) :
    (txn.did event).snapshot = txn.snapshot := rfl

@[simp] theorem did_events (txn : NativeTxn) (event : NativeEvent) :
    (txn.did event).events = txn.events ++ [event] := rfl

@[simp] theorem stage_events (op : WriteOp) (fault : Option Fault)
    (txn : NativeTxn) :
    (txn.stage op fault).2.events = txn.events ++ [.stage op] := by
  cases fault <;> rfl

@[simp] theorem rollback_events (fault : Option Fault) (txn : NativeTxn) :
    (txn.rollback fault).2.events = txn.events ++ [.rollback] := by
  cases fault <;> rfl

@[simp] theorem free_events (txn : NativeTxn) :
    txn.free.events = txn.events ++ [.free] := rfl

/-- A read depends on the committed contents through the record of its key. -/
theorem get_congr {db : DbHandle} {data other : ByteDb} {at_ : CfKey}
    (same : data.record at_ = other.record at_) (fault : Option Fault)
    (txn : NativeTxn) :
    txn.get db data at_ fault = txn.get db other at_ fault := by
  have sameView : KeyedStore.cell (txn.view data) at_ =
      KeyedStore.cell (txn.view other) at_ := by
    have before : KeyedStore.cell (KeyedStore.applyBatch data txn.staged) at_ =
        KeyedStore.cell (KeyedStore.applyBatch other txn.staged) at_ := by
      rw [KeyedStore.cell_applyBatch, KeyedStore.cell_applyBatch]
      exact congrArg _ same
    exact before
  have sameRead : db.read (txn.view data) at_ = db.read (txn.view other) at_ :=
    congrArg (db.readRecord at_) sameView
  rw [get, get, sameRead]

/-- A read event with an answer the engine can give over the contents that the
transaction sees. -/
inductive Answered (db : DbHandle) (seen : Db cmps) : NativeEvent → Prop where
  | get (at_ : CfKey) (fault : Option Fault) :
      Answered db seen (.get at_ (orFault fault (db.read seen at_)))
  | iterator (cf : String) (mode : IteratorMode) (fault : Option Fault) :
      Answered db seen
        (.iterator cf mode (cutBy fault (db.iterator seen cf mode)))

theorem Answered.ne_free {db : DbHandle} {seen : Db cmps} {event : NativeEvent}
    (answered : Answered db seen event) : event ≠ .free := by
  cases answered <;> simp

/-- Between the two states the object was only read, over the given committed
contents. -/
structure Reads (db : DbHandle) (data : Db cmps) (before after : NativeTxn) :
    Prop where
  staged : after.staged = before.staged
  snapshot : after.snapshot = before.snapshot
  events : ∃ reads, (∀ event ∈ reads, Answered db (before.view data) event) ∧
    after.events = before.events ++ reads

instance (db : DbHandle) (data : Db cmps) :
    IsPreorder NativeTxn (Reads db data) where
  refl txn := ⟨rfl, rfl, [], by simp, by simp⟩
  trans first second third earlier later := by
    rcases earlier.events with ⟨reads, answered, same⟩
    rcases later.events with ⟨more, answeredMore, sameMore⟩
    refine ⟨later.staged.trans earlier.staged,
      later.snapshot.trans earlier.snapshot, reads ++ more, ?_,
      by rw [sameMore, same, List.append_assoc]⟩
    intro event member
    rcases List.mem_append.mp member with early | late
    · exact answered event early
    · have sees : second.view data = first.view data := by
        rw [view, view, earlier.staged]
      exact sees ▸ answeredMore event late

theorem Reads.didAll {db : DbHandle} {data : Db cmps} (txn : NativeTxn)
    {events : List NativeEvent}
    (answered : ∀ event ∈ events, Answered db (txn.view data) event) :
    txn.Reads db data (txn.didAll events) where
  staged := rfl
  snapshot := rfl
  events := ⟨events, answered, rfl⟩

theorem Reads.get (db : DbHandle) (data : Db cmps) (at_ : CfKey)
    (fault : Option Fault) (txn : NativeTxn) :
    txn.Reads db data (txn.get db data at_ fault).2 :=
  .didAll txn (by simpa using Answered.get at_ fault)

/-- A transaction that is only read is not released. -/
theorem Reads.held {db : DbHandle} {data : Db cmps} {before after : NativeTxn}
    (reads : before.Reads db data after) (held : .free ∉ before.events) :
    .free ∉ after.events := by
  rcases reads.events with ⟨added, answered, same⟩
  rw [same, List.mem_append, not_or]
  exact ⟨held, fun member => (answered _ member).ne_free rfl⟩

end NativeTxn

/-- Methods that borrow a native transaction. -/
abbrev TxnMethod := Method StoreError NativeTxn

/-- A native call under `?` or `.map_err(StoreError::RocksDb)`. -/
def native {α : Type} (call : NativeTxn → Except RocksError α × NativeTxn) :
    TxnMethod α := fun txn =>
  let (result, after) := call txn
  (result.mapError .rocksDb, after)

@[simp] theorem native_apply {α : Type}
    (call : NativeTxn → Except RocksError α × NativeTxn) (txn : NativeTxn) :
    native call txn = ((call txn).1.mapError .rocksDb, (call txn).2) := rfl

end RockSolid
