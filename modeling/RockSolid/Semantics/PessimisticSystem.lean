/-
Module: RockSolid.Semantics.PessimisticSystem
Layer: Semantics
Purpose: Any number of pessimistic transactions on one database.  A transaction
  is held by a `TransactionContext` or by the closure of `execute_transaction`.
  A write takes the exclusive lock of its key, which is held to the end of the
  transaction; a read takes none.  Next to its program a running transaction
  remembers over which contents it read its unlocked keys and took its locks.
Trusted boundary: human-reviewed model of the concurrent use; the locks are
  documented behaviour of RocksDB
Main exports: Handle, TxnAction, TxnState.advance, PessimisticSystem,
  PessimisticSystem.step?, Reachable, CommittedTxn, CommittedTxn.Justified,
  WritesItsReads, Undisturbed
-/
import RockSolid.Core.TransactionContext
import RockSolid.Foundation.SerialHistory

namespace RockSolid

open Foundation KeyedStore

/-- Who holds a native transaction. -/
inductive HandleKind where
  | context
  | closure
deriving DecidableEq, Repr

/-- A held transaction: a context, or the borrowed argument of the closure of
`execute_transaction`. -/
inductive Handle where
  | context (ctx : TransactionContext)
  | closure (txn : NativeTxn)

namespace Handle

variable (store : RocksDbCFTxnStore)

/-- `transaction_context` and the first line of `execute_transaction`. -/
def begin : HandleKind → Handle
  | .context => .context (TransactionContext.new store)
  | .closure => .closure RocksDbCFTxnStore.beginTransaction

def txn : Handle → NativeTxn
  | .context ctx => ctx.txn
  | .closure txn => txn

section Calls

variable {K V : Type} [AsBytes K] (cfName : String) (key : K)

/-- `get` and `get_cf` of a context, `get_in_txn` in a closure. -/
def get [DeserializeOwned V] (data : ByteDb) (fault : Option Fault) :
    Handle → StoreResult (Option V) × Handle
  | .context ctx =>
      let (found, ctx) :=
        if cfName = defaultColumnFamilyName then
          TransactionContext.get key data fault ctx
        else TransactionContext.getCf key data fault cfName ctx
      (found, .context ctx)
  | .closure txn =>
      let (found, txn) := store.getInTxn cfName key data fault txn
      (found, .closure txn)

/-- `set` and `put_cf` of a context, `put_in_txn_cf` in a closure. -/
def put [Serialize V] (val : V) (fault : Option Fault) :
    Handle → StoreResult Unit × Handle
  | .context ctx =>
      let (stored, ctx) :=
        if cfName = defaultColumnFamilyName then
          TransactionContext.set key fault val ctx
        else TransactionContext.putCf key fault cfName val ctx
      (stored, .context ctx)
  | .closure txn =>
      let (stored, txn) := store.putInTxnCf cfName key val fault txn
      (stored, .closure txn)

end Calls

end Handle

/-- How a transaction ends.  A closure knows two ends: it returns a value, or an
error. -/
inductive TxnEnding (R : Type) where
  | commit (result : R)
  | rollback (error : StoreError)
  | abandon (error : StoreError)

/-- The ending of a held transaction, with the `Drop` of a context: what the
caller gets and the committed contents. -/
def Handle.finish {R : Type} (data : ByteDb) (fault : Option Fault) :
    Handle → TxnEnding R → StoreResult R × ByteDb
  | .context ctx, .commit result =>
      let (committed, _, data) := ctx.commit data fault
      (committed.map fun _ => result, data)
  | .context ctx, .rollback error =>
      let (rolledBack, _) := TransactionContext.rollback fault ctx
      (rolledBack.bind fun _ => .error error, data)
  | .context _, .abandon error => (.error error, data)
  | .closure txn, .commit result =>
      let (returned, _, data) :=
        RocksDbCFTxnStore.finishTransaction data fault (.ok result) txn
      (returned, data)
  | .closure txn, .rollback error | .closure txn, .abandon error =>
      let (returned, _, data) :=
        RocksDbCFTxnStore.finishTransaction data fault (.error error) txn
      (returned, data)

/-- What a transaction does next. -/
inductive TxnAction (Q R : Type) : Type 1 where
  | get {K V : Type} (keys : AsBytes K) (codec : DeserializeOwned V)
      (cfName : String) (key : K) (resume : StoreResult (Option V) → Q)
  | put {K V : Type} (keys : AsBytes K) (codec : Serialize V) (cfName : String)
      (key : K) (val : V) (resume : StoreResult Unit → Q)
  | finish (ending : TxnEnding R)

/-- Where a transaction stands. -/
structure TxnState (Q : Type) where
  program : Q
  handle : Handle

namespace TxnState

variable {Q R : Type} (store : RocksDbCFTxnStore) (program : Q → TxnAction Q R)

def begin (kind : HandleKind) (start : Q) : TxnState Q :=
  { program := start, handle := Handle.begin store kind }

/-- One call, together with the key whose lock it needs: that of a write which the
engine accepts. -/
def advance (data : ByteDb) (fault : Option Fault) (t : TxnState Q) :
    Option (TxnState Q × Option CfKey) :=
  match program t.program with
  | .get _ _ cfName key resume =>
      let answer := t.handle.get store cfName key data fault
      some ({ program := resume answer.1, handle := answer.2 }, none)
  | .put _ _ cfName key val resume =>
      let answer := t.handle.put store cfName key val fault
      some ({ program := resume answer.1, handle := answer.2 },
        if answer.1.isOk then some ⟨cfName, AsBytes.asBytes key⟩ else none)
  | .finish _ => none

/-- A call made over the given committed contents. -/
def Advances (data : ByteDb) (t next : TxnState Q) : Prop :=
  ∃ fault needed, t.advance store program data fault = some (next, needed)

/-- The key the next call reads. -/
def readsKey (t : TxnState Q) : Option CfKey :=
  match program t.program with
  | .get _ _ cfName key _ => some ⟨cfName, AsBytes.asBytes key⟩
  | _ => none

end TxnState

/-- A committed transaction: who ran it from where, its native transaction, its
result, over which contents it read keys it had not locked, and over which it
took its locks. -/
structure CommittedTxn (Client Q R : Type) where
  client : Client
  kind : HandleKind
  start : Q
  txn : NativeTxn
  result : R
  early : List (CfKey × ByteDb)
  locked : List (CfKey × ByteDb)

namespace CommittedTxn

variable {Client Q R : Type}

def batch (entry : CommittedTxn Client Q R) : List WriteOp :=
  entry.txn.staged

/-- The result of a committed transaction of the client. -/
def resultFor [DecidableEq Client] (client : Client)
    (entry : CommittedTxn Client Q R) : Option R :=
  if entry.client = client then some entry.result else none

/-- Run alone over the given contents, the transaction stages the same writes and
returns the same result. -/
def Justified (store : RocksDbCFTxnStore)
    (program : Client → Q → TxnAction Q R) (data : ByteDb)
    (entry : CommittedTxn Client Q R) : Prop :=
  ∃ finished,
    Relation.ReflTransGen
      (TxnState.Advances store (program entry.client) data)
      (TxnState.begin store entry.kind entry.start) finished ∧
    finished.handle.txn = entry.txn ∧
    program entry.client finished.program = .finish (.commit entry.result)

/-- The transaction writes every key it reads. -/
def WritesItsReads (entry : CommittedTxn Client Q R) : Prop :=
  ∀ k data, (k, data) ∈ entry.early → Touches ByteDb entry.txn.staged k

/-- Nobody committed a change to a key between a read of the key by this
transaction and the lock it took on it. -/
def Undisturbed (entry : CommittedTxn Client Q R) : Prop :=
  ∀ k seen owned, (k, seen) ∈ entry.early → (k, owned) ∈ entry.locked →
    seen.record k = owned.record k

instance (entry : CommittedTxn Client Q R) : Decidable entry.Undisturbed :=
  decidable_of_iff
    (∀ noted ∈ entry.early, ∀ taken ∈ entry.locked, noted.1 = taken.1 →
      noted.2.record noted.1 = taken.2.record noted.1)
    ⟨fun checked k seen owned isEarly taken =>
      checked (k, seen) isEarly (k, owned) taken rfl,
    fun undisturbed noted isEarly taken member same =>
      undisturbed noted.1 noted.2 taken.2 isEarly (same ▸ member)⟩

end CommittedTxn

/-- A transaction that has begun and not ended. -/
structure RunningTxn (Q : Type) where
  kind : HandleKind
  start : Q
  state : TxnState Q
  early : List (CfKey × ByteDb)
  locked : List (CfKey × ByteDb)

/-- Where a client stands with its transaction. -/
inductive TxnPhase (Q R : Type) where
  | waiting (kind : HandleKind) (program : Q)
  | running (t : RunningTxn Q)
  | ended (result : StoreResult R)

/-- The holder and the program the client began with, until its transaction has
ended. -/
def TxnPhase.origin {Q R : Type} : TxnPhase Q R → Option (HandleKind × Q)
  | .waiting kind program => some (kind, program)
  | .running t => some (t.kind, t.start)
  | .ended _ => none

/-- The value an `Ok` return carries. -/
def TxnPhase.okResult {Q R : Type} : TxnPhase Q R → Option R
  | .ended (.ok result) => some result
  | _ => none

/-- The committed transactions since the start, the locks, and the clients. -/
structure PessimisticSystem (Client Q R : Type) where
  log : List (CommittedTxn Client Q R)
  locks : CfKey → Option Client
  clients : Client → TxnPhase Q R

/-- A client begins its transaction, or makes its next move, which the engine may
fail. -/
inductive TxnStep (Client : Type) where
  | begin (client : Client)
  | act (client : Client) (fault : Option Fault)

namespace PessimisticSystem

variable {Client Q R : Type} [DecidableEq Client]

def initial (start : Client → HandleKind × Q) : PessimisticSystem Client Q R :=
  { log := [], locks := fun _ => none
    clients := fun client => .waiting (start client).1 (start client).2 }

/-- The committed contents. -/
def data (base : ByteDb) (s : PessimisticSystem Client Q R) : ByteDb :=
  replay base (s.log.map CommittedTxn.batch)

/-- A lock may be taken by its owner again, and by anyone when it is free. -/
def mayLock (s : PessimisticSystem Client Q R) (client : Client)
    (k : CfKey) : Bool :=
  s.locks k == none || s.locks k == some client

/-- Remembers the committed contents for a key, unless the client has locked the
key before. -/
def note (base : ByteDb) (s : PessimisticSystem Client Q R) (client : Client)
    (notes : List (CfKey × ByteDb)) : Option CfKey → List (CfKey × ByteDb)
  | some k =>
      if s.locks k = some client then notes else notes ++ [(k, s.data base)]
  | none => notes

/-- The locks once the client has taken the one it needs. -/
def lock (s : PessimisticSystem Client Q R) (client : Client) :
    Option CfKey → CfKey → Option Client
  | some k => Function.update s.locks k (some client)
  | none => s.locks

/-- A call is done. -/
def advanced (base : ByteDb) (s : PessimisticSystem Client Q R)
    (client : Client) (t : RunningTxn Q) (state : TxnState Q)
    (read needed : Option CfKey) : PessimisticSystem Client Q R :=
  { s with
    locks := s.lock client needed
    clients := Function.update s.clients client
      (.running { t with
        state
        early := s.note base client t.early read
        locked := s.note base client t.locked needed }) }

/-- A transaction ends: a commit that succeeds is appended to the log, and the
locks are given back. -/
def finished (base : ByteDb) (s : PessimisticSystem Client Q R)
    (client : Client) (t : RunningTxn Q) (fault : Option Fault)
    (ending : TxnEnding R) : PessimisticSystem Client Q R :=
  let returned := (t.state.handle.finish (s.data base) fault ending).1
  { log :=
      match returned with
      | .ok result =>
          s.log ++ [{ client, kind := t.kind, start := t.start
                      txn := t.state.handle.txn, result
                      early := t.early, locked := t.locked }]
      | .error _ => s.log
    locks := fun k => if s.locks k = some client then none else s.locks k
    clients := Function.update s.clients client (.ended returned) }

/-- The state after a step, when the step is possible. -/
def step? (store : RocksDbCFTxnStore) (base : ByteDb)
    (program : Client → Q → TxnAction Q R) (s : PessimisticSystem Client Q R) :
    TxnStep Client → Option (PessimisticSystem Client Q R)
  | .begin client =>
      match s.clients client with
      | .waiting kind start =>
          some { s with
            clients := Function.update s.clients client
              (.running { kind, start, state := TxnState.begin store kind start
                          early := [], locked := [] }) }
      | _ => none
  | .act client fault =>
      match s.clients client with
      | .running t =>
          match program client t.state.program with
          | .finish ending => some (s.finished base client t fault ending)
          | _ =>
              match t.state.advance store (program client) (s.data base) fault with
              | some (next, needed) =>
                  if needed.all (s.mayLock client) then
                    some (s.advanced base client t next
                      (t.state.readsKey (program client)) needed)
                  else none
              | none => none
      | _ => none

/-- The states that some interleaving of steps reaches. -/
def Reachable (store : RocksDbCFTxnStore) (base : ByteDb)
    (program : Client → Q → TxnAction Q R) :
    PessimisticSystem Client Q R → PessimisticSystem Client Q R → Prop :=
  Relation.ReflTransGen fun s next =>
    ∃ step, step? store base program s step = some next

/-- Takes several steps, when they are possible. -/
def run? (store : RocksDbCFTxnStore) (base : ByteDb)
    (program : Client → Q → TxnAction Q R) (s : PessimisticSystem Client Q R)
    (steps : List (TxnStep Client)) : Option (PessimisticSystem Client Q R) :=
  steps.foldlM (step? store base program) s

/-- The committed contents are those of a serial execution of the transactions
that committed. -/
def Serializable (store : RocksDbCFTxnStore) (base : ByteDb)
    (program : Client → Q → TxnAction Q R)
    (s : PessimisticSystem Client Q R) : Prop :=
  ∃ history : List (CommittedTxn Client Q R), history.Perm s.log ∧
    SerialHistory CommittedTxn.batch (CommittedTxn.Justified store program) base
      history ∧
    replay base (history.map CommittedTxn.batch) = s.data base

end PessimisticSystem

end RockSolid
