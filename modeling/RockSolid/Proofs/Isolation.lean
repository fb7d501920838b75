/-
Module: RockSolid.Proofs.Isolation
Layer: Proofs
Purpose: The isolation of pessimistic transactions, over every interleaving of
  any programs.  A call reads the present contents under the transaction's own
  writes, and a commit appends all of them at once; what is locked stays as it is
  until its owner ends.
Trusted boundary: none
Main exports: NativeTxn.ReadsCommitted.advance, PessimisticSystem.step_stable,
  pessimistic_isolated
-/
import RockSolid.Proofs.TransferFunds
import RockSolid.Semantics.Isolation

namespace RockSolid

open Foundation KeyedStore

namespace NativeTxn.ReadsCommitted

variable {store : RocksDbCFTxnStore} {base : ByteDb}
  {commits : List (List WriteOp)} {txn : NativeTxn}

theorem begin (kind : HandleKind) (position : Nat)
    (bound : position ≤ commits.length) :
    (Handle.begin store kind).txn.ReadsCommitted store.db base commits
      position := by
  cases kind <;> exact .later .begin (Nat.zero_le _) bound

/-- Reads over the present contents. -/
theorem reads {after : NativeTxn}
    (committed : txn.ReadsCommitted store.db base commits commits.length)
    (reads : txn.Reads store.db (replay base commits) after) :
    after.ReadsCommitted store.db base commits commits.length := by
  obtain ⟨events, answered, same⟩ := reads.events
  rw [ReadsCommitted, reads.staged, same]
  apply PrefixReads.readAll committed
  rwa [stateAt_length]

/-- A write, which the engine may refuse. -/
theorem stage (committed : txn.ReadsCommitted store.db base commits
      commits.length) (op : WriteOp) (fault : Option Fault) :
    (txn.stage op fault).2.ReadsCommitted store.db base commits
      commits.length := by
  cases fault with
  | none => exact PrefixReads.stage op committed
  | some fault => exact PrefixReads.refuse op committed

/-- A call of a program over the present contents. -/
theorem advance {Q R : Type} {program : Q → TxnAction Q R}
    {t next : TxnState Q} {fault : Option Fault} {needed : Option CfKey}
    (ready : t.handle.Ready store)
    (committed : t.handle.txn.ReadsCommitted store.db base commits
      commits.length)
    (advanced : t.advance store program (replay base commits) fault =
      some (next, needed)) :
    next.handle.txn.ReadsCommitted store.db base commits commits.length := by
  rw [TxnState.advance] at advanced
  split at advanced
  · next K V keys codec cfName key resume asked =>
      cases advanced
      rw [Handle.get_eq cfName key ready, Handle.withTxn_txn]
      exact committed.reads
        (TransactionContext.getInTxn_onlyReads cfName key fault store _)
  · next K V keys codec cfName key val resume asked =>
      cases advanced
      rw [Handle.put_eq cfName key val ready, Handle.withTxn_txn]
      rcases TransactionContext.putInTxnCf_writes store cfName key val fault
        t.handle.txn with ⟨e, failed⟩ | ⟨op, -, same⟩
      · rw [failed]
        exact committed
      · rw [same]
        exact committed.stage op fault
  · cases advanced

end NativeTxn.ReadsCommitted

namespace PessimisticSystem

variable {Client Q R : Type} [DecidableEq Client] {store : RocksDbCFTxnStore}
  {base : ByteDb} {program : Client → Q → TxnAction Q R}
  {start : Client → HandleKind × Q} {s next : PessimisticSystem Client Q R}

omit [DecidableEq Client] in
/-- A commit is appended: what the others have read, they have read, and the new
entry has read up to its own commit. -/
theorem ReadsCommitted.concat (reads : s.ReadsCommitted store base)
    {entry : CommittedTxn Client Q R}
    (own : entry.txn.ReadsCommitted store.db base (s.log.map CommittedTxn.batch)
      (s.log.map CommittedTxn.batch).length)
    (position : Nat) (other : CommittedTxn Client Q R)
    (found : (s.log ++ [entry])[position]? = some other) :
    other.txn.ReadsCommitted store.db base
      ((s.log ++ [entry]).map CommittedTxn.batch) position := by
  rw [List.map_append, List.map_singleton]
  by_cases before : position < s.log.length
  · rw [List.getElem?_append_left before] at found
    exact (reads.committed position other found).extend entry.batch
  · rw [List.getElem?_append_right (Nat.le_of_not_lt before),
      List.getElem?_singleton] at found
    split at found
    · next atEnd =>
        cases found
        have same : position = (s.log.map CommittedTxn.batch).length := by
          rw [List.length_map]
          omega
        rw [same]
        exact own.extend entry.batch
    · cases found

/-- Every interleaving keeps what the transactions have read. -/
theorem readsCommitted_of_reachable
    (reached : Reachable store base program (.initial start) s) :
    s.ReadsCommitted store base := by
  induction reached with
  | refl =>
      constructor
      · intro client t running
        cases running
      · intro position entry found
        cases found
  | @tail s _ earlier last inductionHypothesis =>
      have invariant := invariant_of_reachable earlier
      obtain ⟨step, taken⟩ := last
      rcases step_cases taken with ⟨client, kind, first, waiting, rfl⟩ |
        ⟨client, t, fault, state, needed, running, advanced, free, rfl⟩ |
        ⟨client, t, fault, ending, running, finishes, rfl⟩
      · refine ⟨fun other t' otherRunning => ?_, inductionHypothesis.committed⟩
        rcases running_of_update otherRunning with ⟨-, begun⟩ | ⟨-, before⟩
        · cases begun
          exact .begin kind _ (Nat.le_refl _)
        · exact inductionHypothesis.running other t' before
      · refine ⟨fun other t' otherRunning => ?_, inductionHypothesis.committed⟩
        rcases running_of_update otherRunning with ⟨-, now⟩ | ⟨-, before⟩
        · cases now
          exact (inductionHypothesis.running client t running).advance
            (invariant.tracks client t running).ready advanced
        · exact inductionHypothesis.running other t' before
      · have own := inductionHypothesis.running client t running
        have others : ∀ other t',
            (s.finished base client t fault ending).clients other = .running t' →
              s.clients other = .running t' := by
          intro other t' otherRunning
          rcases running_of_update otherRunning with ⟨-, ended⟩ | ⟨-, before⟩
          · cases ended
          · exact before
        rcases finished_cases base s client t fault ending with
          ⟨result, -, -, appended, -⟩ | ⟨-, same, -⟩
        · constructor
          · intro other t' otherRunning
            have before := inductionHypothesis.running other t'
              (others other t' otherRunning)
            rw [appended, List.map_append, List.map_singleton]
            exact (before.extend t.state.handle.txn.staged).atEnd
          · rw [appended]
            exact inductionHypothesis.concat own
        · constructor
          · intro other t' otherRunning
            rw [same]
            exact inductionHypothesis.running other t'
              (others other t' otherRunning)
          · rw [same]
            exact inductionHypothesis.committed

/-- A step leaves what a client has locked as it is, unless it ends the client's
transaction. -/
theorem step_stable (invariant : Invariant store base program start s)
    {step : TxnStep Client}
    (taken : step? store base program s step = some next) {client : Client}
    {k : CfKey} (held : s.locks k = some client) :
    (∃ result, next.clients client = .ended result) ∨
      next.locks k = some client ∧
        (next.data base).record k = (s.data base).record k := by
  rcases step_cases taken with ⟨other, kind, first, waiting, rfl⟩ |
    ⟨other, t, fault, state, needed, running, advanced, free, rfl⟩ |
    ⟨other, t, fault, ending, running, finishes, rfl⟩
  · exact .inr ⟨held, rfl⟩
  · refine .inr ⟨?_, rfl⟩
    by_cases own : client = other
    · subst own
      exact lock_own.mpr (.inl held)
    · exact (lock_other own free).mpr held
  · by_cases own : client = other
    · subst own
      exact .inl ⟨_, Function.update_self ..⟩
    · exact .inr ⟨finished_holds.mpr ⟨own, held⟩,
        (finished_record invariant fault ending running own held).symm⟩

/-- What has ended does not begin again. -/
theorem step_ended {step : TxnStep Client}
    (taken : step? store base program s step = some next) {client : Client}
    {result : StoreResult R} (ended : s.clients client = .ended result) :
    next.clients client = .ended result := by
  have kept : ∀ (other : Client) (phase : TxnPhase Q R),
      s.clients other ≠ .ended result →
        Function.update s.clients other phase client = .ended result := by
    intro other phase goesOn
    have differs : client ≠ other := by
      rintro rfl
      exact goesOn ended
    rw [Function.update_of_ne differs, ended]
  rcases step_cases taken with ⟨other, kind, first, waiting, rfl⟩ |
    ⟨other, t, fault, state, needed, running, advanced, free, rfl⟩ |
    ⟨other, t, fault, ending, running, finishes, rfl⟩
  · exact kept other _ (by simp [waiting])
  · exact kept other _ (by simp [running])
  · exact kept other _ (by simp [running])

/-- What a client has locked stays as it is until its transaction ends. -/
theorem stable_of_reachable
    (reached : Reachable store base program (.initial start) s)
    {k : CfKey} {client : Client} (held : s.locks k = some client)
    {later : PessimisticSystem Client Q R}
    (goesOn : Reachable store base program s later) :
    (∃ result, later.clients client = .ended result) ∨
      later.locks k = some client ∧
        (later.data base).record k = (s.data base).record k := by
  induction goesOn with
  | refl => exact .inr ⟨held, rfl⟩
  | tail earlier last inductionHypothesis =>
      obtain ⟨step, taken⟩ := last
      rcases inductionHypothesis with ⟨result, ended⟩ | ⟨stillHeld, same⟩
      · exact .inl ⟨result, step_ended taken ended⟩
      · have invariant := invariant_of_reachable (reached.trans earlier)
        rcases step_stable invariant taken stillHeld with ended | ⟨now, kept⟩
        · exact .inl ended
        · exact .inr ⟨now, kept.trans same⟩

end PessimisticSystem

/-- Whatever any number of pessimistic transactions do, in every interleaving: each
read of a running or committed transaction was answered over whole earlier commits
and the transaction's own writes, and later reads over no fewer commits; the keys
it has written stay locked and keep their committed records until it ends. -/
theorem pessimistic_isolated {Client Q R : Type} [DecidableEq Client]
    (store : RocksDbCFTxnStore) (base : ByteDb)
    (program : Client → Q → TxnAction Q R) (start : Client → HandleKind × Q)
    (s : PessimisticSystem Client Q R)
    (reached : PessimisticSystem.Reachable store base program (.initial start)
      s) :
    s.Isolated store base program := by
  have invariant := PessimisticSystem.invariant_of_reachable reached
  refine ⟨PessimisticSystem.readsCommitted_of_reachable reached, ?_, ?_⟩
  · intro client t running
    exact (invariant.tracks client t running).staged
  · intro k client held later goesOn
    exact PessimisticSystem.stable_of_reachable reached held goesOn

/-- Two payments from one account, the second begun before the first commits. -/
theorem pessimistic_isolated_payments :
    let program := fun client => transferFunds (payments client)
    ∃ s, PessimisticSystem.run? guideStore openingBalances program
        transferClients ([.begin true, .begin false] ++ moves true 1 ++
          moves false 5) = some s ∧
      s.log.length = 1 ∧ s.Isolated guideStore openingBalances program := by
  intro program
  have outcome : (PessimisticSystem.run? guideStore openingBalances program
      transferClients ([.begin true, .begin false] ++ moves true 1 ++
        moves false 5)).map (fun s => s.log.length) = some 1 := by
    decide +kernel
  obtain ⟨s, ran, committed⟩ := Option.map_eq_some_iff.mp outcome
  exact ⟨s, ran, committed, pessimistic_isolated guideStore openingBalances
    program _ s (PessimisticSystem.reachable_of_run ran)⟩

end RockSolid
