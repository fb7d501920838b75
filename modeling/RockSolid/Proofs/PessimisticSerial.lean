/-
Module: RockSolid.Proofs.PessimisticSerial
Layer: Proofs
Purpose: Serial executions of pessimistic transactions.  A lock keeps the record
  of its key as it was when the lock was taken.  So a transaction that writes
  what it reads, and whose keys nobody changed between its read and its lock,
  has read the state it commits to.
Trusted boundary: none
Main exports: Tracks, Tracks.advance, Tracks.ranAlone,
  PessimisticSystem.Invariant, PessimisticSystem.invariant_of_reachable
-/
import RockSolid.Proofs.HeldTransactions

namespace RockSolid

open Foundation KeyedStore

variable {Client Q R : Type}

/-- A running transaction and the locks it holds: its locks cover its staged
writes and keep the records of their keys, and each of its reads is noted as
early or was made under a lock. -/
structure Tracks (store : RocksDbCFTxnStore) (program : Q → TxnAction Q R)
    (data : ByteDb) (locks : CfKey → Option Client) (client : Client)
    (t : RunningTxn Q) : Prop where
  ready : t.state.handle.Ready store
  run : ∃ trace,
    TracedRun (TxnState.Advances store program) (TxnState.readsKey program)
      (TxnState.begin store t.kind t.start) trace t.state ∧
    (∀ seen k, (seen, some k) ∈ trace → (k, seen) ∈ t.early ∨
      locks k = some client ∧ seen.record k = data.record k) ∧
    ∀ k seen, (k, seen) ∈ t.early → (seen, some k) ∈ trace
  locked : ∀ k owned, (k, owned) ∈ t.locked →
    locks k = some client ∧ owned.record k = data.record k
  owned : ∀ k, locks k = some client → ∃ owned, (k, owned) ∈ t.locked
  staged : ∀ op ∈ t.state.handle.txn.staged, locks op.target = some client

section Transactions

variable {store : RocksDbCFTxnStore} {program : Q → TxnAction Q R}
  {data : ByteDb} {locks : CfKey → Option Client} {client : Client}
  {t : RunningTxn Q}

theorem Tracks.begin (kind : HandleKind) (start : Q)
    (free : ∀ k, locks k ≠ some client) :
    Tracks store program data locks client
      { kind, start, state := TxnState.begin store kind start
        early := [], locked := [] } where
  ready := Handle.ready_begin store kind
  run := ⟨[], .refl _, by simp, by simp⟩
  locked := by simp
  owned k held := absurd held (free k)
  staged := by
    intro op member
    have none := Handle.begin_staged store kind
    rw [TxnState.begin, none] at member
    cases member

/-- Other clients keep their hands off the keys this one has locked. -/
theorem Tracks.transfer (tracks : Tracks store program data locks client t)
    {data' : ByteDb} {locks' : CfKey → Option Client}
    (sameLocks : ∀ k, locks' k = some client ↔ locks k = some client)
    (kept : ∀ k, locks k = some client → data.record k = data'.record k) :
    Tracks store program data' locks' client t where
  ready := tracks.ready
  run := by
    obtain ⟨trace, run, noted, early⟩ := tracks.run
    refine ⟨trace, run, ?_, early⟩
    intro seen k read
    rcases noted seen k read with isEarly | ⟨held, same⟩
    · exact .inl isEarly
    · exact .inr ⟨(sameLocks k).mpr held, same.trans (kept k held)⟩
  locked := by
    intro k owned taken
    obtain ⟨held, same⟩ := tracks.locked k owned taken
    exact ⟨(sameLocks k).mpr held, same.trans (kept k held)⟩
  owned k held := tracks.owned k ((sameLocks k).mp held)
  staged op member := (sameLocks op.target).mpr (tracks.staged op member)

/-- A transaction whose early reads are written and were not overtaken would have
made the same calls alone in the present state. -/
theorem Tracks.ranAlone (tracks : Tracks store program data locks client t)
    (writes : ∀ k seen, (k, seen) ∈ t.early →
      Touches ByteDb t.state.handle.txn.staged k)
    (undisturbed : ∀ k seen owned, (k, seen) ∈ t.early →
      (k, owned) ∈ t.locked → seen.record k = owned.record k) :
    Relation.ReflTransGen (TxnState.Advances store program data)
      (TxnState.begin store t.kind t.start) t.state := by
  obtain ⟨trace, run, noted, -⟩ := tracks.run
  apply run.replayedIn TxnState.advances_readsOnly
  rintro ⟨seen, read⟩ member k reads
  have reads : read = some k := reads
  subst reads
  rcases noted seen k member with isEarly | ⟨-, same⟩
  · obtain ⟨op, isStaged, sameKey⟩ := writes k seen isEarly
    have sameKey : op.target = k := sameKey
    have held := tracks.staged op isStaged
    rw [sameKey] at held
    obtain ⟨owned, taken⟩ := tracks.owned k held
    exact (undisturbed k seen owned isEarly taken).trans
      (tracks.locked k owned taken).2
  · exact same

end Transactions

/-- The committed transaction made its calls among the others, and its early
reads are among them. -/
def CommittedTxn.Ran (store : RocksDbCFTxnStore)
    (program : Client → Q → TxnAction Q R)
    (entry : CommittedTxn Client Q R) : Prop :=
  ∃ trace finished,
    TracedRun (TxnState.Advances store (program entry.client))
      (TxnState.readsKey (program entry.client))
      (TxnState.begin store entry.kind entry.start) trace finished ∧
    finished.handle.txn = entry.txn ∧
    program entry.client finished.program = .finish (.commit entry.result) ∧
    ∀ k seen, (k, seen) ∈ entry.early → (seen, some k) ∈ trace

namespace PessimisticSystem

variable [DecidableEq Client] {store : RocksDbCFTxnStore} {base : ByteDb}
  {program : Client → Q → TxnAction Q R} {s next : PessimisticSystem Client Q R}

theorem mem_note {client : Client} {notes : List (CfKey × ByteDb)}
    {noted : Option CfKey} {k : CfKey} {contents : ByteDb} :
    (k, contents) ∈ s.note base client notes noted ↔
      (k, contents) ∈ notes ∨ noted = some k ∧ s.locks k ≠ some client ∧
        contents = s.data base := by
  rcases noted with _ | other
  · simp [note]
  · by_cases held : s.locks other = some client
    · rw [note, if_pos held]
      refine ⟨.inl, ?_⟩
      rintro (member | ⟨same, free, -⟩)
      · exact member
      · cases same
        exact absurd held free
    · rw [note, if_neg held, List.mem_append, List.mem_singleton,
        Prod.mk.injEq]
      apply or_congr_right
      constructor
      · rintro ⟨rfl, rfl⟩
        exact ⟨rfl, held, rfl⟩
      · rintro ⟨same, -, rfl⟩
        cases same
        exact ⟨rfl, rfl⟩

omit [DecidableEq Client] in
/-- After a call the client holds the locks it held and the one it needed. -/
theorem lock_own {client : Client} {needed : Option CfKey} {k : CfKey} :
    s.lock client needed k = some client ↔
      s.locks k = some client ∨ needed = some k := by
  rcases needed with _ | other
  · simp [lock]
  · by_cases same : k = other
    · subst same
      simp [lock]
    · simp [lock, same, Ne.symm same]

/-- After a call the other clients hold the locks they held. -/
theorem lock_other {client other : Client} {needed : Option CfKey} {k : CfKey}
    (differs : other ≠ client) (free : needed.all (s.mayLock client) = true) :
    s.lock client needed k = some other ↔ s.locks k = some other := by
  rcases needed with _ | taken
  · rfl
  · by_cases same : k = taken
    · subst same
      have mine : s.locks k = none ∨ s.locks k = some client := by
        simpa [mayLock] using free
      rw [lock, Function.update_self]
      constructor
      · intro locked
        exact absurd (Option.some.inj locked).symm differs
      · intro locked
        rcases mine with none | own
        · rw [none] at locked
          cases locked
        · rw [own] at locked
          exact absurd (Option.some.inj locked).symm differs
    · rw [lock, Function.update_of_ne same]

/-- A client's own call keeps its notes right. -/
theorem tracks_advanced {client : Client} {t : RunningTxn Q}
    {fault : Option Fault} {state : TxnState Q} {needed : Option CfKey}
    (tracks : Tracks store (program client) (s.data base) s.locks client t)
    (advanced : t.state.advance store (program client) (s.data base) fault =
      some (state, needed)) :
    Tracks store (program client) (s.data base) (s.lock client needed) client
      { t with
        state
        early := s.note base client t.early
          (t.state.readsKey (program client))
        locked := s.note base client t.locked needed } := by
  obtain ⟨ready, stages⟩ := TxnState.advance_stages tracks.ready advanced
  obtain ⟨trace, run, noted, early⟩ := tracks.run
  refine ⟨ready, ⟨_, run.tail ⟨fault, needed, advanced⟩, ?_, ?_⟩, ?_, ?_, ?_⟩
  · intro seen k read
    rcases List.mem_append.mp read with before | now
    · rcases noted seen k before with isEarly | ⟨held, same⟩
      · exact .inl (mem_note.mpr (.inl isEarly))
      · exact .inr ⟨lock_own.mpr (.inl held), same⟩
    · rw [List.mem_singleton, Prod.mk.injEq] at now
      obtain ⟨rfl, reads⟩ := now
      by_cases held : s.locks k = some client
      · exact .inr ⟨lock_own.mpr (.inl held), rfl⟩
      · exact .inl (mem_note.mpr (.inr ⟨reads.symm, held, rfl⟩))
  · intro k seen isEarly
    rcases mem_note.mp isEarly with before | ⟨reads, -, rfl⟩
    · exact List.mem_append_left _ (early k seen before)
    · rw [reads]
      exact List.mem_append_right _ (List.mem_singleton_self _)
  · intro k owned taken
    rcases mem_note.mp taken with before | ⟨needs, -, rfl⟩
    · obtain ⟨held, same⟩ := tracks.locked k owned before
      exact ⟨lock_own.mpr (.inl held), same⟩
    · exact ⟨lock_own.mpr (.inr needs), rfl⟩
  · intro k holds
    by_cases held : s.locks k = some client
    · obtain ⟨owned, taken⟩ := tracks.owned k held
      exact ⟨owned, mem_note.mpr (.inl taken)⟩
    · rcases lock_own.mp holds with before | needs
      · exact absurd before held
      · exact ⟨s.data base, mem_note.mpr (.inr ⟨needs, held, rfl⟩)⟩
  · intro op member
    rcases stages op member with before | needs
    · exact lock_own.mpr (.inl (tracks.staged op before))
    · exact lock_own.mpr (.inr needs)

/-- What one step can do. -/
theorem step_cases {step : TxnStep Client}
    (taken : step? store base program s step = some next) :
    (∃ client kind start, s.clients client = .waiting kind start ∧
      next = { s with
        clients := Function.update s.clients client
          (.running { kind, start, state := TxnState.begin store kind start
                      early := [], locked := [] }) }) ∨
    (∃ client t fault state needed, s.clients client = .running t ∧
      t.state.advance store (program client) (s.data base) fault =
        some (state, needed) ∧
      needed.all (s.mayLock client) = true ∧
      next = s.advanced base client t state
        (t.state.readsKey (program client)) needed) ∨
    ∃ client t fault ending, s.clients client = .running t ∧
      program client t.state.program = .finish ending ∧
      next = s.finished base client t fault ending := by
  cases step with
  | begin client =>
      rw [step?] at taken
      split at taken
      · next kind start phase =>
          cases taken
          exact .inl ⟨client, kind, start, phase, rfl⟩
      · cases taken
  | act client fault =>
      rw [step?] at taken
      split at taken
      · next t phase =>
          split at taken
          · next ending finishes =>
              cases taken
              exact .inr (.inr ⟨client, t, fault, ending, phase, finishes, rfl⟩)
          · split at taken
            · next state needed advanced =>
                split at taken
                · next free =>
                    cases taken
                    exact .inr (.inl ⟨client, t, fault, state, needed, phase,
                      advanced, free, rfl⟩)
                · cases taken
            · cases taken
      · cases taken

/-- After a client's step the others are where they were. -/
theorem running_of_update {clients : Client → TxnPhase Q R}
    {client other : Client} {phase : TxnPhase Q R} {t : RunningTxn Q}
    (running : Function.update clients client phase other = .running t) :
    other = client ∧ phase = .running t ∨
      other ≠ client ∧ clients other = .running t := by
  by_cases same : other = client
  · subst same
    rw [Function.update_self] at running
    exact .inl ⟨rfl, running⟩
  · rw [Function.update_of_ne same] at running
    exact .inr ⟨same, running⟩

/-- Where a client goes on, the others that were running still are. -/
theorem running_update {clients : Client → TxnPhase Q R}
    {client other : Client} {t : RunningTxn Q}
    (before : other ≠ client → ∃ t, clients other = .running t) :
    ∃ after, Function.update clients client (.running t) other =
      .running after := by
  by_cases same : other = client
  · subst same
    exact ⟨t, Function.update_self other _ clients⟩
  · obtain ⟨after, running⟩ := before same
    exact ⟨after, (Function.update_of_ne same _ clients).trans running⟩

/-- A step of a client that goes on, or ends, brings up no new origin. -/
theorem origin_of_update {clients : Client → TxnPhase Q R} {client : Client}
    {phase : TxnPhase Q R}
    (kept : phase.origin = (clients client).origin ∨ phase.origin = none)
    {other : Client} {origin : HandleKind × Q}
    (began : (Function.update clients client phase other).origin = some origin) :
    (clients other).origin = some origin := by
  by_cases same : other = client
  · subst same
    rw [Function.update_self] at began
    rcases kept with kept | ended
    · exact kept.symm.trans began
    · rw [ended] at began
      cases began
  · rwa [Function.update_of_ne same] at began

/-- A step of a client that has no result yet leaves the results as they were. -/
theorem okResult_of_update {clients : Client → TxnPhase Q R} {client : Client}
    {phase : TxnPhase Q R} (before : (clients client).okResult = none)
    (after : phase.okResult = none) (other : Client) :
    (Function.update clients client phase other).okResult =
      (clients other).okResult := by
  by_cases same : other = client
  · subst same
    rw [Function.update_self, before, after]
  · rw [Function.update_of_ne same]

/-- The invariant of the system. -/
structure Invariant (store : RocksDbCFTxnStore) (base : ByteDb)
    (program : Client → Q → TxnAction Q R) (start : Client → HandleKind × Q)
    (s : PessimisticSystem Client Q R) : Prop where
  began : ∀ client origin, (s.clients client).origin = some origin →
    origin = start client
  tracks : ∀ client t, s.clients client = .running t →
    Tracks store (program client) (s.data base) s.locks client t
  holders : ∀ client k, s.locks k = some client →
    ∃ t, s.clients client = .running t
  ran : ∀ entry ∈ s.log, (entry.kind, entry.start) = start entry.client ∧
    entry.Ran store program
  results : ∀ client, s.log.filterMap (CommittedTxn.resultFor client) =
    (s.clients client).okResult.toList
  serial : (∀ entry ∈ s.log, entry.WritesItsReads) →
    (∀ entry ∈ s.log, entry.Undisturbed) →
    SerialHistory CommittedTxn.batch (CommittedTxn.Justified store program) base
      s.log

variable {start : Client → HandleKind × Q}

theorem Invariant.initial (start : Client → HandleKind × Q) :
    Invariant store base program start (initial start) where
  began := by
    intro client origin began
    cases began
    rfl
  tracks := by
    intro client t running
    cases running
  holders := by
    intro client k held
    cases held
  ran := by
    intro entry member
    cases member
  results := fun _ => rfl
  serial := fun _ _ => SerialHistory.nil

theorem Invariant.begin (invariant : Invariant store base program start s)
    {client : Client} {kind : HandleKind} {first : Q}
    (waiting : s.clients client = .waiting kind first) :
    Invariant store base program start
      { s with
        clients := Function.update s.clients client
          (.running { kind, start := first
                      state := TxnState.begin store kind first
                      early := [], locked := [] }) } where
  began := by
    intro other origin began
    exact invariant.began other origin
      (origin_of_update (.inl (by rw [waiting]; rfl)) began)
  tracks := by
    intro other t running
    rcases running_of_update running with ⟨rfl, begun⟩ | ⟨-, running⟩
    · cases begun
      apply Tracks.begin kind first
      intro k held
      obtain ⟨t, running⟩ := invariant.holders other k held
      rw [waiting] at running
      cases running
    · exact invariant.tracks other t running
  holders := by
    intro other k held
    apply running_update
    intro _
    exact invariant.holders other k held
  ran := invariant.ran
  results := by
    intro other
    exact (invariant.results other).trans (congrArg Option.toList
      (okResult_of_update (by rw [waiting]; rfl) rfl other).symm)
  serial := invariant.serial

theorem Invariant.advance (invariant : Invariant store base program start s)
    {client : Client} {t : RunningTxn Q} {fault : Option Fault}
    {state : TxnState Q} {needed : Option CfKey}
    (running : s.clients client = .running t)
    (advanced : t.state.advance store (program client) (s.data base) fault =
      some (state, needed))
    (free : needed.all (s.mayLock client) = true) :
    Invariant store base program start
      (s.advanced base client t state (t.state.readsKey (program client))
        needed) where
  began := by
    intro other origin began
    exact invariant.began other origin
      (origin_of_update (.inl (by rw [running]; rfl)) began)
  tracks := by
    intro other t' otherRunning
    rcases running_of_update otherRunning with
      ⟨rfl, now⟩ | ⟨differs, otherRunning⟩
    · cases now
      exact tracks_advanced (invariant.tracks other t running) advanced
    · exact (invariant.tracks other t' otherRunning).transfer
        (fun k => lock_other differs free) (fun _ _ => rfl)
  holders := by
    intro other k held
    apply running_update
    intro differs
    exact invariant.holders other k ((lock_other differs free).mp held)
  ran := invariant.ran
  results := by
    intro other
    exact (invariant.results other).trans (congrArg Option.toList
      (okResult_of_update (by rw [running]; rfl) rfl other).symm)
  serial := invariant.serial

/-- The entry a commit appends. -/
def entryOf (client : Client) (t : RunningTxn Q) (result : R) :
    CommittedTxn Client Q R :=
  { client, kind := t.kind, start := t.start, txn := t.state.handle.txn, result
    early := t.early, locked := t.locked }

/-- The log afterwards: a commit that succeeds is appended. -/
theorem finished_log (base : ByteDb) (s : PessimisticSystem Client Q R)
    (client : Client) (t : RunningTxn Q) (fault : Option Fault)
    (ending : TxnEnding R) :
    (s.finished base client t fault ending).log =
      match (t.state.handle.finish (s.data base) fault ending).1 with
      | .ok result => s.log ++ [entryOf client t result]
      | .error _ => s.log :=
  rfl

/-- The log replays to the contents that the ending of the source leaves. -/
theorem finished_data (base : ByteDb) (s : PessimisticSystem Client Q R)
    (client : Client) (t : RunningTxn Q) (fault : Option Fault)
    (ending : TxnEnding R) :
    (s.finished base client t fault ending).data base =
      (t.state.handle.finish (s.data base) fault ending).2 := by
  rw [data, finished_log]
  rcases t.state.handle.finish_cases (s.data base) fault ending with
    ⟨result, -, committed⟩ | ⟨e, refused⟩
  · rw [committed, List.map_append, List.map_singleton, replay_concat]
    rfl
  · rw [refused]
    rfl

/-- The end of a transaction: its staged writes are committed, or nothing is. -/
theorem finished_cases (base : ByteDb) (s : PessimisticSystem Client Q R)
    (client : Client) (t : RunningTxn Q) (fault : Option Fault)
    (ending : TxnEnding R) :
    let ended := s.finished base client t fault ending
    (∃ result, ending = .commit result ∧
      ended.clients = Function.update s.clients client (.ended (.ok result)) ∧
      ended.log = s.log ++ [entryOf client t result] ∧
      ended.data base = applyBatch (s.data base) t.state.handle.txn.staged) ∨
    (∃ e, ended.clients =
      Function.update s.clients client (.ended (.error e))) ∧
      ended.log = s.log ∧ ended.data base = s.data base := by
  intro ended
  have contents : ended.data base = _ :=
    finished_data base s client t fault ending
  have log : ended.log = _ := finished_log base s client t fault ending
  rcases t.state.handle.finish_cases (s.data base) fault ending with
    ⟨result, isCommit, committed⟩ | ⟨e, refused⟩
  · rw [committed] at contents log
    refine .inl ⟨result, isCommit, ?_, log, contents⟩
    simp only [ended, finished, committed]
  · rw [refused] at contents log
    refine .inr ⟨⟨e, ?_⟩, log, contents⟩
    simp only [ended, finished, refused]

theorem finished_locks (s : PessimisticSystem Client Q R) (client : Client)
    (t : RunningTxn Q) (fault : Option Fault) (ending : TxnEnding R)
    (k : CfKey) :
    (s.finished base client t fault ending).locks k =
      if s.locks k = some client then none else s.locks k :=
  rfl

/-- The locks that are held after a transaction ended are those of others. -/
theorem finished_holds {client other : Client} {t : RunningTxn Q}
    {fault : Option Fault} {ending : TxnEnding R} {k : CfKey} :
    (s.finished base client t fault ending).locks k = some other ↔
      other ≠ client ∧ s.locks k = some other := by
  rw [finished_locks]
  by_cases own : s.locks k = some client
  · rw [if_pos own, own]
    constructor
    · intro held
      cases held
    · rintro ⟨differs, same⟩
      exact absurd (Option.some.inj same).symm differs
  · rw [if_neg own]
    constructor
    · intro held
      refine ⟨?_, held⟩
      rintro rfl
      exact own held
    · exact And.right

/-- A commit of a client that tracks its locks leaves the keys others have locked
as they were. -/
theorem finished_record (invariant : Invariant store base program start s)
    {client other : Client} {t : RunningTxn Q} (fault : Option Fault)
    (ending : TxnEnding R) (running : s.clients client = .running t)
    (differs : other ≠ client) {k : CfKey} (held : s.locks k = some other) :
    (s.data base).record k =
      ((s.finished base client t fault ending).data base).record k := by
  rcases finished_cases base s client t fault ending with
    ⟨result, -, -, -, applied⟩ | ⟨-, -, same⟩
  · have untouched : ¬ Touches ByteDb t.state.handle.txn.staged k := by
      rintro ⟨op, staged, target⟩
      have target : op.target = k := target
      have own := (invariant.tracks client t running).staged op staged
      rw [target, held] at own
      exact differs (Option.some.inj own)
    rw [applied]
    exact (cell_applyBatch_of_untouched (s.data base) untouched).symm
  · rw [same]

theorem Invariant.finish (invariant : Invariant store base program start s)
    {client : Client} {t : RunningTxn Q} {fault : Option Fault}
    {ending : TxnEnding R} (running : s.clients client = .running t)
    (finishes : program client t.state.program = .finish ending) :
    Invariant store base program start
      (s.finished base client t fault ending) where
  began := by
    intro other origin began
    exact invariant.began other origin (origin_of_update (.inr rfl) began)
  tracks := by
    intro other t' otherRunning
    rcases running_of_update otherRunning with
      ⟨-, ended⟩ | ⟨differs, otherRunning⟩
    · cases ended
    · exact (invariant.tracks other t' otherRunning).transfer
        (fun k => finished_holds.trans (and_iff_right differs))
        (fun k held =>
          finished_record invariant fault ending running differs held)
  holders := by
    intro other k held
    obtain ⟨differs, held⟩ := finished_holds.mp held
    obtain ⟨t', otherRunning⟩ := invariant.holders other k held
    exact ⟨t', (Function.update_of_ne differs _ s.clients).trans otherRunning⟩
  ran := by
    rcases finished_cases base s client t fault ending with
      ⟨result, isCommit, -, appended, -⟩ | ⟨-, same, -⟩
    · obtain ⟨trace, run, -, early⟩ := (invariant.tracks client t running).run
      rw [appended]
      intro entry member
      rcases List.mem_append.mp member with before | new
      · exact invariant.ran entry before
      · rw [List.mem_singleton.mp new]
        refine ⟨invariant.began client _ (by rw [running]; rfl), trace, t.state,
          run, rfl, ?_, early⟩
        rw [isCommit] at finishes
        exact finishes
    · rw [same]
      exact invariant.ran
  results := by
    intro other
    have before := invariant.results other
    rcases finished_cases base s client t fault ending with
      ⟨result, -, clients, appended, -⟩ | ⟨⟨e, clients⟩, same, -⟩
    · rw [clients, appended, List.filterMap_append, before]
      by_cases isClient : other = client
      · subst isClient
        rw [Function.update_self, running]
        simp [CommittedTxn.resultFor, entryOf, TxnPhase.okResult]
      · rw [Function.update_of_ne isClient]
        simp [CommittedTxn.resultFor, entryOf, Ne.symm isClient]
    · rw [clients, same, before,
        okResult_of_update (by rw [running]; rfl) rfl other]
  serial := by
    rcases finished_cases base s client t fault ending with
      ⟨result, isCommit, -, appended, -⟩ | ⟨-, same, -⟩
    · rw [appended]
      intro writes undisturbed
      have before := invariant.serial
        (fun entry member => writes entry (List.mem_append_left _ member))
        (fun entry member => undisturbed entry (List.mem_append_left _ member))
      have last : entryOf client t result ∈ s.log ++ [entryOf client t result] :=
        List.mem_append_right _ (List.mem_singleton_self _)
      have alone := (invariant.tracks client t running).ranAlone
        (writes _ last) (undisturbed _ last)
      rw [isCommit] at finishes
      exact before.concat ⟨t.state, alone, rfl, finishes⟩
    · rw [same]
      exact invariant.serial

/-- Every interleaving keeps the invariant. -/
theorem invariant_of_reachable
    (reached : Reachable store base program (initial start) s) :
    Invariant store base program start s := by
  induction reached with
  | refl => exact .initial start
  | tail earlier last inductionHypothesis =>
      obtain ⟨step, taken⟩ := last
      rcases step_cases taken with ⟨client, kind, start, waiting, rfl⟩ |
        ⟨client, t, fault, state, needed, running, advanced, free, rfl⟩ |
        ⟨client, t, fault, ending, running, finishes, rfl⟩
      · exact inductionHypothesis.begin waiting
      · exact inductionHypothesis.advance running advanced free
      · exact inductionHypothesis.finish running finishes

theorem reachable_of_run {steps : List (TxnStep Client)}
    (ran : run? store base program s steps = some next) :
    Reachable store base program s next :=
  reachable_of_foldlM ran

end PessimisticSystem

end RockSolid
