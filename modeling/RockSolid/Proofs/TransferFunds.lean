/-
Module: RockSolid.Proofs.TransferFunds
Layer: Proofs
Purpose: The money transfer of the guide, run among other transactions.  A
  committed transfer wrote both accounts it read; over the contents it would have
  read alone it keeps the sum of the balances.
Trusted boundary: none
Main exports: transferFunds_writesItsReads, transferFunds_conserves,
  pessimistic_serializable
-/
import RockSolid.Proofs.PessimisticSerial
import RockSolid.Semantics.TransferFunds

namespace RockSolid

open Foundation KeyedStore

section Reading

variable {K V : Type} [AsBytes K] [DeserializeOwned V]

/-- `get` of the store is `get_raw` and the decoding of what it finds. -/
theorem CFOperations.get_eq (access : CfAccess) (cfName : String) (key : K)
    (data : ByteDb) (fault : Option Fault) :
    CFOperations.get (V := V) access cfName key data fault =
      match CFOperations.getRaw access cfName key data fault with
      | .ok none => .ok none
      | .ok (some valBytes) => (deserializeValue valBytes).map some
      | .error e => .error e := by
  simp only [get, getRaw, serializeKey, bind, Except.bind]
  cases access.family cfName with
  | error e => rfl
  | ok cf =>
      dsimp only
      rcases orFault fault (access.db.read data ⟨cf, AsBytes.asBytes key⟩) with
        e | (_ | bytes) <;> rfl

/-- `get_in_txn` returns what `get` of the store would return over the contents
that the transaction sees. -/
theorem RocksDbCFTxnStore.getInTxn_fst (store : RocksDbCFTxnStore)
    (cfName : String) (key : K) (data : ByteDb) (fault : Option Fault)
    (txn : NativeTxn) :
    (store.getInTxn (V := V) cfName key data fault txn).1 =
      CFOperations.get store.access cfName key (txn.view data) fault := by
  have pinned : (store.getPinnedInTxn cfName key data fault txn).1 =
      CFOperations.getRaw store.access cfName key (txn.view data) fault := by
    simp only [getPinnedInTxn, CFOperations.getRaw, serializeKey,
      Method.liftM_apply, bind, Except.bind]
    cases store.access.family cfName <;> rfl
  rw [getInTxn, Method.bind_apply, CFOperations.get_eq, ← pinned]
  rcases store.getPinnedInTxn cfName key data fault txn with
    ⟨e | (_ | bytes), after⟩
  · rfl
  · rfl
  · simp only
    cases (deserializeValue bytes : StoreResult V) <;> rfl

end Reading

section Accounts

variable [DeserializeOwned Account] {store : RocksDbCFTxnStore} {data : ByteDb}

theorem accountAt_eq (store : RocksDbCFTxnStore) (data : ByteDb) (key : String) :
    accountAt store data key =
      match store.db.read data (accountKey key) with
      | .ok (some bytes) =>
          (DeserializeOwned.deserialize bytes : Except String Account).toOption
      | _ => none := by
  have raw : CFOperations.getRaw store.access defaultColumnFamilyName key data
      none = (store.db.read data (accountKey key)).mapError .rocksDb := by
    rw [CFOperations.getRaw, store.access.family_default]
    rfl
  rw [accountAt, CFOperations.get_eq, raw]
  rcases store.db.read data (accountKey key) with e | (_ | bytes)
  · rfl
  · rfl
  · dsimp only [Except.mapError]
    rw [deserializeValue]
    cases (DeserializeOwned.deserialize bytes : Except String Account) <;> rfl

/-- An account depends on the contents through its record. -/
theorem accountAt_congr {other : ByteDb} {key : String}
    (same : data.record (accountKey key) = other.record (accountKey key)) :
    accountAt store data key = accountAt store other key := by
  have sameRead : store.db.read data (accountKey key) =
      store.db.read other (accountKey key) :=
    congrArg (store.db.readRecord (accountKey key)) same
  rw [accountAt_eq, accountAt_eq, sameRead]

omit [DeserializeOwned Account] in
theorem accountKey_inj {first second : String} :
    accountKey first = accountKey second ↔ first = second := by
  constructor
  · intro same
    injection same with _ sameBytes
    have sameArray : first.toByteArray.data = second.toByteArray.data :=
      Array.toList_inj.mp sameBytes
    exact String.toByteArray_inj.mp (ByteArray.ext sameArray)
  · exact congrArg accountKey

/-- A put of an encoded account changes this account and no other. -/
theorem accountAt_put {account : Account} {bytes : Bytes} {key other : String}
    (decodes : DeserializeOwned.deserialize bytes = .ok account) :
    accountAt store (data.apply (.put (accountKey key) bytes)) other =
      if other = key then some account else accountAt store data other := by
  by_cases same : other = key
  · subst same
    have stored : (data.apply (.put (accountKey other) bytes)).record
        (accountKey other) = { base := some bytes, operands := [] } :=
      cell_apply_target data (.put (accountKey other) bytes)
    rw [if_pos rfl, accountAt_eq, DbHandle.read, stored, DbHandle.readRecord]
    simp only [decodes]
    rfl
  · rw [if_neg same]
    refine accountAt_congr (cell_apply_of_ne data _ _ ?_)
    exact fun sameKey => same (accountKey_inj.mp sameKey).symm

/-- A put of an encoded account changes the sum by the new balance less the old
one. -/
theorem totalBalance_put (store : RocksDbCFTxnStore) (data : ByteDb)
    {accounts : Finset String} {account : Account} {bytes : Bytes}
    {key : String} (listed : key ∈ accounts)
    (decodes : DeserializeOwned.deserialize bytes = .ok account) :
    totalBalance store accounts (data.apply (.put (accountKey key) bytes)) +
        balanceAt store data key =
      totalBalance store accounts data + account.balance := by
  have others : ∑ other ∈ accounts.erase key,
      balanceAt store (data.apply (.put (accountKey key) bytes)) other =
        ∑ other ∈ accounts.erase key, balanceAt store data other := by
    apply Finset.sum_congr rfl
    intro other member
    rw [balanceAt, accountAt_put decodes, if_neg (Finset.ne_of_mem_erase member)]
    rfl
  have own : balanceAt store (data.apply (.put (accountKey key) bytes)) key =
      account.balance := by
    rw [balanceAt, accountAt_put decodes, if_pos rfl]
    rfl
  rw [totalBalance, totalBalance, ← Finset.add_sum_erase _ _ listed,
    ← Finset.add_sum_erase _ _ listed, others, own]
  grind

end Accounts

section Locations

variable [Serialize Account] [DeserializeOwned Account]
  {store : RocksDbCFTxnStore} {data : ByteDb} {call : Transfer}
  {seen : String → Account → Prop} {t next : TxnState TransferState}

/-- The two accounts a transfer writes come from the two it has seen. -/
def Transfer.Moves (call : Transfer) (seen : String → Account → Prop)
    (fromAccount toAccount : Account) : Prop :=
  ∃ fromSeen toSeen, seen call.fromAccKey fromSeen ∧ seen call.toAccKey toSeen ∧
    fromAccount = call.debit fromSeen ∧ toAccount = call.credit toSeen

/-- What a transfer has staged at each of its locations, and what it has seen. -/
def Transfer.Staged (call : Transfer) (seen : String → Account → Prop)
    (staged : List WriteOp) : TransferState → Prop
  | .getFrom => staged = []
  | .getTo fromAccount => staged = [] ∧ seen call.fromAccKey fromAccount
  | .setFrom fromAccount toAccount =>
      staged = [] ∧ call.Moves seen fromAccount toAccount
  | .setTo toAccount =>
      ∃ fromAccount bytes, call.Moves seen fromAccount toAccount ∧
        Serialize.serialize fromAccount = .ok bytes ∧
        staged = [.put (accountKey call.fromAccKey) bytes]
  | .commit =>
      ∃ fromAccount toAccount fromBytes toBytes,
        call.Moves seen fromAccount toAccount ∧
        Serialize.serialize fromAccount = .ok fromBytes ∧
        Serialize.serialize toAccount = .ok toBytes ∧
        staged = [.put (accountKey call.fromAccKey) fromBytes,
          .put (accountKey call.toAccKey) toBytes]
  | .rollback _ | .abandon _ => True

omit [Serialize Account] in
/-- Before its first write a transaction reads the committed accounts. -/
theorem Handle.get_account {handle : Handle} {key : String}
    {fault : Option Fault} {account : Account} (ready : handle.Ready store)
    (unstaged : handle.txn.staged = [])
    (found : (handle.get store defaultColumnFamilyName key data fault).1 =
      .ok (some account)) :
    accountAt store data key = some account := by
  have sees : handle.txn.view data = data := by
    rw [NativeTxn.view, unstaged]
    rfl
  rw [get_eq defaultColumnFamilyName key ready data fault,
    RocksDbCFTxnStore.getInTxn_fst, sees] at found
  cases fault with
  | none => rw [accountAt, found]; rfl
  | some fault => cases found

/-- The continuation of a read runs on a committed account, or the transfer is
abandoned. -/
theorem staged_foundAccount {handle : Handle} {key : String}
    {fault : Option Fault} {resume : Account → TransferState}
    (ready : handle.Ready store) (unstaged : handle.txn.staged = [])
    (resumed : ∀ account, accountAt store data key = some account →
      call.Staged seen [] (resume account)) :
    let answer := handle.get store defaultColumnFamilyName key data fault
    answer.2.Ready store ∧
      call.Staged seen answer.2.txn.staged (foundAccount key resume answer.1) := by
  intro answer
  obtain ⟨stillReady, same⟩ := Handle.get_keeps (V := Account)
    defaultColumnFamilyName key ready data fault
  refine ⟨stillReady, ?_⟩
  rw [show answer.2.txn.staged = [] from same.trans unstaged]
  rcases found : answer.1 with e | (_ | account)
  · trivial
  · trivial
  · exact resumed account (Handle.get_account ready unstaged found)

omit [DeserializeOwned Account] in
/-- The continuation of a write runs with the put staged, or the transfer is
abandoned. -/
theorem staged_storedAccount {handle : Handle} {key : String}
    {fault : Option Fault} {account : Account} {after : TransferState}
    (ready : handle.Ready store)
    (stored : ∀ bytes, Serialize.serialize account = .ok bytes →
      call.Staged seen (handle.txn.staged ++ [.put (accountKey key) bytes])
        after) :
    let answer := handle.put store defaultColumnFamilyName key account fault
    answer.2.Ready store ∧
      call.Staged seen answer.2.txn.staged (storedAccount after answer.1) := by
  intro answer
  obtain ⟨stillReady, ⟨bytes, encoded, ok, staged⟩ | ⟨⟨e, failed⟩, -⟩⟩ :=
    Handle.put_cases defaultColumnFamilyName key account ready fault
  · refine ⟨stillReady, ?_⟩
    rw [show answer.1 = .ok () from ok, show answer.2.txn.staged = _ from staged]
    exact stored bytes encoded
  · refine ⟨stillReady, ?_⟩
    rw [show answer.1 = .error e from failed]
    trivial

/-- One call of a transfer. -/
theorem transferFunds_step (ready : t.handle.Ready store)
    (staged : call.Staged seen t.handle.txn.staged t.program)
    (advances : TxnState.Advances store (transferFunds call) data t next)
    (shows : ∀ key account, accountAt store data key = some account →
      seen key account) :
    next.handle.Ready store ∧
      call.Staged seen next.handle.txn.staged next.program := by
  obtain ⟨fault, needed, advanced⟩ := advances
  obtain ⟨program, handle⟩ := t
  cases program with
  | getFrom =>
      cases advanced
      apply staged_foundAccount ready staged
      intro account found
      exact ⟨rfl, shows _ account found⟩
  | getTo fromAccount =>
      obtain ⟨unstaged, fromSeen⟩ := staged
      cases advanced
      apply staged_foundAccount ready unstaged
      intro toAccount found
      rw [Transfer.checkFunds]
      split
      · trivial
      · exact ⟨rfl, fromAccount, toAccount, fromSeen, shows _ _ found, rfl, rfl⟩
  | setFrom fromAccount toAccount =>
      obtain ⟨unstaged, moves⟩ := staged
      cases advanced
      apply staged_storedAccount ready
      intro bytes encoded
      exact ⟨fromAccount, bytes, moves, encoded, by rw [unstaged]; rfl⟩
  | setTo toAccount =>
      obtain ⟨fromAccount, fromBytes, moves, fromEncoded, stagedFrom⟩ := staged
      cases advanced
      apply staged_storedAccount ready
      intro toBytes encoded
      exact ⟨fromAccount, toAccount, fromBytes, toBytes, moves, fromEncoded,
        encoded, by rw [stagedFrom]; rfl⟩
  | commit => cases advanced
  | rollback e => cases advanced
  | abandon e => cases advanced

/-- A transfer that makes its calls alone has seen the accounts of the contents it
runs over. -/
theorem transferFunds_alone {kind : HandleKind}
    (run : Relation.ReflTransGen
      (TxnState.Advances store (transferFunds call) data)
      (TxnState.begin store kind .getFrom) t) :
    t.handle.Ready store ∧
      call.Staged (fun key account => accountAt store data key = some account)
        t.handle.txn.staged t.program := by
  induction run with
  | refl => exact ⟨Handle.ready_begin store kind, Handle.begin_staged store kind⟩
  | tail earlier last inductionHypothesis =>
      obtain ⟨ready, staged⟩ := inductionHypothesis
      exact transferFunds_step ready staged last fun _ _ found => found

theorem transferFunds_readsKey {k : CfKey}
    (reads : t.readsKey (transferFunds call) = some k) :
    k = accountKey call.fromAccKey ∨ k = accountKey call.toAccKey := by
  obtain ⟨program, handle⟩ := t
  cases program with
  | getFrom => exact .inl (Option.some.inj reads).symm
  | getTo fromAccount => exact .inr (Option.some.inj reads).symm
  | setFrom fromAccount toAccount => cases reads
  | setTo toAccount => cases reads
  | commit => cases reads
  | rollback e => cases reads
  | abandon e => cases reads

/-- A transfer that makes its calls among others reads its two accounts only. -/
theorem transferFunds_traced {kind : HandleKind}
    {trace : List (ByteDb × Option CfKey)}
    (run : TracedRun (TxnState.Advances store (transferFunds call))
      (TxnState.readsKey (transferFunds call))
      (TxnState.begin store kind .getFrom) trace t) :
    (t.handle.Ready store ∧
      call.Staged (fun _ _ => True) t.handle.txn.staged t.program) ∧
      ∀ contents k, (contents, some k) ∈ trace →
        k = accountKey call.fromAccKey ∨ k = accountKey call.toAccKey := by
  induction run with
  | refl =>
      refine ⟨⟨Handle.ready_begin store kind, Handle.begin_staged store kind⟩, ?_⟩
      intro contents k member
      cases member
  | tail earlier last inductionHypothesis =>
      obtain ⟨⟨ready, staged⟩, reads⟩ := inductionHypothesis
      refine ⟨transferFunds_step ready staged last fun _ _ _ => trivial, ?_⟩
      intro contents k member
      rcases List.mem_append.mp member with before | now
      · exact reads contents k before
      · rw [List.mem_singleton, Prod.mk.injEq] at now
        exact transferFunds_readsKey now.2.symm

theorem transferFunds_commits {program : TransferState} {result : Unit}
    (finishes : transferFunds call program = .finish (.commit result)) :
    program = .commit := by
  cases program <;> cases finishes
  rfl

end Locations

section Transfers

variable {Client : Type} [Serialize Account] [DeserializeOwned Account]
  {store : RocksDbCFTxnStore} {data : ByteDb} {transfers : Client → Transfer}
  {entry : CommittedTxn Client TransferState Unit}

/-- A committed transfer wrote the accounts it read. -/
theorem transferFunds_writesItsReads
    (began : (entry.kind, entry.start) = (.context, .getFrom))
    (ran : entry.Ran store fun client => transferFunds (transfers client)) :
    entry.WritesItsReads := by
  obtain ⟨trace, finished, run, sameTxn, finishes, early⟩ := ran
  rw [(Prod.mk.inj began).2] at run
  obtain ⟨⟨-, staged⟩, reads⟩ := transferFunds_traced run
  rw [transferFunds_commits finishes, sameTxn] at staged
  obtain ⟨_, _, fromBytes, toBytes, -, -, -, same⟩ := staged
  intro k contents isEarly
  rw [same]
  rcases reads contents k (early k contents isEarly) with rfl | rfl
  · exact ⟨_, List.mem_cons_self, rfl⟩
  · exact ⟨_, List.mem_cons_of_mem _ (List.mem_singleton_self _), rfl⟩

/-- A transfer between two listed accounts that runs alone keeps the sum of the
balances. -/
theorem transferFunds_conserves {accounts : Finset String}
    (lossless : ∀ (account : Account) (bytes : Bytes),
      Serialize.serialize account = .ok bytes →
        DeserializeOwned.deserialize bytes = .ok account)
    (distinct : ∀ client,
      (transfers client).fromAccKey ≠ (transfers client).toAccKey)
    (listed : ∀ client, (transfers client).fromAccKey ∈ accounts ∧
      (transfers client).toAccKey ∈ accounts)
    (began : (entry.kind, entry.start) = (.context, .getFrom))
    (justified : entry.Justified store
      (fun client => transferFunds (transfers client)) data) :
    totalBalance store accounts (applyBatch data entry.batch) =
      totalBalance store accounts data := by
  obtain ⟨finished, run, sameTxn, finishes⟩ := justified
  rw [(Prod.mk.inj began).2] at run
  obtain ⟨-, staged⟩ := transferFunds_alone run
  rw [transferFunds_commits finishes, sameTxn] at staged
  obtain ⟨fromAccount, toAccount, fromBytes, toBytes,
    ⟨fromSeen, toSeen, fromFound, toFound, rfl, rfl⟩, fromEncoded, toEncoded,
    same⟩ := staged
  have fromDecodes := lossless _ _ fromEncoded
  have toDecodes := lossless _ _ toEncoded
  have debited := totalBalance_put store data (listed entry.client).1 fromDecodes
  have credited := totalBalance_put store (data.apply
    (.put (accountKey (transfers entry.client).fromAccKey) fromBytes))
      (listed entry.client).2 toDecodes
  have fromHeld : balanceAt store data (transfers entry.client).fromAccKey =
      fromSeen.balance := by
    rw [balanceAt, fromFound]
    rfl
  have toHeld : balanceAt store (data.apply
      (.put (accountKey (transfers entry.client).fromAccKey) fromBytes))
        (transfers entry.client).toAccKey = toSeen.balance := by
    rw [balanceAt, accountAt_put fromDecodes,
      if_neg (distinct entry.client).symm, toFound]
    rfl
  have applied : applyBatch data entry.batch = (data.apply
      (.put (accountKey (transfers entry.client).fromAccKey) fromBytes)).apply
        (.put (accountKey (transfers entry.client).toAccKey) toBytes) := by
    rw [CommittedTxn.batch, same]
    rfl
  rw [applied]
  simp only [fromHeld, toHeld, Transfer.debit, Transfer.credit] at debited credited
  grind

end Transfers

/-- The committed transactions of clients that each make one transfer. -/
theorem transferClients_log {Client : Type} [DecidableEq Client]
    [Serialize Account] [DeserializeOwned Account] {store : RocksDbCFTxnStore}
    {base : ByteDb} {transfers : Client → Transfer}
    {s : PessimisticSystem Client TransferState Unit}
    (reached : PessimisticSystem.Reachable store base
      (fun client => transferFunds (transfers client)) transferClients s)
    {entry : CommittedTxn Client TransferState Unit} (member : entry ∈ s.log) :
    (entry.kind, entry.start) = (.context, .getFrom) ∧ entry.WritesItsReads := by
  have invariant := PessimisticSystem.invariant_of_reachable reached
  obtain ⟨began, ran⟩ := invariant.ran entry member
  exact ⟨began, transferFunds_writesItsReads began ran⟩

section Serializability

/-- Any number of pessimistic transactions in any interleaving, held by contexts
or by closures, each of which writes what it reads.  If nobody commits a change to
a key between a transaction's read of the key and the lock it takes on it, the
committed contents are those of a serial execution of the transactions that
committed; these are the clients' own transactions, one for each client that got
`Ok`, with its result.  In particular transfers between two different accounts
keep the sum of the balances. -/
theorem pessimistic_serializable (store : RocksDbCFTxnStore) (base : ByteDb) :
    (∀ {Client Q R : Type} [DecidableEq Client]
      (program : Client → Q → TxnAction Q R) (start : Client → HandleKind × Q)
      (s : PessimisticSystem Client Q R),
      PessimisticSystem.Reachable store base program (.initial start) s →
      (∀ entry ∈ s.log, entry.WritesItsReads) →
      (∀ entry ∈ s.log, entry.Undisturbed) →
      s.Serializable store base program ∧
        (∀ entry ∈ s.log, (entry.kind, entry.start) = start entry.client) ∧
        ∀ client, s.log.filterMap (CommittedTxn.resultFor client) =
          (s.clients client).okResult.toList) ∧
    ∀ {Client : Type} [DecidableEq Client] [Serialize Account]
      [DeserializeOwned Account] (accounts : Finset String)
      (transfers : Client → Transfer)
      (s : PessimisticSystem Client TransferState Unit),
      (∀ (account : Account) (bytes : Bytes),
        Serialize.serialize account = .ok bytes →
          DeserializeOwned.deserialize bytes = .ok account) →
      (∀ client, (transfers client).fromAccKey ≠ (transfers client).toAccKey) →
      (∀ client, (transfers client).fromAccKey ∈ accounts ∧
        (transfers client).toAccKey ∈ accounts) →
      PessimisticSystem.Reachable store base
        (fun client => transferFunds (transfers client)) transferClients s →
      (∀ entry ∈ s.log, entry.Undisturbed) →
      totalBalance store accounts (s.data base) =
        totalBalance store accounts base := by
  constructor
  · intro Client Q R _ program start s reached writes undisturbed
    have invariant := PessimisticSystem.invariant_of_reachable reached
    have serial := invariant.serial writes undisturbed
    have began : ∀ entry ∈ s.log,
        (entry.kind, entry.start) = start entry.client :=
      fun entry member => (invariant.ran entry member).1
    exact ⟨⟨s.log, .refl _, serial, rfl⟩, began, invariant.results⟩
  · intro Client _ _ _ accounts transfers s lossless distinct listed reached
      undisturbed
    have serial := (PessimisticSystem.invariant_of_reachable reached).serial
      (fun entry member => (transferClients_log reached member).2) undisturbed
    apply serial.preserves
    intro entry member before justified
    obtain ⟨began, -⟩ := transferClients_log reached member
    exact transferFunds_conserves lossless distinct listed began justified

namespace Account

/-- The MessagePack map that rmp-serde writes for an account with a short id and
a balance below 128. -/
def toMessagePack (account : Account) : Bytes :=
  let id : Bytes := AsBytes.asBytes account.id
  [0x82, 0xa2, 0x69, 0x64, 0xa0 + UInt8.ofNat id.length] ++ id ++
    [0xa7, 0x62, 0x61, 0x6c, 0x61, 0x6e, 0x63, 0x65,
      UInt8.ofNat account.balance.toNatClampNeg]

/-- The account of such a map. -/
def fromMessagePack : Bytes → Except String Account
  | 0x82 :: 0xa2 :: 0x69 :: 0x64 :: header :: rest =>
      let length := header.toNat - 0xa0
      match fromUtf8 (rest.take length), rest.drop length with
      | some id, [0xa7, 0x62, 0x61, 0x6c, 0x61, 0x6e, 0x63, 0x65, balance] =>
          .ok { id, balance := Int64.ofNat balance.toNat }
      | _, _ => .error "invalid type"
  | _ => .error "invalid type"

instance : DeserializeOwned Account := ⟨fromMessagePack⟩

/-- Accounts outside this range are not encoded here. -/
instance : Serialize Account where
  serialize account :=
    if fromMessagePack account.toMessagePack = .ok account then
      .ok account.toMessagePack
    else .error "out of range"

theorem messagePack_lossless (account : Account) (bytes : Bytes)
    (encoded : Serialize.serialize account = .ok bytes) :
    DeserializeOwned.deserialize bytes = .ok account := by
  by_cases inRange : fromMessagePack account.toMessagePack = .ok account
  · have written : Serialize.serialize account = .ok account.toMessagePack :=
      if_pos inRange
    rw [written] at encoded
    cases encoded
    exact inRange
  · have refused : Serialize.serialize account = .error "out of range" :=
      if_neg inRange
    rw [refused] at encoded
    cases encoded

end Account

/-- A store with the default family only. -/
def guideStore : RocksDbCFTxnStore :=
  { db := { columnFamilies := ["default"], fullMerge := fun _ _ _ _ => none }
    cfNames := ["default"] }

/-- Account A holds 100, accounts B and C hold nothing. -/
def openingBalances : ByteDb :=
  Db.empty.applyAll
    [.put (accountKey "acc:A") (Account.toMessagePack ⟨"A", 100⟩),
      .put (accountKey "acc:B") (Account.toMessagePack ⟨"B", 0⟩),
      .put (accountKey "acc:C") (Account.toMessagePack ⟨"C", 0⟩)]

def guideAccounts : Finset String := {"acc:A", "acc:B", "acc:C"}

/-- Two payments from account A. -/
def payments : Bool → Transfer
  | false => ⟨"acc:A", "acc:B", 10⟩
  | true => ⟨"acc:A", "acc:C", 20⟩

theorem payments_distinct (client : Bool) :
    (payments client).fromAccKey ≠ (payments client).toAccKey := by
  cases client <;> decide

theorem payments_listed (client : Bool) :
    (payments client).fromAccKey ∈ guideAccounts ∧
      (payments client).toAccKey ∈ guideAccounts := by
  cases client <;> decide

/-- The client makes its next moves, and the engine fails none. -/
def moves {Client : Type} (client : Client) (count : Nat) :
    List (TxnStep Client) :=
  List.replicate count (.act client none)

/-- The first payment commits before the second, begun earlier, makes its first
read. -/
theorem pessimistic_serializable_payments :
    let program := fun client => transferFunds (payments client)
    ∃ s, PessimisticSystem.run? guideStore openingBalances program
        transferClients ([.begin true, .begin false] ++ moves false 5 ++
          moves true 5) = some s ∧
      s.Serializable guideStore openingBalances program ∧
      (∀ client, s.log.filterMap (CommittedTxn.resultFor client) = [()]) ∧
      totalBalance guideStore guideAccounts (s.data openingBalances) =
        totalBalance guideStore guideAccounts openingBalances := by
  intro program
  have outcome : (PessimisticSystem.run? guideStore openingBalances program
      transferClients ([.begin true, .begin false] ++ moves false 5 ++
        moves true 5)).map (fun s =>
          (decide (∀ entry ∈ s.log, entry.Undisturbed),
            (s.clients false).okResult, (s.clients true).okResult)) =
      some (true, some (), some ()) := by
    decide +kernel
  obtain ⟨s, ran, facts⟩ := Option.map_eq_some_iff.mp outcome
  obtain ⟨checked, paidB, paidC⟩ : _ ∧ _ ∧ _ := by
    simpa only [Prod.mk.injEq] using facts
  have undisturbed := of_decide_eq_true checked
  have reached := PessimisticSystem.reachable_of_run ran
  have writes : ∀ entry ∈ s.log, entry.WritesItsReads :=
    fun entry member => (transferClients_log reached member).2
  obtain ⟨serializable, conserves⟩ :=
    pessimistic_serializable guideStore openingBalances
  obtain ⟨serial, -, results⟩ :=
    serializable program _ s reached writes undisturbed
  refine ⟨s, ran, serial, ?_, conserves guideAccounts payments s
    Account.messagePack_lossless payments_distinct payments_listed reached
    undisturbed⟩
  intro client
  rw [results client]
  cases client
  · rw [paidB]
    rfl
  · rw [paidC]
    rfl

/-- Both payments read account A before either has locked it.  Both succeed, each
writes what it read, and the second overwrites the balance of the first: no serial
execution ends so.  And a transfer from an account to itself adds its amount. -/
theorem transferFunds_loses_update :
    let program := fun client => transferFunds (payments client)
    (∃ s, PessimisticSystem.run? guideStore openingBalances program
        transferClients ([.begin false, .begin true] ++ moves false 2 ++
          moves true 2 ++ moves false 3 ++ moves true 3) = some s ∧
      (∀ client, (s.clients client).okResult = some ()) ∧
      (∀ entry ∈ s.log, entry.WritesItsReads) ∧
      totalBalance guideStore guideAccounts openingBalances = 100 ∧
      totalBalance guideStore guideAccounts (s.data openingBalances) = 110 ∧
      ¬ s.Serializable guideStore openingBalances program) ∧
    ∃ s, PessimisticSystem.run? guideStore openingBalances
        (fun _ => transferFunds ⟨"acc:A", "acc:A", 10⟩) transferClients
        ([.begin ()] ++ moves () 5) = some s ∧
      totalBalance guideStore guideAccounts (s.data openingBalances) = 110 := by
  intro program
  have opening : totalBalance guideStore guideAccounts openingBalances = 100 := by
    decide +kernel
  constructor
  · have outcome : (PessimisticSystem.run? guideStore openingBalances program
        transferClients ([.begin false, .begin true] ++ moves false 2 ++
          moves true 2 ++ moves false 3 ++ moves true 3)).map (fun s =>
            (totalBalance guideStore guideAccounts (s.data openingBalances),
              (s.clients false).okResult, (s.clients true).okResult)) =
        some (110, some (), some ()) := by
      decide +kernel
    obtain ⟨s, ran, facts⟩ := Option.map_eq_some_iff.mp outcome
    obtain ⟨total, paidB, paidC⟩ : _ ∧ _ ∧ _ := by
      simpa only [Prod.mk.injEq] using facts
    have reached := PessimisticSystem.reachable_of_run ran
    have writes : ∀ entry ∈ s.log, entry.WritesItsReads :=
      fun entry member => (transferClients_log reached member).2
    refine ⟨s, ran, Bool.forall_bool.mpr ⟨paidB, paidC⟩, writes, opening, total,
      ?_⟩
    rintro ⟨history, perm, serial, same⟩
    have kept : totalBalance guideStore guideAccounts
        (replay openingBalances (history.map CommittedTxn.batch)) =
          totalBalance guideStore guideAccounts openingBalances := by
      apply serial.preserves
      intro entry member before justified
      obtain ⟨began, -⟩ := transferClients_log reached (perm.mem_iff.mp member)
      exact transferFunds_conserves Account.messagePack_lossless
        payments_distinct payments_listed began justified
    rw [same, total, opening] at kept
    exact absurd kept (by decide)
  · have outcome : (PessimisticSystem.run? guideStore openingBalances
        (fun _ => transferFunds ⟨"acc:A", "acc:A", 10⟩) transferClients
        ([.begin ()] ++ moves () 5)).map (fun s =>
          totalBalance guideStore guideAccounts (s.data openingBalances)) =
        some 110 := by
      decide +kernel
    exact Option.map_eq_some_iff.mp outcome

end Serializability

end RockSolid
