/-
Module: RockSolid.Semantics.TransferFunds
Layer: Semantics
Purpose: The money transfer of the guide (README.GUIDE.md, `transfer_funds`) as
  a program of a pessimistic transaction, and the sum of the balances that the
  committed contents hold.
Trusted boundary: human-reviewed model of the documented program; `i64` addition
  wraps as in a release build, and where a debug build panics nothing is
  committed
Main exports: Account, Transfer, TransferState, transferFunds, accountAt,
  totalBalance
-/
import Mathlib.Algebra.BigOperators.Group.Finset.Basic
import RockSolid.Semantics.PessimisticSystem

namespace RockSolid

open Foundation

/-- `Account` of the guide. -/
structure Account where
  id : String
  balance : Int64
deriving DecidableEq, Repr

/-- The arguments of `transfer_funds`. -/
structure Transfer where
  fromAccKey : String
  toAccKey : String
  amount : Int64
deriving DecidableEq, Repr

/-- Where a call of `transfer_funds` stands: before its two reads, before its two
writes, or at one of its ends. -/
inductive TransferState where
  | getFrom
  | getTo (fromAccount : Account)
  | setFrom (fromAccount toAccount : Account)
  | setTo (toAccount : Account)
  | commit
  | rollback (error : StoreError)
  | abandon (error : StoreError)

namespace Transfer

/-- `from_account.balance -= amount`. -/
def debit (call : Transfer) (account : Account) : Account :=
  { account with balance := account.balance - call.amount }

/-- `to_account.balance += amount`. -/
def credit (call : Transfer) (account : Account) : Account :=
  { account with balance := account.balance + call.amount }

/-- The test of the balance, and the two assignments. -/
def checkFunds (call : Transfer) (fromAccount toAccount : Account) :
    TransferState :=
  if fromAccount.balance < call.amount then
    .rollback (.other "Insufficient funds")
  else .setFrom (call.debit fromAccount) (call.credit toAccount)

end Transfer

/-- `ctx.get(key)?.ok_or_else(..)?`. -/
def foundAccount (key : String) (resume : Account → TransferState) :
    StoreResult (Option Account) → TransferState
  | .ok (some account) => resume account
  | .ok none => .abandon (.other s!"Account not found: {key}")
  | .error e => .abandon e

/-- `ctx.set(key, &account)?`. -/
def storedAccount (next : TransferState) : StoreResult Unit → TransferState
  | .ok () => next
  | .error e => .abandon e

section Codec

variable [Serialize Account] [DeserializeOwned Account]

/-- `transfer_funds`. -/
def transferFunds (call : Transfer) : TransferState → TxnAction TransferState Unit
  | .getFrom =>
      .get (V := Account) inferInstance inferInstance defaultColumnFamilyName
        call.fromAccKey (foundAccount call.fromAccKey .getTo)
  | .getTo fromAccount =>
      .get (V := Account) inferInstance inferInstance defaultColumnFamilyName
        call.toAccKey (foundAccount call.toAccKey (call.checkFunds fromAccount))
  | .setFrom fromAccount toAccount =>
      .put inferInstance inferInstance defaultColumnFamilyName call.fromAccKey
        fromAccount (storedAccount (.setTo toAccount))
  | .setTo toAccount =>
      .put inferInstance inferInstance defaultColumnFamilyName call.toAccKey
        toAccount (storedAccount .commit)
  | .commit => .finish (.commit ())
  | .rollback e => .finish (.rollback e)
  | .abandon e => .finish (.abandon e)

/-- Clients that each make one call of `transfer_funds`. -/
def transferClients {Client : Type} :
    PessimisticSystem Client TransferState Unit :=
  .initial fun _ => (.context, .getFrom)

end Codec

/-- The record of an account in the default family. -/
def accountKey (key : String) : CfKey :=
  ⟨defaultColumnFamilyName, AsBytes.asBytes key⟩

/-- What `get` of the store returns for an account. -/
def accountAt [DeserializeOwned Account] (store : RocksDbCFTxnStore)
    (data : ByteDb) (key : String) : Option Account :=
  (CFOperations.get store.access defaultColumnFamilyName key data none)
    |>.toOption.join

/-- The balance of an account; a missing account holds nothing. -/
def balanceAt [DeserializeOwned Account] (store : RocksDbCFTxnStore)
    (data : ByteDb) (key : String) : Int64 :=
  (accountAt store data key).elim 0 Account.balance

/-- `i64` addition. -/
instance int64AddCommMonoid : AddCommMonoid Int64 where
  add_assoc := Int64.add_assoc
  zero_add := Int64.zero_add
  add_zero := Int64.add_zero
  add_comm := Int64.add_comm
  nsmul := nsmulRec

/-- The sum of the balances of the listed accounts. -/
def totalBalance [DeserializeOwned Account] (store : RocksDbCFTxnStore)
    (accounts : Finset String) (data : ByteDb) : Int64 :=
  ∑ key ∈ accounts, balanceAt store data key

end RockSolid
