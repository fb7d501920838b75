/-
Module: RockSolid.Core.Error
Layer: Core
Purpose: Bytes, engine errors and the error type of the crate (src/error.rs).
Trusted boundary: human-reviewed model of the source
Main exports: Bytes, RocksError, StoreError, StoreError.display, StoreResult
-/
import Mathlib.Data.List.Basic

namespace RockSolid

/-- Byte strings as they are handed to RocksDB. -/
abbrev Bytes := List UInt8

/-- `rocksdb::Error`, known here by its message only. -/
structure RocksError where
  message : String
deriving DecidableEq, Repr, Inhabited

/-- `StoreError` of src/error.rs. -/
inductive StoreError where
  | rocksDb (error : RocksError)
  | serialization (message : String)
  | deserialization (message : String)
  | keyEncoding (message : String)
  | keyDecoding (message : String)
  | invalidConfiguration (message : String)
  | transactionRequired
  | io (message : String)
  | notFound (key : Option Bytes)
  | mergeError (message : String)
  | unknownCf (name : String)
  | other (message : String)
deriving DecidableEq, Repr, Inhabited

/-- `{:?}` of the key carried by `NotFound`. -/
def debugKey : Option Bytes → String
  | none => "None"
  | some key =>
      let bytes := String.intercalate ", " (key.map fun byte => toString byte)
      s!"Some([{bytes}])"

/-- The `Display` text that `thiserror` derives for each variant. -/
def StoreError.display : StoreError → String
  | .rocksDb error => s!"RocksDB operation failed: {error.message}"
  | .serialization message => s!"Serialization failed: {message}"
  | .deserialization message => s!"Deserialization failed: {message}"
  | .keyEncoding message => s!"Key encoding failed: {message}"
  | .keyDecoding message => s!"Key decoding failed: {message}"
  | .invalidConfiguration message => s!"Invalid configuration: {message}"
  | .transactionRequired => "Operation requires a transaction context"
  | .io message => s!"Underlying IO error: {message}"
  | .notFound key => s!"Resource not found for key: {debugKey key}"
  | .mergeError message => s!"Merge operation failed: {message}"
  | .unknownCf name => s!"Column Family '{name}' not found or not opened"
  | .other message => s!"Operation failed: {message}"

/-- `Clone for StoreError`: an IO error is kept as its text. -/
def StoreError.clone : StoreError → StoreError
  | .io message => .other s!"(Cloned) IO error: {message}"
  | error => error

/-- `StoreResult` of src/error.rs. -/
abbrev StoreResult := Except StoreError

/-- `rocksdb::DEFAULT_COLUMN_FAMILY_NAME`. -/
def defaultColumnFamilyName : String := "default"

end RockSolid
