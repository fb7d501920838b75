/-
Module: RockSolid.Core.Serialization
Layer: Core
Purpose: Key and value encodings (src/bytes.rs, src/serialization.rs) and the
  value-with-expiry record (src/types.rs).  The codecs of serde/rmp-serde and
  bytevec are not part of the repository and enter as classes.
Trusted boundary: human-reviewed model of the source; `Serialize`,
  `DeserializeOwned` and `ByteDecodable` stand for third-party codecs
Main exports: AsBytes, serializeKey, deserializeKey, serializeValue,
  deserializeValue, ValueWithExpiry, deserializeKv, deserializeKvExpiry
-/
import RockSolid.Core.Error

namespace RockSolid

/-- `AsBytes` of src/bytes.rs. -/
class AsBytes (K : Type) where
  asBytes : K → Bytes

instance : AsBytes String := ⟨fun key => key.toUTF8.data.toList⟩

instance : AsBytes Bytes := ⟨id⟩

/-- `serde::Serialize` through rmp-serde: the MessagePack bytes or an error
text. -/
class Serialize (V : Type) where
  serialize : V → Except String Bytes

/-- `serde::de::DeserializeOwned` through rmp-serde. -/
class DeserializeOwned (V : Type) where
  deserialize : Bytes → Except String V

/-- `bytevec::ByteDecodable` at size type `u8`. -/
class ByteDecodable (K : Type) where
  decode : Bytes → Except String K

/-- `std::str::from_utf8`. -/
def fromUtf8 (bytes : Bytes) : Option String :=
  String.fromUTF8? ⟨bytes.toArray⟩

/-- What is documented of bytevec's `String`: it is decoded from exactly its UTF-8
bytes. -/
def DecodesUtf8 (codec : ByteDecodable String) : Prop :=
  ∀ bytes text, codec.decode bytes = .ok text ↔ fromUtf8 bytes = some text

variable {K V : Type}

/-- `serialize_key`. -/
def serializeKey [AsBytes K] (key : K) : StoreResult Bytes :=
  .ok (AsBytes.asBytes key)

/-- `deserialize_key`. -/
def deserializeKey [ByteDecodable K] (bytes : Bytes) : StoreResult K :=
  (ByteDecodable.decode bytes).mapError .keyDecoding

/-- `serialize_value`. -/
def serializeValue [Serialize V] (val : V) : StoreResult Bytes :=
  (Serialize.serialize val).mapError .serialization

/-- `deserialize_value`. -/
def deserializeValue [DeserializeOwned V] (bytes : Bytes) : StoreResult V :=
  (DeserializeOwned.deserialize bytes).mapError .deserialization

/-- `deserialize_kv`. -/
def deserializeKv [ByteDecodable K] [DeserializeOwned V]
    (keyBytes valBytes : Bytes) : StoreResult (K × V) := do
  let key ← deserializeKey keyBytes
  let val ← deserializeValue valBytes
  return (key, val)

/-- `ValueWithExpiry` of src/types.rs; the phantom field carries the type. -/
structure ValueWithExpiry (V : Type) where
  expireTime : UInt64
  rawValue : Bytes
deriving DecidableEq, Repr

/-- `u64::to_be_bytes`. -/
def toBeBytes (n : UInt64) : Bytes :=
  (List.range 8).map fun i => (n >>> (56 - 8 * UInt64.ofNat i)).toUInt8

/-- `u64::from_be_bytes` of the header bytes. -/
def fromBeBytes (header : Bytes) : UInt64 :=
  header.foldl (fun acc byte => (acc <<< 8) ||| byte.toUInt64) 0

namespace ValueWithExpiry

/-- `TIMESTAMP_SIZE`, the size of a `u64`. -/
def timestampSize : Nat := 8

/-- `ValueWithExpiry::expire_time_from_slice`. -/
def expireTimeFromSlice (rawValue : Bytes) : UInt64 :=
  if rawValue.length < timestampSize then 0
  else fromBeBytes (rawValue.take 8)

/-- `ValueWithExpiry::raw_data_ref`. -/
def rawDataRef (bytes : Bytes) : Except String Bytes :=
  if bytes.length < 8 then .error "Invalid byte array length"
  else .ok (bytes.drop 8)

/-- `ValueWithExpiry::raw_data_ref_unchecked`; `none` where the slice index
panics. -/
def rawDataRefUnchecked (bytes : Bytes) : Option Bytes :=
  if bytes.length < 8 then none else some (bytes.drop 8)

/-- `ValueWithExpiry::from_value`. -/
def fromValue [Serialize V] (expireTime : UInt64) (val : V) :
    StoreResult (ValueWithExpiry V) := do
  let rawValue ← serializeValue val
  return { expireTime, rawValue }

/-- `ValueWithExpiry::serialize_for_storage`. -/
def serializeForStorage (value : ValueWithExpiry V) : Bytes :=
  toBeBytes value.expireTime ++ value.rawValue

/-- `ValueWithExpiry::new`. -/
def new (expireTime : UInt64) (rawValue : Bytes) : ValueWithExpiry V :=
  { expireTime, rawValue }

/-- `ValueWithExpiry::from_slice`. -/
def fromSlice (bytesWithTs : Bytes) : StoreResult (ValueWithExpiry V) :=
  if bytesWithTs.length < timestampSize then
    .error (.deserialization
      s!"Byte slice too short for ValueWithExpiry: got {bytesWithTs.length} bytes, need at least {timestampSize}")
  else do
    let expireTime := expireTimeFromSlice bytesWithTs
    let rawValue ← (rawDataRef bytesWithTs).mapError fun e =>
      StoreError.deserialization s!"Failed to get raw value slice: {e}"
    return new expireTime rawValue

/-- `ValueWithExpiry::get`. -/
def get [DeserializeOwned V] (value : ValueWithExpiry V) : StoreResult V :=
  deserializeValue value.rawValue

/-- `ValueWithExpiry::serialize_unchecked`. -/
def serializeUnchecked (value : ValueWithExpiry V) : Bytes :=
  let headerBytes := toBeBytes value.expireTime
  headerBytes ++ value.rawValue

/-- `From<Vec<u8>> for ValueWithExpiry`; `none` where `drain(0..=7)` panics
because the vector is too short. -/
def ofVec (value : Bytes) : Option (ValueWithExpiry V) :=
  if value.length < 8 then none
  else
    let header := value.take 8
    let expireTime := expireTimeFromSlice header
    some (new expireTime (value.drop 8))

/-- `From<&[u8]> for ValueWithExpiry`, through the vector. -/
def ofSlice (value : Bytes) : Option (ValueWithExpiry V) :=
  let rawValue := value
  ofVec rawValue

end ValueWithExpiry

/-- `deserialize_kv_expiry`. -/
def deserializeKvExpiry [ByteDecodable K] (keyBytes valBytesWithTs : Bytes) :
    StoreResult (K × ValueWithExpiry V) := do
  let key ← deserializeKey keyBytes
  let val ← ValueWithExpiry.fromSlice valBytesWithTs
  return (key, val)

/-- `MergeValueOperator` of src/types.rs. -/
inductive MergeValueOperator where
  | add
  | remove
  | union
  | intersect
deriving DecidableEq, Repr

/-- `MergeValue` of src/types.rs: an operator and its patch. -/
structure MergeValue (PatchVal : Type) where
  operator : MergeValueOperator
  patch : PatchVal

/-- `IterationControlDecision` of src/types.rs. -/
inductive IterationControlDecision where
  | stop
  | skip
  | keep
deriving DecidableEq, Repr

end RockSolid
