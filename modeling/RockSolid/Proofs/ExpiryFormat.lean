/-
Module: RockSolid.Proofs.ExpiryFormat
Layer: Proofs
Purpose: The storage format of values with an expiry: the encoders agree, the
  decoders agree, decoding and encoding are inverse to each other on every byte
  string that has a header, and encodings are ordered by expiry.
Trusted boundary: none
Main exports: fromBeBytes_toBeBytes, toBeBytes_fromBeBytes,
  ValueWithExpiry.fromSlice_of_header, ValueWithExpiry.fromSlice_serializeForStorage,
  ValueWithExpiry.storage_format
-/
import RockSolid.Core.Serialization
import RockSolid.Foundation.BigEndian

namespace RockSolid

open Foundation

theorem toUInt8_shiftRight (n shift : UInt64) :
    (n >>> shift).toUInt8 =
      UInt8.ofNat (n.toNat / 2 ^ (shift.toNat % 64)) := by
  apply UInt8.toNat_inj.mp
  simp [Nat.shiftRight_eq_div_pow]

/-- The shifted bytes of a `u64` are its big-endian digits. -/
theorem toBeBytes_eq (n : UInt64) : toBeBytes n = toBigEndian 8 n.toNat := by
  have lowest : UInt8.ofNat n.toNat = UInt8.ofNat (n.toNat / 2 ^ 0) := by
    rw [pow_zero, Nat.div_one]
  simp only [toBeBytes, toBigEndian, toUInt8_shiftRight, Nat.div_div_eq_div_mul,
    lowest]
  rfl

/-- Shifting bytes into a `u64` reads a big-endian number. -/
theorem toNat_fromBeBytes (header : Bytes) :
    (fromBeBytes header).toNat = ofBigEndian header % 2 ^ 64 := by
  induction header using List.reverseRecOn with
  | nil => rfl
  | append_singleton header byte inductionHypothesis =>
      have step : fromBeBytes (header ++ [byte]) =
          (fromBeBytes header <<< 8) ||| byte.toUInt64 := by
        simp [fromBeBytes]
      have digit : byte.toNat < 2 ^ 8 := byte.toNat_lt
      have eight : (8 : UInt64).toNat % 64 = 8 := rfl
      have shifted : (fromBeBytes header <<< 8).toNat =
          (ofBigEndian header % 2 ^ 56) <<< 8 := by
        rw [UInt64.toNat_shiftLeft, inductionHypothesis, eight,
          Nat.shiftLeft_eq, Nat.shiftLeft_eq]
        omega
      rw [step, ofBigEndian_concat, UInt64.toNat_or, shifted,
        UInt8.toNat_toUInt64, ← Nat.shiftLeft_add_eq_or_of_lt digit,
        Nat.shiftLeft_eq]
      omega

@[simp] theorem length_toBeBytes (n : UInt64) : (toBeBytes n).length = 8 := by
  rw [toBeBytes_eq, length_toBigEndian]

@[simp] theorem fromBeBytes_toBeBytes (n : UInt64) :
    fromBeBytes (toBeBytes n) = n := by
  apply UInt64.toNat_inj.mp
  have bound : n.toNat < 2 ^ 64 := n.toNat_lt
  rw [toNat_fromBeBytes, toBeBytes_eq, ofBigEndian_toBigEndian]
  omega

theorem toBeBytes_fromBeBytes {header : Bytes} (width : header.length = 8) :
    toBeBytes (fromBeBytes header) = header := by
  have bound := ofBigEndian_lt header
  rw [width] at bound
  have fits : ofBigEndian header % 2 ^ 64 = ofBigEndian header :=
    Nat.mod_eq_of_lt bound
  rw [toBeBytes_eq, toNat_fromBeBytes, fits, ← width, toBigEndian_ofBigEndian]

namespace ValueWithExpiry

variable {V : Type}

theorem expireTimeFromSlice_of_header {bytes : Bytes}
    (header : ¬ bytes.length < 8) :
    expireTimeFromSlice bytes = fromBeBytes (bytes.take 8) :=
  if_neg header

theorem rawDataRef_of_header {bytes : Bytes} (header : ¬ bytes.length < 8) :
    rawDataRef bytes = .ok (bytes.drop 8) :=
  if_neg header

/-- A slice without a header is refused. -/
theorem fromSlice_of_short {bytes : Bytes} (short : bytes.length < 8) :
    ∃ message,
      (fromSlice bytes : StoreResult (ValueWithExpiry V)) =
        .error (.deserialization message) :=
  ⟨_, if_pos short⟩

/-- A slice with a header is split after it. -/
theorem fromSlice_of_header {bytes : Bytes} (header : ¬ bytes.length < 8) :
    (fromSlice bytes : StoreResult (ValueWithExpiry V)) =
      .ok (new (fromBeBytes (bytes.take 8)) (bytes.drop 8)) := by
  have long : ¬ bytes.length < timestampSize := header
  rw [fromSlice, if_neg long, rawDataRef_of_header header,
    expireTimeFromSlice_of_header header]
  rfl

/-- `From<Vec<u8>>` splits a vector with a header at the same place. -/
theorem ofVec_of_header {bytes : Bytes} (header : ¬ bytes.length < 8) :
    ofVec (V := V) bytes =
      some (new (fromBeBytes (bytes.take 8)) (bytes.drop 8)) := by
  have headerWidth : ¬ (bytes.take 8).length < 8 := by
    rw [List.length_take]
    omega
  simp only [ofVec, if_neg header, expireTimeFromSlice_of_header headerWidth,
    List.take_take, Nat.min_self]

/-- Encoding what was split off a byte string gives the byte string back. -/
theorem serializeForStorage_split {bytes : Bytes}
    (header : ¬ bytes.length < 8) :
    serializeForStorage
      (new (fromBeBytes (bytes.take 8)) (bytes.drop 8) : ValueWithExpiry V) =
        bytes := by
  have headerWidth : (bytes.take 8).length = 8 := by
    rw [List.length_take]
    omega
  rw [serializeForStorage, new, toBeBytes_fromBeBytes headerWidth,
    List.take_append_drop]

/-- Decoding what was stored gives the value back. -/
theorem fromSlice_serializeForStorage (value : ValueWithExpiry V) :
    fromSlice (serializeForStorage value) = .ok value := by
  have header : ¬ (serializeForStorage value).length < 8 := by
    simp [serializeForStorage]
  rw [fromSlice_of_header header, serializeForStorage,
    List.take_left' (length_toBeBytes _), List.drop_left' (length_toBeBytes _),
    fromBeBytes_toBeBytes]
  rfl

/-- A smaller expiry sorts first, whatever the payloads. -/
theorem compare_serializeForStorage {first second : ValueWithExpiry V}
    (earlier : first.expireTime < second.expireTime) :
    compare (serializeForStorage first) (serializeForStorage second) = .lt := by
  have less : ofBigEndian (toBeBytes first.expireTime) <
      ofBigEndian (toBeBytes second.expireTime) := by
    have firstBound : first.expireTime.toNat < 256 ^ 8 :=
      first.expireTime.toNat_lt
    have secondBound : second.expireTime.toNat < 256 ^ 8 :=
      second.expireTime.toNat_lt
    rw [toBeBytes_eq, toBeBytes_eq, ofBigEndian_toBigEndian,
      ofBigEndian_toBigEndian, Nat.mod_eq_of_lt firstBound,
      Nat.mod_eq_of_lt secondBound]
    exact UInt64.lt_iff_toNat_lt.mp earlier
  have sameWidth : (toBeBytes first.expireTime).length =
      (toBeBytes second.expireTime).length := by
    rw [length_toBeBytes, length_toBeBytes]
  exact compare_append_of_ofBigEndian_lt sameWidth less _ _

/-- The storage format: a round trip in both directions, one layout for all
encoders and decoders, an error exactly where the header is incomplete, and the
byte-wise order of encodings following the expiry. -/
theorem storage_format :
    (∀ (expireTime : UInt64) (payload : Bytes),
      let value : ValueWithExpiry V := new expireTime payload
      (∃ decoded, fromSlice (V := V) (serializeForStorage value) = .ok decoded ∧
        decoded.expireTime = expireTime ∧ decoded.rawValue = payload) ∧
      serializeUnchecked value = serializeForStorage value) ∧
    (∀ bytes : Bytes,
      ((∃ e, fromSlice (V := V) bytes = .error e) ↔ bytes.length < 8) ∧
      (¬ bytes.length < 8 → ∃ value, fromSlice (V := V) bytes = .ok value ∧
        serializeForStorage value = bytes ∧
        serializeUnchecked value = bytes ∧
        expireTimeFromSlice bytes = value.expireTime ∧
        rawDataRef bytes = .ok value.rawValue ∧
        rawDataRefUnchecked bytes = some value.rawValue ∧
        ofVec bytes = some value ∧
        ofSlice bytes = some value)) ∧
    (∀ (firstExpiry secondExpiry : UInt64) (firstPayload secondPayload : Bytes),
      firstExpiry < secondExpiry →
        compare
          (serializeForStorage (new firstExpiry firstPayload :
            ValueWithExpiry V))
          (serializeForStorage (new secondExpiry secondPayload :
            ValueWithExpiry V)) = .lt) := by
  apply And.intro
  · intro expireTime payload
    exact ⟨⟨_, fromSlice_serializeForStorage _, rfl, rfl⟩, rfl⟩
  apply And.intro
  · intro bytes
    constructor
    · constructor
      · rintro ⟨e, refused⟩
        by_contra header
        rw [fromSlice_of_header header] at refused
        cases refused
      · intro short
        obtain ⟨message, refused⟩ := fromSlice_of_short (V := V) short
        exact ⟨_, refused⟩
    · intro header
      exact ⟨_, fromSlice_of_header header, serializeForStorage_split header,
        serializeForStorage_split header, expireTimeFromSlice_of_header header,
        rawDataRef_of_header header, if_neg header, ofVec_of_header header,
        ofVec_of_header header⟩
  · intro firstExpiry secondExpiry firstPayload secondPayload earlier
    exact compare_serializeForStorage earlier

/-- Expiries 255 and 256, the first with a larger payload. -/
theorem storage_format_orders :
    compare
      (serializeForStorage (new 255 [255] : ValueWithExpiry String))
      (serializeForStorage (new 256 [] : ValueWithExpiry String)) = .lt :=
  storage_format.2.2 255 256 [255] [] (by decide)

end ValueWithExpiry

end RockSolid
