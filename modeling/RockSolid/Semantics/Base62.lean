/-
Module: RockSolid.Semantics.Base62
Layer: Semantics
Purpose: What the base62 crate computes: the positional numeral without leading
  zeros, over the digits, the capital and the small letters in ASCII order, and
  the value of a text of such digits.
Trusted boundary: documented behaviour of the base62 crate
Main exports: base62Digit, base62Numeral, EncodesNumerals, WritesNumerals,
  base62Value, DecodesNumerals, readNumeral, Base62Text
-/
import RockSolid.Core.Base62
import RockSolid.Foundation.Positional

namespace RockSolid

open Foundation

/-- The digit in the standard alphabet. -/
def base62Digit (digit : Nat) : Char :=
  if digit < 10 then .ofNat (48 + digit)
  else if digit < 36 then .ofNat (55 + digit)
  else .ofNat (61 + digit)

/-- The digits of a number as characters. -/
def base62Digits (n : UInt64) : List Char :=
  (numeral 62 n.toNat).map base62Digit

/-- The numeral of a number. -/
def base62Numeral (n : UInt64) : String :=
  String.ofList (base62Digits n)

/-- `base62::encode` gives the numeral. -/
def EncodesNumerals (base62Encode : UInt64 → String) : Prop :=
  ∀ n, base62Encode n = base62Numeral n

/-- `base62::encode_bytes` on a buffer: the numeral at the front, where it
fits. -/
def writeNumeral (n : UInt64) (buffer : Bytes) :
    Except EncodeError (Nat × Bytes) :=
  let digits := (base62Digits n).map fun digit => digit.val.toUInt8
  if digits.length ≤ buffer.length then
    .ok (digits.length, digits ++ buffer.drop digits.length)
  else .error .bufferTooSmall

/-- `base62::encode_bytes` writes the numeral. -/
def WritesNumerals
    (base62EncodeBytes : UInt64 → Bytes → Except EncodeError (Nat × Bytes)) :
    Prop :=
  ∀ n buffer, base62EncodeBytes n buffer = writeNumeral n buffer

/-- What a character counts as a digit. -/
def base62DigitValue (c : Char) : Option Nat :=
  if 48 ≤ c.toNat ∧ c.toNat ≤ 57 then some (c.toNat - 48)
  else if 65 ≤ c.toNat ∧ c.toNat ≤ 90 then some (c.toNat - 55)
  else if 97 ≤ c.toNat ∧ c.toNat ≤ 122 then some (c.toNat - 61)
  else none

/-- The value of a text; leading zeros are allowed, the empty text and foreign
characters are not. -/
def base62Value (s : String) : Option Nat :=
  if s.toList = [] then none
  else (s.toList.mapM base62DigitValue).map (ofPositional 62)

/-- `base62::decode` evaluates a text to a `u128`, or returns an error. -/
def DecodesNumerals (base62Decode : String → Except DecodeError (BitVec 128)) :
    Prop :=
  ∀ s value, base62Decode s = .ok value ↔ base62Value s = some value.toNat

/-- `base62::decode`: the value of the text where it has one that 128 bits hold,
else the error of the first failed check. -/
def readNumeral (s : String) : Except DecodeError (BitVec 128) :=
  match base62Value s with
  | some value =>
      if value < 2 ^ 128 then .ok (.ofNat 128 value)
      else .error .arithmeticOverflow
  | none =>
      if s.toList = [] then .error .emptyInput
      else
        let bytes := AsBytes.asBytes s
        let index := bytes.findIdx fun byte =>
          (base62DigitValue (.ofNat byte.toNat)).isNone
        .error (.invalidBase62Byte (bytes.getD index 0) index)

/-- The text is not empty, it is made of the 62 digits, and this is its value. -/
def Base62Text (s : String) (value : Nat) : Prop :=
  ∃ digits : List Nat, digits ≠ [] ∧ (∀ digit ∈ digits, digit < 62) ∧
    s = String.ofList (digits.map base62Digit) ∧ ofPositional 62 digits = value

end RockSolid
