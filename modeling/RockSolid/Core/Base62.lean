/-
Module: RockSolid.Core.Base62
Layer: Core
Purpose: The fixed-width Base62 encoders of timestamps and the decoder
  (src/utils/base62.rs).  The base62 crate is not part of the repository: what it
  computes is a parameter of each function that calls it.
Trusted boundary: human-reviewed model of the source; the formatter takes any
  width, as it does in toolchains that keep a run-time width in a `usize` (later
  ones panic above `u16::MAX`)
Main exports: widthU64, encodePad, encodeTime, encodeFastPad, decode
-/
import RockSolid.Core.Serialization

namespace RockSolid

/-- `WIDTH_U64`. -/
def widthU64 : Nat := 11

/-- `format!("{:0>width$}", s)`: a zero in front for every character that
the width has and the text lacks. -/
def formatZeroPadded (s : String) (width : Nat) : String :=
  String.ofList (s.toList.leftpad width '0')

section Encode

variable (base62Encode : UInt64 → String)

/-- `encode_pad`. -/
def encodePad (n : UInt64) (width : Nat) : String :=
  let s := base62Encode n
  formatZeroPadded s width

/-- `encode_time`. -/
def encodeTime (ts : UInt64) : String :=
  encodePad base62Encode ts widthU64

end Encode

/-- `base62::EncodeError`. -/
inductive EncodeError where
  | bufferTooSmall
deriving DecidableEq, Repr

/-- `out[start..].copy_from_slice(&tmp[..len])`; `none` where it panics, on a
range that is out of bounds or slices of different lengths. -/
def copyFromSlice (out : Bytes) (start : Nat) (tmp : Bytes) (len : Nat) :
    Option Bytes :=
  if start ≤ out.length ∧ len ≤ tmp.length ∧ out.length - start = len then
    some (out.take start ++ tmp.take len)
  else none

/-- `encode_fast_pad`; `none` where it panics.  `encode_bytes` returns the number
of bytes it wrote and the buffer. -/
def encodeFastPad
    (base62EncodeBytes : UInt64 → Bytes → Except EncodeError (Nat × Bytes))
    (n : UInt64) (width : Nat) (out : Bytes) : Option String := do
  guard (out.length = width)
  let out : Bytes := List.replicate out.length 48
  let tmp : Bytes := List.replicate 22 0
  let (len, tmp) ← (base62EncodeBytes n tmp).toOption
  let out ←
    if len > 0 then do
      -- `width - len` on `usize`: a debug build panics here, and a release build
      -- at the slice, whose start has wrapped around.
      guard (len ≤ width)
      copyFromSlice out (width - len) tmp len
    else some out
  fromUtf8 out

/-- `base62::DecodeError`. -/
inductive DecodeError where
  | arithmeticOverflow
  | emptyInput
  | invalidBase62Byte (byte : UInt8) (index : Nat)
deriving DecidableEq, Repr

/-- `decode`; `base62::decode` returns a `u128`. -/
def decode (base62Decode : String → Except DecodeError (BitVec 128))
    (s : String) : Except DecodeError UInt64 :=
  match base62Decode s with
  | .ok value =>
      if value > .ofNat 128 (UInt64.size - 1) then .error .arithmeticOverflow
      else .ok (.ofNat value.toNat)
  | .error e => .error e

end RockSolid
