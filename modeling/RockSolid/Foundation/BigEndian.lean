/-
Module: RockSolid.Foundation.BigEndian
Layer: Foundation
Purpose: Numbers as byte strings, most significant byte first.  Encoding at a
  fixed width and decoding are inverse to each other, and among encodings of one
  width the lexicographic order of the bytes is the order of the numbers,
  whatever follows them.
Trusted boundary: none
Main exports: toBigEndian, ofBigEndian, ofBigEndian_toBigEndian,
  toBigEndian_ofBigEndian, toBigEndian_eq_map,
  compare_append_of_ofBigEndian_lt
-/
import Mathlib.Data.List.Induction
import RockSolid.Foundation.Positional

namespace RockSolid.Foundation

/-- The number the bytes denote, most significant byte first. -/
def ofBigEndian (bytes : List UInt8) : Nat :=
  bytes.foldl (fun acc byte => acc * 256 + byte.toNat) 0

/-- The last `width` base-256 digits of `n`, most significant digit first. -/
def toBigEndian : Nat → Nat → List UInt8
  | 0, _ => []
  | width + 1, n => toBigEndian width (n / 256) ++ [UInt8.ofNat n]

@[simp] theorem ofBigEndian_nil : ofBigEndian [] = 0 := rfl

@[simp] theorem ofBigEndian_concat (bytes : List UInt8) (byte : UInt8) :
    ofBigEndian (bytes ++ [byte]) = ofBigEndian bytes * 256 + byte.toNat := by
  simp [ofBigEndian]

@[simp] theorem length_toBigEndian (width n : Nat) :
    (toBigEndian width n).length = width := by
  induction width generalizing n with
  | zero => rfl
  | succ width inductionHypothesis =>
      simp [toBigEndian, inductionHypothesis]

/-- Decoding gives the number back up to the digits the width cannot hold. -/
theorem ofBigEndian_toBigEndian (width n : Nat) :
    ofBigEndian (toBigEndian width n) = n % 256 ^ width := by
  induction width generalizing n with
  | zero => simp [toBigEndian, Nat.mod_one]
  | succ width inductionHypothesis =>
      have digit : (UInt8.ofNat n).toNat = n % 256 := UInt8.toNat_ofNat'
      rw [toBigEndian, ofBigEndian_concat, inductionHypothesis, digit, pow_succ',
        Nat.mod_mul]
      omega

/-- Encoding at their own width gives the bytes back. -/
theorem toBigEndian_ofBigEndian (bytes : List UInt8) :
    toBigEndian bytes.length (ofBigEndian bytes) = bytes := by
  induction bytes using List.reverseRecOn with
  | nil => rfl
  | append_singleton bytes byte inductionHypothesis =>
      have digit : byte.toNat < 256 := byte.toNat_lt
      have higher : (ofBigEndian bytes * 256 + byte.toNat) / 256 =
          ofBigEndian bytes := by omega
      have lowest : UInt8.ofNat (ofBigEndian bytes * 256 + byte.toNat) =
          byte := by
        apply UInt8.toNat_inj.mp
        rw [UInt8.toNat_ofNat']
        omega
      rw [List.length_append, List.length_singleton, ofBigEndian_concat,
        toBigEndian, higher, lowest, inductionHypothesis]

theorem ofBigEndian_lt (bytes : List UInt8) :
    ofBigEndian bytes < 256 ^ bytes.length := by
  induction bytes using List.reverseRecOn with
  | nil => simp
  | append_singleton bytes byte inductionHypothesis =>
      have digit : byte.toNat < 256 := byte.toNat_lt
      rw [ofBigEndian_concat, List.length_append, List.length_singleton,
        pow_succ]
      omega

/-- The bytes are the base-256 digits. -/
theorem toBigEndian_eq_map (width n : Nat) :
    toBigEndian width n = (toPositional 256 width n).map UInt8.ofNat := by
  induction width generalizing n with
  | zero => rfl
  | succ width inductionHypothesis =>
      have digit : UInt8.ofNat (n % 256) = UInt8.ofNat n := by
        apply UInt8.toNat_inj.mp
        rw [UInt8.toNat_ofNat', UInt8.toNat_ofNat', Nat.mod_mod]
      rw [toBigEndian, toPositional, List.map_append, ← inductionHypothesis,
        List.map_singleton, digit]

/-- Bytes are ordered like the digits they stand for. -/
theorem compare_ofNat {d e : Nat} (dDigit : d < 256) (eDigit : e < 256) :
    compare (UInt8.ofNat d) (UInt8.ofNat e) = compare d e := by
  have dBack : (UInt8.ofNat d).toNat = d := UInt8.toNat_ofNat_of_lt' dDigit
  have eBack : (UInt8.ofNat e).toNat = e := UInt8.toNat_ofNat_of_lt' eDigit
  simp only [compare, compareOfLessAndEq, UInt8.lt_iff_toNat_lt,
    ← UInt8.toNat_inj, dBack, eBack]

/-- Among byte strings of one length the smaller number sorts first, and what
follows does not matter. -/
theorem compare_append_of_ofBigEndian_lt {first second : List UInt8}
    (sameWidth : first.length = second.length)
    (less : ofBigEndian first < ofBigEndian second)
    (firstRest secondRest : List UInt8) :
    compare (first ++ firstRest) (second ++ secondRest) = .lt := by
  have firstFits := ofBigEndian_lt first
  have secondFits := ofBigEndian_lt second
  rw [sameWidth] at firstFits
  have heads : compare first second = .lt := by
    calc compare first second
        = compare (toBigEndian second.length (ofBigEndian first))
            (toBigEndian second.length (ofBigEndian second)) := by
          rw [toBigEndian_ofBigEndian second, ← sameWidth,
            toBigEndian_ofBigEndian first]
      _ = compare (ofBigEndian first) (ofBigEndian second) := by
          rw [toBigEndian_eq_map, toBigEndian_eq_map]
          exact compare_map_toPositional (by decide)
            (fun d dDigit e eDigit => compare_ofNat dDigit eDigit) firstFits
            secondFits
      _ = .lt := Nat.compare_eq_lt.mpr less
  rw [compare_append_of_length_eq sameWidth, heads]
  rfl

end RockSolid.Foundation
