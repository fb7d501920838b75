/-
Module: RockSolid.Proofs.Base62
Layer: Proofs
Purpose: The fixed-width encoders.  Eleven digits hold every `u64`, and keys of
  that width sort like the numbers they encode; the encoder into a buffer gives
  the padded numeral exactly when the width holds the numeral.
Trusted boundary: none
Main exports: asBytes_ofList_ascii, compare_base62Byte, encodePad_eq,
  asBytes_encodePad, encodeTime_sorts, encodeFastPad_eq, encodeFastPad_agrees_iff
-/
import RockSolid.Semantics.Base62
import RockSolid.Semantics.KeyIdentity

namespace RockSolid

open Foundation

/-- The UTF-8 encoding of ASCII text has one byte for each character. -/
theorem asBytes_ofList_ascii {chars : List Char}
    (ascii : ∀ c ∈ chars, c.utf8Size = 1) :
    AsBytes.asBytes (String.ofList chars) =
      chars.map fun c => c.val.toUInt8 := by
  have encoded : AsBytes.asBytes (String.ofList chars) =
      chars.flatMap String.utf8EncodeChar := by
    change (String.ofList chars).toByteArray.data.toList = _
    rw [String.toByteArray_ofList, List.utf8Encode, List.toList_data_toByteArray]
  rw [encoded]
  clear encoded
  induction chars with
  | nil => rfl
  | cons c chars inductionHypothesis =>
      have tail := inductionHypothesis
        (fun d member => ascii d (List.mem_cons_of_mem _ member))
      rw [List.flatMap_cons, tail, List.map_cons,
        String.utf8EncodeChar_eq_singleton (ascii c List.mem_cons_self)]
      rfl

section Alphabet

/-- The digit as a byte. -/
def base62Byte (digit : Nat) : UInt8 :=
  (base62Digit digit).val.toUInt8

theorem base62Digit_ascii : ∀ digit < 62, (base62Digit digit).utf8Size = 1 := by
  decide

theorem toNat_base62Byte : ∀ digit < 62, (base62Byte digit).toNat =
    if digit < 10 then 48 + digit
    else if digit < 36 then 55 + digit else 61 + digit := by
  decide

/-- The alphabet is in ASCII order. -/
theorem compare_base62Byte (d : Nat) (dSmall : d < 62) (e : Nat)
    (eSmall : e < 62) :
    compare (base62Byte d) (base62Byte e) = compare d e := by
  have dCode := toNat_base62Byte d dSmall
  have eCode := toNat_base62Byte e eSmall
  rcases Nat.lt_trichotomy d e with less | same | greater
  · rw [Nat.compare_eq_lt.mpr less, Std.compare_eq_lt, UInt8.lt_iff_toNat_lt,
      dCode, eCode]
    split_ifs <;> omega
  · rw [same, Std.ReflOrd.compare_self, Std.ReflOrd.compare_self]
  · rw [Nat.compare_eq_gt.mpr greater, Std.compare_eq_gt, UInt8.lt_iff_toNat_lt,
      dCode, eCode]
    split_ifs <;> omega

end Alphabet

section FixedWidth

variable {base62Encode : UInt64 → String}

/-- The padding encoder writes the numeral behind zeros. -/
theorem encodePad_eq (encodes : EncodesNumerals base62Encode) (n : UInt64)
    (width : Nat) :
    encodePad base62Encode n width =
      String.ofList (((numeral 62 n.toNat).leftpad width 0).map base62Digit) := by
  rw [encodePad, encodes n, formatZeroPadded, base62Numeral,
    String.toList_ofList]
  simp only [List.leftpad, List.map_append, List.map_replicate, base62Digits,
    List.length_map]
  rfl

theorem leftpad_numeral_lt (n width : Nat) :
    ∀ digit ∈ (numeral 62 n).leftpad width 0, digit < 62 := by
  intro digit member
  rcases List.mem_append.mp member with zero | digit
  · rw [List.eq_of_mem_replicate zero]
    decide
  · exact numeral_lt (by decide) n _ digit

/-- A text of digits has one byte for each. -/
theorem asBytes_digits {digits : List Nat}
    (small : ∀ digit ∈ digits, digit < 62) :
    AsBytes.asBytes (String.ofList (digits.map base62Digit)) =
      digits.map base62Byte := by
  rw [asBytes_ofList_ascii, List.map_map]
  · rfl
  · intro c member
    obtain ⟨digit, digitMember, rfl⟩ := List.mem_map.mp member
    exact base62Digit_ascii digit (small digit digitMember)

/-- The padded numeral, as the bytes of a key. -/
theorem asBytes_encodePad (encodes : EncodesNumerals base62Encode) (n : UInt64)
    (width : Nat) :
    AsBytes.asBytes (encodePad base62Encode n width) =
      ((numeral 62 n.toNat).leftpad width 0).map base62Byte := by
  rw [encodePad_eq encodes, asBytes_digits (leftpad_numeral_lt _ _)]

/-- Eleven digits hold every `u64`. -/
theorem fits_widthU64 (n : UInt64) : n.toNat < 62 ^ widthU64 :=
  Nat.lt_trans n.toNat_lt (by decide)

theorem asBytes_encodeTime (encodes : EncodesNumerals base62Encode)
    (ts : UInt64) :
    AsBytes.asBytes (encodeTime base62Encode ts) =
      (toPositional 62 widthU64 ts.toNat).map base62Byte := by
  rw [encodeTime, asBytes_encodePad encodes,
    leftpad_numeral (by decide) (by decide) (fits_widthU64 ts)]

theorem compare_encodeTime (encodes : EncodesNumerals base62Encode)
    (a b : UInt64) :
    compare (AsBytes.asBytes (encodeTime base62Encode a))
      (AsBytes.asBytes (encodeTime base62Encode b)) =
        compare a.toNat b.toNat := by
  rw [asBytes_encodeTime encodes, asBytes_encodeTime encodes]
  exact compare_map_toPositional (by decide) compare_base62Byte
    (fits_widthU64 a) (fits_widthU64 b)

/-- Time keys have eleven bytes and sort like the numbers they encode, so those
of the complements sort the other way. -/
theorem encodeTime_sorts (encodes : EncodesNumerals base62Encode) :
    (∀ ts, (AsBytes.asBytes (encodeTime base62Encode ts)).length = 11) ∧
    (∀ a b, compare (AsBytes.asBytes (encodeTime base62Encode a))
      (AsBytes.asBytes (encodeTime base62Encode b)) = .lt ↔ a < b) ∧
    ∀ a b, compare
      (AsBytes.asBytes
        (encodeTime base62Encode (.ofNat (UInt64.size - 1) - a)))
      (AsBytes.asBytes
        (encodeTime base62Encode (.ofNat (UInt64.size - 1) - b))) = .lt ↔
          b < a := by
  have sorts (a b : UInt64) :
      compare (AsBytes.asBytes (encodeTime base62Encode a))
        (AsBytes.asBytes (encodeTime base62Encode b)) = .lt ↔ a < b := by
    rw [compare_encodeTime encodes, Nat.compare_eq_lt, UInt64.lt_iff_toNat_lt]
  refine ⟨?_, sorts, ?_⟩
  · intro ts
    rw [asBytes_encodeTime encodes, List.length_map, length_toPositional]
    rfl
  · intro a b
    have complement (c : UInt64) :
        (UInt64.ofNat (UInt64.size - 1) - c).toNat = 2 ^ 64 - 1 - c.toNat := by
      have bound : c.toNat < 2 ^ 64 := c.toNat_lt
      rw [UInt64.toNat_sub_of_le _ _ (UInt64.le_iff_toNat_le.mpr ?_)]
      · rfl
      · change c.toNat ≤ 2 ^ 64 - 1
        omega
    rw [sorts, UInt64.lt_iff_toNat_lt, UInt64.lt_iff_toNat_lt, complement,
      complement]
    have aBound : a.toNat < 2 ^ 64 := a.toNat_lt
    have bBound : b.toNat < 2 ^ 64 := b.toNat_lt
    omega

/-- The timestamps 1700 and 17000. -/
theorem encodeTime_sorts_two :
    compare (AsBytes.asBytes (encodeTime base62Numeral 1700))
      (AsBytes.asBytes (encodeTime base62Numeral 17000)) = .lt :=
  ((encodeTime_sorts fun _ => rfl).2.1 1700 17000).mpr (by decide)

end FixedWidth

section IntoBuffer

variable {base62EncodeBytes :
  UInt64 → Bytes → Except EncodeError (Nat × Bytes)}

/-- The numeral of a `u64`, as bytes. -/
theorem writeNumeral_of_room (n : UInt64) {buffer : Bytes}
    (room : 11 ≤ buffer.length) :
    let digits := (numeral 62 n.toNat).map base62Byte
    writeNumeral n buffer =
      .ok (digits.length, digits ++ buffer.drop digits.length) := by
  intro digits
  have written : (base62Digits n).map (fun digit => digit.val.toUInt8) =
      digits := List.map_map
  have short : digits.length ≤ 11 := by
    rw [List.length_map, length_numeral_le_iff (by decide)]
    exact ⟨by decide, fits_widthU64 n⟩
  rw [writeNumeral]
  simp only [written]
  rw [if_pos (Nat.le_trans short room)]

/-- Copying the digits to the end of a zeroed buffer pads them. -/
theorem copyFromSlice_digits {digits : Bytes} {width : Nat}
    (fits : digits.length ≤ width) (rest : Bytes) :
    copyFromSlice (List.replicate width 48) (width - digits.length)
      (digits ++ rest) digits.length = some (digits.leftpad width 48) := by
  have inside : width - digits.length ≤ (List.replicate width (48 : UInt8)).length ∧
      digits.length ≤ (digits ++ rest).length ∧
      (List.replicate width (48 : UInt8)).length - (width - digits.length) =
        digits.length := by
    rw [List.length_replicate, List.length_append]
    omega
  rw [copyFromSlice, if_pos inside, List.take_left', List.take_replicate,
    Nat.min_eq_left (Nat.sub_le _ _)]
  · rfl
  · rfl

/-- The encoder into a buffer of the right length: the padded numeral where the
width holds it, a panic where it does not. -/
theorem encodeFastPad_eq (writes : WritesNumerals base62EncodeBytes) (n : UInt64)
    {width : Nat} {out : Bytes} (sized : out.length = width) :
    encodeFastPad base62EncodeBytes n width out =
      if (numeral 62 n.toNat).length ≤ width then
        some (encodePad base62Numeral n width)
      else none := by
  have padded := asBytes_encodePad (fun _ => rfl) n width
  have room : 11 ≤ (List.replicate 22 (0 : UInt8)).length := by decide
  have written := writeNumeral_of_room n room
  have sameLength :
      ((numeral 62 n.toNat).map base62Byte).length =
        (numeral 62 n.toNat).length := List.length_map _
  have digitWritten := length_numeral_pos 62 n.toNat
  rw [List.leftpad, List.map_append, List.map_replicate, ← sameLength] at padded
  rw [← sameLength] at digitWritten ⊢
  generalize (numeral 62 n.toNat).map base62Byte = digits at *
  subst sized
  simp only [encodeFastPad, writes n, written, Except.toOption, guard, if_pos,
    Option.bind_eq_bind, Option.bind_some, Option.pure_def, gt_iff_lt,
    digitWritten]
  by_cases fits : digits.length ≤ out.length
  · rw [if_pos fits, if_pos fits, Option.bind_some, copyFromSlice_digits fits]
    have decoded := fromUtf8_asBytes (encodePad base62Numeral n out.length)
    rw [padded] at decoded
    exact decoded
  · rw [if_neg fits, if_neg fits]
    rfl

/-- The encoder into a buffer returns the padded numeral exactly when the width
holds all digits; with zero taking one digit, a width of zero never does. -/
theorem encodeFastPad_agrees_iff {base62Encode : UInt64 → String}
    (encodes : EncodesNumerals base62Encode)
    (writes : WritesNumerals base62EncodeBytes) (n : UInt64) {width : Nat}
    {out : Bytes} (sized : out.length = width) :
    encodeFastPad base62EncodeBytes n width out =
        some (encodePad base62Encode n width) ↔
      0 < width ∧ n.toNat < 62 ^ width := by
  have samePad : encodePad base62Encode n width =
      encodePad base62Numeral n width := by
    rw [encodePad, encodePad, encodes n]
  rw [encodeFastPad_eq writes n sized, samePad,
    ← length_numeral_le_iff (by decide)]
  by_cases fits : (numeral 62 n.toNat).length ≤ width
  · simp [fits]
  · simp [fits]

/-- The number 62 has two digits; a buffer of one byte makes the encoder panic,
where the padding encoder returns both digits. -/
theorem encodeFastPad_panics :
    encodeFastPad writeNumeral 62 1 [0] = none ∧
      encodePad base62Numeral 62 1 = "10" := by
  have digits : numeral 62 (62 : UInt64).toNat = [1, 0] := by
    simp [numeral]
  have sized : ([0] : Bytes).length = 1 := rfl
  constructor
  · rw [encodeFastPad_eq (fun _ _ => rfl) 62 sized, digits]
    rfl
  · rw [encodePad, base62Numeral, base62Digits, digits]
    rfl

/-- The largest `u64` in a buffer of eleven bytes. -/
theorem encodeFastPad_agrees_largest :
    encodeFastPad writeNumeral (.ofNat (UInt64.size - 1)) 11
        (List.replicate 11 0) =
      some (encodePad base62Numeral (.ofNat (UInt64.size - 1)) 11) :=
  (encodeFastPad_agrees_iff (fun _ => rfl) (fun _ _ => rfl) _ rfl).mpr
    ⟨by decide, fits_widthU64 _⟩

end IntoBuffer

end RockSolid
