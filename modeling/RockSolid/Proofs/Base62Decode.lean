/-
Module: RockSolid.Proofs.Base62Decode
Layer: Proofs
Purpose: The decoder accepts the texts of Base62 digits whose value a `u64`
  holds, and no others; it undoes the padding encoder at every width, and the
  padding encoder at the length of an accepted text writes that text again.
Trusted boundary: none
Main exports: base62Value_eq_some_iff, decode_ok_iff, decode_encodePad,
  encodePad_decode, decode_exact
-/
import RockSolid.Proofs.Base62

namespace RockSolid

open Foundation

section Digits

theorem base62DigitValue_base62Digit :
    ∀ digit < 62, base62DigitValue (base62Digit digit) = some digit := by
  decide

/-- The characters that count as digits are those of the alphabet. -/
theorem base62DigitValue_eq_some_iff (c : Char) (digit : Nat) :
    base62DigitValue c = some digit ↔ digit < 62 ∧ c = base62Digit digit := by
  constructor
  · intro counted
    have ofCode (code : Nat) (same : c.toNat = code) : c = Char.ofNat code := by
      rw [← same, Char.ofNat_toNat]
    unfold base62DigitValue at counted
    split_ifs at counted with numeric capital small
    · cases counted
      refine ⟨by omega, ?_⟩
      rw [base62Digit, if_pos (by omega)]
      exact ofCode _ (by omega)
    · cases counted
      refine ⟨by omega, ?_⟩
      rw [base62Digit, if_neg (by omega), if_pos (by omega)]
      exact ofCode _ (by omega)
    · cases counted
      refine ⟨by omega, ?_⟩
      rw [base62Digit, if_neg (by omega), if_neg (by omega)]
      exact ofCode _ (by omega)
  · intro written
    obtain ⟨small, rfl⟩ := written
    exact base62DigitValue_base62Digit digit small

/-- Characters that all count as digits are the digits written out. -/
theorem mapM_base62DigitValue_eq_some_iff (chars : List Char)
    (digits : List Nat) :
    chars.mapM base62DigitValue = some digits ↔
      (∀ digit ∈ digits, digit < 62) ∧ chars = digits.map base62Digit := by
  induction chars generalizing digits with
  | nil =>
      rw [List.mapM_nil, Option.pure_def, Option.some.injEq]
      constructor
      · rintro rfl
        exact ⟨by simp, rfl⟩
      · intro written
        exact (List.map_eq_nil_iff.mp written.2.symm).symm
  | cons c chars inductionHypothesis =>
      rw [List.mapM_cons]
      constructor
      · intro counted
        obtain ⟨digit, first, counted⟩ := Option.bind_eq_some_iff.mp counted
        obtain ⟨rest, others, counted⟩ := Option.bind_eq_some_iff.mp counted
        cases counted
        obtain ⟨small, rfl⟩ := (base62DigitValue_eq_some_iff c digit).mp first
        obtain ⟨allSmall, rfl⟩ := (inductionHypothesis rest).mp others
        exact ⟨List.forall_mem_cons.mpr ⟨small, allSmall⟩, rfl⟩
      · intro written
        obtain ⟨small, same⟩ := written
        cases digits with
        | nil => cases same
        | cons digit digits =>
            obtain ⟨rfl, others⟩ := List.cons.inj same
            obtain ⟨first, rest⟩ := List.forall_mem_cons.mp small
            rw [base62DigitValue_base62Digit digit first,
              (inductionHypothesis digits).mpr ⟨rest, others⟩]
            rfl

/-- A text has a value when it is made of digits, and that is the value. -/
theorem base62Value_eq_some_iff (s : String) (value : Nat) :
    base62Value s = some value ↔ Base62Text s value := by
  unfold base62Value Base62Text
  constructor
  · intro evaluated
    split_ifs at evaluated with empty
    obtain ⟨digits, counted, denotes⟩ := Option.map_eq_some_iff.mp evaluated
    obtain ⟨small, written⟩ :=
      (mapM_base62DigitValue_eq_some_iff s.toList digits).mp counted
    refine ⟨digits, ?_, small, ?_, denotes⟩
    · rintro rfl
      exact empty written
    · rw [← written, String.ofList_toList]
  · intro text
    obtain ⟨digits, nonempty, small, rfl, denotes⟩ := text
    have counted := (mapM_base62DigitValue_eq_some_iff
      (digits.map base62Digit) digits).mpr ⟨small, rfl⟩
    rw [String.toList_ofList, if_neg (by simpa using nonempty), counted,
      Option.map_some, denotes]

/-- A text has at most one value. -/
theorem Base62Text.unique {s : String} {value other : Nat}
    (text : Base62Text s value) (again : Base62Text s other) :
    value = other := by
  have first := (base62Value_eq_some_iff s value).mpr text
  rw [(base62Value_eq_some_iff s other).mpr again] at first
  exact (Option.some.inj first).symm

end Digits

section Decode

variable {base62Decode : String → Except DecodeError (BitVec 128)}

/-- The decoder accepts the texts whose value a `u64` holds. -/
theorem decode_ok_iff (decodes : DecodesNumerals base62Decode) (s : String)
    (v : UInt64) : decode base62Decode s = .ok v ↔ Base62Text s v.toNat := by
  have largest : (BitVec.ofNat 128 (UInt64.size - 1)).toNat = 2 ^ 64 - 1 := rfl
  have bound : v.toNat < 2 ^ 64 := v.toNat_lt
  rw [← base62Value_eq_some_iff, decode]
  constructor
  · intro accepted
    cases evaluated : base62Decode s with
    | error e =>
        rw [evaluated] at accepted
        cases accepted
    | ok value =>
        have denotes := (decodes s value).mp evaluated
        simp only [evaluated] at accepted
        split_ifs at accepted with large
        cases accepted
        rw [gt_iff_lt, BitVec.lt_def, largest] at large
        rw [denotes, UInt64.toNat_ofNat_of_lt']
        change value.toNat < 2 ^ 64
        omega
  · intro denotes
    -- The number fits the 128 bits, so the crate returns it.
    have wide : (BitVec.ofNat 128 v.toNat).toNat = v.toNat := by
      rw [BitVec.toNat_ofNat, Nat.mod_eq_of_lt (by omega)]
    have evaluated := (decodes s (.ofNat 128 v.toNat)).mpr (by rw [denotes, wide])
    have fits : ¬ BitVec.ofNat 128 v.toNat > .ofNat 128 (UInt64.size - 1) := by
      rw [gt_iff_lt, BitVec.lt_def, largest, wide]
      omega
    simp only [evaluated]
    rw [if_neg fits, wide, UInt64.ofNat_toNat]

/-- It returns an error on every other text. -/
theorem decode_error_iff (decodes : DecodesNumerals base62Decode) (s : String) :
    (∃ e, decode base62Decode s = .error e) ↔
      ¬ ∃ value ≤ UInt64.size - 1, Base62Text s value := by
  constructor
  · intro rejected text
    obtain ⟨e, rejected⟩ := rejected
    obtain ⟨value, small, text⟩ := text
    have bound : value < UInt64.size := Nat.lt_of_le_pred (by decide) small
    have accepted := (decode_ok_iff decodes s (.ofNat value)).mpr (by
      rwa [UInt64.toNat_ofNat_of_lt' bound])
    rw [rejected] at accepted
    cases accepted
  · intro noText
    cases outcome : decode base62Decode s with
    | error e => exact ⟨e, rfl⟩
    | ok v =>
        exact absurd ⟨v.toNat, Nat.le_pred_of_lt v.toNat_lt,
          (decode_ok_iff decodes s v).mp outcome⟩ noText

variable {base62Encode : UInt64 → String}

/-- Padded numerals decode to their number. -/
theorem decode_encodePad (encodes : EncodesNumerals base62Encode)
    (decodes : DecodesNumerals base62Decode) (n : UInt64) (width : Nat) :
    decode base62Decode (encodePad base62Encode n width) = .ok n := by
  rw [decode_ok_iff decodes, encodePad_eq encodes]
  refine ⟨_, ?_, leftpad_numeral_lt _ _, rfl, ?_⟩
  · have digitWritten := length_numeral_pos 62 n.toNat
    apply List.ne_nil_of_length_pos
    rw [List.leftpad, List.length_append]
    omega
  · rw [ofPositional_leftpad, ofPositional_numeral]

/-- An accepted text is the numeral of its value, padded to its length. -/
theorem encodePad_decode (encodes : EncodesNumerals base62Encode)
    (decodes : DecodesNumerals base62Decode) {s : String} {v : UInt64}
    (accepted : decode base62Decode s = .ok v) :
    encodePad base62Encode v (AsBytes.asBytes s).length = s := by
  obtain ⟨digits, nonempty, small, rfl, denotes⟩ :=
    (decode_ok_iff decodes s v).mp accepted
  have bounded := ofPositional_lt (by decide) small
  rw [denotes] at bounded
  rw [encodePad_eq encodes, asBytes_digits small, List.length_map,
    leftpad_numeral (by decide) (List.length_pos_iff.mpr nonempty) bounded,
    ← denotes, toPositional_ofPositional small]

/-- Decoding is exact: it accepts the digit texts of `u64` values and errs on
every other text, and the padding encoder and it undo each other. -/
theorem decode_exact (encodes : EncodesNumerals base62Encode)
    (decodes : DecodesNumerals base62Decode) :
    (∀ s v, decode base62Decode s = .ok v ↔ Base62Text s v.toNat) ∧
    (∀ s, (∃ e, decode base62Decode s = .error e) ↔
      ¬ ∃ value ≤ UInt64.size - 1, Base62Text s value) ∧
    (∀ n width,
      decode base62Decode (encodePad base62Encode n width) = .ok n) ∧
    ∀ s v, decode base62Decode s = .ok v →
      encodePad base62Encode v (AsBytes.asBytes s).length = s :=
  ⟨decode_ok_iff decodes, decode_error_iff decodes,
    decode_encodePad encodes decodes,
    fun _ _ accepted => encodePad_decode encodes decodes accepted⟩

/-- The decoder of the crate, as it is documented, evaluates texts. -/
theorem readNumeral_decodes : DecodesNumerals readNumeral := by
  intro s value
  unfold readNumeral
  cases evaluated : base62Value s with
  | none =>
      simp only [reduceCtorEq, iff_false]
      split_ifs <;> exact not_false
  | some number =>
      have bound : value.toNat < 2 ^ 128 := value.isLt
      dsimp only
      split_ifs with fits
      · rw [Except.ok.injEq, Option.some.injEq, ← BitVec.toNat_inj,
          BitVec.toNat_ofNat, Nat.mod_eq_of_lt fits]
      · rw [Option.some.injEq]
        constructor
        · exact fun rejected => rejected.elim
        · intro same
          omega

/-- The largest `u64` is read back from its eleven digits, the next numeral is
an error, and padding to five characters is undone. -/
theorem decode_exact_largest :
    decode readNumeral "LygHa16AHYF" = .ok (.ofNat (UInt64.size - 1)) ∧
    (∃ e, decode readNumeral "LygHa16AHYG" = .error e) ∧
    decode readNumeral (encodePad base62Numeral 62 5) = .ok 62 := by
  have encodes : EncodesNumerals base62Numeral := fun _ => rfl
  obtain ⟨accepts, rejects, undoes, _⟩ :=
    decode_exact encodes readNumeral_decodes
  refine ⟨?_, ?_, undoes 62 5⟩
  · rw [accepts]
    exact ⟨[21, 60, 42, 17, 36, 1, 6, 10, 17, 34, 15], by decide, by decide,
      by decide, by decide⟩
  · rw [rejects]
    intro text
    obtain ⟨value, small, text⟩ := text
    have tooLarge : Base62Text "LygHa16AHYG" UInt64.size :=
      ⟨[21, 60, 42, 17, 36, 1, 6, 10, 17, 34, 16], by decide, by decide,
        by decide, by decide⟩
    rw [text.unique tooLarge] at small
    exact absurd small (by decide)

end Decode

end RockSolid
