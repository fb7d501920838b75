/-
Module: RockSolid.Foundation.Positional
Layer: Foundation
Purpose: Positional numerals, most significant digit first: the digits of fixed
  width, the numeral without leading zeros, and the number that digits denote.
  Padding a numeral with zeros gives the digits of the width where it suffices,
  digits and numbers determine each other, and digits of one width compare like
  the numbers they denote.
Trusted boundary: none
Main exports: toPositional, numeral, ofPositional, leftpad_numeral,
  length_numeral_le_iff, ofPositional_numeral, toPositional_ofPositional,
  compare_append_of_length_eq, compare_toPositional, compare_map_toPositional
-/
import Mathlib.Data.Nat.Digits.Lemmas

namespace RockSolid.Foundation

/-- The last `width` digits of `n`, most significant digit first. -/
def toPositional (base : Nat) : Nat → Nat → List Nat
  | 0, _ => []
  | width + 1, n => toPositional base width (n / base) ++ [n % base]

/-- The digits of `n` without leading zeros; zero has one digit. -/
def numeral (base n : Nat) : List Nat :=
  if n = 0 then [0] else (Nat.digits base n).reverse

@[simp] theorem length_toPositional (base width n : Nat) :
    (toPositional base width n).length = width := by
  induction width generalizing n with
  | zero => rfl
  | succ width inductionHypothesis =>
      simp [toPositional, inductionHypothesis]

theorem toPositional_lt {base : Nat} (positive : 0 < base) (width n : Nat) :
    ∀ digit ∈ toPositional base width n, digit < base := by
  induction width generalizing n with
  | zero => simp [toPositional]
  | succ width inductionHypothesis =>
      intro digit member
      rcases List.mem_append.mp member with higher | lowest
      · exact inductionHypothesis (n / base) digit higher
      · rw [List.mem_singleton.mp lowest]
        exact Nat.mod_lt n positive

theorem toPositional_zero (base width : Nat) :
    toPositional base width 0 = List.replicate width 0 := by
  induction width with
  | zero => rfl
  | succ width inductionHypothesis =>
      rw [toPositional, Nat.zero_div, Nat.zero_mod, inductionHypothesis,
        List.replicate_succ']

/-- A wide enough block of digits is the numeral behind zeros. -/
theorem toPositional_eq_leftpad {base : Nat} (large : 1 < base)
    {width n : Nat} (fits : n < base ^ width) :
    toPositional base width n =
      ((Nat.digits base n).reverse).leftpad width 0 := by
  induction width generalizing n with
  | zero =>
      rw [pow_zero, Nat.lt_one_iff] at fits
      simp [fits, toPositional, List.leftpad]
  | succ width inductionHypothesis =>
      rcases Nat.eq_zero_or_pos n with rfl | positive
      · simp [toPositional_zero, List.leftpad]
      · have higher : n / base < base ^ width := by
          rw [Nat.div_lt_iff_lt_mul (by omega), ← pow_succ]
          exact fits
        rw [toPositional, inductionHypothesis higher,
          Nat.digits_def' large positive, List.reverse_cons]
        simp [List.leftpad]

theorem numeral_of_pos {base n : Nat} (positive : 0 < n) :
    numeral base n = (Nat.digits base n).reverse :=
  if_neg (Nat.ne_of_gt positive)

theorem numeral_lt {base : Nat} (large : 1 < base) (n : Nat) :
    ∀ digit ∈ numeral base n, digit < base := by
  intro digit member
  rcases Nat.eq_zero_or_pos n with rfl | positive
  · rw [numeral, if_pos rfl, List.mem_singleton] at member
    omega
  · rw [numeral_of_pos positive, List.mem_reverse] at member
    exact Nat.digits_lt_base large member

theorem length_numeral_pos (base n : Nat) :
    0 < (numeral base n).length := by
  rcases Nat.eq_zero_or_pos n with rfl | positive
  · exact Nat.one_pos
  · rw [numeral_of_pos positive, List.length_reverse, List.length_pos_iff,
      Nat.digits_ne_nil_iff_ne_zero]
    omega

/-- A numeral fits a width exactly when the number is below that power of the
base; zero takes one place. -/
theorem length_numeral_le_iff {base : Nat} (large : 1 < base) (n width : Nat) :
    (numeral base n).length ≤ width ↔ 0 < width ∧ n < base ^ width := by
  rcases Nat.eq_zero_or_pos n with rfl | positive
  · have power : 0 < base ^ width := Nat.pow_pos (by omega)
    simp only [numeral, if_pos, List.length_singleton, power, and_true]
    exact Nat.succ_le_iff
  · rw [numeral_of_pos positive, List.length_reverse,
      Nat.digits_length_le_iff large]
    constructor
    · intro fits
      refine ⟨?_, fits⟩
      rcases Nat.eq_zero_or_pos width with rfl | wide
      · rw [pow_zero] at fits
        omega
      · exact wide
    · exact fun fits => fits.2

/-- Padding the numeral gives the digits of the width, where they suffice. -/
theorem leftpad_numeral {base : Nat} (large : 1 < base) {width n : Nat}
    (wide : 0 < width) (fits : n < base ^ width) :
    (numeral base n).leftpad width 0 = toPositional base width n := by
  rcases Nat.eq_zero_or_pos n with rfl | positive
  · obtain ⟨width, rfl⟩ := Nat.exists_eq_add_of_lt wide
    rw [toPositional_zero]
    simp [numeral, List.leftpad, ← List.replicate_succ']
  · rw [numeral_of_pos positive, toPositional_eq_leftpad large fits]

section Value

/-- The number that digits denote. -/
def ofPositional (base : Nat) (digits : List Nat) : Nat :=
  Nat.ofDigits base digits.reverse

theorem ofPositional_concat (base : Nat) (digits : List Nat) (digit : Nat) :
    ofPositional base (digits ++ [digit]) =
      ofPositional base digits * base + digit := by
  rw [ofPositional, List.reverse_concat, Nat.ofDigits_cons, ofPositional,
    Nat.mul_comm, Nat.add_comm]

/-- Digits below the base denote a number below that power of it. -/
theorem ofPositional_lt {base : Nat} (large : 1 < base) {digits : List Nat}
    (small : ∀ digit ∈ digits, digit < base) :
    ofPositional base digits < base ^ digits.length := by
  have bounded : ofPositional base digits < base ^ digits.reverse.length :=
    Nat.ofDigits_lt_base_pow_length large
      (fun digit member => small digit (List.mem_reverse.mp member))
  rwa [List.length_reverse] at bounded

/-- The numeral of a number denotes it. -/
theorem ofPositional_numeral (base n : Nat) :
    ofPositional base (numeral base n) = n := by
  rcases Nat.eq_zero_or_pos n with rfl | positive
  · simp [ofPositional, numeral]
  · rw [numeral_of_pos positive, ofPositional, List.reverse_reverse,
      Nat.ofDigits_digits]

/-- Zeros in front do not count. -/
theorem ofPositional_leftpad (base width : Nat) (digits : List Nat) :
    ofPositional base (digits.leftpad width 0) = ofPositional base digits := by
  rw [ofPositional, List.leftpad, List.reverse_append, List.reverse_replicate,
    Nat.ofDigits_append_replicate_zero]
  rfl

/-- Digits are those of the number they denote. -/
theorem toPositional_ofPositional {base : Nat} {digits : List Nat}
    (small : ∀ digit ∈ digits, digit < base) :
    toPositional base digits.length (ofPositional base digits) = digits := by
  induction digits using List.reverseRecOn with
  | nil => rfl
  | append_singleton digits digit inductionHypothesis =>
      have last : digit < base :=
        small digit (List.mem_append_right _ (List.mem_singleton_self digit))
      have initial := inductionHypothesis fun other member =>
        small other (List.mem_append_left _ member)
      rw [List.length_append, List.length_singleton, toPositional,
        ofPositional_concat, Nat.mul_comm, Nat.mul_add_div (by omega),
        Nat.div_eq_of_lt last, Nat.add_zero, initial, Nat.mul_add_mod,
        Nat.mod_eq_of_lt last]

end Value

section Order

variable {α β : Type*} [Ord α] [Ord β]

/-- Lists with heads of one length compare by the heads, then by the rest. -/
theorem compare_append_of_length_eq {first second : List α}
    (sameLength : first.length = second.length) (firstRest secondRest : List α) :
    compare (first ++ firstRest) (second ++ secondRest) =
      (compare first second).then (compare firstRest secondRest) := by
  induction first generalizing second with
  | nil =>
      rw [List.eq_nil_of_length_eq_zero sameLength.symm]
      simp
  | cons x first inductionHypothesis =>
      cases second with
      | nil => cases sameLength
      | cons y second =>
          have tails := inductionHypothesis (Nat.succ.inj sameLength)
          rw [List.cons_append, List.cons_append, List.compare_cons_cons,
            List.compare_cons_cons, tails, Ordering.then_assoc]

/-- A map that keeps the order of the elements keeps that of the lists. -/
theorem compare_map_of_compare_eq {f : α → β} {first second : List α}
    (keeps : ∀ x ∈ first, ∀ y ∈ second, compare (f x) (f y) = compare x y) :
    compare (first.map f) (second.map f) = compare first second := by
  induction first generalizing second with
  | nil => cases second <;> simp
  | cons x first inductionHypothesis =>
      cases second with
      | nil => simp
      | cons y second =>
          have tails : compare (first.map f) (second.map f) =
              compare first second := by
            apply inductionHypothesis
            intro a aMember b bMember
            exact keeps a (List.mem_cons_of_mem _ aMember) b
              (List.mem_cons_of_mem _ bMember)
          rw [List.map_cons, List.map_cons, List.compare_cons_cons,
            List.compare_cons_cons, tails,
            keeps x List.mem_cons_self y List.mem_cons_self]

end Order

/-- Numbers compare by their higher digits, then by the lowest. -/
theorem compare_eq_then_mod {base : Nat} (positive : 0 < base) (m n : Nat) :
    compare m n =
      (compare (m / base) (n / base)).then (compare (m % base) (n % base)) := by
  have left := Nat.div_add_mod m base
  have right := Nat.div_add_mod n base
  have leftDigit := Nat.mod_lt m positive
  have rightDigit := Nat.mod_lt n positive
  rcases Nat.lt_trichotomy (m / base) (n / base) with less | same | greater
  · have outweighs := Nat.mul_le_mul_left base (Nat.succ_le_of_lt less)
    rw [Nat.compare_eq_lt.mpr less]
    apply Nat.compare_eq_lt.mpr
    rw [Nat.succ_eq_add_one, Nat.mul_add] at outweighs
    omega
  · rw [same] at left
    rw [same, Nat.compare_eq_eq.mpr rfl, Ordering.eq_then]
    rcases Nat.lt_trichotomy (m % base) (n % base) with less | equal | greater
    · rw [Nat.compare_eq_lt.mpr less]
      exact Nat.compare_eq_lt.mpr (by omega)
    · rw [Nat.compare_eq_eq.mpr equal]
      exact Nat.compare_eq_eq.mpr (by omega)
    · rw [Nat.compare_eq_gt.mpr greater]
      exact Nat.compare_eq_gt.mpr (by omega)
  · have outweighs := Nat.mul_le_mul_left base (Nat.succ_le_of_lt greater)
    rw [Nat.compare_eq_gt.mpr greater]
    apply Nat.compare_eq_gt.mpr
    rw [Nat.succ_eq_add_one, Nat.mul_add] at outweighs
    omega

/-- Digits of one width compare like the numbers they denote. -/
theorem compare_toPositional {base : Nat} (positive : 0 < base) {width m n : Nat}
    (left : m < base ^ width) (right : n < base ^ width) :
    compare (toPositional base width m) (toPositional base width n) =
      compare m n := by
  induction width generalizing m n with
  | zero =>
      rw [pow_zero, Nat.lt_one_iff] at left right
      simp [left, right, toPositional]
  | succ width inductionHypothesis =>
      have sameLength : (toPositional base width (m / base)).length =
          (toPositional base width (n / base)).length := by
        rw [length_toPositional, length_toPositional]
      rw [pow_succ] at left right
      rw [toPositional, toPositional, compare_append_of_length_eq sameLength,
        inductionHypothesis ((Nat.div_lt_iff_lt_mul positive).mpr left)
          ((Nat.div_lt_iff_lt_mul positive).mpr right),
        compare_eq_then_mod positive m n]
      simp

/-- So do the digits written in an alphabet that is ordered like them. -/
theorem compare_map_toPositional {β : Type*} [Ord β] {base : Nat}
    (positive : 0 < base) {symbol : Nat → β}
    (keeps : ∀ d < base, ∀ e < base, compare (symbol d) (symbol e) = compare d e)
    {width m n : Nat} (left : m < base ^ width) (right : n < base ^ width) :
    compare ((toPositional base width m).map symbol)
      ((toPositional base width n).map symbol) = compare m n := by
  rw [← compare_toPositional positive left right]
  apply compare_map_of_compare_eq
  intro d dMember e eMember
  exact keeps d (toPositional_lt positive _ _ d dMember) e
    (toPositional_lt positive _ _ e eMember)

end RockSolid.Foundation
