/-
Module: RockSolid.Foundation.OrderedScan
Layer: Foundation
Purpose: Scanning an ordered list from a seek position until the first element
  outside a block.  The scan returns the whole block exactly when the block is
  met without a gap.  Under the lexicographic order the lists that begin with a
  given prefix form such a block, and it starts at the prefix itself.
Trusted boundary: none
Main exports: takeWhile_eq_filter_iff, leadsWith_iff_of_sorted,
  dropWhile_eq_filter, NoGap, scan_eq_filter_iff, prefix_compare_ne_lt,
  prefix_of_between, prefix_of_within
-/
import Mathlib.Data.List.Basic

namespace RockSolid.Foundation

variable {α : Type*}

/-- Along a list, the elements satisfying `p` come first. -/
def LeadsWith (p : α → Bool) (l : List α) : Prop :=
  l.Pairwise fun earlier later => p later = true → p earlier = true

private theorem leadsWith_cons {p : α → Bool} {x : α} {l : List α} :
    LeadsWith p (x :: l) ↔
      (∀ y ∈ l, p y = true → p x = true) ∧ LeadsWith p l :=
  List.pairwise_cons

/-- Stopping at the first failure keeps everything exactly when the elements
that pass come first. -/
theorem takeWhile_eq_filter_iff {p : α → Bool} {l : List α} :
    l.takeWhile p = l.filter p ↔ LeadsWith p l := by
  induction l with
  | nil => simp [LeadsWith]
  | cons x l inductionHypothesis =>
      rw [leadsWith_cons]
      by_cases pass : p x = true
      · rw [List.takeWhile_cons_of_pos pass, List.filter_cons_of_pos pass,
          List.cons.injEq, inductionHypothesis]
        simp [pass]
      · rw [List.takeWhile_cons_of_neg pass, List.filter_cons_of_neg pass]
        constructor
        · intro empty
          have noneLater : ∀ y ∈ l, ¬ p y = true :=
            List.filter_eq_nil_iff.mp empty.symm
          refine ⟨fun y member hit => absurd hit (noneLater y member), ?_⟩
          exact List.pairwise_of_forall_mem_list
            (fun a _ b member hit => absurd hit (noneLater b member))
        · rintro ⟨first, -⟩
          exact (List.filter_eq_nil_iff.mpr
            (fun y member hit => pass (first y member hit))).symm

/-- Along a list sorted by `r`, the elements satisfying `p` come first exactly
when nothing else precedes one of them. -/
theorem leadsWith_iff_of_sorted {r : α → α → Prop} {p : α → Bool} {l : List α}
    (asymmetric : ∀ x y, r x y → ¬ r y x) (sorted : l.Pairwise r) :
    LeadsWith p l ↔
      ∀ x ∈ l, ∀ y ∈ l, r x y → p y = true → p x = true := by
  induction l with
  | nil => simp [LeadsWith]
  | cons head l inductionHypothesis =>
      obtain ⟨before, rest⟩ := List.pairwise_cons.mp sorted
      rw [leadsWith_cons, inductionHypothesis rest]
      constructor
      · rintro ⟨first, later⟩ x xMember y yMember precedes pass
        rcases List.mem_cons.mp xMember with rfl | xLater <;>
          rcases List.mem_cons.mp yMember with rfl | yLater
        · exact pass
        · exact first y yLater pass
        · exact absurd precedes (asymmetric _ _ (before x xLater))
        · exact later x xLater y yLater precedes pass
      · intro all
        constructor
        · intro y member pass
          exact all head List.mem_cons_self y (List.mem_cons_of_mem _ member)
            (before y member) pass
        · intro x xMember y yMember
          exact all x (List.mem_cons_of_mem _ xMember) y
            (List.mem_cons_of_mem _ yMember)

/-- Skipping a leading block removes exactly the elements of the block. -/
theorem dropWhile_eq_filter {p : α → Bool} {l : List α}
    (leads : LeadsWith p l) :
    l.dropWhile p = l.filter (fun x => !p x) := by
  induction l with
  | nil => rfl
  | cons x l inductionHypothesis =>
      obtain ⟨first, rest⟩ := leadsWith_cons.mp leads
      by_cases pass : p x = true
      · rw [List.dropWhile_cons_of_pos pass, inductionHypothesis rest,
          List.filter_cons_of_neg (by simp [pass])]
      · have noneLater : ∀ y ∈ l, (!p y) = true := by
          intro y member
          simpa using fun hit => pass (first y member hit)
        rw [List.dropWhile_cons_of_neg pass,
          List.filter_cons_of_pos (by simp [pass]),
          List.filter_eq_self.mpr noneLater]

/-- Nothing outside the block is met before an element of the block: no block
element lies before the seek position, and between the seek position and a
block element there are block elements only. -/
def NoGap (skipped inBlock : α → Bool) (l : List α) : Prop :=
  (∀ x ∈ l, inBlock x = true → skipped x = false) ∧
    l.Pairwise fun earlier later =>
      skipped earlier = false → inBlock later = true → inBlock earlier = true

instance (skipped inBlock : α → Bool) (l : List α) :
    Decidable (NoGap skipped inBlock l) :=
  inferInstanceAs (Decidable (_ ∧ _))

private theorem leadsWith_filter_iff {skipped inBlock : α → Bool}
    {l : List α} (outside : ∀ x ∈ l, inBlock x = true → skipped x = false) :
    LeadsWith inBlock (l.filter fun x => !skipped x) ↔
      l.Pairwise fun earlier later =>
        skipped earlier = false → inBlock later = true →
          inBlock earlier = true := by
  rw [LeadsWith, List.pairwise_filter]
  apply List.Pairwise.iff_of_mem
  intro earlier later _ laterMember
  constructor
  · intro leads notSkipped hit
    exact leads (by simp [notSkipped]) (by simp [outside later laterMember hit])
      hit
  · intro leads notSkipped _ hit
    exact leads (by simpa using notSkipped) hit

/-- The scan from the seek position up to the first element outside the block
finds the whole block exactly when the block has no gap. -/
theorem scan_eq_filter_iff {skipped inBlock : α → Bool} {l : List α}
    (seeks : LeadsWith skipped l) :
    (l.dropWhile skipped).takeWhile inBlock = l.filter inBlock ↔
      NoGap skipped inBlock l := by
  rw [dropWhile_eq_filter seeks]
  constructor
  · intro whole
    have outside : ∀ x ∈ l, inBlock x = true → skipped x = false := by
      intro x member hit
      have found : x ∈ (l.filter fun x => !skipped x).takeWhile inBlock :=
        whole ▸ List.mem_filter.mpr ⟨member, hit⟩
      have kept := (List.mem_filter.mp
        ((List.takeWhile_sublist inBlock).subset found)).2
      simpa using kept
    refine ⟨outside, (leadsWith_filter_iff outside).mp ?_⟩
    rw [← takeWhile_eq_filter_iff, whole, List.filter_filter]
    apply List.filter_congr
    intro x member
    cases hit : inBlock x with
    | false => rfl
    | true => simp [outside x member hit]
  · rintro ⟨outside, pairs⟩
    rw [takeWhile_eq_filter_iff.mpr ((leadsWith_filter_iff outside).mpr pairs),
      List.filter_filter]
    apply List.filter_congr
    intro x member
    cases hit : inBlock x with
    | false => rfl
    | true => simp [outside x member hit]

section Lexicographic

variable [Ord α] [Std.LawfulEqOrd α]

/-- A list never sorts before one of its prefixes. -/
theorem prefix_compare_ne_lt {p l : List α} (starts : p <+: l) :
    compare l p ≠ .lt := by
  induction p generalizing l with
  | nil => cases l <;> simp
  | cons x p inductionHypothesis =>
      obtain ⟨rest, rfl⟩ := starts
      rw [List.cons_append, List.compare_cons_cons, Std.ReflOrd.compare_self]
      exact inductionHypothesis (List.prefix_append p rest)

/-- Whatever sorts between a prefix and a list with that prefix has the prefix
too. -/
theorem prefix_of_between {p l m : List α} (starts : p <+: l)
    (notBefore : compare m p ≠ .lt) (before : compare m l = .lt) : p <+: m := by
  induction p generalizing l m with
  | nil => exact List.nil_prefix
  | cons x p inductionHypothesis =>
      obtain ⟨rest, rfl⟩ := starts
      cases m with
      | nil => simp at notBefore
      | cons y m =>
          rw [List.compare_cons_cons] at notBefore
          rw [List.cons_append, List.compare_cons_cons] at before
          cases heads : compare y x with
          | lt => simp [heads] at notBefore
          | gt => simp [heads] at before
          | eq =>
              rw [heads] at notBefore before
              have same : y = x := Std.LawfulEqOrd.eq_of_compare heads
              rw [same, List.prefix_cons_inj]
              exact inductionHypothesis (List.prefix_append p rest)
                notBefore before

/-- Whatever sorts between two lists with a common prefix has the prefix too. -/
theorem prefix_of_within [Std.TransOrd α] {p first last m : List α}
    (firstStarts : p <+: first) (lastStarts : p <+: last)
    (notBefore : compare m first ≠ .lt) (notAfter : compare m last ≠ .gt) :
    p <+: m := by
  have notBelow : compare m p ≠ .lt := by
    intro below
    have above : (compare p first).isLE :=
      Std.OrientedCmp.isGE_iff_isLE.mp
        (Ordering.isGE_iff_ne_lt.mpr (prefix_compare_ne_lt firstStarts))
    exact notBefore (Std.TransCmp.lt_of_lt_of_isLE below above)
  cases position : compare m last with
  | lt => exact prefix_of_between lastStarts notBelow position
  | eq =>
      have same : m = last := Std.LawfulEqOrd.eq_of_compare position
      exact same ▸ lastStarts
  | gt => exact absurd position notAfter

end Lexicographic

end RockSolid.Foundation
