/-
Module: RockSolid.Foundation.PrefixTable
Layer: Foundation
Purpose: Tables that are filled entry by entry and looked up by the longest
  prefix of a key that has an entry.
Trusted boundary: none
Main exports: lastEntry, lastEntry_concat, mem_of_lastEntry, IsLongestPrefix,
  longestPrefix, longestPrefix_isLongest, IsLongestPrefix.unique
-/
import Mathlib.Data.List.Infix

namespace RockSolid.Foundation

section LastEntry

variable {K T : Type*} [DecidableEq K]

/-- The entry that a key was given last. -/
def lastEntry (history : List (K × T)) (key : K) : Option T :=
  (history.filter fun given => given.1 = key).getLast?.map Prod.snd

@[simp] theorem lastEntry_nil (key : K) :
    lastEntry ([] : List (K × T)) key = none := rfl

theorem lastEntry_concat (history : List (K × T)) (given : K × T) (key : K) :
    lastEntry (history ++ [given]) key =
      if given.1 = key then some given.2 else lastEntry history key := by
  rw [lastEntry, List.filter_append]
  by_cases same : given.1 = key
  · simp [same]
  · simp [same, lastEntry]

/-- An entry that is found was given. -/
theorem mem_of_lastEntry {history : List (K × T)} {key : K} {value : T}
    (found : lastEntry history key = some value) : (key, value) ∈ history := by
  rw [lastEntry, Option.map_eq_some_iff] at found
  obtain ⟨given, last, rfl⟩ := found
  have kept := List.mem_filter.mp (List.mem_of_getLast? last)
  have same : given.1 = key := of_decide_eq_true kept.2
  rw [← same]
  exact kept.1

/-- The entry of a key does not depend on what other keys were given, or when. -/
theorem lastEntry_congr {first second : List (K × T)} {key : K}
    (same : (first.filter fun given => given.1 = key) =
      second.filter fun given => given.1 = key) :
    lastEntry first key = lastEntry second key := by
  rw [lastEntry, same, lastEntry]

end LastEntry

section Longest

variable {α T : Type*}

/-- The answer is the longest prefix of the key that has an entry, with the
entry; or none of its prefixes has one. -/
def IsLongestPrefix (entry : List α → Option T) (key : List α) :
    Option (List α × T) → Prop
  | some (found, value) =>
      found <+: key ∧ entry found = some value ∧
        ∀ other, other <+: key → entry other ≠ none →
          other.length ≤ found.length
  | none => ∀ other, other <+: key → entry other = none

/-- The search down the key: an entry below the first element is a longer prefix
than the one at the root. -/
def longestPrefix (entry : List α → Option T) :
    List α → Option (List α × T)
  | [] => (entry []).map fun value => ([], value)
  | a :: key =>
      match longestPrefix (fun below => entry (a :: below)) key with
      | some (below, value) => some (a :: below, value)
      | none => (entry []).map fun value => ([], value)

theorem isLongestPrefix_root {entry : List α → Option T} {key : List α}
    (nothingBelow : ∀ other, other <+: key → other ≠ [] → entry other = none) :
    IsLongestPrefix entry key ((entry []).map fun value => ([], value)) := by
  cases root : entry [] with
  | none =>
      intro other isPrefix
      by_cases empty : other = []
      · rw [empty, root]
      · exact nothingBelow other isPrefix empty
  | some value =>
      refine ⟨List.nil_prefix, root, ?_⟩
      intro other isPrefix registered
      by_contra longer
      apply registered
      apply nothingBelow other isPrefix
      intro empty
      subst empty
      exact longer (Nat.le_refl _)

/-- The search finds the longest prefix. -/
theorem longestPrefix_isLongest (entry : List α → Option T) (key : List α) :
    IsLongestPrefix entry key (longestPrefix entry key) := by
  induction key generalizing entry with
  | nil =>
      apply isLongestPrefix_root
      intro other isPrefix nonempty
      exact absurd (List.prefix_nil.mp isPrefix) nonempty
  | cons a key inductionHypothesis =>
      have below := inductionHypothesis fun below => entry (a :: below)
      rw [longestPrefix]
      cases found : longestPrefix (fun below => entry (a :: below)) key with
      | none =>
          rw [found] at below
          apply isLongestPrefix_root
          intro other isPrefix nonempty
          obtain empty | ⟨rest, rfl, restPrefix⟩ := List.prefix_cons_iff.mp isPrefix
          · exact absurd empty nonempty
          · exact below rest restPrefix
      | some answer =>
          rw [found] at below
          obtain ⟨isPrefix, registered, longest⟩ := below
          refine ⟨List.cons_prefix_cons.mpr ⟨rfl, isPrefix⟩, registered, ?_⟩
          intro other otherPrefix otherRegistered
          obtain rfl | ⟨rest, rfl, restPrefix⟩ :=
            List.prefix_cons_iff.mp otherPrefix
          · exact Nat.zero_le _
          · exact Nat.succ_le_succ (longest rest restPrefix otherRegistered)

/-- There is one longest prefix. -/
theorem IsLongestPrefix.unique {entry : List α → Option T} {key : List α}
    {first second : Option (List α × T)}
    (firstLongest : IsLongestPrefix entry key first)
    (secondLongest : IsLongestPrefix entry key second) : first = second := by
  rcases first with - | ⟨found, value⟩ <;>
    rcases second with - | ⟨other, otherValue⟩
  · rfl
  · obtain ⟨isPrefix, registered, _⟩ := secondLongest
    rw [firstLongest other isPrefix] at registered
    cases registered
  · obtain ⟨isPrefix, registered, _⟩ := firstLongest
    rw [secondLongest found isPrefix] at registered
    cases registered
  · obtain ⟨isPrefix, registered, longest⟩ := firstLongest
    obtain ⟨otherPrefix, otherRegistered, otherLongest⟩ := secondLongest
    have sameLength : found.length = other.length := by
      apply Nat.le_antisymm
      · exact otherLongest found isPrefix (by rw [registered]; nofun)
      · exact longest other otherPrefix (by rw [otherRegistered]; nofun)
    have same : found = other :=
      (List.prefix_of_prefix_length_le isPrefix otherPrefix
        sameLength.le).eq_of_length sameLength
    subst same
    rw [registered] at otherRegistered
    cases otherRegistered
    rfl

end Longest

end RockSolid.Foundation
