/-
Module: RockSolid.Foundation.FallibleList
Layer: Foundation
Purpose: Running a fallible function over a list and stopping at the first
  error.  The run succeeds exactly when every call does, with the results in
  order; `AgreesWith` states this of any batch operation and the single
  operations it stands for.
Trusted boundary: none
Main exports: map_eq_ok_iff, mapError_eq_ok_iff, bind_eq_ok_iff, mapM_eq_ok_iff,
  exists_mapM_eq_ok_iff, forM_eq_ok_iff, AgreesWith, agreesWith_mapM,
  AgreesWith.bind_mapM, agreesWith_of_failures, AgreesWith.not_of_swallowed
-/
import Mathlib.Data.List.Basic

namespace RockSolid.Foundation

universe u v w

variable {α : Type u} {β γ : Type v} {ε : Type w}

theorem ok_injective : Function.Injective (Except.ok : β → Except ε β) :=
  fun _ _ => Except.ok.inj

theorem map_eq_ok_iff {f : α → β} {result : Except ε α} {b : β} :
    result.map f = .ok b ↔ ∃ a, result = .ok a ∧ f a = b := by
  cases result <;> simp [Except.map]

theorem mapError_eq_ok_iff {ε' : Type u} {f : ε → ε'} {result : Except ε β}
    {b : β} : result.mapError f = .ok b ↔ result = .ok b := by
  cases result <;> simp [Except.mapError]

theorem bind_eq_ok_iff {f : γ → Except ε β} {result : Except ε γ} {b : β} :
    (result >>= f) = .ok b ↔ ∃ c, result = .ok c ∧ f c = .ok b := by
  cases result <;> simp [bind, Except.bind]

/-- The run succeeds exactly when every call does, with the results in order. -/
theorem mapM_eq_ok_iff {f : α → Except ε β} {l : List α} {results : List β} :
    l.mapM f = .ok results ↔ l.map f = results.map .ok := by
  induction l generalizing results with
  | nil => cases results <;> simp [pure, Except.pure]
  | cons x l inductionHypothesis =>
      rw [List.mapM_cons, List.map_cons]
      cases head : f x with
      | error e => cases results <;> simp [bind, Except.bind]
      | ok y =>
          cases tail : l.mapM f with
          | error e =>
              have noTail : ∀ ys : List β, l.map f ≠ ys.map .ok := by
                intro ys same
                rw [inductionHypothesis.mpr same] at tail
                cases tail
              cases results with
              | nil => simp [bind, Except.bind]
              | cons z zs => simp [bind, Except.bind, noTail zs]
          | ok ys =>
              rw [inductionHypothesis.mp tail]
              cases results with
              | nil => simp [bind, Except.bind, pure, Except.pure]
              | cons z zs =>
                  simp [bind, Except.bind, pure, Except.pure,
                    ok_injective.list_map.eq_iff]

theorem exists_map_ok_iff {singles : List (Except ε β)} :
    (∃ items : List β, singles = items.map .ok) ↔
      ∀ single ∈ singles, ∃ item, single = .ok item := by
  induction singles with
  | nil => exact ⟨by simp, fun _ => ⟨[], rfl⟩⟩
  | cons single singles inductionHypothesis =>
      rw [List.forall_mem_cons, ← inductionHypothesis]
      constructor
      · rintro ⟨items, same⟩
        cases items with
        | nil => cases same
        | cons item items =>
            rw [List.map_cons, List.cons.injEq] at same
            exact ⟨⟨item, same.1⟩, ⟨items, same.2⟩⟩
      · rintro ⟨⟨item, rfl⟩, ⟨items, rfl⟩⟩
        exact ⟨item :: items, rfl⟩

/-- The run succeeds exactly when no call fails. -/
theorem exists_mapM_eq_ok_iff {f : α → Except ε β} {l : List α} :
    (∃ results, l.mapM f = .ok results) ↔ ∀ x ∈ l, ∃ y, f x = .ok y := by
  have everyCall :
      (∃ results : List β, l.map f = results.map .ok) ↔
        ∀ single ∈ l.map f, ∃ y, single = .ok y := exists_map_ok_iff
  rw [List.forall_mem_map] at everyCall
  rw [← everyCall]
  exact exists_congr fun results => mapM_eq_ok_iff

/-- A loop over the list succeeds exactly when every round does. -/
theorem forM_eq_ok_iff {f : α → Except ε PUnit} {l : List α} :
    l.forM f = .ok ⟨⟩ ↔ ∀ x ∈ l, f x = .ok ⟨⟩ := by
  induction l with
  | nil => exact ⟨fun _ _ member => absurd member List.not_mem_nil, fun _ => rfl⟩
  | cons x l inductionHypothesis =>
      rw [List.forall_mem_cons, ← inductionHypothesis]
      change (f x >>= fun _ => l.forM f) = _ ↔ _
      rcases f x with e | ⟨⟩ <;> simp [bind, Except.bind]

/-- One failing call makes the run fail. -/
theorem exists_mapM_eq_error {f : α → Except ε β} {l : List α} {x : α}
    (member : x ∈ l) {e : ε} (fails : f x = .error e) :
    ∃ e', l.mapM f = .error e' := by
  cases run : l.mapM f with
  | error e' => exact ⟨e', rfl⟩
  | ok results =>
      obtain ⟨y, succeeded⟩ := exists_mapM_eq_ok_iff.mp ⟨results, run⟩ x member
      rw [fails] at succeeded
      cases succeeded

/-- A batch operation agrees with the single operations it stands for: it
succeeds exactly when all of them do, and then with their results in order. -/
structure AgreesWith (whole : Except ε (List β))
    (singles : List (Except ε β)) : Prop where
  ok_iff : (∃ items, whole = .ok items) ↔
    ∀ single ∈ singles, ∃ item, single = .ok item
  items : ∀ items, whole = .ok items → singles = items.map .ok

theorem agreesWith_iff {whole : Except ε (List β)}
    {singles : List (Except ε β)} :
    AgreesWith whole singles ↔
      ∀ items, whole = .ok items ↔ singles = items.map .ok := by
  constructor
  · intro agrees items
    constructor
    · exact agrees.items items
    · intro same
      obtain ⟨others, succeeded⟩ :=
        agrees.ok_iff.mpr (exists_map_ok_iff.mp ⟨items, same⟩)
      have sameItems : items = others :=
        ok_injective.list_map (same.symm.trans (agrees.items others succeeded))
      rw [succeeded, sameItems]
  · intro same
    constructor
    · rw [← exists_map_ok_iff]
      exact exists_congr same
    · exact fun items => (same items).mp

/-- Stopping at the first error agrees with the calls one by one. -/
theorem agreesWith_mapM (f : α → Except ε β) (l : List α) :
    AgreesWith (l.mapM f) (l.map f) :=
  agreesWith_iff.mpr fun _ => mapM_eq_ok_iff

/-- A second fallible step over the results of a batch that agrees. -/
theorem AgreesWith.bind_mapM {whole : Except ε (List β)}
    {singles : List (Except ε β)} (agrees : AgreesWith whole singles)
    (g : β → Except ε γ) :
    AgreesWith (whole >>= fun items => items.mapM g)
      (singles.map fun single => single >>= g) := by
  rw [agreesWith_iff] at agrees ⊢
  intro results
  cases whole with
  | ok items =>
      rw [(agrees items).mp rfl, List.map_map]
      exact mapM_eq_ok_iff
  | error e =>
      constructor
      · intro succeeded
        cases succeeded
      · intro same
        have firstSteps : ∀ single ∈ singles, ∃ item, single = .ok item := by
          intro single member
          cases single with
          | ok item => exact ⟨item, rfl⟩
          | error e' =>
              have bound : .error e' ∈ results.map Except.ok := by
                rw [← same]
                exact List.mem_map.mpr ⟨.error e', member, rfl⟩
              obtain ⟨result, _, impossible⟩ := List.mem_map.mp bound
              cases impossible
        obtain ⟨items, allOk⟩ := exists_map_ok_iff.mpr firstSteps
        have succeeded := (agrees items).mpr allOk
        cases succeeded

/-- A batch that fails agrees with single operations one of which fails. -/
theorem agreesWith_of_failures {e : ε} {singles : List (Except ε β)}
    {single : Except ε β} (member : single ∈ singles) {e' : ε}
    (fails : single = .error e') : AgreesWith (.error e) singles := by
  rw [agreesWith_iff]
  intro items
  constructor
  · intro succeeded
    cases succeeded
  · rintro rfl
    obtain ⟨item, _, rfl⟩ := List.mem_map.mp member
    cases fails

/-- A batch that succeeds although a single operation fails does not agree. -/
theorem AgreesWith.not_of_swallowed {items : List β}
    {singles : List (Except ε β)} {e : ε} (member : .error e ∈ singles) :
    ¬ AgreesWith (.ok items) singles := by
  intro agrees
  obtain ⟨item, succeeded⟩ := agrees.ok_iff.mp ⟨items, rfl⟩ _ member
  cases succeeded

end RockSolid.Foundation
