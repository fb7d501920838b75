/-
Module: RockSolid.Foundation.SerialHistory
Layer: Foundation
Purpose: Replaying interleaved runs one after another.  A program whose steps
  were taken while the store changed under it can be re-run in one fixed store
  as soon as that store agrees, on every key a step read, with the store the
  step was taken in.  A commit history is serial when every entry is justified
  by the store left by the entries before it.
Trusted boundary: none
Main exports: reachable_of_foldlM, TracedRun, ReadsOnly, TracedRun.replayedIn,
  SerialHistory, SerialHistory.concat, SerialHistory.preserves
-/
import Mathlib.Logic.Relation
import RockSolid.Foundation.KeyedStore

namespace RockSolid.Foundation

open KeyedStore

/-- What a list of steps computes, when all of them are possible, is reachable. -/
theorem reachable_of_foldlM {S A : Type} {step : S → A → Option S}
    {start finish : S} {steps : List A}
    (ran : steps.foldlM step start = some finish) :
    Relation.ReflTransGen (fun s next => ∃ a, step s a = some next) start
      finish := by
  induction steps generalizing start with
  | nil =>
      cases ran
      exact .refl
  | cons a steps inductionHypothesis =>
      rw [List.foldlM_cons] at ran
      obtain ⟨middle, taken, rest⟩ := Option.bind_eq_some_iff.mp ran
      exact .head ⟨a, taken⟩ (inductionHypothesis rest)

/-- Steps taken while the environment changes, oldest first.  Each trace entry
keeps the environment of its step and the key the step read, if it read one. -/
inductive TracedRun {E S K : Type*} (step : E → S → S → Prop)
    (reads : S → Option K) : S → List (E × Option K) → S → Prop where
  | refl (start : S) : TracedRun step reads start [] start
  | tail {start middle finish : S} {trace : List (E × Option K)} {e : E}
      (earlier : TracedRun step reads start trace middle)
      (last : step e middle finish) :
      TracedRun step reads start (trace ++ [(e, reads middle)]) finish

/-- A step depends on its store only through the cell it reads. -/
def ReadsOnly {D S K C W : Type*} [KeyedStore D K C W]
    (step : D → S → S → Prop) (reads : S → Option K) : Prop :=
  ∀ (d d' : D) (s s' : S), step d s s' →
    (∀ k, reads s = some k → cell d k = cell d' k) → step d' s s'

namespace TracedRun

variable {D S K C W : Type*} [KeyedStore D K C W]
  {step : D → S → S → Prop} {reads : S → Option K}

/-- An interleaved run is also a run in the fixed store `d`, provided `d`
agrees with the store of every step on the key that step read. -/
theorem replayedIn {d : D} {start finish : S} {trace : List (D × Option K)}
    (frame : ReadsOnly step reads)
    (run : TracedRun step reads start trace finish)
    (agree : ∀ entry ∈ trace, ∀ k, entry.2 = some k →
      cell entry.1 k = cell d k) :
    Relation.ReflTransGen (step d) start finish := by
  induction run with
  | refl => exact .refl
  | @tail middle finish trace e earlier last inductionHypothesis =>
      have before := inductionHypothesis
        (fun entry member => agree entry (List.mem_append_left _ member))
      have sameCell : ∀ k, reads middle = some k → cell e k = cell d k :=
        fun k read => agree (e, reads middle) (by simp) k read
      exact before.tail (frame e d middle finish last sameCell)

end TracedRun

/-- Every entry of the history is justified by the store left by the entries
before it: the history is one serial execution. -/
def SerialHistory {D K C W H : Type*} [KeyedStore D K C W]
    (batch : H → List W) (justified : D → H → Prop) (d : D)
    (history : List H) : Prop :=
  ∀ n entry, history[n]? = some entry →
    justified (stateAt d (history.map batch) n) entry

namespace SerialHistory

variable {D K C W H : Type*} [KeyedStore D K C W]
  {batch : H → List W} {justified : D → H → Prop} {d : D}

theorem nil : SerialHistory batch justified d [] := by
  intro n entry found
  simp at found

/-- A serial history extends by any entry its last store justifies. -/
theorem concat {history : List H} {entry : H}
    (serial : SerialHistory batch justified d history)
    (last : justified (replay d (history.map batch)) entry) :
    SerialHistory batch justified d (history ++ [entry]) := by
  intro n other found
  rw [List.map_append, List.map_singleton]
  rcases Nat.lt_trichotomy n history.length with inside | atEnd | beyond
  · rw [List.getElem?_append_left inside] at found
    rw [stateAt_concat _ _ _ (by simpa using Nat.le_of_lt inside)]
    exact serial n other found
  · subst atEnd
    rw [List.getElem?_concat_length, Option.some.injEq] at found
    subst found
    rw [stateAt_concat _ _ _ (by simp)]
    have whole : stateAt d (history.map batch) history.length =
        replay d (history.map batch) := by
      simpa using stateAt_length d (history.map batch)
    rw [whole]
    exact last
  · rw [List.getElem?_eq_none (by simp; omega)] at found
    cases found

/-- What every entry leaves as it was, the whole history leaves as it was. -/
theorem preserves {T : Type*} {history : List H} {measure : D → T}
    (serial : SerialHistory batch justified d history)
    (kept : ∀ entry ∈ history, ∀ before, justified before entry →
      measure (applyBatch before (batch entry)) = measure before) :
    measure (replay d (history.map batch)) = measure d := by
  have prefixKept : ∀ n ≤ history.length,
      measure (stateAt d (history.map batch) n) = measure d := by
    intro n
    induction n with
    | zero => exact fun _ => rfl
    | succ n inductionHypothesis =>
        intro bound
        have found : history[n]? = some history[n] :=
          List.getElem?_eq_getElem bound
        have next : stateAt d (history.map batch) (n + 1) =
            applyBatch (stateAt d (history.map batch) n) (batch history[n]) := by
          rw [stateAt, stateAt, List.take_add_one, List.getElem?_map, found]
          exact replay_concat _ _ _
        rw [next, kept _ (List.getElem_mem bound) _ (serial n _ found)]
        exact inductionHypothesis (Nat.le_of_succ_le bound)
  have whole := prefixKept history.length (Nat.le_refl _)
  rwa [← stateAt_length, List.length_map]

end SerialHistory

end RockSolid.Foundation
