/-
Module: RockSolid.Foundation.PrefixReads
Layer: Foundation
Purpose: What one party reads of a store while others commit batches to it.  Each
  of its reads is answered over the store some prefix of the log leaves, under the
  writes the party has staged itself; the prefixes only grow.
Trusted boundary: none
Main exports: PrefixReads, PrefixReads.readAll, PrefixReads.extend
-/
import RockSolid.Foundation.KeyedStore

namespace RockSolid.Foundation

open KeyedStore

/-- The events of a party whose reads see prefixes of the log under its own staged
writes, those writes, and the length of the prefix it has come to.  `staging` is
the event of a write, which the store may refuse to stage. -/
inductive PrefixReads {D K C W E : Type*} [KeyedStore D K C W]
    (answered : D → E → Prop) (staging : W → E) (d : D)
    (log : List (List W)) : List E → List W → Nat → Prop where
  | begin : PrefixReads answered staging d log [] [] 0
  | later {events : List E} {own : List W} {n m : Nat}
      (earlier : PrefixReads answered staging d log events own n)
      (ordered : n ≤ m) (bound : m ≤ log.length) :
      PrefixReads answered staging d log events own m
  | read {events : List E} {own : List W} {n : Nat} {event : E}
      (earlier : PrefixReads answered staging d log events own n)
      (sees : answered (applyBatch (stateAt d log n) own) event) :
      PrefixReads answered staging d log (events ++ [event]) own n
  | stage {events : List E} {own : List W} {n : Nat} (w : W)
      (earlier : PrefixReads answered staging d log events own n) :
      PrefixReads answered staging d log (events ++ [staging w]) (own ++ [w]) n
  | refuse {events : List E} {own : List W} {n : Nat} (w : W)
      (earlier : PrefixReads answered staging d log events own n) :
      PrefixReads answered staging d log (events ++ [staging w]) own n

namespace PrefixReads

variable {D K C W E : Type*} [KeyedStore D K C W] {answered : D → E → Prop}
  {staging : W → E} {d : D} {log : List (List W)} {events : List E}
  {own : List W} {n : Nat}

theorem bounded (reads : PrefixReads answered staging d log events own n) :
    n ≤ log.length := by
  induction reads with
  | begin => exact Nat.zero_le _
  | later _ _ bound _ => exact bound
  | read _ _ inductionHypothesis => exact inductionHypothesis
  | stage _ _ inductionHypothesis => exact inductionHypothesis
  | refuse _ _ inductionHypothesis => exact inductionHypothesis

/-- The party comes to the end of the log. -/
theorem atEnd (reads : PrefixReads answered staging d log events own n) :
    PrefixReads answered staging d log events own log.length :=
  .later reads reads.bounded (Nat.le_refl _)

/-- Several reads at one point of the log. -/
theorem readAll {more : List E}
    (reads : PrefixReads answered staging d log events own n)
    (sees : ∀ event ∈ more,
      answered (applyBatch (stateAt d log n) own) event) :
    PrefixReads answered staging d log (events ++ more) own n := by
  induction more generalizing events with
  | nil => rwa [List.append_nil]
  | cons event more inductionHypothesis =>
      rw [List.append_cons]
      apply inductionHypothesis (.read reads (sees event List.mem_cons_self))
      intro other member
      exact sees other (List.mem_cons_of_mem event member)

/-- What others commit later changes nothing of what was read. -/
theorem extend (reads : PrefixReads answered staging d log events own n)
    (batch : List W) :
    PrefixReads answered staging d (log ++ [batch]) events own n := by
  induction reads with
  | begin => exact .begin
  | later _ ordered bound inductionHypothesis =>
      refine .later inductionHypothesis ordered ?_
      rw [List.length_append]
      exact Nat.le_add_right_of_le bound
  | read earlier sees inductionHypothesis =>
      apply PrefixReads.read inductionHypothesis
      rwa [stateAt_concat d log batch earlier.bounded]
  | stage w _ inductionHypothesis => exact .stage w inductionHypothesis
  | refuse w _ inductionHypothesis => exact .refuse w inductionHypothesis

end PrefixReads

end RockSolid.Foundation
