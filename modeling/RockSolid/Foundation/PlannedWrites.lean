/-
Module: RockSolid.Foundation.PlannedWrites
Layer: Foundation
Purpose: Methods that make planned writes in order and may return early with an
  error.  Such a method has made an initial part of its plan, and all of it when
  it returns `Ok`.  Sequences and loops of such methods are such methods, with the
  plans joined; so nested loops need one rule.
Trusted boundary: none
Main exports: Method.forM_cons, WritesUpTo, WritesUpTo.bind, WritesUpTo.forM,
  filter_flatMap_keyed, Succeeds, Succeeds.forM, forM_ok_body
-/
import Mathlib.Data.List.Basic
import RockSolid.Foundation.Method

namespace RockSolid.Foundation

variable {α β ε σ W : Type} {apply : σ → W → σ}

/-- A loop is its first round and then the rest of them. -/
theorem Method.forM_cons (body : α → Method ε σ Unit) (a : α)
    (items : List α) :
    (a :: items).forM body = (body a >>= fun _ => items.forM body) := rfl

/-- Whatever the method returns, it has made an initial part of the planned
writes, and all of them when it returns `Ok`. -/
def WritesUpTo (apply : σ → W → σ) (planned : List W) (m : Method ε σ Unit) :
    Prop :=
  ∀ receiver, ∃ done, done <+: planned ∧
    (m receiver).2 = done.foldl apply receiver ∧
    ((m receiver).1 = .ok () → done = planned)

namespace WritesUpTo

theorem nothing : WritesUpTo apply [] (pure () : Method ε σ Unit) :=
  fun _ => ⟨[], List.nil_prefix, rfl, fun _ => rfl⟩

/-- An error instead of the writes makes none of them. -/
theorem failing (planned : List W) (e : ε) :
    WritesUpTo apply planned
      (liftM (Except.error e : Except ε Unit) : Method ε σ Unit) := by
  intro receiver
  refine ⟨[], List.nil_prefix, rfl, ?_⟩
  intro returned
  cases returned

/-- What is computed before the writes does not count. -/
theorem liftM_bind {planned : List W} {result : Except ε α}
    {f : α → Method ε σ Unit}
    (each : ∀ a, result = .ok a → WritesUpTo apply planned (f a)) :
    WritesUpTo apply planned (liftM result >>= f) := by
  cases result with
  | ok a => exact each a rfl
  | error e => exact failing planned e

/-- One plan after the other. -/
theorem bind {first second : List W} {m n : Method ε σ Unit}
    (writesFirst : WritesUpTo apply first m)
    (writesSecond : WritesUpTo apply second n) :
    WritesUpTo apply (first ++ second) (m >>= fun _ => n) := by
  intro receiver
  obtain ⟨done, initial, left, complete⟩ := writesFirst receiver
  rw [Method.bind_apply]
  rcases ran : m receiver with ⟨e | _, between⟩
  · rw [ran] at left
    refine ⟨done, initial.trans (List.prefix_append _ _), left, ?_⟩
    intro returned
    cases returned
  · rw [ran] at left complete
    have whole : done = first := complete rfl
    obtain ⟨later, laterInitial, laterLeft, laterComplete⟩ :=
      writesSecond between
    have between_eq : between = first.foldl apply receiver := whole ▸ left
    refine ⟨first ++ later, (List.prefix_append_right_inj _).mpr laterInitial, ?_,
      fun returned => congrArg (first ++ ·) (laterComplete returned)⟩
    rw [List.foldl_append, ← between_eq]
    exact laterLeft

/-- A loop writes the plans of its rounds in order. -/
theorem forM {body : α → Method ε σ Unit} {plan : α → List W} {items : List α}
    (each : ∀ a ∈ items, WritesUpTo apply (plan a) (body a)) :
    WritesUpTo apply (items.flatMap plan) (items.forM body) := by
  induction items with
  | nil => exact nothing
  | cons a items inductionHypothesis =>
      have rest := inductionHypothesis
        (fun b member => each b (List.mem_cons_of_mem _ member))
      rw [Method.forM_cons, List.flatMap_cons]
      exact (each a List.mem_cons_self).bind rest

end WritesUpTo

/-- Of the joined plans of different keys, the writes with one key are the plan
of that key. -/
theorem filter_flatMap_keyed {ι : Type} [DecidableEq ι] {plan : ι → List W}
    {keyOf : W → ι} (keyed : ∀ i, ∀ write ∈ plan i, keyOf write = i)
    {keys : List ι} (different : keys.Nodup) (i : ι) :
    (keys.flatMap plan).filter (keyOf · = i) =
      if i ∈ keys then plan i else [] := by
  have own : (plan i).filter (keyOf · = i) = plan i := by
    apply List.filter_eq_self.mpr
    intro write member
    exact decide_eq_true (keyed i write member)
  have foreign {j : ι} (other : i ≠ j) :
      (plan j).filter (keyOf · = i) = [] := by
    apply List.filter_eq_nil_iff.mpr
    intro write member same
    exact other ((of_decide_eq_true same).symm.trans (keyed j write member))
  induction keys with
  | nil => rfl
  | cons j keys inductionHypothesis =>
      obtain ⟨new, differentRest⟩ := List.nodup_cons.mp different
      rw [List.flatMap_cons, List.filter_append,
        inductionHypothesis differentRest]
      by_cases same : i = j
      · subst same
        rw [own, if_neg new, List.append_nil, if_pos List.mem_cons_self]
      · rw [foreign same, List.nil_append]
        simp [same]

/-- On every receiver the method returns `Ok`. -/
def Succeeds (m : Method ε σ Unit) : Prop :=
  ∀ receiver, (m receiver).1 = .ok ()

/-- A loop none of whose rounds fails does not fail. -/
theorem Succeeds.forM {body : α → Method ε σ Unit} {items : List α}
    (each : ∀ a ∈ items, Succeeds (body a)) : Succeeds (items.forM body) := by
  induction items with
  | nil => exact fun _ => rfl
  | cons a items inductionHypothesis =>
      intro receiver
      rw [Method.forM_cons,
        Method.bind_of_ok (each a List.mem_cons_self receiver)]
      exact inductionHypothesis
        (fun b member => each b (List.mem_cons_of_mem _ member)) _

/-- Every round of a loop that returned `Ok` has returned `Ok`. -/
theorem forM_ok_body {body : α → Method ε σ Unit} {items : List α}
    {receiver : σ} (returned : (items.forM body receiver).1 = .ok ()) :
    ∀ a ∈ items, ∃ before, (body a before).1 = .ok () := by
  induction items generalizing receiver with
  | nil => simp
  | cons a items inductionHypothesis =>
      rw [Method.forM_cons, Method.bind_apply] at returned
      rcases ran : body a receiver with ⟨e | _, between⟩
      · rw [ran] at returned
        cases returned
      · rw [ran] at returned
        intro b member
        rcases List.mem_cons.mp member with first | later
        · subst first
          exact ⟨receiver, congrArg Prod.fst ran⟩
        · exact inductionHypothesis returned b later

end RockSolid.Foundation
