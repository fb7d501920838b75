/-
Module: RockSolid.Foundation.AscendingBindings
Layer: Foundation
Purpose: Finite maps whose bindings are listed in the order of their keys.  A list
  that ascends is determined by its members, so every ascending list of bindings
  is the listing of one map.
Trusted boundary: none
Main exports: Ascending, Ascending.eq_of_mem_iff, bindings, mem_bindings,
  bindings_ascending, ofBindings, lookup_ofBindings, bindings_ofBindings,
  restrict, lookup_restrict, alter, lookup_alter
-/
import Mathlib.Data.Finmap
import Mathlib.Data.Finset.Sort

namespace RockSolid.Foundation

variable {α β : Type*} [Ord α]

/-- The keys ascend. -/
def Ascending (l : List (α × β)) : Prop :=
  l.Pairwise fun earlier later => compare earlier.1 later.1 = .lt

/-- One key is at most the other. -/
def AtMost (a b : α) : Prop :=
  (compare a b).isLE = true

instance instDecidableRelAtMost : DecidableRel (@AtMost α _) :=
  fun _ _ => instDecidableEqBool _ _

variable [Std.TransOrd α] [Std.LawfulEqOrd α]

instance instIsTransAtMost : IsTrans α AtMost where
  trans _ _ _ first second := Std.TransCmp.isLE_trans first second

instance instAntisymmAtMost : Std.Antisymm (@AtMost α _) where
  antisymm _ _ first second :=
    Std.LawfulEqOrd.eq_of_compare (Std.OrientedCmp.isLE_antisymm first second)

instance instTotalAtMost : Std.Total (@AtMost α _) where
  total a b := by
    rw [AtMost, AtMost, ← Std.OrientedCmp.isGE_iff_isLE (a := a)]
    cases compare a b <;> simp

namespace Ascending

variable {l first second : List (α × β)}

omit [Std.TransOrd α] in
/-- No key comes twice. -/
theorem nodup_keys (ascending : Ascending l) : (l.map Prod.fst).Nodup := by
  rw [List.nodup_iff_pairwise_ne, List.pairwise_map]
  apply ascending.imp
  intro earlier later before same
  have itself : compare later.1 later.1 = .eq := Std.ReflCmp.compare_self
  rw [same, itself] at before
  cases before

/-- An ascending list is determined by its members. -/
theorem eq_of_mem_iff (ascending : Ascending first)
    (ascendingToo : Ascending second)
    (same : ∀ key value, (key, value) ∈ first ↔ (key, value) ∈ second) :
    first = second := by
  have permuted : first.Perm second := by
    rw [List.perm_ext_iff_of_nodup (List.Nodup.of_map _ ascending.nodup_keys)
      (List.Nodup.of_map _ ascendingToo.nodup_keys)]
    exact fun binding => same binding.1 binding.2
  apply permuted.eq_of_pairwise _ ascending ascendingToo
  intro earlier later _ _ before after
  rw [Std.OrientedCmp.gt_of_lt before] at after
  cases after

end Ascending

variable [DecidableEq α]

/-- The bindings of a finite map, by ascending keys. -/
def bindings (m : Finmap fun _ : α => β) : List (α × β) :=
  (m.keys.sort AtMost).filterMap fun key => (m.lookup key).map (key, ·)

@[simp] theorem mem_bindings {m : Finmap fun _ : α => β} {key : α} {value : β} :
    (key, value) ∈ bindings m ↔ m.lookup key = some value := by
  simp only [bindings, List.mem_filterMap, Finset.mem_sort, Finmap.mem_keys,
    Option.map_eq_some_iff, Prod.mk.injEq]
  constructor
  · rintro ⟨_, -, _, found, rfl, rfl⟩
    exact found
  · intro found
    exact ⟨key, Finmap.mem_of_lookup_eq_some found, value, found, rfl, rfl⟩

theorem bindings_ascending (m : Finmap fun _ : α => β) :
    Ascending (bindings m) := by
  have distinct : (m.keys.sort AtMost).Pairwise fun earlier later =>
      compare earlier later = .lt := by
    apply (Finset.pairwise_sort m.keys AtMost).imp₂ _ (Finset.sort_nodup _ _)
    intro earlier later atMost differ
    have notEqual : compare earlier later ≠ .eq :=
      fun equal => differ (Std.LawfulEqOrd.eq_of_compare equal)
    rw [AtMost] at atMost
    cases order : compare earlier later <;> simp_all
  refine List.Pairwise.filterMap _ ?_ distinct
  intro earlier later before shown listed shownLater listedLater
  obtain ⟨_, -, rfl⟩ := Option.map_eq_some_iff.mp listed
  obtain ⟨_, -, rfl⟩ := Option.map_eq_some_iff.mp listedLater
  exact before

/-- The map with these bindings. -/
def ofBindings (l : List (α × β)) : Finmap fun _ : α => β :=
  (l.map fun binding => (⟨binding.1, binding.2⟩ : (_ : α) × β)).toFinmap

omit [Std.TransOrd α] in
theorem lookup_ofBindings {l : List (α × β)} (ascending : Ascending l) {key : α}
    {value : β} :
    (ofBindings l).lookup key = some value ↔ (key, value) ∈ l := by
  have distinct : (l.map fun binding =>
      (⟨binding.1, binding.2⟩ : (_ : α) × β)).NodupKeys := by
    rw [List.NodupKeys, List.keys, List.map_map]
    exact ascending.nodup_keys
  rw [ofBindings, Finmap.dlookup_list_toFinmap, ← Option.mem_def,
    List.mem_dlookup_iff distinct, List.mem_map]
  constructor
  · rintro ⟨binding, member, same⟩
    cases same
    exact member
  · intro member
    exact ⟨_, member, rfl⟩

/-- An ascending list is the listing of its map. -/
theorem bindings_ofBindings {l : List (α × β)} (ascending : Ascending l) :
    bindings (ofBindings l) = l := by
  apply (bindings_ascending _).eq_of_mem_iff ascending
  intro key value
  rw [mem_bindings, lookup_ofBindings ascending]

/-- The map with only those bindings whose keys are to be kept. -/
def restrict (m : Finmap fun _ : α => β) (keep : α → Bool) :
    Finmap fun _ : α => β :=
  ofBindings ((bindings m).filter fun binding => keep binding.1)

theorem lookup_restrict (m : Finmap fun _ : α => β) (keep : α → Bool) (key : α) :
    (restrict m keep).lookup key =
      if keep key = true then m.lookup key else none := by
  have ascending : Ascending ((bindings m).filter fun binding => keep binding.1) :=
    (bindings_ascending m).filter _
  apply Option.ext
  intro value
  rw [restrict, lookup_ofBindings ascending, List.mem_filter, mem_bindings]
  by_cases kept : keep key = true <;> simp [kept]

section Alter

omit [Ord α] [Std.TransOrd α] [Std.LawfulEqOrd α]

/-- The map with one key bound anew, or no longer bound, by what it was bound to. -/
def alter (m : Finmap fun _ : α => β) (key : α) (f : Option β → Option β) :
    Finmap fun _ : α => β :=
  match f (m.lookup key) with
  | some value => m.insert key value
  | none => m.erase key

@[simp] theorem lookup_alter (m : Finmap fun _ : α => β) (key other : α)
    (f : Option β → Option β) :
    (alter m key f).lookup other =
      if key = other then f (m.lookup other) else m.lookup other := by
  rw [alter]
  by_cases same : key = other
  · subst same
    rw [if_pos rfl]
    cases f (m.lookup key) with
    | none => exact Finmap.lookup_erase key m
    | some value => exact Finmap.lookup_insert m
  · rw [if_neg same]
    cases f (m.lookup key) with
    | none => exact Finmap.lookup_erase_ne (Ne.symm same)
    | some value => exact Finmap.lookup_insert_of_ne m (Ne.symm same)

end Alter

end RockSolid.Foundation
