/-
Module: RockSolid.Foundation.HashMap
Layer: Foundation
Purpose: Hash maps: finite maps whose entries are iterated in some order that
  nothing is known of.  A loop over the entries, as far as one key is concerned, is
  its step for that key's entry; so a loop that treats each entry by itself has a
  result without an order.  Taking entries out for the keys of a list finds each
  entry once.
Trusted boundary: none
Main exports: HashMap, HashMap.modify, HashMap.mapValues, HashMap.takeEach,
  HashOrder, HashOrder.forEach, HashOrder.observe_forEach,
  HashOrder.lookup_collect, HashOrder.lookup_modifyEach,
  HashOrder.lookup_forEachMut, HashMap.lookup_fill, HashMap.getElem?_takeEach
-/
import Mathlib.Data.Finmap

namespace RockSolid.Foundation

universe u v w x

/-- A finite map, with no order of its entries. -/
abbrev HashMap (K : Type u) (V : Type v) := Finmap fun _ : K => V

/-- The order in which the entries of each map come out when it is iterated. -/
structure HashOrder (K : Type u) (V : Type v) where
  entries : HashMap K V → AList fun _ : K => V
  covers : ∀ map, (entries map).toFinmap = map

variable {K : Type u} {V : Type v} {W : Type w} {S : Type x}

/-- Every map can be iterated. -/
instance : Nonempty (HashOrder K V) := by
  have listed (map : HashMap K V) :
      ∃ entries : AList fun _ : K => V, entries.toFinmap = map :=
    map.induction_on fun entries => ⟨entries, rfl⟩
  choose entries covers using listed
  exact ⟨⟨entries, covers⟩⟩

/-- `for (key, value) in map`, with the state the body works on. -/
def HashOrder.forEach (order : HashOrder K V) (map : HashMap K V)
    (body : S → K → V → S) (state : S) : S :=
  (order.entries map).entries.foldl
    (fun state entry => body state entry.1 entry.2) state

namespace HashMap

/-- The map with each value changed. -/
def mapValues (map : HashMap K V) (change : V → W) : HashMap K W where
  entries := map.entries.map fun entry => ⟨entry.1, change entry.2⟩
  nodupKeys := by
    rcases map with ⟨⟨entries⟩, distinct⟩
    exact List.NodupKeys.map₂ (fun _ => change) entries distinct

variable [DecidableEq K]

theorem lookup_mapValues (map : HashMap K V) (change : V → W) (key : K) :
    (mapValues map change).lookup key = (map.lookup key).map change := by
  induction map using Finmap.induction_on with
  | H entries => exact List.dlookup_map₂ (f := fun _ => change) key

theorem lookup_insert_eq (map : HashMap K V) (key other : K) (value : V) :
    (map.insert key value).lookup other =
      if other = key then some value else map.lookup other := by
  split
  · next same =>
      subst same
      exact Finmap.lookup_insert map
  · next differs => exact Finmap.lookup_insert_of_ne map differs

/-- `get_mut`, and a change of what it finds. -/
def modify (map : HashMap K V) (key : K) (change : V → V) : HashMap K V :=
  match map.lookup key with
  | some value => map.insert key (change value)
  | none => map

theorem lookup_modify_self (map : HashMap K V) (key : K) (change : V → V) :
    (modify map key change).lookup key = (map.lookup key).map change := by
  cases found : map.lookup key with
  | some value => simp [modify, found]
  | none => simp [modify, found]

theorem lookup_modify_of_ne (map : HashMap K V) {key other : K}
    (differs : other ≠ key) (change : V → V) :
    (modify map key change).lookup other = map.lookup other := by
  rw [modify]
  split
  · exact Finmap.lookup_insert_of_ne map differs
  · rfl

/-- A value inserted for every key of a list. -/
theorem lookup_fill (value : K → V) (keys : List K) (map : HashMap K V)
    (key : K) :
    (keys.foldl (fun map key => map.insert key (value key)) map).lookup key =
      if key ∈ keys then some (value key) else map.lookup key := by
  induction keys generalizing map with
  | nil => rfl
  | cons first keys inductionHypothesis =>
      rw [List.foldl_cons, inductionHypothesis, lookup_insert_eq]
      by_cases same : key = first
      · simp [same]
      · simp [same]

/-- `remove` for the keys of a list, one after the other. -/
def takeEach : List K → HashMap K V → List (K × Option V)
  | [], _ => []
  | key :: keys, map =>
      let (found, others) := map.extract key
      (key, found) :: takeEach keys others

/-- A key's value is found at the key's first position and is gone after it. -/
theorem getElem?_takeEach (keys : List K) (map : HashMap K V) (i : Nat) :
    (takeEach keys map)[i]? = keys[i]?.map fun key =>
      (key, if key ∈ keys.take i then none else map.lookup key) := by
  induction keys generalizing map i with
  | nil => rfl
  | cons first keys inductionHypothesis =>
      rw [takeEach, Finmap.extract_eq_lookup_erase]
      cases i with
      | zero => rfl
      | succ i =>
          rw [List.getElem?_cons_succ, List.getElem?_cons_succ,
            inductionHypothesis]
          congr 1
          funext key
          by_cases same : key = first
          · subst same
            simp [Finmap.lookup_erase]
          · simp [same, Finmap.lookup_erase_ne same]

end HashMap

namespace HashOrder

variable [DecidableEq K] {O : Type*} (order : HashOrder K V) {key : K}
  {body : S → K → V → S} (observe : S → O)

omit [DecidableEq K] in
/-- What is observed of a key does not change while others are treated. -/
theorem observe_foldl_of_absent
    (others : ∀ state other value, other ≠ key →
      observe (body state other value) = observe state)
    {entries : List ((_ : K) × V)} (absent : key ∉ entries.keys) (state : S) :
    observe (entries.foldl (fun state entry => body state entry.1 entry.2)
      state) = observe state := by
  induction entries generalizing state with
  | nil => rfl
  | cons entry entries inductionHypothesis =>
      rw [List.keys_cons, List.mem_cons, not_or] at absent
      rw [List.foldl_cons, inductionHypothesis absent.2,
        others state entry.1 entry.2 (Ne.symm absent.1)]

/-- A loop over a map, seen at one key: its step for the entry of that key, when
there is one. -/
theorem observe_forEach
    (others : ∀ state other value, other ≠ key →
      observe (body state other value) = observe state)
    (own : ∀ state state' value, observe state = observe state' →
      observe (body state key value) = observe (body state' key value))
    (map : HashMap K V) (state : S) :
    observe (order.forEach map body state) =
      match map.lookup key with
      | some value => observe (body state key value)
      | none => observe state := by
  have listed : map.lookup key = (order.entries map).entries.dlookup key := by
    conv_lhs => rw [← order.covers map]
    rfl
  rw [listed, forEach]
  have distinct := (order.entries map).nodupKeys
  generalize (order.entries map).entries = entries at distinct
  induction entries generalizing state with
  | nil => rfl
  | cons entry entries inductionHypothesis =>
      obtain ⟨first, value⟩ := entry
      rw [List.foldl_cons]
      by_cases same : key = first
      · subst same
        rw [List.dlookup_cons_eq]
        exact observe_foldl_of_absent observe others
          (List.notMem_keys_of_nodupKeys_cons distinct) _
      · have unchanged := others state first value (Ne.symm same)
        rw [List.dlookup_cons_ne _ _ same, inductionHypothesis _
          (List.nodupKeys_of_nodupKeys_cons distinct)]
        cases List.dlookup key entries with
        | none => exact unchanged
        | some found => exact own _ _ found unchanged

/-- `into_iter().map(..).collect()`. -/
theorem lookup_collect (change : V → W) (map : HashMap K V) (key : K) :
    (order.forEach map
      (fun collected name value => collected.insert name (change value))
      (∅ : HashMap K W)).lookup key = (map.lookup key).map change := by
  rw [order.observe_forEach (Finmap.lookup key)]
  · cases map.lookup key with
    | none => rfl
    | some value => exact Finmap.lookup_insert _
  · intro collected other value differs
    exact Finmap.lookup_insert_of_ne _ (Ne.symm differs)
  · intro collected collected' value _
    rw [Finmap.lookup_insert, Finmap.lookup_insert]

/-- A loop that changes, for every entry of one map, that key's value in
another. -/
theorem lookup_modifyEach (change : V → W → W) (map : HashMap K V)
    (target : HashMap K W) (key : K) :
    (order.forEach map
      (fun target name value => target.modify name (change value))
      target).lookup key =
      match map.lookup key with
      | some value => (target.lookup key).map (change value)
      | none => target.lookup key := by
  rw [order.observe_forEach (Finmap.lookup key)]
  · cases map.lookup key with
    | none => rfl
    | some value => exact HashMap.lookup_modify_self _ _ _
  · intro target other value differs
    exact HashMap.lookup_modify_of_ne _ (Ne.symm differs) _
  · intro target target' value same
    rw [HashMap.lookup_modify_self, HashMap.lookup_modify_self, same]

/-- `for (key, value) in map.iter_mut()`. -/
def forEachMut (map : HashMap K V) (body : K → V → V) : HashMap K V :=
  order.forEach map (fun map key _ => map.modify key (body key)) map

/-- Each value is changed once. -/
theorem lookup_forEachMut (map : HashMap K V) (body : K → V → V) (key : K) :
    (order.forEachMut map body).lookup key = (map.lookup key).map (body key) := by
  rw [forEachMut, order.observe_forEach (Finmap.lookup key)]
  · cases found : map.lookup key with
    | none => rfl
    | some value =>
        refine (HashMap.lookup_modify_self _ _ _).trans ?_
        rw [found]
  · intro changed other value differs
    exact HashMap.lookup_modify_of_ne _ (Ne.symm differs) _
  · intro changed changed' value same
    rw [HashMap.lookup_modify_self, HashMap.lookup_modify_self, same]

end HashOrder

end RockSolid.Foundation
