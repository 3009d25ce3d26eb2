import Mathlib.Data.List.AList
import Mathlib.Data.Finset.Card
import Mathlib.Algebra.Order.Ring.Int

/-!
# Finite tables

A table is an association list without repeated keys, with values of one type.
Mathlib provides insertion, erasure and lookup; this file adds the change of
one value in place (`modify`) and the set of keys whose value has a property
(`keysWhere`). Two tables that agree at every key but one have key sets whose
sizes differ by what happens at that key (`card_of_agree_off`).

The order of the entries means nothing to a program that ranges over a table:
a `Shuffle` stands for the order it happens to visit the keys in.
-/

set_option autoImplicit false

namespace C4D.Foundations

/-- A finite table from keys to values. -/
abbrev Table (κ V : Type) := AList fun _ : κ => V

/-! ## Orders of traversal -/

/-- A rearrangement of lists, fixed for one traversal. -/
structure Shuffle (κ : Type) where
  apply : List κ → List κ
  perm : ∀ l, (apply l).Perm l

namespace Shuffle

variable {κ : Type}

/-- The traversal in the given order. -/
def inOrder : Shuffle κ := ⟨fun l => l, fun l => .refl l⟩

/-- The traversal that visits the keys with a property first. -/
def first (p : κ → Bool) : Shuffle κ :=
  ⟨fun l => l.filter p ++ l.filter (fun k => !p k), fun l => List.filter_append_perm p l⟩

@[simp] theorem mem_apply (s : Shuffle κ) (l : List κ) (k : κ) : k ∈ s.apply l ↔ k ∈ l :=
  (s.perm l).mem_iff

theorem nodup_apply (s : Shuffle κ) {l : List κ} (nodup : l.Nodup) : (s.apply l).Nodup :=
  (s.perm l).nodup_iff.mpr nodup

/-- Any rearrangement of a list is a traversal of it. -/
theorem exists_apply_eq [DecidableEq κ] {l m : List κ} (perm : m.Perm l) :
    ∃ s : Shuffle κ, s.apply l = m := by
  refine ⟨⟨fun k => if k = l then m else k, fun k => ?_⟩, if_pos rfl⟩
  by_cases same : k = l
  · rw [if_pos same, same]
    exact perm
  · rw [if_neg same]

end Shuffle

/-! ## Changing one value -/

namespace Table

variable {κ V : Type} [DecidableEq κ]

/-- Change the value at a key, if there is one. -/
def modify (k : κ) (f : V → V) (t : Table κ V) : Table κ V where
  entries := t.entries.map fun e => ⟨e.1, if e.1 = k then f e.2 else e.2⟩
  nodupKeys := t.nodupKeys.map₂ (fun j v => if j = k then f v else v)

theorem lookup_modify (j k : κ) (f : V → V) (t : Table κ V) :
    (modify k f t).lookup j = (t.lookup j).map fun v => if j = k then f v else v :=
  List.dlookup_map₂ (f := fun i v => if i = k then f v else v) j

@[simp] theorem lookup_modify_self (k : κ) (f : V → V) (t : Table κ V) :
    (modify k f t).lookup k = (t.lookup k).map f := by
  simp only [lookup_modify, if_true]

theorem lookup_modify_of_ne {j k : κ} (ne : j ≠ k) (f : V → V) (t : Table κ V) :
    (modify k f t).lookup j = t.lookup j := by
  simp only [lookup_modify, if_neg ne, Option.map_id']

/-- A reading of the values that the change does not affect is the same everywhere. -/
theorem map_lookup_modify {W : Type} (f : V → W) (g : V → V) (same : ∀ v, f (g v) = f v)
    (j k : κ) (t : Table κ V) : ((modify k g t).lookup j).map f = (t.lookup j).map f := by
  rw [lookup_modify, Option.map_map]
  congr 1
  funext v
  by_cases here : j = k
  · simp only [Function.comp_apply, if_pos here, same]
  · simp only [Function.comp_apply, if_neg here]

@[simp] theorem keys_modify (k : κ) (f : V → V) (t : Table κ V) :
    (modify k f t).keys = t.keys := by
  simp only [AList.keys, modify, List.keys, List.map_map, Function.comp_def]

@[simp] theorem mem_modify {j k : κ} {f : V → V} {t : Table κ V} :
    j ∈ modify k f t ↔ j ∈ t := by
  rw [AList.mem_keys, AList.mem_keys, keys_modify]

theorem mem_iff_exists_lookup {k : κ} {t : Table κ V} : k ∈ t ↔ ∃ v, t.lookup k = some v := by
  rw [← AList.lookup_isSome, Option.isSome_iff_exists]

/-! ## Keys whose value has a property -/

/-- The keys whose value has a property. -/
def keysWhere (p : V → Bool) (t : Table κ V) : Finset κ :=
  (t.keys.filter fun k => (t.lookup k).any p).toFinset

theorem mem_keysWhere {p : V → Bool} {t : Table κ V} {k : κ} :
    k ∈ keysWhere p t ↔ ∃ v, t.lookup k = some v ∧ p v := by
  simp only [keysWhere, List.mem_toFinset, List.mem_filter, Option.any_eq_true,
    ← AList.mem_keys, mem_iff_exists_lookup]
  constructor
  · exact fun ⟨_, found⟩ => found
  · exact fun ⟨v, found, holds⟩ => ⟨⟨v, found⟩, v, found, holds⟩

end Table

/-- Two sets that agree off one element differ in size by what happens there. -/
theorem card_of_agree_off {κ : Type} [DecidableEq κ] {before after : Finset κ} {j : κ}
    (agree : ∀ k, k ≠ j → (k ∈ after ↔ k ∈ before)) :
    (after.card : Int) =
      before.card + (if j ∈ after then 1 else 0) - (if j ∈ before then 1 else 0) := by
  have same : after.erase j = before.erase j := by
    ext k
    simp only [Finset.mem_erase]
    exact and_congr_right fun ne => agree k ne
  have afterCard := Finset.card_erase_add_one (s := after) (a := j)
  have beforeCard := Finset.card_erase_add_one (s := before) (a := j)
  have afterErase := Finset.erase_eq_of_notMem (s := after) (a := j)
  have beforeErase := Finset.erase_eq_of_notMem (s := before) (a := j)
  grind

end C4D.Foundations
