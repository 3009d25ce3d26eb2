import C4D.Foundations.Table
import Mathlib.Data.List.Sort
import Mathlib.Data.Int.Interval

/-!
# Sorting by a key and positions in the sorted list

An unstable sort returns some permutation sorted by the key; which one it
returns for equal keys is not specified. `sortBy` takes a `Shuffle` that decides
the ties, and every permutation sorted by the key is the result for some
shuffle (`exists_sortBy_eq`).

Renumbering a sorted list by position keeps the order of keys
(`idxOf_lt_of_key_lt`). It never raises a key when the keys are spread out: at
most `r + 1` elements have a key up to `r` (`Spread`, `idxOf_le_key`). Distinct
natural keys are spread out, and they stay so when elements with the keys `a`,
`a + 2`, `a + 4`, … are appended to `a` of them (`spread_append`).
-/

set_option autoImplicit false

namespace C4D.Foundations

variable {κ β : Type}

/-! ## Sorting -/

section Sorting

variable [LinearOrder β] {key : κ → β}

/-- The list sorted by a key, with ties in the order a shuffle puts them in. -/
def sortBy (ties : Shuffle κ) (key : κ → β) (l : List κ) : List κ :=
  (ties.apply l).insertionSort fun a b => key a ≤ key b

/-- The list is sorted by the key. -/
abbrev SortedBy (key : κ → β) (l : List κ) : Prop := l.Pairwise fun a b => key a ≤ key b

theorem sortBy_perm (ties : Shuffle κ) (key : κ → β) (l : List κ) :
    (sortBy ties key l).Perm l :=
  (List.perm_insertionSort _ _).trans (ties.perm l)

@[simp] theorem mem_sortBy {ties : Shuffle κ} {l : List κ} {x : κ} :
    x ∈ sortBy ties key l ↔ x ∈ l :=
  (sortBy_perm ties key l).mem_iff

@[simp] theorem length_sortBy (ties : Shuffle κ) (l : List κ) :
    (sortBy ties key l).length = l.length :=
  (sortBy_perm ties key l).length_eq

theorem sortBy_sortedBy (ties : Shuffle κ) (l : List κ) : SortedBy key (sortBy ties key l) := by
  have total : Std.Total fun a b : κ => key a ≤ key b := ⟨fun a b => le_total (key a) (key b)⟩
  have transitive : IsTrans κ fun a b => key a ≤ key b := ⟨fun _ _ _ => le_trans⟩
  exact List.pairwise_insertionSort _ _

/-- Every sorted permutation is the result of the sort for some order of ties. -/
theorem exists_sortBy_eq [DecidableEq κ] {l sorted : List κ} (perm : sorted.Perm l)
    (order : SortedBy key sorted) : ∃ ties : Shuffle κ, sortBy ties key l = sorted := by
  obtain ⟨ties, same⟩ := Shuffle.exists_apply_eq perm
  refine ⟨ties, ?_⟩
  rw [sortBy, same]
  exact List.Pairwise.insertionSort_eq order

end Sorting

/-! ## Positions -/

section Positions

variable [DecidableEq κ]

theorem key_le_of_idxOf_lt [LinearOrder β] {key : κ → β} {l : List κ} (order : SortedBy key l)
    {x y : κ} (memY : y ∈ l) (before : l.idxOf x < l.idxOf y) : key x ≤ key y := by
  have positionY := List.idxOf_lt_length_of_mem memY
  have sorted := List.pairwise_iff_getElem.mp order _ _ (before.trans positionY) positionY before
  simpa only [List.getElem_idxOf] using sorted

/-- A smaller key stands earlier. -/
theorem idxOf_lt_of_key_lt [LinearOrder β] {key : κ → β} {l : List κ} (order : SortedBy key l)
    {x y : κ} (memX : x ∈ l) (lt : key x < key y) : l.idxOf x < l.idxOf y := by
  by_contra notBefore
  rcases (not_lt.mp notBefore).lt_or_eq with before | same
  · exact absurd (key_le_of_idxOf_lt order memX before) (not_le.mpr lt)
  · have positionX := List.idxOf_lt_length_of_mem memX
    have positionY := same ▸ positionX
    have equal : y = x := by
      calc y = l[l.idxOf y] := (List.getElem_idxOf positionY).symm
        _ = l[l.idxOf x] := by simp only [same]
        _ = x := List.getElem_idxOf positionX
    exact absurd lt (equal ▸ lt_irrefl _)

/-- Everything up to an element has a key at most as large. -/
theorem idxOf_lt_countP [LinearOrder β] {key : κ → β} {l : List κ} (order : SortedBy key l)
    {x : κ} (mem : x ∈ l) : l.idxOf x < l.countP fun y => decide (key y ≤ key x) := by
  have position := List.idxOf_lt_length_of_mem mem
  have prefixCount : (l.take (l.idxOf x + 1)).countP (fun y => decide (key y ≤ key x)) =
      (l.take (l.idxOf x + 1)).length := by
    rw [List.countP_eq_length]
    intro y memY
    obtain ⟨i, bound, rfl⟩ := List.mem_take_iff_getElem.mp memY
    rw [decide_eq_true_iff]
    rcases (show i ≤ l.idxOf x by omega).lt_or_eq with before | same
    · have sorted := List.pairwise_iff_getElem.mp order i (l.idxOf x) (by omega) position before
      simpa only [List.getElem_idxOf] using sorted
    · subst same
      rw [List.getElem_idxOf]
  have counted := (List.take_sublist (l.idxOf x + 1) l).countP_le
    (p := fun y => decide (key y ≤ key x))
  rw [prefixCount, List.length_take] at counted
  omega

/-- An element that shares its key with no other stands after exactly the smaller keys. -/
theorem idxOf_eq_countP [LinearOrder β] {key : κ → β} {l : List κ} (order : SortedBy key l)
    {x : κ} (mem : x ∈ l) (untied : ∀ y ∈ l, key y = key x → y = x) :
    l.idxOf x = l.countP fun y => decide (key y < key x) := by
  induction l with
  | nil => simp at mem
  | cons y rest ih =>
      obtain ⟨first, order⟩ := List.pairwise_cons.mp order
      by_cases same : y = x
      · subst same
        have none : rest.countP (fun z => decide (key z < key y)) = 0 := by
          rw [List.countP_eq_zero]
          intro z memZ
          simpa using first z memZ
        simp [none]
      · have memRest : x ∈ rest := List.mem_of_ne_of_mem (Ne.symm same) mem
        have less : key y < key x :=
          (first x memRest).lt_of_ne fun tied => same (untied y List.mem_cons_self tied)
        have rank := ih order memRest fun z memZ => untied z (List.mem_cons_of_mem _ memZ)
        rw [List.idxOf_cons_ne _ same, rank, List.countP_cons, if_pos (decide_eq_true less)]

/-- **Without a tie the sort decides the position**, whatever the list was before. -/
theorem idxOf_eq_of_untied [LinearOrder β] {key : κ → β} {l m : List κ} (perm : l.Perm m)
    (orderL : SortedBy key l) (orderM : SortedBy key m) {x : κ} (mem : x ∈ l)
    (untied : ∀ y ∈ l, key y = key x → y = x) : l.idxOf x = m.idxOf x := by
  have untiedM : ∀ y ∈ m, key y = key x → y = x := fun y memY => untied y (perm.mem_iff.mpr memY)
  rw [idxOf_eq_countP orderL mem untied, idxOf_eq_countP orderM (perm.mem_iff.mp mem) untiedM]
  exact perm.countP_eq _

/-- **With a tie it does not**: the two elements may as well stand in each other's place. -/
theorem exists_idxOf_ne_of_tied [LinearOrder β] {key : κ → β} {l : List κ} (nodup : l.Nodup)
    (order : SortedBy key l) {x y : κ} (memX : x ∈ l) (memY : y ∈ l) (ne : y ≠ x)
    (tied : key y = key x) : ∃ m : List κ, m.Perm l ∧ SortedBy key m ∧ m.idxOf x ≠ l.idxOf x := by
  refine ⟨l.map (Equiv.swap x y), ?_, ?_, ?_⟩
  · apply (List.perm_ext_iff_of_nodup (nodup.map (Equiv.injective _)) nodup).mpr
    intro z
    rw [List.mem_map_of_involutive (Equiv.swap_apply_self x y)]
    by_cases here : z = x <;> by_cases there : z = y <;>
      simp [Equiv.swap_apply_def, here, there, memX, memY]
  · apply List.pairwise_map.mpr
    simpa only [Equiv.apply_swap_eq_self tied.symm] using order
  · intro same
    have position : l.idxOf x < (l.map (Equiv.swap x y)).length := by
      rw [List.length_map]
      exact List.idxOf_lt_length_of_mem memX
    have moved : (l.map (Equiv.swap x y))[l.idxOf x] = x := by
      simp only [← same, List.getElem_idxOf]
    rw [List.getElem_map, List.getElem_idxOf, Equiv.swap_apply_left] at moved
    exact ne moved

end Positions

/-! ## Keys that are spread out -/

section Spread

variable {key : κ → ℤ} {l A P : List κ}

/-- At most `r + 1` elements have a key up to `r`, for the key `r` of any element. -/
def Spread (key : κ → ℤ) (l : List κ) : Prop :=
  ∀ x ∈ l, (l.countP (fun y => decide (key y ≤ key x)) : ℤ) ≤ key x + 1

theorem Spread.perm {m : List κ} (spread : Spread key l) (perm : m.Perm l) : Spread key m := by
  intro x mem
  rw [perm.countP_eq]
  exact spread x (perm.mem_iff.mp mem)

/-- **Renumbering by position does not raise a spread-out key.** -/
theorem idxOf_le_key [DecidableEq κ] (order : SortedBy key l) (spread : Spread key l) {x : κ}
    (mem : x ∈ l) : (l.idxOf x : ℤ) ≤ key x := by
  have counted := idxOf_lt_countP order mem
  have bounded := spread x mem
  omega

/-- The keys are distinct natural numbers. -/
structure DistinctKeys (key : κ → ℤ) (l : List κ) : Prop where
  inj : ∀ x ∈ l, ∀ y ∈ l, key x = key y → x = y
  nonneg : ∀ x ∈ l, 0 ≤ key x

theorem DistinctKeys.countP_le (distinct : DistinctKeys key l) (nodup : l.Nodup) {r : ℤ}
    (natural : 0 ≤ r) : (l.countP (fun y => decide (key y ≤ r)) : ℤ) ≤ r + 1 := by
  classical
  have maps : ∀ y ∈ (l.filter fun y => decide (key y ≤ r)).toFinset, key y ∈ Finset.Icc 0 r := by
    intro y mem
    simp only [List.mem_toFinset, List.mem_filter, decide_eq_true_iff] at mem
    exact Finset.mem_Icc.mpr ⟨distinct.nonneg y mem.1, mem.2⟩
  have injective : Set.InjOn key (l.filter fun y => decide (key y ≤ r)).toFinset := by
    intro x memX y memY same
    simp only [List.coe_toFinset, List.mem_filter, Set.mem_ofPred_eq] at memX memY
    exact distinct.inj x memX.1 y memY.1 same
  have card := Finset.card_le_card_of_injOn key maps injective
  rw [List.toFinset_card_of_nodup (nodup.filter _), Int.card_Icc,
    ← List.countP_eq_length_filter] at card
  omega

/-- The keys climb by two from `a`. -/
def Ladder (key : κ → ℤ) : ℤ → List κ → Prop
  | _, [] => True
  | a, x :: rest => key x = a ∧ Ladder key (a + 2) rest

theorem Ladder.le_of_mem {a : ℤ} (ladder : Ladder key a P) {x : κ} (mem : x ∈ P) : a ≤ key x := by
  induction P generalizing a with
  | nil => simp at mem
  | cons y rest ih =>
      rcases List.mem_cons.mp mem with rfl | mem
      · exact ladder.1.ge
      · have := ih ladder.2 mem
        omega

/-- The keys of a ladder are its start and the even numbers above it. -/
theorem Ladder.exists_key_iff {a r : ℤ} (ladder : Ladder key a P) :
    (∃ x ∈ P, key x = r) ↔ ∃ i < P.length, r = a + 2 * i := by
  induction P generalizing a with
  | nil => simp
  | cons y rest ih =>
      constructor
      · rintro ⟨x, mem, rfl⟩
        rcases List.mem_cons.mp mem with rfl | mem
        · exact ⟨0, by simp, by simpa using ladder.1⟩
        · obtain ⟨i, bound, value⟩ := (ih ladder.2).mp ⟨x, mem, rfl⟩
          exact ⟨i + 1, by simpa using bound, by push_cast; omega⟩
      · rintro ⟨i, bound, rfl⟩
        cases i with
        | zero => exact ⟨y, List.mem_cons_self, by simpa using ladder.1⟩
        | succ i =>
            rw [List.length_cons] at bound
            obtain ⟨x, mem, value⟩ := (ih ladder.2).mpr ⟨i, by omega, by push_cast; omega⟩
            exact ⟨x, List.mem_cons_of_mem y mem, value⟩

theorem Ladder.countP_le {a : ℤ} (ladder : Ladder key a P) (r : ℤ) :
    2 * (P.countP (fun y => decide (key y ≤ r)) : ℤ) ≤ max 0 (r - a + 2) := by
  induction P generalizing a with
  | nil => simp
  | cons x rest ih =>
      have counted := ih ladder.2
      rw [List.countP_cons]
      have headKey := ladder.1
      by_cases low : key x ≤ r
      · simp only [low, decide_true, if_true]
        omega
      · simp only [low, decide_false, Bool.false_eq_true, if_false]
        omega

/-- Distinct keys followed by a ladder that starts at their number are spread out. -/
theorem spread_append (distinct : DistinctKeys key A) (nodup : A.Nodup)
    (ladder : Ladder key A.length P) : Spread key (A ++ P) := by
  intro x mem
  have natural : 0 ≤ key x := by
    rcases List.mem_append.mp mem with mem | mem
    · exact distinct.nonneg x mem
    · exact (Int.natCast_nonneg _).trans (ladder.le_of_mem mem)
  have countA := distinct.countP_le nodup natural
  have lengthA := List.countP_le_length (p := fun y => decide (key y ≤ key x)) (l := A)
  have countP := ladder.countP_le (key x)
  rw [List.countP_append]
  omega

end Spread

end C4D.Foundations
