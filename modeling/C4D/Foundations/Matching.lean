import Mathlib.Logic.Function.Basic

/-!
# A one-to-one relation in two tables

A one-to-one relation between two types can be kept as two partial functions, one for each
direction. They describe one relation if each has an entry exactly where the other has the
reverse entry (`Matches`). Both have to change together: a pair of free elements can be
linked, and a pair can be cut, while dropping one of the two entries of a pair, or linking
one element of a pair again, leaves the tables in disagreement.
-/

set_option autoImplicit false

namespace C4D.Foundations

variable {α β : Type}

/-- Two partial functions that describe one relation. -/
def Matches (f : α → Option β) (g : β → Option α) : Prop := ∀ a b, f a = some b ↔ g b = some a

namespace Matches

variable {f : α → Option β} {g : β → Option α} {a : α} {b : β}

theorem empty : Matches (fun _ : α => (none : Option β)) (fun _ => none) := by
  intro a b
  exact iff_of_false nofun nofun

/-- A free element is in no pair. -/
theorem ne_some_of_free (matching : Matches f g) (free : f a = none) (b : β) : g b ≠ some a := by
  intro pair
  rw [(matching a b).mpr pair] at free
  cases free

/-- Dropping one entry of a pair leaves the other one behind. -/
theorem not_drop [DecidableEq β] (matching : Matches f g) (pair : g b = some a) :
    ¬ Matches f (Function.update g b none) := by
  intro dropped
  have entry := (dropped a b).mp ((matching a b).mpr pair)
  rw [Function.update_self] at entry
  cases entry

section Change

variable [DecidableEq α] [DecidableEq β]

/-- A pair of free elements is linked. -/
theorem link (matching : Matches f g) (left : f a = none) (right : g b = none) :
    Matches (Function.update f a (some b)) (Function.update g b (some a)) := by
  intro x y
  by_cases hereX : x = a
  · subst hereX
    rw [Function.update_self]
    by_cases hereY : y = b
    · subst hereY
      simp
    · rw [Function.update_of_ne hereY]
      refine iff_of_false ?_ (matching.ne_some_of_free left y)
      intro same
      exact hereY (Option.some.inj same).symm
  · rw [Function.update_of_ne hereX]
    by_cases hereY : y = b
    · subst hereY
      rw [Function.update_self]
      refine iff_of_false ?_ fun same => hereX (Option.some.inj same).symm
      intro pair
      rw [(matching x y).mp pair] at right
      cases right
    · rw [Function.update_of_ne hereY]
      exact matching x y

/-- A pair is cut. -/
theorem cut (matching : Matches f g) (pair : g b = some a) :
    Matches (Function.update f a none) (Function.update g b none) := by
  intro x y
  by_cases hereX : x = a
  · subst hereX
    rw [Function.update_self]
    refine iff_of_false nofun ?_
    by_cases hereY : y = b
    · subst hereY
      rw [Function.update_self]
      exact nofun
    · rw [Function.update_of_ne hereY]
      intro other
      exact hereY (Option.some.inj
        (((matching x y).mpr other).symm.trans ((matching x b).mpr pair)))
  · rw [Function.update_of_ne hereX]
    by_cases hereY : y = b
    · subst hereY
      rw [Function.update_self]
      refine iff_of_false ?_ nofun
      intro other
      exact hereX (Option.some.inj (((matching x y).mp other).symm.trans pair))
    · rw [Function.update_of_ne hereY]
      exact matching x y

/-- Linking one element of a pair again leaves an entry of the pair behind. -/
theorem not_relink (matching : Matches f g) {c : α} (pair : g b = some c) (left : f a = none) :
    ¬ Matches (Function.update f a (some b)) (Function.update g b (some a)) := by
  intro linked
  have other : c ≠ a := by
    rintro rfl
    exact matching.ne_some_of_free left b pair
  have entry := (matching c b).mpr pair
  rw [← Function.update_of_ne (f := f) other (some b)] at entry
  have back := (linked c b).mp entry
  rw [Function.update_self] at back
  exact other (Option.some.inj back).symm

end Change

end Matches

end C4D.Foundations
