import C4D.Foundations.Table
import C4D.Foundations.Transition
import Mathlib.Data.Fintype.Basic
import Mathlib.Logic.Relation

/-!
# Threads over shared data

A family of threads, each at a program point, acts on shared data in atomic
steps. A step of one thread depends on its own point and on the data; it moves
that point and changes the data. What the environment decides in a step is part
of its label. Any thread that can take a step may be the next to take it, so the
runs of the system are the interleavings of the threads.

The number of threads at a point with a property changes by what happens to the
thread that moved (`card_threadsAt_advance`).

The runs of one thread while the others stand still are `Alone`. What every step
leaves the same is the same at both ends of such a run (`Alone.same`).
-/

set_option autoImplicit false

namespace C4D.Foundations

variable {ι π σ ε : Type}

/-- Shared data and the program point of every thread. -/
structure Threads (ι π σ : Type) where
  data : σ
  point : ι → π

namespace Threads

section Advance

variable [DecidableEq ι] (c : Threads ι π σ) (i : ι) (p : π) (s : σ)

/-- One thread has moved to a point and left some data behind. -/
def advance : Threads ι π σ where
  data := s
  point := Function.update c.point i p

@[simp] theorem data_advance : (c.advance i p s).data = s := rfl

@[simp] theorem point_advance_self : (c.advance i p s).point i = p := Function.update_self ..

variable {c i p s}

theorem point_advance_of_ne {j : ι} (ne : j ≠ i) : (c.advance i p s).point j = c.point j :=
  Function.update_of_ne ne ..

end Advance

/-! ## Interleaving -/

section Interleaving

variable [DecidableEq ι]

/-- The interleavings of threads that all start at one point. -/
def interleaving (init : σ → Prop) (start : π) (step : ι → ε → π → σ → Option (π × σ)) :
    System (Threads ι π σ) (ι × ε) where
  init c := init c.data ∧ ∀ i, c.point i = start
  next c a := (step a.1 a.2 (c.point a.1) c.data).map fun r => c.advance a.1 r.1 r.2

/-- A step of the system is a step of one thread. -/
theorem advance_of_next {init : σ → Prop} {start : π} {step : ι → ε → π → σ → Option (π × σ)}
    {c c' : Threads ι π σ} {i : ι} {e : ε}
    (next : (interleaving init start step).next c (i, e) = some c') :
    ∃ p s, step i e (c.point i) c.data = some (p, s) ∧ c' = c.advance i p s := by
  obtain ⟨⟨p, s⟩, steps, same⟩ := Option.map_eq_some_iff.mp next
  exact ⟨p, s, steps, same.symm⟩

end Interleaving

/-! ## Counting threads -/

section Count

variable [Fintype ι] (P : π → Prop) [DecidablePred P] {c : Threads ι π σ}

/-- The threads at a point with a property. -/
def threadsAt (c : Threads ι π σ) : Finset ι := Finset.univ.filter fun i => P (c.point i)

variable {P}

@[simp] theorem mem_threadsAt {i : ι} : i ∈ c.threadsAt P ↔ P (c.point i) := by
  rw [threadsAt, Finset.mem_filter, and_iff_right (Finset.mem_univ i)]

/-- One step changes the number of threads at a point by what happens to the thread that moved. -/
theorem card_threadsAt_advance [DecidableEq ι] (i : ι) (p : π) (s : σ) :
    (((c.advance i p s).threadsAt P).card : Int) =
      (c.threadsAt P).card + (if P p then 1 else 0) - (if P (c.point i) then 1 else 0) := by
  have agree : ∀ j, j ≠ i → (j ∈ (c.advance i p s).threadsAt P ↔ j ∈ c.threadsAt P) := by
    intro j ne
    rw [mem_threadsAt, mem_threadsAt, point_advance_of_ne ne]
  have card := card_of_agree_off agree
  simpa only [mem_threadsAt, point_advance_self] using card

end Count

/-! ## One thread alone -/

/-- The runs of one thread while the others stand still. -/
abbrev Alone (step : π → σ → Option (π × σ)) : π × σ → π × σ → Prop :=
  Relation.ReflTransGen fun a b => step a.1 a.2 = some b

/-- What every step leaves the same is the same at both ends of a run. -/
theorem Alone.same {β : Type} {step : π → σ → Option (π × σ)} {f : π → σ → β}
    (stays : ∀ p s p' s', step p s = some (p', s') → f p' s' = f p s) {a b : π × σ}
    (run : Alone step a b) : f b.1 b.2 = f a.1 a.2 := by
  induction run with
  | refl => rfl
  | tail _ last ih => exact (stays _ _ _ _ last).trans ih

end Threads

end C4D.Foundations
