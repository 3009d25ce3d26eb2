import C4D.Foundations.Guarded

/-!
# Properties of the data that a program keeps

A program may stop in the middle: it waits for a lock for good, ends the process
or dereferences an absent value. `Preserves` says that a property of the data
survives every ending. There is one rule for each construct, so the invariant of
a program is put together from its assignments; everything else keeps any
property of the data.
-/

set_option autoImplicit false

namespace C4D.Foundations.Guarded

variable {ℓ σ α β : Type}

/-- The world an outcome leaves behind, however the program ended. -/
def final (result : EStateM.Result (Halt ℓ) (Shared ℓ σ) α) : Shared ℓ σ :=
  match result with
  | .ok _ w => w
  | .error _ w => w

/-- However the program ends, it keeps a property of the data. -/
def Preserves (I : σ → Prop) (op : Guarded ℓ σ α) : Prop :=
  ∀ w, I w.data → I (final (op.run w)).data

namespace Preserves

variable {I J : σ → Prop} {op : Guarded ℓ σ α}

theorem pure (a : α) : Preserves I (Pure.pure a : Guarded ℓ σ α) := fun _ holds => holds

theorem read : Preserves I (Guarded.read : Guarded ℓ σ σ) := fun _ holds => holds

theorem halt (h : Halt ℓ) : Preserves I (Guarded.halt h : Guarded ℓ σ α) := fun _ holds => holds

theorem update {f : σ → σ} (kept : ∀ s, I s → I (f s)) :
    Preserves I (Guarded.update f : Guarded ℓ σ Unit) := fun w holds => kept w.data holds

theorem act {f : σ → α × σ} (kept : ∀ s, I s → I (f s).2) :
    Preserves I (Guarded.act f : Guarded ℓ σ α) := fun w holds => kept w.data holds

/-- A program followed by another one. -/
theorem bind {rest : α → Guarded ℓ σ β} (first : Preserves I op)
    (second : ∀ a, Preserves I (rest a)) : Preserves I (op >>= rest) := by
  intro w holds
  have after := first w holds
  rw [EStateM.run_bind]
  cases outcome : op.run w with
  | ok a w' =>
      rw [outcome] at after
      exact second a w' after
  | error h w' =>
      rw [outcome] at after
      exact after

theorem ite {c : Prop} [Decidable c] {other : Guarded ℓ σ α} (yes : c → Preserves I op)
    (no : ¬ c → Preserves I other) : Preserves I (if c then op else other) := by
  split
  · next holds => exact yes holds
  · next fails => exact no fails

section Locks

variable [DecidableEq ℓ] {l : ℓ}

theorem lock : Preserves I (Guarded.lock l : Guarded ℓ σ Unit) := by
  intro w holds
  simp only [Guarded.lock, EStateM.run]
  split <;> exact holds

theorem unlock : Preserves I (Guarded.unlock l : Guarded ℓ σ Unit) := fun _ holds => holds

theorem rlock : Preserves I (Guarded.rlock l : Guarded ℓ σ Unit) := by
  intro w holds
  simp only [Guarded.rlock, EStateM.run]
  split <;> exact holds

theorem runlock : Preserves I (Guarded.runlock l : Guarded ℓ σ Unit) := fun _ holds => holds

theorem withLock (body : Preserves I op) : Preserves I (Guarded.withLock l op) :=
  lock.bind fun _ => body.bind fun _ => unlock.bind fun _ => pure _

theorem withRLock (body : Preserves I op) : Preserves I (Guarded.withRLock l op) :=
  rlock.bind fun _ => body.bind fun _ => runlock.bind fun _ => pure _

theorem critical {f : σ → α × σ} (kept : ∀ s, I s → I (f s).2) :
    Preserves I (Guarded.critical l f) :=
  withLock (act kept)

end Locks

end Preserves

end C4D.Foundations.Guarded
