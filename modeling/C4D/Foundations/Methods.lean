import C4D.Foundations.Transition

/-!
# Methods that share one lock

The methods of an object act on its data, most of them while they hold its lock. A method
may raise an error, and then it gives the lock back on its way out (`withLock`). It may also
wait for good. The lock cannot be taken twice, so a section inside another section waits for
a lock that its own caller holds, and keeps it (`withLock_nested`).

Calls of any number of threads take turns, as far as they hold the lock (`calls`). Once a
call waits for good, the lock stays taken (`held_of_run`).
-/

set_option autoImplicit false

namespace C4D.Foundations

/-- Why a call has not returned. -/
inductive Stop where
  /-- It waits for a lock that is never given back. -/
  | blocked
  | raised (error : String)
deriving DecidableEq, Repr

/-- Data with its lock. -/
structure Locked (σ : Type) where
  data : σ
  held : Bool

/-- Nobody holds the lock. -/
def Locked.unlocked {σ : Type} (d : σ) : Locked σ := ⟨d, false⟩

abbrev Method (σ : Type) : Type → Type := EStateM Stop (Locked σ)

namespace Method

variable {σ α β : Type}

/-- The data as it is now. -/
def read : Method σ σ := fun w => .ok w.data w

/-- An action on the data that also gives a value. -/
def act (f : σ → α × σ) : Method σ α := fun w => .ok (f w.data).1 { w with data := (f w.data).2 }

def raise (error : String) : Method σ α := fun w => .error (.raised error) w

/-- The lock is given back when a call returns or raises an error. -/
def release : EStateM.Result Stop (Locked σ) α → EStateM.Result Stop (Locked σ) α
  | .ok a w => .ok a { w with held := false }
  | .error (.raised e) w => .error (.raised e) { w with held := false }
  | .error .blocked w => .error .blocked w

/-- `with lock:` -/
def withLock (body : Method σ α) : Method σ α := fun w =>
  if w.held then .error .blocked w else release (body { w with held := true })

/-- What a call leaves behind, however it ended. -/
def final : EStateM.Result Stop (Locked σ) α → Locked σ
  | .ok _ w => w
  | .error _ w => w

/-- A call whose value is not used. -/
def ignore (op : Method σ α) : Method σ Unit := do
  let _ ← op

@[simp] theorem final_ignore (op : Method σ α) (w : Locked σ) :
    final ((ignore op).run w) = final (op.run w) := by
  rw [ignore, EStateM.run_bind]
  cases op.run w <;> rfl

section Run

variable {d : σ} {held : Bool} {body : Method σ α}

@[simp] theorem read_run : (read : Method σ σ).run ⟨d, held⟩ = .ok d ⟨d, held⟩ := rfl

@[simp] theorem act_run (f : σ → α × σ) :
    (act f).run ⟨d, held⟩ = .ok (f d).1 ⟨(f d).2, held⟩ := rfl

/-- A section entered with its lock free runs with the lock taken. -/
@[simp] theorem withLock_run :
    (withLock body).run ⟨d, false⟩ = release (body.run ⟨d, true⟩) := rfl

/-- A section waits while its lock is taken. -/
@[simp] theorem withLock_run_held :
    (withLock body).run ⟨d, true⟩ = .error .blocked ⟨d, true⟩ := rfl

/-- **A section inside a section** waits for good, and the lock stays taken. -/
theorem withLock_nested {inner : Method σ β} {first : Method σ α} {d' : σ} {a : α}
    (outer : α → Method σ β) (returns : first.run ⟨d, true⟩ = .ok a ⟨d', true⟩)
    (enters : outer a = withLock inner) :
    (withLock (first >>= outer)).run ⟨d, false⟩ = .error .blocked ⟨d', true⟩ := by
  rw [withLock_run, EStateM.run_bind, returns]
  simp only [enters, withLock_run_held, release]

end Run

/-! ## Calls in turn -/

section Calls

variable (init : σ → Prop) (call : α → Method σ Unit)

/-- Any calls, one after the other. -/
def calls : System (Locked σ) α where
  init w := init w.data ∧ w.held = false
  next w a := some (final ((call a).run w))

variable {init call} {w w' : Locked σ}

/-- The lock is free along a run whose calls give it back. -/
theorem free_of_run {C : Locked σ → α → Prop}
    (gives : ∀ d a, C (.unlocked d) a → (final ((call a).run (.unlocked d))).held = false)
    (run : (calls init call).Run C w) : w.held = false := by
  apply run.induct (I := fun w => w.held = false)
  · intro w start
    exact start.2
  · intro w a w' free allowed next
    cases next
    obtain ⟨d, _⟩ := w
    cases free
    exact gives d a allowed

/-- The lock stays taken when no call gives it back to others. -/
theorem held_of_run (keeps : ∀ d a, (final ((call a).run ⟨d, true⟩)).held = true)
    (taken : w.held = true) (run : ((calls init call).startingAt w).Reachable w') :
    w'.held = true := by
  apply run.induct (I := fun w => w.held = true)
  · intro w' same
    rw [show w' = w from same]
    exact taken
  · intro w a w' taken _ next
    cases next
    obtain ⟨d, _⟩ := w
    cases taken
    exact keeps d a

end Calls

end Method

end C4D.Foundations
