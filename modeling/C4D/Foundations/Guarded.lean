import Mathlib.Logic.Function.Basic

/-!
# Programs over data guarded by readers-writer locks

A guarded program runs against shared data and a family of readers-writer
locks. It may stop for good in three ways besides returning a value: it waits
for a lock that nobody is going to release, it ends the process, or it
dereferences an absent value. What it did before stopping stays done, so the
state is part of every outcome. That is what the error-state monad of the
standard library gives, with the reason of the halt as its exception.

The semantics is the one of a program that runs alone: a lock that is held when
it is requested is held by the program itself or by a program that has halted,
so the request never succeeds.

The run lemmas below compute a critical section in one step
(`critical_run`, `readLocked_run`): a section entered with its lock free is the
action of its body on the data and leaves every lock as it was.
-/

set_option autoImplicit false

namespace C4D.Foundations

/-- A readers-writer lock: how many readers hold it, and whether a writer does. -/
structure RWMutex where
  readers : Nat := 0
  writer : Bool := false
deriving DecidableEq, Repr

namespace RWMutex

/-- Nobody holds the lock. -/
def free : RWMutex := {}

/-- One writer holds the lock. -/
def written : RWMutex := { writer := true }

theorem written_ne_free : written ≠ free := by decide

theorem ne_free_of_written {lock : RWMutex} (held : lock = written) : lock ≠ free :=
  held ▸ written_ne_free

end RWMutex

/-- Why a program stopped without returning. -/
inductive Halt (ℓ : Type) where
  /-- It waits for a lock that is never released. -/
  | blocked (l : ℓ)
  /-- It ended the process. -/
  | exited
  /-- It dereferenced an absent value. -/
  | panicked
deriving DecidableEq, Repr

/-- Shared data together with the state of its locks. -/
structure Shared (ℓ σ : Type) where
  data : σ
  locks : ℓ → RWMutex

/-- A program over the shared data `σ` guarded by the locks `ℓ`. -/
abbrev Guarded (ℓ σ : Type) : Type → Type := EStateM (Halt ℓ) (Shared ℓ σ)

namespace Guarded

variable {ℓ σ α β : Type}

/-! ## Access to the data -/

/-- The data as it is now. -/
def read : Guarded ℓ σ σ := fun w => .ok w.data w

/-- One assignment to the data. -/
def update (f : σ → σ) : Guarded ℓ σ Unit := fun w => .ok () { w with data := f w.data }

/-- An action on the data that also gives a value. -/
def act (f : σ → α × σ) : Guarded ℓ σ α :=
  fun w => .ok (f w.data).1 { w with data := (f w.data).2 }

/-- Stop for good. -/
def halt (h : Halt ℓ) : Guarded ℓ σ α := fun w => .error h w

variable {d : σ} {locks : ℓ → RWMutex}

@[simp] theorem read_run : (read : Guarded ℓ σ σ).run ⟨d, locks⟩ = .ok d ⟨d, locks⟩ := rfl

@[simp] theorem update_run (f : σ → σ) :
    (update f : Guarded ℓ σ Unit).run ⟨d, locks⟩ = .ok () ⟨f d, locks⟩ := rfl

@[simp] theorem act_run (f : σ → α × σ) :
    (act f : Guarded ℓ σ α).run ⟨d, locks⟩ = .ok (f d).1 ⟨(f d).2, locks⟩ := rfl

@[simp] theorem halt_run (h : Halt ℓ) :
    (halt h : Guarded ℓ σ α).run ⟨d, locks⟩ = .error h ⟨d, locks⟩ := rfl

/-! ## Locks -/

section Locks

variable [DecidableEq ℓ]

/-- Take the lock for writing. -/
def lock (l : ℓ) : Guarded ℓ σ Unit := fun w =>
  if w.locks l = .free then .ok () { w with locks := Function.update w.locks l .written }
  else .error (.blocked l) w

/-- Release the lock taken for writing. -/
def unlock (l : ℓ) : Guarded ℓ σ Unit := fun w =>
  .ok () { w with locks := Function.update w.locks l .free }

/-- Take the lock for reading. -/
def rlock (l : ℓ) : Guarded ℓ σ Unit := fun w =>
  if (w.locks l).writer then .error (.blocked l) w
  else .ok () { w with
    locks := Function.update w.locks l { w.locks l with readers := (w.locks l).readers + 1 } }

/-- Release the lock taken for reading. -/
def runlock (l : ℓ) : Guarded ℓ σ Unit := fun w =>
  .ok () { w with
    locks := Function.update w.locks l { w.locks l with readers := (w.locks l).readers - 1 } }

/-- Run `body` with the lock held for writing, released at the return. -/
def withLock (l : ℓ) (body : Guarded ℓ σ α) : Guarded ℓ σ α := do
  lock l
  let a ← body
  unlock l
  return a

/-- Run `body` with the lock held for reading, released at the return. -/
def withRLock (l : ℓ) (body : Guarded ℓ σ α) : Guarded ℓ σ α := do
  rlock l
  let a ← body
  runlock l
  return a

/-- A critical section whose body is one action on the data. -/
def critical (l : ℓ) (f : σ → α × σ) : Guarded ℓ σ α := withLock l (act f)

variable {l : ℓ}

theorem lock_run (free : locks l = .free) :
    (lock l : Guarded ℓ σ Unit).run ⟨d, locks⟩ = .ok () ⟨d, Function.update locks l .written⟩ :=
  if_pos free

theorem lock_run_blocked (held : locks l ≠ .free) :
    (lock l : Guarded ℓ σ Unit).run ⟨d, locks⟩ = .error (.blocked l) ⟨d, locks⟩ :=
  if_neg held

@[simp] theorem unlock_run :
    (unlock l : Guarded ℓ σ Unit).run ⟨d, locks⟩ = .ok () ⟨d, Function.update locks l .free⟩ :=
  rfl

theorem rlock_run (free : locks l = .free) :
    (rlock l : Guarded ℓ σ Unit).run ⟨d, locks⟩ =
      .ok () ⟨d, Function.update locks l { readers := 1 }⟩ := by
  simp only [rlock, EStateM.run, free]
  rfl

theorem rlock_run_blocked (held : locks l = .written) :
    (rlock l : Guarded ℓ σ Unit).run ⟨d, locks⟩ = .error (.blocked l) ⟨d, locks⟩ := by
  simp only [rlock, EStateM.run, held]
  rfl

theorem runlock_run (reading : locks l = { readers := 1 }) :
    (runlock l : Guarded ℓ σ Unit).run ⟨d, locks⟩ =
      .ok () ⟨d, Function.update locks l .free⟩ := by
  simp only [runlock, EStateM.run, reading]
  rfl

/-- Taking a free lock and releasing it leaves the locks as they were. -/
theorem release_eq (free : locks l = .free) (held : RWMutex) :
    Function.update (Function.update locks l held) l .free = locks := by
  rw [Function.update_idem, ← free, Function.update_eq_self]

/-- A critical section entered with its lock free acts on the data alone. -/
theorem critical_run (free : locks l = .free) (f : σ → α × σ) :
    (critical l f).run ⟨d, locks⟩ = .ok (f d).1 ⟨(f d).2, locks⟩ := by
  simp only [critical, withLock, EStateM.run_bind, EStateM.run_pure, lock_run free, act_run,
    unlock_run, release_eq free]

theorem critical_run_blocked (held : locks l ≠ .free) (f : σ → α × σ) :
    (critical l f).run ⟨d, locks⟩ = .error (.blocked l) ⟨d, locks⟩ := by
  simp only [critical, withLock, EStateM.run_bind, lock_run_blocked held]

variable {body : Guarded ℓ σ α}

/-- A body that returns with the locks as it found them may be run under a free lock. -/
theorem withRLock_run {a : α} {d' : σ} (free : locks l = .free)
    (returns : body.run ⟨d, Function.update locks l { readers := 1 }⟩ =
      .ok a ⟨d', Function.update locks l { readers := 1 }⟩) :
    (withRLock l body).run ⟨d, locks⟩ = .ok a ⟨d', locks⟩ := by
  have reading : Function.update locks l { readers := 1 } l = { readers := 1 } :=
    Function.update_self ..
  simp only [withRLock, EStateM.run_bind, EStateM.run_pure, rlock_run free, returns,
    runlock_run reading, release_eq free]

theorem withRLock_run_blocked (held : locks l = .written) (body : Guarded ℓ σ α) :
    (withRLock l body).run ⟨d, locks⟩ = .error (.blocked l) ⟨d, locks⟩ := by
  simp only [withRLock, EStateM.run_bind, rlock_run_blocked held]

/-- Reading under a free lock gives the data and changes nothing. -/
theorem readLocked_run (free : locks l = .free) :
    (withRLock l read : Guarded ℓ σ σ).run ⟨d, locks⟩ = .ok d ⟨d, locks⟩ :=
  withRLock_run free rfl

theorem readLocked_run_blocked (held : locks l = .written) :
    (withRLock l read : Guarded ℓ σ σ).run ⟨d, locks⟩ = .error (.blocked l) ⟨d, locks⟩ :=
  withRLock_run_blocked held read

theorem withLock_run {a : α} {d' : σ} (free : locks l = .free)
    (returns : body.run ⟨d, Function.update locks l .written⟩ =
      .ok a ⟨d', Function.update locks l .written⟩) :
    (withLock l body).run ⟨d, locks⟩ = .ok a ⟨d', locks⟩ := by
  simp only [withLock, EStateM.run_bind, EStateM.run_pure, lock_run free, returns, unlock_run,
    release_eq free]

/-- A body that halts halts the section around it. -/
theorem withLock_run_error {h : Halt ℓ} {w : Shared ℓ σ} (free : locks l = .free)
    (halts : body.run ⟨d, Function.update locks l .written⟩ = .error h w) :
    (withLock l body).run ⟨d, locks⟩ = .error h w := by
  simp only [withLock, EStateM.run_bind, lock_run free, halts]

theorem withLock_run_blocked (held : locks l ≠ .free) (body : Guarded ℓ σ α) :
    (withLock l body).run ⟨d, locks⟩ = .error (.blocked l) ⟨d, locks⟩ := by
  simp only [withLock, EStateM.run_bind, lock_run_blocked held]

end Locks

end Guarded

end C4D.Foundations
