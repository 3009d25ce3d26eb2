import Mathlib.Logic.Basic

/-!
# Deterministic transition systems and their runs

A system is given by its initial states and a partial successor function on
labelled steps. Every choice a step depends on is part of its label, so the
successor is a function; a label without a successor cannot be taken.

A run may be restricted by a condition on the state before a step and its label
(`Run`). Reachability is the unrestricted case. A run may also start at a state
that another run has reached (`startingAt`). An invariant is proved once for
one step and holds along every run (`Run.induct`); a second invariant may use
the first (`Run.inductOver`).
-/

set_option autoImplicit false

namespace C4D.Foundations

/-- A deterministic labelled transition system. -/
structure System (σ α : Type) where
  init : σ → Prop
  next : σ → α → Option σ

namespace System

variable {σ α : Type} (S : System σ α)

/-- The states reached by steps that meet a condition. -/
inductive Run (C : σ → α → Prop) : σ → Prop where
  | start {s : σ} (initial : S.init s) : Run C s
  | step {s s' : σ} (a : α) (run : Run C s) (allowed : C s a) (next : S.next s a = some s') :
      Run C s'

/-- The states reached by any steps. -/
abbrev Reachable : σ → Prop := S.Run fun _ _ => True

variable {S}

namespace Run

variable {C D : σ → α → Prop} {I J : σ → Prop}

/-- A weaker condition allows more runs. -/
theorem mono (weaker : ∀ s a, C s a → D s a) {s : σ} (run : S.Run C s) : S.Run D s := by
  induction run with
  | start initial => exact .start initial
  | step a _ allowed next ih => exact .step a ih (weaker _ _ allowed) next

theorem reachable {s : σ} (run : S.Run C s) : S.Reachable s :=
  run.mono fun _ _ _ => trivial

/-- **The invariant rule.** What holds initially and is kept by every allowed
step holds along every run. -/
theorem induct (initial : ∀ s, S.init s → I s)
    (kept : ∀ s a s', I s → C s a → S.next s a = some s' → I s') {s : σ} (run : S.Run C s) :
    I s := by
  induction run with
  | start start => exact initial _ start
  | step a _ allowed next ih => exact kept _ a _ ih allowed next

/-- The invariant rule over states already known to satisfy another invariant. -/
theorem inductOver (known : ∀ s, S.Reachable s → J s) (initial : ∀ s, S.init s → I s)
    (kept : ∀ s a s', J s → I s → C s a → S.next s a = some s' → I s') {s : σ}
    (run : S.Run C s) : I s := by
  induction run with
  | start start => exact initial _ start
  | step a run allowed next ih => exact kept _ a _ (known _ run.reachable) ih allowed next

end Run

/-- The same steps from a given state on. -/
def startingAt (s : σ) : System σ α := { S with init := fun s' => s' = s }

/-- A run goes on from the state it has reached. -/
theorem Run.append {C : σ → α → Prop} {s s' : σ} (run : S.Run C s)
    (later : (S.startingAt s).Run C s') : S.Run C s' := by
  induction later with
  | start initial =>
      rw [show _ = s from initial]
      exact run
  | step a _ allowed next ih => exact .step a ih allowed next

/-- A step before a run. -/
theorem Run.cons {s s' t : σ} (a : α) (next : S.next s a = some s')
    (later : (S.startingAt s').Reachable t) : (S.startingAt s).Reachable t :=
  Run.append (S := S.startingAt s) (.step a (.start rfl) trivial next) later

/-! ## Runs that can be evaluated -/

/-- The state after a list of steps, if all of them are allowed and can be taken. -/
def runAll (S : System σ α) (allowed : σ → α → Bool) : σ → List α → Option σ
  | s, [] => some s
  | s, a :: rest =>
      if allowed s a then (S.next s a).bind fun s' => S.runAll allowed s' rest else none

variable {C : σ → α → Prop} {allowed : σ → α → Bool}

/-- A list of allowed steps continues a run. -/
theorem Run.runAll {s s' : σ} {steps : List α}
    (sound : ∀ s, ∀ a ∈ steps, allowed s a = true → C s a) (run : S.Run C s)
    (ends : S.runAll allowed s steps = some s') : S.Run C s' := by
  induction steps generalizing s with
  | nil =>
      rw [System.runAll, Option.some.injEq] at ends
      exact ends ▸ run
  | cons a rest ih =>
      rw [System.runAll] at ends
      split at ends
      · next here =>
          obtain ⟨middle, next, ends⟩ := Option.bind_eq_some_iff.mp ends
          exact ih (fun s b mem => sound s b (List.mem_cons_of_mem a mem))
            (.step a run (sound s a List.mem_cons_self here) next) ends
      · cases ends

theorem runAll_startingAt (s t : σ) (steps : List α) :
    (S.startingAt t).runAll allowed s steps = S.runAll allowed s steps := by
  induction steps generalizing s with
  | nil => rfl
  | cons a rest ih =>
      rw [System.runAll, System.runAll]
      split
      · exact congrArg _ (funext ih)
      · rfl

/-- A list of allowed steps is a run from where it starts. -/
theorem Run.ofRunAll {s s' : σ} {steps : List α}
    (sound : ∀ s, ∀ a ∈ steps, allowed s a = true → C s a)
    (ends : S.runAll allowed s steps = some s') : (S.startingAt s).Run C s' :=
  Run.runAll (S := S.startingAt s) sound (.start rfl) ((runAll_startingAt s s steps).trans ends)

/-- Allowed steps from an initial state give a run to a state with a decided property. -/
theorem exists_run (allowed : σ → α → Bool) {s : σ} (steps : List α) (p : σ → Bool)
    (sound : ∀ s, ∀ a ∈ steps, allowed s a = true → C s a) (initial : S.init s)
    (ends : (S.runAll allowed s steps).any p = true) : ∃ s', S.Run C s' ∧ p s' = true := by
  obtain ⟨s', reached, holds⟩ := (Option.any_eq_true _ _).mp ends
  exact ⟨s', Run.runAll sound (.start initial) reached, holds⟩

/-- Steps from an initial state lead to a reachable state with a decided property. -/
theorem exists_reachable {s : σ} (steps : List α) (p : σ → Bool) (initial : S.init s)
    (ends : (S.runAll (fun _ _ => true) s steps).any p = true) :
    ∃ s', S.Reachable s' ∧ p s' = true :=
  exists_run (fun _ _ => true) steps p (fun _ _ _ _ => trivial) initial ends

end System

end C4D.Foundations
