import C4D.Server.Registry

/-!
# The lifecycle state

`ServerState.Transition` accepts the transitions of a fixed table. A transition
to `Failed` is always accepted and ends the process, with the state lock held.
-/

set_option autoImplicit false

namespace C4D

open Foundations Guarded

/-- The states that may follow a state. `ShuttingDown` is absent from the table of the source. -/
def validTransitions : State → List State
  | .initializing => [.running]
  | .running => [.reconfiguring, .failed]
  | .reconfiguring => [.running, .reconfiguring, .failed]
  | .shuttingDown => []
  | .failed => []

/-- `ServerState.Transition` -/
def transition (target : State) : Op (Except ClusterError Unit) := withLock .stateMu do
  let s ← read
  if target = .failed then
    if s.current ≠ .failed then
      update fun s => { s with current := .failed }
      halt .exited
    else
      return .ok ()
  else if target ∈ validTransitions s.current then
    update fun s => { s with current := target }
    return .ok ()
  else
    return .error (.invalidTransition s.current target)

/-- `ServerState.Current` -/
def current : Op State := do
  let s ← withRLock .stateMu read
  return s.current

/-- A state from which a transition to `Reconfiguring` is accepted. -/
def State.reconfigurable (state : State) : Prop :=
  state = .running ∨ state = .reconfiguring

instance (state : State) : Decidable state.reconfigurable :=
  inferInstanceAs (Decidable (_ ∨ _))

theorem State.reconfigurable_iff {state : State} :
    state.reconfigurable ↔ State.reconfiguring ∈ validTransitions state := by
  cases state <;> decide

variable {s : Server} {locks : Lock → RWMutex} {target : State}

theorem current_run (free : locks .stateMu = .free) :
    current.run ⟨s, locks⟩ = .ok s.current ⟨s, locks⟩ := by
  simp only [current, EStateM.run_bind, readLocked_run free, EStateM.run_pure]

/-- A transition in the table sets the state. -/
theorem transition_run (target : State) (free : locks .stateMu = .free) (ne : target ≠ .failed)
    (valid : target ∈ validTransitions s.current) :
    (transition target).run ⟨s, locks⟩ = .ok (.ok ()) ⟨{ s with current := target }, locks⟩ := by
  apply withLock_run free
  simp only [EStateM.run_bind, read_run, if_neg ne, if_pos valid, update_run, EStateM.run_pure]

/-- A transition that is not in the table changes nothing. -/
theorem transition_run_refused (free : locks .stateMu = .free) (ne : target ≠ .failed)
    (invalid : target ∉ validTransitions s.current) :
    (transition target).run ⟨s, locks⟩ =
      .ok (.error (.invalidTransition s.current target)) ⟨s, locks⟩ := by
  apply withLock_run free
  simp only [EStateM.run_bind, read_run, if_neg ne, if_neg invalid, EStateM.run_pure]

/-- The first transition to `Failed` ends the process. -/
theorem transition_failed_run (free : locks .stateMu = .free) (ne : s.current ≠ .failed) :
    (transition .failed).run ⟨s, locks⟩ =
      .error .exited ⟨{ s with current := .failed },
        Function.update locks .stateMu .written⟩ := by
  apply withLock_run_error free
  simp only [EStateM.run_bind, read_run, if_true, if_pos ne, update_run, halt_run]

end C4D
