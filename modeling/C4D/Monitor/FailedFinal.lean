import C4D.Monitor.Handlers

/-!
# Is `Failed` final in the monitor?

The handlers and the goroutines of a monitor are threads that interleave at every
operation. A handler checks the state, calls the engine and then sets the next
state without another look, so a failure in between is overwritten.

`MayRevive` says of a point of a program that it may still set a state other than
`Failed` even if every later check of the state finds `Failed`. Fresh handlers
and goroutines may not. Along every run in which the state is set to `Failed`
only while no thread may revive it, it stays `Failed` (`failed_of_run`).
-/

set_option autoImplicit false

namespace C4D

open Foundations Program

/-! ## The threads of a monitor -/

/-- The threads of a monitor, any number of them. -/
abbrev MonitorThreads := Threads Nat (MonitorProgram Unit) Monitor

/-- A thread begins a task or takes the next step of its task. -/
abbrev MonitorMove := Nat × Move MonitorTask Outcome

/-- All interleavings of the monitor's threads. -/
def monitorThreads (getenv : String → String) : System MonitorThreads MonitorMove :=
  tasks Monitor.act (MonitorTask.program getenv) Monitor.Fresh

/-! ## Points that may revive a failed monitor -/

/-- The answer while the state is `Failed`. -/
def MonitorOp.WhileFailed : (q : MonitorOp) → q.Answer → Prop
  | .getState, state => state = Monitor.State.failed
  | _, _ => True

/-- The operation sets another state. -/
def MonitorOp.Revives : MonitorOp → Prop
  | .setState newState => newState ≠ .failed
  | _ => False

/-- From here on the program may set another state, even if every check finds `Failed`. -/
def MayRevive {α : Type} (p : MonitorProgram α) : Prop :=
  MayPerform MonitorOp.WhileFailed MonitorOp.Revives p

section MayRevive

variable {α : Type}

theorem not_mayRevive_done (a : α) : ¬ MayRevive (.done a : MonitorProgram α) :=
  not_mayPerform_done a

theorem not_mayRevive_perform {q : MonitorOp} {next : q.Answer → MonitorProgram α}
    (now : ¬ q.Revives) (later : ∀ answer, q.WhileFailed answer → ¬ MayRevive (next answer)) :
    ¬ MayRevive (.perform q next) := by
  intro may
  rcases mayPerform_perform.mp may with revives | ⟨answer, allowed, may⟩
  · exact now revives
  · exact later answer allowed may

/-- A check that finds `Failed` leads on to what the program does then. -/
theorem not_mayRevive_getState {next : Monitor.State → MonitorProgram α}
    (quiet : ¬ MayRevive (next .failed)) : ¬ MayRevive (.perform .getState next) :=
  not_mayRevive_perform id fun answer found => by
    obtain rfl : answer = Monitor.State.failed := found
    exact quiet

/-- A program that may not revive the monitor only goes on to such points. -/
theorem not_mayRevive_next {q : MonitorOp} {next : q.Answer → MonitorProgram α} {answer : q.Answer}
    (quiet : ¬ MayRevive (.perform q next)) (allowed : q.WhileFailed answer) :
    ¬ MayRevive (next answer) := fun later => quiet (.later allowed later)

/-- **A fresh handler or goroutine finds the failed state and ends.** -/
theorem MonitorTask.not_mayRevive (getenv : String → String) (task : MonitorTask) :
    ¬ MayRevive (task.program getenv) := by
  cases task with
  | command cmd =>
      cases cmd with
      | none => exact not_mayRevive_done _
      | some cmd =>
          simp only [MonitorTask.program, Monitor.handleCommand]
          split
          · exact not_mayRevive_getState (not_mayRevive_done _)
          split
          · exact not_mayRevive_getState (not_mayRevive_done _)
          split
          · exact not_mayRevive_getState (not_mayRevive_done _)
          · exact not_mayRevive_done _
  | restart config => exact not_mayRevive_getState (not_mayRevive_done _)
  | remove => exact not_mayRevive_getState (not_mayRevive_done _)
  | logCCL log =>
      cases log with
      | none => exact not_mayRevive_done _
      | some log =>
          simp only [MonitorTask.program, Monitor.handleLogCCL]
          split
          · exact not_mayRevive_perform id fun _ _ => not_mayRevive_done _
          · exact not_mayRevive_done _
  | metrics =>
      exact not_mayRevive_getState (not_mayRevive_perform id fun _ _ =>
        not_mayRevive_perform id fun _ _ => not_mayRevive_done _)
  | start => exact not_mayRevive_getState (not_mayRevive_done _)
  | heartbeat => exact not_mayRevive_getState (not_mayRevive_done _)
  | sendMetrics => exact not_mayRevive_getState (not_mayRevive_done _)

end MayRevive

/-! ## Runs -/

/-- The step sets the state to `Failed`. -/
def Fails (c : MonitorThreads) (a : MonitorMove) : Prop :=
  (∃ choice, a.2 = .go choice) ∧ ∃ next, c.point a.1 = .perform (.setState .failed) next

/-- The step sets the state to `Failed` while some thread may still set another state. -/
def FailsOpen (c : MonitorThreads) (a : MonitorMove) : Prop :=
  Fails c a ∧ ∃ i, MayRevive (c.point i)

/-- Once the state was set to `Failed` it is `Failed`, and no thread may set another one. -/
def Final (c : MonitorThreads) : Prop :=
  0 < c.data.failures → c.data.state = .failed ∧ ∀ i, ¬ MayRevive (c.point i)

section Steps

variable {m : Monitor}

/-- Only `setState` changes the state, and only setting it to `Failed` is counted. -/
theorem Monitor.act_of_not_setState {q : MonitorOp} (other : ∀ newState, q ≠ .setState newState)
    (o : Outcome) :
    (Monitor.act q o m).2.state = m.state ∧ (Monitor.act q o m).2.failures = m.failures := by
  cases q <;> first | exact ⟨rfl, rfl⟩ | exact absurd rfl (other _)

theorem Monitor.whileFailed_act (failed : m.state = .failed) (q : MonitorOp) (o : Outcome) :
    q.WhileFailed (Monitor.act q o m).1 := by
  cases q <;> first | exact failed | trivial

end Steps

namespace Final

variable {c : MonitorThreads} {i : Nat} {getenv : String → String}

/-- A new task finds the failed state. -/
theorem begin (final : Final c) (task : MonitorTask) :
    Final (c.advance i (task.program getenv) c.data) := by
  intro failed
  obtain ⟨state, quiet⟩ := final failed
  refine ⟨state, fun j => ?_⟩
  by_cases same : j = i
  · rw [same, Threads.point_advance_self]
    exact task.not_mayRevive getenv
  · rw [Threads.point_advance_of_ne same]
    exact quiet j

/-- An operation that sets no state leaves a failed monitor failed. -/
theorem perform {q : MonitorOp} {next : q.Answer → MonitorProgram Unit} (final : Final c)
    (here : c.point i = .perform q next) (other : ∀ newState, q ≠ .setState newState)
    (o : Outcome) :
    Final (c.advance i (next (Monitor.act q o c.data).1) (Monitor.act q o c.data).2) := by
  obtain ⟨sameState, sameFailures⟩ := Monitor.act_of_not_setState (m := c.data) other o
  intro failed
  obtain ⟨state, quiet⟩ := final (sameFailures ▸ failed)
  refine ⟨sameState.trans state, fun j => ?_⟩
  by_cases same : j = i
  · rw [same, Threads.point_advance_self]
    exact not_mayRevive_next (here ▸ quiet i) (Monitor.whileFailed_act state q o)
  · rw [Threads.point_advance_of_ne same]
    exact quiet j

/-- The state is set to `Failed` while no thread may revive it, or to another state while it was
never `Failed`. -/
theorem setState {newState : Monitor.State} {next : Unit → MonitorProgram Unit} (final : Final c)
    (here : c.point i = .perform (.setState newState) next)
    (closed : newState = .failed → ∀ j, ¬ MayRevive (c.point j)) :
    Final (c.advance i (next ()) (c.data.enter newState)) := by
  intro failed
  by_cases fails : newState = .failed
  · refine ⟨(Monitor.state_enter newState).trans fails, fun j => ?_⟩
    by_cases same : j = i
    · rw [same, Threads.point_advance_self]
      have quiet : ¬ MayRevive (.perform (.setState newState) next) := here ▸ closed fails i
      exact not_mayRevive_next quiet (show MonitorOp.WhileFailed (.setState newState) () from trivial)
    · rw [Threads.point_advance_of_ne same]
      exact closed fails j
  · have before : 0 < c.data.failures := Monitor.failures_enter fails ▸ failed
    have revives : MayRevive (c.point i) := here ▸ .here fails
    exact absurd revives ((final before).2 i)

/-- **A step that does not fail the monitor in the open keeps it final.** -/
theorem next {c' : MonitorThreads} {a : MonitorMove} (final : Final c) (closed : ¬ FailsOpen c a)
    (next : (monitorThreads getenv).next c a = some c') : Final c' := by
  obtain ⟨i, move⟩ := a
  obtain ⟨p, m, steps, rfl⟩ := advance_of_next_tasks next
  cases move with
  | begin task =>
      cases here : c.point i with
      | done =>
          rw [here] at steps
          cases steps
          exact final.begin task
      | perform q rest =>
          rw [here] at steps
          cases steps
  | go o =>
      cases here : c.point i with
      | done =>
          rw [here] at steps
          cases steps
      | perform q rest =>
          rw [here] at steps
          cases steps
          by_cases sets : ∃ newState, q = .setState newState
          · obtain ⟨newState, rfl⟩ := sets
            refine final.setState here fun fails j may => closed ⟨⟨⟨o, rfl⟩, rest, ?_⟩, j, may⟩
            subst fails
            exact here
          · exact final.perform here (fun newState same => sets ⟨newState, same⟩) o

end Final

/-- **When `Failed` is final.** Along every run in which the state is set to `Failed` only while no
thread may set another one afterwards, it is `Failed` from then on. -/
theorem failed_of_run (getenv : String → String) {c : MonitorThreads}
    (run : (monitorThreads getenv).Run (fun c a => ¬ FailsOpen c a) c) (failed : 0 < c.data.failures) :
    c.data.state = .failed := by
  have final : Final c := run.induct (I := Final) (fun c start failed => ?_)
    fun c a c' final closed next => final.next closed next
  · exact (final failed).1
  · obtain ⟨⟨nodeID, nodeURL, rank, worldSize, fresh⟩, _⟩ := start
    rw [fresh] at failed
    exact absurd failed (Nat.lt_irrefl 0)

/-! ## Two runs -/

/-- The next step of a thread. -/
def go (i : Nat) (o : Outcome) : MonitorMove := (i, .go o)

/-- The server accepts the registration, and the monitor is in `Standby`. -/
def registering : List MonitorMove := (0, .begin .start) :: List.replicate 4 (go 0 {})

/-- A heartbeat finds the server gone and is about to set `Failed`. -/
def heartbeatLost (i : Nat) : List MonitorMove :=
  [(i, .begin .heartbeat), go i {}, go i {}, go i { rpcError := some "connection refused" }]

/-- The next operation sets `Failed`. -/
def failsNext : MonitorProgram Unit → Bool
  | .perform (.setState .failed) _ => true
  | _ => false

/-- The next operation is the last one and sets `Failed`. -/
def failsLast : MonitorProgram Unit → Bool
  | .perform (.setState .failed) next =>
      match next () with
      | .done _ => true
      | .perform _ _ => false
  | _ => false

theorem of_failsLast {p : MonitorProgram Unit} (last : failsLast p = true) :
    ∃ next, p = .perform (.setState .failed) next ∧ next () = .done () := by
  unfold failsLast at last
  split at last
  · next next =>
      split at last
      · next ended => exact ⟨next, rfl, ended⟩
      · cases last
  · cases last

/-- In a run of thread 0 alone the other threads have nothing to do. -/
theorem others_done {c : MonitorThreads}
    (run : (monitorThreads fun _ => "").Run (fun c a => a.1 = 0 ∧ ¬ Fails c a) c) :
    ∀ i, i ≠ 0 → c.point i = .done () := by
  refine run.induct (I := fun c => ∀ i, i ≠ 0 → c.point i = .done ()) (fun c start i _ =>
    (start : Monitor.Fresh c.data ∧ ∀ i, c.point i = .done ()).2 i) fun c a c' others alone next => ?_
  obtain ⟨thread, move⟩ := a
  obtain ⟨p, m, _, rfl⟩ := advance_of_next_tasks next
  obtain rfl : thread = 0 := alone.1
  intro i ne
  rw [Threads.point_advance_of_ne ne]
  exact others i ne

/-- A heartbeat of a monitor that does nothing else loses the server. -/
theorem failed_after_heartbeat :
    ∃ c, (monitorThreads fun _ => "").Run (fun c a => ¬ FailsOpen c a) c ∧ 0 < c.data.failures ∧
      c.data.state = .failed := by
  have quiet (c : MonitorThreads) (a : MonitorMove) (waits : failsNext (c.point a.1) = false) :
      ¬ Fails c a := by
    rintro ⟨_, next, here⟩
    rw [here] at waits
    cases waits
  obtain ⟨c, run, last⟩ := System.exists_run (S := monitorThreads fun _ => "")
    (C := fun c a => a.1 = 0 ∧ ¬ Fails c a) (fun c a => a.1 = 0 ∧ failsNext (c.point a.1) = false)
    (registering ++ heartbeatLost 0) (fun c => failsLast (c.point 0))
    (s := ⟨Monitor.new "a.ns.1" "http://a.ns:1" 0 3, fun _ => .done ()⟩)
    (fun c a _ allowed => (of_decide_eq_true allowed).imp_right (quiet c a))
    ⟨⟨_, _, _, _, rfl⟩, fun _ => rfl⟩ (by decide +kernel)
  obtain ⟨next, here, ended⟩ := of_failsLast last
  have others := others_done run
  have closed : ¬ FailsOpen c (go 0 {}) := by
    rintro ⟨_, i, may⟩
    by_cases same : i = 0
    · rw [same, here] at may
      rcases mayPerform_perform.mp may with revives | ⟨_, _, later⟩
      · exact revives rfl
      · exact not_mayRevive_done () (ended ▸ later)
    · rw [others i same] at may
      exact not_mayRevive_done () may
  have fails : (monitorThreads fun _ => "").next c (go 0 {}) =
      some (c.advance 0 (next ()) (c.data.enter .failed)) := by
    change (taskStep _ _ _ (c.point 0) c.data).map _ = _
    rw [here]
    rfl
  have after := System.Run.step (go 0 {})
    (run.mono fun c a alone (opened : FailsOpen c a) => alone.2 opened.1) closed fails
  exact ⟨_, after, Nat.succ_pos _, failed_of_run _ after (Nat.succ_pos _)⟩

/-- A start is waiting for the engine while a heartbeat loses the server; then it sets `Running`. -/
theorem failed_overwritten :
    ∃ c, (monitorThreads fun _ => "").Reachable c ∧ 0 < c.data.failures ∧ c.data.state ≠ .failed := by
  obtain ⟨c, reachable, holds⟩ := System.exists_reachable (S := monitorThreads fun _ => "")
    (registering ++
      [(0, .begin (.command (some ⟨"start", none⟩))), go 0 {}, go 0 {}] ++ heartbeatLost 1 ++
      [go 1 {}, go 0 { agent := .answered 200 (StatusResponse.toJson ⟨"started", some 7, none⟩) },
        go 0 {}])
    (fun c => 0 < c.data.failures ∧ c.data.state ≠ .failed)
    (s := ⟨Monitor.new "a.ns.1" "http://a.ns:1" 0 3, fun _ => .done ()⟩)
    ⟨⟨_, _, _, _, rfl⟩, fun _ => rfl⟩ (by decide +kernel)
  exact ⟨c, reachable, of_decide_eq_true holds⟩

end C4D
