import C4D.Foundations.Traces
import C4D.Monitor.MetricsLoop

/-!
# The states a task sets

Which states each task of the monitor may set (`MonitorTask.enters`). The calls of the
engine and the reports set none.
-/

set_option autoImplicit false

namespace C4D

open Foundations Program

/-- The operations a task of the monitor has performed. -/
abbrev MonitorTrace := Trace MonitorOp MonitorOp.Answer

abbrev MonitorEvent := Event MonitorOp MonitorOp.Answer

namespace Monitor

/-- The program only sets the given states. -/
def Enters {α : Type} (states : List State) : MonitorProgram α → Prop :=
  Uses fun q => ∀ newState ∈ q.sets, newState ∈ states

namespace Enters

variable {α β : Type} {states : List State} {p : MonitorProgram α}

theorem done (a : α) : Enters states (.done a) := trivial

theorem perform {q : MonitorOp} {next : q.Answer → MonitorProgram α}
    (now : ∀ newState ∈ q.sets, newState ∈ states) (later : ∀ answer, Enters states (next answer)) :
    Enters states (.perform q next) := ⟨now, later⟩

theorem bind {f : α → MonitorProgram β} (first : Enters [] p) (second : ∀ a, Enters states (f a)) :
    Enters states (p >>= f) :=
  (first.mono fun _ none newState sets => absurd (none newState sets) List.not_mem_nil).bind second

theorem ite {c : Prop} [Decidable c] {other : MonitorProgram α} (yes : Enters states p)
    (no : Enters states other) : Enters states (if c then p else other) := Uses.ite yes no

theorem setState {newState : State} {next : Unit → MonitorProgram α} (mem : newState ∈ states)
    (later : Enters states (next ())) : Enters states (.perform (.setState newState) next) :=
  ⟨fun _ sets => Option.mem_some_iff.mp sets ▸ mem, fun _ => later⟩

end Enters

/-! ## Calls of the engine and the server -/

theorem enters_startAttempts (envVars : Option Env) (left : Nat) (lastErr : Option AgentError) :
    Enters [] (startAttempts envVars left lastErr) := by
  induction left generalizing lastErr with
  | zero => exact .done _
  | succ left ih =>
      rw [startAttempts]
      simp only [callAgentEndpoint, callAgent, op_bind, perform_bind, pure_eq, done_bind]
      refine .perform nofun fun reply => ?_
      split
      · refine .ite (.perform nofun fun stopped => ?_) (ih _)
        split
        · exact .done _
        · exact ih _
      · exact .ite (ih _) (.done _)

theorem enters_startAgent (envVars : Option Env) : Enters [] (startAgent envVars) :=
  .perform nofun fun _ => .ite (.done _) (enters_startAttempts envVars 5 none)

theorem enters_stopAgent : Enters [] stopAgent := by
  rw [stopAgent]
  simp only [getState, callAgentEndpoint, callAgent, op_bind, perform_bind, pure_eq, done_bind]
  refine .perform nofun fun currentState => .ite (.done _) (.perform nofun fun reply => ?_)
  split
  · exact .done _
  · exact .done _

theorem enters_restartAgent (envVars : Option Env) : Enters [] (restartAgent envVars) := by
  rw [restartAgent]
  simp only [callAgentEndpoint, callAgent, op_bind, perform_bind, pure_eq, done_bind]
  refine .perform nofun fun reply => ?_
  split
  · exact .done _
  · exact .done _

theorem enters_sendMetricsToServer : Enters [] sendMetricsToServer := by
  have report : Enters [] (sendReport >>= fun _ => .done ()) :=
    Enters.bind (.perform nofun fun _ => .perform nofun fun _ => .perform nofun fun _ => .done _)
      fun _ => .done _
  refine .perform nofun fun current => .ite (.done _) (.perform nofun
    fun (metrics : Except AgentError AgentMetrics) => ?_)
  rcases metrics with _ | ⟨_ | ⟨cpuUsage, ramUsage⟩⟩
  · exact Enters.done ()
  · exact report
  · exact Enters.perform nofun fun _ => report

theorem enters_registerAttempts (req : RegisterRequest) (left : Nat) (lastErr : Option String) :
    Enters [] (registerAttempts req left lastErr) := by
  induction left generalizing lastErr with
  | zero => exact .done _
  | succ left ih =>
      refine .perform (q := .register req) nofun ?_
      intro answer
      cases answer with
      | none => exact .done _
      | some err => exact .ite (ih (some err)) (.done _)

/-! ## Handlers and goroutines -/

theorem enters_commandStart (envVars : Option Env) :
    Enters [.failed, .running] (commandStart envVars) := by
  refine .perform nofun fun currentState => .ite (.done _) ?_
  apply (enters_startAgent envVars).bind
  intro r
  cases r with
  | error err => exact .setState (by decide) (.done _)
  | ok _ => exact .setState (by decide) (.done _)

theorem enters_commandStop : Enters [.standby] commandStop := by
  apply enters_stopAgent.bind
  intro r
  cases r with
  | error err => exact .done _
  | ok _ => exact .setState (by decide) (.done _)

theorem enters_commandStartAgain (envVars : Option Env) :
    Enters [.restarting, .failed, .running] (commandStartAgain envVars) := by
  apply (enters_startAgent envVars).bind
  intro r
  cases r with
  | error err => exact .setState (by decide) (.done _)
  | ok _ => exact .setState (by decide) (.done _)

theorem enters_commandRestart (envVars : Option Env) :
    Enters [.restarting, .failed, .running] (commandRestart envVars) := by
  refine .perform nofun fun currentState => .ite (.done _) (.setState (by decide) (.ite ?_ ?_))
  · apply enters_stopAgent.bind
    intro r
    cases r with
    | error err => exact .setState (by decide) (.done _)
    | ok _ => exact enters_commandStartAgain envVars
  · exact enters_commandStartAgain envVars

theorem enters_handleRestart (getenv : String → String) (config : Option RestartConfig) :
    Enters [.restarting, .failed, .running] (handleRestart getenv config) := by
  refine .perform nofun fun currentState => .ite (.done _) ?_
  cases config with
  | none => exact .done _
  | some config =>
      refine .setState (by decide) (.perform nofun fun _ => ?_)
      apply (enters_restartAgent _).bind
      intro r
      cases r with
      | error err => exact .setState (by decide) (.done _)
      | ok _ => exact .setState (by decide) (.done _)

theorem enters_handleRemove : Enters [.standby] handleRemove :=
  .perform nofun fun _ => .ite (.done _) <|
    enters_stopAgent.bind fun _ => .setState (by decide) (.done _)

theorem enters_start (getenv : String → String) : Enters [.failed, .standby] (start getenv) := by
  refine .perform nofun fun currentState => .ite (.done _) (.perform nofun fun m => ?_)
  apply (enters_registerAttempts _ _ _).bind
  intro r
  rcases r with err | ⟨_ | lastErr⟩
  · exact .done _
  · exact .setState (by decide) (.done _)
  · exact .setState (by decide) (.done _)

theorem enters_heartbeatTurn : Enters [.failed] heartbeatTurn := by
  refine .perform nofun fun currentState => .ite (.done _) (.perform nofun fun m =>
    .perform nofun fun answer => ?_)
  cases answer with
  | none => exact .done _
  | some err => exact .ite (.setState (by decide) (.done _)) (.done _)

theorem enters_sendMetrics : Enters [.failed] sendMetrics := by
  rw [sendMetrics]
  simp only [getState, setState, callAgentEndpoint, callAgent, op_bind, perform_bind, pure_eq,
    done_bind]
  refine .perform nofun fun current => .ite (.done _) (enters_sendMetricsToServer.bind fun _ =>
    .perform nofun fun reply => ?_)
  split
  · exact .setState (by decide) (.done _)
  · exact .ite (.setState (by decide) (.done _)) (enters_sendMetricsToServer.bind fun _ => .done _)

end Monitor

/-- The states a command may set. -/
def CommandRequest.enters (cmd : CommandRequest) : List Monitor.State :=
  if cmd.command = "start" then [.failed, .running]
  else if cmd.command = "stop" then [.standby]
  else if cmd.command = "restart" then [.restarting, .failed, .running]
  else []

/-- The states a task may set. -/
def MonitorTask.enters : MonitorTask → List Monitor.State
  | .command none => []
  | .command (some cmd) => cmd.enters
  | .restart _ => [.restarting, .failed, .running]
  | .remove => [.standby]
  | .start => [.failed, .standby]
  | .heartbeat => [.failed]
  | .sendMetrics => [.failed]
  | .logCCL _ => []
  | .metrics => []

/-- **A task sets no other states.** -/
theorem MonitorTask.enters_program (getenv : String → String) (task : MonitorTask) :
    Monitor.Enters task.enters (task.program getenv) := by
  cases task with
  | command cmd =>
      cases cmd with
      | none => trivial
      | some cmd =>
          refine Uses.bind ?_ fun _ => Uses.done ()
          rw [Monitor.handleCommand, enters, CommandRequest.enters]
          split
          · exact Monitor.enters_commandStart cmd.envVars
          split
          · exact Monitor.enters_commandStop
          split
          · exact Monitor.enters_commandRestart cmd.envVars
          · trivial
  | restart config => exact Uses.bind (Monitor.enters_handleRestart getenv config) fun _ => Uses.done ()
  | remove => exact Uses.bind Monitor.enters_handleRemove fun _ => Uses.done ()
  | logCCL log =>
      refine Uses.bind ?_ fun _ => Uses.done ()
      cases log with
      | none => trivial
      | some log => exact Uses.ite ⟨nofun, fun _ => trivial⟩ trivial
  | metrics => exact ⟨nofun, fun _ => ⟨nofun, fun _ => ⟨nofun, fun _ => trivial⟩⟩⟩
  | start => exact Uses.bind (Monitor.enters_start getenv) fun _ => Uses.done ()
  | heartbeat => exact Uses.bind Monitor.enters_heartbeatTurn fun _ => Uses.done ()
  | sendMetrics => exact Uses.bind Monitor.enters_sendMetrics fun _ => Uses.done ()

end C4D
