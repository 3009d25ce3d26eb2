import C4D.Monitor.Handlers

/-!
# Requests served one at a time

What a handler of the monitor does when nothing else happens in between. Starting
the engine changes nothing in the monitor and succeeds exactly if one of five
start calls is answered "started" in time (`agentStarts`). From this follows when
a start, a restart by command or a restart by configuration is answered 200.

The decisions of the environment are numbered by the operations of a handler, so
a handler that goes on after `k` operations uses them from `k` on.
-/

set_option autoImplicit false

namespace C4D

open Foundations Program

namespace Monitor

variable {m : Monitor} {choices : Nat → Outcome} {envVars : Option Env} {α : Type}

/-! ## Single operations -/

@[simp] theorem run_getState (next : State → MonitorProgram α) :
    (perform MonitorOp.getState next).run Monitor.act choices m =
      (next m.state).run Monitor.act (fun n => choices (n + 1)) m := rfl

@[simp] theorem run_setState (newState : State) (next : Unit → MonitorProgram α) :
    (perform (MonitorOp.setState newState) next).run Monitor.act choices m =
      (next ()).run Monitor.act (fun n => choices (n + 1)) (m.enter newState) := rfl

@[simp] theorem run_setConfig (newRank worldSize : Int) (next : Unit → MonitorProgram α) :
    (perform (MonitorOp.setConfig newRank worldSize) next).run Monitor.act choices m =
      (next ()).run Monitor.act (fun n => choices (n + 1))
        { m with rank := newRank, worldSize } := rfl

@[simp] theorem run_callAgent (request : AgentRequest) (next : AgentReply → MonitorProgram α) :
    (perform (MonitorOp.callAgent request) next).run Monitor.act choices m =
      (next (choices 0).agent).run Monitor.act (fun n => choices (n + 1)) m := rfl

/-! ## Starting and stopping the engine -/

/-- The replies of the engine let the start attempts that are left succeed. -/
def agentStarts : Nat → (Nat → AgentReply) → Bool
  | 0, _ => false
  | left + 1, replies =>
      match (replies 0).result AgentStatus.decode with
      | .ok status =>
          status.currentStatus = "started" || agentStarts left fun n => replies (n + 1)
      | .error err =>
          if err.mentions "A process is already running" then
            ((replies 1).result discard).isOk && agentStarts left fun n => replies (n + 2)
          else agentStarts left fun n => replies (n + 1)

/-- The replies of the engine from an operation on. -/
def repliesFrom (choices : Nat → Outcome) (k : Nat) : Nat → AgentReply :=
  fun n => (choices (n + k)).agent

/-- **The start attempts** leave the monitor alone, and succeed if the replies let them. -/
theorem run_startAttempts (envVars : Option Env) (left : Nat) (lastErr : Option AgentError)
    (choices : Nat → Outcome) (m : Monitor) :
    let ended := (startAttempts envVars left lastErr).run Monitor.act choices m
    ended.state = m ∧ ended.value.isOk = agentStarts left fun n => (choices n).agent := by
  induction left generalizing lastErr choices with
  | zero => exact ⟨rfl, rfl⟩
  | succ left ih =>
      unfold startAttempts agentStarts
      simp only [callAgentEndpoint, callAgent, op_bind, perform_bind, pure_eq, done_bind,
        run_callAgent]
      cases AgentReply.result AgentStatus.decode (choices 0).agent with
      | ok status =>
          by_cases started : status.currentStatus = "started"
          · simp only [started, ne_eq, not_true_eq_false, if_false, decide_true, Bool.true_or]
            exact ⟨rfl, rfl⟩
          · simpa [started] using ih (some .agentFailed) fun n => choices (n + 1)
      | error err =>
          by_cases busy : err.mentions "A process is already running"
          · simp only [busy, if_true, run_callAgent]
            cases AgentReply.result discard (choices (0 + 1)).agent with
            | error e => exact ⟨rfl, rfl⟩
            | ok _ => simpa [Except.isOk, Except.toBool] using ih (some err) fun n => choices (n + 2)
          · simpa [busy] using ih (some err) fun n => choices (n + 1)

/-- The start of the engine from a state that allows it. -/
theorem run_startAgent (envVars : Option Env) (choices : Nat → Outcome)
    (allowed : m.state = .initializing ∨ m.state = .standby ∨ m.state = .restarting) :
    let ended := (startAgent envVars).run Monitor.act choices m
    ended.state = m ∧ ended.value.isOk = agentStarts 5 (repliesFrom choices 1) := by
  have goesOn : ¬ (m.state ≠ .initializing ∧ m.state ≠ .standby ∧ m.state ≠ .restarting) := by
    tauto
  simp only [startAgent, getState, op_bind, run_getState]
  rw [if_neg goesOn]
  exact run_startAttempts envVars 5 none _ m

/-- The stop of the engine from a state that allows it. -/
theorem run_stopAgent (choices : Nat → Outcome)
    (allowed : m.state = .running ∨ m.state = .restarting) :
    let ended := stopAgent.run Monitor.act choices m
    ended.state = m ∧ ended.value.isOk = ((choices 1).agent.result discard).isOk ∧
      ended.rest = fun n => choices (n + 2) := by
  have goesOn : ¬ (m.state ≠ .running ∧ m.state ≠ .restarting) := by tauto
  simp only [stopAgent, getState, op_bind, run_getState]
  rw [if_neg goesOn]
  simp only [callAgentEndpoint, callAgent, op_bind, perform_bind, pure_eq, done_bind,
    run_callAgent]
  cases AgentReply.result discard (choices (0 + 1)).agent with
  | error e => exact ⟨rfl, rfl, rfl⟩
  | ok _ => exact ⟨rfl, rfl, rfl⟩

/-! ## When requests are answered 200 -/

/-- A start is answered 200 in `Standby`, if the engine starts. -/
theorem code_commandStart :
    ((commandStart envVars).run Monitor.act choices m).value.code = 200 ↔
      m.state = .standby ∧ agentStarts 5 (repliesFrom choices 2) := by
  simp only [commandStart, getState, op_bind, run_getState]
  by_cases standby : m.state = .standby
  · rw [if_neg (not_not.mpr standby), run_bind]
    obtain ⟨_, value⟩ := run_startAgent envVars (fun n => choices (n + 1)) (.inr (.inl standby))
    change _ = agentStarts 5 (repliesFrom choices 2) at value
    rw [← value]
    cases ((startAgent envVars).run Monitor.act (fun n => choices (n + 1)) m).value with
    | error err => simp [setState, standby, Except.isOk, Except.toBool]
    | ok _ => simp [setState, standby, Except.isOk, Except.toBool]
  · rw [if_pos standby]
    simp [standby]

/-- The end of a restart is answered 200, if the engine starts. -/
theorem code_commandStartAgain (envVars : Option Env) (choices : Nat → Outcome)
    (restarting : m.state = .restarting) :
    ((commandStartAgain envVars).run Monitor.act choices m).value.code = 200 ↔
      agentStarts 5 (repliesFrom choices 1) := by
  obtain ⟨_, value⟩ := run_startAgent envVars choices (.inr (.inr restarting))
  rw [commandStartAgain, run_bind, ← value]
  cases ((startAgent envVars).run Monitor.act choices m).value with
  | error err => simp [setState, Except.isOk, Except.toBool]
  | ok _ => simp [setState, Except.isOk, Except.toBool]

/-- The replies of the engine let a restart by command succeed. -/
def Restarts (m : Monitor) (choices : Nat → Outcome) : Prop :=
  (m.state = .running ∧ ((choices 3).agent.result discard).isOk ∧
      agentStarts 5 (repliesFrom choices 5)) ∨
    ((m.state = .restarting ∨ m.state = .standby) ∧ agentStarts 5 (repliesFrom choices 3))

instance (m : Monitor) (choices : Nat → Outcome) : Decidable (m.Restarts choices) :=
  inferInstanceAs (Decidable (_ ∨ _))

/-- A restart by command is answered 200, if the engine stops when it has to, and starts. -/
theorem code_commandRestart :
    ((commandRestart envVars).run Monitor.act choices m).value.code = 200 ↔
      m.Restarts choices := by
  have entered : (m.enter .restarting).state = .restarting := state_enter .restarting
  simp only [commandRestart, getState, setState, op_bind, run_getState]
  by_cases allowed : m.state ≠ .running ∧ m.state ≠ .restarting ∧ m.state ≠ .standby
  · rw [if_pos allowed]
    simp [Restarts, allowed]
  rw [if_neg allowed, run_setState]
  by_cases running : m.state = .running
  · obtain ⟨state, value, rest⟩ := run_stopAgent (fun n => choices (n + 2)) (.inr entered)
    rw [if_pos running, run_bind, state, rest]
    simp only [Restarts, running, true_and, reduceCtorEq, or_self, false_and, or_false]
    change _ ↔ ((choices (1 + 2)).agent.result discard).isOk ∧ _
    rw [← value]
    cases (stopAgent.run Monitor.act (fun n => choices (n + 2)) (m.enter .restarting)).value with
    | error err => simp [Except.isOk, Except.toBool]
    | ok _ =>
        apply (code_commandStartAgain envVars _ entered).trans
        simp only [Except.isOk, Except.toBool, true_and]
        rfl
  · rw [if_neg running]
    apply (code_commandStartAgain envVars _ entered).trans
    have idle : m.state = .restarting ∨ m.state = .standby := by tauto
    simp only [Restarts, running, idle, false_and, false_or, true_and]
    rfl

/-- The replies of the engine let a start or restart by command succeed. -/
def Launches (m : Monitor) (choices : Nat → Outcome) (cmd : CommandRequest) : Prop :=
  (cmd.command = "start" ∧ m.state = .standby ∧ agentStarts 5 (repliesFrom choices 2)) ∨
    (cmd.command = "restart" ∧ m.Restarts choices)

instance (m : Monitor) (choices : Nat → Outcome) (cmd : CommandRequest) :
    Decidable (m.Launches choices cmd) := inferInstanceAs (Decidable (_ ∨ _))

/-- **A start or restart by command is answered 200** exactly when it has started the engine. -/
theorem launches_iff {cmd : CommandRequest} (starts : cmd.command = "start" ∨ cmd.command = "restart") :
    ((handleCommand (some cmd)).run Monitor.act choices m).value.code = 200 ↔
      m.Launches choices cmd := by
  rw [handleCommand, Launches]
  rcases starts with start | restart
  · rw [if_pos start, start]
    simpa using code_commandStart
  · rw [restart]
    simpa using code_commandRestart

/-- **A restart by configuration** is answered 200 if the engine restarts. It sets the rank and the
world size in any case. -/
theorem run_handleRestart (getenv : String → String) (config : RestartConfig)
    (choices : Nat → Outcome) (working : m.state ≠ .failed) :
    let ended := (handleRestart getenv (some config)).run Monitor.act choices m
    (ended.value.code = 200 ↔ ((choices 3).agent.result AgentStatus.decode).isOk) ∧
      ended.state.rank = config.newRank ∧ ended.state.worldSize = config.worldSize := by
  simp only [handleRestart, restartAgent, callAgentEndpoint, callAgent, getState, setState,
    setConfig, op_bind, perform_bind, pure_eq, done_bind, run_getState]
  rw [if_neg working]
  simp only [run_setState, run_setConfig, run_callAgent]
  cases AgentReply.result AgentStatus.decode (choices (0 + 1 + 1 + 1)).agent with
  | error err =>
      obtain ⟨rank, worldSize, _⟩ := kept_enter (m := { m.enter .restarting with
        rank := config.newRank, worldSize := config.worldSize }) .failed
      exact ⟨iff_of_false (show ¬ 500 = 200 by decide) Bool.false_ne_true, rank, worldSize⟩
  | ok _ =>
      obtain ⟨rank, worldSize, _⟩ := kept_enter (m := { m.enter .restarting with
        rank := config.newRank, worldSize := config.worldSize }) .running
      exact ⟨iff_of_true rfl rfl, rank, worldSize⟩

end Monitor

end C4D
