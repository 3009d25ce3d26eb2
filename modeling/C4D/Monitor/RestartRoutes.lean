import C4D.Monitor.Detection

/-!
# The two restart routes

A restart by command stops the engine and starts it again with two requests, and
takes a refused stop for a failure. A restart by configuration uses the engine's own
restart, which does not look at the result of its stop.

So both give the same result exactly while the engine has a process at hand
(`routesAgree_iff`): an engine that has none, since nothing was started or a status
request has seen the end of the process, refuses the stop.
-/

set_option autoImplicit false

namespace C4D

open Foundations Program

/-! ## A monitor with its engine -/

/-- What the environment decides in an operation of a monitor that has its engine beside it. -/
structure RouteChoice where
  start : StartOutcome
  stop : StopOutcome
  status : StatusOutcome
  outcome : Outcome := {}

/-- The answer of the engine to a request of the monitor. The sleep of a restart passes without
another request. -/
def Host.answer (os : RouteChoice) (h : Host) : AgentRequest → AgentReply × Host
  | .start envVars =>
      let r := h.startScript ⟨envVars, none⟩ os.start
      (r.1.reply, r.2)
  | .stop =>
      let r := h.stopScript os.stop
      (r.1.reply, r.2)
  | .restart envVars =>
      let r := (h.restartScript ⟨envVars, none⟩ os.stop).resumeScript ⟨envVars, none⟩ os.start
      (r.1.reply, r.2)
  | .status =>
      let r := h.getStatus os.status
      (r.1.reply, r.2)

/-- What the operations do when the engine answers. -/
def Monitor.actBeside : Interface MonitorOp MonitorOp.Answer (Monitor × Host) RouteChoice
  | .callAgent request, os, (m, h) =>
      let r := h.answer os request
      (r.1, m, r.2)
  | q, os, (m, h) =>
      let r := Monitor.act q os.outcome m
      (r.1, r.2, h)

/-- The engine can kill, check and spawn, and the new process stays alive. -/
structure RouteChoice.Fine (os : RouteChoice) : Prop where
  killed : os.stop.exits ≠ none
  waited : os.stop.waitError = none
  checked : os.start.checkError = none
  spawned : os.start.spawned.isOk
  rechecked : os.start.recheckError = none
  stays : os.start.exits = none

/-! ## What the engine does -/

namespace Host

variable {h : Host} {os : RouteChoice} {p : ScriptParams}

/-- The engine has spawned a process that is alive and at hand, and has answered so. -/
structure Launched (before : Host) (envVars : Option Env) (reply : AgentReply) (h : Host) :
    Prop where
  started : ∃ status, reply.result AgentStatus.decode = .ok status ∧ status.currentStatus = "started"
  tracked : ∃ child ∈ h.app.scriptProcess, before.processes.length ≤ child.process ∧
    ∃ p, h.processes[child.process]? = some p ∧ p.envVars = envVars ∧ p.status = none

/-- An answer with a record that shows no signal is decoded. -/
theorem result_started (r : StatusResponse) (quiet : ¬ r.Signaled) :
    (HttpResponse.ok r).reply.result AgentStatus.decode = .ok r.read := by
  rw [result_ok, if_neg quiet]

/-- A start without a process at hand. -/
theorem launched_startScript (fine : os.Fine) (empty : h.app.scriptProcess = none) {before : Host}
    (later : before.processes.length ≤ h.processes.length) :
    Launched before p.envVars (h.startScript p os.start).1.reply (h.startScript p os.start).2 := by
  obtain ⟨_, _, _, spawned, rechecked, stays⟩ := fine
  unfold Host.startScript
  rw [empty]
  simp only [Host.spawnScript]
  cases starts : os.start.spawned with
  | error e =>
      rw [starts] at spawned
      cases spawned
  | ok pid =>
      simp only [Host.tryWait, rechecked, Host.status_spawned, stays]
      refine ⟨⟨_, result_started _ ?_, rfl⟩, ⟨_, rfl, later, ?_⟩⟩
      · rintro ⟨e, mem, signal⟩
        cases mem
        exact signal rfl
      · exact ⟨_, List.getElem?_concat_length, rfl, rfl⟩

/-- A stop of the process at hand is answered 200. -/
theorem stopped_stopScript (fine : os.Fine) (coherent : Coherent h) {child : Child}
    (held : h.app.scriptProcess = some child) : ∃ r, (h.stopScript os.stop).1 = .ok r := by
  obtain ⟨_, process, startTime, found, id, _⟩ := coherent child held
  obtain ⟨status, ends⟩ := Option.ne_none_iff_exists'.mp fine.killed
  have after := Host.getElem?_finish (h := h.setProcess none) child.process child.process status
  have same : (h.setProcess none).processes = h.processes := rfl
  rw [same, found, Option.map_some, if_pos rfl] at after
  unfold Host.stopScript
  rw [held]
  simp only [id, Host.tryWait, fine.waited, Host.killProcessTree, ends, Host.status, after,
    Option.bind_some]
  cases process.status with
  | none => exact ⟨_, rfl⟩
  | some _ => exact ⟨_, rfl⟩

/-- The engine's own restart. -/
theorem launched_restart (fine : os.Fine) (env : Env) :
    Launched h (some env) (h.answer os (.restart (some env))).1
      (h.answer os (.restart (some env))).2 :=
  launched_startScript (p := ⟨some env, none⟩) fine
    (h := { h.restartScript ⟨some env, none⟩ os.stop with
      restarting := (h.restartScript ⟨some env, none⟩ os.stop).restarting.erase ⟨some env, none⟩ })
    (Coherent.scriptProcess_stopScript h os.stop) (length_stopScript os.stop).ge

end Host

/-! ## The two routes -/

/-- The environment P a rank, a world size and a master address. -/
structure Env.Assigns (rank worldSize : Int) (masterAddr masterPort : String) (env : Env) :
    Prop where
  rank : env.lookup "RANK" = some (toString rank)
  worldSize : env.lookup "WORLD_SIZE" = some (toString worldSize)
  masterAddr : env.lookup "MASTER_ADDR" = some masterAddr
  masterPort : env.lookup "MASTER_PORT" = some masterPort

/-- A restart was answered 200, and has left the monitor in `Running` and the engine with a new
process at hand that is alive and has some environment. -/
structure Relaunched (before : Host) (P : Env → Prop)
    (ended : Ended MonitorReply (Monitor × Host) RouteChoice) : Prop where
  answered : ended.value.code = 200
  running : ended.state.1.state = .running
  tracked : ∃ child ∈ ended.state.2.app.scriptProcess, before.processes.length ≤ child.process ∧
    ∃ p, ended.state.2.processes[child.process]? = some p ∧ (∃ env ∈ p.envVars, P env) ∧
      p.status = none

namespace Monitor

variable {α : Type} {m : Monitor} {h : Host} {c : Nat → RouteChoice} {env : Env}
  {P : Env → Prop}

/-! A monitor with its engine beside it performs its own operations as it does alone. -/

section Operations

theorem run_getState_beside (next : State → MonitorProgram α) :
    (perform MonitorOp.getState next).run Monitor.actBeside c (m, h) =
      (next m.state).run Monitor.actBeside (fun n => c (n + 1)) (m, h) := rfl

theorem run_setState_beside (newState : State) (next : Unit → MonitorProgram α) :
    (perform (MonitorOp.setState newState) next).run Monitor.actBeside c (m, h) =
      (next ()).run Monitor.actBeside (fun n => c (n + 1)) (m.enter newState, h) := rfl

theorem run_setConfig_beside (newRank worldSize : Int) (next : Unit → MonitorProgram α) :
    (perform (MonitorOp.setConfig newRank worldSize) next).run Monitor.actBeside c (m, h) =
      (next ()).run Monitor.actBeside (fun n => c (n + 1))
        ({ m with rank := newRank, worldSize }, h) := rfl

theorem run_callAgent_beside (request : AgentRequest) (next : AgentReply → MonitorProgram α) :
    (perform (MonitorOp.callAgent request) next).run Monitor.actBeside c (m, h) =
      (next (h.answer (c 0) request).1).run Monitor.actBeside (fun n => c (n + 1))
        (m, (h.answer (c 0) request).2) := rfl

end Operations

theorem relaunched_of_launched {before : Host} {reply : AgentReply} {content : MonitorReply.Content}
    {rest : Nat → RouteChoice} (launched : Host.Launched before (some env) reply h)
    (carried : P env) :
    Relaunched before P ⟨⟨200, content⟩, (m.enter .running, h), rest⟩ := by
  obtain ⟨child, held, later, p, found, envVars, alive⟩ := launched.tracked
  exact ⟨rfl, state_enter .running, child, held, later, p, found, ⟨env, envVars, carried⟩, alive⟩

/-- **Every restart by configuration gives a new process.** -/
theorem relaunched_handleRestart (getenv : String → String) (config : RestartConfig)
    (fine : ∀ n, (c n).Fine) (running : m.state = .running)
    (carried : P (restartEnv getenv config)) :
    Relaunched h P
      ((handleRestart getenv (some config)).run Monitor.actBeside c (m, h)) := by
  have launched := Host.launched_restart (h := h) (fine 3) (restartEnv getenv config)
  obtain ⟨status, decoded, _⟩ := launched.started
  have working : ¬ m.state = .failed := by rw [running]; exact State.noConfusion
  simp only [handleRestart, restartAgent, callAgentEndpoint, callAgent, getState, setState,
    setConfig, op_bind, perform_bind, pure_eq, done_bind, run_getState_beside]
  rw [if_neg working]
  simp only [run_setState_beside, run_setConfig_beside, run_callAgent_beside, Nat.zero_add]
  change Host.Launched h _ _ (h.answer (c 3) _).2 at launched
  rw [decoded]
  exact relaunched_of_launched launched carried

/-- The engine starts without a process at hand. -/
theorem run_startAgent_beside (restarting : m.state = .restarting)
    {status : AgentStatus}
    (decoded : (h.answer (c 1) (.start (some env))).1.result AgentStatus.decode = .ok status)
    (started : status.currentStatus = "started") :
    (startAgent (some env)).run Monitor.actBeside c (m, h) =
      ⟨.ok (), (m, (h.answer (c 1) (.start (some env))).2), fun n => c (n + 2)⟩ := by
  have goesOn : ¬ (m.state ≠ .initializing ∧ m.state ≠ .standby ∧ m.state ≠ .restarting) := by
    tauto
  simp only [startAgent, getState, op_bind, run_getState_beside]
  rw [if_neg goesOn, startAttempts]
  simp only [callAgentEndpoint, callAgent, op_bind, perform_bind, pure_eq, done_bind,
    run_callAgent_beside, Nat.zero_add]
  rw [decoded]
  simp only [started, ne_eq, not_true_eq_false, if_false]
  rfl

/-- The engine is asked to stop. -/
theorem run_stopAgent_beside (restarting : m.state = .restarting) :
    stopAgent.run Monitor.actBeside c (m, h) =
      ⟨match (h.answer (c 1) .stop).1.result discard with
        | .error err => .error (.notStopped err)
        | .ok _ => .ok (),
        (m, (h.answer (c 1) .stop).2), fun n => c (n + 2)⟩ := by
  have goesOn : ¬ (m.state ≠ .running ∧ m.state ≠ .restarting) := by tauto
  simp only [stopAgent, getState, op_bind, run_getState_beside]
  rw [if_neg goesOn]
  simp only [callAgentEndpoint, callAgent, op_bind, perform_bind, pure_eq, done_bind,
    run_callAgent_beside]
  cases AgentReply.result discard (h.answer (c 1) .stop).1 with
  | error err => rfl
  | ok _ => rfl

/-- A restart by command of a running monitor begins with a stop of the engine. -/
theorem run_commandRestart_beside (running : m.state = .running) :
    (commandRestart (some env)).run Monitor.actBeside c (m, h) =
      match (h.answer (c 3) .stop).1.result discard with
      | .error err => ⟨⟨500, .agentError "Failed to stop agent: " (.notStopped err)⟩,
          ((m.enter .restarting).enter .failed, (h.answer (c 3) .stop).2),
          fun n => c (n + 5)⟩
      | .ok _ => (commandStartAgain (some env)).run Monitor.actBeside (fun n => c (n + 4))
          (m.enter .restarting, (h.answer (c 3) .stop).2) := by
  have allowed : ¬ (m.state ≠ .running ∧ m.state ≠ .restarting ∧ m.state ≠ .standby) := by tauto
  simp only [commandRestart, getState, setState, op_bind, run_getState_beside]
  rw [if_neg allowed, run_setState_beside, if_pos running, run_bind,
    run_stopAgent_beside (state_enter _)]
  cases AgentReply.result discard (h.answer (c 3) .stop).1 with
  | error err => rfl
  | ok _ => rfl

/-- **A restart by command gives a new process while there is one at hand.** -/
theorem relaunched_commandRestart (fine : ∀ n, (c n).Fine) (coherent : Coherent h)
    (running : m.state = .running) {child : Child} (held : h.app.scriptProcess = some child)
    (carried : P env) :
    Relaunched h P ((commandRestart (some env)).run Monitor.actBeside c (m, h)) := by
  obtain ⟨r, stopped⟩ := Host.stopped_stopScript (fine 3) coherent held
  have accepted : (h.answer (c 3) .stop).1.result discard = .ok () := by
    rw [Host.answer, stopped]
    rfl
  have launched := Host.launched_startScript (fine 5) (p := ⟨some env, none⟩)
    (Coherent.scriptProcess_stopScript h (c 3).stop) (Host.length_stopScript (c 3).stop).ge
  obtain ⟨status, decoded, started⟩ := launched.started
  rw [run_commandRestart_beside running, accepted]
  simp only [commandStartAgain, run_bind]
  rw [run_startAgent_beside (h := (h.answer (c 3) .stop).2)
    (c := fun n => c (n + 4)) (state_enter _) decoded started]
  exact relaunched_of_launched launched carried

/-- The engine refuses the stop when it has no process at hand. -/
theorem failed_commandRestart (running : m.state = .running) (empty : h.app.scriptProcess = none) :
    ((commandRestart (some env)).run Monitor.actBeside c (m, h)).value.code = 500 := by
  have refused : (h.answer (c 3) .stop).1.result discard =
      .error (.status 400 (ErrorResponse.toJson ⟨"No process running"⟩)) := by
    rw [Host.answer, Host.stopScript, empty]
    rfl
  rw [run_commandRestart_beside running, refused]

/-- What a restart by configuration passes on. -/
theorem assigns_restartEnv (getenv : String → String) (config : RestartConfig) :
    (restartEnv getenv config).Assigns config.newRank config.worldSize (getenv "MASTER_ADDR")
      (getenv "MASTER_PORT") where
  rank := by simp [restartEnv]
  worldSize := by simp [restartEnv]
  masterAddr := by simp [restartEnv]
  masterPort := by simp [restartEnv, -AList.insert_empty]

end Monitor

/-! ## Both routes -/

/-- A restart by command and a restart by configuration both give a new process with the ranks of
the configuration and the master address of the monitor. -/
def Monitor.RoutesAgree (getenv : String → String) (m : Monitor) (h : Host) (env : Env)
    (config : RestartConfig) (byCommand byConfig : Nat → RouteChoice) : Prop :=
  let assigns := Env.Assigns config.newRank config.worldSize (getenv "MASTER_ADDR")
    (getenv "MASTER_PORT")
  Relaunched h assigns
      ((handleCommand (some ⟨"restart", some env⟩)).run Monitor.actBeside byCommand (m, h)) ∧
    Relaunched h assigns
      ((handleRestart getenv (some config)).run Monitor.actBeside byConfig (m, h))

/-- **The routes agree while the engine has a process at hand.** -/
theorem routesAgree_iff {getenv : String → String} {m : Monitor} {h : Host} {env : Env}
    {config : RestartConfig} {byCommand byConfig : Nat → RouteChoice}
    (reachable : engine.Reachable h)
    (running : m.state = .running) (fineCommand : ∀ n, (byCommand n).Fine)
    (fineConfig : ∀ n, (byConfig n).Fine)
    (assigns : env.Assigns config.newRank config.worldSize (getenv "MASTER_ADDR")
      (getenv "MASTER_PORT")) :
    m.RoutesAgree getenv h env config byCommand byConfig ↔ h.app.scriptProcess ≠ none := by
  have coherent := coherent_of_reachable reachable
  have route : Monitor.handleCommand (some ⟨"restart", some env⟩) =
      Monitor.commandRestart (some env) := rfl
  rw [Monitor.RoutesAgree, route]
  constructor
  · rintro ⟨⟨answered, _, _⟩, _⟩ empty
    rw [Monitor.failed_commandRestart running empty] at answered
    exact absurd answered (by decide)
  · intro held
    obtain ⟨child, held⟩ := Option.ne_none_iff_exists'.mp held
    exact ⟨Monitor.relaunched_commandRestart fineCommand coherent running held assigns,
      Monitor.relaunched_handleRestart getenv config fineConfig running
        (Monitor.assigns_restartEnv getenv config)⟩

/-- A kill ends the process and a new one is spawned. -/
def RouteChoice.healthy : RouteChoice where
  start := { spawned := .ok 8, startTime := .epoch, endTime := .epoch }
  stop := { exits := some (.signaled SIGKILL), endTime := .epoch }
  status := { endTime := .epoch }

theorem RouteChoice.fine_healthy : RouteChoice.healthy.Fine where
  killed := Option.some_ne_none _
  waited := rfl
  checked := rfl
  spawned := rfl
  rechecked := rfl
  stays := rfl

/-- A monitor in `Running`. -/
def Monitor.runningZero : Monitor := (Monitor.new "a" "http://a" 0 2).enter .running

theorem routesAgree_launched :
    let getenv : String → String := fun _ => "10.0.0.1"
    ∃ h, engine.Reachable h ∧ Monitor.runningZero.RoutesAgree getenv h
      (Monitor.restartEnv getenv ⟨0, 2⟩) ⟨0, 2⟩ (fun _ => .healthy) (fun _ => .healthy) := by
  intro getenv
  obtain ⟨h, reachable, held⟩ := System.exists_reachable (S := engine) [launch 7]
    (fun h => h.app.scriptProcess ≠ none) rfl (by decide +kernel)
  have fine : ∀ _ : Nat, RouteChoice.healthy.Fine := fun _ => RouteChoice.fine_healthy
  exact ⟨h, reachable, (routesAgree_iff reachable rfl fine fine
    (Monitor.assigns_restartEnv getenv ⟨0, 2⟩)).mpr (of_decide_eq_true held)⟩

/-- The process has exited and a status request has seen it: the restart by command fails. -/
theorem routes_differ_reaped :
    let getenv : String → String := fun _ => "10.0.0.1"
    let env := Monitor.restartEnv getenv ⟨0, 2⟩
    ∃ h, engine.Reachable h ∧
      ((Monitor.handleCommand (some ⟨"restart", some env⟩)).run Monitor.actBeside
        (fun _ => .healthy) (Monitor.runningZero, h)).value.code = 500 ∧
      ((Monitor.handleRestart getenv (some ⟨0, 2⟩)).run Monitor.actBeside
        (fun _ => .healthy) (Monitor.runningZero, h)).value.code = 200 ∧
      ¬ Monitor.runningZero.RoutesAgree getenv h env ⟨0, 2⟩ (fun _ => .healthy)
        (fun _ => .healthy) := by
  intro getenv env
  obtain ⟨h, reachable, reaped⟩ := System.exists_reachable (S := engine)
    [launch 7, .exit 0 (.exited 0), .status { endTime := .epoch }]
    (fun h => h.app.scriptProcess = none) rfl (by decide +kernel)
  have fine : ∀ _ : Nat, RouteChoice.healthy.Fine := fun _ => RouteChoice.fine_healthy
  have running : Monitor.runningZero.state = .running := rfl
  have refused := @Monitor.failed_commandRestart Monitor.runningZero h (fun _ => .healthy) env
    running (of_decide_eq_true reaped)
  have answered := (Monitor.relaunched_handleRestart (h := h) (P := fun _ => True) getenv ⟨0, 2⟩
    fine running trivial).answered
  refine ⟨h, reachable, refused, answered, fun agree => ?_⟩
  exact absurd (refused.symm.trans agree.1.answered) (by decide)

end C4D
