import C4D.Monitor.Agent

/-!
# The handlers and the goroutines of the monitor

The handlers of the HTTP requests, the start of the monitor and one turn of the
heartbeat. A body that does not bind is `none`. The route of `handleActivate` is
commented out in the source.
-/

set_option autoImplicit false

namespace C4D

open Foundations

/-! ## Requests and answers -/

/-- The body of `/command`. -/
structure CommandRequest where
  command : String
  envVars : Option Env

/-- The fields of `RestartConfig` that are read. -/
structure RestartConfig where
  newRank : Int
  worldSize : Int

/-- The body of `/log_ccl`. -/
structure CclLog where
  opType : String
  remoteRank : Int
  startTime : Int
  endTime : Int
  finished : Bool

/-- The content of an answer: a message, an error text, or an error text with the error of the
engine behind it. -/
inductive MonitorReply.Content where
  | message (text : String)
  | error (text : String)
  | agentError (text : String) (err : AgentError)

/-- The answer of a handler. -/
structure MonitorReply where
  code : Nat
  content : MonitorReply.Content

/-- The answer to `GET /metrics`. -/
structure MetricsReply where
  state : String
  rank : Int
  worldSize : Int
  ramUsage : ℚ
  cpuUsage : ℚ
  latencies : Table Int ℚ

namespace Monitor

/-! ## Handlers -/

/-- `handleCommand` for "start" -/
def commandStart (envVars : Option Env) : MonitorProgram MonitorReply := do
  let currentState ← getState
  if currentState ≠ .standby then
    return ⟨400, .error ("Cannot start: node in " ++ currentState.toString ++ " state")⟩
  else
    match ← startAgent envVars with
    | .error err =>
        setState .failed
        return ⟨500, .agentError "" err⟩
    | .ok _ =>
        setState .running
        return ⟨200, .message "Agent started successfully"⟩

/-- `handleCommand` for "stop" -/
def commandStop : MonitorProgram MonitorReply := do
  match ← stopAgent with
  | .error err => return ⟨500, .agentError "" err⟩
  | .ok _ =>
      setState .standby
      return ⟨200, .message "Agent stopped successfully"⟩

/-- The end of `handleCommand` for "restart". -/
def commandStartAgain (envVars : Option Env) : MonitorProgram MonitorReply := do
  match ← startAgent envVars with
  | .error err =>
      setState .failed
      return ⟨500, .agentError "Failed to start agent: " err⟩
  | .ok _ =>
      setState .running
      return ⟨200, .message "Agent restarted successfully"⟩

/-- `handleCommand` for "restart" -/
def commandRestart (envVars : Option Env) : MonitorProgram MonitorReply := do
  let currentState ← getState
  if currentState ≠ .running ∧ currentState ≠ .restarting ∧ currentState ≠ .standby then
    return ⟨400, .error ("Cannot restart: node in " ++ currentState.toString ++ " state")⟩
  else
    setState .restarting
    if currentState = .running then
      match ← stopAgent with
      | .error err =>
          setState .failed
          return ⟨500, .agentError "Failed to stop agent: " err⟩
      | .ok _ => commandStartAgain envVars
    else commandStartAgain envVars

/-- `handleCommand` -/
def handleCommand (cmd : Option CommandRequest) : MonitorProgram MonitorReply :=
  match cmd with
  | none => return ⟨400, .error "Invalid command format"⟩
  | some cmd =>
      if cmd.command = "start" then commandStart cmd.envVars
      else if cmd.command = "stop" then commandStop
      else if cmd.command = "restart" then commandRestart cmd.envVars
      else return ⟨400, .error "Unknown command"⟩

/-- The environment variables `handleRestart` passes on. -/
def restartEnv (getenv : String → String) (config : RestartConfig) : Env :=
  (((AList.insert "MASTER_PORT" (getenv "MASTER_PORT") (∅ : Env)).insert "MASTER_ADDR"
    (getenv "MASTER_ADDR")).insert "WORLD_SIZE" (toString config.worldSize)).insert "RANK"
      (toString config.newRank)

/-- `handleRestart` -/
def handleRestart (getenv : String → String) (config : Option RestartConfig) :
    MonitorProgram MonitorReply := do
  let currentState ← getState
  if currentState = .failed then
    return ⟨503, .error "Node in failed state"⟩
  else
    match config with
    | none => return ⟨400, .error "Invalid config"⟩
    | some config =>
        setState .restarting
        setConfig config.newRank config.worldSize
        match ← restartAgent (some (restartEnv getenv config)) with
        | .error err =>
            setState .failed
            return ⟨500, .agentError "Failed to restart: " err⟩
        | .ok _ =>
            setState .running
            return ⟨200, .message "Restart successful"⟩

/-- `handleRemove`: a failed stop is only a warning in the log. -/
def handleRemove : MonitorProgram MonitorReply := do
  let currentState ← getState
  if currentState = .failed ∨ currentState = .standby then
    return ⟨400, .error "Invalid state for removal"⟩
  else
    let _ ← stopAgent
    setState .standby
    return ⟨200, .message "Node removed"⟩

/-- The latency of a log entry in milliseconds: a 64-bit difference of nanoseconds. -/
def CclLog.latency (log : CclLog) : ℚ := (Int64.ofInt (log.endTime - log.startTime)).toInt / 1000000

/-- `handleLogCCL` -/
def handleLogCCL (log : Option CclLog) : MonitorProgram MonitorReply := do
  match log with
  | none => return ⟨400, .error "Invalid data"⟩
  | some log =>
      if log.finished ∧ (log.opType = "send" ∨ log.opType = "recv") then
        let _ ← updateLatencyWindow log.remoteRank (CclLog.latency log)
        return ⟨200, .message "Processed"⟩
      else return ⟨200, .message "Processed"⟩

/-- The averages `handleMetrics` shows. -/
def shownLatencies (windows : List (Int × List ℚ)) : Table Int ℚ :=
  windows.foldl (fun averages entry =>
    if entry.2 = [] then averages else averages.insert entry.1 (average entry.2)) ∅

/-- `handleMetrics` -/
def handleMetrics : MonitorProgram MetricsReply := do
  let currentState ← getState
  let windows ← windows
  let m ← fields
  return { state := currentState.toString, rank := m.rank, worldSize := m.worldSize,
           ramUsage := m.ramUsage, cpuUsage := m.cpuUsage, latencies := shownLatencies windows }

/-- `getEnvVars` -/
def getEnvVars (getenv : String → String) (m : Monitor) : Env :=
  ((((AList.insert "TASK_ID" m.nodeID (∅ : Env)).insert "MASTER_PORT"
    (getenv "MASTER_PORT")).insert "MASTER_ADDR" (getenv "MASTER_ADDR")).insert "WORLD_SIZE"
      (toString m.worldSize)).insert "RANK" (toString m.rank)

/-! ## Start and heartbeat -/

/-- `MaxRetries` -/
def maxRetries : Nat := 10

/-- The error of `Start`. -/
inductive StartError where
  /-- "invalid state for start" -/
  | invalidState
  /-- An error of `Register` that is not retried. -/
  | refused (err : String)
  /-- "failed to register after %d attempts: %v" -/
  | notRegistered (lastErr : String)

/-- The registration attempts that are left, with the last error, which a success does not clear. -/
def registerAttempts (req : RegisterRequest) :
    Nat → Option String → MonitorProgram (Except String (Option String))
  | 0, lastErr => return .ok lastErr
  | left + 1, lastErr => do
      match ← register req with
      | some err =>
          if Mentions err "context deadline exceeded" ∨ Mentions err "Reconfiguring" then
            registerAttempts req left (some err)
          else return .error err
      | none => return .ok lastErr

/-- `Start` -/
def start (getenv : String → String) : MonitorProgram (Except StartError Unit) := do
  let currentState ← getState
  if currentState ≠ .initializing then
    return .error .invalidState
  else
    let m ← fields
    match ← registerAttempts ⟨m.nodeID, m.nodeURL, getenv "MASTER_ADDR", getenv "MASTER_PORT"⟩
      maxRetries none with
    | .error err => return .error (.refused err)
    | .ok (some lastErr) =>
        setState .failed
        return .error (.notRegistered lastErr)
    | .ok none =>
        setState .standby
        return .ok ()

/-- One turn of the heartbeat goroutine after a tick, and whether the loop goes on. -/
def heartbeatTurn : MonitorProgram Bool := do
  let currentState ← getState
  if currentState = .failed ∨ currentState = .initializing then
    return true
  else
    let m ← fields
    match ← sendHeartbeat ⟨m.nodeID⟩ currentState with
    | none => return true
    | some err =>
        if Mentions err "connection refused" ∨ Mentions err "transport is closing" then
          setState .failed
          return false
        else return true

end Monitor

/-! ## Tasks -/

/-- What the monitor does: serve a request, take a turn of a goroutine, or start. -/
inductive MonitorTask where
  | command (cmd : Option CommandRequest)
  | restart (config : Option RestartConfig)
  | remove
  | logCCL (log : Option CclLog)
  | metrics
  | start
  | heartbeat
  | sendMetrics

/-- The program of a task; nothing looks at its result. -/
def MonitorTask.program (getenv : String → String) : MonitorTask → MonitorProgram Unit
  | .command cmd => do let _ ← Monitor.handleCommand cmd
  | .restart config => do let _ ← Monitor.handleRestart getenv config
  | .remove => do let _ ← Monitor.handleRemove
  | .logCCL log => do let _ ← Monitor.handleLogCCL log
  | .metrics => do let _ ← Monitor.handleMetrics
  | .start => do let _ ← Monitor.start getenv
  | .heartbeat => do let _ ← Monitor.heartbeatTurn
  | .sendMetrics => do let _ ← Monitor.sendMetrics

/-- The engine has a process running. -/
def engineRunning : Outcome where
  agent := .answered 200 (StatusResponse.toJson ⟨"started", some 7, none⟩)
  metrics := .ok ⟨none⟩

/-- A fresh monitor. -/
def Monitor.Fresh (m : Monitor) : Prop :=
  ∃ nodeID nodeURL rank worldSize, m = Monitor.new nodeID nodeURL rank worldSize

end C4D
