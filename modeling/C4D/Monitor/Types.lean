import C4D.Engine.Encoding
import C4D.Foundations.Program
import C4D.Server.Handlers
import Mathlib.Algebra.Order.Field.Rat

/-!
# The data and the operations of the monitor

The handlers and the goroutines of a monitor are programs over a few operations:
reading and setting the lifecycle state under its lock, access to the other
fields, requests to the compute engine and calls of the server (`MonitorOp`).
`Monitor.act` says what each operation does; what the engine and the server
answer is decided by the environment.

A channel or a ticker that is replaced is told apart by a number. Latencies and
usages, floats in the source, are rationals. Three fields are histories that no
operation reads: the goroutines that were started, the failure notifications and
the metrics reports.
-/

set_option autoImplicit false

namespace C4D

open Foundations

/-! ## States -/

inductive Monitor.State where
  | initializing
  | stopped
  | running
  | standby
  | restarting
  | failed
deriving DecidableEq, Repr

/-- `State.String`, which does not know `Stopped`. -/
def Monitor.State.toString : Monitor.State → String
  | .initializing => "Initializing"
  | .stopped => "Unknown"
  | .running => "Running"
  | .standby => "Standby"
  | .restarting => "Restarting"
  | .failed => "Failed"

/-! ## The monitor -/

/-- The metrics report to the server. -/
structure Report where
  nodeId : String
  ramUsage : ℚ
  cpuUsage : ℚ
  rankLatencies : RankLatencies

structure Monitor where
  nodeID : String
  nodeURL : String
  rank : Int
  worldSize : Int
  state : Monitor.State
  /-- The latencies by remote rank, the latest one last. -/
  latencyWindow : Table Int (List ℚ)
  cpuUsage : ℚ
  ramUsage : ℚ
  /-- Which `stopChan` is the current one. The earlier ones are closed. -/
  stopChan : Nat
  /-- Which heartbeat is running: `heartbeatTicker` and `heartbeatDone`. -/
  heartbeat : Option Nat
  /-- History: the heartbeat goroutines started. -/
  heartbeats : Nat
  /-- History: the `sendMetrics` goroutines started. -/
  metricsLoops : Nat
  /-- History: the failure notifications sent. -/
  failures : Nat
  /-- History: the metrics reports sent. -/
  reports : List Report

namespace Monitor

/-- `NewMonitor`, with the identity, rank and world size from the environment of the process. -/
def new (nodeID nodeURL : String) (rank worldSize : Int) : Monitor where
  nodeID := nodeID
  nodeURL := nodeURL
  rank := rank
  worldSize := worldSize
  state := .initializing
  latencyWindow := ∅
  cpuUsage := 0
  ramUsage := 0
  stopChan := 0
  heartbeat := none
  heartbeats := 0
  metricsLoops := 0
  failures := 0
  reports := []

/-- `startHeartbeat`: nothing happens if one is running. -/
def startHeartbeat (m : Monitor) : Monitor :=
  match m.heartbeat with
  | some _ => m
  | none => { m with heartbeat := some m.heartbeats, heartbeats := m.heartbeats + 1 }

/-- `stopHeartbeat` -/
def stopHeartbeat (m : Monitor) : Monitor := { m with heartbeat := none }

/-- The stop channel is closed and replaced. -/
def renewStopChan (m : Monitor) : Monitor := { m with stopChan := m.stopChan + 1 }

/-- The body of `setState`, with everything it does under the state lock. -/
def enter (newState : Monitor.State) (m : Monitor) : Monitor :=
  let oldState := m.state
  let m := { m with state := newState }
  match newState with
  | .running =>
      let m := m.startHeartbeat
      { m with metricsLoops := m.metricsLoops + 1 }
  | .standby => (if oldState = .running then m.renewStopChan else m).startHeartbeat
  | .restarting => { m.renewStopChan with latencyWindow := ∅ }.startHeartbeat
  | .failed =>
      let m := m.stopHeartbeat
      { m with failures := m.failures + 1 }
  | .initializing => m.stopHeartbeat
  | .stopped => m

section Enter

variable {m : Monitor}

@[simp] theorem state_startHeartbeat : m.startHeartbeat.state = m.state := by
  unfold startHeartbeat
  cases m.heartbeat <;> rfl

@[simp] theorem failures_startHeartbeat : m.startHeartbeat.failures = m.failures := by
  unfold startHeartbeat
  cases m.heartbeat <;> rfl

theorem state_enter (newState : Monitor.State) : (m.enter newState).state = newState := by
  cases newState with
  | standby =>
      simp only [enter, state_startHeartbeat]
      split <;> rfl
  | running => exact state_startHeartbeat
  | restarting => exact state_startHeartbeat
  | _ => rfl

theorem failures_enter {newState : Monitor.State} (working : newState ≠ .failed) :
    (m.enter newState).failures = m.failures := by
  cases newState with
  | standby =>
      simp only [enter, failures_startHeartbeat]
      split <;> rfl
  | running => exact failures_startHeartbeat
  | restarting => exact failures_startHeartbeat
  | failed => exact absurd rfl working
  | _ => rfl

theorem kept_startHeartbeat : m.startHeartbeat.rank = m.rank ∧
    m.startHeartbeat.worldSize = m.worldSize ∧ m.startHeartbeat.reports = m.reports := by
  unfold startHeartbeat
  cases m.heartbeat <;> exact ⟨rfl, rfl, rfl⟩

/-- Entering a state changes neither the rank nor the world size, and sends no report. -/
theorem kept_enter (newState : Monitor.State) : (m.enter newState).rank = m.rank ∧
    (m.enter newState).worldSize = m.worldSize ∧ (m.enter newState).reports = m.reports := by
  cases newState with
  | standby =>
      simp only [enter]
      split
      · exact kept_startHeartbeat
      · exact kept_startHeartbeat
  | running => exact kept_startHeartbeat
  | restarting => exact kept_startHeartbeat
  | _ => exact ⟨rfl, rfl, rfl⟩

end Enter

/-- `WindowSize` -/
def windowSize : Nat := 100

/-- The average of a window. -/
def average (window : List ℚ) : ℚ := window.sum / window.length

/-- The body of `updateLatencyWindow`: the average of the window after a latency was added. -/
def addLatency (remoteRank : Int) (latency : ℚ) (m : Monitor) : ℚ × Monitor :=
  let window := (m.latencyWindow.lookup remoteRank).getD [] ++ [latency]
  let window := if windowSize < window.length then window.tail else window
  (average window, { m with latencyWindow := m.latencyWindow.insert remoteRank window })

end Monitor

/-! ## The engine as the monitor calls it -/

/-- The endpoints of the engine the monitor uses. -/
inductive AgentRequest where
  | start (envVars : Option Env)
  | stop
  | restart (envVars : Option Env)
  | status

/-- The outcome of an HTTP request: the answer, or why there is none. -/
inductive AgentReply where
  | failed (cause : String)
  | answered (statusCode : Nat) (body : Json)

/-- The errors of the calls to the engine. -/
inductive AgentError where
  /-- "failed to send request: %w" -/
  | sendRequest (cause : String)
  /-- "agent returned error status %d: %s" -/
  | status (statusCode : Nat) (body : Json)
  /-- "failed to decode response: %w" -/
  | decode
  /-- `ErrInvalidState` -/
  | invalidState
  /-- `ErrAgentFailed` -/
  | agentFailed
  /-- "failed to start agent after retries: %v" -/
  | notStarted (lastErr : Option AgentError)
  /-- "failed to stop agent: %w" -/
  | notStopped (cause : AgentError)
  /-- "failed to restart agent: %w" -/
  | notRestarted (cause : AgentError)

/-- `AgentMetrics`: the usage of the process, if one is running. -/
structure AgentMetrics where
  processMetrics : Option (ℚ × ℚ)

/-! ## Operations -/

/-- The operations of the monitor's programs. -/
inductive MonitorOp where
  | getState
  | setState (newState : Monitor.State)
  /-- The fields as they are now. -/
  | fields
  /-- `m.rank = newRank` and `m.worldSize = worldSize` -/
  | setConfig (newRank worldSize : Int)
  | setUsage (cpuUsage ramUsage : ℚ)
  | updateLatencyWindow (remoteRank : Int) (latency : ℚ)
  /-- The latency windows, in the order they are visited. -/
  | windows
  | callAgent (request : AgentRequest)
  /-- `GET /metrics` of the engine, decoded. -/
  | agentMetrics
  | register (req : RegisterRequest)
  | sendHeartbeat (req : HeartbeatRequest) (status : Monitor.State)
  | sendMetrics (report : Report)

/-- What the operations answer. A call of the server answers with the text of its error, if any. -/
abbrev MonitorOp.Answer : MonitorOp → Type
  | .getState => Monitor.State
  | .setState _ => Unit
  | .fields => Monitor
  | .setConfig _ _ => Unit
  | .setUsage _ _ => Unit
  | .updateLatencyWindow _ _ => ℚ
  | .windows => List (Int × List ℚ)
  | .callAgent _ => AgentReply
  | .agentMetrics => Except AgentError AgentMetrics
  | .register _ => Option String
  | .sendHeartbeat _ _ => Option String
  | .sendMetrics _ => Option String

/-- What the environment decides in an operation. -/
structure Outcome where
  agent : AgentReply := .failed "connection refused"
  metrics : Except AgentError AgentMetrics := .error (.sendRequest "connection refused")
  rpcError : Option String := none
  order : Shuffle Int := .inOrder

/-- A program of the monitor. -/
abbrev MonitorProgram := Program MonitorOp MonitorOp.Answer

/-- What the operations do. -/
def Monitor.act : Interface MonitorOp MonitorOp.Answer Monitor Outcome
  | .getState, _, m => (m.state, m)
  | .setState newState, _, m => ((), m.enter newState)
  | .fields, _, m => (m, m)
  | .setConfig newRank worldSize, _, m => ((), { m with rank := newRank, worldSize })
  | .setUsage cpuUsage ramUsage, _, m => ((), { m with cpuUsage, ramUsage })
  | .updateLatencyWindow remoteRank latency, _, m => m.addLatency remoteRank latency
  | .windows, o, m => ((o.order.apply m.latencyWindow.keys).map fun remoteRank =>
      (remoteRank, (m.latencyWindow.lookup remoteRank).getD []), m)
  | .callAgent _, o, m => (o.agent, m)
  | .agentMetrics, o, m => (o.metrics, m)
  | .register _, o, m => (o.rpcError, m)
  | .sendHeartbeat _ _, o, m => (o.rpcError, m)
  | .sendMetrics report, o, m => (o.rpcError, { m with reports := m.reports ++ [report] })

namespace Monitor

open Program

/-! The operations as programs. -/

def getState : MonitorProgram State := op MonitorOp.getState

def setState (newState : State) : MonitorProgram Unit := op (MonitorOp.setState newState)

def fields : MonitorProgram Monitor := op MonitorOp.fields

def setConfig (newRank worldSize : Int) : MonitorProgram Unit :=
  op (MonitorOp.setConfig newRank worldSize)

def setUsage (cpuUsage ramUsage : ℚ) : MonitorProgram Unit := op (MonitorOp.setUsage cpuUsage ramUsage)

def updateLatencyWindow (remoteRank : Int) (latency : ℚ) : MonitorProgram ℚ :=
  op (MonitorOp.updateLatencyWindow remoteRank latency)

def windows : MonitorProgram (List (Int × List ℚ)) := op MonitorOp.windows

def callAgent (request : AgentRequest) : MonitorProgram AgentReply :=
  op (MonitorOp.callAgent request)

def agentMetrics : MonitorProgram (Except AgentError AgentMetrics) := op MonitorOp.agentMetrics

def register (req : RegisterRequest) : MonitorProgram (Option String) :=
  op (MonitorOp.register req)

def sendHeartbeat (req : HeartbeatRequest) (status : State) : MonitorProgram (Option String) :=
  op (MonitorOp.sendHeartbeat req status)

def postReport (report : Report) : MonitorProgram (Option String) :=
  op (MonitorOp.sendMetrics report)

end Monitor

end C4D
