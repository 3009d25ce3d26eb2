import C4D.Monitor.StatusFormat
import C4D.Monitor.Types

/-!
# The monitor's calls of the engine

Starting, stopping and restarting the training process, and the metrics
goroutine. One turn of a goroutine is a program of its own.
-/

set_option autoImplicit false

namespace C4D

open Foundations

namespace AgentReply

/-- The end of `callAgentEndpoint`: an answer below 400 is decoded. -/
def result {α : Type} (decode : Json → Option α) : AgentReply → Except AgentError α
  | .failed cause => .error (.sendRequest cause)
  | .answered statusCode body =>
      if 400 ≤ statusCode then .error (.status statusCode body)
      else
        match decode body with
        | none => .error .decode
        | some a => .ok a

end AgentReply

namespace Monitor

/-- `callAgentEndpoint` -/
def callAgentEndpoint {α : Type} (request : AgentRequest) (decode : Json → Option α) :
    MonitorProgram (Except AgentError α) := do
  let reply ← callAgent request
  return reply.result decode

/-- Nothing is decoded when no result is asked for. -/
def discard (_ : Json) : Option Unit := some ()

end Monitor

/-- The text of an error of `callAgentEndpoint` contains a phrase without punctuation. -/
def AgentError.mentions (phrase : String) : AgentError → Bool
  | .sendRequest cause => Mentions cause phrase
  | .status _ body => body.mentions phrase
  | _ => false

namespace Monitor

/-- The attempts of `startAgent` that are left. -/
def startAttempts (envVars : Option Env) :
    Nat → Option AgentError → MonitorProgram (Except AgentError Unit)
  | 0, lastErr => return .error (.notStarted lastErr)
  | left + 1, _ => do
      match ← callAgentEndpoint (.start envVars) AgentStatus.decode with
      | .error err =>
          if err.mentions "A process is already running" then
            match ← callAgentEndpoint .stop discard with
            | .error e => return .error e
            | .ok _ => startAttempts envVars left (some err)
          else startAttempts envVars left (some err)
      | .ok status =>
          if status.currentStatus ≠ "started" then startAttempts envVars left (some .agentFailed)
          else return .ok ()

/-- `startAgent` -/
def startAgent (envVars : Option Env) : MonitorProgram (Except AgentError Unit) := do
  let currentState ← getState
  if currentState ≠ .initializing ∧ currentState ≠ .standby ∧ currentState ≠ .restarting then
    return .error .invalidState
  else startAttempts envVars 5 none

/-- `stopAgent` -/
def stopAgent : MonitorProgram (Except AgentError Unit) := do
  let currentState ← getState
  if currentState ≠ .running ∧ currentState ≠ .restarting then
    return .error .invalidState
  else
    match ← callAgentEndpoint .stop discard with
    | .error err => return .error (.notStopped err)
    | .ok _ => return .ok ()

/-- `restartAgent` -/
def restartAgent (envVars : Option Env) : MonitorProgram (Except AgentError Unit) := do
  match ← callAgentEndpoint (.restart envVars) AgentStatus.decode with
  | .error err => return .error (.notRestarted err)
  | .ok _ => return .ok ()

/-! ## Metrics -/

/-- The averages of a report, by the remote ranks as 32-bit numbers. -/
def avgLatencies (windows : List (Int × List ℚ)) : Table Int ℚ :=
  windows.foldl (fun averages entry =>
    if entry.2 = [] then averages
    else averages.insert (Int32.ofInt entry.1).toInt (average entry.2)) ∅

/-- The report `sendMetricsToServer` builds. -/
def report (m : Monitor) (windows : List (Int × List ℚ)) : Report where
  nodeId := m.nodeID
  ramUsage := m.ramUsage
  cpuUsage := m.cpuUsage
  rankLatencies := { rank := (Int32.ofInt m.rank).toInt, avgLatencies := avgLatencies windows }

/-- The report is built and sent. -/
def sendReport : MonitorProgram (Option String) := do
  let windows ← windows
  let m ← fields
  postReport (m.report windows)

/-- `sendMetricsToServer`; its error only reaches the log. -/
def sendMetricsToServer : MonitorProgram Unit := do
  let currentState ← getState
  if currentState ≠ .running then
    return ()
  else
    match ← agentMetrics with
    | .error _ => return ()
    | .ok metrics =>
        match metrics.processMetrics with
        | none => let _ ← sendReport
        | some (cpuUsage, ramUsage) =>
            setUsage cpuUsage ramUsage
            let _ ← sendReport

/-- One turn of `sendMetrics` after a tick, and whether the loop goes on. -/
def sendMetrics : MonitorProgram Bool := do
  let currentState ← getState
  if currentState ≠ .running then
    return false
  else
    sendMetricsToServer
    match ← callAgentEndpoint .status AgentStatus.decode with
    | .error _ =>
        setState .failed
        return false
    | .ok status =>
        if status.lastExecution.exitCode ≠ none ∧ status.lastExecution.exitCode ≠ some 0 then
          setState .failed
          return false
        else
          sendMetricsToServer
          return true

end Monitor

end C4D
