import C4D.Engine.Types

/-!
# The handlers of the compute engine

Each handler is one function of the engine and its processes. What the operating
system decides is an argument: whether a process can be spawned, how the process
at hand ends while the handler runs, and whether a status check or a wait fails.
A process may also end between two requests, and a restart is a stop followed
later by a start.

A process whose handle is dropped keeps running.
-/

set_option autoImplicit false

namespace C4D

open Foundations

/-- What the operating system decides in a start. -/
structure StartOutcome where
  /-- The text of a failed `try_wait` of the process at hand. -/
  checkError : Option String := none
  /-- The pid of the new process, or why it was not spawned. -/
  spawned : Except String UInt32
  startTime : Timestamp
  /-- How the new process ends before it is checked. -/
  exits : Option ExitStatus := none
  /-- The text of a failed `try_wait` of the new process. -/
  recheckError : Option String := none
  endTime : Timestamp

/-- What the operating system decides in a stop. -/
structure StopOutcome where
  /-- How the process ends between the kill and the end of the wait, if it was running. -/
  exits : Option ExitStatus
  /-- The text of a failed wait. -/
  waitError : Option String := none
  endTime : Timestamp

/-- What the operating system decides in a status request. -/
structure StatusOutcome where
  /-- The text of a failed `try_wait`. -/
  checkError : Option String := none
  endTime : Timestamp

namespace Host

variable (h : Host)

/-! ## The operating system -/

/-- `try_wait`: how the process ended, `none` while it runs, or an error. -/
def tryWait (child : Child) (error : Option String) : Except String (Option ExitStatus) :=
  match error with
  | some e => .error e
  | none => .ok (h.status child.process)

/-- A process that was running ends. -/
def finish (process : Nat) (status : ExitStatus) : Host :=
  { h with processes := h.processes.modify process fun p =>
      { p with status := p.status.or (some status) } }

/-- `kill_process_tree`, with how the process ends before the handler goes on, if it does. -/
def killProcessTree (process : Nat) (exits : Option ExitStatus) : Host :=
  match exits with
  | some status => h.finish process status
  | none => h

/-! ## Assignments -/

/-- `*process_guard = …` -/
def setProcess (child : Option Child) : Host :=
  { h with app := { h.app with scriptProcess := child } }

/-- `*last_execution = Some(…)` -/
def setExecution (info : ExecutionInfo) : Host :=
  { h with app := { h.app with lastExecution := some info } }

/-- An update of the record, if there is one. -/
def updateExecution (f : ExecutionInfo → ExecutionInfo) : Host :=
  { h with app := { h.app with lastExecution := h.app.lastExecution.map f } }

/-! ## Handlers -/

/-- The end of `start_script`: spawn the process and check it once. -/
def spawnScript (params : ScriptParams) (os : StartOutcome) : HttpResponse × Host :=
  let scriptPath := params.scriptPath.getD "launch.sh"
  match os.spawned with
  | .error e => (.internalServerError ⟨"Failed to start process: " ++ e⟩, h)
  | .ok pid =>
      let process : Process :=
        { pid, envVars := params.envVars, scriptPath, status := os.exits }
      let child : Child := { process := h.processes.length, id := some pid }
      let h := { h with processes := h.processes ++ [process] }
      let execInfo : ExecutionInfo :=
        { startTime := os.startTime, endTime := none, exitCode := none, exitSignal := none,
          pid := child.id, envVars := params.envVars, scriptPath }
      match h.tryWait child os.recheckError with
      | .ok (some status) =>
          let finalExecInfo := execInfo.finished status os.endTime
          (.ok ⟨"exited", none, some finalExecInfo⟩, h.setExecution finalExecInfo)
      | .ok none =>
          (.ok ⟨"started", child.id, some execInfo⟩,
            (h.setProcess (some child)).setExecution execInfo)
      | .error e => (.internalServerError ⟨"Error checking process status: " ++ e⟩, h)

/-- `start_script` -/
def startScript (params : ScriptParams) (os : StartOutcome) : HttpResponse × Host :=
  match h.app.scriptProcess with
  | some child =>
      match h.tryWait child os.checkError with
      | .ok (some _) => (h.setProcess none).spawnScript params os
      | .ok none => (.badRequest ⟨"A process is already running. Stop it first."⟩, h)
      | .error _ => (h.setProcess none).spawnScript params os
  | none => h.spawnScript params os

/-- `stop_script`. The wait looks at the process as `try_wait` does, and has timed out if the
process is still running after one second. -/
def stopScript (os : StopOutcome) : HttpResponse × Host :=
  match h.app.scriptProcess with
  | some child =>
      let h := h.setProcess none
      match child.id with
      | some _ =>
          let h := h.killProcessTree child.process os.exits
          match h.tryWait child os.waitError with
          | .ok (some status) =>
              let h := h.updateExecution (·.finished status os.endTime)
              (.ok ⟨"stopped", none, h.app.lastExecution⟩, h)
          | .error e => (.internalServerError ⟨"Error waiting for process: " ++ e⟩, h)
          | .ok none =>
              let h := h.updateExecution (·.abandoned os.endTime)
              (.ok ⟨"force_stopped", none, h.app.lastExecution⟩, h)
      | none => (.internalServerError ⟨"No PID available for process"⟩, h)
  | none => (.badRequest ⟨"No process running"⟩, h)

/-- `get_status` -/
def getStatus (os : StatusOutcome) : HttpResponse × Host :=
  match h.app.scriptProcess with
  | some child =>
      match h.tryWait child os.checkError with
      | .ok (some status) =>
          let h := (h.updateExecution (·.finished status os.endTime)).setProcess none
          (.ok ⟨"exited", none, h.app.lastExecution⟩, h)
      | .ok none => (.ok ⟨"running", child.id, h.app.lastExecution⟩, h)
      | .error e =>
          let h := h.setProcess none
          (.ok ⟨"error: " ++ e, none, h.app.lastExecution⟩, h)
  | none => (.ok ⟨"not_running", none, h.app.lastExecution⟩, h)

/-- `restart_script` up to its sleep: the result of the stop is not looked at. -/
def restartScript (params : ScriptParams) (os : StopOutcome) : Host :=
  let h := (h.stopScript os).2
  { h with restarting := h.restarting ++ [params] }

/-- The end of `restart_script`. -/
def resumeScript (params : ScriptParams) (os : StartOutcome) : HttpResponse × Host :=
  ({ h with restarting := h.restarting.erase params }).startScript params os

end Host

/-! ## Runs -/

/-- The requests to the engine with what the operating system decides, and the end of a process. -/
inductive EngineAction where
  | start (params : ScriptParams) (os : StartOutcome)
  | stop (os : StopOutcome)
  | status (os : StatusOutcome)
  | restart (params : ScriptParams) (os : StopOutcome)
  | resume (params : ScriptParams) (os : StartOutcome)
  | exit (process : Nat) (status : ExitStatus)

/-- The engine after an action. -/
def Host.next (h : Host) : EngineAction → Option Host
  | .start params os => some (h.startScript params os).2
  | .stop os => some (h.stopScript os).2
  | .status os => some (h.getStatus os).2
  | .restart params os => some (h.restartScript params os)
  | .resume params os => if params ∈ h.restarting then some (h.resumeScript params os).2 else none
  | .exit process status => if h.Alive process then some (h.finish process status) else none

/-- The compute engine. -/
def engine : System Host EngineAction where
  init h := h = Host.new
  next := Host.next

section Next

variable {h h' : Host}

/-- A restart goes on that is about to start its process. -/
theorem resume_of_next {params : ScriptParams} {os : StartOutcome}
    (next : engine.next h (.resume params os) = some h') :
    params ∈ h.restarting ∧ h' = (h.resumeScript params os).2 := by
  change (if params ∈ h.restarting then some (h.resumeScript params os).2 else none) = _ at next
  split at next
  · next waits => exact ⟨waits, (Option.some.inj next).symm⟩
  · cases next

/-- A process ends that is alive. -/
theorem exit_of_next {process : Nat} {status : ExitStatus}
    (next : engine.next h (.exit process status) = some h') :
    h.Alive process ∧ h' = h.finish process status := by
  change (if h.Alive process then some (h.finish process status) else none) = _ at next
  split at next
  · next alive => exact ⟨alive, (Option.some.inj next).symm⟩
  · cases next

end Next

end C4D
