import C4D.Engine.Record
import C4D.Foundations.Worker

/-!
# The handlers of the engine with their mutexes

The handlers as the engine's workers run them: the two mutexes of `AppState` are
taken and given back, and a handler may be suspended where the source awaits. A
guard lives to the end of the scope that locks it (`withMutex`), also across an
await.

Each look at a process may find that it has ended by now. A handler that runs alone
computes what the handler of the same name computes in one step, on an engine whose
process at hand may have ended before (`serve_stopScript`, `serve_getStatus`,
`serve_startScript`).
-/

set_option autoImplicit false

namespace C4D

open Foundations Program

/-- The mutexes of `AppState`. -/
inductive AppMutex where
  | scriptProcess
  | lastExecution
deriving DecidableEq

/-! ## Operations -/

/-- The operations of the handlers on what the mutexes guard and on the processes. -/
inductive EngineOp where
  | process
  | setProcess (child : Option Child)
  | execution
  | setExecution (info : ExecutionInfo)
  | updateExecution (f : ExecutionInfo → ExecutionInfo)
  | spawn (params : ScriptParams)
  | tryWait (child : Child)
  | getTimestamp

abbrev EngineOp.Answer : EngineOp → Type
  | .process => Option Child
  | .setProcess _ => Unit
  | .execution => Option ExecutionInfo
  | .setExecution _ => Unit
  | .updateExecution _ => Unit
  | .spawn _ => Except String Child
  | .tryWait _ => Except String (Option ExitStatus)
  | .getTimestamp => Timestamp

/-- What the operating system decides in an operation. -/
structure OsChoice where
  /-- The pid of a new process, or why it was not spawned. -/
  spawned : Except String UInt32 := .error "Resource temporarily unavailable"
  /-- How a process has ended by the time it is looked at, if it was running. -/
  exits : Option ExitStatus := none
  /-- The text of a failed look at a process. -/
  error : Option String := none
  now : Timestamp := .epoch

namespace Host

/-- A new process with the handle of it. -/
def spawn (params : ScriptParams) (pid : UInt32) (exits : Option ExitStatus) (h : Host) :
    Child × Host :=
  let process : Process :=
    { pid, envVars := params.envVars, scriptPath := params.scriptPath.getD "launch.sh"
      status := exits }
  ({ process := h.processes.length, id := some pid },
    { h with processes := h.processes ++ [process] })

/-- What the operations do. -/
def act : Interface EngineOp EngineOp.Answer Host OsChoice
  | .process, _, h => (h.app.scriptProcess, h)
  | .setProcess child, _, h => ((), h.setProcess child)
  | .execution, _, h => (h.app.lastExecution, h)
  | .setExecution info, _, h => ((), h.setExecution info)
  | .updateExecution f, _, h => ((), h.updateExecution f)
  | .spawn params, os, h =>
      match os.spawned with
      | .error e => (.error e, h)
      | .ok pid => (.ok (h.spawn params pid none).1, (h.spawn params pid none).2)
  | .tryWait child, os, h =>
      let h := h.killProcessTree child.process os.exits
      (h.tryWait child os.error, h)
  | .getTimestamp, os, h => (os.now, h)

end Host

/-- A handler as a worker runs it. -/
abbrev EngineProgram := WorkerProgram AppMutex EngineOp.Answer

namespace Handler

variable {α : Type}

/-! ## Handlers -/

def call (q : EngineOp) : EngineProgram q.Answer := op (WorkerOp.call q)

def await : EngineProgram Unit := op (.await : WorkerOp AppMutex EngineOp)

/-- A scope that begins with a lock. The guard is dropped at its end. -/
def withMutex (l : AppMutex) (body : EngineProgram α) : EngineProgram α := do
  let () ← op (.lock l : WorkerOp AppMutex EngineOp)
  let a ← body
  let () ← op (.unlock l : WorkerOp AppMutex EngineOp)
  return a

/-- `*last_execution = Some(…)` under its own guard. -/
def recordExecution (info : ExecutionInfo) : EngineProgram Unit :=
  withMutex .lastExecution (call (.setExecution info))

/-- The end of `start_script`. -/
def spawnScript (params : ScriptParams) : EngineProgram HttpResponse := do
  match ← call (.spawn params) with
  | .error e => return .internalServerError ⟨"Failed to start process: " ++ e⟩
  | .ok child =>
      let startTime ← call .getTimestamp
      let execInfo : ExecutionInfo :=
        { startTime, endTime := none, exitCode := none, exitSignal := none, pid := child.id
          envVars := params.envVars, scriptPath := params.scriptPath.getD "launch.sh" }
      match ← call (.tryWait child) with
      | .ok (some status) =>
          let endTime ← call .getTimestamp
          let finalExecInfo := execInfo.finished status endTime
          let () ← recordExecution finalExecInfo
          return .ok ⟨"exited", none, some finalExecInfo⟩
      | .ok none =>
          let () ← call (.setProcess (some child))
          let () ← recordExecution execInfo
          return .ok ⟨"started", child.id, some execInfo⟩
      | .error e => return .internalServerError ⟨"Error checking process status: " ++ e⟩

/-- `start_script` -/
def startScript (params : ScriptParams) : EngineProgram HttpResponse :=
  withMutex .scriptProcess do
    match ← call .process with
    | some child =>
        match ← call (.tryWait child) with
        | .ok (some _) =>
            let () ← call (.setProcess none)
            spawnScript params
        | .ok none => return .badRequest ⟨"A process is already running. Stop it first."⟩
        | .error _ =>
            let () ← call (.setProcess none)
            spawnScript params
    | none => spawnScript params

/-- The record after a wait, with the answer. -/
def settle (currentStatus : String) (update : Timestamp → ExecutionInfo → ExecutionInfo) :
    EngineProgram HttpResponse := do
  let endTime ← call .getTimestamp
  let () ← call (.updateExecution (update endTime))
  let lastExecution ← call .execution
  return .ok ⟨currentStatus, none, lastExecution⟩

/-- `stop_script`. It awaits the end of `pkill` and then the end of the process, for one second at
most. -/
def stopScript : EngineProgram HttpResponse :=
  withMutex .scriptProcess <| withMutex .lastExecution do
    match ← call .process with
    | some child =>
        let () ← call (.setProcess none)
        match child.id with
        | some _ =>
            let () ← await
            let () ← await
            match ← call (.tryWait child) with
            | .ok (some status) => settle "stopped" fun endTime => (·.finished status endTime)
            | .error e => return .internalServerError ⟨"Error waiting for process: " ++ e⟩
            | .ok none => settle "force_stopped" fun endTime => (·.abandoned endTime)
        | none => return .internalServerError ⟨"No PID available for process"⟩
    | none => return .badRequest ⟨"No process running"⟩

/-- `get_status` -/
def getStatus : EngineProgram HttpResponse :=
  withMutex .scriptProcess <| withMutex .lastExecution do
    match ← call .process with
    | some child =>
        match ← call (.tryWait child) with
        | .ok (some status) =>
            let endTime ← call .getTimestamp
            let () ← call (.updateExecution (·.finished status endTime))
            let () ← call (.setProcess none)
            let lastExecution ← call .execution
            return .ok ⟨"exited", none, lastExecution⟩
        | .ok none =>
            let lastExecution ← call .execution
            return .ok ⟨"running", child.id, lastExecution⟩
        | .error e =>
            let () ← call (.setProcess none)
            let lastExecution ← call .execution
            return .ok ⟨"error: " ++ e, none, lastExecution⟩
    | none =>
        let lastExecution ← call .execution
        return .ok ⟨"not_running", none, lastExecution⟩

/-- `get_metrics`, with the pid whose metrics are added to those of the system. -/
def getMetrics : EngineProgram (Option UInt32) :=
  withMutex .scriptProcess do
    let child ← call .process
    return child.bind Child.id

/-- `get_env`, with the child that is asked for its environment. -/
def getEnv : EngineProgram (Except ErrorResponse Child) :=
  withMutex .scriptProcess do
    match ← call .process with
    | some child => return .ok child
    | none => return .error ⟨"No process running"⟩

/-- `restart_script`: the result of the stop is not looked at, and the guards are dropped before the
sleep. -/
def restartScript (params : ScriptParams) : EngineProgram HttpResponse := do
  let _ ← stopScript
  let () ← await
  startScript params

end Handler

/-! ## Requests -/

/-- The requests to the engine. -/
inductive EngineRequest where
  | start (params : ScriptParams)
  | stop
  | status
  | metrics
  | env
  | restart (params : ScriptParams)

/-- The program of a request; no handler looks at the answer. -/
def EngineRequest.program : EngineRequest → EngineProgram Unit
  | .start params => do let _ ← Handler.startScript params
  | .stop => do let _ ← Handler.stopScript
  | .status => do let _ ← Handler.getStatus
  | .metrics => do let _ ← Handler.getMetrics
  | .env => do let _ ← Handler.getEnv
  | .restart params => do let _ ← Handler.restartScript params

/-! ## Handlers that run alone -/

namespace Host

/-- The process at hand has ended, if it was running. -/
def endsAtHand (exits : Option ExitStatus) (h : Host) : Host :=
  match h.app.scriptProcess with
  | some child => h.killProcessTree child.process exits
  | none => h

/-- A new process that ends before it is looked at is one that has ended. -/
theorem killProcessTree_spawn (h : Host) (params : ScriptParams) (pid : UInt32)
    (exits : Option ExitStatus) :
    (h.spawn params pid none).2.killProcessTree h.processes.length exits =
      (h.spawn params pid exits).2 := by
  cases exits with
  | none => rfl
  | some status =>
      have last : h.processes.length < (h.processes ++ [(⟨pid, params.envVars,
          params.scriptPath.getD "launch.sh", none⟩ : Process)]).length := by
        rw [List.length_append]
        exact Nat.lt_succ_self _
      rw [killProcessTree, finish, spawn, spawn, List.modify_eq_take_cons_drop last]
      simp

end Host

namespace Handler

variable {α : Type} {h : Host} {choices : Nat → OsChoice}

/-- The answer and the engine after a handler that runs alone. -/
def serve (p : EngineProgram α) (choices : Nat → OsChoice) (h : Host) : α × Host :=
  ((p.run Host.act.alone choices h).value, (p.run Host.act.alone choices h).state)

theorem serve_op_bind (q : WorkerOp AppMutex EngineOp)
    (f : q.Answer EngineOp.Answer → EngineProgram α) :
    serve (op q >>= f) choices h =
      serve (f (Host.act.alone q (choices 0) h).1) (fun n => choices (n + 1))
        (Host.act.alone q (choices 0) h).2 := rfl

/-- A scope answers what its body answers, and changes nothing else. -/
theorem serve_withMutex (l : AppMutex) (body : EngineProgram α) :
    serve (withMutex l body) choices h = serve body (fun n => choices (n + 1)) h := by
  rw [withMutex, serve_op_bind, serve, run_bind]
  rfl

section Operations

variable (f : Unit → EngineProgram α)

theorem serve_process (f : Option Child → EngineProgram α) :
    serve (call .process >>= f) choices h =
      serve (f h.app.scriptProcess) (fun n => choices (n + 1)) h := rfl

theorem serve_setProcess (child : Option Child) :
    serve (call (.setProcess child) >>= f) choices h =
      serve (f ()) (fun n => choices (n + 1)) (h.setProcess child) := rfl

theorem serve_getTimestamp (f : Timestamp → EngineProgram α) :
    serve (call .getTimestamp >>= f) choices h =
      serve (f (choices 0).now) (fun n => choices (n + 1)) h := rfl

theorem serve_await :
    serve (await >>= f) choices h = serve (f ()) (fun n => choices (n + 1)) h := rfl

theorem serve_tryWait (child : Child)
    (f : Except String (Option ExitStatus) → EngineProgram α) :
    serve (call (.tryWait child) >>= f) choices h =
      serve (f ((h.killProcessTree child.process (choices 0).exits).tryWait child (choices 0).error))
        (fun n => choices (n + 1)) (h.killProcessTree child.process (choices 0).exits) := rfl

end Operations

/-- **A stop that runs alone** computes the stop of the engine. -/
theorem serve_stopScript : serve stopScript choices h = h.stopScript
    { exits := (choices 6).exits, waitError := (choices 6).error, endTime := (choices 7).now } := by
  rw [stopScript, serve_withMutex, serve_withMutex, serve_process, Host.stopScript]
  cases h.app.scriptProcess with
  | none => rfl
  | some child =>
      simp only
      rw [serve_setProcess]
      cases child.id with
      | none => rfl
      | some pid =>
          simp only
          rw [serve_await, serve_await, serve_tryWait]
          cases Host.tryWait _ child (choices 6).error with
          | error e => rfl
          | ok found =>
              cases found with
              | none => rfl
              | some status => rfl

/-- **A status request that runs alone** computes the status request of the engine. -/
theorem serve_getStatus : serve getStatus choices h =
    (h.endsAtHand (choices 3).exits).getStatus
      { checkError := (choices 3).error, endTime := (choices 4).now } := by
  rw [getStatus, serve_withMutex, serve_withMutex, serve_process, Host.getStatus, Host.endsAtHand]
  cases held : h.app.scriptProcess with
  | none =>
      simp only [held]
      rfl
  | some child =>
      have same : (h.killProcessTree child.process (choices 3).exits).app.scriptProcess =
          some child := by
        rw [Host.app_killProcessTree, held]
      simp only [same]
      rw [serve_tryWait]
      cases Host.tryWait _ child (choices 3).error with
      | error e => rfl
      | ok found =>
          cases found with
          | none => rfl
          | some status => rfl

/-- What the operating system decides in the end of a start. -/
def startOutcome (checkError : Option String) (choices : Nat → OsChoice) : StartOutcome where
  checkError := checkError
  spawned := (choices 0).spawned
  startTime := (choices 1).now
  exits := (choices 2).exits
  recheckError := (choices 2).error
  endTime := (choices 3).now

@[simp] theorem checkError_startOutcome (checkError : Option String) (choices : Nat → OsChoice) :
    (startOutcome checkError choices).checkError = checkError := rfl

theorem serve_spawnScript (params : ScriptParams) (checkError : Option String) :
    serve (spawnScript params) choices h =
      h.spawnScript params (startOutcome checkError choices) := by
  rw [spawnScript, call, serve_op_bind, Host.spawnScript, startOutcome]
  simp only [Interface.alone, Host.act]
  cases (choices 0).spawned with
  | error e => rfl
  | ok pid =>
      simp only
      rw [serve_getTimestamp, serve_tryWait]
      have ended : (h.spawn params pid none).2.killProcessTree (h.spawn params pid none).1.process
          (choices (0 + 1 + 1)).exits = (h.spawn params pid (choices 2).exits).2 :=
        h.killProcessTree_spawn params pid _
      rw [ended]
      simp only [Host.spawn]
      cases Host.tryWait _ _ (choices (0 + 1 + 1)).error with
      | error e => rfl
      | ok found =>
          cases found with
          | none => rfl
          | some status => rfl

/-- **A start that runs alone** computes the start of the engine. -/
theorem serve_startScript (params : ScriptParams) : serve (startScript params) choices h =
    (h.endsAtHand (choices 2).exits).startScript params
      (startOutcome (choices 2).error fun n =>
        choices (n + if h.app.scriptProcess.isSome then 4 else 2)) := by
  rw [startScript, serve_withMutex, serve_process, Host.startScript, Host.endsAtHand]
  cases held : h.app.scriptProcess with
  | none =>
      simp only [held]
      exact serve_spawnScript params _
  | some child =>
      have same : (h.killProcessTree child.process (choices 2).exits).app.scriptProcess =
          some child := by
        rw [Host.app_killProcessTree, held]
      simp only [same, checkError_startOutcome]
      rw [serve_tryWait]
      cases Host.tryWait _ child (choices 2).error with
      | error e =>
          simp only
          rw [serve_setProcess]
          exact serve_spawnScript params _
      | ok found =>
          cases found with
          | none => rfl
          | some status =>
              simp only
              rw [serve_setProcess]
              exact serve_spawnScript params _

end Handler

end C4D
