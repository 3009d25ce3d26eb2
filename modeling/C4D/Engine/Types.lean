import C4D.Foundations.Table
import C4D.Foundations.Transition

/-!
# The data of the compute engine

The engine keeps the handle of the training process it started last
(`script_process`) and the record of that execution (`last_execution`). `Host` is
the engine together with every process it has spawned, and with the restart
requests that are past their stop.

A time is a number of seconds since the epoch. It is a `u64` in the source and
comes from a system clock that keeps it in 64 bits with a sign.
-/

set_option autoImplicit false

namespace C4D

open Foundations

/-! ## Executions -/

/-- What `get_timestamp` returns. -/
structure Timestamp where
  secs : Nat
  bound : secs < 2 ^ 63
deriving DecidableEq

/-- The time zero. -/
def Timestamp.epoch : Timestamp := ⟨0, by decide⟩

/-- The environment variables of a request. -/
abbrev Env := Table String String

/-- How a process ended: the `ExitStatus` of the standard library. -/
inductive ExitStatus where
  | exited (code : Int32)
  | signaled (signal : Int32)
deriving DecidableEq

namespace ExitStatus

/-- `ExitStatus::code` -/
def code : ExitStatus → Option Int32
  | .exited code => some code
  | .signaled _ => none

/-- `ExitStatusExt::signal` -/
def signal : ExitStatus → Option Int32
  | .exited _ => none
  | .signaled signal => some signal

end ExitStatus

structure ExecutionInfo where
  startTime : Timestamp
  endTime : Option Timestamp
  exitCode : Option Int32
  exitSignal : Option Int32
  pid : Option UInt32
  envVars : Option Env
  scriptPath : String
deriving DecidableEq

structure ScriptParams where
  envVars : Option Env
  scriptPath : Option String
deriving DecidableEq

structure StatusResponse where
  currentStatus : String
  currentPid : Option UInt32
  lastExecution : Option ExecutionInfo
deriving DecidableEq

structure ErrorResponse where
  error : String
deriving DecidableEq

/-- The answer of a handler. -/
inductive HttpResponse where
  | ok (body : StatusResponse)
  | badRequest (body : ErrorResponse)
  | internalServerError (body : ErrorResponse)

/-- The record of an execution that ended with a status. -/
def ExecutionInfo.finished (status : ExitStatus) (endTime : Timestamp) (info : ExecutionInfo) :
    ExecutionInfo :=
  { info with endTime := some endTime, exitCode := status.code, exitSignal := status.signal }

/-- `SIGKILL` -/
def SIGKILL : Int32 := 9

/-- The record of an execution that outlived its kill. -/
def ExecutionInfo.abandoned (endTime : Timestamp) (info : ExecutionInfo) : ExecutionInfo :=
  { info with endTime := some endTime, exitSignal := some SIGKILL }

/-! ## The engine and its processes -/

/-- A `tokio::process::Child`: which process it is the handle of, and its pid until it has been
waited for. -/
structure Child where
  process : Nat
  id : Option UInt32
deriving DecidableEq

structure AppState where
  scriptProcess : Option Child
  lastExecution : Option ExecutionInfo

/-- A process the engine spawned, and how it ended. -/
structure Process where
  pid : UInt32
  envVars : Option Env
  scriptPath : String
  status : Option ExitStatus

/-- The engine, the processes it spawned, and the restarts between their stop and their start. -/
structure Host where
  app : AppState
  processes : List Process
  restarting : List ScriptParams

/-- `main`: nothing has been started. -/
def Host.new : Host where
  app := { scriptProcess := none, lastExecution := none }
  processes := []
  restarting := []

namespace Host

/-- How a process ended, if it did. -/
def status (h : Host) (process : Nat) : Option ExitStatus :=
  h.processes[process]?.bind Process.status

/-- The process was spawned and has not ended. -/
def Alive (h : Host) (process : Nat) : Prop :=
  process < h.processes.length ∧ h.status process = none

instance (h : Host) (process : Nat) : Decidable (h.Alive process) :=
  inferInstanceAs (Decidable (_ ∧ _))

/-- The process is the one in `script_process`. -/
def Holds (h : Host) (process : Nat) : Prop :=
  h.app.scriptProcess.map Child.process = some process

instance (h : Host) (process : Nat) : Decidable (h.Holds process) :=
  inferInstanceAs (Decidable (_ = _))

end Host

end C4D
