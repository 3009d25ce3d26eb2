import C4D.Engine.Types
import C4D.Foundations.Json

/-!
# The answers of the engine as JSON

The serializers that the source derives: an object with one entry for each field,
in the order of the fields, and `null` for an absent value. A hash map is written
in some order; the order of the entries of a table stands for it.
-/

set_option autoImplicit false

namespace C4D

open Foundations

def Timestamp.toJson (t : Timestamp) : Json := .int t.secs

def ExecutionInfo.toJson (e : ExecutionInfo) : Json := .obj [
  ("start_time", e.startTime.toJson),
  ("end_time", .ofOption Timestamp.toJson e.endTime),
  ("exit_code", .ofOption (fun n => .int n.toInt) e.exitCode),
  ("exit_signal", .ofOption (fun n => .int n.toInt) e.exitSignal),
  ("pid", .ofOption (fun n => .int n.toNat) e.pid),
  ("env_vars", .ofOption .ofTable e.envVars),
  ("script_path", .str e.scriptPath)]

def StatusResponse.toJson (r : StatusResponse) : Json := .obj [
  ("current_status", .str r.currentStatus),
  ("current_pid", .ofOption (fun n => .int n.toNat) r.currentPid),
  ("last_execution", .ofOption ExecutionInfo.toJson r.lastExecution)]

def ErrorResponse.toJson (r : ErrorResponse) : Json := .obj [("error", .str r.error)]

namespace HttpResponse

/-- The status code of an answer. -/
def statusCode : HttpResponse → Nat
  | .ok _ => 200
  | .badRequest _ => 400
  | .internalServerError _ => 500

/-- The body of an answer. -/
def body : HttpResponse → Json
  | .ok r => r.toJson
  | .badRequest r => r.toJson
  | .internalServerError r => r.toJson

end HttpResponse

end C4D
