import C4D.Engine.Encoding
import C4D.Engine.SingleProcess

/-!
# The status of the engine as the monitor reads it

`AgentStatus` declares the exit signal as a string, and the engine writes it as a
number. So the monitor can read the status of the engine, with all fields equal,
exactly when no execution that was killed by a signal is recorded
(`readable_iff`). The other fields agree in every combination of present and
absent values.
-/

set_option autoImplicit false

namespace C4D

open Foundations

/-! ## The monitor's type -/

/-- `LastExecution` of `AgentStatus` -/
structure LastExecution where
  startTime : Int := 0
  endTime : Option Int := none
  exitCode : Option Int := none
  exitSignal : Option String := none
  pid : Int := 0
  envVars : Option Env := none
  scriptPath : String := ""

structure AgentStatus where
  currentStatus : String := ""
  currentPID : Int := 0
  lastExecution : LastExecution := {}

open Decoder

def LastExecution.decoder : Decoder LastExecution := record [
  field "start_time" int64 (·.startTime) fun e v => { e with startTime := v },
  field "end_time" (pointer 0 int64) (·.endTime) fun e v => { e with endTime := v },
  field "exit_code" (pointer 0 int64) (·.exitCode) fun e v => { e with exitCode := v },
  field "exit_signal" (pointer "" string) (·.exitSignal) fun e v => { e with exitSignal := v },
  field "pid" int64 (·.pid) fun e v => { e with pid := v },
  field "env_vars" stringMap (·.envVars) fun e v => { e with envVars := v },
  field "script_path" string (·.scriptPath) fun e v => { e with scriptPath := v }]

def AgentStatus.decoder : Decoder AgentStatus := record [
  field "current_status" string (·.currentStatus) fun a v => { a with currentStatus := v },
  field "current_pid" int64 (·.currentPID) fun a v => { a with currentPID := v },
  field "last_execution" LastExecution.decoder (·.lastExecution) fun a v =>
    { a with lastExecution := v }]

/-- The decoding of an answer into a fresh `AgentStatus`; `none` is an error. -/
def AgentStatus.decode (body : Json) : Option AgentStatus := AgentStatus.decoder {} body

/-! ## What is read -/

/-- The record that is read from an execution without a signal. -/
def ExecutionInfo.read (e : ExecutionInfo) : LastExecution where
  startTime := e.startTime.secs
  endTime := e.endTime.map fun t => (t.secs : Int)
  exitCode := e.exitCode.map Int32.toInt
  exitSignal := none
  pid := (e.pid.map fun n => (n.toNat : Int)).getD 0
  envVars := e.envVars.map Table.reread
  scriptPath := e.scriptPath

theorem Timestamp.int64_toJson (t : Timestamp) (current : Int) :
    Decoder.int64 current t.toJson = some (t.secs : Int) := by
  have bound := t.bound
  exact Decoder.int64_int (by omega) (by omega) current

theorem int64_int32 (n : Int32) (current : Int) :
    Decoder.int64 current (.int n.toInt) = some n.toInt := by
  have lower := n.le_toInt
  have upper := n.toInt_lt
  exact Decoder.int64_int (by omega) (by omega) current

theorem int64_pid (pid : Option UInt32) (current : Int) :
    Decoder.int64 current (.ofOption (fun n => .int n.toNat) pid) =
      some ((pid.map fun n => (n.toNat : Int)).getD current) := by
  cases pid with
  | none => rfl
  | some n =>
      have upper := n.toNat_lt
      exact Decoder.int64_int (by omega) (by omega) current

/-- The decoding of an execution fails at a signal and nowhere else. -/
theorem ExecutionInfo.decode_toJson (e : ExecutionInfo) :
    LastExecution.decoder {} e.toJson =
      match e.exitSignal with
      | none => some e.read
      | some _ => none := by
  rw [LastExecution.decoder, ExecutionInfo.toJson, record]
  apply (decodeFields_cons rfl (e.startTime.int64_toJson _)).trans
  refine (decodeFields_cons rfl (pointer_ofOption (fun _ => Json.noConfusion)
    (fun t => t.int64_toJson _) e.endTime)).trans ?_
  refine (decodeFields_cons rfl (pointer_ofOption (fun _ => Json.noConfusion)
    (fun n => int64_int32 n _) e.exitCode)).trans ?_
  cases e.exitSignal with
  | some n => exact decodeFields_refused rfl rfl
  | none =>
      apply (decodeFields_cons rfl (pointer_null "" string _)).trans
      apply (decodeFields_cons rfl (int64_pid e.pid _)).trans
      apply (decodeFields_cons rfl (stringMap_ofOption e.envVars)).trans
      exact (decodeFields_cons rfl (string_str _ e.scriptPath)).trans rfl

/-- What is read from an answer that records no signal. -/
def StatusResponse.read (r : StatusResponse) : AgentStatus where
  currentStatus := r.currentStatus
  currentPID := (r.currentPid.map fun n => (n.toNat : Int)).getD 0
  lastExecution := (r.lastExecution.map ExecutionInfo.read).getD {}

/-- The answer records an execution that was killed by a signal. -/
def StatusResponse.Signaled (r : StatusResponse) : Prop :=
  ∃ e ∈ r.lastExecution, e.exitSignal ≠ none

instance (r : StatusResponse) : Decidable r.Signaled :=
  inferInstanceAs (Decidable (∃ e ∈ _, _))

/-- **The decoding of an answer** fails at a recorded signal and nowhere else. -/
theorem StatusResponse.decode_toJson (r : StatusResponse) :
    AgentStatus.decode r.toJson = if r.Signaled then none else some r.read := by
  rw [AgentStatus.decode, AgentStatus.decoder, StatusResponse.toJson, record]
  apply (decodeFields_cons rfl (string_str _ r.currentStatus)).trans
  apply (decodeFields_cons rfl (int64_pid r.currentPid _)).trans
  cases last : r.lastExecution with
  | none =>
      have unsignaled : ¬ r.Signaled := by
        rintro ⟨e, mem, _⟩
        rw [last] at mem
        cases mem
      rw [if_neg unsignaled, read, last]
      exact (decodeFields_cons rfl (record_null _ _)).trans rfl
  | some e =>
      have decodes := e.decode_toJson
      cases signal : e.exitSignal with
      | none =>
          have unsignaled : ¬ r.Signaled := by
            rintro ⟨other, mem, signaled⟩
            rw [last] at mem
            cases mem
            exact signaled signal
          rw [signal] at decodes
          rw [if_neg unsignaled, read, last]
          exact Eq.trans (decodeFields_cons rfl decodes) rfl
      | some n =>
          have signaled : r.Signaled := by
            refine ⟨e, last, ?_⟩
            rw [signal]
            exact Option.some_ne_none n
          rw [signal] at decodes
          rw [if_pos signaled]
          exact Eq.trans (decodeFields_refused rfl decodes) rfl

/-! ## Agreement -/

/-- The decoded status has the current status, the times, the exit code, the exit signal and the
environment of the answer, or the zero record if nothing was executed. -/
def StatusResponse.ReadAs (r : StatusResponse) (a : AgentStatus) : Prop :=
  a.currentStatus = r.currentStatus ∧
    match r.lastExecution with
    | none => a.lastExecution = {}
    | some e =>
        a.lastExecution.startTime = e.startTime.secs ∧
        a.lastExecution.endTime = e.endTime.map (fun t => (t.secs : Int)) ∧
        a.lastExecution.exitCode = e.exitCode.map Int32.toInt ∧
        a.lastExecution.exitSignal = e.exitSignal.map (fun n => toString n.toInt) ∧
        a.lastExecution.envVars.map (fun t k => t.lookup k) = e.envVars.map (fun t k => t.lookup k)

/-- **When the monitor can read the status**: when it records no signal. -/
theorem readable_iff (r : StatusResponse) :
    (∃ a, AgentStatus.decode r.toJson = some a ∧ r.ReadAs a) ↔ ¬ r.Signaled := by
  rw [r.decode_toJson]
  constructor
  · rintro ⟨a, decodes, _⟩ signaled
    rw [if_pos signaled] at decodes
    cases decodes
  intro unsignaled
  refine ⟨r.read, if_neg unsignaled, rfl, ?_⟩
  cases last : r.lastExecution with
  | none =>
      rw [StatusResponse.read, last]
      rfl
  | some e =>
      have quiet : e.exitSignal = none := by
        by_contra signal
        exact unsignaled ⟨e, last, signal⟩
      have read : r.read.lastExecution = e.read := by
        rw [StatusResponse.read, last]
        rfl
      rw [read]
      refine ⟨rfl, rfl, rfl, ?_, ?_⟩
      · rw [quiet]
        rfl
      · rw [ExecutionInfo.read, Option.map_map]
        congr 1
        funext t k
        exact t.lookup_reread k

/-- The answer is a status that records a signal. -/
def HttpResponse.signaled : HttpResponse → Bool
  | .ok r => r.Signaled
  | .badRequest _ => false
  | .internalServerError _ => false

/-- A process is killed by a signal, and the monitor cannot read the next status. -/
theorem killed_unreadable :
    ∃ h r, engine.Reachable h ∧ (h.getStatus { endTime := .epoch }).1 = .ok r ∧
      ¬ ∃ a, AgentStatus.decode r.toJson = some a ∧ r.ReadAs a := by
  obtain ⟨h, reachable, holds⟩ := System.exists_reachable (S := engine)
    [launch 7, .exit 0 (.signaled SIGKILL)]
    (fun h => (h.getStatus { endTime := .epoch }).1.signaled) rfl (by decide +kernel)
  cases answer : (h.getStatus { endTime := .epoch }).1 with
  | ok r =>
      rw [answer] at holds
      exact ⟨h, r, reachable, answer, fun read => (readable_iff r).mp read (of_decide_eq_true holds)⟩
  | badRequest e => rw [answer] at holds; cases holds
  | internalServerError e => rw [answer] at holds; cases holds

end C4D
