import C4D.Monitor.Handlers

/-!
# The detection of an abnormal exit

One turn of the metrics goroutine asks the engine for its status and moves the
monitor to `Failed` when the answer cannot be decoded or shows an exit code other
than zero. A death by signal is detected because its record cannot be decoded.

As long as the status checks and the waits of the engine neither fail nor time
out, the engine knows every process that is alive. Then a turn fails the monitor
exactly when the process started last ended abnormally (`failed_iff_abnormal`),
provided the end is still to be seen: a start that finds the process at hand
ended and cannot spawn the next one forgets it.
-/

set_option autoImplicit false

namespace C4D

open Foundations Program

/-! ## The verdict on an answer -/

/-- The answer fails the monitor. -/
def AgentReply.Alarms (reply : AgentReply) : Prop :=
  match reply.result AgentStatus.decode with
  | .error _ => True
  | .ok status => status.lastExecution.exitCode ≠ none ∧ status.lastExecution.exitCode ≠ some 0

/-- An answer of the engine as the monitor receives it. -/
def HttpResponse.reply (response : HttpResponse) : AgentReply :=
  .answered response.statusCode response.body

/-- The record shows a signal or an exit code other than zero. -/
def ExecutionInfo.Abnormal (e : ExecutionInfo) : Prop :=
  e.exitSignal ≠ none ∨ (e.exitCode ≠ none ∧ e.exitCode ≠ some 0)

theorem ExecutionInfo.exitCode_read_iff (e : ExecutionInfo) :
    (e.read.exitCode ≠ none ∧ e.read.exitCode ≠ some 0) ↔
      (e.exitCode ≠ none ∧ e.exitCode ≠ some 0) := by
  rw [ExecutionInfo.read]
  cases e.exitCode with
  | none => simp
  | some code =>
      have zero : code.toInt = 0 ↔ code = 0 := by
        rw [← Int32.toInt_inj]
        rfl
      simp [zero]

/-- A successful answer is decoded, unless it records a signal. -/
theorem result_ok (r : StatusResponse) : (HttpResponse.ok r).reply.result AgentStatus.decode =
    if r.Signaled then .error .decode else .ok r.read := by
  change AgentReply.result AgentStatus.decode (.answered 200 r.toJson) = _
  rw [AgentReply.result, if_neg (by decide), r.decode_toJson]
  by_cases signaled : r.Signaled
  · rw [if_pos signaled, if_pos signaled]
  · rw [if_neg signaled, if_neg signaled]

/-- **A successful answer alarms** exactly when the recorded execution ended abnormally. -/
theorem alarms_ok_iff (r : StatusResponse) :
    (HttpResponse.ok r).reply.Alarms ↔ ∃ e ∈ r.lastExecution, e.Abnormal := by
  have result := result_ok r
  rw [AgentReply.Alarms, result]
  by_cases signaled : r.Signaled
  · rw [if_pos signaled]
    obtain ⟨e, mem, signal⟩ := signaled
    exact iff_of_true trivial ⟨e, mem, .inl signal⟩
  · rw [if_neg signaled, StatusResponse.read]
    cases last : r.lastExecution with
    | none => simp
    | some e =>
        have quiet : ¬ e.exitSignal ≠ none := fun signal => signaled ⟨e, last, signal⟩
        refine e.exitCode_read_iff.trans ⟨fun code => ⟨e, rfl, .inr code⟩, ?_⟩
        rintro ⟨other, mem, abnormal⟩
        cases mem
        exact abnormal.resolve_left quiet

/-! ## A turn of the metrics goroutine -/

namespace Monitor

/-- Reporting metrics leaves the state alone. -/
theorem keeps_sendMetricsToServer (state : State) :
    Keeps Monitor.act (fun m : Monitor => m.state = state) sendMetricsToServer := by
  have report : Keeps Monitor.act (fun m : Monitor => m.state = state) sendReport :=
    .perform (fun _ _ same => same) fun _ => .perform (fun _ _ same => same) fun _ =>
      .perform (fun _ _ same => same) fun _ => .done _
  have sent : Keeps Monitor.act (fun m : Monitor => m.state = state)
      (sendReport >>= fun _ => .done ()) := .bind report fun _ => .done _
  refine .perform (fun _ _ same => same) fun current => .ite (fun _ => .done _) fun _ =>
    .perform (fun _ _ same => same) fun (metrics : Except AgentError AgentMetrics) => ?_
  rcases metrics with _ | ⟨_ | ⟨cpuUsage, ramUsage⟩⟩
  · exact Keeps.done ()
  · exact sent
  · exact Keeps.perform (fun _ _ same => same) fun _ => sent

variable {m : Monitor} {choices : Nat → Outcome} {reply : AgentReply}

/-- The end of a turn, once the engine has answered. -/
def judge (reply : AgentReply) : MonitorProgram Bool :=
  match reply.result AgentStatus.decode with
  | .error _ => do
      setState .failed
      return false
  | .ok status =>
      if status.lastExecution.exitCode ≠ none ∧ status.lastExecution.exitCode ≠ some 0 then do
        setState .failed
        return false
      else do
        sendMetricsToServer
        return true

theorem sendMetrics_eq : sendMetrics = .perform .getState fun currentState =>
    if currentState ≠ .running then .done false
    else sendMetricsToServer >>= fun _ => .perform (.callAgent .status) judge := rfl

theorem failed_judge_iff (running : m.state = .running) :
    ((judge reply).run Monitor.act choices m).state.state = .failed ↔ reply.Alarms := by
  rw [judge, AgentReply.Alarms]
  split
  · exact iff_of_true (state_enter .failed) trivial
  · next status =>
      split
      · next abnormal => exact iff_of_true (state_enter .failed) abnormal
      · next normal =>
          refine iff_of_false (fun failed => ?_) normal
          rw [run_bind] at failed
          have kept := keeps_sendMetricsToServer .running choices m running
          exact State.noConfusion (kept.symm.trans failed)

/-- **A turn of the metrics goroutine** fails a running monitor exactly when the answer alarms. -/
theorem failed_sendMetrics_iff (running : m.state = .running)
    (answer : ∀ n, (choices n).agent = reply) :
    (sendMetrics.run Monitor.act choices m).state.state = .failed ↔ reply.Alarms := by
  have goesOn : ¬ (Monitor.act .getState (choices 0) m).1 ≠ State.running := not_not.mpr running
  rw [sendMetrics_eq, run_perform, if_neg goesOn, run_bind, run_perform]
  obtain ⟨k, rest⟩ := rest_run (I := Monitor.act) sendMetricsToServer (fun n => choices (n + 1)) m
  have asked : ((sendMetricsToServer.run Monitor.act (fun n => choices (n + 1)) m).rest 0).agent =
      reply := by
    rw [rest]
    exact answer _
  rw [← asked]
  exact failed_judge_iff (keeps_sendMetricsToServer .running _ m running)

end Monitor

/-! ## What the engine answers -/

/-- The status checks and the waits of an action neither fail nor time out. -/
def Host.Undisturbed (h : Host) : EngineAction → Prop
  | .start _ os => os.checkError = none ∧ os.recheckError = none
  | .stop os => os.waitError = none ∧ (h.Busy → os.exits ≠ none)
  | .status os => os.checkError = none
  | .restart _ os => os.waitError = none ∧ (h.Busy → os.exits ≠ none)
  | .resume _ os => os.checkError = none ∧ os.recheckError = none
  | .exit _ _ => True

instance (h : Host) : (a : EngineAction) → Decidable (h.Undisturbed a)
  | .start _ _ => inferInstanceAs (Decidable (_ ∧ _))
  | .stop _ => inferInstanceAs (Decidable (_ ∧ (_ → _)))
  | .status _ => inferInstanceAs (Decidable (_ = _))
  | .restart _ _ => inferInstanceAs (Decidable (_ ∧ (_ → _)))
  | .resume _ _ => inferInstanceAs (Decidable (_ ∧ _))
  | .exit _ _ => inferInstanceAs (Decidable True)

/-- Nothing is lost while nothing fails. -/
theorem Host.not_losesChild_of_undisturbed {h : Host} {a : EngineAction} (fine : h.Undisturbed a) :
    ¬ h.LosesChild a := by
  have start {os : StartOutcome} (fine : os.checkError = none ∧ os.recheckError = none) :
      ¬ h.StartLoses os := by
    rintro (⟨_, fails⟩ | ⟨_, _, _, fails⟩)
    · exact fails fine.1
    · exact fails fine.2
  cases a with
  | start _ os => exact start fine
  | stop os => exact fun loses => fine.2 loses.1 loses.2
  | status os => exact fun loses => loses.2 fine
  | restart _ os => exact fun loses => fine.2 loses.1 loses.2
  | resume _ os => exact start fine
  | exit _ _ => exact id

/-- The process ended with an exit code other than zero or by a signal. -/
def Process.Abnormal (p : Process) : Prop :=
  (∃ code, p.status = some (.exited code) ∧ code ≠ 0) ∨ ∃ signal, p.status = some (.signaled signal)

/-- The process is alive, or the engine still holds its handle, or its end is recorded. -/
def Process.Visible (h : Host) (p : Process) : Prop :=
  p.status = none ∨ h.app.scriptProcess ≠ none ∨
    ∃ status ∈ p.status, ∃ e ∈ h.app.lastExecution,
      e.endTime ≠ none ∧ e.exitCode = status.code ∧ e.exitSignal = status.signal

section Status

variable {h : Host} {p : Process} {status : ExitStatus} {e : ExecutionInfo}

theorem Process.not_abnormal_of_alive (alive : p.status = none) : ¬ p.Abnormal := by
  rintro (⟨code, ended, _⟩ | ⟨signal, ended⟩) <;> rw [alive] at ended <;> cases ended

/-- A record with the exit status of a process is abnormal if the process is. -/
theorem ExecutionInfo.abnormal_iff (ended : p.status = some status)
    (code : e.exitCode = status.code) (signal : e.exitSignal = status.signal) :
    e.Abnormal ↔ p.Abnormal := by
  rw [ExecutionInfo.Abnormal, Process.Abnormal, code, signal, ended]
  cases status <;> simp [ExitStatus.code, ExitStatus.signal]

/-- **The answer to a status request** shows the verdict on the process started last. -/
theorem alarms_getStatus_iff (coherent : Coherent h) (tracked : Tracked h)
    (last : h.processes.getLast? = some p) (visible : p.Visible h) (endTime : Timestamp) :
    (h.getStatus { endTime }).1.reply.Alarms ↔ p.Abnormal := by
  have found : h.processes[h.processes.length - 1]? = some p := by
    rw [← List.getLast?_eq_getElem?, last]
  have statusLast : h.status (h.processes.length - 1) = p.status := by
    rw [Host.status, found, Option.bind_some]
  unfold Host.getStatus
  cases held : h.app.scriptProcess with
  | none =>
      apply (alarms_ok_iff _).trans
      rcases visible with alive | handle | ⟨status, ended, e, recorded, _, code, signal⟩
      · -- a process that is alive is at hand
        have bound := (List.getElem?_eq_some_iff.mp found).1
        have holds := tracked _ ⟨bound, statusLast.trans alive⟩
        rw [Host.Holds, held] at holds
        cases holds
      · exact absurd held handle
      · have same := ExecutionInfo.abnormal_iff ended code signal
        constructor
        · rintro ⟨other, mem, abnormal⟩
          obtain rfl : e = other := Option.some.inj (recorded.symm.trans mem)
          exact same.mp abnormal
        · exact fun abnormal => ⟨e, recorded, same.mpr abnormal⟩
  | some child =>
      obtain ⟨position, q, startTime, here, _, record⟩ := coherent child held
      have index : child.process = h.processes.length - 1 := by omega
      have ends : h.status child.process = p.status := by rw [index, statusLast]
      simp only [Host.tryWait, ends]
      cases state : p.status with
      | none =>
          refine (alarms_ok_iff _).trans (iff_of_false ?_ (Process.not_abnormal_of_alive state))
          rintro ⟨e, mem, abnormal⟩
          obtain rfl : q.info startTime = e := Option.some.inj (record.symm.trans mem)
          rcases abnormal with signal | ⟨code, _⟩
          · exact signal rfl
          · exact code rfl
      | some status =>
          apply (alarms_ok_iff _).trans
          have updated : (h.updateExecution (·.finished status endTime)).app.lastExecution =
              some ((q.info startTime).finished status endTime) := by
            change h.app.lastExecution.map _ = _
            rw [record, Option.map_some]
          have same : ((q.info startTime).finished status endTime).Abnormal ↔ p.Abnormal :=
            ExecutionInfo.abnormal_iff state rfl rfl
          constructor
          · rintro ⟨e, mem, abnormal⟩
            obtain rfl := Option.some.inj (updated.symm.trans mem)
            exact same.mp abnormal
          · exact fun abnormal => ⟨_, updated, same.mpr abnormal⟩

end Status

/-! ## Detection -/

/-- **Detection.** While no status check or wait of the engine fails or times out, a turn of the
metrics goroutine of a running monitor fails it exactly when the process started last ended with an
exit code other than zero or by a signal. -/
theorem failed_iff_abnormal {h : Host} {p : Process} {m : Monitor} {choices : Nat → Outcome}
    (run : engine.Run Host.Undisturbed h) (last : h.processes.getLast? = some p)
    (visible : p.Visible h) (endTime : Timestamp) (running : m.state = .running)
    (polled : ∀ n, (choices n).agent = (h.getStatus { endTime }).1.reply) :
    (Monitor.sendMetrics.run Monitor.act choices m).state.state = .failed ↔ p.Abnormal := by
  have tracked := tracked_of_run (run.mono fun h a => Host.not_losesChild_of_undisturbed)
  have coherent := coherent_of_reachable run.reachable
  rw [Monitor.failed_sendMetrics_iff running polled]
  exact alarms_getStatus_iff coherent tracked last visible endTime

/-- The training script exits with code 3, and the next turn fails the monitor. -/
theorem failed_after_crash :
    ∃ h p, engine.Run Host.Undisturbed h ∧ h.processes.getLast? = some p ∧ p.Visible h ∧
      ((Monitor.sendMetrics.run Monitor.act
        (fun _ => { agent := (h.getStatus { endTime := .epoch }).1.reply })
        ((Monitor.new "a.ns.1" "http://a.ns:1" 0 3).enter .running)).state.state = .failed) := by
  obtain ⟨h, run, ended⟩ := System.exists_run (S := engine) (C := Host.Undisturbed)
    (fun h a => h.Undisturbed a) [launch 7, .exit 0 (.exited 3)]
    (fun h => h.processes.length = 1 ∧ h.status 0 = some (.exited 3) ∧ h.Holds 0)
    (fun _ _ _ fine => of_decide_eq_true fine) rfl (by decide +kernel)
  obtain ⟨length, status, holds⟩ := of_decide_eq_true ended
  obtain ⟨p, found⟩ : ∃ p, h.processes[0]? = some p := ⟨_, List.getElem?_eq_getElem (by omega)⟩
  have last : h.processes.getLast? = some p := by
    rw [List.getLast?_eq_getElem?, length]
    exact found
  have visible : p.Visible h := by
    refine .inr (.inl fun empty => ?_)
    rw [Host.Holds, empty] at holds
    cases holds
  have abnormal : p.Abnormal := by
    rw [Host.status, found, Option.bind_some] at status
    exact .inl ⟨3, status, by decide⟩
  refine ⟨h, p, run, last, visible, ?_⟩
  exact (failed_iff_abnormal run last visible .epoch rfl fun _ => rfl).mpr abnormal

end C4D
