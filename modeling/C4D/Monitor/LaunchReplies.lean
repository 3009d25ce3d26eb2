import C4D.Monitor.Entered
import C4D.Monitor.FailedFinal
import C4D.Monitor.RestartRoutes

/-!
# The answer behind `Running`

Three handlers set the state to `Running`. A start and a restart by command do so after a
start of the engine that was answered "started": the start attempts look at the answer. A
restart by configuration does so after the engine's own restart, whose answer only has to
be decoded. So a handler that sets `Running` has been answered "started" exactly if no
restart of the engine was answered with another status in the same request
(`started_iff`), however the requests and the goroutines of the monitor interleave.
-/

set_option autoImplicit false

namespace C4D

open Foundations Program

/-! ## Answers of the engine -/

/-- The status of an answer that is accepted. -/
def AgentReply.status (reply : AgentReply) : Option String :=
  match reply.result AgentStatus.decode with
  | .ok status => some status.currentStatus
  | .error _ => none

/-- The engine has answered a start or a restart with the status "started". -/
def startsAgent : MonitorEvent → Bool
  | ⟨.callAgent (.start _), reply⟩ => reply.status = some "started"
  | ⟨.callAgent (.restart _), reply⟩ => reply.status = some "started"
  | _ => false

/-- The engine has answered a restart with another status. -/
def startsNothing : MonitorEvent → Bool
  | ⟨.callAgent (.restart _), reply⟩ => reply.status ≠ none && reply.status ≠ some "started"
  | _ => false

/-- The engine was asked to restart. -/
def asksRestart : MonitorEvent → Bool
  | ⟨.callAgent (.restart _), _⟩ => true
  | _ => false

/-- A program sets `Running` after a trace in which the engine has started the process, exactly if no
restart was answered with another status. -/
def Launching (t : MonitorTrace) (q : MonitorOp) : Prop :=
  q.sets = some .running → (t.any startsAgent = true ↔ t.any startsNothing = false)

/-! ## The programs of the monitor -/

section Programs

variable {α : Type} {t : MonitorTrace}

theorem launching_of_quiet {q : MonitorOp} (quiet : decide (q.sets = some .running) = false) :
    Launching t q :=
  fun sets => absurd sets (of_decide_eq_false quiet)

/-- The engine was asked to start, and not to restart. -/
structure Started (t : MonitorTrace) : Prop where
  starts : t.any startsAgent = true
  unasked : t.any asksRestart = false

theorem startsNothing_of_unasked (unasked : t.any asksRestart = false) :
    t.any startsNothing = false := by
  rw [List.any_eq_false] at unasked ⊢
  intro e mem
  have unasked := unasked e mem
  rcases e with ⟨q, answer⟩
  cases q with
  | callAgent request =>
      cases request with
      | restart envVars => exact absurd rfl unasked
      | _ => exact Bool.false_ne_true
  | _ => exact Bool.false_ne_true

theorem unasked_concat (unasked : t.any asksRestart = false) {e : MonitorEvent}
    (other : asksRestart e = false) : List.any (t ++ [e]) asksRestart = false := by
  rw [List.any_append, unasked, List.any_cons, other]
  rfl

theorem Started.launching (started : Started t) (q : MonitorOp) : Launching t q := fun _ =>
  iff_of_true started.starts (startsNothing_of_unasked started.unasked)

namespace Monitor

/-- **The start attempts succeed after the answer "started".** -/
theorem along_startAttempts (envVars : Option Env) (left : Nat) (lastErr : Option AgentError)
    (unasked : t.any asksRestart = false) :
    Along Launching (fun t r => r = .ok () → Started t) t (startAttempts envVars left lastErr) := by
  induction left generalizing t lastErr with
  | zero =>
      intro refused
      cases refused
  | succ left ih =>
      rw [startAttempts]
      simp only [callAgentEndpoint, callAgent, op_bind, perform_bind, pure_eq, done_bind,
        along_perform]
      refine ⟨launching_of_quiet rfl, ?_⟩
      intro reply
      have unasked' : List.any (t ++ [⟨.callAgent (.start envVars), reply⟩]) asksRestart = false :=
        unasked_concat unasked rfl
      cases result : reply.result AgentStatus.decode with
      | ok status =>
          by_cases started : status.currentStatus = "started"
          · simp only [started, ne_eq, not_true_eq_false, if_false, along_done]
            intro _
            refine ⟨?_, unasked'⟩
            simp [startsAgent, AgentReply.status, result, started]
          · simp only [started, ne_eq, not_false_eq_true, if_true]
            exact ih (some .agentFailed) unasked'
      | error err =>
          by_cases busy : err.mentions "A process is already running"
          · simp only [busy, if_true, along_perform]
            refine ⟨launching_of_quiet rfl, ?_⟩
            intro stopped
            cases stopped.result discard with
            | error e =>
                intro refused
                cases refused
            | ok _ => exact ih (some err) (unasked_concat unasked' rfl)
          · simp only [busy, Bool.false_eq_true, if_false]
            exact ih (some err) unasked'

theorem along_startAgent (envVars : Option Env) (unasked : t.any asksRestart = false) :
    Along Launching (fun t r => r = .ok () → Started t) t (startAgent envVars) := by
  rw [startAgent]
  simp only [getState, op_bind, pure_eq, along_perform]
  refine ⟨launching_of_quiet rfl, ?_⟩
  intro currentState
  split
  · intro refused
    cases refused
  · exact along_startAttempts envVars 5 none (unasked_concat unasked rfl)

/-- What follows a start of the engine in the two commands. -/
theorem along_afterStart {β : Type} (r : Except AgentError Unit) (started : r = .ok () → Started t)
    (refused : AgentError → β) (accepted : β) :
    Along Launching (fun _ _ => True) t
      (match r with
      | .error err => setState .failed >>= fun _ => pure (refused err)
      | .ok _ => setState .running >>= fun _ => pure accepted) := by
  cases r with
  | error err => exact ⟨launching_of_quiet rfl, fun _ => trivial⟩
  | ok _ => exact ⟨(started rfl).launching _, fun _ => trivial⟩

theorem along_commandStart (envVars : Option Env) :
    Along Launching (fun _ _ => True) [] (commandStart envVars) := by
  rw [commandStart]
  simp only [getState, op_bind, pure_eq, along_perform]
  refine ⟨launching_of_quiet rfl, ?_⟩
  intro currentState
  split
  · trivial
  · apply (along_startAgent envVars rfl).bind
    exact fun t r started => along_afterStart r started _ _

theorem along_stopAgent (unasked : t.any asksRestart = false) :
    Along Launching (fun t _ => t.any asksRestart = false) t stopAgent := by
  rw [stopAgent]
  simp only [getState, callAgentEndpoint, callAgent, op_bind, perform_bind, pure_eq, done_bind,
    along_perform]
  refine ⟨launching_of_quiet rfl, ?_⟩
  intro currentState
  split
  · exact unasked_concat unasked rfl
  · refine ⟨launching_of_quiet rfl, ?_⟩
    intro reply
    have unasked' := unasked_concat (unasked_concat unasked (e := ⟨.getState, currentState⟩) rfl)
      (e := ⟨.callAgent .stop, reply⟩) rfl
    beta_reduce
    split
    · exact unasked'
    · exact unasked'

theorem along_commandStartAgain (envVars : Option Env) (unasked : t.any asksRestart = false) :
    Along Launching (fun _ _ => True) t (commandStartAgain envVars) :=
  (along_startAgent envVars unasked).bind fun _ r started => along_afterStart r started _ _

theorem along_commandRestart (envVars : Option Env) :
    Along Launching (fun _ _ => True) [] (commandRestart envVars) := by
  rw [commandRestart]
  simp only [getState, setState, op_bind, pure_eq, along_perform]
  refine ⟨launching_of_quiet rfl, ?_⟩
  intro currentState
  split
  · trivial
  · refine ⟨launching_of_quiet rfl, ?_⟩
    intro _
    split
    · apply (along_stopAgent rfl).bind
      intro t r unasked
      cases r with
      | error err => exact ⟨launching_of_quiet rfl, fun _ => trivial⟩
      | ok _ => exact along_commandStartAgain envVars unasked
    · exact along_commandStartAgain envVars rfl

/-- **A restart by configuration** sets `Running` after any answer that is accepted. -/
theorem along_handleRestart (getenv : String → String) (config : Option RestartConfig) :
    Along Launching (fun _ _ => True) [] (handleRestart getenv config) := by
  simp only [handleRestart, getState, setState, setConfig, restartAgent, callAgentEndpoint, callAgent, op_bind,
    perform_bind, pure_eq, done_bind, along_perform]
  refine ⟨launching_of_quiet rfl, ?_⟩
  intro currentState
  split
  · trivial
  cases config with
  | none => trivial
  | some config =>
      refine ⟨launching_of_quiet rfl, fun _ => ⟨launching_of_quiet rfl, fun _ =>
        ⟨launching_of_quiet rfl, ?_⟩⟩⟩
      intro reply
      beta_reduce
      cases result : AgentReply.result AgentStatus.decode reply with
      | error err => exact ⟨launching_of_quiet rfl, fun _ => trivial⟩
      | ok status =>
          refine ⟨fun _ => ?_, fun _ => trivial⟩
          simp [startsAgent, startsNothing, AgentReply.status, result]

end Monitor

/-- **Along every task of the monitor**, `Running` is set after the engine has started the process,
exactly if no restart was answered with another status. -/
theorem MonitorTask.along (getenv : String → String) (task : MonitorTask) :
    Along Launching (fun _ _ => True) [] (task.program getenv) := by
  have ended {β : Type} {p : MonitorProgram β} (along : Along Launching (fun _ _ => True) [] p) :
      Along Launching (fun _ _ => True) [] (p >>= fun _ => pure ()) := along.bind fun _ _ _ => trivial
  have other (never : Monitor.State.running ∉ task.enters) :
      Along Launching (fun _ _ => True) [] (task.program getenv) :=
    (task.enters_program getenv).along fun _ _ sets =>
      launching_of_quiet (decide_eq_false fun runs => never (sets _ runs))
  cases task with
  | command cmd =>
      cases cmd with
      | none => trivial
      | some cmd =>
          apply ended
          rw [Monitor.handleCommand]
          split
          · exact Monitor.along_commandStart cmd.envVars
          split
          · exact Monitor.enters_commandStop.along fun _ _ sets =>
              launching_of_quiet (decide_eq_false fun runs => absurd (sets _ runs) (by decide))
          split
          · exact Monitor.along_commandRestart cmd.envVars
          · trivial
  | restart config => exact ended (Monitor.along_handleRestart getenv config)
  | logCCL log => exact other List.not_mem_nil
  | _ => exact other (by decide)

end Programs

/-! ## Runs -/

/-- All interleavings of the monitor's threads, each with the trace of its task. -/
def tracedMonitor (getenv : String → String) :
    System (Threads Nat (MonitorProgram Unit × MonitorTrace) Monitor) MonitorMove :=
  recordedTasks Monitor.act (MonitorTask.program getenv) Monitor.Fresh

/-- **When `Running` means that a process was started.** A request that is about to set the state to
`Running` was answered "started" by the engine, exactly if the engine has not answered a restart
in it with another status. -/
theorem started_iff {getenv : String → String}
    {c : Threads Nat (MonitorProgram Unit × MonitorTrace) Monitor}
    (reachable : (tracedMonitor getenv).Reachable c) (i : Nat)
    (sets : setsNext (c.point i).1 = some .running) :
    (c.point i).2.any startsAgent = true ↔ (c.point i).2.any startsNothing = false := by
  have along := along_of_reachable (MonitorTask.along getenv) reachable i
  cases here : (c.point i).1 with
  | done _ =>
      rw [here] at sets
      cases sets
  | perform q next =>
      rw [here] at along sets
      exact along.1 sets

/-- Thread 0 does the first operations of a task. -/
def performing (task : MonitorTask) (outcomes : List Outcome) : List MonitorMove :=
  (0, .begin task) :: outcomes.map fun o => (0, .go o)

/-- A start by command, after the engine has answered "started". -/
theorem started_launched : ∃ c, (tracedMonitor fun _ => "").Reachable c ∧
    setsNext (c.point 0).1 = some .running ∧ (c.point 0).2.any startsAgent = true := by
  obtain ⟨c, reachable, holds⟩ := System.exists_reachable (S := tracedMonitor fun _ => "")
    (performing .start (List.replicate 4 {}) ++
      performing (.command (some ⟨"start", none⟩)) (List.replicate 3 engineRunning))
    (fun c => setsNext (c.point 0).1 = some .running && !(c.point 0).2.any startsNothing)
    (s := ⟨Monitor.new "a.ns.1" "http://a.ns:1" 0 3, fun _ => (.done (), [])⟩)
    ⟨⟨_, _, _, _, rfl⟩, fun _ => rfl⟩ (by decide +kernel)
  simp only [Bool.and_eq_true, decide_eq_true_eq, Bool.not_eq_true'] at holds
  exact ⟨c, reachable, holds.1, (started_iff reachable 0 holds.1).mpr holds.2⟩

/-- The answer of the engine to a restart whose process exits at once. -/
def exitedAtOnce : Outcome where
  agent := (Host.new.answer { RouteChoice.healthy with start := { RouteChoice.healthy.start with
    exits := some (.exited 1) } } (.restart none)).1

/-- A restart by configuration sets `Running` after the engine has answered "exited". -/
theorem running_exited : exitedAtOnce.agent.status = some "exited" ∧
    ∃ c, (tracedMonitor fun _ => "").Reachable c ∧ setsNext (c.point 0).1 = some .running ∧
      (c.point 0).2.any startsNothing = true ∧ (c.point 0).2.any startsAgent = false := by
  refine ⟨by decide +kernel, ?_⟩
  obtain ⟨c, reachable, holds⟩ := System.exists_reachable (S := tracedMonitor fun _ => "")
    (performing .start (List.replicate 4 {}) ++
      performing (.restart (some ⟨0, 3⟩)) [{}, {}, {}, exitedAtOnce])
    (fun c => setsNext (c.point 0).1 = some .running && (c.point 0).2.any startsNothing &&
      !(c.point 0).2.any startsAgent)
    (s := ⟨Monitor.new "a.ns.1" "http://a.ns:1" 0 3, fun _ => (.done (), [])⟩)
    ⟨⟨_, _, _, _, rfl⟩, fun _ => rfl⟩ (by decide +kernel)
  simp only [Bool.and_eq_true, decide_eq_true_eq, Bool.not_eq_true'] at holds
  exact ⟨c, reachable, holds.1.1, holds.1.2, holds.2⟩

end C4D
