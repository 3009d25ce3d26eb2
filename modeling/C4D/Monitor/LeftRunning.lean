import C4D.Monitor.StandbyIdle

/-!
# Does a failed start leave a process running?

A start request may be served although its answer is lost. Then the engine runs a process
that the monitor does not know of. A later attempt that is answered finds it and has it
stopped; if no later attempt is, or the stop does not arrive, the start fails and the
process stays.
-/

set_option autoImplicit false

namespace C4D

open Foundations Program

namespace Host

variable {h : Host} {params : ScriptParams}

/-! ## The process at hand -/

/-- The process is at hand and alive. -/
def Runs (h : Host) (process : Nat) : Prop := h.Holds process ∧ h.Alive process

instance (h : Host) (process : Nat) : Decidable (h.Runs process) :=
  inferInstanceAs (Decidable (_ ∧ _))

/-- The process at hand is one that was spawned. -/
def Attached (h : Host) : Prop := ∀ child ∈ h.app.scriptProcess, child.process < h.processes.length

instance (h : Host) : Decidable h.Attached := inferInstanceAs (Decidable (∀ child ∈ _, _))

theorem busy_iff_runs : h.Busy ↔ ∃ process, h.Runs process := by
  constructor
  · rintro ⟨child, held, alive⟩
    exact ⟨child.process, congrArg (Option.map Child.process) held, alive⟩
  · rintro ⟨process, holds, alive⟩
    obtain ⟨child, held, rfl⟩ := Option.map_eq_some_iff.mp holds
    exact ⟨child, held, alive⟩

theorem not_runs_of_none (empty : h.app.scriptProcess = none) (process : Nat) :
    ¬ h.Runs process := by
  rintro ⟨holds, _⟩
  rw [Holds, empty] at holds
  cases holds

/-! ## What a start does to it -/

/-- A start spawns a process that stays. -/
def Launches (h : Host) (os : StartOutcome) : Prop :=
  (h.Busy → os.checkError ≠ none) ∧ os.spawned.isOk ∧ os.exits = none ∧ os.recheckError = none

instance (h : Host) (os : StartOutcome) : Decidable (h.Launches os) :=
  inferInstanceAs (Decidable ((_ → _) ∧ _ ∧ _ ∧ _))

/-- How a start ends. -/
inductive StartEnds (h : Host) (params : ScriptParams) (os : StartOutcome) :
    HttpResponse × Host → Prop where
  | refused (busy : h.Busy) (checked : os.checkError = none) :
      StartEnds h params os (.badRequest ⟨"A process is already running. Stop it first."⟩, h)
  | launched {r : StatusResponse} {after : Host} (pid : UInt32) (scriptPath : String)
      (launches : h.Launches os)
      (started : r.currentStatus = "started") (quiet : ¬ r.Signaled)
      (held : after.app.scriptProcess = some ⟨h.processes.length, some pid⟩)
      (spawned : after.processes = h.processes ++ [⟨pid, params.envVars, scriptPath, none⟩]) :
      StartEnds h params os (.ok r, after)
  | failed {answer : HttpResponse} {after : Host} (launches : ¬ h.Launches os)
      (free : h.Busy → os.checkError ≠ none)
      (notStarted : ∀ r, answer = .ok r → r.currentStatus ≠ "started")
      (empty : after.app.scriptProcess = none)
      (grows : h.processes.length ≤ after.processes.length) :
      StartEnds h params os (answer, after)

theorem spawnScript_ends {os : StartOutcome} (now h : Host) (params : ScriptParams)
    (free : now.Busy → os.checkError ≠ none) (empty : h.app.scriptProcess = none)
    (same : h.processes = now.processes) :
    StartEnds now params os (h.spawnScript params os) := by
  unfold spawnScript
  cases spawned : os.spawned with
  | error e =>
      refine .failed ?_ free ?_ empty (congrArg List.length same).ge
      · rintro ⟨_, launched, _⟩
        rw [spawned] at launched
        cases launched
      · intro r answered
        cases answered
  | ok pid =>
      simp only [tryWait]
      cases recheck : os.recheckError with
      | some e =>
          refine .failed ?_ free ?_ empty ?_
          · rintro ⟨_, _, _, fine⟩
            cases recheck.symm.trans fine
          · intro r answered
            cases answered
          · simp [same]
      | none =>
          simp only [status_spawned]
          cases exits : os.exits with
          | some status =>
              refine .failed ?_ free ?_ empty ?_
              · rintro ⟨_, _, fine, _⟩
                cases exits.symm.trans fine
              · intro r answered
                cases answered
                exact (by decide : "exited" ≠ "started")
              · simp [setExecution, same]
          | none =>
              have launches : now.Launches os := ⟨free, by rw [spawned]; rfl, exits, recheck⟩
              refine .launched pid (params.scriptPath.getD "launch.sh") launches rfl ?_ ?_ ?_
              · rintro ⟨e, mem, signal⟩
                cases mem
                exact signal rfl
              · rw [← same]
                rfl
              · rw [← same]
                rfl

/-- **A start** refuses, spawns a process that stays, or leaves no process at hand. -/
theorem startScript_ends (h : Host) (params : ScriptParams) (os : StartOutcome)
    (attached : h.Attached) : StartEnds h params os (h.startScript params os) := by
  unfold startScript
  cases held : h.app.scriptProcess with
  | none =>
      apply spawnScript_ends h h params _ held rfl
      intro busy
      exact absurd busy (not_busy_of_none held)
  | some child =>
      simp only
      split
      · next status ended =>
          apply spawnScript_ends h (h.setProcess none) params _ rfl rfl
          intro busy
          exact absurd busy (not_busy_of_ended held (tryWait_eq_ok.mp ended).2)
      · next alive =>
          obtain ⟨checked, running⟩ := tryWait_eq_ok.mp alive
          exact .refused ⟨child, held, attached child held, running⟩ checked
      · next e failed =>
          apply spawnScript_ends h (h.setProcess none) params _ rfl rfl
          intro _
          rw [tryWait_eq_error.mp failed]
          exact Option.some_ne_none e

namespace StartEnds

variable {os : StartOutcome} {answer : HttpResponse} {after : Host}

/-- The process at hand after a start is the old one, if it was refused, or the new one. -/
theorem runs_iff (ends : StartEnds h params os (answer, after)) (process : Nat) :
    after.Runs process ↔ (h.Runs process ∧ os.checkError = none) ∨
      (h.Launches os ∧ process = h.processes.length) := by
  cases ends with
  | refused busy checked =>
      have refused : ¬ h.Launches os := fun launches => launches.1 busy checked
      simp [checked, refused]
  | launched pid scriptPath launches started quiet held spawned =>
      have alive : after.Alive h.processes.length := by
        rw [Alive, status, spawned, List.getElem?_concat_length, List.length_append]
        exact ⟨Nat.lt_succ_self _, rfl⟩
      constructor
      · rintro ⟨holds, _⟩
        rw [Holds, held] at holds
        exact .inr ⟨launches, (Option.some.inj holds).symm⟩
      · rintro (⟨runs, checked⟩ | ⟨_, rfl⟩)
        · exact absurd checked (launches.1 (busy_iff_runs.mpr ⟨process, runs⟩))
        · exact ⟨by rw [Holds, held]; rfl, alive⟩
  | failed launches free notStarted empty grows =>
      refine iff_of_false (not_runs_of_none empty process) ?_
      rintro (⟨runs, checked⟩ | ⟨launched, _⟩)
      · exact free (busy_iff_runs.mpr ⟨process, runs⟩) checked
      · exact launches launched

theorem attached (ends : StartEnds h params os (answer, after)) (attached : h.Attached) :
    after.Attached ∧ h.processes.length ≤ after.processes.length := by
  cases ends with
  | refused busy checked => exact ⟨attached, le_rfl⟩
  | launched pid scriptPath launches started quiet held spawned =>
      constructor
      · intro child mem
        rw [held, Option.mem_some_iff] at mem
        rw [spawned, List.length_append, ← mem]
        exact Nat.lt_succ_self _
      · rw [spawned, List.length_append]
        exact Nat.le_add_right _ _
  | failed launches free notStarted empty grows =>
      refine ⟨?_, grows⟩
      intro child mem
      rw [empty] at mem
      cases mem

end StartEnds

/-! ## What a call does to it -/

theorem runs_finishAll (ends : List (Nat × ExitStatus)) (process : Nat) :
    (h.finishAll ends).Runs process ↔ h.Runs process ∧ ∀ e ∈ ends, e.1 ≠ process := by
  induction ends generalizing h with
  | nil => simp [finishAll]
  | cons e rest ih =>
      have one : (h.finish e.1 e.2).Runs process ↔ h.Runs process ∧ e.1 ≠ process := by
        rw [Runs, alive_finish, Runs, Holds, app_finish]
        constructor
        · rintro ⟨holds, ne, alive⟩
          exact ⟨⟨holds, alive⟩, ne.symm⟩
        · rintro ⟨⟨holds, alive⟩, ne⟩
          exact ⟨holds, Ne.symm ne, alive⟩
      rw [finishAll, List.foldl_cons, ← finishAll, ih, one, List.forall_mem_cons, and_assoc]

@[simp] theorem app_finishAll (ends : List (Nat × ExitStatus)) :
    (h.finishAll ends).app = h.app := by
  induction ends generalizing h with
  | nil => rfl
  | cons e rest ih => exact ih

@[simp] theorem length_finishAll (ends : List (Nat × ExitStatus)) :
    (h.finishAll ends).processes.length = h.processes.length := by
  induction ends generalizing h with
  | nil => rfl
  | cons e rest ih => exact ih.trans (List.length_modify ..)

theorem Attached.finishAll (attached : h.Attached) (ends : List (Nat × ExitStatus)) :
    (h.finishAll ends).Attached := by
  intro child held
  rw [app_finishAll] at held
  rw [length_finishAll]
  exact attached child held

end Host

/-- The request arrives. -/
def Transport.arrives : Transport → Bool
  | .lost _ => false
  | _ => true

/-- A start that finds a process running and fails this way has the monitor ask for a stop. -/
def Transport.alarms : Transport → Bool
  | .delivered => true
  | .lost cause => Mentions cause "A process is already running"
  | .cut cause => Mentions cause "A process is already running"

namespace CallChoice

/-- The process ends before the call. -/
def Ends (c : CallChoice) (process : Nat) : Prop := ∃ e ∈ c.ends, e.1 = process

/-- A process at hand that runs is none after a start request. -/
def Releases (c : CallChoice) (process : Nat) : Prop :=
  c.Ends process ∨ (c.transport.arrives ∧ c.start.checkError ≠ none)

/-- A process at hand that runs is none after a stop request. -/
def Clears (c : CallChoice) (process : Nat) : Prop := c.Ends process ∨ c.transport.arrives

instance (c : CallChoice) (process : Nat) : Decidable (c.Ends process) :=
  inferInstanceAs (Decidable (∃ e ∈ _, _))

instance (c : CallChoice) (process : Nat) : Decidable (c.Releases process) :=
  inferInstanceAs (Decidable (_ ∨ _))

instance (c : CallChoice) (process : Nat) : Decidable (c.Clears process) :=
  inferInstanceAs (Decidable (_ ∨ _))

end CallChoice

namespace Host

variable {h : Host}

/-- The start of a call that arrives spawns a process that stays. -/
def Spawns (h : Host) (c : CallChoice) : Prop :=
  c.transport.arrives ∧ (h.finishAll c.ends).Launches c.start

instance (h : Host) (c : CallChoice) : Decidable (h.Spawns c) :=
  inferInstanceAs (Decidable (_ ∧ _))

theorem runs_before (c : CallChoice) (process : Nat) :
    (h.finishAll c.ends).Runs process ↔ h.Runs process ∧ ¬ c.Ends process := by
  rw [runs_finishAll, CallChoice.Ends]
  push Not
  rfl

theorem startEnds_call (attached : h.Attached) (c : CallChoice) (envVars : Option Env) :
    StartEnds (h.finishAll c.ends) ⟨envVars, none⟩ c.start
      ((h.finishAll c.ends).startScript ⟨envVars, none⟩ c.start) :=
  startScript_ends _ _ _ (attached.finishAll c.ends)

/-- **The process at hand after a start request.** -/
theorem runs_call_start (attached : h.Attached) (c : CallChoice) (envVars : Option Env)
    (process : Nat) :
    (h.call c (.start envVars)).2.Runs process ↔
      (h.Runs process ∧ ¬ c.Releases process) ∨ (h.Spawns c ∧ process = h.processes.length) := by
  have served := (startEnds_call attached c envVars).runs_iff process
  rw [runs_before, length_finishAll, and_assoc] at served
  rw [CallChoice.Releases, Spawns, call]
  cases transport : c.transport with
  | lost cause =>
      simp only [runs_before, Transport.arrives, Bool.false_eq_true, false_and, or_false]
  | delivered =>
      simp only [Transport.arrives, true_and, not_or, not_ne_iff]
      exact served
  | cut cause =>
      simp only [Transport.arrives, true_and, not_or, not_ne_iff]
      exact served

/-- **The process at hand after a stop request.** -/
theorem runs_call_stop (c : CallChoice) (process : Nat) :
    (h.call c .stop).2.Runs process ↔ h.Runs process ∧ ¬ c.Clears process := by
  have served : ¬ ((h.finishAll c.ends).stopScript c.stop).2.Runs process :=
    not_runs_of_none (Coherent.scriptProcess_stopScript _ c.stop) process
  rw [CallChoice.Clears, call]
  cases transport : c.transport with
  | lost cause =>
      simp only [runs_before, Transport.arrives, Bool.false_eq_true, or_false]
  | delivered =>
      simp only [Transport.arrives]
      exact iff_of_false served (by simp)
  | cut cause =>
      simp only [Transport.arrives]
      exact iff_of_false served (by simp)

/-- A start that launches has found no process running, or lost the one it found. -/
theorem Spawns.releases {c : CallChoice} {process : Nat} (spawns : h.Spawns c)
    (runs : h.Runs process) : c.Releases process := by
  by_cases ends : c.Ends process
  · exact .inl ends
  · have busy : (h.finishAll c.ends).Busy :=
      busy_iff_runs.mpr ⟨process, (runs_before c process).mpr ⟨runs, ends⟩⟩
    exact .inr ⟨spawns.1, spawns.2.1 busy⟩

theorem attached_call_start (attached : h.Attached) (c : CallChoice) (envVars : Option Env) :
    (h.call c (.start envVars)).2.Attached ∧
      h.processes.length ≤ (h.call c (.start envVars)).2.processes.length := by
  have served := (startEnds_call attached c envVars).attached (attached.finishAll c.ends)
  rw [length_finishAll] at served
  rw [call]
  cases c.transport with
  | lost cause => exact ⟨attached.finishAll c.ends, (length_finishAll _).ge⟩
  | delivered => exact served
  | cut cause => exact served

theorem attached_call_stop (attached : h.Attached) (c : CallChoice) :
    (h.call c .stop).2.Attached ∧
      h.processes.length ≤ (h.call c .stop).2.processes.length := by
  have empty := Coherent.scriptProcess_stopScript (h.finishAll c.ends) c.stop
  have served : ((h.finishAll c.ends).stopScript c.stop).2.Attached := by
    intro child held
    rw [empty] at held
    cases held
  have length : ((h.finishAll c.ends).stopScript c.stop).2.processes.length =
      h.processes.length := by
    rw [length_stopScript, length_finishAll]
  rw [call]
  cases c.transport with
  | lost cause => exact ⟨attached.finishAll c.ends, (length_finishAll _).ge⟩
  | delivered => exact ⟨served, length.ge⟩
  | cut cause => exact ⟨served, length.ge⟩

/-! ## What the monitor is told -/

/-- The engine answers "started" to the start requests that spawn a process that stays. -/
theorem started_call {c : CallChoice} {envVars : Option Env} {status : AgentStatus}
    (attached : h.Attached)
    (decoded : (h.call c (.start envVars)).1.result AgentStatus.decode = .ok status)
    (started : status.currentStatus = "started") :
    c.transport = .delivered ∧ h.Spawns c := by
  have served := startEnds_call attached c envVars
  rw [call] at decoded
  rw [Spawns]
  cases transport : c.transport with
  | lost cause =>
      rw [transport] at decoded
      cases decoded
  | cut cause =>
      rw [transport] at decoded
      cases decoded
  | delivered =>
      rw [transport] at decoded
      refine ⟨rfl, rfl, ?_⟩
      simp only [answer] at decoded
      generalize (h.finishAll c.ends).startScript ⟨envVars, none⟩ c.start = r at served decoded
      cases served with
      | refused busy checked => cases decoded
      | launched pid scriptPath launches _ _ _ _ => exact launches
      | @failed reply after launches free notStarted empty grows =>
          cases reply with
          | ok r =>
              rw [result_ok] at decoded
              split at decoded
              · cases decoded
              · cases decoded
                exact absurd started (notStarted r rfl)
          | badRequest body => cases decoded
          | internalServerError body => cases decoded

/-- The answer to a start request that spawns a process that stays is "started". -/
theorem started_of_spawns {c : CallChoice} (attached : h.Attached) (envVars : Option Env)
    (spawns : h.Spawns c) (delivered : c.transport = .delivered) :
    ∃ status, (h.call c (.start envVars)).1.result AgentStatus.decode = .ok status ∧
      status.currentStatus = "started" := by
  have served := startEnds_call attached c envVars
  rw [call, delivered]
  simp only [answer]
  generalize (h.finishAll c.ends).startScript ⟨envVars, none⟩ c.start = r at served
  cases served with
  | refused busy checked => exact absurd checked (spawns.2.1 busy)
  | @launched r _ pid scriptPath launches started quiet held spawned =>
      exact ⟨r.read, by rw [result_ok, if_neg quiet], started⟩
  | failed launches free notStarted empty grows => exact absurd spawns.2 launches

/-- The refusal of the engine has the text that the monitor looks for. -/
theorem mentions_refusal : AgentError.mentions "A process is already running"
    (.status 400 (ErrorResponse.toJson ⟨"A process is already running. Stop it first."⟩)) =
      true := by
  decide

/-- A stop that succeeded was answered. -/
theorem delivered_of_stopped {c : CallChoice}
    (stopped : (h.call c .stop).1.result Monitor.discard = .ok ()) : c.transport = .delivered := by
  rw [call] at stopped
  cases transport : c.transport with
  | delivered => rfl
  | lost cause =>
      rw [transport] at stopped
      cases stopped
  | cut cause =>
      rw [transport] at stopped
      cases stopped

/-- While a process runs at hand, a start request is answered "started" because it has spawned that
process, or fails with an error that speaks of a running process exactly if the transport says so. -/
theorem told_of_runs {c : CallChoice} {envVars : Option Env} {process : Nat}
    (attached : h.Attached) (runs : (h.call c (.start envVars)).2.Runs process) :
    (∃ status, (h.call c (.start envVars)).1.result AgentStatus.decode = .ok status ∧
        status.currentStatus = "started") ∨
      ∃ err, (h.call c (.start envVars)).1.result AgentStatus.decode = .error err ∧
        err.mentions "A process is already running" = c.transport.alarms := by
  have served := startEnds_call attached c envVars
  rw [call] at runs ⊢
  cases transport : c.transport with
  | lost cause => exact .inr ⟨_, rfl, rfl⟩
  | cut cause => exact .inr ⟨_, rfl, rfl⟩
  | delivered =>
      rw [transport] at runs
      simp only [answer] at runs ⊢
      generalize (h.finishAll c.ends).startScript ⟨envVars, none⟩ c.start = r at served runs
      cases served with
      | refused busy checked => exact .inr ⟨_, rfl, mentions_refusal⟩
      | @launched r _ pid scriptPath launches started quiet _ _ =>
          refine .inl ⟨r.read, ?_, started⟩
          rw [result_ok, if_neg quiet]
      | failed launches free notStarted empty grows =>
          exact absurd runs (not_runs_of_none empty process)

theorem notStarted_of_error {reply : AgentReply} {err : AgentError}
    (decoded : reply.result AgentStatus.decode = .error err) (status : AgentStatus)
    (other : reply.result AgentStatus.decode = .ok status) : status.currentStatus ≠ "started" := by
  cases decoded.symm.trans other

theorem alarms_of_runs {c : CallChoice} {envVars : Option Env} {process : Nat} {err : AgentError}
    (attached : h.Attached)
    (decoded : (h.call c (.start envVars)).1.result AgentStatus.decode = .error err)
    (runs : (h.call c (.start envVars)).2.Runs process) :
    err.mentions "A process is already running" = c.transport.alarms := by
  rcases told_of_runs attached runs with ⟨status, other, started⟩ | ⟨_, other, alarms⟩
  · exact absurd started (notStarted_of_error decoded status other)
  · cases decoded.symm.trans other
    exact alarms

end Host

/-! ## When a start leaves a process running -/

/-- A process at hand that runs is released by the outcomes of the start attempts that are left: it ends
or is dropped, or an attempt finds it and the stop that follows arrives. -/
def Rescued (process : Nat) : Nat → (Nat → CallChoice) → Prop
  | 0, _ => False
  | left + 1, choices => (choices 0).Releases process ∨
      if (choices 0).transport.alarms then (choices 1).Clears process
      else Rescued process left fun n => choices (n + 1)

/-- An attempt spawns a process that stays, its answer is lost, and nothing releases the process. -/
def LeavesBehind (left : Nat) (choices : Nat → CallChoice) (h : Host) : Prop :=
  (choices 0).transport ≠ .delivered ∧ h.Spawns (choices 0) ∧
    ¬ if (choices 0).transport.alarms then (choices 1).Clears h.processes.length
      else Rescued h.processes.length left fun n => choices (n + 1)

/-- The outcomes and the engine with which the next attempt begins, if there is one. -/
def retry (envVars : Option Env) (choices : Nat → CallChoice) (h : Host) :
    Option ((Nat → CallChoice) × Host) :=
  let started := h.call (choices 0) (.start envVars)
  match started.1.result AgentStatus.decode with
  | .ok status =>
      if status.currentStatus = "started" then none
      else some (fun n => choices (n + 1), started.2)
  | .error err =>
      if err.mentions "A process is already running" then
        let stopped := started.2.call (choices 1) .stop
        match stopped.1.result Monitor.discard with
        | .error _ => none
        | .ok _ => some (fun n => choices (n + 2), stopped.2)
      else some (fun n => choices (n + 1), started.2)

/-- None of the attempts that are made leaves a process. -/
def Secured (envVars : Option Env) : Nat → (Nat → CallChoice) → Host → Prop
  | 0, _, _ => True
  | left + 1, choices, h => ¬ LeavesBehind left choices h ∧
      ∀ next ∈ retry envVars choices h, Secured envVars left next.1 next.2

namespace Monitor

/-- The start attempt is the first of a number of attempts with a run and a trace, and another attempt may
follow. -/
inductive Attempt (envVars : Option Env) (left : Nat) (choices : Nat → CallChoice)
    (s : Monitor × Host) : Ended (Except AgentError Unit) (Monitor × Host) CallChoice →
      MonitorTrace → Option ((Nat → CallChoice) × Host) → Prop where
  | started {status : AgentStatus}
      (decoded : (s.2.call (choices 0) (.start envVars)).1.result AgentStatus.decode = .ok status)
      (starts : status.currentStatus = "started") :
      Attempt envVars left choices s
        ⟨.ok (), (s.1, (s.2.call (choices 0) (.start envVars)).2), fun n => choices (n + 1)⟩
        [⟨.callAgent (.start envVars), (s.2.call (choices 0) (.start envVars)).1⟩] none
  | notStopped {err e : AgentError}
      (decoded : (s.2.call (choices 0) (.start envVars)).1.result AgentStatus.decode = .error err)
      (alarmed : err.mentions "A process is already running" = true) (stopReply : AgentReply) :
      Attempt envVars left choices s
        ⟨.error e, (s.1, ((s.2.call (choices 0) (.start envVars)).2.call (choices 1) .stop).2),
          fun n => choices (n + 2)⟩
        [⟨.callAgent (.start envVars), (s.2.call (choices 0) (.start envVars)).1⟩,
          ⟨.callAgent .stop, stopReply⟩] none
  | stopped {err : AgentError} (stopReply : AgentReply)
      (decoded : (s.2.call (choices 0) (.start envVars)).1.result AgentStatus.decode = .error err)
      (alarmed : err.mentions "A process is already running" = true)
      (delivered : (choices 1).transport = .delivered)
      {h : Host} (after : h = ((s.2.call (choices 0) (.start envVars)).2.call (choices 1) .stop).2) :
      Attempt envVars left choices s
        ((startAttempts envVars left (some err)).run actOver (fun n => choices (n + 2)) (s.1, h))
        (⟨.callAgent (.start envVars), (s.2.call (choices 0) (.start envVars)).1⟩ ::
          ⟨.callAgent .stop, stopReply⟩ ::
          (startAttempts envVars left (some err)).trace actOver (fun n => choices (n + 2)) (s.1, h))
        (some (fun n => choices (n + 2), h))
  | again (lastErr : Option AgentError)
      (notStarted : ∀ status, (s.2.call (choices 0) (.start envVars)).1.result AgentStatus.decode =
        .ok status → status.currentStatus ≠ "started")
      (calm : ∀ err, (s.2.call (choices 0) (.start envVars)).1.result AgentStatus.decode =
        .error err → err.mentions "A process is already running" = false)
      {h : Host} (after : h = (s.2.call (choices 0) (.start envVars)).2) :
      Attempt envVars left choices s
        ((startAttempts envVars left lastErr).run actOver (fun n => choices (n + 1)) (s.1, h))
        (⟨.callAgent (.start envVars), (s.2.call (choices 0) (.start envVars)).1⟩ ::
          (startAttempts envVars left lastErr).trace actOver (fun n => choices (n + 1)) (s.1, h))
        (some (fun n => choices (n + 1), h))

theorem trace_callAgent_over {α : Type} {choices : Nat → CallChoice} {s : Monitor × Host}
    (request : AgentRequest) (next : AgentReply → MonitorProgram α) :
    (perform (MonitorOp.callAgent request) next).trace actOver choices s =
      ⟨.callAgent request, (s.2.call (choices 0) request).1⟩ ::
        (next (s.2.call (choices 0) request).1).trace actOver (fun n => choices (n + 1))
          (s.1, (s.2.call (choices 0) request).2) := rfl

/-- **Every attempt** ends or goes on in one of these ways. -/
theorem attempt (envVars : Option Env) (left : Nat) (lastErr : Option AgentError)
    (choices : Nat → CallChoice) (s : Monitor × Host) :
    Attempt envVars left choices s
      ((startAttempts envVars (left + 1) lastErr).run actOver choices s)
      ((startAttempts envVars (left + 1) lastErr).trace actOver choices s)
      (retry envVars choices s.2) := by
  rw [startAttempts, retry]
  simp only [callAgentEndpoint, callAgent, op_bind, perform_bind, pure_eq, done_bind,
    run_callAgent_over, trace_callAgent_over]
  cases decoded : (s.2.call (choices 0) (.start envVars)).1.result AgentStatus.decode with
  | ok status =>
      by_cases starts : status.currentStatus = "started"
      · simp only [starts, ne_eq, not_true_eq_false, if_false, if_true]
        exact .started decoded starts
      · simp only [starts, ne_eq, not_false_eq_true, if_true, if_false]
        refine .again _ ?_ ?_ rfl
        · intro other same
          cases decoded.symm.trans same
          exact starts
        · intro err same
          cases decoded.symm.trans same
  | error err =>
      by_cases alarmed : err.mentions "A process is already running" = true
      · simp only [alarmed, if_true, run_callAgent_over, trace_callAgent_over]
        cases stopped : AgentReply.result discard
            ((s.2.call (choices 0) (.start envVars)).2.call (choices (0 + 1)) .stop).1 with
        | error e => exact .notStopped decoded alarmed _
        | ok _ =>
            exact .stopped _ decoded alarmed (Host.delivered_of_stopped stopped) rfl
      · simp only [alarmed, Bool.false_eq_true, if_false]
        refine .again _ ?_ ?_ rfl
        · intro status same
          cases decoded.symm.trans same
        · intro other same
          cases decoded.symm.trans same
          exact Bool.not_eq_true _ ▸ alarmed

end Monitor

/-- The engine is asked to start. -/
def asksStart : MonitorEvent → Bool
  | ⟨.callAgent (.start _), _⟩ => true
  | _ => false

namespace Monitor

variable {envVars : Option Env} {left : Nat} {choices : Nat → CallChoice} {s : Monitor × Host}

/-- **Each attempt asks once.** -/
theorem countP_asksStart (envVars : Option Env) (left : Nat) (lastErr : Option AgentError)
    (choices : Nat → CallChoice) (s : Monitor × Host) :
    ((startAttempts envVars left lastErr).trace actOver choices s).countP asksStart ≤ left := by
  induction left generalizing lastErr choices s with
  | zero => exact le_rfl
  | succ left ih =>
      have made := attempt envVars left lastErr choices s
      generalize (startAttempts envVars (left + 1) lastErr).trace actOver choices s = t at made ⊢
      generalize (startAttempts envVars (left + 1) lastErr).run actOver choices s = ended at made
      generalize retry envVars choices s.2 = next at made
      cases made with
      | started decoded starts => exact Nat.succ_le_succ (Nat.zero_le left)
      | notStopped decoded alarmed stopReply => exact Nat.succ_le_succ (Nat.zero_le left)
      | stopped stopReply decoded alarmed delivered after =>
          rw [List.countP_cons_of_pos rfl, List.countP_cons_of_neg Bool.false_ne_true]
          exact Nat.succ_le_succ (ih _ _ _)
      | again lastErr notStarted calm after =>
          rw [List.countP_cons_of_pos rfl]
          exact Nat.succ_le_succ (ih _ _ _)

end Monitor

/-- The last start request of a trace has given the engine the process at hand, with the given
environment. -/
def StartedLast (envVars : Option Env) (before : Host) (t : MonitorTrace) (h : Host) : Prop :=
  ∃ earlier last c, t = earlier ++ [⟨.callAgent (.start envVars),
      (Host.call c last (.start envVars)).1⟩] ∧
    h = (Host.call c last (.start envVars)).2 ∧
    before.processes.length ≤ last.processes.length ∧
    Host.Launched last envVars (Host.call c last (.start envVars)).1 h

theorem StartedLast.cons {envVars : Option Env} {before middle : Host} {t : MonitorTrace}
    {h : Host} (later : StartedLast envVars middle t h)
    (grows : before.processes.length ≤ middle.processes.length) (earlier : MonitorTrace) :
    StartedLast envVars before (earlier ++ t) h := by
  obtain ⟨between, last, c, rfl, after, grown, launched⟩ := later
  exact ⟨earlier ++ between, last, c, (List.append_assoc ..).symm, after, grows.trans grown, launched⟩

namespace Host

variable {h : Host}

/-- A start request that is answered "started" has launched a process. -/
theorem launched_call {c : CallChoice} {envVars : Option Env} {status : AgentStatus}
    (attached : h.Attached)
    (decoded : (h.call c (.start envVars)).1.result AgentStatus.decode = .ok status)
    (started : status.currentStatus = "started") :
    Launched h envVars (h.call c (.start envVars)).1 (h.call c (.start envVars)).2 := by
  obtain ⟨delivered, spawns⟩ := started_call attached decoded started
  refine ⟨⟨status, decoded, started⟩, ?_⟩
  have served := startEnds_call attached c envVars
  rw [call, delivered]
  simp only [answer]
  generalize (h.finishAll c.ends).startScript ⟨envVars, none⟩ c.start = r at served
  cases served with
  | refused busy checked => exact absurd checked (spawns.2.1 busy)
  | launched pid scriptPath launches _ _ held spawned =>
      refine ⟨_, held, (length_finishAll _).ge, ⟨pid, envVars, scriptPath, none⟩, ?_, rfl, rfl⟩
      rw [spawned, List.getElem?_concat_length]
  | failed launches free notStarted empty grows => exact absurd spawns.2 launches

end Host

namespace Monitor

variable {envVars : Option Env} {left : Nat} {choices : Nat → CallChoice}

/-- **A start that returns nil** has started the process at hand with its last request. -/
theorem startedLast_startAttempts (envVars : Option Env) (left : Nat) (lastErr : Option AgentError)
    (choices : Nat → CallChoice) (m : Monitor) (h : Host) (attached : h.Attached)
    (returns : ((startAttempts envVars left lastErr).run actOver choices (m, h)).value = .ok ()) :
    StartedLast envVars h ((startAttempts envVars left lastErr).trace actOver choices (m, h))
      ((startAttempts envVars left lastErr).run actOver choices (m, h)).state.2 := by
  induction left generalizing lastErr choices h with
  | zero => cases returns
  | succ left ih =>
      have made := attempt envVars left lastErr choices (m, h)
      obtain ⟨attached', grows⟩ := Host.attached_call_start attached (choices 0) envVars
      generalize (startAttempts envVars (left + 1) lastErr).trace actOver choices (m, h) = t at made ⊢
      generalize (startAttempts envVars (left + 1) lastErr).run actOver choices (m, h) = ended
        at made returns ⊢
      generalize retry envVars choices h = next at made
      cases made with
      | started decoded starts =>
          exact ⟨[], h, choices 0, rfl, rfl, le_rfl, Host.launched_call attached decoded starts⟩
      | notStopped decoded alarmed stopReply => cases returns
      | stopped stopReply decoded alarmed delivered after =>
          subst after
          obtain ⟨attached'', grows'⟩ := Host.attached_call_stop attached' (choices 1)
          exact (ih _ _ _ attached'' returns).cons (grows.trans grows') [_, _]
      | again lastErr notStarted calm after =>
          subst after
          exact (ih _ _ _ attached' returns).cons grows [_]

/-- What an attempt that is not answered "started" leaves at hand, if nothing releases it. -/
theorem stranded_iff {n : Nat} {h : Host} (attached : h.Attached)
    (grown : n ≤ h.processes.length)
    (notStarted : ∀ status, (h.call (choices 0) (.start envVars)).1.result AgentStatus.decode =
      .ok status → status.currentStatus ≠ "started") :
    ((∃ p, n ≤ p ∧ h.Runs p ∧ ¬ Rescued p (left + 1) choices) ∨ LeavesBehind left choices h) ↔
      ∃ p, n ≤ p ∧ (h.call (choices 0) (.start envVars)).2.Runs p ∧
        ¬ if (choices 0).transport.alarms then (choices 1).Clears p
          else Rescued p left fun n => choices (n + 1) := by
  have cut : h.Spawns (choices 0) → (choices 0).transport ≠ .delivered := by
    intro spawns delivered
    obtain ⟨status, decoded, started⟩ := Host.started_of_spawns attached envVars spawns delivered
    exact notStarted status decoded started
  simp only [Host.runs_call_start attached, Rescued, LeavesBehind]
  constructor
  · rintro (⟨p, later, runs, stays⟩ | ⟨_, spawns, stays⟩)
    · exact ⟨p, later, .inl ⟨runs, fun released => stays (.inl released)⟩,
        fun released => stays (.inr released)⟩
    · exact ⟨_, grown, .inr ⟨spawns, rfl⟩, stays⟩
  · rintro ⟨p, later, ⟨runs, held⟩ | ⟨spawns, rfl⟩, stays⟩
    · refine .inl ⟨p, later, runs, ?_⟩
      rintro (released | released)
      · exact held released
      · exact stays released
    · exact .inr ⟨cut spawns, spawns, stays⟩

/-- **When the attempts that are left leave a process running.** They fail with a process at hand that
runs and is not older than the call, exactly if such a process is there already and nothing rescues it, or
an attempt leaves one. -/
theorem leftRunning_iff {n : Nat} (envVars : Option Env) (left : Nat) (lastErr : Option AgentError)
    (choices : Nat → CallChoice) (m : Monitor) (h : Host) (attached : h.Attached)
    (grown : n ≤ h.processes.length) :
    (((startAttempts envVars left lastErr).run actOver choices (m, h)).value ≠ .ok () ∧
        ∃ p, n ≤ p ∧
          ((startAttempts envVars left lastErr).run actOver choices (m, h)).state.2.Runs p) ↔
      (∃ p, n ≤ p ∧ h.Runs p ∧ ¬ Rescued p left choices) ∨ ¬ Secured envVars left choices h := by
  induction left generalizing lastErr choices h with
  | zero =>
      have failed : (Except.error (AgentError.notStarted lastErr) : Except AgentError Unit) ≠
          .ok () := by
        intro same
        cases same
      simp only [startAttempts, pure_eq, run_done, Rescued, Secured, not_false_eq_true, and_true,
        not_true_eq_false, or_false]
      exact and_iff_right failed
  | succ left ih =>
      have made := attempt envVars left lastErr choices (m, h)
      obtain ⟨attached', grows⟩ := Host.attached_call_start attached (choices 0) envVars
      generalize (startAttempts envVars (left + 1) lastErr).trace actOver choices (m, h) = t at made
      generalize (startAttempts envVars (left + 1) lastErr).run actOver choices (m, h) = ended
        at made ⊢
      rw [Secured, not_and_or, not_not, ← or_assoc]
      generalize retry envVars choices h = next at made ⊢
      cases made with
      | started decoded starts =>
          obtain ⟨delivered, spawns⟩ := Host.started_call attached decoded starts
          refine iff_of_false (fun failed => failed.1 rfl) ?_
          rintro ((⟨p, _, runs, stays⟩ | leaves) | another)
          · exact stays (.inl (spawns.releases runs))
          · exact leaves.1 delivered
          · simp at another
      | @notStopped err e decoded alarmed stopReply =>
          have failed : (Except.error e : Except AgentError Unit) ≠ .ok () := by
            intro same
            cases same
          rw [stranded_iff attached grown (Host.notStarted_of_error decoded), and_iff_right failed]
          simp only [Option.not_mem_none, false_imp_iff, implies_true, not_true_eq_false, or_false,
            Host.runs_call_stop]
          refine exists_congr fun p => and_congr_right fun _ => and_congr_right fun runs => ?_
          rw [← Host.alarms_of_runs attached decoded runs, if_pos alarmed]
      | stopped stopReply decoded alarmed delivered after =>
          subst after
          obtain ⟨attached'', grows'⟩ := Host.attached_call_stop attached' (choices 1)
          have clears (p : Nat) : (choices 1).Clears p := .inr (by rw [delivered]; rfl)
          rw [ih _ _ _ attached'' (grown.trans (grows.trans grows')),
            stranded_iff attached grown (Host.notStarted_of_error decoded)]
          simp only [Host.runs_call_stop, clears, not_true_eq_false, and_false, false_and,
            exists_false, false_or, Option.mem_some_iff, forall_eq']
          refine (or_iff_right ?_).symm
          rintro ⟨p, _, runs, stays⟩
          rw [← Host.alarms_of_runs attached decoded runs, if_pos alarmed] at stays
          exact stays trivial
      | again lastErr notStarted calm after =>
          subst after
          rw [ih _ _ _ attached' (grown.trans grows), stranded_iff attached grown notStarted]
          simp only [Option.mem_some_iff, forall_eq']
          refine or_congr_left (exists_congr fun p => and_congr_right fun _ =>
            and_congr_right fun runs => ?_)
          rcases Host.told_of_runs attached runs with
            ⟨status, decoded, started⟩ | ⟨err, decoded, alarms⟩
          · exact absurd started (notStarted status decoded)
          · rw [← alarms, calm err decoded, if_neg Bool.false_ne_true]

/-- At most five start requests were made, a start that returned nil has started the process at hand with
its last request, and a start that failed has left no process of its own at hand that runs. -/
structure AllOrNothing (envVars : Option Env) (before : Host) (t : MonitorTrace)
    (ended : Ended (Except AgentError Unit) (Monitor × Host) CallChoice) : Prop where
  requests : t.countP asksStart ≤ 5
  started : ended.value = .ok () → StartedLast envVars before t ended.state.2
  nothing : ∀ err, ended.value = .error err →
    ∀ process, before.processes.length ≤ process → ¬ ended.state.2.Runs process

theorem run_startAgent_over (envVars : Option Env) (choices : Nat → CallChoice) {m : Monitor}
    (h : Host) (allowed : m.state = .initializing ∨ m.state = .standby ∨ m.state = .restarting) :
    (startAgent envVars).run actOver choices (m, h) =
        (startAttempts envVars 5 none).run actOver (fun n => choices (n + 1)) (m, h) ∧
      (startAgent envVars).trace actOver choices (m, h) = ⟨.getState, m.state⟩ ::
        (startAttempts envVars 5 none).trace actOver (fun n => choices (n + 1)) (m, h) := by
  have goesOn : ¬ (m.state ≠ .initializing ∧ m.state ≠ .standby ∧ m.state ≠ .restarting) := by
    rintro ⟨notInitializing, notStandby, notRestarting⟩
    rcases allowed with same | same | same
    · exact notInitializing same
    · exact notStandby same
    · exact notRestarting same
  constructor
  · simp only [startAgent, getState, op_bind, run_getState_over]
    rw [if_neg goesOn]
  · have first : (startAgent envVars).trace actOver choices (m, h) = ⟨.getState, m.state⟩ ::
        Program.trace actOver (if m.state ≠ .initializing ∧ m.state ≠ .standby ∧
          m.state ≠ .restarting then return .error .invalidState else startAttempts envVars 5 none)
            (fun n => choices (n + 1)) (m, h) := rfl
    rw [first, if_neg goesOn]

end Monitor

/-- **When `startAgent` is all or nothing.** Exactly if every process that an attempt spawns without the
monitor learning of it is released by the outcomes of the calls that follow. -/
theorem startAgent_allOrNothing_iff (envVars : Option Env) (choices : Nat → CallChoice)
    {m : Monitor} {h : Host}
    (allowed : m.state = .initializing ∨ m.state = .standby ∨ m.state = .restarting)
    (attached : h.Attached) :
    Monitor.AllOrNothing envVars h ((Monitor.startAgent envVars).trace Monitor.actOver choices (m, h))
        ((Monitor.startAgent envVars).run Monitor.actOver choices (m, h)) ↔
      Secured envVars 5 (fun n => choices (n + 1)) h := by
  obtain ⟨run, trace⟩ := Monitor.run_startAgent_over envVars choices h allowed
  have left := Monitor.leftRunning_iff envVars 5 none (fun n => choices (n + 1)) m h attached le_rfl
  rw [run, trace]
  constructor
  · intro whole
    by_contra leaves
    obtain ⟨failed, process, later, runs⟩ := left.mpr (.inr leaves)
    cases value : ((Monitor.startAttempts envVars 5 none).run Monitor.actOver
        (fun n => choices (n + 1)) (m, h)).value with
    | ok _ => exact failed value
    | error err => exact whole.nothing err value process later runs
  · intro secured
    refine ⟨?_, ?_, ?_⟩
    · rw [List.countP_cons_of_neg Bool.false_ne_true]
      exact Monitor.countP_asksStart envVars 5 none _ (m, h)
    · intro returns
      exact (Monitor.startedLast_startAttempts envVars 5 none _ m h attached returns).cons le_rfl [_]
    · intro err value process later runs
      have failed : ((Monitor.startAttempts envVars 5 none).run Monitor.actOver
          (fun n => choices (n + 1)) (m, h)).value ≠ .ok () := by
        rw [value]
        intro same
        cases same
      rcases left.mp ⟨failed, process, later, runs⟩ with ⟨old, grown, held, _⟩ | leaves
      · obtain ⟨child, mem, rfl⟩ := Option.map_eq_some_iff.mp held.1
        exact absurd (attached child mem) (not_lt.mpr grown)
      · exact leaves secured

/-! ## Two starts -/

instance decidableRescued (process : Nat) :
    (left : Nat) → (choices : Nat → CallChoice) → Decidable (Rescued process left choices)
  | 0, _ => instDecidableFalse
  | left + 1, choices =>
      have : Decidable (Rescued process left fun n => choices (n + 1)) :=
        decidableRescued process left fun n => choices (n + 1)
      inferInstanceAs (Decidable ((choices 0).Releases process ∨
        if (choices 0).transport.alarms then (choices 1).Clears process
        else Rescued process left fun n => choices (n + 1)))

instance (left : Nat) (choices : Nat → CallChoice) (h : Host) : Decidable (LeavesBehind left choices h) :=
  inferInstanceAs (Decidable ((choices 0).transport ≠ .delivered ∧ h.Spawns (choices 0) ∧
    ¬ if (choices 0).transport.alarms then (choices 1).Clears h.processes.length
      else Rescued h.processes.length left fun n => choices (n + 1)))

instance decidableSecured (envVars : Option Env) :
    (left : Nat) → (choices : Nat → CallChoice) → (h : Host) →
      Decidable (Secured envVars left choices h)
  | 0, _, _ => instDecidableTrue
  | left + 1, choices, h =>
      have : ∀ next : (Nat → CallChoice) × Host, Decidable (Secured envVars left next.1 next.2) :=
        fun next => decidableSecured envVars left next.1 next.2
      inferInstanceAs (Decidable (¬ LeavesBehind left choices h ∧
        ∀ next ∈ retry envVars choices h, Secured envVars left next.1 next.2))

/-- The answer is lost. -/
def CallChoice.unanswered : CallChoice := { RouteChoice.healthy with transport := .cut "EOF" }

def sampleMonitor : Monitor := Monitor.new "a.ns.1" "http://a.ns:1" 0 3

/-- The answer to the first start is lost; the second finds the process and has it stopped. -/
theorem startAgent_allOrNothing_found :
    Monitor.AllOrNothing none Host.new
      ((Monitor.startAgent none).trace Monitor.actOver
        (fun n => if n = 1 then .unanswered else .healthy) (sampleMonitor, Host.new))
      ((Monitor.startAgent none).run Monitor.actOver
        (fun n => if n = 1 then .unanswered else .healthy) (sampleMonitor, Host.new)) :=
  (startAgent_allOrNothing_iff none _ (.inl rfl) (by decide)).mpr (by decide)

/-- Only the last of the five start requests arrives, and its answer is lost. -/
def lastUnanswered (n : Nat) : CallChoice := if n = 5 then .unanswered else .disconnected

/-- The start fails, and the process that it has spawned runs. -/
theorem startAgent_leaves_running : ¬ Monitor.AllOrNothing none Host.new
    ((Monitor.startAgent none).trace Monitor.actOver lastUnanswered (sampleMonitor, Host.new))
    ((Monitor.startAgent none).run Monitor.actOver lastUnanswered (sampleMonitor, Host.new)) := by
  intro whole
  have failed : ((Monitor.startAgent none).run Monitor.actOver lastUnanswered
      (sampleMonitor, Host.new)).value =
        .error (.notStarted (some (.sendRequest "EOF"))) := rfl
  refine whole.nothing _ failed 0 (Nat.zero_le 0) ?_
  decide

end C4D
