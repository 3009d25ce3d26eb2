import C4D.Deployment.Rounds

/-!
# When commands are accepted

With every call of the engine in order, a command is answered 200 exactly if the site is ready for
it (`accepted_iff_ready`). A start wants the monitor in `Standby`. A restart also takes a monitor
in `Restarting`, or in `Running` while the engine has its process at hand: an engine that has
noticed the end of its process refuses the stop that comes first.

A site that is not ready for a restart refuses it under all circumstances, and is not ready
afterwards (`refuses_of_not_ready`).
-/

set_option autoImplicit false

namespace C4D

open Foundations Program

/-! ## Calls in order -/

/-- The call arrives, is answered and finds the engine in order. -/
structure CallChoice.Fine (c : CallChoice) : Prop extends c.toRouteChoice.Fine where
  delivered : c.transport = .delivered
  still : c.ends = []

theorem CallChoice.fine_healthy : CallChoice.healthy.Fine :=
  { RouteChoice.fine_healthy with delivered := rfl, still := rfl }

namespace Host

variable {h : Host} {c : CallChoice} {envVars : Option Env}

theorem call_of_fine (fine : c.Fine) (request : AgentRequest) :
    h.call c request = h.answer c.toRouteChoice request := by
  rw [call, fine.delivered, fine.still]
  rfl

theorem coherent_finishAll (coherent : Coherent h) (ends : List (Nat × ExitStatus)) :
    Coherent (h.finishAll ends) := by
  induction ends generalizing h with
  | nil => exact coherent
  | cons e rest ih => exact ih (coherent.finish e.1 e.2)

theorem coherent_call_start (coherent : Coherent h) (c : CallChoice) :
    Coherent (h.call c (.start envVars)).2 := by
  have before := coherent_finishAll coherent c.ends
  rw [call]
  cases c.transport with
  | lost cause => exact before
  | _ => exact before.startScript _ _

theorem coherent_call_stop (coherent : Coherent h) (c : CallChoice) : Coherent (h.call c .stop).2 := by
  rw [call]
  cases c.transport with
  | lost cause => exact coherent_finishAll coherent _
  | _ => exact .of_none (Coherent.scriptProcess_stopScript _ _)

/-- A start without a running process is answered "started". -/
theorem started_of_fine (envVars : Option Env) (fine : c.Fine) (attached : h.Attached) (idle : ¬ h.Busy) :
    ∃ status, (h.call c (.start envVars)).1.result AgentStatus.decode = .ok status ∧
      status.currentStatus = "started" := by
  refine started_of_spawns attached envVars ?_ fine.delivered
  rw [Spawns, fine.delivered, fine.still]
  exact ⟨rfl, fun busy => absurd busy idle, fine.spawned, fine.stays, fine.rechecked⟩

/-- A start beside a running process is refused. -/
theorem call_start_of_busy (envVars : Option Env) (fine : c.Fine) (busy : h.Busy) :
    h.call c (.start envVars) =
      ((HttpResponse.badRequest ⟨"A process is already running. Stop it first."⟩).reply, h) := by
  obtain ⟨child, held, alive⟩ := busy
  have running : h.status child.process = none := alive.2
  rw [call_of_fine fine, answer, startScript, held]
  simp only [tryWait, fine.checked, running]

/-- A stop of the process at hand succeeds. -/
theorem stopped_of_fine (fine : c.Fine) (coherent : Coherent h) (held : h.app.scriptProcess ≠ none) :
    (h.call c .stop).1.result Monitor.discard = .ok () := by
  obtain ⟨child, held⟩ := Option.ne_none_iff_exists'.mp held
  obtain ⟨r, stopped⟩ := stopped_stopScript fine.toFine coherent held
  rw [call_of_fine fine, answer, stopped]
  rfl

/-- A stop without a process at hand fails. -/
theorem not_stopped_of_none (empty : h.app.scriptProcess = none) :
    ∃ err, (h.call c .stop).1.result Monitor.discard = .error err := by
  rw [call]
  cases c.transport with
  | delivered =>
      have still : (h.finishAll c.ends).app.scriptProcess = none := by
        rw [app_finishAll]
        exact empty
      refine ⟨.status 400 (ErrorResponse.toJson ⟨"No process running"⟩), ?_⟩
      simp only [answer, stopScript, still]
      rfl
  | lost cause => exact ⟨_, rfl⟩
  | cut cause => exact ⟨_, rfl⟩

end Host

namespace Monitor

variable {m : Monitor} {h : Host} {choices : Nat → CallChoice} {envVars : Option Env}

/-- An attempt to start an engine without a running process is the last one. -/
theorem startAttempts_of_idle (fine : (choices 0).Fine) (attached : h.Attached) (idle : ¬ h.Busy)
    (left : Nat) (lastErr : Option AgentError) :
    ((startAttempts envVars (left + 1) lastErr).run actOver choices (m, h)).value = .ok () := by
  obtain ⟨status, decoded, started⟩ := Host.started_of_fine envVars fine attached idle
  rw [startAttempts]
  simp only [callAgentEndpoint, callAgent, op_bind, perform_bind, pure_eq, done_bind,
    run_callAgent_over]
  rw [decoded]
  simp only [started, ne_eq, not_true_eq_false, if_false]
  rfl

/-- **A start with every call in order succeeds**: what it finds running is stopped first. -/
theorem startAgent_of_fine (fine : ∀ n, (choices n).Fine) (coherent : Coherent h)
    (allowed : m.state = .initializing ∨ m.state = .standby ∨ m.state = .restarting) :
    ((startAgent envVars).run actOver choices (m, h)).value = .ok () := by
  have attached := coherent.attached
  rw [(run_startAgent_over envVars choices h allowed).1]
  by_cases busy : h.Busy
  · have held : h.app.scriptProcess ≠ none := fun empty => Host.not_busy_of_none empty busy
    have refused := Host.call_start_of_busy envVars (fine 1) busy
    have stopped := Host.stopped_of_fine (fine 2) coherent held
    have idle : ¬ (h.call (choices 2) .stop).2.Busy := by
      refine Host.not_busy_of_stopped ?_
      rw [stopped]
      rfl
    rw [startAttempts]
    simp only [callAgentEndpoint, callAgent, op_bind, perform_bind, pure_eq, done_bind,
      run_callAgent_over]
    rw [Nat.zero_add, refused]
    have decoded : (HttpResponse.badRequest
        ⟨"A process is already running. Stop it first."⟩).reply.result AgentStatus.decode =
          .error (.status 400 (ErrorResponse.toJson ⟨"A process is already running. Stop it first."⟩)) :=
      rfl
    simp only [decoded, Host.mentions_refusal, if_true, run_callAgent_over]
    rw [stopped]
    refine startAttempts_of_idle ?_ (Host.attached_call_stop attached _).1 idle 3 _
    exact fine 3
  · refine startAttempts_of_idle ?_ attached busy 4 none
    exact fine 1

/-- The second half of a restart by command, with every call in order. -/
theorem commandStartAgain_of_fine (fine : ∀ n, (choices n).Fine) (coherent : Coherent h)
    (allowed : m.state = .initializing ∨ m.state = .standby ∨ m.state = .restarting) :
    ((commandStartAgain envVars).run actOver choices (m, h)).value.code = 200 := by
  rw [commandStartAgain, run_bind, startAgent_of_fine fine coherent allowed]
  rfl

end Monitor

/-! ## Ready sites -/

/-- The site takes the command. -/
def CommandName.Ready : CommandName → Monitor × Host → Prop
  | .start, s => s.1.state = .standby
  | .restart, s => s.1.state = .standby ∨ s.1.state = .restarting ∨
      (s.1.state = .running ∧ s.2.app.scriptProcess ≠ none)

instance : (name : CommandName) → (s : Monitor × Host) → Decidable (name.Ready s)
  | .start, _ => inferInstanceAs (Decidable (_ = _))
  | .restart, _ => inferInstanceAs (Decidable (_ ∨ _ ∨ _ ∧ _))

/-- A site that trains is ready for a restart. -/
theorem Trains.ready {P : Env → Prop} {s : Monitor × Host} (trains : Trains P s) :
    CommandName.restart.Ready s := by
  obtain ⟨running, child, held, _⟩ := trains
  refine .inr (.inr ⟨running, fun empty => ?_⟩)
  rw [empty] at held
  cases held

namespace Command

variable {c : Command} {choices : Nat → CallChoice} {site : Monitor × Host}

theorem serve_of_restart (restart : c.command = .restart) : c.serve choices site =
    (Monitor.commandRestart (some c.envVars)).run Monitor.actOver choices site := by
  have route : Monitor.handleCommand (some c.request) = Monitor.commandRestart (some c.envVars) := by
    simp [Monitor.handleCommand, Command.request, restart, CommandName.text]
  rw [serve, route]

theorem coherent_serve (coherent : Coherent site.2) : Coherent (c.serve choices site).state.2 :=
  Command.keeps (fun _ os coherent => Host.coherent_call_start coherent os)
    (fun _ os coherent => Host.coherent_call_stop coherent os) coherent

/-- **What a site that is not ready does with a restart**: it refuses, and is not ready afterwards. -/
theorem refuses_of_not_ready (restart : c.command = .restart)
    (unready : ¬ CommandName.restart.Ready site) :
    ¬ c.Accepted choices site ∧ ¬ CommandName.restart.Ready (c.serve choices site).state := by
  obtain ⟨m, h⟩ := site
  obtain ⟨standby, restarting, running⟩ : m.state ≠ .standby ∧ m.state ≠ .restarting ∧
      (m.state = .running → h.app.scriptProcess = none) := by
    simpa [CommandName.Ready] using unready
  rw [Accepted, serve_of_restart restart]
  simp only [Monitor.commandRestart, Monitor.getState, Monitor.setState, op_bind,
    Monitor.run_getState_over]
  by_cases runs : m.state = .running
  · have allowed : ¬ (m.state ≠ .running ∧ m.state ≠ .restarting ∧ m.state ≠ .standby) := by tauto
    have stops := @Monitor.run_stopAgent_over (m.enter .restarting, h)
      (fun n => choices (n + 1 + 1)) (.inr (Monitor.state_enter _))
    obtain ⟨err, refused⟩ := Host.not_stopped_of_none (c := choices 3) (running runs)
    rw [if_neg allowed, Monitor.run_setState_over, if_pos runs, run_bind, stops]
    dsimp only
    rw [refused]
    refine ⟨(fun accepted => by cases accepted), ?_⟩
    rintro (same | same | ⟨same, _⟩) <;> cases (Monitor.state_enter .failed).symm.trans same
  · have refused : m.state ≠ .running ∧ m.state ≠ .restarting ∧ m.state ≠ .standby :=
      ⟨runs, restarting, standby⟩
    rw [if_pos refused]
    exact ⟨(fun accepted => by cases accepted), unready⟩

/-- **With every call in order, a command is accepted exactly by a site that is ready for it.** -/
theorem accepted_iff_ready (fine : ∀ n, (choices n).Fine) (coherent : Coherent site.2) :
    c.Accepted choices site ↔ c.command.Ready site := by
  cases named : c.command with
  | start =>
      refine ⟨standby_of_accepted named, fun standby => ?_⟩
      obtain ⟨m, h⟩ := site
      have standby : m.state = .standby := standby
      have goesOn : ¬ m.state ≠ .standby := not_ne_iff.mpr standby
      rw [Accepted, serve_of_start named]
      simp only [Monitor.commandStart, Monitor.getState, op_bind, Monitor.run_getState_over]
      rw [if_neg goesOn, run_bind,
        Monitor.startAgent_of_fine (fun n => fine (n + 1)) coherent (.inr (.inl standby))]
      rfl
  | restart =>
      refine ⟨fun accepted => ?_, fun ready => ?_⟩
      · by_contra unready
        exact (refuses_of_not_ready named unready).1 accepted
      · obtain ⟨m, h⟩ := site
        have allowed : ¬ (m.state ≠ .running ∧ m.state ≠ .restarting ∧ m.state ≠ .standby) := by
          rintro ⟨notRunning, notRestarting, notStandby⟩
          rcases ready with same | same | ⟨same, _⟩
          · exact notStandby same
          · exact notRestarting same
          · exact notRunning same
        have entered : (m.enter .restarting).state = .restarting := Monitor.state_enter _
        rw [Accepted, serve_of_restart named]
        simp only [Monitor.commandRestart, Monitor.getState, Monitor.setState, op_bind,
          Monitor.run_getState_over]
        rw [if_neg allowed, Monitor.run_setState_over]
        by_cases runs : m.state = .running
        · have held : h.app.scriptProcess ≠ none := by
            rcases ready with same | same | ⟨_, held⟩
            · cases runs.symm.trans same
            · cases runs.symm.trans same
            · exact held
          have stops := @Monitor.run_stopAgent_over (m.enter .restarting, h)
            (fun n => choices (n + 1 + 1)) (.inr entered)
          rw [if_pos runs, run_bind, stops]
          dsimp only
          rw [Host.stopped_of_fine (fine 3) coherent held]
          exact Monitor.commandStartAgain_of_fine (fun n => fine _) (Host.coherent_call_stop coherent _)
            (.inr (.inr entered))
        · rw [if_neg runs]
          exact Monitor.commandStartAgain_of_fine (fun n => fine _) coherent (.inr (.inr entered))

end Command

end C4D
