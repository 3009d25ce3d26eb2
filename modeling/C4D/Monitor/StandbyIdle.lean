import C4D.Engine.SingleProcess
import C4D.Monitor.LaunchReplies

/-!
# Standby means that no process runs

A monitor serves one request at a time, and a call of its engine may not arrive, or be
served without its answer arriving. A stop that was answered has let go of the process, so
a stop by command enters `Standby` with no process at hand. A removal enters `Standby`
after a stop that failed, too, and then the process may still run.

Along every run in which a removal only goes on when its stop succeeds, the engine has no
running process whenever the monitor is in `Standby`, and no request enters `Standby`
without a stop that succeeded (`idle_of_run`). A removal that goes on otherwise breaks
this at once (`entered_of_abandons`).
-/

set_option autoImplicit false

namespace C4D

open Foundations Program

/-! ## Calls that may fail -/

/-- What becomes of a call of the engine. -/
inductive Transport where
  | delivered
  /-- The request does not arrive. -/
  | lost (cause : String)
  /-- The request is served, and its answer does not arrive. -/
  | cut (cause : String)
deriving DecidableEq

/-- What the environment decides in an operation: the processes that end before it, what becomes of
the call, and what the operating system decides while it is served. -/
structure CallChoice extends RouteChoice where
  ends : List (Nat × ExitStatus) := []
  transport : Transport := .delivered

namespace Host

/-- Some processes end. -/
def finishAll (h : Host) (ends : List (Nat × ExitStatus)) : Host :=
  ends.foldl (fun h e => h.finish e.1 e.2) h

/-- A call of the engine that may fail. -/
def call (os : CallChoice) (h : Host) (request : AgentRequest) : AgentReply × Host :=
  let h := h.finishAll os.ends
  match os.transport with
  | .delivered => h.answer os.toRouteChoice request
  | .lost cause => (.failed cause, h)
  | .cut cause => (.failed cause, (h.answer os.toRouteChoice request).2)

end Host

/-- What the operations do when calls of the engine may fail. -/
def Monitor.actOver : Interface MonitorOp MonitorOp.Answer (Monitor × Host) CallChoice
  | .callAgent request, os, (m, h) =>
      let r := h.call os request
      (r.1, m, r.2)
  | q, os, (m, h) =>
      let r := Monitor.act q os.outcome m
      (r.1, r.2, h)

/-! ## A monitor and its engine -/

/-- A monitor with its engine, and the task served last with its trace. -/
structure Site where
  monitor : Monitor
  engine : Host
  last : Option MonitorTask
  trace : MonitorTrace

/-- A task is served to its end, or a process ends. -/
inductive SiteAction where
  | serve (task : MonitorTask) (choices : Nat → CallChoice)
  | exit (process : Nat) (status : ExitStatus)

namespace Site

/-- The site after a task was served. -/
def serve (getenv : String → String) (task : MonitorTask) (choices : Nat → CallChoice) (s : Site) :
    Site :=
  let ended := (task.program getenv).run Monitor.actOver choices (s.monitor, s.engine)
  { monitor := ended.state.1
    engine := ended.state.2
    last := some task
    trace := (task.program getenv).trace Monitor.actOver choices (s.monitor, s.engine) }

/-- The site after an action. -/
def next (getenv : String → String) (s : Site) : SiteAction → Option Site
  | .serve task choices => some (s.serve getenv task choices)
  | .exit process status => some { s with engine := s.engine.finish process status }

end Site

/-- A fresh monitor with a fresh engine, and everything they do, one task at a time. -/
def site (getenv : String → String) : System Site SiteAction where
  init s := s.monitor.Fresh ∧ s.engine = Host.new ∧ s.last = none
  next := Site.next getenv

/-! ## Requests that enter `Standby` -/

/-- The task is a request to change the state. -/
def MonitorTask.isRequest : MonitorTask → Bool
  | .command _ => true
  | .restart _ => true
  | .remove => true
  | _ => false

/-- The engine has answered a stop with success. -/
def stopsAgent : MonitorEvent → Bool
  | ⟨.callAgent .stop, reply⟩ => (reply.result Monitor.discard).isOk
  | _ => false

/-- The state is set to `Standby`. -/
def entersStandby (e : MonitorEvent) : Bool := e.performed.sets = some .standby

/-- The stop of a removal succeeds: the monitor lets it call the engine, and the call succeeds. -/
def StopSucceeds (choices : Nat → CallChoice) (s : Monitor × Host) : Prop :=
  (s.1.state = .running ∨ s.1.state = .restarting) ∧
    ((s.2.call (choices 2) .stop).1.result Monitor.discard).isOk = true

instance (choices : Nat → CallChoice) (s : Monitor × Host) : Decidable (StopSucceeds choices s) :=
  inferInstanceAs (Decidable (_ ∧ _))

namespace Site

/-- The action is a removal that enters `Standby` although its stop fails. -/
def Abandons (s : Site) : SiteAction → Prop
  | .serve .remove choices =>
      ¬ (s.monitor.state = .failed ∨ s.monitor.state = .standby) ∧
        ¬ StopSucceeds choices (s.monitor, s.engine)
  | _ => False

instance (s : Site) (a : SiteAction) : Decidable (s.Abandons a) := by
  unfold Abandons
  split <;> infer_instance

end Site

/-! ## The engine after a call -/

namespace Host

variable {h : Host} {os : CallChoice}

theorem not_busy_finish (quiet : ¬ h.Busy) (process : Nat) (status : ExitStatus) :
    ¬ (h.finish process status).Busy := by
  rintro ⟨child, held, alive⟩
  rw [app_finish] at held
  exact quiet ⟨child, held, (alive_finish.mp alive).2⟩

/-- A stop that succeeded has let go of the process. -/
theorem not_busy_of_stopped (stopped : ((h.call os .stop).1.result Monitor.discard).isOk = true) :
    ¬ (h.call os .stop).2.Busy := by
  rw [call] at stopped ⊢
  cases transport : os.transport with
  | delivered =>
      simp only
      exact not_busy_of_none (Coherent.scriptProcess_stopScript _ os.stop)
  | lost cause =>
      rw [transport] at stopped
      cases stopped
  | cut cause =>
      rw [transport] at stopped
      cases stopped

end Host

/-! ## What an operation changes -/

/-- In `Standby`, and before the monitor has started, no process runs. -/
def Parked (s : Monitor × Host) : Prop :=
  s.1.state = .standby ∨ s.1.state = .initializing → ¬ s.2.Busy

/-- The monitor has started and is not in `Standby`. -/
def AtWork (s : Monitor × Host) : Prop := s.1.state ≠ .standby ∧ s.1.state ≠ .initializing

/-- The operation calls neither the engine nor sets a state other than `Failed`. -/
def MonitorOp.Aside (q : MonitorOp) : Prop :=
  (∀ request, q ≠ .callAgent request) ∧ ∀ newState ∈ q.sets, newState = Monitor.State.failed

section Operations

variable {α : Type} {s : Monitor × Host} {q : MonitorOp} {p : MonitorProgram α}

theorem AtWork.parked (working : AtWork s) : Parked s := by
  rintro (standby | initializing)
  · exact absurd standby working.1
  · exact absurd initializing working.2

theorem AtWork.of_launched (launched : s.1.state = .running ∨ s.1.state = .restarting) :
    AtWork s := by
  rcases launched with same | same <;> rw [AtWork, same] <;> decide

theorem AtWork.of_enter {m : Monitor} {h : Host} (newState : Monitor.State)
    (standby : newState ≠ .standby) (initializing : newState ≠ .initializing) :
    AtWork (m.enter newState, h) := by
  have entered := Monitor.state_enter (m := m) newState
  exact ⟨fun same => standby (entered.symm.trans same),
    fun same => initializing (entered.symm.trans same)⟩

/-- An operation sets its state, or leaves the state alone. -/
theorem state_actOver (q : MonitorOp) (os : CallChoice) (s : Monitor × Host) :
    (Monitor.actOver q os s).2.1.state = q.sets.getD s.1.state := by
  cases q with
  | setState newState => exact Monitor.state_enter newState
  | _ => rfl

/-- Only a call of the engine changes the engine. -/
theorem engine_actOver (other : ∀ request, q ≠ .callAgent request) (os : CallChoice) :
    (Monitor.actOver q os s).2.2 = s.2 := by
  cases q with
  | callAgent request => exact absurd rfl (other request)
  | _ => rfl

/-- A program that does not go back stays at work. -/
theorem AtWork.keeps {states : List Monitor.State} (enters : Monitor.Enters states p)
    (standby : Monitor.State.standby ∉ states) (initializing : Monitor.State.initializing ∉ states) :
    Keeps Monitor.actOver AtWork p := by
  refine Uses.keeps enters ?_
  intro q allowed os s working
  rw [AtWork, state_actOver]
  cases sets : q.sets with
  | none => exact working
  | some newState =>
      have mem := allowed newState sets
      exact ⟨fun same => standby (same ▸ mem), fun same => initializing (same ▸ mem)⟩

/-- A program beside the requests. -/
theorem Parked.keeps (aside : Uses MonitorOp.Aside p) : Keeps Monitor.actOver Parked p := by
  refine Uses.keeps aside ?_
  intro q ⟨other, fails⟩ os s parked
  rw [Parked, state_actOver, engine_actOver other]
  cases sets : q.sets with
  | none => exact parked
  | some newState =>
      obtain rfl := fails newState sets
      exact nofun

end Operations

/-! ## Requests -/

namespace Monitor

variable {α : Type} {m : Monitor} {h : Host} {s : Monitor × Host} {choices : Nat → CallChoice}

theorem run_getState_over (next : State → MonitorProgram α) :
    (perform MonitorOp.getState next).run Monitor.actOver choices s =
      (next s.1.state).run Monitor.actOver (fun n => choices (n + 1)) s := rfl

theorem run_setState_over (newState : State) (next : Unit → MonitorProgram α) :
    (perform (MonitorOp.setState newState) next).run Monitor.actOver choices s =
      (next ()).run Monitor.actOver (fun n => choices (n + 1)) (s.1.enter newState, s.2) := rfl

theorem run_callAgent_over (request : AgentRequest) (next : AgentReply → MonitorProgram α) :
    (perform (MonitorOp.callAgent request) next).run Monitor.actOver choices s =
      (next (s.2.call (choices 0) request).1).run Monitor.actOver (fun n => choices (n + 1))
        (s.1, (s.2.call (choices 0) request).2) := rfl

/-- The monitor stops its engine only while it is `Running` or `Restarting`. -/
theorem run_stopAgent_refused (other : s.1.state ≠ .running ∧ s.1.state ≠ .restarting) :
    stopAgent.run Monitor.actOver choices s =
      ⟨.error .invalidState, s, fun n => choices (n + 1)⟩ := by
  simp only [stopAgent, getState, op_bind, run_getState_over]
  rw [if_pos other]
  rfl

/-- The stop of the engine. -/
theorem run_stopAgent_over (allowed : s.1.state = .running ∨ s.1.state = .restarting) :
    stopAgent.run Monitor.actOver choices s =
      ⟨match (s.2.call (choices 1) .stop).1.result discard with
        | .error err => .error (.notStopped err)
        | .ok _ => .ok (),
        (s.1, (s.2.call (choices 1) .stop).2), fun n => choices (n + 2)⟩ := by
  have goesOn : ¬ (s.1.state ≠ .running ∧ s.1.state ≠ .restarting) := by tauto
  simp only [stopAgent, getState, op_bind, run_getState_over]
  rw [if_neg goesOn]
  simp only [callAgentEndpoint, callAgent, op_bind, perform_bind, pure_eq, done_bind,
    run_callAgent_over]
  cases AgentReply.result discard (s.2.call (choices (0 + 1)) .stop).1 with
  | error err => rfl
  | ok _ => rfl

/-- A start by command leaves `Standby` when it calls the engine. -/
theorem parked_commandStart (envVars : Option Env) :
    Keeps Monitor.actOver Parked (commandStart envVars) := by
  intro choices s parked
  simp only [commandStart, getState, op_bind, run_getState_over]
  split
  · exact parked
  · rw [run_bind]
    cases ((startAgent envVars).run Monitor.actOver (fun n => choices (n + 1)) s).value with
    | error err => exact (AtWork.of_enter .failed (by decide) (by decide)).parked
    | ok _ => exact (AtWork.of_enter .running (by decide) (by decide)).parked

/-- A stop by command enters `Standby` when the engine has let go of the process. -/
theorem parked_commandStop : Keeps Monitor.actOver Parked commandStop := by
  intro choices s parked
  rw [commandStop, run_bind]
  by_cases other : s.1.state ≠ .running ∧ s.1.state ≠ .restarting
  · rw [run_stopAgent_refused other]
    exact parked
  · have allowed : s.1.state = .running ∨ s.1.state = .restarting := by tauto
    rw [run_stopAgent_over allowed]
    cases stopped : AgentReply.result discard (s.2.call (choices 1) .stop).1 with
    | error err =>
        apply AtWork.parked
        exact AtWork.of_launched allowed
    | ok _ => exact fun _ => Host.not_busy_of_stopped (by rw [stopped]; rfl)

/-- A restart by command leaves `Standby` before it calls the engine. -/
theorem parked_commandRestart (envVars : Option Env) :
    Keeps Monitor.actOver Parked (commandRestart envVars) := by
  intro choices s parked
  have enters := enters_commandRestart envVars
  simp only [commandRestart, getState, setState, op_bind, run_getState_over] at enters ⊢
  replace enters := enters.2 s.1.state
  beta_reduce at enters
  split at enters
  · next refused =>
      rw [if_pos refused]
      exact parked
  · next allowed =>
      rw [if_neg allowed]
      exact (AtWork.keeps (enters.2 ()) (by decide) (by decide) _ _
        (AtWork.of_enter .restarting (by decide) (by decide))).parked

theorem parked_handleCommand (cmd : Option CommandRequest) :
    Keeps Monitor.actOver Parked (handleCommand cmd) := by
  cases cmd with
  | none => exact Keeps.done _
  | some cmd =>
      rw [handleCommand]
      refine Keeps.ite (fun _ => parked_commandStart cmd.envVars) fun _ => ?_
      refine Keeps.ite (fun _ => parked_commandStop) fun _ => ?_
      exact Keeps.ite (fun _ => parked_commandRestart cmd.envVars) fun _ => Keeps.done _

/-- So does a restart by configuration. -/
theorem parked_handleRestart (getenv : String → String) (config : Option RestartConfig) :
    Keeps Monitor.actOver Parked (handleRestart getenv config) := by
  intro choices s parked
  have enters := enters_handleRestart getenv config
  simp only [handleRestart, getState, setState, op_bind, run_getState_over] at enters ⊢
  replace enters := enters.2 s.1.state
  beta_reduce at enters
  by_cases failed : s.1.state = .failed
  · rw [if_pos failed]
    exact parked
  · rw [if_neg failed] at enters ⊢
    cases config with
    | none => exact parked
    | some config =>
        rw [run_setState_over]
        exact (AtWork.keeps (enters.2 ()) (by decide) (by decide) _ _
          (AtWork.of_enter .restarting (by decide) (by decide))).parked

/-- A removal keeps it when its stop succeeds. -/
theorem parked_handleRemove
    (stops : ¬ (s.1.state = .failed ∨ s.1.state = .standby) → StopSucceeds choices s)
    (parked : Parked s) : Parked (handleRemove.run Monitor.actOver choices s).state := by
  simp only [handleRemove, getState, op_bind, run_getState_over]
  split
  · exact parked
  · next goesOn =>
      obtain ⟨allowed, stopped⟩ := stops goesOn
      rw [run_bind, run_stopAgent_over allowed]
      exact fun _ => Host.not_busy_of_stopped stopped

/-! ## The tasks beside the requests -/

/-- The program does not call the engine. -/
def Uncalling {α : Type} (p : MonitorProgram α) : Prop :=
  Uses (fun q => ∀ request, q ≠ .callAgent request) p

theorem engine_run_over {p : MonitorProgram α} (uncalling : Uncalling p)
    (choices : Nat → CallChoice) (s : Monitor × Host) :
    (p.run Monitor.actOver choices s).state.2 = s.2 := by
  refine Uses.keeps (P := fun now => now.2 = s.2) uncalling ?_ choices s rfl
  intro q other os now same
  rw [engine_actOver other, same]

theorem uncalling_registerAttempts (req : RegisterRequest) (left : Nat) (lastErr : Option String) :
    Uncalling (registerAttempts req left lastErr) := by
  induction left generalizing lastErr with
  | zero => trivial
  | succ left ih =>
      refine ⟨nofun, ?_⟩
      intro answer
      cases answer with
      | none => trivial
      | some err => exact Uses.ite (ih (some err)) trivial

theorem uncalling_start (getenv : String → String) : Uncalling (start getenv) := by
  refine ⟨nofun, fun currentState => Uses.ite trivial ⟨nofun, fun m => ?_⟩⟩
  apply Uses.bind (uncalling_registerAttempts _ _ _)
  intro r
  rcases r with err | ⟨_ | lastErr⟩
  · trivial
  · exact ⟨nofun, fun _ => trivial⟩
  · exact ⟨nofun, fun _ => trivial⟩

/-- A monitor starts in `Initializing`, without a call of its engine. -/
theorem parked_start (getenv : String → String) : Keeps Monitor.actOver Parked (start getenv) := by
  intro choices s parked
  by_cases initializing : s.1.state = .initializing
  · intro _
    rw [engine_run_over (uncalling_start getenv)]
    exact parked (.inr initializing)
  · simp only [start, getState, op_bind, run_getState_over]
    rw [if_pos initializing]
    exact parked

theorem aside_heartbeatTurn : Uses MonitorOp.Aside heartbeatTurn := by
  refine ⟨⟨nofun, nofun⟩, fun currentState => Uses.ite trivial ⟨⟨nofun, nofun⟩, fun m =>
    ⟨⟨nofun, nofun⟩, ?_⟩⟩⟩
  intro answer
  cases answer with
  | none => trivial
  | some err =>
      refine Uses.ite ⟨⟨nofun, ?_⟩, fun _ => trivial⟩ trivial
      exact fun newState sets => (Option.mem_some_iff.mp sets).symm

theorem aside_handleLogCCL (log : Option CclLog) : Uses MonitorOp.Aside (handleLogCCL log) := by
  cases log with
  | none => trivial
  | some log => exact Uses.ite ⟨⟨nofun, nofun⟩, fun _ => trivial⟩ trivial

theorem aside_handleMetrics : Uses MonitorOp.Aside handleMetrics :=
  ⟨⟨nofun, nofun⟩, fun _ => ⟨⟨nofun, nofun⟩, fun _ => ⟨⟨nofun, nofun⟩, fun _ => trivial⟩⟩⟩

/-- The metrics goroutine calls the engine while the monitor is `Running`. -/
theorem parked_sendMetrics : Keeps Monitor.actOver Parked sendMetrics := by
  intro choices s parked
  have enters := enters_sendMetrics
  simp only [sendMetrics, getState, op_bind, run_getState_over] at enters ⊢
  replace enters := enters.2 s.1.state
  beta_reduce at enters
  by_cases running : s.1.state ≠ .running
  · rw [if_pos running]
    exact parked
  · rw [if_neg running] at enters ⊢
    exact (AtWork.keeps enters (by decide) (by decide) _ _
      (AtWork.of_launched (.inl (not_not.mp running)))).parked

end Monitor

/-! ## Every task -/

section Tasks

variable {getenv : String → String} {s : Site} {choices : Nat → CallChoice}

/-- What `Abandons` leaves of a removal. -/
theorem stops_of_not_abandons (kept : ¬ s.Abandons (.serve .remove choices)) :
    ¬ (s.monitor.state = .failed ∨ s.monitor.state = .standby) →
      StopSucceeds choices (s.monitor, s.engine) :=
  fun goesOn => not_not.mp fun fails => kept ⟨goesOn, fails⟩

/-- **Every task** keeps `Standby` free of processes, a removal if its stop succeeds. -/
theorem parked_serve {task : MonitorTask} (kept : ¬ s.Abandons (.serve task choices))
    (parked : Parked (s.monitor, s.engine)) :
    Parked ((task.program getenv).run Monitor.actOver choices (s.monitor, s.engine)).state := by
  have ended {β : Type} {p : MonitorProgram β} (keeps : Keeps Monitor.actOver Parked p) :
      Parked ((p >>= fun _ => pure ()).run Monitor.actOver choices (s.monitor, s.engine)).state :=
    keeps.bind (fun _ => Keeps.done ()) choices _ parked
  cases task with
  | command cmd => exact ended (Monitor.parked_handleCommand cmd)
  | restart config => exact ended (Monitor.parked_handleRestart getenv config)
  | remove =>
      rw [MonitorTask.program, run_bind]
      exact Monitor.parked_handleRemove (stops_of_not_abandons kept) parked
  | logCCL log => exact ended (Parked.keeps (Monitor.aside_handleLogCCL log))
  | metrics => exact ended (Parked.keeps Monitor.aside_handleMetrics)
  | start => exact ended (Monitor.parked_start getenv)
  | heartbeat => exact ended (Parked.keeps Monitor.aside_heartbeatTurn)
  | sendMetrics => exact ended Monitor.parked_sendMetrics

/-! ### The stop before `Standby` -/

/-- `Standby` is set after a stop of the engine that succeeded. -/
def StopsFirst (t : MonitorTrace) (q : MonitorOp) : Prop :=
  q.sets = some .standby → t.any stopsAgent = true

theorem stopsFirst_of_quiet {t : MonitorTrace} {q : MonitorOp}
    (quiet : decide (q.sets = some .standby) = false) : StopsFirst t q :=
  fun sets => absurd sets (of_decide_eq_false quiet)

theorem along_stopAgent_first (t : MonitorTrace) :
    Along StopsFirst (fun t r => r = .ok () → t.any stopsAgent = true) t Monitor.stopAgent := by
  rw [Monitor.stopAgent]
  simp only [Monitor.getState, Monitor.callAgentEndpoint, Monitor.callAgent, op_bind, perform_bind,
    pure_eq, done_bind, along_perform]
  refine ⟨stopsFirst_of_quiet rfl, ?_⟩
  intro currentState
  split
  · intro refused
    cases refused
  · refine ⟨stopsFirst_of_quiet rfl, ?_⟩
    intro reply
    beta_reduce
    cases stopped : AgentReply.result Monitor.discard reply with
    | error err =>
        intro refused
        cases refused
    | ok _ =>
        intro _
        simp [stopsAgent, stopped, Except.isOk, Except.toBool]

theorem along_commandStop_first : Along StopsFirst (fun _ _ => True) [] Monitor.commandStop := by
  apply (along_stopAgent_first []).bind
  intro t r stopped
  cases r with
  | error err => trivial
  | ok _ => exact ⟨fun _ => stopped rfl, fun _ => trivial⟩

/-- A request that enters `Standby` has stopped the engine. -/
def StopsBeforeStandby (t : MonitorTrace) : Prop :=
  t.any entersStandby = true → t.any stopsAgent = true

theorem stopsBeforeStandby_of_along {α : Type} {p : MonitorProgram α}
    (along : Along StopsFirst (fun _ _ => True) [] p) (choices : Nat → CallChoice)
    (s : Monitor × Host) : StopsBeforeStandby (p.trace Monitor.actOver choices s) := by
  intro enters
  obtain ⟨e, mem, sets⟩ := List.any_eq_true.mp enters
  obtain ⟨before, after, split⟩ := List.append_of_mem mem
  have stopped := (along.run choices s).2 before e after split (of_decide_eq_true sets)
  rw [split, List.any_append, show before.any stopsAgent = true from stopped, Bool.true_or]

theorem stopsBeforeStandby_of_enters {α : Type} {states : List Monitor.State} {p : MonitorProgram α}
    (enters : Monitor.Enters states p) (never : Monitor.State.standby ∉ states)
    (choices : Nat → CallChoice) (s : Monitor × Host) :
    StopsBeforeStandby (p.trace Monitor.actOver choices s) :=
  stopsBeforeStandby_of_along
    (enters.along fun _ _ allowed sets => absurd (allowed _ sets) never) choices s

theorem any_stopsAgent_stopAgent (choices : Nat → CallChoice) (s : Monitor × Host) :
    (Monitor.stopAgent.trace Monitor.actOver (fun n => choices (n + 1)) s).any stopsAgent = true ↔
      StopSucceeds choices s := by
  simp only [Monitor.stopAgent, Monitor.getState, Monitor.callAgentEndpoint, Monitor.callAgent,
    op_bind, perform_bind, pure_eq, done_bind, trace]
  rw [show (Monitor.actOver .getState (choices (0 + 1)) s) = (s.1.state, s) from rfl]
  simp only
  by_cases refused : s.1.state ≠ .running ∧ s.1.state ≠ .restarting
  · rw [if_pos refused]
    refine iff_of_false (by simp [trace, stopsAgent]) ?_
    rintro ⟨running | restarting, _⟩
    · exact refused.1 running
    · exact refused.2 restarting
  · have allowed : s.1.state = .running ∨ s.1.state = .restarting := by tauto
    rw [if_neg refused, StopSucceeds, and_iff_right allowed, trace]
    change _ ↔ (AgentReply.result Monitor.discard (s.2.call (choices 2) .stop).1).isOk = true
    rw [show (Monitor.actOver (.callAgent .stop) (choices (0 + 1 + 1)) s).1 =
      (s.2.call (choices 2) .stop).1 from rfl]
    cases result : (s.2.call (choices 2) .stop).1.result Monitor.discard with
    | error err => simp [trace, stopsAgent, result]
    | ok _ => simp [trace, stopsAgent, result]

/-- **A removal** enters `Standby` after a stop that succeeded, exactly if its stop succeeds. -/
theorem stopsBeforeStandby_handleRemove (choices : Nat → CallChoice) (s : Monitor × Host) :
    StopsBeforeStandby (Monitor.handleRemove.trace Monitor.actOver choices s) ↔
      (¬ (s.1.state = .failed ∨ s.1.state = .standby) → StopSucceeds choices s) := by
  simp only [Monitor.handleRemove, Monitor.getState, op_bind, trace]
  rw [show (Monitor.actOver .getState (choices 0) s) = (s.1.state, s) from rfl]
  simp only
  split
  · next refused =>
      refine iff_of_true (fun enters => ?_) fun goesOn => absurd refused goesOn
      cases enters
  · next goesOn =>
      rw [StopsBeforeStandby, trace_bind, ← any_stopsAgent_stopAgent]
      simp [Monitor.setState, trace, stopsAgent, entersStandby, MonitorOp.sets, goesOn]

/-- **A request enters `Standby` only after a stop that succeeded**, a removal if its stop succeeds. -/
theorem stopsBeforeStandby_serve {task : MonitorTask} (request : task.isRequest = true)
    (kept : ¬ s.Abandons (.serve task choices)) :
    StopsBeforeStandby
      ((task.program getenv).trace Monitor.actOver choices (s.monitor, s.engine)) := by
  have other (never : Monitor.State.standby ∉ task.enters) : StopsBeforeStandby
      ((task.program getenv).trace Monitor.actOver choices (s.monitor, s.engine)) :=
    stopsBeforeStandby_of_enters (task.enters_program getenv) never choices _
  cases task with
  | command cmd =>
      cases cmd with
      | none => exact nofun
      | some cmd =>
          by_cases stop : cmd.command = "stop"
          · have program : (MonitorTask.command (some cmd)).program getenv =
                Monitor.commandStop >>= fun _ => pure () := by
              rw [MonitorTask.program, Monitor.handleCommand, stop]
              rfl
            rw [program]
            exact stopsBeforeStandby_of_along
              (along_commandStop_first.bind fun t _ _ => (along_done ()).mpr trivial) choices _
          · apply other
            rw [MonitorTask.enters, CommandRequest.enters, if_neg stop]
            split <;> try split
            all_goals decide
  | restart config =>
      apply other
      rw [MonitorTask.enters]
      decide
  | remove =>
      rw [MonitorTask.program, trace_bind]
      have first := (stopsBeforeStandby_handleRemove choices (s.monitor, s.engine)).mpr
        (stops_of_not_abandons kept)
      rwa [StopsBeforeStandby, pure_eq, trace, List.append_nil]
  | _ => cases request

end Tasks

/-! ## Runs -/

/-- A request served last has stopped the engine if it has entered `Standby`. -/
def Site.Stopped (s : Site) : Prop :=
  ∀ task, s.last = some task → task.isRequest = true → StopsBeforeStandby s.trace

/-- In `Standby` the engine has no running process, and a request that has entered `Standby` has
stopped the engine. -/
structure Site.Settled (s : Site) : Prop where
  idle : s.monitor.state = .standby → ¬ s.engine.Busy
  stopped : s.Stopped

/-- An action keeps `Standby` free of processes, a removal if its stop succeeds. -/
theorem Site.settled_next {getenv : String → String} {s s' : Site} {a : SiteAction}
    (parked : Parked (s.monitor, s.engine)) (stopped : s.Stopped) (kept : ¬ s.Abandons a)
    (next : (site getenv).next s a = some s') :
    Parked (s'.monitor, s'.engine) ∧ s'.Stopped := by
  cases a with
  | serve task choices =>
      cases next
      refine ⟨parked_serve kept parked, ?_⟩
      intro served last request
      cases last
      exact stopsBeforeStandby_serve request kept
  | exit process status =>
      cases next
      exact ⟨fun settled => Host.not_busy_finish (parked settled) process status, stopped⟩

/-- **Standby means that no process runs**, along every run in which a removal only goes on when its
stop succeeds. -/
theorem idle_of_run {getenv : String → String} {s : Site}
    (run : (site getenv).Run (fun s a => ¬ s.Abandons a) s) : s.Settled := by
  obtain ⟨parked, stopped⟩ : Parked (s.monitor, s.engine) ∧ s.Stopped := by
    apply run.induct (I := fun s => Parked (s.monitor, s.engine) ∧ s.Stopped)
    · intro s ⟨_, engine, last⟩
      constructor
      · rw [engine]
        exact fun _ => Host.not_busy_of_none rfl
      · intro task served
        rw [last] at served
        cases served
    · exact fun s a s' ⟨parked, stopped⟩ kept next => s.settled_next parked stopped kept next
  exact ⟨fun standby => parked (.inl standby), stopped⟩

/-- A removal that enters `Standby` although its stop fails breaks this. -/
theorem not_settled_of_abandons {getenv : String → String} {s s' : Site} {a : SiteAction}
    (abandons : s.Abandons a) (next : (site getenv).next s a = some s') : ¬ s'.Settled := by
  intro settled
  cases a with
  | exit process status => exact abandons
  | serve task choices =>
      cases next
      cases task with
      | remove =>
          obtain ⟨goesOn, fails⟩ := abandons
          have stopped := settled.stopped .remove rfl rfl
          rw [StopsBeforeStandby, Site.serve, MonitorTask.program, trace_bind, pure_eq, trace,
            List.append_nil] at stopped
          exact fails ((stopsBeforeStandby_handleRemove choices (s.monitor, s.engine)).mp stopped goesOn)
      | _ => exact abandons

/-- Every call of the engine is delivered. -/
def CallChoice.healthy : CallChoice := { RouteChoice.healthy with }

/-- No call of the engine arrives. -/
def CallChoice.disconnected : CallChoice :=
  { RouteChoice.healthy with transport := .lost "connection refused" }

/-- A monitor that has started its engine by command. -/
def launching : List SiteAction :=
  [.serve .start fun _ => .healthy, .serve (.command (some ⟨"start", none⟩)) fun _ => .healthy]

theorem initial_site (getenv : String → String) : (site getenv).init
    ⟨Monitor.new "a.ns.1" "http://a.ns:1" 0 3, Host.new, none, []⟩ :=
  ⟨⟨_, _, _, _, rfl⟩, rfl, rfl⟩

/-- A stop by command and a removal. -/
theorem idle_removed : ∃ s : Site, s.last.isSome = true ∧ s.monitor.state = .standby ∧ s.Settled := by
  obtain ⟨s, run, holds⟩ := System.exists_run (S := site fun _ => "")
    (C := fun s a => ¬ s.Abandons a) (fun s a => decide (¬ s.Abandons a))
    (launching ++ [.serve (.command (some ⟨"stop", none⟩)) fun _ => .healthy] ++
      [.serve (.command (some ⟨"start", none⟩)) fun _ => .healthy, .serve .remove fun _ => .healthy])
    (fun s => s.last.isSome && decide (s.monitor.state = .standby))
    (fun _ _ _ allowed => of_decide_eq_true allowed) (initial_site _) (by decide +kernel)
  rw [Bool.and_eq_true, decide_eq_true_eq] at holds
  exact ⟨s, holds.1, holds.2, idle_of_run run⟩

/-- A removal whose stop does not arrive leaves the process running, and the monitor in `Standby`. -/
theorem busy_removed : ∃ s, (site fun _ => "").Reachable s ∧ s.last.map MonitorTask.isRequest = some true ∧
    s.monitor.state = .standby ∧ s.engine.Busy ∧ s.trace.any entersStandby = true ∧
      s.trace.any stopsAgent = false := by
  obtain ⟨s, reachable, holds⟩ := System.exists_reachable (S := site fun _ => "")
    (launching ++ [.serve .remove fun _ => .disconnected])
    (fun s => decide (s.last.map MonitorTask.isRequest = some true ∧ s.monitor.state = .standby ∧
      s.engine.Busy ∧ s.trace.any entersStandby = true ∧ s.trace.any stopsAgent = false))
    (initial_site _) (by decide +kernel)
  exact ⟨s, reachable, of_decide_eq_true holds⟩

end C4D
