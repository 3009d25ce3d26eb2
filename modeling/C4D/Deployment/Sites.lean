import C4D.Monitor.LeftRunning
import C4D.Server.RunningRanks

/-!
# The nodes behind the commands of the server

Behind every URL of a node is a site: a monitor with its engine. A command that the server posts is
served there with the environment variables it carries, unless it does not arrive.

A command that is answered 200 has left the site with a running process that has the rank, the
world size and the master address of the command (`trains_of_accepted`). Commands to
different URLs do not meet (`postAll_of_mem`).
-/

set_option autoImplicit false

namespace C4D

open Foundations Program

/-! ## Commands at a site -/

/-- The name of a command in its JSON record. -/
def CommandName.text : CommandName → String
  | .start => "start"
  | .restart => "restart"

namespace Command

/-- The environment variables of a command. -/
def envVars (c : Command) : Env :=
  (((AList.insert "MASTER_PORT" c.masterPort (∅ : Env)).insert "MASTER_ADDR" c.masterAddr).insert
    "WORLD_SIZE" (toString c.worldSize)).insert "RANK" (toString c.rank)

/-- The body that is posted. -/
def request (c : Command) : CommandRequest := ⟨c.command.text, some c.envVars⟩

/-- A monitor with its engine serves a command. -/
def serve (c : Command) (choices : Nat → CallChoice) (s : Monitor × Host) :
    Ended MonitorReply (Monitor × Host) CallChoice :=
  (Monitor.handleCommand (some c.request)).run Monitor.actOver choices s

/-- The command is answered 200. -/
def Accepted (c : Command) (choices : Nat → CallChoice) (s : Monitor × Host) : Prop :=
  (c.serve choices s).value.code = 200

instance (c : Command) (choices : Nat → CallChoice) (s : Monitor × Host) :
    Decidable (c.Accepted choices s) := inferInstanceAs (Decidable (_ = _))

theorem assigns_envVars (c : Command) :
    c.envVars.Assigns c.rank c.worldSize c.masterAddr c.masterPort where
  rank := by simp [envVars]
  worldSize := by simp [envVars]
  masterAddr := by simp [envVars]
  masterPort := by simp [envVars, -AList.insert_empty]

end Command

/-- The monitor is in `Running` and its engine runs a process with some environment. -/
structure Trains (P : Env → Prop) (s : Monitor × Host) : Prop where
  running : s.1.state = .running
  process : ∃ child ∈ s.2.app.scriptProcess, ∃ p, s.2.processes[child.process]? = some p ∧
    (∃ env ∈ p.envVars, P env) ∧ p.status = none

theorem Coherent.attached {h : Host} (coherent : Coherent h) : h.Attached := by
  intro child held
  obtain ⟨_, process, _, found, _⟩ := coherent child held
  exact (List.getElem?_eq_some_iff.mp found).1

namespace Monitor

variable {m : Monitor} {h : Host} {choices : Nat → CallChoice} {envVars : Option Env}

/-- A start of the engine that returns nil has launched a process. -/
theorem launched_of_startAgent (attached : h.Attached)
    (returns : ((startAgent envVars).run actOver choices (m, h)).value = .ok ()) :
    ∃ before reply,
      Host.Launched before envVars reply ((startAgent envVars).run actOver choices (m, h)).state.2 := by
  by_cases allowed : m.state = .initializing ∨ m.state = .standby ∨ m.state = .restarting
  · obtain ⟨run, _⟩ := run_startAgent_over envVars choices h allowed
    rw [run] at returns ⊢
    obtain ⟨_, last, c, _, _, _, launched⟩ :=
      startedLast_startAttempts envVars 5 none _ m h attached returns
    exact ⟨last, _, launched⟩
  · have refused : m.state ≠ .initializing ∧ m.state ≠ .standby ∧ m.state ≠ .restarting := by tauto
    simp only [startAgent, getState, op_bind, run_getState_over] at returns
    rw [if_pos refused] at returns
    cases returns

/-- The end of both commands: the engine is started, and the monitor is in `Running` if that succeeds. -/
theorem trains_of_started {P : Env → Prop} {env : Env} (carried : P env) (attached : h.Attached)
    (returns : ((startAgent (some env)).run actOver choices (m, h)).value = .ok ()) :
    Trains P ((((startAgent (some env)).run actOver choices (m, h)).state.1.enter .running),
      ((startAgent (some env)).run actOver choices (m, h)).state.2) := by
  obtain ⟨_, _, launched⟩ := launched_of_startAgent attached returns
  obtain ⟨child, held, _, p, found, carries, alive⟩ := launched.tracked
  exact ⟨state_enter .running, child, held, p, found, ⟨env, carries, carried⟩, alive⟩

/-- A start by command that is answered 200. -/
theorem trains_commandStart {P : Env → Prop} {env : Env} (carried : P env) (attached : h.Attached)
    (answered : ((commandStart (some env)).run actOver choices (m, h)).value.code = 200) :
    Trains P ((commandStart (some env)).run actOver choices (m, h)).state := by
  simp only [commandStart, getState, op_bind, run_getState_over] at answered ⊢
  split at answered
  · cases answered
  · next standby =>
      rw [if_neg standby]
      rw [run_bind] at answered ⊢
      cases value : ((startAgent (some env)).run actOver (fun n => choices (n + 1)) (m, h)).value with
      | error err =>
          rw [value] at answered
          cases answered
      | ok _ => exact trains_of_started carried attached value

/-- The second half of a restart by command. -/
theorem trains_commandStartAgain {P : Env → Prop} {env : Env} (carried : P env)
    (attached : h.Attached)
    (answered : ((commandStartAgain (some env)).run actOver choices (m, h)).value.code = 200) :
    Trains P ((commandStartAgain (some env)).run actOver choices (m, h)).state := by
  rw [commandStartAgain, run_bind] at answered ⊢
  cases value : ((startAgent (some env)).run actOver choices (m, h)).value with
  | error err =>
      rw [value] at answered
      cases answered
  | ok _ => exact trains_of_started carried attached value

/-- A restart by command that is answered 200. -/
theorem trains_commandRestart {P : Env → Prop} {env : Env} (carried : P env) (attached : h.Attached)
    (answered : ((commandRestart (some env)).run actOver choices (m, h)).value.code = 200) :
    Trains P ((commandRestart (some env)).run actOver choices (m, h)).state := by
  simp only [commandRestart, getState, setState, op_bind, run_getState_over] at answered ⊢
  split at answered
  · cases answered
  · next allowed =>
      rw [if_neg allowed]
      simp only [run_setState_over] at answered ⊢
      split at answered
      · next running =>
          rw [if_pos running]
          rw [run_bind] at answered ⊢
          have stops := @run_stopAgent_over (m.enter .restarting, h)
            (fun n => choices (n + 1 + 1)) (.inr (state_enter _))
          rw [stops] at answered ⊢
          dsimp only at answered ⊢
          cases stopped : (h.call (choices (1 + 1 + 1)) .stop).1.result discard with
          | error err =>
              rw [stopped] at answered
              cases answered
          | ok _ =>
              rw [stopped] at answered
              exact trains_commandStartAgain carried (Host.attached_call_stop attached _).1 answered
      · next other =>
          rw [if_neg other]
          exact trains_commandStartAgain carried attached answered

end Monitor

/-- **What an accepted command leaves behind.** -/
theorem trains_of_accepted {c : Command} {choices : Nat → CallChoice} {s : Monitor × Host}
    (attached : s.2.Attached) (accepted : c.Accepted choices s) :
    Trains (Env.Assigns c.rank c.worldSize c.masterAddr c.masterPort) (c.serve choices s).state := by
  have carried := c.assigns_envVars
  cases named : c.command with
  | start =>
      have route : Monitor.handleCommand (some c.request) = Monitor.commandStart (some c.envVars) := by
        simp [Monitor.handleCommand, Command.request, named, CommandName.text]
      rw [Command.Accepted, Command.serve, route] at accepted
      rw [Command.serve, route]
      exact Monitor.trains_commandStart carried attached accepted
  | restart =>
      have route : Monitor.handleCommand (some c.request) = Monitor.commandRestart (some c.envVars) := by
        simp [Monitor.handleCommand, Command.request, named, CommandName.text]
      rw [Command.Accepted, Command.serve, route] at accepted
      rw [Command.serve, route]
      exact Monitor.trains_commandRestart carried attached accepted

/-! ## Engines under commands -/

/-- The operation only asks certain things of the engine. -/
def MonitorOp.Asks (allowed : AgentRequest → Prop) (q : MonitorOp) : Prop :=
  ∀ request, q = .callAgent request → allowed request

/-- A stop, or a start with the given environment. -/
def AgentRequest.Commanded (envVars : Option Env) (request : AgentRequest) : Prop :=
  request = .stop ∨ request = .start envVars

/-- The program only asks the engine for stops, and for starts with the given environment. -/
abbrev Commands {α : Type} (envVars : Option Env) (p : MonitorProgram α) : Prop :=
  Uses (MonitorOp.Asks (AgentRequest.Commanded envVars)) p

/-- What such requests keep of the engine is kept. -/
theorem keeps_of_asks {α : Type} {allowed : AgentRequest → Prop} {p : MonitorProgram α}
    {P : Host → Prop} (asks : Uses (MonitorOp.Asks allowed) p)
    (kept : ∀ request, allowed request → ∀ h os, P h → P (h.call os request).2) :
    Keeps Monitor.actOver (fun s => P s.2) p := by
  refine Uses.keeps asks ?_
  intro q asks os s holds
  by_cases calls : ∃ request, q = .callAgent request
  · obtain ⟨request, rfl⟩ := calls
    exact kept request (asks request rfl) s.2 os holds
  · rw [engine_actOver fun request same => calls ⟨request, same⟩]
    exact holds

namespace Monitor

/-- A stop only asks for a stop. -/
theorem stops_stopAgent : Uses (MonitorOp.Asks (· = .stop)) stopAgent := by
  rw [stopAgent]
  simp only [getState, callAgentEndpoint, callAgent, op_bind, perform_bind, pure_eq, done_bind]
  refine .perform (fun _ same => by cases same) fun _ =>
    .ite (.done _) (.perform (fun _ same => ?_) fun reply => ?_)
  · cases same
    rfl
  · split
    · exact .done _
    · exact .done _

theorem stops_commandStop : Uses (MonitorOp.Asks (· = .stop)) commandStop := by
  apply stops_stopAgent.bind
  intro r
  cases r with
  | error err => exact .done _
  | ok _ => exact .perform nofun fun _ => .done _

variable (envVars : Option Env)

theorem commands_of_stops {α : Type} {p : MonitorProgram α}
    (stops : Uses (MonitorOp.Asks (· = .stop)) p) : Commands envVars p :=
  stops.mono fun _ asks request same => .inl (asks request same)

theorem commands_startAttempts (left : Nat) (lastErr : Option AgentError) :
    Commands envVars (startAttempts envVars left lastErr) := by
  induction left generalizing lastErr with
  | zero => exact .done _
  | succ left ih =>
      rw [startAttempts]
      simp only [callAgentEndpoint, callAgent, op_bind, perform_bind, pure_eq, done_bind]
      refine .perform (fun _ same => ?_) fun reply => ?_
      · cases same
        exact .inr rfl
      · split
        · refine .ite (.perform (fun _ same => ?_) fun stopped => ?_) (ih _)
          · cases same
            exact .inl rfl
          · split
            · exact .done _
            · exact ih _
        · exact .ite (ih _) (.done _)

theorem commands_startAgent : Commands envVars (startAgent envVars) :=
  .perform nofun fun _ => .ite (.done _) (commands_startAttempts envVars 5 none)

theorem commands_commandStart : Commands envVars (commandStart envVars) := by
  refine .perform nofun fun currentState => .ite (.done _) ?_
  apply (commands_startAgent envVars).bind
  intro r
  cases r with
  | error err => exact .perform nofun fun _ => .done _
  | ok _ => exact .perform nofun fun _ => .done _

theorem commands_commandStartAgain : Commands envVars (commandStartAgain envVars) := by
  apply (commands_startAgent envVars).bind
  intro r
  cases r with
  | error err => exact .perform nofun fun _ => .done _
  | ok _ => exact .perform nofun fun _ => .done _

theorem commands_commandRestart : Commands envVars (commandRestart envVars) := by
  refine .perform nofun fun currentState => .ite (.done _) (.perform nofun fun _ => .ite ?_ ?_)
  · apply (commands_of_stops envVars stops_stopAgent).bind
    intro r
    cases r with
    | error err => exact .perform nofun fun _ => .done _
    | ok _ => exact commands_commandStartAgain envVars
  · exact commands_commandStartAgain envVars

theorem commands_handleCommand (cmd : CommandRequest) :
    Commands cmd.envVars (handleCommand (some cmd)) :=
  .ite (commands_commandStart _) (.ite (commands_of_stops _ stops_commandStop)
    (.ite (commands_commandRestart _) (.done _)))

end Monitor

/-- What holds of every engine after a start with the environment of the command and after a stop, holds
after the command. -/
theorem Command.keeps {P : Host → Prop} {c : Command} {choices : Nat → CallChoice}
    {s : Monitor × Host}
    (start : ∀ h os, P h → P (h.call os (.start (some c.envVars))).2)
    (stop : ∀ h os, P h → P (h.call os .stop).2) (holds : P s.2) : P (c.serve choices s).state.2 := by
  refine keeps_of_asks (Monitor.commands_handleCommand c.request) ?_ choices s holds
  rintro request (rfl | rfl) h os holds
  · exact stop h os holds
  · exact start h os holds

theorem Command.attached_serve {c : Command} {choices : Nat → CallChoice} {s : Monitor × Host}
    (attached : s.2.Attached) : (c.serve choices s).state.2.Attached :=
  Command.keeps (fun _ os attached => (Host.attached_call_start attached os _).1)
    (fun _ os attached => (Host.attached_call_stop attached os).1) attached

/-! ## All sites -/

/-- The monitors with their engines, by the URLs of their nodes. A site serves a command in one step: no
other request and no goroutine of the monitor comes in between. -/
abbrev Sites := String → Monitor × Host

/-- What the environment decides about a command that is posted to a URL. -/
structure Errand where
  transport : Transport := .delivered
  calls : Nat → CallChoice := fun _ => .healthy

namespace Sites

/-- Every engine has spawned the process it holds, if it holds one. -/
def Attached (sites : Sites) : Prop := ∀ url, (sites url).2.Attached

/-- The post of a command is answered 200. -/
def Confirms (errands : String → Errand) (sites : Sites) (c : Command) : Prop :=
  (errands c.nodeURL).transport = .delivered ∧ c.Accepted (errands c.nodeURL).calls (sites c.nodeURL)

instance (errands : String → Errand) (sites : Sites) (c : Command) :
    Decidable (sites.Confirms errands c) := inferInstanceAs (Decidable (_ ∧ _))

/-- A command is posted to its URL. -/
def post (errands : String → Errand) (sites : Sites) (c : Command) : Sites :=
  if (errands c.nodeURL).transport.arrives then
    Function.update sites c.nodeURL (c.serve (errands c.nodeURL).calls (sites c.nodeURL)).state
  else sites

/-- Commands are posted, each to its URL. -/
def postAll (errands : String → Errand) (sites : Sites) (commands : List Command) : Sites :=
  commands.foldl (post errands) sites

variable {errands : String → Errand} {sites : Sites} {c : Command} {url : String}

theorem post_of_ne (other : url ≠ c.nodeURL) : sites.post errands c url = sites url := by
  unfold post
  split
  · rw [Function.update_of_ne other]
  · rfl

theorem post_self (arrives : (errands c.nodeURL).transport.arrives = true) :
    sites.post errands c c.nodeURL = (c.serve (errands c.nodeURL).calls (sites c.nodeURL)).state := by
  rw [post, if_pos arrives, Function.update_self]

/-- What every command keeps of an engine, commands that are posted keep of every engine. -/
theorem keeps_postAll {P : Host → Prop}
    (served : ∀ {c : Command} {choices : Nat → CallChoice} {s : Monitor × Host},
      P s.2 → P (c.serve choices s).state.2)
    (holds : ∀ url, P (sites url).2) (commands : List Command) (url : String) :
    P (sites.postAll errands commands url).2 := by
  induction commands generalizing sites with
  | nil => exact holds url
  | cons c rest ih =>
      refine ih fun url => ?_
      by_cases here : url = c.nodeURL
      · subst here
        by_cases arrives : (errands c.nodeURL).transport.arrives = true
        · rw [post_self arrives]
          exact served (holds _)
        · rw [post, if_neg arrives]
          exact holds _
      · rw [post_of_ne here]
        exact holds url

theorem Attached.postAll (attached : sites.Attached) (commands : List Command) :
    (sites.postAll errands commands).Attached :=
  keeps_postAll (P := Host.Attached) Command.attached_serve attached commands

theorem postAll_of_notMem {commands : List Command} (other : url ∉ commands.map Command.nodeURL) :
    sites.postAll errands commands url = sites url := by
  induction commands generalizing sites with
  | nil => rfl
  | cons c rest ih =>
      rw [List.map_cons, List.mem_cons, not_or] at other
      exact (ih other.2).trans (post_of_ne other.1)

/-- **Commands to different URLs do not meet.** -/
theorem postAll_of_mem {commands : List Command} (distinct : (commands.map Command.nodeURL).Nodup)
    (mem : c ∈ commands) :
    sites.postAll errands commands c.nodeURL = sites.post errands c c.nodeURL := by
  induction commands generalizing sites with
  | nil => cases mem
  | cons d rest ih =>
      rw [List.map_cons, List.nodup_cons] at distinct
      rcases List.mem_cons.mp mem with rfl | later
      · exact postAll_of_notMem distinct.1
      · have other : c.nodeURL ≠ d.nodeURL := fun same =>
          distinct.1 (same ▸ List.mem_map_of_mem later)
        have same : sites.post errands d c.nodeURL = sites c.nodeURL := post_of_ne other
        have next : (sites.post errands d).postAll errands rest c.nodeURL =
            (sites.post errands d).post errands c c.nodeURL := ih distinct.2 later
        have alike : (sites.post errands d).post errands c c.nodeURL =
            sites.post errands c c.nodeURL := by
          unfold post at same ⊢
          split
          · rw [Function.update_self, Function.update_self]
            exact congrArg (fun s => (c.serve (errands c.nodeURL).calls s).state) same
          · exact same
        exact next.trans alike

/-- **What confirmed commands leave behind.** -/
theorem trains_of_confirms {commands : List Command}
    (distinct : (commands.map Command.nodeURL).Nodup) (mem : c ∈ commands)
    (attached : sites.Attached) (confirmed : sites.Confirms errands c) :
    Trains (Env.Assigns c.rank c.worldSize c.masterAddr c.masterPort)
      (sites.postAll errands commands c.nodeURL) := by
  have arrives : (errands c.nodeURL).transport.arrives = true := by
    rw [confirmed.1]
    rfl
  rw [postAll_of_mem distinct mem, post_self arrives]
  exact trains_of_accepted (attached _) confirmed.2

end Sites

end C4D
